import JiraQuery.Metadata.CreateMeta
import JiraQuery.Proofs.Cache.Growth
import JiraQuery.Proofs.Metadata.Documents

/-!
# The fields that a project offers

The server lists the fields for new issues by issue type, and one field may be listed by several of them.
A project offers each custom field once, as the first of its issue types has it, in the order of the issue
types and of the ids. Main statement: `CreateMeta.offers_of_ofJson?`, about the document of a project.
-/

namespace JiraQuery

/-! ## Values that are read one by one -/

theorem forall₂_of_mapM {α β : Type} {f : α → Option β} {xs : List α} {ys : List β}
    (h : xs.mapM f = some ys) : List.Forall₂ (fun x y => f x = some y) xs ys := by
  induction xs generalizing ys with
  | nil =>
    obtain rfl := Option.some.inj h
    exact .nil
  | cons x xs ih =>
    rw [List.mapM_cons] at h
    obtain ⟨y, hy, h⟩ := Option.bind_eq_some_iff.1 h
    obtain ⟨zs, hzs, h⟩ := Option.bind_eq_some_iff.1 h
    obtain rfl := Option.some.inj h
    exact .cons hy (ih hzs)

/-- By induction on the members that are still to come, with those set so far general. -/
theorem Members.get?_foldl_insert_forall₂ {α β : Type} {read? : α → Option β} {ms : List (String × α)}
    {ns : List (String × β)} (h : List.Forall₂ (fun m n => (read? m.2).map (m.1, ·) = some n) ms ns)
    {xs : Members α} {ys : Members β} (hsame : ∀ k, get? ys k = (get? xs k).bind read?) (k : String) :
    get? (ns.foldl (fun acc n => insert n.1 n.2 acc) ys) k =
      (get? (ms.foldl (fun acc m => insert m.1 m.2 acc) xs) k).bind read? := by
  induction h generalizing xs ys with
  | nil => exact hsame k
  | cons hm _ ih =>
    obtain ⟨y, hy, rfl⟩ := Option.map_eq_some_iff.1 hm
    refine ih fun k => ?_
    rw [get?_insert, get?_insert, hsame]
    split
    · exact hy.symm
    · rfl

/-- Members that are read and then brought into order have the values that are read in order. -/
theorem Members.get?_ofList_mapM {α β : Type} {read? : α → Option β} {ms : List (String × α)}
    {ns : List (String × β)} (h : (ms.mapM fun m => (read? m.2).map (m.1, ·)) = some ns) (name : String) :
    get? (ofList ns) name = (get? (ofList ms) name).bind read? :=
  get?_foldl_insert_forall₂ (forall₂_of_mapM h) (fun _ => rfl) name

/-! ## Entities that are added -/

namespace Entity

variable {α : Type} [Entity α] {xs ys : List α} {x : α} {i : String}

theorem isSome_find?_iff : (xs.find? (id · == i)).isSome ↔ i ∈ ids xs := by
  rw [List.find?_isSome, ids, List.mem_map]
  exact exists_congr fun x => and_congr_right fun _ => beq_iff_eq

theorem find?_distinct (xs : List α) (i : String) :
    (distinct xs).find? (id · == i) = xs.find? (id · == i) := by
  rw [distinct, find?_addAllNew, List.nil_append]

theorem mem_ids_distinct_iff : i ∈ ids (distinct xs) ↔ i ∈ ids xs := by
  rw [ids_distinct, List.mem_eraseDups]

/-- An entity that was left is the first one of its id. -/
theorem find?_of_mem_distinct (h : x ∈ distinct xs) : xs.find? (id · == id x) = some x := by
  rw [← find?_distinct]
  have hfound : ((distinct xs).find? (id · == id x)).isSome := isSome_find?_iff.2 (List.mem_map_of_mem h)
  obtain ⟨y, hy⟩ := Option.isSome_iff_exists.1 hfound
  have hid : id y = id x := by simpa using List.find?_some hy
  rw [hy, List.inj_on_of_nodup_map (nodup_ids_distinct xs) (List.mem_of_find?_eq_some hy) h hid]

/-- Entities of distinct ids are appended in their order, without those whose ids are there. -/
theorem addAllNew_of_nodup (xs : List α) (h : (ids ys).Nodup) :
    addAllNew xs ys = xs ++ ys.filter fun y => !holds xs (id y) := by
  induction ys generalizing xs with
  | nil => exact (List.append_nil xs).symm
  | cons y ys ih =>
    obtain ⟨hy, hys⟩ := List.nodup_cons.1 h
    have hcons : addAllNew xs (y :: ys) = addAllNew (addNew xs y) ys := rfl
    rw [hcons, ih _ hys, List.filter_cons]
    by_cases hold : holds xs (id y)
    · have hsame : addNew xs y = xs := if_pos hold
      rw [hsame, hold]
      rfl
    · have hadd : addNew xs y = xs ++ [y] := if_neg hold
      have hrest : ∀ z ∈ ys, holds (xs ++ [y]) (id z) = holds xs (id z) := by
        intro z hz
        have hne : (id y == id z) = false := beq_false_of_ne fun heq => hy (heq ▸ List.mem_map_of_mem hz)
        simp [holds, hne]
      rw [hadd, if_pos (by simpa using hold), List.append_assoc, List.singleton_append,
        List.filter_congr fun z hz => congrArg Bool.not (hrest z hz)]

theorem distinct_append (xs : List α) (h : (ids ys).Nodup) :
    distinct (xs ++ ys) = distinct xs ++ ys.filter fun y => !holds (distinct xs) (id y) :=
  (addAllNew_append [] xs ys).trans (addAllNew_of_nodup _ h)

end Entity

open Entity (distinct ids)

namespace CreateMeta

/-! ## What is offered -/

/-- The fields of an issue type, by their ids. -/
abbrev Table := String → Option Field

/-- The place of the first issue type that has a field. -/
def firstOf (tables : List Table) (i : String) : ℕ :=
  tables.findIdx fun t => (t i).isSome

/-- Ordered by the first issue type that has the field, and by the ids of its fields. -/
def Precedes (tables : List Table) (f g : CustomField) : Prop :=
  firstOf tables f.id < firstOf tables g.id ∨ firstOf tables f.id = firstOf tables g.id ∧ f.id < g.id

/-- The custom fields that issue types offer together. -/
structure Offers (tables : List Table) (fields : List CustomField) : Prop where
  nodup : (fields.map (·.id)).Nodup
  /-- The custom fields are those that some issue type has, with ids that begin alike in any case. -/
  mem_iff : ∀ i, i ∈ fields.map (·.id) ↔
    (∃ front rest : String, i = front ++ rest ∧ front.toList.map Char.toLower = "customfield_".toList) ∧
      ∃ t ∈ tables, (t i).isSome
  /-- A field is as the first issue type has it. -/
  first : ∀ f ∈ fields, f.custom = true ∧
    tables.findSome? (· f.id) = some { name := f.name, schema := f.schema }
  ordered : fields.Pairwise (Precedes tables)

variable {t : IssueType} {types : List IssueType} {tables : List Table} {i : String}

theorem not_precedes_of_precedes {f g : CustomField} (h : Precedes tables f g) : ¬Precedes tables g f := by
  rintro (hlt | ⟨heq, hlt⟩)
  · rcases h with h | ⟨h, -⟩
    · exact absurd h (Nat.lt_asymm hlt)
    · exact absurd h (Nat.ne_of_gt hlt)
  · rcases h with h | ⟨-, h⟩
    · exact absurd heq (Nat.ne_of_gt h)
    · exact absurd h (lt_asymm hlt)

/-- Issue types offer one list of fields. -/
theorem Offers.unique {fs gs : List CustomField} (hf : Offers tables fs) (hg : Offers tables gs) : fs = gs := by
  have hmem : ∀ {fs gs : List CustomField}, Offers tables fs → Offers tables gs → ∀ f ∈ fs, f ∈ gs := by
    intro fs gs hf hg f hmem
    have hid : f.id ∈ gs.map (·.id) := (hg.mem_iff f.id).2 ((hf.mem_iff f.id).1 (List.mem_map_of_mem hmem))
    obtain ⟨g, hgs, hid⟩ := List.mem_map.1 hid
    obtain ⟨hfcustom, hffirst⟩ := hf.first f hmem
    obtain ⟨hgcustom, hgfirst⟩ := hg.first g hgs
    rw [hid, hffirst] at hgfirst
    obtain ⟨hname, hschema⟩ := Field.mk.inj (Option.some.inj hgfirst)
    have hsame : g = f := by
      cases f
      cases g
      simp_all
    exact hsame ▸ hgs
  refine List.Perm.eq_of_pairwise (fun f g _ _ h h' => absurd h' (not_precedes_of_precedes h)) hf.ordered hg.ordered ?_
  exact (List.perm_ext_iff_of_nodup (.of_map _ hf.nodup) (.of_map _ hg.nodup)).2 fun f =>
    ⟨hmem hf hg f, hmem hg hf f⟩

/-- An id of a custom field begins like all of them, in any case. -/
theorem isCustomId_iff : isCustomId i = true ↔
    ∃ front rest : String, i = front ++ rest ∧ front.toList.map Char.toLower = "customfield_".toList := by
  rw [isCustomId, List.isPrefixOf_iff_prefix]
  constructor
  · rintro ⟨rest, hrest⟩
    obtain ⟨s, t, hsplit, hfront, -⟩ := List.map_eq_append_iff.1 hrest.symm
    refine ⟨String.ofList s, String.ofList t, ?_, by rwa [String.toList_ofList]⟩
    rw [← String.ofList_append, ← hsplit, String.ofList_toList]
  · rintro ⟨front, rest, rfl, hfront⟩
    rw [String.toList_append, List.map_append, hfront]
    exact List.prefix_append _ _

/-- The fields of issue types, one table for each. -/
def tablesOf (types : List IssueType) : List Table :=
  types.map (·.fields.get?)

@[simp] theorem Field.id_toCustomField (i : String) (f : Field) : Entity.id (f.toCustomField i) = i := rfl

/-- A custom field of an issue type is found by its id. -/
theorem find?_customFields (t : IssueType) (i : String) :
    t.customFields.find? (Entity.id · == i) =
      if isCustomId i then (t.fields.get? i).map (Field.toCustomField i) else none := by
  unfold IssueType.customFields
  induction t.fields with
  | nil => exact (ite_self none).symm
  | cons m ms ih =>
    rw [Members.get?_cons, List.filter_cons]
    by_cases hm : i = m.1
    · subst hm
      cases hcustom : isCustomId m.1 with
      | true => simp
      | false =>
        rw [hcustom] at ih
        simpa using ih
    · rw [if_neg hm]
      cases isCustomId m.1 with
      | true =>
        rw [if_pos rfl, List.map_cons, List.find?_cons_of_neg (by simpa using Ne.symm hm)]
        exact ih
      | false => exact ih

theorem mem_ids_customFields_iff :
    i ∈ ids t.customFields ↔ isCustomId i = true ∧ (t.fields.get? i).isSome := by
  rw [← Entity.isSome_find?_iff, find?_customFields]
  cases isCustomId i <;> simp

/-- Of the fields of all issue types, an id finds the first one. -/
theorem find?_flatMap_customFields (types : List IssueType) (i : String) :
    (types.flatMap (·.customFields)).find? (Entity.id · == i) =
      if isCustomId i then ((tablesOf types).findSome? (· i)).map (Field.toCustomField i) else none := by
  rw [List.find?_flatMap]
  simp only [find?_customFields]
  cases isCustomId i with
  | true =>
    rw [if_pos rfl, tablesOf, List.findSome?_map, List.map_findSome?]
    rfl
  | false => simp

theorem mem_ids_flatMap_iff :
    i ∈ ids (types.flatMap (·.customFields)) ↔
      isCustomId i = true ∧ ∃ t ∈ tablesOf types, (t i).isSome := by
  rw [← Entity.isSome_find?_iff, find?_flatMap_customFields, ← List.findSome?_isSome_iff]
  cases isCustomId i <;> simp

/-! ## The order of the fields -/

theorem firstOf_append_of_mem (h : ∃ t ∈ tables, (t i).isSome) (table : Table) :
    firstOf (tables ++ [table]) i = firstOf tables i := by
  unfold firstOf
  rw [List.findIdx_append, if_pos (List.findIdx_lt_length_of_exists h)]

theorem firstOf_append_of_new (h : ¬∃ t ∈ tables, (t i).isSome) {table : Table} (hi : (table i).isSome) :
    firstOf (tables ++ [table]) i = tables.length := by
  have hnone : ¬tables.findIdx (fun t => (t i).isSome) < tables.length := by
    rw [List.findIdx_lt_length]
    exact h
  unfold firstOf
  rw [List.findIdx_append, if_neg hnone, List.findIdx_cons, hi]
  simp

theorem firstOf_lt (h : ∃ t ∈ tables, (t i).isSome) : firstOf tables i < tables.length :=
  List.findIdx_lt_length_of_exists h

/-- The fields of one issue type are in the order of their ids. -/
theorem pairwise_customFields (hsorted : Members.Sorted t.fields) :
    t.customFields.Pairwise (·.id < ·.id) :=
  List.pairwise_map.2 (hsorted.filter (isCustomId ·.1))

theorem nodup_ids_customFields (hsorted : Members.Sorted t.fields) : (ids t.customFields).Nodup :=
  List.pairwise_map.2 ((pairwise_customFields hsorted).imp fun hlt => ne_of_lt hlt)

/-- By induction on the issue types from the last one, which adds its new fields behind all others. -/
theorem pairwise_distinct (hsorted : ∀ t ∈ types, Members.Sorted t.fields) :
    (distinct (types.flatMap (·.customFields))).Pairwise (Precedes (tablesOf types)) := by
  induction types using List.reverseRecOn with
  | nil => exact .nil
  | append_singleton types t ih =>
    have ht : Members.Sorted t.fields := hsorted t (List.mem_append_right types (List.mem_singleton_self t))
    have htables : tablesOf (types ++ [t]) = tablesOf types ++ [t.fields.get?] := List.map_append
    have hold : ∀ f ∈ distinct (types.flatMap (·.customFields)),
        ∃ u ∈ tablesOf types, (u f.id).isSome := by
      intro f hf
      have hmem := List.mem_map_of_mem (f := CustomField.id) hf
      exact (mem_ids_flatMap_iff.1 (Entity.mem_ids_distinct_iff.1 hmem)).2
    have hnew : ∀ f ∈ t.customFields.filter fun f =>
        !Entity.holds (distinct (types.flatMap (·.customFields))) (Entity.id f),
        firstOf (tablesOf types ++ [t.fields.get?]) f.id = (tablesOf types).length := by
      intro f hf
      obtain ⟨hmem, hnone⟩ := List.mem_filter.1 hf
      obtain ⟨hcustom, hhas⟩ := mem_ids_customFields_iff.1 (List.mem_map_of_mem hmem)
      refine firstOf_append_of_new (fun hsome => ?_) hhas
      have hids := Entity.mem_ids_distinct_iff.2 (mem_ids_flatMap_iff.2 ⟨hcustom, hsome⟩)
      rw [Entity.holds_iff.2 hids] at hnone
      cases hnone
    rw [List.flatMap_append, List.flatMap_singleton, Entity.distinct_append _ (nodup_ids_customFields ht),
      htables]
    refine List.pairwise_append.2 ⟨?_, ?_, ?_⟩
    · refine (ih fun u hu => hsorted u (List.mem_append_left [t] hu)).imp_of_mem fun hf hg h => ?_
      rwa [Precedes, firstOf_append_of_mem (hold _ hf), firstOf_append_of_mem (hold _ hg)]
    · refine ((pairwise_customFields ht).filter _).imp_of_mem fun hf hg h => ?_
      exact .inr ⟨(hnew _ hf).trans (hnew _ hg).symm, h⟩
    · intro f hf g hg
      rw [Precedes, firstOf_append_of_mem (hold f hf), hnew g hg]
      exact .inl (firstOf_lt (hold f hf))

theorem offers_customFields (p : Project) (hsorted : ∀ t ∈ p.issueTypes, Members.Sorted t.fields) :
    Offers (tablesOf p.issueTypes) p.customFields where
  nodup := Entity.nodup_ids_distinct _
  mem_iff _ := (Entity.mem_ids_distinct_iff.trans mem_ids_flatMap_iff).trans (and_congr_left' isCustomId_iff)
  first f hf := by
    have hfirst := Entity.find?_of_mem_distinct hf
    rw [find?_flatMap_customFields] at hfirst
    split at hfirst
    · obtain ⟨field, hfield, heq⟩ := Option.map_eq_some_iff.1 hfirst
      have hname : field.name = f.name := congrArg CustomField.name heq
      have hschema : field.schema = f.schema := congrArg CustomField.schema heq
      refine ⟨(congrArg CustomField.custom heq).symm, ?_⟩
      rw [← hname, ← hschema]
      exact hfield
    · cases hfirst
  ordered := pairwise_distinct hsorted

/-! ## What a document says -/

/-- What a document lists under a name, or at a position. -/
def itemsIn (position : ℕ) (name : String) (j : Json) : List Json :=
  (((Record.ofJson? j).bind (·.find? position name)).bind Json.items?).getD []

/-- The projects in a document. -/
def projectsIn : Json → List Json :=
  itemsIn 0 "projects"

/-- The issue types in the document of a project. -/
def issueTypesIn : Json → List Json :=
  itemsIn 1 "issuetypes"

/-- The fields in the document of an issue type; of a repeated id the last one counts. -/
def fieldIn? (t : Json) : Table := fun i =>
  ((Members.ofList ((((Record.ofJson? t).bind (·.find? 2 "fields")).bind Json.members?).getD [])).get? i).bind
    Field.ofJson?

/-- The fields in the document of a project, one table for each of its issue types. -/
def tablesIn (d : Json) : List Table :=
  (issueTypesIn d).map fieldIn?

/-- The items that are read from a list of a document. -/
theorem forall₂_itemsIn {α : Type} {read? : Json → Option α} {arity position : ℕ} {name : String}
    {j : Json} {r : Record} {xs : List α} (hr : Record.ofJsonWithin? arity j = some r)
    (h : ((r.find? position name).elim (some []) fun j => do (← j.items?).mapM read?) = some xs) :
    List.Forall₂ (fun d x => read? d = some x) (itemsIn position name j) xs := by
  unfold itemsIn
  rw [Record.ofJson?_of_within hr, Option.bind_some]
  cases hfind : r.find? position name with
  | none =>
    rw [hfind] at h
    obtain rfl := Option.some.inj h
    exact .nil
  | some value =>
    rw [hfind] at h
    obtain ⟨items, hitems, h⟩ := Option.bind_eq_some_iff.1 h
    rw [Option.bind_some, hitems]
    exact forall₂_of_mapM h

theorem fieldIn?_eq {d : Json} {t : IssueType} (h : IssueType.ofJson? d = some t) :
    fieldIn? d = t.fields.get? ∧ Members.Sorted t.fields := by
  obtain ⟨r, hr, h⟩ := Option.bind_eq_some_iff.1 h
  iterate 2 obtain ⟨_, -, h⟩ := Option.bind_eq_some_iff.1 h
  obtain ⟨fields, hfields, h⟩ := Option.bind_eq_some_iff.1 h
  obtain rfl := Option.some.inj h
  unfold fieldIn?
  rw [Record.ofJson?_of_within hr, Option.bind_some]
  cases hfind : r.find? 2 "fields" with
  | none =>
    rw [hfind] at hfields
    obtain rfl := Option.some.inj hfields
    exact ⟨rfl, .nil⟩
  | some value =>
    rw [hfind] at hfields
    obtain ⟨ms, hms, hfields⟩ := Option.bind_eq_some_iff.1 hfields
    obtain ⟨ns, hns, hfields⟩ := Option.bind_eq_some_iff.1 hfields
    obtain rfl := Option.some.inj hfields
    rw [Option.bind_some, hms]
    exact ⟨funext fun i => (Members.get?_ofList_mapM hns i).symm, Members.sorted_ofList ns⟩

theorem map_fieldIn?_eq {docs : List Json}
    (h : List.Forall₂ (fun d t => IssueType.ofJson? d = some t) docs types) :
    docs.map fieldIn? = tablesOf types ∧ ∀ t ∈ types, Members.Sorted t.fields := by
  induction h with
  | nil => exact ⟨rfl, List.forall_mem_nil _⟩
  | cons ht _ ih =>
    obtain ⟨htable, hsorted⟩ := fieldIn?_eq ht
    exact ⟨congrArg₂ List.cons htable ih.1, List.forall_mem_cons.2 ⟨hsorted, ih.2⟩⟩

/-- The custom fields of a project are those that its document offers. -/
theorem offers_of_ofJson? {d : Json} {p : Project} (h : Project.ofJson? d = some p) :
    Offers (tablesIn d) p.customFields := by
  obtain ⟨r, hr, h⟩ := Option.bind_eq_some_iff.1 h
  obtain ⟨key, -, h⟩ := Option.bind_eq_some_iff.1 h
  obtain ⟨types, htypes, h⟩ := Option.bind_eq_some_iff.1 h
  obtain rfl := Option.some.inj h
  obtain ⟨htables, hsorted⟩ := map_fieldIn?_eq (forall₂_itemsIn hr htypes)
  have htablesIn : tablesIn d = tablesOf types := htables
  rw [htablesIn]
  exact offers_customFields ⟨key, types⟩ hsorted

/-- The projects of a document that was read. -/
theorem forall₂_projectsIn {j : Json} {info : CreateMeta} (h : ofJson? j = some info) :
    List.Forall₂ (fun d p => Project.ofJson? d = some p) (projectsIn j) info.projects := by
  obtain ⟨r, hr, h⟩ := Option.bind_eq_some_iff.1 h
  obtain ⟨projects, hprojects, h⟩ := Option.bind_eq_some_iff.1 h
  obtain rfl := Option.some.inj h
  exact forall₂_itemsIn hr hprojects

end CreateMeta

end JiraQuery
