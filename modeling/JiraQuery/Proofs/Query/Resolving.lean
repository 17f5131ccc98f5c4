import JiraQuery.Proofs.Cache.Finding
import JiraQuery.Proofs.Query.Likeness

/-!
# Fields by their names

A name stands for a field if the entries of the catalog that have it, in any case, have one id between
them. Which entries these are does not depend on their order, and neither does the one that an id finds,
if no two entries have the same. So the order of a catalog with distinct ids shows in nothing but the
ids that an ambiguous name is reported with. Main statement: `Catalog.resolves_by_ids`.
-/

namespace JiraQuery

/-! ## One lookup -/

namespace Catalog

variable {catalog catalog' : Catalog} {name : String}

/-- The entries with a name, ignoring case. -/
def called (catalog : Catalog) (name : String) : List CustomField :=
  catalog.filter (Text.sameName ·.name name)

/-- The ids of a name, each of them once, in the order of the catalog. -/
def idsCalled (catalog : Catalog) (name : String) : List String :=
  ((catalog.called name).map (·.id)).eraseDups

theorem map_id_named (catalog : Catalog) (name : String) :
    (catalog.named name).map (·.id) = catalog.idsCalled name :=
  Entity.ids_distinct (catalog.called name)

theorem head?_named (catalog : Catalog) (name : String) :
    (catalog.named name).head? = (catalog.called name).head? :=
  Entity.head?_distinct (catalog.called name)

theorem resolveName_of_none (h : catalog.idsCalled name = []) :
    catalog.resolveName name = .error (.unknownField name) := by
  have hnamed : catalog.named name = [] := List.map_eq_nil_iff.1 ((catalog.map_id_named name).trans h)
  simp [resolveName, hnamed]

theorem resolveName_of_one {i : String} (h : catalog.idsCalled name = [i]) :
    ∃ f, (catalog.called name).head? = some f ∧ catalog.resolveName name = .ok (.ofCustom f) := by
  obtain ⟨f, hnamed, -⟩ := List.map_eq_singleton_iff.1 ((catalog.map_id_named name).trans h)
  refine ⟨f, ?_, ?_⟩
  · rw [← head?_named, hnamed]
    rfl
  · simp [resolveName, hnamed]

theorem resolveName_of_several (h : 2 ≤ (catalog.idsCalled name).length) :
    catalog.resolveName name = .error (.ambiguousField name (catalog.idsCalled name)) := by
  rw [← map_id_named] at h ⊢
  unfold resolveName
  match hnamed : catalog.named name, h with
  | _ :: _ :: _, _ => rfl

theorem mem_idsCalled {i : String} :
    i ∈ catalog.idsCalled name ↔ ∃ f ∈ catalog.called name, f.id = i :=
  List.mem_eraseDups.trans List.mem_map

theorem nodup_idsCalled (catalog : Catalog) (name : String) : (catalog.idsCalled name).Nodup :=
  map_id_named catalog name ▸ Entity.nodup_ids_distinct (catalog.called name)

theorem two_le_length_idsCalled_iff :
    2 ≤ (catalog.idsCalled name).length ↔
      ∃ f ∈ catalog.called name, ∃ g ∈ catalog.called name, f.id ≠ g.id := by
  constructor
  · intro h
    obtain ⟨i, j, rest, hids⟩ : ∃ i j rest, catalog.idsCalled name = i :: j :: rest := by
      match catalog.idsCalled name, h with
      | i :: j :: rest, _ => exact ⟨i, j, rest, rfl⟩
    obtain ⟨f, hf, hfi⟩ := mem_idsCalled.1 (show i ∈ catalog.idsCalled name by simp [hids])
    obtain ⟨g, hg, hgj⟩ := mem_idsCalled.1 (show j ∈ catalog.idsCalled name by simp [hids])
    have hne : i ≠ j := fun h =>
      (List.nodup_cons.1 (hids ▸ catalog.nodup_idsCalled name)).1 (by simp [h])
    exact ⟨f, hf, g, hg, by rwa [hfi, hgj]⟩
  · rintro ⟨f, hf, g, hg, hne⟩
    have hsub : [f.id, g.id] ⊆ catalog.idsCalled name := by
      simpa using ⟨mem_idsCalled.2 ⟨f, hf, rfl⟩, mem_idsCalled.2 ⟨g, hg, rfl⟩⟩
    exact (List.subperm_of_subset (by simpa using hne) hsub).length_le

/-- A name is ambiguous if it is that of two fields, however often it is that of one. -/
theorem resolveName_ambiguous_iff :
    (∃ ids, catalog.resolveName name = .error (.ambiguousField name ids)) ↔
      ∃ f ∈ catalog.called name, ∃ g ∈ catalog.called name, f.id ≠ g.id := by
  rw [← two_le_length_idsCalled_iff]
  refine ⟨fun ⟨ids, h⟩ => ?_, fun h => ⟨_, resolveName_of_several h⟩⟩
  match hids : catalog.idsCalled name with
  | [] => simp [resolveName_of_none hids] at h
  | [i] =>
    obtain ⟨f, -, hf⟩ := resolveName_of_one hids
    simp [hf] at h
  | _ :: _ :: _ => simp

/-- If no two entries have the same id, a name is resolved by the entries that have it. -/
theorem resolveName_of_nodup (h : (catalog.map (·.id)).Nodup) (name : String) :
    catalog.resolveName name = match catalog.called name with
      | [] => .error (.unknownField name)
      | [f] => .ok (.ofCustom f)
      | fs => .error (.ambiguousField name (fs.map (·.id))) := by
  have hids : (Entity.ids (catalog.called name)).Nodup := h.sublist (List.filter_sublist.map _)
  have hnamed : catalog.named name = catalog.called name := Entity.distinct_of_nodup hids
  rw [← hnamed]
  rfl

/-- An entry is not seen if one before it has the id, and the name in any case. -/
theorem resolveName_append_cons {xs : Catalog} {f g : CustomField} (hg : g ∈ xs)
    (hid : g.id = f.id) (hname : Text.sameName g.name f.name) (ys : Catalog) (name : String) :
    resolveName (xs ++ f :: ys) name = resolveName (xs ++ ys) name := by
  have hnamed : named (xs ++ f :: ys) name = named (xs ++ ys) name := by
    unfold named
    rw [List.filter_append, List.filter_append, List.filter_cons]
    split
    · next hf =>
      -- the older entry has any name that the new one has, and its id
      have hgcalled : g ∈ xs.filter (Text.sameName ·.name name) :=
        List.mem_filter.2 ⟨hg, Text.sameName_trans hname hf⟩
      exact Entity.distinct_append_cons_of_mem (List.mem_map.2 ⟨g, hgcalled, hid⟩) _
    · rfl
  unfold resolveName
  rw [hnamed]

end Catalog

/-! ## Order -/

/-- Whether two errors are the same but for the order of the ids in them. -/
inductive TranslationError.Reorders : TranslationError → TranslationError → Prop
  | refl (error : TranslationError) : error.Reorders error
  | ids (name : String) {ids ids' : List String} (h : ids.Perm ids') :
      (ambiguousField name ids).Reorders (ambiguousField name ids')

/-- The same results, and the same errors but for the order of the ids in them. -/
def Likeness.reordering : Likeness where
  rel {α} x y :=
    (∀ a : α, x = .ok a → y = .ok a) ∧
      ∀ error, x = .error error → ∃ error', y = .error error' ∧ error.Reorders error'
  refl x := ⟨fun _ h => h, fun error h => ⟨error, h, .refl error⟩⟩
  bind {_ _ x y _ _} hxy hfg := by
    cases x with
    | error e =>
      obtain ⟨e', rfl, he⟩ := hxy.2 e rfl
      refine ⟨fun _ h => (by cases h), fun error h => ⟨e', rfl, ?_⟩⟩
      cases h
      exact he
    | ok a =>
      obtain rfl : y = .ok a := hxy.1 a rfl
      exact hfg a

/-- An id is written in one way. -/
theorem eq_of_customFieldNumber? {id number : String} (h : customFieldNumber? id = some number) :
    id = "customfield_" ++ number := by
  obtain ⟨ds, hds, hnumber⟩ := Option.bind_eq_some_iff.1 h
  have hid : "customfield_".toList ++ ds = id.toList := List.isPrefixOf?_eq_some_iff_append_eq.1 hds
  split at hnumber
  · obtain rfl : String.ofList ds = number := by simpa using hnumber
    rw [← String.toList_inj, ← hid, String.toList_append]
    exact congrArg _ String.toList_ofList.symm
  · simp at hnumber

namespace Catalog

variable {catalog catalog' : Catalog}

/-- A name has the same ids in any order of the catalog. -/
theorem idsCalled_perm (h : catalog.Perm catalog') (name : String) :
    (catalog.idsCalled name).Perm (catalog'.idsCalled name) := by
  have hcalled : (catalog.called name).Perm (catalog'.called name) := h.filter _
  refine (List.perm_ext_iff_of_nodup (nodup_idsCalled _ _) (nodup_idsCalled _ _)).2 fun i => ?_
  simp only [mem_idsCalled, hcalled.mem_iff]

variable (hnodup : (catalog.map (·.id)).Nodup) (hperm : catalog.Perm catalog')
include hnodup hperm

theorem numbered?_perm (number : String) : catalog.numbered? number = catalog'.numbered? number := by
  refine Entity.find?_perm hperm fun f hf g hg hfn hgn => ?_
  have hid : f.id = g.id :=
    (eq_of_customFieldNumber? (of_decide_eq_true hfn)).trans
      (eq_of_customFieldNumber? (of_decide_eq_true hgn)).symm
  exact List.inj_on_of_nodup_map hnodup hf hg hid

theorem resolveName_perm (name : String) :
    Likeness.reordering.rel (catalog.resolveName name) (catalog'.resolveName name) := by
  have hids := idsCalled_perm hperm name
  match h : catalog.idsCalled name with
  | [] =>
    rw [h] at hids
    rw [resolveName_of_none h, resolveName_of_none hids.nil_eq.symm]
    exact Likeness.reordering.refl _
  | [i] =>
    have h' : catalog'.idsCalled name = [i] := List.perm_singleton.1 (h ▸ hids).symm
    obtain ⟨f, hf, hresolve⟩ := resolveName_of_one h
    obtain ⟨f', hf', hresolve'⟩ := resolveName_of_one h'
    have hmem : f ∈ catalog.called name := List.mem_of_head? hf
    have hmem' : f' ∈ catalog'.called name := List.mem_of_head? hf'
    have hid : f.id = i := List.mem_singleton.1 (h ▸ mem_idsCalled.2 ⟨f, hmem, rfl⟩)
    have hid' : f'.id = i := List.mem_singleton.1 (h' ▸ mem_idsCalled.2 ⟨f', hmem', rfl⟩)
    -- no other field has the id, so that the first entry with the name is the same in both orders
    obtain rfl : f = f' :=
      List.inj_on_of_nodup_map hnodup (List.mem_filter.1 hmem).1
        (hperm.mem_iff.2 (List.mem_filter.1 hmem').1) (hid.trans hid'.symm)
    rw [hresolve, hresolve']
    exact Likeness.reordering.refl _
  | _ :: _ :: _ =>
    have hseveral : 2 ≤ (catalog.idsCalled name).length := by simp [h]
    rw [resolveName_of_several hseveral, resolveName_of_several (hids.length_eq ▸ hseveral)]
    refine ⟨fun _ h => (by cases h), fun error h => ⟨_, rfl, ?_⟩⟩
    cases h
    exact .ids name hids

/-- Two catalogs of the same fields resolve each field alike, if no two of the fields have the same id. -/
theorem resolves_perm (field : Field) : Likeness.reordering.Resolves catalog catalog' field := by
  cases field with
  | system f => exact Likeness.reordering.refl _
  | custom name => exact resolveName_perm hnodup hperm name
  | customId id =>
    show Likeness.reordering.rel (catalog.resolveId id) (catalog'.resolveId id)
    unfold resolveId
    simp only [numbered?_perm hnodup hperm]
    exact Likeness.reordering.refl _

end Catalog

/-! ## Every name, every order -/

namespace Catalog

/-- A name is resolved by the ids that the entries with this name have, in any case. No id: the field
is unknown. One: it is the first of these entries. More: the name is ambiguous, and each of the ids is
listed once, in the order of the catalog. An entry that comes again is of no effect, and no more than one
field is ever meant. Therefore, if the ids of a catalog are distinct, the catalog gives the same
translation in any order, or an error that is the same but for the order of the ids in it. -/
theorem resolves_by_ids (catalog : Catalog) :
    (∀ name,
      (catalog.idsCalled name = [] → catalog.resolve (.custom name) = .error (.unknownField name)) ∧
      (∀ i, catalog.idsCalled name = [i] → ∃ f, (catalog.called name).head? = some f ∧
        catalog.resolve (.custom name) = .ok (.ofCustom f)) ∧
      (2 ≤ (catalog.idsCalled name).length →
        catalog.resolve (.custom name) = .error (.ambiguousField name (catalog.idsCalled name))) ∧
      ((∃ ids, catalog.resolve (.custom name) = .error (.ambiguousField name ids)) ↔
        ∃ f ∈ catalog.called name, ∃ g ∈ catalog.called name, f.id ≠ g.id)) ∧
    (∀ before after f g, catalog = before ++ after → g ∈ before → g.id = f.id →
      Text.sameName g.name f.name → ∀ name,
        resolve (before ++ f :: after) (.custom name) = catalog.resolve (.custom name)) ∧
    ((catalog.map (·.id)).Nodup → ∀ catalog', catalog.Perm catalog' → ∀ serverMax ops,
      (∀ t, translate catalog serverMax ops = .ok t → translate catalog' serverMax ops = .ok t) ∧
      (∀ error, translate catalog serverMax ops = .error error →
        ∃ error', translate catalog' serverMax ops = .error error' ∧ error.Reorders error')) := by
  refine ⟨fun name => ⟨resolveName_of_none, fun i => resolveName_of_one, resolveName_of_several,
    resolveName_ambiguous_iff⟩, ?_, ?_⟩
  · rintro before after f g rfl hg hid hname name
    exact resolveName_append_cons hg hid hname after name
  · intro hnodup catalog' hperm serverMax ops
    exact Likeness.reordering.translate serverMax fun _ _ field _ => resolves_perm hnodup hperm field

/-- Two fields of one name, and one that has its name for itself. -/
def squads : Catalog := [
  { id := "customfield_1", name := "Team" },
  { id := "customfield_2", name := "Squad" },
  { id := "customfield_3", name := "squad" }]

def teamQuery : List Operator := [
  .filter (.eq (.custom "TEAM") (.text "A")), .orderBy (.customId "customfield_2") .ascending]

def squadQuery : List Operator := [.filter (.isEmpty (.custom "SQUAD"))]

theorem resolves_by_ids_squads :
    squads.resolve (.custom "Pets") = .error (.unknownField "Pets") ∧
    (∃ f, (squads.called "TEAM").head? = some f ∧ squads.resolve (.custom "TEAM") = .ok (.ofCustom f)) ∧
    squads.resolve (.custom "SQUAD") =
      .error (.ambiguousField "SQUAD" ["customfield_2", "customfield_3"]) ∧
    resolve (squads ++ [{ id := "customfield_1", name := "team" }]) (.custom "TEAM") =
      squads.resolve (.custom "TEAM") ∧
    (squads.map (·.id)).Nodup ∧ squads.Perm squads.reverse ∧
    (∃ t, translate squads 100 teamQuery = .ok t ∧ translate squads.reverse 100 teamQuery = .ok t ∧
      t.jql = "cf[1] = \"A\" ORDER BY cf[2] ASC") ∧
    ∃ error, translate squads.reverse 100 squadQuery = .error error ∧
      TranslationError.Reorders (.ambiguousField "SQUAD" ["customfield_2", "customfield_3"]) error := by
  have hnodup : (squads.map (·.id)).Nodup := by decide
  have hreverse : squads.Perm squads.reverse := (List.reverse_perm squads).symm
  obtain ⟨hnames, hagain, horder⟩ := resolves_by_ids squads
  obtain ⟨hresult, -⟩ := horder hnodup _ hreverse 100 teamQuery
  obtain ⟨-, herror⟩ := horder hnodup _ hreverse 100 squadQuery
  exact ⟨(hnames "Pets").1 (by decide), (hnames "TEAM").2.1 "customfield_1" (by decide),
    (hnames "SQUAD").2.2.1 (by decide),
    hagain squads [] { id := "customfield_1", name := "team" }
      { id := "customfield_1", name := "Team" } rfl (by decide) rfl (by decide) "TEAM",
    hnodup, hreverse, ⟨_, by rfl, hresult _ rfl, by decide⟩, herror _ rfl⟩

end Catalog

end JiraQuery
