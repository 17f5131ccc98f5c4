import JiraQuery.Proofs.Cache.Growth

/-!
# Finding entities

What is found in a store by an id or a name, what is found once an entity has been added to it, and
what is found in a store that has part of a list (`Store.DrawnFrom`).
-/

namespace JiraQuery

namespace Store

variable {α : Type} [Entity α] {s : Store α} {x : α} {key : String}

theorem getById?_eq_none_iff : s.getById? key = none ↔ key ∉ s.ids := by
  simp [getById?, ids, Entity.ids]

theorem getById?_of_some (h : s.getById? key = some x) : x ∈ s.entries ∧ Entity.id x = key := by
  refine ⟨List.mem_of_find?_eq_some h, ?_⟩
  simpa using List.find?_some h

theorem getByIdOrName?_eq_none_iff :
    s.getByIdOrName? key = none ↔
      key ∉ s.ids ∧ ∀ x ∈ s.entries, Text.sameName (Entity.name x) key = false := by
  unfold getByIdOrName?
  rw [Option.or_eq_none_iff, getById?_eq_none_iff]
  simp [findByName]

/-- A name counts if it is no id. -/
theorem getByIdOrName?_of_some (h : s.getByIdOrName? key = some x) :
    x ∈ s.entries ∧
      (Entity.id x = key ∨ key ∉ s.ids ∧ Text.sameName (Entity.name x) key = true) := by
  unfold getByIdOrName? at h
  rcases Option.or_eq_some_iff.1 h with h | ⟨hnone, h⟩
  · obtain ⟨hx, hid⟩ := getById?_of_some h
    exact ⟨hx, .inl hid⟩
  · obtain ⟨hx, hname⟩ := List.mem_filter.1 (List.mem_of_head? h)
    exact ⟨hx, .inr ⟨getById?_eq_none_iff.1 hnone, hname⟩⟩

theorem getById?_tryAdd_of_new (h : Entity.id x ∉ s.ids) :
    (s.tryAdd x).2.getById? (Entity.id x) = some x := by
  have hnone : s.entries.find? (Entity.id · == Entity.id x) = none := getById?_eq_none_iff.2 h
  show (Entity.addNew s.entries x).find? (Entity.id · == Entity.id x) = some x
  rw [Entity.addNew_of_new h, List.find?_append, hnone]
  simp

/-- A new entity is found by its id and by its name, if nothing was found before. -/
theorem getByIdOrName?_tryAdd_of_new (hnew : Entity.id x ∉ s.ids) (hnone : s.getByIdOrName? key = none)
    (hkey : Entity.id x = key ∨ Text.sameName (Entity.name x) key = true) :
    (s.tryAdd x).2.getByIdOrName? key = some x := by
  rcases Decidable.em (Entity.id x = key) with rfl | hid
  · unfold getByIdOrName?
    rw [getById?_tryAdd_of_new hnew]
    rfl
  · obtain ⟨hids, hnames⟩ := getByIdOrName?_eq_none_iff.1 hnone
    have hname : Text.sameName (Entity.name x) key = true := hkey.resolve_left hid
    have hentries : (s.tryAdd x).2.entries = s.entries ++ [x] := Entity.addNew_of_new hnew
    have hnoid : (s.tryAdd x).2.getById? key = none := by
      rw [getById?_eq_none_iff, ids, hentries]
      simpa [ids, Entity.ids, Ne.symm hid] using hids
    have hold : s.entries.filter (fun y => Text.sameName (Entity.name y) key) = [] := by
      simpa using hnames
    unfold getByIdOrName? findByName
    rw [hnoid, hentries, List.filter_append, hold]
    simp [hname]

end Store

/-! ## Lists and parts of them -/

namespace Entity

variable {α : Type} [Entity α] {xs : List α} {x y : α} {key : String}

/-- The entity of a list with an id, or else the first one with that name. -/
def lookup? (xs : List α) (key : String) : Option α :=
  (xs.find? (id · == key)).or (xs.find? fun x => Text.sameName (name x) key)

theorem lookup?_eq (xs : List α) (key : String) :
    lookup? xs key = ({ entries := xs } : Store α).getByIdOrName? key := by
  simp [lookup?, Store.getByIdOrName?, Store.getById?, Store.findByName]

theorem mem_of_lookup? (h : lookup? xs key = some x) : x ∈ xs := by
  rw [lookup?_eq] at h
  exact (Store.getByIdOrName?_of_some h).1

/-- A list whose entities can be told apart by their ids, and by their names in any case. -/
structure Distinct (xs : List α) : Prop where
  ids : (ids xs).Nodup
  names : xs.Pairwise fun x y => Text.sameName (name x) (name y) = false

/-- An entity that has this id is the only one that has it for a name, if any has. -/
def Clear (xs : List α) (key : String) : Prop :=
  ∀ x ∈ xs, ∀ y ∈ xs, id x = key → Text.sameName (name y) key = true → x = y

theorem Distinct.eq_of_id (h : Distinct xs) (hx : x ∈ xs) (hy : y ∈ xs) (hid : id x = id y) : x = y :=
  List.inj_on_of_nodup_map h.ids hx hy hid

theorem Distinct.eq_of_name (h : Distinct xs) (hx : x ∈ xs) (hy : y ∈ xs)
    (hname : Text.sameName (name x) (name y) = true) : x = y := by
  have hsymm : Std.Symm fun x y : α => Text.sameName (name x) (name y) = false :=
    ⟨fun _ _ hab => Text.sameName_comm _ _ ▸ hab⟩
  by_contra hne
  exact Bool.false_ne_true ((h.names.forall hx hy hne).symm.trans hname)

omit [Entity α] in
theorem find?_of_unique {p : α → Bool} (hx : x ∈ xs) (hp : p x = true)
    (hunique : ∀ y ∈ xs, p y = true → y = x) : xs.find? p = some x := by
  cases hfind : xs.find? p with
  | none => exact absurd hp (List.find?_eq_none.1 hfind x hx)
  | some y => rw [hunique y (List.mem_of_find?_eq_some hfind) (List.find?_some hfind)]

omit [Entity α] in
/-- If one entity at most is looked for, its place does not matter. -/
theorem find?_perm {ys : List α} {p : α → Bool} (hperm : xs.Perm ys)
    (hunique : ∀ x ∈ xs, ∀ y ∈ xs, p x = true → p y = true → x = y) : xs.find? p = ys.find? p := by
  cases hfind : xs.find? p with
  | none =>
    refine (List.find?_eq_none.2 fun y hy => ?_).symm
    exact List.find?_eq_none.1 hfind y (hperm.mem_iff.2 hy)
  | some x =>
    have hx : x ∈ xs := List.mem_of_find?_eq_some hfind
    have hp : p x = true := List.find?_some hfind
    exact (find?_of_unique (hperm.mem_iff.1 hx) hp fun y hy hpy =>
      hunique y (hperm.mem_iff.2 hy) x hx hpy hp).symm

/-- There is one way to be found. -/
theorem lookup?_of_mem (h : Distinct xs) (hx : x ∈ xs)
    (hkey : id x = key ∨ key ∉ Entity.ids xs ∧ Text.sameName (name x) key = true) :
    lookup? xs key = some x := by
  unfold lookup?
  rcases hkey with rfl | ⟨hids, hname⟩
  · rw [find?_of_unique hx (by simp) fun y hy hid => h.eq_of_id hy hx (by simpa using hid)]
    rfl
  · have hnone : xs.find? (id · == key) = none := Store.getById?_eq_none_iff (s := { entries := xs }).2 hids
    rw [hnone, find?_of_unique hx hname fun y hy hsame => h.eq_of_name hy hx ?_]
    · rfl
    · exact Text.sameName_trans hsame (Text.sameName_comm _ _ ▸ hname)

end Entity

namespace Store

variable {α : Type} [Entity α] {s : Store α} {xs : List α} {x : α} {key : String}

/-- A store with entities from a list, and with all of them once it is complete. -/
structure DrawnFrom (s : Store α) (xs : List α) : Prop where
  subset : s.entries ⊆ xs
  all : s.complete = true → xs ⊆ s.entries

omit [Entity α] in
theorem drawnFrom_empty (xs : List α) : ({} : Store α).DrawnFrom xs :=
  ⟨List.nil_subset xs, fun h => by cases h⟩

theorem DrawnFrom.tryAdd (h : s.DrawnFrom xs) (hx : x ∈ xs) : (s.tryAdd x).2.DrawnFrom xs := by
  refine ⟨fun y hy => ?_, fun hall y hy => ?_⟩
  · rcases Entity.mem_addNew hy with hy | rfl
    · exact h.subset hy
    · exact hx
  · exact (Entity.prefix_addNew s.entries x).subset (h.all hall hy)

theorem DrawnFrom.seed (h : s.DrawnFrom xs) (hxs : Entity.Distinct xs) : (s.seed xs).DrawnFrom xs := by
  have hsubset : (s.seed xs).entries ⊆ xs := fun y hy =>
    (Entity.mem_addAllNew hy).elim (fun hold => h.subset hold) fun hnew => hnew
  refine ⟨hsubset, fun _ x hx => ?_⟩
  obtain ⟨y, hy, hid⟩ := List.mem_map.1 (Entity.id_mem_ids_addAllNew s.entries hx)
  rwa [hxs.eq_of_id hx (hsubset hy) hid.symm]

/-- What is found in a part of a list is what is found in the list. -/
theorem DrawnFrom.lookup?_of_some (h : s.DrawnFrom xs) (hxs : Entity.Distinct xs)
    (hclear : Entity.Clear xs key) (hfound : s.getByIdOrName? key = some x) :
    Entity.lookup? xs key = some x := by
  obtain ⟨hx, hkey⟩ := getByIdOrName?_of_some hfound
  refine Entity.lookup?_of_mem hxs (h.subset hx) ?_
  rcases hkey with hid | ⟨-, hname⟩
  · exact .inl hid
  · by_cases hids : key ∈ Entity.ids xs
    · obtain ⟨y, hy, hid⟩ := List.mem_map.1 hids
      exact .inl (hclear y hy x (h.subset hx) hid hname ▸ hid)
    · exact .inr ⟨hids, hname⟩

/-- What is not found in a complete store is not in the list. -/
theorem DrawnFrom.lookup?_of_none (h : s.DrawnFrom xs) (hall : s.complete = true)
    (hmissing : s.getByIdOrName? key = none) : Entity.lookup? xs key = none := by
  obtain ⟨hids, hnames⟩ := getByIdOrName?_eq_none_iff.1 hmissing
  rw [Entity.lookup?_eq, getByIdOrName?_eq_none_iff]
  exact ⟨fun hid => hids (List.map_subset _ (h.all hall) hid), fun x hx => hnames x (h.all hall hx)⟩

end Store

end JiraQuery
