import JiraQuery.Cache.Store
import Mathlib

/-!
# How stores grow

Entities are only ever appended, and only if their ids are new. What was there stays in front, and every
id that was to be added is there afterwards.
-/

namespace JiraQuery

namespace Entity

variable {α : Type} [Entity α] {xs ys : List α} {x y : α}

theorem addNew_of_new (h : id x ∉ ids xs) : addNew xs x = xs ++ [x] :=
  if_neg fun hold => h (holds_iff.1 hold)

theorem prefix_addNew (xs : List α) (x : α) : xs <+: addNew xs x := by
  unfold addNew
  split
  · exact List.prefix_refl xs
  · exact List.prefix_append xs [x]

theorem prefix_addAllNew (xs ys : List α) : xs <+: addAllNew xs ys := by
  induction ys generalizing xs with
  | nil => exact List.prefix_refl xs
  | cons y ys ih => exact (prefix_addNew xs y).trans (ih (addNew xs y))

theorem addAllNew_append (xs ys zs : List α) :
    addAllNew xs (ys ++ zs) = addAllNew (addAllNew xs ys) zs :=
  List.foldl_append

theorem find?_addNew (xs : List α) (x : α) (i : String) :
    (addNew xs x).find? (id · == i) = (xs ++ [x]).find? (id · == i) := by
  by_cases h : id x ∈ ids xs
  · -- an entity that is not added is not found either, since an older one comes first
    have hsame : addNew xs x = xs := if_pos (holds_iff.2 h)
    rw [hsame, List.find?_append]
    by_cases hi : id x = i
    · obtain ⟨y, hy, hid⟩ := List.mem_map.1 h
      have hfound : (xs.find? (id · == i)).isSome := List.find?_isSome.2 ⟨y, hy, by simp [hid, hi]⟩
      obtain ⟨z, hz⟩ := Option.isSome_iff_exists.1 hfound
      rw [hz, Option.some_or]
    · simp [hi]
  · rw [addNew_of_new h]

/-- Of the entities that are added, an id finds the first one that has it. -/
theorem find?_addAllNew (xs ys : List α) (i : String) :
    (addAllNew xs ys).find? (id · == i) = (xs ++ ys).find? (id · == i) := by
  induction ys generalizing xs with
  | nil => rw [List.append_nil]; rfl
  | cons y ys ih =>
    calc (addAllNew xs (y :: ys)).find? (id · == i)
        = (addNew xs y ++ ys).find? (id · == i) := ih (addNew xs y)
      _ = (xs ++ [y] ++ ys).find? (id · == i) := by
        rw [List.find?_append, List.find?_append, find?_addNew]
      _ = (xs ++ y :: ys).find? (id · == i) := by rw [List.append_assoc, List.singleton_append]

theorem ids_subset (h : xs <+: ys) : ids xs ⊆ ids ys :=
  (h.map id).subset

/-- The id of an added entity is there, be it that of an older one. -/
theorem id_mem_ids_addNew (xs : List α) (x : α) : id x ∈ ids (addNew xs x) := by
  by_cases h : id x ∈ ids xs
  · exact ids_subset (prefix_addNew xs x) h
  · rw [addNew_of_new h]
    simp [ids]

theorem id_mem_ids_addAllNew (xs : List α) (h : y ∈ ys) : id y ∈ ids (addAllNew xs ys) := by
  induction ys generalizing xs with
  | nil => cases h
  | cons z ys ih =>
    rcases List.mem_cons.1 h with rfl | h
    · exact ids_subset (prefix_addAllNew (addNew xs y) ys) (id_mem_ids_addNew xs y)
    · exact ih (addNew xs z) h

theorem mem_addNew (h : y ∈ addNew xs x) : y ∈ xs ∨ y = x := by
  unfold addNew at h
  split at h
  · exact .inl h
  · simpa using h

theorem mem_addAllNew (h : x ∈ addAllNew xs ys) : x ∈ xs ∨ x ∈ ys := by
  induction ys generalizing xs with
  | nil => exact .inl h
  | cons y ys ih =>
    rcases ih h with h | h
    · rcases mem_addNew h with h | rfl
      · exact .inl h
      · exact .inr List.mem_cons_self
    · exact .inr (List.mem_cons_of_mem y h)

/-! ## The first of each id -/

theorem ids_append (xs ys : List α) : ids (xs ++ ys) = ids xs ++ ids ys :=
  List.map_append

theorem distinct_append_singleton (xs : List α) (x : α) :
    distinct (xs ++ [x]) = addNew (distinct xs) x :=
  addAllNew_append [] xs [x]

/-- Every id of a list is left, once. -/
theorem ids_distinct (xs : List α) : ids (distinct xs) = (ids xs).eraseDups := by
  -- from the end, where entities are added
  induction xs using List.reverseRecOn with
  | nil => rfl
  | append_singleton xs x ih =>
    have hmem : id x ∈ ids (distinct xs) ↔ id x ∈ ids xs := by rw [ih, List.mem_eraseDups]
    rw [distinct_append_singleton, ids_append, List.eraseDups_append, ← ih]
    by_cases hx : id x ∈ ids xs
    · have hsame : addNew (distinct xs) x = distinct xs := if_pos (holds_iff.2 (hmem.2 hx))
      have hold : (ids [x]).removeAll (ids xs) = [] := by simpa [ids, List.removeAll] using hx
      rw [hsame, hold, List.eraseDups_nil, List.append_nil]
    · have hnew : (ids [x]).removeAll (ids xs) = [id x] := by simpa [ids, List.removeAll] using hx
      rw [addNew_of_new (mt hmem.1 hx), hnew, ids_append]
      rfl

/-- Nothing is dropped if no id comes twice. -/
theorem distinct_of_nodup (h : (ids xs).Nodup) : distinct xs = xs := by
  induction xs using List.reverseRecOn with
  | nil => rfl
  | append_singleton xs x ih =>
    rw [ids_append] at h
    obtain ⟨hxs, -, hnew⟩ := List.nodup_append.1 h
    rw [distinct_append_singleton, ih hxs]
    apply addNew_of_new
    intro hmem
    exact hnew _ hmem _ (List.mem_singleton_self _) rfl

/-- An entity is dropped if one before it has the id. -/
theorem distinct_append_cons_of_mem (h : id x ∈ ids xs) (ys : List α) :
    distinct (xs ++ x :: ys) = distinct (xs ++ ys) := by
  have hold : id x ∈ ids (distinct xs) := by rw [ids_distinct]; exact List.mem_eraseDups.2 h
  have hsame : addNew (distinct xs) x = distinct xs := if_pos (holds_iff.2 hold)
  calc distinct (xs ++ x :: ys)
      = addAllNew (addNew (distinct xs) x) ys := addAllNew_append [] xs (x :: ys)
    _ = addAllNew (distinct xs) ys := by rw [hsame]
    _ = distinct (xs ++ ys) := (addAllNew_append [] xs ys).symm

theorem head?_distinct (xs : List α) : (distinct xs).head? = xs.head? := by
  cases xs with
  | nil => rfl
  | cons x xs =>
    obtain ⟨rest, hrest⟩ := prefix_addAllNew [x] xs
    have hdistinct : distinct (x :: xs) = x :: rest := hrest.symm
    rw [hdistinct]
    rfl

/-! ## What is taken up -/

/-- A list that takes up what was found: of each id it has the first entity, and the older ones come before
those that were found. -/
structure Joins (old found xs : List α) : Prop where
  order : ∃ kept, kept.Sublist found ∧ xs = old ++ kept
  nodup : (ids old).Nodup → (ids xs).Nodup
  first : ∀ i, xs.find? (id · == i) = (old ++ found).find? (id · == i)

theorem exists_sublist_addAllNew (xs ys : List α) : ∃ kept, kept.Sublist ys ∧ addAllNew xs ys = xs ++ kept := by
  induction ys generalizing xs with
  | nil => exact ⟨[], .slnil, (List.append_nil xs).symm⟩
  | cons y ys ih =>
    obtain ⟨kept, hkept, heq⟩ := ih (addNew xs y)
    by_cases hy : id y ∈ ids xs
    · have hsame : addNew xs y = xs := if_pos (holds_iff.2 hy)
      exact ⟨kept, hkept.cons y, heq.trans (by rw [hsame])⟩
    · refine ⟨y :: kept, hkept.cons_cons y, heq.trans ?_⟩
      rw [addNew_of_new hy, List.append_assoc, List.singleton_append]

theorem joins_addAllNew (old found : List α) : Joins old found (addAllNew old found) where
  order := exists_sublist_addAllNew old found
  nodup := nodup_ids_addAllNew found
  first := find?_addAllNew old found

end Entity

end JiraQuery
