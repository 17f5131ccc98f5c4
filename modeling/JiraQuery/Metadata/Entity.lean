import JiraQuery.Json.Wire

/-!
# Entities

What caches hold: things with an id, which identifies them, and a name, which need not. Main
statement: `nodup_ids_distinct`, a list without repetitions is made by keeping the first of each id.
-/

namespace JiraQuery

class Entity (α : Type) where
  id : α → String
  name : α → String

namespace Entity

variable {α : Type} [Entity α]

/-- The ids of a list, in order. -/
def ids (xs : List α) : List String :=
  xs.map id

/-- Whether a list holds an entity with the given id. -/
def holds (xs : List α) (i : String) : Bool :=
  xs.any (id · == i)

/-- Appends an entity whose id is new. -/
def addNew (xs : List α) (x : α) : List α :=
  if holds xs (id x) then xs else xs ++ [x]

/-- Appends, one after the other, the entities whose ids are new. -/
def addAllNew (xs ys : List α) : List α :=
  ys.foldl addNew xs

/-- The first entity of each id. -/
def distinct (xs : List α) : List α :=
  addAllNew [] xs

theorem holds_iff {xs : List α} {i : String} : holds xs i ↔ i ∈ ids xs := by
  simp [holds, ids]

theorem nodup_ids_addNew {xs : List α} (x : α) (h : (ids xs).Nodup) : (ids (addNew xs x)).Nodup := by
  unfold addNew
  split
  · exact h
  · next hx =>
    rw [holds_iff] at hx
    simp only [ids, List.map_append, List.map_cons, List.map_nil, List.nodup_append]
    exact ⟨h, by simp, fun a ha b hb => by rintro rfl; exact hx (by simp_all [ids])⟩

theorem nodup_ids_addAllNew {xs : List α} (ys : List α) (h : (ids xs).Nodup) :
    (ids (addAllNew xs ys)).Nodup := by
  induction ys generalizing xs with
  | nil => exact h
  | cons y ys ih => exact ih (nodup_ids_addNew y h)

theorem nodup_ids_distinct (xs : List α) : (ids (distinct xs)).Nodup :=
  nodup_ids_addAllNew xs (by simp [ids])

end Entity

end JiraQuery
