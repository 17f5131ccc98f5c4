import JiraQuery.Toml.Parser
import Mathlib

/-!
# Trees of tables

How entries become the members of a document, and what becomes of entries that get a new one. Main
statements: `put_of_new` and `build?_eq`.
-/

namespace JiraQuery.Toml

/-! ## Documents -/

namespace Node

theorem entriesToJson_eq (es : Entries) : entriesToJson es = es.map fun e => (e.1, e.2.toJson) := by
  induction es with
  | nil => rfl
  | cons e es ih => exact congrArg ((e.1, e.2.toJson) :: ·) ih

theorem entriesToJson_append (es fs : Entries) :
    entriesToJson (es ++ fs) = entriesToJson es ++ entriesToJson fs := by
  simp only [entriesToJson_eq, List.map_append]

theorem tablesToJson_eq (ts : List Entries) :
    tablesToJson ts = ts.map fun es => .ofMembers (entriesToJson es) := by
  induction ts with
  | nil => rfl
  | cons t ts ih => exact congrArg (Json.ofMembers (entriesToJson t) :: ·) ih

end Node

/-! ## New keys -/

namespace Entries

variable {es : Entries} {key : String}

theorem lookup_of_new (h : key ∉ es.map (·.1)) : es.lookup key = none := by
  rw [List.lookup_eq_none_iff]
  rintro e he
  have hne : key ≠ e.1 := fun heq => h (List.mem_map.2 ⟨e, he, heq.symm⟩)
  simpa using hne

theorem lookup_last (h : key ∉ es.map (·.1)) (x : Node) : (es ++ [(key, x)]).lookup key = some x := by
  rw [List.lookup_append, lookup_of_new h]
  simp

theorem put_of_new (h : key ∉ es.map (·.1)) (x : Node) : put key x es = es ++ [(key, x)] := by
  induction es with
  | nil => rfl
  | cons e es ih =>
    rw [List.map_cons, List.mem_cons, not_or] at h
    rw [put, if_neg (Ne.symm h.1), ih h.2]
    rfl

theorem put_last (h : key ∉ es.map (·.1)) (x y : Node) : put key x (es ++ [(key, y)]) = es ++ [(key, x)] := by
  induction es with
  | nil => exact if_pos rfl
  | cons e es ih =>
    rw [List.map_cons, List.mem_cons, not_or] at h
    rw [List.cons_append, put, if_neg (Ne.symm h.1), ih h.2]
    rfl

/-- What a header with its pairs adds. -/
def addHeader (es : Entries) (h : Key × Bool × List (Key × Json)) : Option Entries :=
  if h.2.1 then es.addItem h.1.1 h.1.2 h.2.2 else es.addTable h.1.1 h.1.2 h.2.2

end Entries

/-- The pairs at the front come first, and then each header adds its own. -/
theorem build?_eq (ys : List Statement) :
    build? ys = (Entries.assignAll [] (sections ys).1).bind ((sections ys).2.foldlM Entries.addHeader) :=
  rfl

end JiraQuery.Toml
