import JiraQuery.Cache.Store
import JiraQuery.Text.Joined

/-!
# Stores by scope

One store per key; a store comes into being when its key is first used. Whoever uses a store has a
reference to it, which is good for as long as there are stores. Main statements: `get_set`, the stores
of different keys do not meet, and `get_eq` and `set_eq`, by which keys stand for references.

| here | there |
| --- | --- |
| `StoreRef` | the `Arc` of an `EntityStore` |
| `ScopedStore.scope`, `ScopedStore.isComplete`, `ScopedStore.scopeCount` | `ScopedStore::scope`, `is_complete`, `scope_count` |
| `FieldScope.label` | the `Display` text of a `FieldScope` |
-/

namespace JiraQuery

structure ScopedStore (κ α : Type) where
  scopes : List (κ × Store α) := []

/-- Refers to one of the stores, by how many there were before it. -/
@[ext] structure StoreRef where
  index : Nat
  deriving DecidableEq, Repr

namespace ScopedStore

variable {κ α : Type} [DecidableEq κ]

/-- A reference to the store of a key, which is made if there is none yet. -/
def scope (s : ScopedStore κ α) (key : κ) : StoreRef × ScopedStore κ α :=
  let i := s.scopes.findIdx (key = ·.1)
  (⟨i⟩, if i < s.scopes.length then s else ⟨s.scopes ++ [(key, ({} : Store α))]⟩)

/-- The store that a reference refers to. -/
def read (s : ScopedStore κ α) (r : StoreRef) : Store α :=
  (s.scopes[r.index]?.map (·.2)).getD {}

/-- Changes the store that a reference refers to. -/
def write (s : ScopedStore κ α) (r : StoreRef) (store : Store α) : ScopedStore κ α :=
  ⟨s.scopes.modify r.index fun e => (e.1, store)⟩

def find? (s : ScopedStore κ α) (key : κ) : Option (Store α) :=
  s.scopes.lookup key

/-- The store of a key, which is empty if there is none yet. -/
def get (s : ScopedStore κ α) (key : κ) : Store α :=
  (s.find? key).getD {}

/-- Replaces the value of a key in a list of pairs, or appends the key. -/
def setIn (key : κ) (store : Store α) : List (κ × Store α) → List (κ × Store α)
  | [] => [(key, store)]
  | e :: es => if key = e.1 then (key, store) :: es else e :: setIn key store es

def set (s : ScopedStore κ α) (key : κ) (store : Store α) : ScopedStore κ α :=
  ⟨setIn key store s.scopes⟩

/-- Whether the store of a key has its whole collection; asking makes no store. -/
def isComplete (s : ScopedStore κ α) (key : κ) : Bool :=
  (s.find? key).any (·.complete)

def scopeCount (s : ScopedStore κ α) : Nat :=
  s.scopes.length

/-- What there is to show of it. -/
def describe (_ : ScopedStore κ α) : String := "ScopedStore \x7b .. \x7d"

theorem lookup_cons (k : κ) (e : κ × Store α) (es : List (κ × Store α)) :
    (e :: es).lookup k = if k = e.1 then some e.2 else es.lookup k := by
  rw [List.lookup_cons]
  by_cases h : k = e.1
  · simp [h]
  · simp [h, beq_false_of_ne h]

theorem lookup_setIn (key k : κ) (store : Store α) (es : List (κ × Store α)) :
    (setIn key store es).lookup k = if k = key then some store else es.lookup k := by
  induction es with
  | nil => simp [setIn, lookup_cons]
  | cons e es ih =>
    unfold setIn
    split
    · next h => subst h; simp only [lookup_cons]; split <;> simp_all
    · next h => simp only [lookup_cons, ih]; split <;> split <;> simp_all

theorem find?_set (s : ScopedStore κ α) (key k : κ) (store : Store α) :
    (s.set key store).find? k = if k = key then some store else s.find? k :=
  lookup_setIn key k store s.scopes

theorem get_set (s : ScopedStore κ α) (key k : κ) (store : Store α) :
    (s.set key store).get k = if k = key then store else s.get k := by
  unfold get
  rw [find?_set]
  split <;> rfl

/-! ## Keys and references -/

theorem lookup_eq_getElem? (key : κ) (es : List (κ × Store α)) :
    es.lookup key = es[es.findIdx (key = ·.1)]?.map (·.2) := by
  induction es with
  | nil => rfl
  | cons e es ih =>
    rw [lookup_cons, List.findIdx_cons]
    by_cases h : key = e.1
    · simp [h]
    · simp [h, ih]

theorem setIn_eq_modify {key : κ} {es : List (κ × Store α)} (store : Store α)
    (h : es.findIdx (key = ·.1) < es.length) :
    setIn key store es = es.modify (es.findIdx (key = ·.1)) fun e => (e.1, store) := by
  induction es with
  | nil => cases h
  | cons e es ih =>
    unfold setIn
    rw [List.findIdx_cons] at h ⊢
    by_cases hkey : key = e.1
    · subst hkey
      simp
    · simp only [hkey, decide_false, cond_false, if_false, List.length_cons,
        Nat.add_lt_add_iff_right] at h ⊢
      rw [ih h]
      rfl

theorem setIn_eq_append {key : κ} {es : List (κ × Store α)} (store : Store α)
    (h : ¬es.findIdx (key = ·.1) < es.length) : setIn key store es = es ++ [(key, store)] := by
  induction es with
  | nil => rfl
  | cons e es ih =>
    unfold setIn
    rw [List.findIdx_cons] at h
    by_cases hkey : key = e.1
    · simp [hkey] at h
    · simp only [hkey, decide_false, cond_false, List.length_cons, Nat.add_lt_add_iff_right] at h
      rw [if_neg hkey, ih h]
      rfl

/-- What a key has is what its reference refers to. -/
theorem get_eq (s : ScopedStore κ α) (key : κ) : s.get key = (s.scope key).2.read (s.scope key).1 := by
  unfold get find? scope read
  rw [lookup_eq_getElem?]
  by_cases h : s.scopes.findIdx (key = ·.1) < s.scopes.length
  · simp only [if_pos h]
  · have hlength : s.scopes.findIdx (key = ·.1) = s.scopes.length :=
      Nat.le_antisymm List.findIdx_le_length (Nat.le_of_not_lt h)
    simp [hlength]

/-- To set a key is to write through its reference. -/
theorem set_eq (s : ScopedStore κ α) (key : κ) (store : Store α) :
    s.set key store = (s.scope key).2.write (s.scope key).1 store := by
  unfold set scope write
  by_cases h : s.scopes.findIdx (key = ·.1) < s.scopes.length
  · simp only [if_pos h, setIn_eq_modify store h]
  · have hlength : s.scopes.findIdx (key = ·.1) = s.scopes.length :=
      Nat.le_antisymm List.findIdx_le_length (Nat.le_of_not_lt h)
    simp only [setIn_eq_append store h, hlength, List.modify_eq_take_drop]
    simp

end ScopedStore

/-- Part of a server: a project, and possibly one of its issue types. -/
@[ext] structure FieldScope where
  projectKey : String
  issueTypeId : Option String := none
  issueTypeName : Option String := none
  deriving DecidableEq, Repr

/-- The parts that are there, between slashes. -/
def FieldScope.label (s : FieldScope) : String :=
  Text.joined "/" (s.projectKey :: (s.issueTypeId.toList ++ s.issueTypeName.toList))

end JiraQuery
