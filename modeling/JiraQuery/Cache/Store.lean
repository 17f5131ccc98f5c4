import JiraQuery.Metadata.Entity
import JiraQuery.Text.Lowercase

/-!
# Stores of entities

A store holds entities of distinct ids in the order in which they came, and knows whether it has all
of them. The first entity of an id stays. Main statement: `nodup_ids_tryAdd`, by which ids stay distinct.

| here | there |
| --- | --- |
| `Store` | `EntityStore` |
| `Store.tryAdd`, `Store.tryAddAll`, `Store.seed` | `EntityStore::try_add`, `try_add_all`, `seed` |
| `Store.getById?`, `Store.findByName`, `Store.getByIdOrName?` | `EntityStore::get_by_id`, `find_by_name`, `get_by_id_or_name` |
| `Store.getOrPopulate`, `Store.populate` | `EntityStore::get_or_populate`, around its call of `fetch` and after it |
| `Store.describe` | the `Debug` text of an `EntityStore` |
-/

namespace JiraQuery

structure Store (α : Type) where
  entries : List α := []
  /-- Whether the whole collection has been stored. -/
  complete : Bool := false
  deriving Repr

namespace Store

variable {α : Type} [Entity α]

def size (s : Store α) : Nat :=
  s.entries.length

/-- Adds an entity, unless its id is there; tells whether it did. -/
def tryAdd (s : Store α) (x : α) : Bool × Store α :=
  (!Entity.holds s.entries (Entity.id x), { s with entries := Entity.addNew s.entries x })

/-- Adds entities one after the other; tells how many were new. -/
def tryAddAll (s : Store α) : List α → Nat × Store α
  | [] => (0, s)
  | x :: xs =>
    let (isNew, s) := s.tryAdd x
    let (n, s) := tryAddAll s xs
    (isNew.toNat + n, s)

/-- Adds a whole collection. -/
def seed (s : Store α) (xs : List α) : Store α :=
  { entries := Entity.addAllNew s.entries xs, complete := true }

def getById? (s : Store α) (id : String) : Option α :=
  s.entries.find? (Entity.id · == id)

/-- The entities with a name, ignoring case. -/
def findByName (s : Store α) (name : String) : List α :=
  s.entries.filter fun x => Text.sameName (Entity.name x) name

/-- The entity with an id, or else the first one with that name. -/
def getByIdOrName? (s : Store α) (key : String) : Option α :=
  (s.getById? key).or (s.findByName key).head?

/-- Takes in the outcome of fetching the collection; a failure changes nothing. -/
def populate {ε : Type} (s : Store α) : Except ε (List α) → Except ε (List α) × Store α
  | .ok xs => let s := s.seed xs; (.ok s.entries, s)
  | .error e => (.error e, s)

/-- The collection, which is fetched only if the store does not have all of it. -/
def getOrPopulate {m : Type → Type} [Monad m] {ε : Type} (s : Store α)
    (fetch : m (Except ε (List α))) : m (Except ε (List α) × Store α) :=
  if s.complete then pure (.ok s.entries, s) else do return s.populate (← fetch)

/-- What there is to show of a store. -/
def describe (s : Store α) : String :=
  "EntityStore \x7b len: " ++ toString s.size ++ ", complete: " ++ toString s.complete ++ " \x7d"

/-! ## Distinct ids -/

/-- The ids of the entries, in order. -/
def ids (s : Store α) : List String :=
  Entity.ids s.entries

theorem snd_tryAddAll (s : Store α) (xs : List α) :
    (s.tryAddAll xs).2 = { s with entries := Entity.addAllNew s.entries xs } := by
  induction xs generalizing s with
  | nil => rfl
  | cons x xs ih => exact ih (s.tryAdd x).2

theorem nodup_ids_tryAdd {s : Store α} (x : α) (h : s.ids.Nodup) : (s.tryAdd x).2.ids.Nodup :=
  Entity.nodup_ids_addNew x h

end Store

end JiraQuery
