import JiraQuery.Proofs.Cache.Finding

/-!
# The history of a store

What a store is like after whatever was done with it since it was empty: it holds the first of each id
among all entities that it was offered (`entries_after`), and it has its whole collection once it was
given one (`complete_after`). Main statement: `Store.dependable_after`.
-/

namespace JiraQuery

namespace Store

variable {ε α : Type}

/-- What is done with a store. The fetch of a collection is known by its outcome. -/
inductive Op (ε α : Type)
  | tryAdd (x : α)
  | tryAddAll (xs : List α)
  | seed (xs : List α)
  | getOrPopulate (outcome : Except ε (List α))
  | getById (id : String)
  | findByName (name : String)
  | getByIdOrName (key : String)
  | values

/-- What comes back from a store. -/
inductive Answer (ε α : Type)
  /-- Whether an entity was added. -/
  | added (isNew : Bool)
  /-- How many entities were added. -/
  | count (n : Nat)
  | done
  /-- A collection, and how many fetches were made for it. -/
  | collection (result : Except ε (List α)) (fetches : Nat)
  | found (x : Option α)
  | listed (xs : List α)

/-- A fetch with a given outcome, which is counted. -/
def countedFetch (outcome : Except ε (List α)) : StateM Nat (Except ε (List α)) := do
  modify (· + 1)
  return outcome

variable [Entity α]

/-- What an operation gives, and the store after it. -/
def Op.perform : Op ε α → Store α → Answer ε α × Store α
  | tryAdd x, s => (.added (s.tryAdd x).1, (s.tryAdd x).2)
  | tryAddAll xs, s => (.count (s.tryAddAll xs).1, (s.tryAddAll xs).2)
  | seed xs, s => (.done, s.seed xs)
  | getOrPopulate outcome, s =>
    let ((result, store), fetches) := (s.getOrPopulate (countedFetch outcome)).run 0
    (.collection result fetches, store)
  | getById id, s => (.found (s.getById? id), s)
  | findByName name, s => (.listed (s.findByName name), s)
  | getByIdOrName key, s => (.found (s.getByIdOrName? key), s)
  | values, s => (.listed s.entries, s)

/-- The store after operations, one after the other. -/
def after (ops : List (Op ε α)) (s : Store α) : Store α :=
  ops.foldl (fun s op => (op.perform s).2) s

/-- The entities that an operation would put into a store. Nothing is fetched for a store that has its
whole collection. -/
def Op.offers : Op ε α → Store α → List α
  | tryAdd x, _ => [x]
  | tryAddAll xs, _ => xs
  | seed xs, _ => xs
  | getOrPopulate (.ok xs), s => if s.complete then [] else xs
  | _, _ => []

/-- The entities that operations offer a store, in order. -/
def offered : List (Op ε α) → Store α → List α
  | [], _ => []
  | op :: ops, s => op.offers s ++ offered ops (op.perform s).2

/-- Whether an operation brings a whole collection, or finds it there. -/
def Op.completes : Op ε α → Bool
  | seed _ => true
  | getOrPopulate (.ok _) => true
  | _ => false

/-! ## One operation -/

variable {s : Store α} {x : α}

theorem perform_getOrPopulate (outcome : Except ε (List α)) (s : Store α) :
    (Op.getOrPopulate outcome).perform s =
      if s.complete then (.collection (.ok s.entries) 0, s)
      else (.collection (s.populate outcome).1 1, (s.populate outcome).2) := by
  have hrun : (Op.getOrPopulate outcome).perform s =
      (fun r => (.collection r.1.1 r.2, r.1.2)) (s.getOrPopulate (countedFetch outcome) 0) := rfl
  rw [hrun]
  unfold getOrPopulate
  split
  · rfl
  · rfl

/-- An operation adds what it offers, except for ids that are there. -/
theorem entries_perform (op : Op ε α) (s : Store α) :
    (op.perform s).2.entries = Entity.addAllNew s.entries (op.offers s) := by
  cases op with
  | tryAdd x => rfl
  | tryAddAll xs => exact congrArg entries (snd_tryAddAll s xs)
  | seed xs => rfl
  | getOrPopulate outcome =>
    rw [perform_getOrPopulate]
    cases outcome with
    | error e =>
      show _ = s.entries
      split <;> rfl
    | ok xs =>
      show _ = Entity.addAllNew s.entries (if s.complete then [] else xs)
      split <;> rfl
  | getById id => rfl
  | findByName name => rfl
  | getByIdOrName key => rfl
  | values => rfl

theorem complete_perform (op : Op ε α) (s : Store α) :
    (op.perform s).2.complete = (s.complete || op.completes) := by
  cases op with
  | seed xs => exact (Bool.or_true s.complete).symm
  | tryAddAll xs =>
    show (s.tryAddAll xs).2.complete = (s.complete || false)
    rw [snd_tryAddAll, Bool.or_false]
  | getOrPopulate outcome =>
    rw [perform_getOrPopulate]
    cases hcomplete : s.complete with
    | true => rw [if_pos rfl, hcomplete, Bool.true_or]
    | false =>
      rw [if_neg Bool.false_ne_true, Bool.false_or]
      cases outcome with
      | error e => exact hcomplete
      | ok xs => rfl
  | tryAdd x => exact (Bool.or_false s.complete).symm
  | getById id => exact (Bool.or_false s.complete).symm
  | findByName name => exact (Bool.or_false s.complete).symm
  | getByIdOrName key => exact (Bool.or_false s.complete).symm
  | values => exact (Bool.or_false s.complete).symm

theorem fst_tryAdd_iff : (s.tryAdd x).1 = true ↔ s.getById? (Entity.id x) = none := by
  rw [getById?_eq_none_iff]
  show (!Entity.holds s.entries (Entity.id x)) = true ↔ _
  rw [Bool.not_eq_true', ← Bool.not_eq_true, Entity.holds_iff]
  rfl

theorem size_tryAdd (s : Store α) (x : α) : (s.tryAdd x).2.size = s.size + (s.tryAdd x).1.toNat := by
  show (Entity.addNew s.entries x).length = s.entries.length + (!Entity.holds s.entries (Entity.id x)).toNat
  unfold Entity.addNew
  cases Entity.holds s.entries (Entity.id x) with
  | true => rfl
  | false => exact List.length_append

/-- What is counted as new is what the store grows by. -/
theorem size_tryAddAll (s : Store α) (xs : List α) :
    (s.tryAddAll xs).2.size = s.size + (s.tryAddAll xs).1 := by
  induction xs generalizing s with
  | nil => rfl
  | cons x xs ih =>
    have hfirst := size_tryAdd s x
    have hrest := ih (s.tryAdd x).2
    show (tryAddAll (s.tryAdd x).2 xs).2.size = s.size + ((s.tryAdd x).1.toNat + (tryAddAll (s.tryAdd x).2 xs).1)
    omega

/-! ## All operations since the store was empty -/

theorem after_append (ops more : List (Op ε α)) (s : Store α) :
    after (ops ++ more) s = after more (after ops s) :=
  List.foldl_append

theorem offered_append (ops more : List (Op ε α)) (s : Store α) :
    offered (ops ++ more) s = offered ops s ++ offered more (after ops s) := by
  induction ops generalizing s with
  | nil => rfl
  | cons op ops ih =>
    show op.offers s ++ offered (ops ++ more) (op.perform s).2 = _
    rw [ih, ← List.append_assoc]
    rfl

theorem entries_after (ops : List (Op ε α)) (s : Store α) :
    (after ops s).entries = Entity.addAllNew s.entries (offered ops s) := by
  induction ops generalizing s with
  | nil => rfl
  | cons op ops ih =>
    show (after ops (op.perform s).2).entries = _
    rw [ih, entries_perform, ← Entity.addAllNew_append]
    rfl

theorem complete_after (ops : List (Op ε α)) (s : Store α) :
    (after ops s).complete = (s.complete || ops.any Op.completes) := by
  induction ops generalizing s with
  | nil => exact (Bool.or_false s.complete).symm
  | cons op ops ih =>
    show (after ops (op.perform s).2).complete = _
    rw [ih, complete_perform, Bool.or_assoc]
    rfl

theorem getById?_after (ops : List (Op ε α)) (id : String) :
    (after ops {}).getById? id = (offered ops {}).find? (Entity.id · == id) := by
  unfold getById?
  rw [entries_after]
  exact Entity.find?_addAllNew [] (offered ops {}) id

/-- What there is to rely on in a store after operations that began with an empty one. -/
structure Dependable (ops : List (Op ε α)) : Prop where
  /-- No two entries have one id. -/
  distinct : (after ops {}).ids.Nodup
  /-- Whatever is done later, the entries stay in front. -/
  kept : ∀ more, (after ops {}).entries <+: (after (ops ++ more) {}).entries
  /-- An id finds the first entity with it that the store was offered. -/
  first : ∀ id, (after ops {}).getById? id = (offered ops {}).find? (Entity.id · == id)
  /-- Whatever is done later, an id that finds an entity finds this one. -/
  found : ∀ more id x, (after ops {}).getById? id = some x → (after (ops ++ more) {}).getById? id = some x
  /-- An entity is said to be added exactly if its id is not there. -/
  adds : ∀ x : α, ∃ isNew, ((Op.tryAdd (ε := ε) x).perform (after ops {})).1 = .added isNew ∧
    (isNew = true ↔ Entity.id x ∉ (after ops {}).ids)
  /-- Of many entities as many are said to be added as the store grows by. -/
  adds_all : ∀ xs : List α, ∃ n, ((Op.tryAddAll (ε := ε) xs).perform (after ops {})).1 = .count n ∧
    ((Op.tryAddAll (ε := ε) xs).perform (after ops {})).2.size = (after ops {}).size + n
  /-- A store has its whole collection exactly if one was seeded or asked for with success. -/
  complete_iff : (after ops {}).complete = true ↔
    ∃ op ∈ ops, (∃ xs, op = .seed xs) ∨ ∃ xs, op = .getOrPopulate (.ok xs)
  /-- Whatever is done later, a whole collection stays whole. -/
  complete_kept : ∀ more, (after ops {}).complete = true → (after (ops ++ more) {}).complete = true
  /-- A fetch that fails changes nothing. -/
  failed : ∀ e : ε, after (ops ++ [.getOrPopulate (.error e)]) {} = after ops {}
  /-- Asking for the collection fetches it, once, exactly if the store does not have all of it. -/
  fetches : ∀ outcome : Except ε (List α), ∃ result n,
    ((Op.getOrPopulate outcome).perform (after ops {})).1 = .collection result n ∧
      n ≤ 1 ∧ (n = 1 ↔ (after ops {}).complete = false)

omit [Entity α] in
theorem completes_iff {op : Op ε α} :
    op.completes = true ↔ (∃ xs, op = .seed xs) ∨ ∃ xs, op = .getOrPopulate (.ok xs) := by
  constructor
  · intro h
    cases op with
    | seed xs => exact .inl ⟨xs, rfl⟩
    | getOrPopulate outcome =>
      cases outcome with
      | ok xs => exact .inr ⟨xs, rfl⟩
      | error e => cases h
    | tryAdd | tryAddAll | getById | findByName | getByIdOrName | values => cases h
  · rintro (⟨xs, rfl⟩ | ⟨xs, rfl⟩)
    · rfl
    · rfl

/-- A store can be relied on, whatever was done with it since it was empty. -/
theorem dependable_after (ops : List (Op ε α)) : Dependable ops where
  distinct := by
    rw [ids, entries_after]
    exact Entity.nodup_ids_distinct (offered ops {})
  kept more := by
    rw [after_append, entries_after more]
    exact Entity.prefix_addAllNew _ _
  first := getById?_after ops
  found more id x h := by
    rw [getById?_after] at h ⊢
    rw [offered_append, List.find?_append, h, Option.some_or]
  adds x := ⟨_, rfl, fst_tryAdd_iff.trans getById?_eq_none_iff⟩
  adds_all xs := ⟨_, rfl, size_tryAddAll _ xs⟩
  complete_iff := by
    rw [complete_after, Bool.false_or, List.any_eq_true]
    simp only [completes_iff]
  complete_kept more h := by
    rw [after_append, complete_after more, h, Bool.true_or]
  failed e := by
    rw [after_append]
    show ((Op.getOrPopulate (.error e)).perform (after ops {})).2 = _
    rw [perform_getOrPopulate]
    split <;> rfl
  fetches outcome := by
    rw [perform_getOrPopulate]
    cases (after ops {}).complete with
    | true => exact ⟨_, 0, rfl, Nat.zero_le 1, by simp⟩
    | false => exact ⟨_, 1, rfl, Nat.le_refl 1, by simp⟩

end Store

end JiraQuery
