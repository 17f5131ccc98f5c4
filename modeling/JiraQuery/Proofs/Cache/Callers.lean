import JiraQuery.Proofs.Cache.Growth

/-!
# Callers of a store

Several callers ask one store for its collection at the same time. Each goes through the stages of
`Store.getOrPopulate`, and a step of one caller may fall between any two steps of another; entities that
come from elsewhere may be added at any time. The entries, the mark of completeness and the lock are
shared. Main statements: `Run.alone` and `exists_run_alone`, a caller that nobody comes between gets what
`Store.getOrPopulate` gives.
-/

namespace JiraQuery

/-- How far a caller has come. -/
inductive Stage (α ε : Type)
  /-- It has yet to look whether the store is complete. -/
  | arriving
  /-- The store was not complete; the caller waits for the lock. -/
  | waiting
  /-- It has the lock and has yet to look again. -/
  | admitted
  /-- The store was still not complete. -/
  | ready
  | fetching
  /-- It adds what it fetched, and some of it is left. -/
  | adding (fetched rest : List α)
  /-- The store is complete; the caller, with the lock or without it, has yet to copy the entries. -/
  | reading (locked : Bool)
  /-- It has its result and has yet to release the lock. -/
  | leaving (result : Except ε (List α))
  | returned (result : Except ε (List α))

namespace Stage

variable {α ε : Type}

def holdsLock : Stage α ε → Bool
  | arriving | waiting | reading false | returned _ => false
  | admitted | ready | fetching | adding _ _ | reading true | leaving _ => true

def result? : Stage α ε → Option (Except ε (List α))
  | leaving r | returned r => some r
  | _ => none

end Stage

/-- A store and its callers. -/
structure Crowd (ι α ε : Type) where
  store : Store α
  lock : Option ι := none
  stage : ι → Stage α ε := fun _ => .arriving

/-- What one step does; all but the last one are those of a caller. -/
inductive Action (ι α ε : Type)
  | check (c : ι)
  | acquire (c : ι)
  | recheck (c : ι)
  | start (c : ι)
  /-- A fetch ends. -/
  | finish (c : ι) (outcome : Except ε (List α))
  /-- Adds one of the fetched entities. -/
  | add (c : ι)
  /-- Marks the store as complete. -/
  | mark (c : ι)
  /-- Copies the entries. -/
  | read (c : ι)
  | release (c : ι)
  /-- Somebody else adds an entity. -/
  | tryAdd (x : α)

namespace Action

variable {ι α ε : Type}

def isStart : Action ι α ε → Bool
  | start _ => true
  | _ => false

def isMark : Action ι α ε → Bool
  | mark _ => true
  | _ => false

/-- The caller that makes the step. -/
def caller? : Action ι α ε → Option ι
  | check c | acquire c | recheck c | start c | finish c _ | add c | mark c | read c | release c =>
    some c
  | tryAdd _ => none

/-- What a fetch came back with. -/
def fetched? : Action ι α ε → Option (List α)
  | finish _ (.ok xs) => some xs
  | _ => none

end Action

/-- The collections that the fetches of a run came back with. -/
def fetched {ι α ε : Type} (T : List (Action ι α ε)) : List (List α) :=
  T.filterMap Action.fetched?

namespace Crowd

variable {ι α ε : Type} [DecidableEq ι]

/-- One caller comes to another stage. -/
def move (s : Crowd ι α ε) (c : ι) (g : Stage α ε) : Crowd ι α ε :=
  { s with stage := Function.update s.stage c g }

@[simp] theorem stage_move (s : Crowd ι α ε) (c d : ι) (g : Stage α ε) :
    (s.move c g).stage d = if d = c then g else s.stage d :=
  Function.update_apply s.stage c g d

@[simp] theorem store_move (s : Crowd ι α ε) (c : ι) (g : Stage α ε) :
    (s.move c g).store = s.store := rfl

@[simp] theorem lock_move (s : Crowd ι α ε) (c : ι) (g : Stage α ε) :
    (s.move c g).lock = s.lock := rfl

theorem stage_move_self (s : Crowd ι α ε) (c : ι) (g : Stage α ε) : (s.move c g).stage c = g := by
  rw [stage_move, if_pos rfl]

variable [Entity α]

inductive Step : Crowd ι α ε → Action ι α ε → Crowd ι α ε → Prop
  | check {s : Crowd ι α ε} {c : ι} (hstage : s.stage c = .arriving) :
      Step s (.check c) (s.move c (if s.store.complete then .reading false else .waiting))
  | acquire {s : Crowd ι α ε} {c : ι} (hstage : s.stage c = .waiting) (hfree : s.lock = none) :
      Step s (.acquire c) (move { s with lock := some c } c .admitted)
  | recheck {s : Crowd ι α ε} {c : ι} (hstage : s.stage c = .admitted) :
      Step s (.recheck c) (s.move c (if s.store.complete then .reading true else .ready))
  | start {s : Crowd ι α ε} {c : ι} (hstage : s.stage c = .ready) :
      Step s (.start c) (s.move c .fetching)
  | succeed {s : Crowd ι α ε} {c : ι} (hstage : s.stage c = .fetching) (xs : List α) :
      Step s (.finish c (.ok xs)) (s.move c (.adding xs xs))
  | fail {s : Crowd ι α ε} {c : ι} (hstage : s.stage c = .fetching) (e : ε) :
      Step s (.finish c (.error e)) (s.move c (.leaving (.error e)))
  | add {s : Crowd ι α ε} {c : ι} {x : α} {xs rest : List α}
      (hstage : s.stage c = .adding xs (x :: rest)) :
      Step s (.add c) (move { s with store := (s.store.tryAdd x).2 } c (.adding xs rest))
  | mark {s : Crowd ι α ε} {c : ι} {xs : List α} (hstage : s.stage c = .adding xs []) :
      Step s (.mark c) (move { s with store := { s.store with complete := true } } c (.reading true))
  | read {s : Crowd ι α ε} {c : ι} {locked : Bool} (hstage : s.stage c = .reading locked) :
      Step s (.read c)
        (s.move c (if locked then .leaving (.ok s.store.entries) else .returned (.ok s.store.entries)))
  | release {s : Crowd ι α ε} {c : ι} {r : Except ε (List α)} (hstage : s.stage c = .leaving r) :
      Step s (.release c) (move { s with lock := none } c (.returned r))
  | tryAdd {s : Crowd ι α ε} (x : α) : Step s (.tryAdd x) { s with store := (s.store.tryAdd x).2 }

/-- The steps in order. -/
inductive Run (s₀ : Crowd ι α ε) : List (Action ι α ε) → Crowd ι α ε → Prop
  | refl : Run s₀ [] s₀
  | snoc {T : List (Action ι α ε)} {s t : Crowd ι α ε} {a : Action ι α ε} (h : Run s₀ T s)
      (hstep : Step s a t) : Run s₀ (T ++ [a]) t

variable {s₀ : Store α} {s t u : Crowd ι α ε} {T U : List (Action ι α ε)} {c : ι}

theorem Run.trans (h : Run s T t) (h' : Run t U u) : Run s (T ++ U) u := by
  induction h' with
  | refl => rwa [List.append_nil]
  | snoc _ hstep ih => rw [← List.append_assoc]; exact ih.snoc hstep

theorem Run.single {a : Action ι α ε} (h : Step s a t) : Run s [a] t :=
  Run.refl.snoc h

/-! ## A caller alone -/

/-- What a caller that is alone has made of the store by its stage, and what it has as a result. -/
def Lone (s₀ : Store α) (T : List (Action ι α ε)) (c : ι) (store : Store α) : Stage α ε → Prop
  | .arriving => store = s₀
  | .waiting | .admitted | .ready | .fetching => store = s₀ ∧ s₀.complete = false
  | .adding xs rest => s₀.complete = false ∧ .finish c (.ok xs) ∈ T ∧
      { store with entries := Entity.addAllNew store.entries rest } =
        { s₀ with entries := Entity.addAllNew s₀.entries xs }
  | .reading _ => store = s₀ ∧ s₀.complete = true ∨
      ∃ xs, s₀.complete = false ∧ .finish c (.ok xs) ∈ T ∧ store = s₀.seed xs
  | .leaving r | .returned r => ∃ outcome, (s₀.complete = false → .finish c outcome ∈ T) ∧
      (r, store) = Id.run (s₀.getOrPopulate (pure outcome))

theorem getOrPopulate_of_complete (h : s₀.complete = true) (outcome : Except ε (List α)) :
    Id.run (s₀.getOrPopulate (pure outcome)) = (.ok s₀.entries, s₀) :=
  if_pos h

theorem getOrPopulate_of_not_complete (h : s₀.complete = false) (outcome : Except ε (List α)) :
    Id.run (s₀.getOrPopulate (pure outcome)) = s₀.populate outcome :=
  if_neg (by simp [h])

omit [DecidableEq ι] in
theorem Lone.mono {a : Action ι α ε} {store : Store α} {g : Stage α ε} (h : Lone s₀ T c store g) :
    Lone s₀ (T ++ [a]) c store g := by
  cases g <;> simp only [Lone, List.mem_append] at h ⊢ <;> grind

theorem Lone.step {a : Action ι α ε} (h : Lone s₀ T c s.store (s.stage c)) (hstep : Step s a t)
    (ha : a.caller? = some c) : Lone s₀ (T ++ [a]) c t.store (t.stage c) := by
  cases hstep with
  | tryAdd => cases ha
  | check hstage =>
    cases ha
    rw [hstage] at h
    obtain rfl : s.store = s₀ := h
    rw [stage_move_self]
    cases hcomplete : s.store.complete with
    | true => exact .inl ⟨rfl, hcomplete⟩
    | false => exact ⟨rfl, hcomplete⟩
  | acquire hstage hfree =>
    cases ha
    rw [hstage] at h
    rw [stage_move_self]
    exact h
  | recheck hstage =>
    cases ha
    rw [hstage] at h
    obtain ⟨hstore, hnew⟩ := h
    rw [stage_move_self, hstore, hnew]
    exact ⟨hstore, hnew⟩
  | start hstage =>
    cases ha
    rw [hstage] at h
    rw [stage_move_self]
    exact h
  | succeed hstage xs =>
    cases ha
    rw [hstage] at h
    obtain ⟨hstore, hnew⟩ := h
    rw [stage_move_self]
    exact ⟨hnew, by simp, by rw [store_move, hstore]⟩
  | fail hstage e =>
    cases ha
    rw [hstage] at h
    obtain ⟨hstore, hnew⟩ := h
    rw [stage_move_self]
    refine ⟨.error e, fun _ => by simp, ?_⟩
    rw [getOrPopulate_of_not_complete hnew, store_move, hstore]
    rfl
  | add hstage =>
    cases ha
    rw [hstage] at h
    obtain ⟨hnew, hfinish, hstore⟩ := h
    rw [stage_move_self]
    exact ⟨hnew, List.mem_append_left _ hfinish, hstore⟩
  | @mark c xs hstage =>
    cases ha
    rw [hstage] at h
    obtain ⟨hnew, hfinish, hstore⟩ := h
    rw [stage_move_self]
    refine .inr ⟨xs, hnew, List.mem_append_left _ hfinish, ?_⟩
    exact congrArg (fun store => { store with complete := true }) hstore
  | @read c locked hstage =>
    cases ha
    rw [hstage] at h
    have hcopy : ∃ outcome : Except ε (List α),
        (s₀.complete = false → .finish c outcome ∈ T ++ [.read c]) ∧
          (.ok s.store.entries, s.store) = Id.run (s₀.getOrPopulate (pure outcome)) := by
      rcases h with ⟨hstore, hcomplete⟩ | ⟨xs, hnew, hfinish, hstore⟩
      · refine ⟨.ok [], fun hnew => by simp [hnew] at hcomplete, ?_⟩
        rw [getOrPopulate_of_complete hcomplete, hstore]
      · refine ⟨.ok xs, fun _ => List.mem_append_left _ hfinish, ?_⟩
        rw [getOrPopulate_of_not_complete hnew, hstore]
        rfl
    rw [stage_move_self]
    cases locked with
    | true => exact hcopy
    | false => exact hcopy
  | release hstage =>
    cases ha
    rw [hstage] at h
    rw [stage_move_self]
    exact h.mono

theorem Run.lone (h : Run ({ store := s₀ } : Crowd ι α ε) T s) (hT : ∀ a ∈ T, a.caller? = some c) :
    Lone s₀ T c s.store (s.stage c) := by
  induction h with
  | refl => exact rfl
  | @snoc T s t a _ hstep ih =>
    have hlone := ih fun b hb => hT b (List.mem_append_left _ hb)
    exact hlone.step hstep (hT a (by simp))

/-- A caller that nobody comes between gets what the outcome of its fetch makes of the store, and leaves
that store behind. -/
theorem Run.alone {r : Except ε (List α)} (h : Run ({ store := s₀ } : Crowd ι α ε) T s)
    (hT : ∀ a ∈ T, a.caller? = some c) (hr : s.stage c = .returned r) :
    ∃ outcome, (s₀.complete = false → .finish c outcome ∈ T) ∧
      (r, s.store) = Id.run (s₀.getOrPopulate (pure outcome)) := by
  have hlone := h.lone hT
  rwa [hr] at hlone

/-- A caller adds what it fetched and gets to the end of it. -/
theorem exists_run_add (xs rest : List α) (hstage : s.stage c = .adding xs rest) :
    ∃ T t, Run s T t ∧ (∀ a ∈ T, a.caller? = some c) ∧ t.stage c = .adding xs [] := by
  induction rest generalizing s with
  | nil => exact ⟨[], s, .refl, by simp, hstage⟩
  | cons x rest ih =>
    obtain ⟨T, t, hrun, hT, ht⟩ := ih (stage_move_self ..)
    refine ⟨_, t, (Run.single (.add hstage)).trans hrun, ?_, ht⟩
    rintro a (_ | ⟨_, ha⟩)
    · rfl
    · exact hT a ha

/-- A waiting caller gets to fetch if the lock is free and the store is not complete. -/
theorem exists_run_start (hstage : s.stage c = .waiting) (hfree : s.lock = none)
    (hnew : s.store.complete = false) :
    ∃ t, Run s [.acquire c, .recheck c, .start c] t ∧ t.stage c = .fetching ∧
      ∀ d, d ≠ c → t.stage d = s.stage d := by
  have hacquire := Step.acquire hstage hfree
  have hrecheck := Step.recheck (stage_move_self { s with lock := some c } c .admitted)
  simp only [store_move, hnew, Bool.false_eq_true, if_false] at hrecheck
  have hstart := Step.start (stage_move_self (move { s with lock := some c } c .admitted) c .ready)
  refine ⟨_, ((Run.single hacquire).snoc hrecheck).snoc hstart, stage_move_self .., ?_⟩
  intro d hd
  simp [hd]

/-- A caller that fetches gets to its result, whatever comes of the fetch. -/
theorem exists_run_finish (hstage : s.stage c = .fetching) (outcome : Except ε (List α)) :
    ∃ T t r, Run s (.finish c outcome :: T) t ∧ (∀ a ∈ T, a.caller? = some c) ∧
      t.stage c = .returned r := by
  cases outcome with
  | error e =>
    have hfail := Step.fail hstage e
    have hrelease := Step.release (stage_move_self s c (.leaving (.error e)))
    exact ⟨[.release c], _, _, (Run.single hfail).snoc hrelease, by simp [Action.caller?],
      stage_move_self ..⟩
  | ok xs =>
    have hsucceed := Step.succeed hstage xs
    obtain ⟨T, t, hadds, hT, ht⟩ := exists_run_add xs xs (stage_move_self s c (.adding xs xs))
    have hmark := Step.mark ht
    have hread := Step.read (stage_move_self { t with store := { t.store with complete := true } } c
      (.reading true))
    have hend : Run t [.mark c, .read c, .release c] _ :=
      ((Run.single hmark).snoc hread).snoc (.release (stage_move_self ..))
    refine ⟨T ++ [.mark c, .read c, .release c], _, _, (Run.single hsucceed).trans (hadds.trans hend), ?_,
      stage_move_self ..⟩
    intro a ha
    rcases List.mem_append.1 ha with ha | ha
    · exact hT a ha
    · simp only [List.mem_cons, List.not_mem_nil, or_false] at ha
      rcases ha with rfl | rfl | rfl <;> rfl

/-- However its fetch ends, a caller can get to its result alone. -/
theorem exists_run_alone (s₀ : Store α) (c : ι) (outcome : Except ε (List α)) :
    ∃ T s, Run ({ store := s₀ } : Crowd ι α ε) T s ∧ (∀ a ∈ T, a.caller? = some c) ∧
      (s₀.complete = false → .finish c outcome ∈ T) ∧ ∃ r, s.stage c = .returned r := by
  have hcheck := Step.check (s := ({ store := s₀ } : Crowd ι α ε)) (c := c) rfl
  cases hcomplete : s₀.complete with
  | true =>
    simp only [hcomplete, if_true] at hcheck
    exact ⟨_, _, (Run.single hcheck).snoc (.read (stage_move_self ..)), by simp [Action.caller?], nofun,
      _, stage_move_self ..⟩
  | false =>
    simp only [hcomplete, Bool.false_eq_true, if_false] at hcheck
    obtain ⟨t, hstart, ht, -⟩ :=
      exists_run_start (stage_move_self { store := s₀ } c .waiting) rfl hcomplete
    obtain ⟨T, u, r, hfinish, hT, hr⟩ := exists_run_finish ht outcome
    refine ⟨_, u, ((Run.single hcheck).trans hstart).trans hfinish, ?_, fun _ => by simp, r, hr⟩
    intro a ha
    simp only [List.cons_append, List.nil_append, List.mem_cons] at ha
    rcases ha with rfl | rfl | rfl | rfl | rfl | ha
    · rfl
    · rfl
    · rfl
    · rfl
    · rfl
    · exact hT a ha

end Crowd

end JiraQuery
