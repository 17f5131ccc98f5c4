import JiraQuery.Metadata.Lookup
import JiraQuery.Net.Error
import JiraQuery.Proofs.Cache.Callers

/-!
# One fetch for all callers

However the steps of the callers fall, the caller that has the lock is the only one that fetches, and
nobody fetches once the store is complete. Each step keeps what is known of the callers by their stages
(`Sound`), so it holds after every run. Main statement: `single_flight`.
-/

namespace JiraQuery

variable {ι α ε : Type} [Entity α]

/-! ## What is known by a stage -/

/-- Entries as a caller gets them: of distinct ids, among them all that were fetched. -/
structure IsSnapshot (T : List (Action ι α ε)) (xs : List α) : Prop where
  nodup : (Entity.ids xs).Nodup
  mem_ids : ∀ ys ∈ fetched T, ∀ y ∈ ys, Entity.id y ∈ Entity.ids xs

/-- What holds when a caller is at a stage, after some steps. -/
def Stage.Fits (store : Store α) (T : List (Action ι α ε)) : Stage α ε → Prop
  | arriving | waiting | admitted | returned (.error _) => True
  | ready | fetching => store.complete = false ∧ fetched T = []
  | adding xs rest => store.complete = false ∧ fetched T = [xs] ∧
      ∀ x ∈ xs, x ∈ rest ∨ Entity.id x ∈ store.ids
  | reading _ => store.complete = true
  | leaving (.error _) => store.complete = false
  | leaving (.ok xs) | returned (.ok xs) => store.complete = true ∧ IsSnapshot T xs

namespace Stage.Fits

variable {g : Stage α ε} {store store' : Store α} {T T' : List (Action ι α ε)}

theorem mono (h : g.Fits store T) (hcomplete : store'.complete = store.complete)
    (hids : store.ids ⊆ store'.ids) (hfetched : fetched T' = fetched T) : g.Fits store' T' := by
  cases g with
  | arriving | waiting | admitted => trivial
  | ready | fetching => exact ⟨hcomplete.trans h.1, hfetched.trans h.2⟩
  | adding xs rest =>
    obtain ⟨hnew, hall, hadded⟩ := h
    exact ⟨hcomplete.trans hnew, hfetched.trans hall, fun x hx => (hadded x hx).imp_right (hids ·)⟩
  | reading locked => exact hcomplete.trans h
  | leaving r =>
    cases r with
    | error e => exact hcomplete.trans h
    | ok xs => exact ⟨hcomplete.trans h.1, h.2.nodup, hfetched ▸ h.2.mem_ids⟩
  | returned r =>
    cases r with
    | error e => trivial
    | ok xs => exact ⟨hcomplete.trans h.1, h.2.nodup, hfetched ▸ h.2.mem_ids⟩

/-- While the store is not complete, a caller without the lock has seen nothing of it. -/
theorem of_not_complete (h : g.Fits store T) (hlock : g.holdsLock = false)
    (hnew : store.complete = false) : g.Fits store' T' := by
  cases g with
  | arriving | waiting => trivial
  | admitted | ready | fetching | adding | leaving => cases hlock
  | reading locked => cases hnew.symm.trans h
  | returned r =>
    cases r with
    | error e => trivial
    | ok xs => cases hnew.symm.trans h.1

end Stage.Fits

omit [Entity α] in
theorem fetched_concat (T : List (Action ι α ε)) (a : Action ι α ε) :
    fetched (T ++ [a]) = fetched T ++ a.fetched?.toList := by
  rw [fetched, List.filterMap_append]
  cases h : a.fetched? <;> simp [fetched, h]

/-! ## What one step keeps -/

/-- What holds after the steps `T` of callers that found the store as `s₀`. -/
structure Sound (s₀ : Store α) (T : List (Action ι α ε)) (s : Crowd ι α ε) : Prop where
  nodup : s.store.ids.Nodup
  holder : ∀ c, (s.stage c).holdsLock = true ↔ s.lock = some c
  fits : ∀ c, (s.stage c).Fits s.store T
  /-- A caller fails if its own fetch does. -/
  failed : ∀ c e, (s.stage c).result? = some (.error e) ↔ .finish c (.error e) ∈ T
  /-- As long as the store is not complete, what was fetched is being added. -/
  pending : s.store.complete = false →
    fetched T = [] ∨ ∃ c xs rest, s.stage c = .adding xs rest
  settled : s.store.complete = true → s₀.complete = true ∧ fetched T = [] ∨
    ∃ xs, fetched T = [xs] ∧ ∀ x ∈ xs, Entity.id x ∈ s.store.ids
  marked : ∀ a ∈ T, a.isMark = true → s.store.complete = true
  /-- No fetch starts after the store has been marked. -/
  ordered : T.Pairwise fun a b => a.isMark = true → b.isStart = false

variable [DecidableEq ι]

open Crowd

namespace Crowd.Step

variable {s t : Crowd ι α ε} {a : Action ι α ε} {c d : ι}

theorem nodup (h : Step s a t) (hs : s.store.ids.Nodup) : t.store.ids.Nodup := by
  cases h with
  | add | tryAdd => exact Store.nodup_ids_tryAdd _ hs
  | _ => exact hs

theorem ids_subset (h : Step s a t) : s.store.ids ⊆ t.store.ids := by
  cases h with
  | add | tryAdd => exact Entity.ids_subset (Entity.prefix_addNew _ _)
  | _ => exact List.Subset.refl _

theorem complete_eq (h : Step s a t) (ha : a.isMark = false) :
    t.store.complete = s.store.complete := by
  cases h with
  | mark => cases ha
  | _ => rfl

/-- A step of one caller leaves the others where they are. -/
theorem stage_eq (h : Step s a t) (hd : a.caller? ≠ some d) : t.stage d = s.stage d := by
  cases h with
  | tryAdd => rfl
  | _ =>
    have hne := fun heq : d = _ => hd (congrArg some heq.symm)
    exact (stage_move _ _ _ _).trans (if_neg hne)

/-- Completeness is never taken back. -/
theorem complete_of (h : Step s a t) (hs : s.store.complete = true) : t.store.complete = true := by
  cases h with
  | mark => rfl
  | _ => exact hs

/-- A step makes a caller fail if it ends the caller's fetch with the error. -/
theorem failed_iff (h : Step s a t) (e : ε) :
    (t.stage d).result? = some (.error e) ↔
      (s.stage d).result? = some (.error e) ∨ a = .finish d (.error e) := by
  by_cases hd : a.caller? = some d
  · cases h with
    | tryAdd => cases hd
    | check hstage | recheck hstage | read hstage =>
      cases hd
      simp only [stage_move, if_true, hstage]
      split <;> simp [Stage.result?]
    | _ hstage =>
      cases hd
      simp [hstage, Stage.result?]
  · have hne : a ≠ .finish d (.error e) := fun heq => hd (heq ▸ rfl)
    rw [h.stage_eq hd, or_iff_left hne]

end Crowd.Step

namespace Sound

variable {s₀ : Store α} {T : List (Action ι α ε)} {s t : Crowd ι α ε} {a : Action ι α ε} {c d : ι}

omit [DecidableEq ι] in
theorem start (h : s₀.ids.Nodup) : Sound s₀ [] ({ store := s₀ } : Crowd ι α ε) where
  nodup := h
  holder c := by simp [Stage.holdsLock]
  fits c := trivial
  failed c e := by simp [Stage.result?]
  pending _ := .inl rfl
  settled hs := .inl ⟨hs, rfl⟩
  marked := by simp
  ordered := .nil

omit [DecidableEq ι] in
/-- Only one caller has the lock. -/
theorem eq_of_holdsLock (h : Sound s₀ T s) (hc : (s.stage c).holdsLock = true)
    (hd : (s.stage d).holdsLock = true) : c = d :=
  Option.some.inj (((h.holder c).1 hc).symm.trans ((h.holder d).1 hd))

omit [DecidableEq ι] in
/-- A caller that has the lock and does not add anything knows that nothing was fetched, as long as the
store is not complete. -/
theorem fetched_eq_nil (h : Sound s₀ T s) (hc : (s.stage c).holdsLock = true)
    (hadding : ∀ xs rest, s.stage c ≠ .adding xs rest) (hnew : s.store.complete = false) :
    fetched T = [] := by
  rcases h.pending hnew with hnil | ⟨d, xs, rest, hd⟩
  · exact hnil
  · have hlock : (s.stage d).holdsLock = true := by rw [hd]; rfl
    obtain rfl := h.eq_of_holdsLock hc hlock
    exact absurd hd (hadding xs rest)

theorem holder_move {g : Stage α ε} (h : Sound s₀ T s)
    (hg : g.holdsLock = (s.stage c).holdsLock) (d : ι) :
    ((s.move c g).stage d).holdsLock = true ↔ s.lock = some d := by
  rw [stage_move, ← h.holder d]
  by_cases hd : d = c
  · rw [if_pos hd, hg, hd]
  · rw [if_neg hd]

theorem holder_step (h : Sound s₀ T s) (hstep : Step s a t) (d : ι) :
    (t.stage d).holdsLock = true ↔ t.lock = some d := by
  cases hstep with
  | @acquire c hstage hfree =>
    have hd := h.holder d
    rw [hfree] at hd
    rw [stage_move]
    by_cases heq : d = c
    · simp [heq, Stage.holdsLock]
    · rw [if_neg heq, hd]
      simp [Ne.symm heq]
  | @release c r hstage =>
    rw [stage_move]
    by_cases heq : d = c
    · simp [heq, Stage.holdsLock]
    · have hc : (s.stage c).holdsLock = true := by rw [hstage]; rfl
      rw [if_neg heq, lock_move]
      simpa using fun hd => heq (h.eq_of_holdsLock hd hc)
  | check hstage | recheck hstage | read hstage =>
    refine h.holder_move ?_ d
    rw [hstage]
    split <;> simp_all [Stage.holdsLock]
  | tryAdd => exact h.holder d
  | _ hstage => exact h.holder_move (by simp [hstage, Stage.holdsLock]) d

/-- The step of another caller does not belie what is known of a caller. -/
theorem fits_other (h : Sound s₀ T s) (hstep : Step s a t) (hd : a.caller? ≠ some d) :
    (t.stage d).Fits t.store (T ++ [a]) := by
  have hquiet (hmark : a.isMark = false) (hfetched : a.fetched? = none) :
      (t.stage d).Fits t.store (T ++ [a]) := by
    rw [hstep.stage_eq hd]
    refine (h.fits d).mono (hstep.complete_eq hmark) hstep.ids_subset ?_
    rw [fetched_concat, hfetched]
    exact List.append_nil _
  have hlate {c : ι} (hc : (s.stage c).holdsLock = true) (hne : d ≠ c)
      (hnew : s.store.complete = false) : (t.stage d).Fits t.store (T ++ [a]) := by
    have hlock : (s.stage d).holdsLock = false :=
      Bool.eq_false_iff.2 fun hlock => hne (h.eq_of_holdsLock hlock hc)
    rw [hstep.stage_eq hd]
    exact (h.fits d).of_not_complete hlock hnew
  cases hstep with
  | @succeed c hstage xs | @mark c xs hstage =>
    have hfits := h.fits c
    rw [hstage] at hfits
    exact hlate (c := c) (by rw [hstage]; rfl) (fun heq => hd (congrArg some heq.symm)) hfits.1
  | _ => exact hquiet rfl rfl

theorem fits_caller (h : Sound s₀ T s) (hstep : Step s a t) (hc : a.caller? = some c) :
    (t.stage c).Fits t.store (T ++ [a]) := by
  have hfits := h.fits c
  cases hstep with
  | tryAdd => cases hc
  | check hstage =>
    cases hc
    rw [stage_move_self]
    split
    · next hcomplete => exact hcomplete
    · trivial
  | acquire hstage hfree =>
    cases hc
    rw [stage_move_self]
    trivial
  | recheck hstage =>
    cases hc
    rw [stage_move_self]
    cases hcomplete : s.store.complete with
    | true => exact hcomplete
    | false =>
      have hnil := h.fetched_eq_nil (by rw [hstage]; rfl) (by simp [hstage]) hcomplete
      exact ⟨hcomplete, by rw [fetched_concat, hnil]; rfl⟩
  | start hstage =>
    cases hc
    rw [hstage] at hfits
    rw [stage_move_self]
    exact ⟨hfits.1, by rw [fetched_concat, hfits.2]; rfl⟩
  | succeed hstage xs =>
    cases hc
    rw [hstage] at hfits
    rw [stage_move_self]
    exact ⟨hfits.1, by rw [fetched_concat, hfits.2]; rfl, fun x hx => .inl hx⟩
  | fail hstage e =>
    cases hc
    rw [hstage] at hfits
    rw [stage_move_self]
    exact hfits.1
  | @add c x xs rest hstage =>
    cases hc
    rw [hstage] at hfits
    obtain ⟨hnew, hall, hadded⟩ := hfits
    rw [stage_move_self]
    refine ⟨hnew, by rw [fetched_concat, hall]; rfl, fun y hy => ?_⟩
    rcases hadded y hy with hrest | hids
    · rcases List.mem_cons.1 hrest with rfl | hrest
      · exact .inr (Entity.id_mem_ids_addNew _ y)
      · exact .inl hrest
    · exact .inr (Entity.ids_subset (Entity.prefix_addNew _ x) hids)
  | mark hstage =>
    cases hc
    rw [stage_move_self]
    rfl
  | @read c locked hstage =>
    cases hc
    rw [hstage] at hfits
    have hcopy : s.store.complete = true ∧ IsSnapshot (T ++ [.read c]) s.store.entries := by
      refine ⟨hfits, h.nodup, fun ys hys => ?_⟩
      rw [fetched_concat] at hys
      rcases h.settled hfits with ⟨-, hnil⟩ | ⟨xs, hall, hids⟩
      · simp [hnil, Action.fetched?] at hys
      · obtain rfl : ys = xs := by simpa [hall, Action.fetched?] using hys
        exact hids
    rw [stage_move_self]
    cases locked with
    | true => exact hcopy
    | false => exact hcopy
  | @release c r hstage =>
    cases hc
    rw [hstage] at hfits
    rw [stage_move_self]
    cases r with
    | error e => trivial
    | ok xs => exact hfits.mono rfl (List.Subset.refl _) (by rw [fetched_concat]; simp [Action.fetched?])

theorem fits_step (h : Sound s₀ T s) (hstep : Step s a t) (d : ι) :
    (t.stage d).Fits t.store (T ++ [a]) := by
  by_cases hd : a.caller? = some d
  · exact h.fits_caller hstep hd
  · exact h.fits_other hstep hd

theorem failed_step (h : Sound s₀ T s) (hstep : Step s a t) (d : ι) (e : ε) :
    (t.stage d).result? = some (.error e) ↔ .finish d (.error e) ∈ T ++ [a] := by
  rw [hstep.failed_iff, h.failed, List.mem_append, List.mem_singleton, eq_comm (a := a)]

theorem pending_step (h : Sound s₀ T s) (hstep : Step s a t) (hnew : t.store.complete = false) :
    fetched (T ++ [a]) = [] ∨ ∃ c xs rest, t.stage c = .adding xs rest := by
  have hnew' : s.store.complete = false :=
    Bool.eq_false_iff.2 fun hs => by simp [hstep.complete_of hs] at hnew
  rcases h.pending hnew' with hnil | ⟨c, xs, rest, hc⟩
  · rw [fetched_concat, hnil]
    cases hstep with
    | @succeed c hstage xs => exact .inr ⟨c, xs, xs, stage_move_self ..⟩
    | _ => exact .inl rfl
  · by_cases hcaller : a.caller? = some c
    · -- the caller that adds what it fetched goes on with that
      cases hstep with
      | @add c x ys rest hstage => exact .inr ⟨c, ys, rest, stage_move_self ..⟩
      | mark hstage => cases hnew
      | tryAdd => cases hcaller
      | _ hstage => cases hcaller; cases hstage.symm.trans hc
    · exact .inr ⟨c, xs, rest, (hstep.stage_eq hcaller).trans hc⟩

theorem settled_step (h : Sound s₀ T s) (hstep : Step s a t) (hcomplete : t.store.complete = true) :
    s₀.complete = true ∧ fetched (T ++ [a]) = [] ∨
      ∃ xs, fetched (T ++ [a]) = [xs] ∧ ∀ x ∈ xs, Entity.id x ∈ t.store.ids := by
  have hquiet (hs : s.store.complete = true) (hfetched : a.fetched? = none) :
      s₀.complete = true ∧ fetched (T ++ [a]) = [] ∨
        ∃ xs, fetched (T ++ [a]) = [xs] ∧ ∀ x ∈ xs, Entity.id x ∈ t.store.ids := by
    rw [fetched_concat, hfetched, Option.toList_none, List.append_nil]
    exact (h.settled hs).imp_right fun ⟨xs, hall, hids⟩ =>
      ⟨xs, hall, fun x hx => hstep.ids_subset (hids x hx)⟩
  cases hstep with
  | @succeed c hstage xs =>
    have hfits := h.fits c
    rw [hstage] at hfits
    cases hfits.1.symm.trans hcomplete
  | @mark c xs hstage =>
    have hfits := h.fits c
    rw [hstage] at hfits
    obtain ⟨-, hall, hadded⟩ := hfits
    refine .inr ⟨xs, by rw [fetched_concat, hall]; rfl, fun x hx => ?_⟩
    exact (hadded x hx).resolve_left List.not_mem_nil
  | _ => exact hquiet hcomplete rfl

theorem marked_step (h : Sound s₀ T s) (hstep : Step s a t) :
    ∀ b ∈ T ++ [a], b.isMark = true → t.store.complete = true := by
  intro b hb hmark
  rcases List.mem_append.1 hb with hb | hb
  · exact hstep.complete_of (h.marked b hb hmark)
  · obtain rfl := List.mem_singleton.1 hb
    cases hstep with
    | mark => rfl
    | _ => cases hmark

theorem ordered_step (h : Sound s₀ T s) (hstep : Step s a t) :
    (T ++ [a]).Pairwise fun a b => a.isMark = true → b.isStart = false := by
  refine List.pairwise_append.2 ⟨h.ordered, List.pairwise_singleton .., fun b hb a' ha' hmark => ?_⟩
  obtain rfl := List.mem_singleton.1 ha'
  cases hstep with
  | @start c hstage =>
    have hfits := h.fits c
    rw [hstage] at hfits
    cases hfits.1.symm.trans (h.marked b hb hmark)
  | _ => rfl

theorem step (h : Sound s₀ T s) (hstep : Step s a t) : Sound s₀ (T ++ [a]) t where
  nodup := hstep.nodup h.nodup
  holder := h.holder_step hstep
  fits := h.fits_step hstep
  failed := h.failed_step hstep
  pending := h.pending_step hstep
  settled := h.settled_step hstep
  marked := h.marked_step hstep
  ordered := h.ordered_step hstep

theorem run (hids : s₀.ids.Nodup) (h : Run ({ store := s₀ } : Crowd ι α ε) T s) : Sound s₀ T s := by
  induction h with
  | refl => exact start hids
  | snoc _ hstep ih => exact ih.step hstep

end Sound

/-! ## All runs -/

/-- What callers that found the store as `s₀` can rely on after the steps `T`. -/
structure SingleFlight (s₀ : Store α) (T : List (Action ι α ε)) (s : Crowd ι α ε) : Prop where
  one_in_flight : ∀ c d, s.stage c = .fetching → s.stage d = .fetching → c = d
  one_success : (fetched T).length ≤ 1
  /-- No fetch starts after the store has been marked, nor while it is complete. -/
  ordered : T.Pairwise fun a b => a.isMark = true → b.isStart = false
  no_start : s.store.complete = true → ∀ a t, Step s a t → a.isStart = false
  /-- The error of a failed fetch goes to the caller that fetched, and to nobody else. -/
  failed : ∀ c e, (s.stage c).result? = some (.error e) ↔ .finish c (.error e) ∈ T
  /-- When it leaves, anyone who waits may be the next to fetch. -/
  next_fetch : ∀ c d e, s.stage c = .leaving (.error e) → s.stage d = .waiting →
    ∃ t, Run s [.release c, .acquire d, .recheck d, .start d] t ∧ t.stage d = .fetching ∧
      t.stage c = .returned (.error e)
  snapshot : ∀ c xs, s.stage c = .returned (.ok xs) → IsSnapshot T xs
  /-- Somebody has fetched the collection, if it was not there from the start. -/
  success : ∀ c xs, s.stage c = .returned (.ok xs) → s₀.complete = false → ∃ ys, fetched T = [ys]

theorem Sound.singleFlight {s₀ : Store α} {T : List (Action ι α ε)} {s : Crowd ι α ε}
    (h : Sound s₀ T s) : SingleFlight s₀ T s where
  one_in_flight c d hc hd := h.eq_of_holdsLock (by rw [hc]; rfl) (by rw [hd]; rfl)
  one_success := by
    cases hcomplete : s.store.complete with
    | true =>
      rcases h.settled hcomplete with ⟨-, hall⟩ | ⟨xs, hall, -⟩
      · simp [hall]
      · simp [hall]
    | false =>
      rcases h.pending hcomplete with hall | ⟨c, xs, rest, hc⟩
      · simp [hall]
      · have hfits := h.fits c
        rw [hc] at hfits
        simp [hfits.2.1]
  ordered := h.ordered
  no_start hcomplete a t hstep := by
    cases hstep with
    | @start c hstage =>
      have hfits := h.fits c
      rw [hstage] at hfits
      cases hfits.1.symm.trans hcomplete
    | _ => rfl
  failed := h.failed
  next_fetch c d e hc hd := by
    have hne : d ≠ c := by
      rintro rfl
      cases hc.symm.trans hd
    have hnew := h.fits c
    rw [hc] at hnew
    have hrelease := Step.release hc
    have hwaits : (move { s with lock := none } c (.returned (.error e))).stage d = .waiting := by
      rw [stage_move, if_neg hne]
      exact hd
    obtain ⟨t, hrun, ht, hothers⟩ := exists_run_start hwaits rfl hnew
    exact ⟨t, (Run.single hrelease).trans hrun, ht, (hothers c hne.symm).trans (stage_move_self ..)⟩
  snapshot c xs hc := by
    have hfits := h.fits c
    rw [hc] at hfits
    exact hfits.2
  success c xs hc hnew := by
    have hfits := h.fits c
    rw [hc] at hfits
    rcases h.settled hfits.1 with ⟨hcomplete, -⟩ | ⟨ys, hall, -⟩
    · cases hnew.symm.trans hcomplete
    · exact ⟨ys, hall⟩

/-- Whatever the order in which any number of callers come and go, one fetch at a time is in flight and
at most one succeeds; whoever gets the collection gets all that was fetched. -/
theorem single_flight {s₀ : Store α} {T : List (Action ι α ε)} {s : Crowd ι α ε}
    (hids : s₀.ids.Nodup) (h : Run ({ store := s₀ } : Crowd ι α ε) T s) : SingleFlight s₀ T s :=
  (Sound.run hids h).singleFlight

/-! ## Three callers -/

def blocker : Priority := { id := "1", name := "Blocker" }

def major : Priority := { id := "2", name := "Major" }

/-- The fetch of the first caller fails, the second one waits and fetches again, the third one comes while
that fetch is in flight. Meanwhile one of the entities is added by somebody else. -/
def threeCallers : List (Action (Fin 3) Priority ApiError) :=
  [.check 0, .check 1, .acquire 0, .recheck 0, .start 0, .finish 0 (.error .network), .release 0,
    .acquire 1, .recheck 1, .start 1, .check 2, .tryAdd major, .finish 1 (.ok [blocker, major]), .add 1,
    .add 1, .mark 1, .read 1, .release 1, .acquire 2, .recheck 2, .read 2, .release 2]

theorem single_flight_threeCallers : ∃ s,
    ({} : Store Priority).ids.Nodup ∧ Run { store := {} } threeCallers s ∧
      SingleFlight {} threeCallers s ∧ s.stage 0 = .returned (.error .network) ∧
      s.stage 1 = .returned (.ok [major, blocker]) ∧ s.stage 2 = .returned (.ok [major, blocker]) := by
  have hids : ({} : Store Priority).ids.Nodup := List.nodup_nil
  have hstart : Run ({ store := {} } : Crowd (Fin 3) Priority ApiError) [] { store := {} } := .refl
  have h := hstart.snoc (.check (c := 0) rfl)
  have h := h.snoc (.check (c := 1) rfl)
  have h := h.snoc (.acquire (c := 0) rfl rfl)
  have h := h.snoc (.recheck (c := 0) rfl)
  have h := h.snoc (.start (c := 0) rfl)
  have h := h.snoc (.fail (c := 0) rfl .network)
  have h := h.snoc (.release (c := 0) rfl)
  have h := h.snoc (.acquire (c := 1) rfl rfl)
  have h := h.snoc (.recheck (c := 1) rfl)
  have h := h.snoc (.start (c := 1) rfl)
  have h := h.snoc (.check (c := 2) rfl)
  have h := h.snoc (.tryAdd major)
  have h := h.snoc (.succeed (c := 1) rfl [blocker, major])
  have h := h.snoc (.add (c := 1) rfl)
  have h := h.snoc (.add (c := 1) rfl)
  have h := h.snoc (.mark (c := 1) rfl)
  have h := h.snoc (.read (c := 1) rfl)
  have h := h.snoc (.release (c := 1) rfl)
  have h := h.snoc (.acquire (c := 2) rfl rfl)
  have h := h.snoc (.recheck (c := 2) rfl)
  have h := h.snoc (.read (c := 2) rfl)
  have hrun := h.snoc (.release (c := 2) rfl)
  exact ⟨_, hids, hrun, single_flight hids hrun, rfl, rfl, rfl⟩

end JiraQuery
