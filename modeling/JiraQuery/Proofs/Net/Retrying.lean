import JiraQuery.Proofs.Net.Asking

/-!
# Attempts

A request is sent again while it fails in a way that may pass and attempts are left, unless the caller
cancels. What a client does is given by its replies, of which there is one for every attempt that could be
made: `Client.course`, all that a run of attempts can do, and from it `Client.persists_executeRaw`, how many
requests go out, how long the waits are and what comes back.
-/

namespace JiraQuery

/-! ## Replies -/

/-- Nothing follows a success or an error that does not pass. -/
def isFinal : Except ApiError Json → Bool
  | .ok _ => true
  | .error e => !e.isRetryable

/-- What an outcome means to a caller who had not cancelled before. -/
def Outcome.verdict (token : Token) (url : String) : Outcome → Except ApiError Json
  | answered status body => Response.read url status body
  | dropped => .error .network
  | interrupted t => if t = token then .error .cancelled else .error .network

namespace Link

/-- Whether a request gets to a server. -/
def carries (l : Link) (r : Request) : Bool :=
  l.server.isSome && r.isSendable

/-- What becomes of a request at the attempt with this number; the first one has number 0. -/
def reply (l : Link) (r : Request) (i : ℕ) : Reply :=
  match l.server with
  | some answer => if r.isSendable then answer (l.requests.length + i) r else { outcome := .dropped }
  | none => { outcome := .dropped }

/-- What an attempt comes to. -/
def verdict (l : Link) (token : Token) (r : Request) (i : ℕ) : Except ApiError Json :=
  (l.reply r i).outcome.verdict token r.url

/-- Whether another attempt follows, if one is left: a failure that may pass, and nobody cancels in the
wait after it. -/
def passes (l : Link) (token : Token) (r : Request) (i : ℕ) : Prop :=
  isFinal (l.verdict token r i) = false ∧ (l.reply r i).cancelOnRetry ≠ some token

/-- How many attempts there are up to the first one that is final, if there is any. -/
noncomputable def firstFinal (l : Link) (token : Token) (r : Request) : ℕ∞ :=
  ⨅ i ∈ {i : ℕ | isFinal (l.verdict token r i) = true}, ((i + 1 : ℕ) : ℕ∞)

/-- The requests of so many attempts: each is the same one. -/
def copies (l : Link) (r : Request) (n : ℕ) : List Request :=
  if l.carries r then List.replicate n r else []

/-- The waits of so many further failures. -/
def pauses (l : Link) (r : Request) (failures n : ℕ) : List Wait :=
  (List.range n).map fun i =>
    ⟨(l.requests ++ l.copies r (i + 1)).length, min (1000 * 2 ^ (failures + i)) 60000⟩

/-- The link after so many attempts and waits, before which there were so many failures. -/
structure Tried (l : Link) (r : Request) (failures attempts waits : ℕ) (m : Link) : Prop where
  server_eq : m.server = l.server
  requests_eq : m.requests = l.requests ++ l.copies r attempts
  waits_eq : m.waits = l.waits ++ l.pauses r failures waits

variable {l m n : Link} {token : Token} {r : Request} {failures k : ℕ}

theorem copies_succ (l : Link) (r : Request) (k : ℕ) : l.copies r (k + 1) = l.copies r 1 ++ l.copies r k := by
  unfold copies
  split
  · rfl
  · rfl

theorem Tried.copies_eq (h : l.Tried r failures 1 k m) (i : ℕ) : m.copies r i = l.copies r i := by
  unfold copies carries
  rw [h.server_eq]

/-- The replies of the attempts that follow the first one. -/
theorem Tried.reply_eq (h : l.Tried r failures 1 k m) (i : ℕ) : m.reply r i = l.reply r (i + 1) := by
  unfold reply
  rw [h.server_eq, h.requests_eq]
  cases hserver : l.server with
  | none => rfl
  | some answer =>
    cases hsendable : r.isSendable with
    | false => rfl
    | true =>
      have hcopies : (l.copies r 1).length = 1 := by simp [copies, carries, hserver, hsendable]
      simp only [if_true, List.length_append, hcopies, Nat.add_assoc, Nat.add_comm 1 i]

theorem Tried.verdict_eq (h : l.Tried r failures 1 k m) (i : ℕ) :
    m.verdict token r i = l.verdict token r (i + 1) := by
  unfold verdict
  rw [h.reply_eq]

theorem Tried.passes_iff (h : l.Tried r failures 1 k m) (i : ℕ) :
    m.passes token r i ↔ l.passes token r (i + 1) := by
  unfold passes
  rw [h.verdict_eq, h.reply_eq]

theorem Tried.pauses_eq (h : l.Tried r failures 1 1 m) (k : ℕ) :
    l.pauses r failures (k + 1) = l.pauses r failures 1 ++ m.pauses r (failures + 1) k := by
  unfold pauses
  rw [List.range_succ_eq_map, List.map_cons, List.map_map]
  refine congrArg (_ :: ·) (List.map_congr_left fun i _ => ?_)
  show (⟨_, _⟩ : Wait) = ⟨_, _⟩
  rw [h.copies_eq, h.requests_eq, List.append_assoc, ← copies_succ, Nat.add_right_comm failures 1 i,
    Nat.add_assoc failures i 1]

theorem send_eq_reply (l : Link) (r : Request) :
    l.send r = (l.reply r 0, { l with requests := l.requests ++ l.copies r 1 }) := by
  obtain ⟨server, cancelled, requests, waits, events⟩ := l
  cases server with
  | none => simp [send, reply, copies, carries]
  | some answer => cases hsendable : r.isSendable <;> simp [send, reply, copies, carries, hsendable]

/-- More attempts after the first one. -/
theorem Tried.cons {attempts waits : ℕ} (h : l.Tried r failures 1 1 m)
    (hrest : m.Tried r (failures + 1) attempts waits n) :
    l.Tried r failures (attempts + 1) (waits + 1) n where
  server_eq := hrest.server_eq.trans h.server_eq
  requests_eq := by rw [hrest.requests_eq, h.requests_eq, h.copies_eq, List.append_assoc, ← copies_succ]
  waits_eq := by rw [hrest.waits_eq, h.waits_eq, List.append_assoc, ← h.pauses_eq]

end Link

/-! ## Runs of attempts -/

namespace Client

variable {l m : Link} {token : Token} {r : Request} {failures left k : ℕ}

/-- An attempt of a caller who has not cancelled. -/
theorem attempt_of_not_cancelled (r : Request) (hl : l.isCancelled token = false) (failures : ℕ) :
    ∃ m, attempt token r l = ((l.verdict token r 0, (l.reply r 0).cancelOnRetry), m) ∧
      l.Tried r failures 1 0 m ∧
      m.isCancelled token = decide ((l.reply r 0).outcome = .interrupted token) := by
  have hnone : l.waits = l.waits ++ l.pauses r failures 0 := (List.append_nil _).symm
  rw [attempt_eq, hl, if_neg Bool.false_ne_true, l.send_eq_reply]
  unfold Link.verdict
  cases (l.reply r 0).outcome with
  | answered status body => exact ⟨_, rfl, ⟨rfl, rfl, hnone⟩, hl⟩
  | dropped => exact ⟨_, rfl, ⟨rfl, rfl, hnone⟩, hl⟩
  | interrupted t =>
    let m := Link.cancel t { l with requests := l.requests ++ l.copies r 1 }
    have hm : m.isCancelled token = decide (t = token) := by
      rw [Link.isCancelled_cancel]
      show (token == t || l.isCancelled token) = decide (t = token)
      rw [hl, Bool.or_false, beq_eq_decide]
      exact decide_eq_decide.2 eq_comm
    refine ⟨m, ?_, ⟨rfl, rfl, hnone⟩, ?_⟩
    · show ((Except.error (if m.isCancelled token then ApiError.cancelled else .network), _), m) =
        ((if t = token then .error .cancelled else .error .network, _), m)
      rw [hm]
      by_cases ht : t = token
      · simp only [ht, decide_true, if_true]
      · simp only [ht, decide_false, Bool.false_eq_true, if_false]
    · rw [hm]
      exact decide_eq_decide.2 ⟨congrArg _, Outcome.interrupted.inj⟩

theorem tried_backOff (h : l.Tried r failures 1 0 m) (hfailures : failures + 1 < 2 ^ 32)
    (cancelled : Option Token) : l.Tried r failures 1 1 (backOff (failures + 1) cancelled m).2 := by
  have hdelay : (retryDelay (UInt32.ofNat (failures + 1))).toNat = min (1000 * 2 ^ (failures + 0)) 60000 := by
    rw [toNat_retryDelay, UInt32.toNat_ofNat_of_lt' hfailures]
    rfl
  refine ⟨?_, (requests_backOff _ _ m).trans h.requests_eq, ?_⟩
  · cases cancelled with
    | none => exact h.server_eq
    | some t => exact h.server_eq
  · have hwaits : (backOff (failures + 1) cancelled m).2.waits =
        m.waits ++ [⟨m.requests.length, (retryDelay (UInt32.ofNat (failures + 1))).toNat⟩] := by
      cases cancelled with
      | none => rfl
      | some t => rfl
    rw [hwaits, h.waits_eq, hdelay, h.requests_eq]
    show (l.waits ++ []) ++ _ = _
    rw [List.append_nil]
    rfl

theorem isCancelled_backOff (cancelled : Option Token) (l : Link) :
    (backOff failures cancelled l).2.isCancelled token =
      (decide (cancelled = some token) || l.isCancelled token) := by
  cases cancelled with
  | none => rfl
  | some t =>
    show (Link.cancel t _).isCancelled token = _
    rw [Link.isCancelled_cancel, Link.isCancelled_wait, beq_eq_decide]
    refine congrArg (· || l.isCancelled token) (decide_eq_decide.2 ⟨fun h => ?_, fun h => ?_⟩)
    · rw [h]
    · exact (Option.some.inj h).symm

theorem attempts_of_cancelled (hl : l.isCancelled token = true) (left failures : ℕ) :
    attempts token r left failures l = (.error .cancelled, l) := by
  have hattempt : attempt token r l = ((.error .cancelled, none), l) := by
    rw [attempt_eq, hl, if_pos rfl]
  cases left with
  | zero =>
    show (Prod.fst (attempt token r l).1, (attempt token r l).2) = _
    rw [hattempt]
  | succ left =>
    rw [attempts_succ, hattempt]
    rfl

theorem verdict_of_interrupted {i : ℕ} (h : (l.reply r i).outcome = .interrupted token) :
    l.verdict token r i = .error .cancelled ∧ isFinal (l.verdict token r i) = true := by
  have hverdict : l.verdict token r i = .error .cancelled := by
    unfold Link.verdict
    rw [h]
    exact if_pos rfl
  rw [hverdict]
  exact ⟨rfl, rfl⟩

/-- All that a run of attempts can do: the last attempt, by its number, what comes back, and the link after
it. Before that attempt every one passes. -/
inductive Course (token : Token) (r : Request) (l : Link) (failures left : ℕ) :
    ℕ → Except ApiError Json → Link → Prop
  | answered {i : ℕ} {m : Link} (hi : i ≤ left) (hpasses : ∀ j < i, l.passes token r j)
      (hlast : i = left ∨ isFinal (l.verdict token r i) = true) (hm : l.Tried r failures (i + 1) i m) :
      Course token r l failures left i (l.verdict token r i) m
  /-- The wait before another attempt is not over when the caller cancels. -/
  | cancelled {i : ℕ} {m : Link} (hi : i < left) (hpasses : ∀ j < i, l.passes token r j)
      (hfails : isFinal (l.verdict token r i) = false)
      (hcancelled : (l.reply r i).cancelOnRetry = some token)
      (hm : l.Tried r failures (i + 1) (i + 1) m) :
      Course token r l failures left i (.error .cancelled) m

/-- A run after an attempt that passes. -/
theorem Course.cons {n : Link} {i : ℕ} {result : Except ApiError Json} (hfirst : l.passes token r 0)
    (hm : l.Tried r failures 1 1 m) (h : Course token r m (failures + 1) left i result n) :
    Course token r l failures (left + 1) (i + 1) result n := by
  have hbefore : (∀ j < i, m.passes token r j) → ∀ j < i + 1, l.passes token r j := by
    intro hpasses j hj
    cases j with
    | zero => exact hfirst
    | succ j => exact (hm.passes_iff j).1 (hpasses j (Nat.lt_of_succ_lt_succ hj))
  cases h with
  | answered hi hpasses hlast hn =>
    rw [hm.verdict_eq] at hlast ⊢
    exact .answered (Nat.succ_le_succ hi) (hbefore hpasses) (hlast.imp_left (congrArg Nat.succ)) (hm.cons hn)
  | cancelled hi hpasses hfails hcancelled hn =>
    rw [hm.verdict_eq] at hfails
    rw [hm.reply_eq] at hcancelled
    exact .cancelled (Nat.succ_lt_succ hi) (hbefore hpasses) hfails hcancelled (hm.cons hn)

/-- By induction on how many attempts are left. No count of failures is too large for a word. -/
theorem course (r : Request) (hl : l.isCancelled token = false) (hcount : failures + left < 2 ^ 32) :
    ∃ i, Course token r l failures left i (attempts token r left failures l).1
      (attempts token r left failures l).2 := by
  induction left generalizing failures l with
  | zero =>
    obtain ⟨m, hattempt, hm, -⟩ := attempt_of_not_cancelled r hl failures
    have hrun : attempts token r 0 failures l = (l.verdict token r 0, m) := by
      show (Prod.fst (attempt token r l).1, (attempt token r l).2) = _
      rw [hattempt]
    rw [hrun]
    exact ⟨0, .answered (Nat.le_refl 0) (fun _ hj => absurd hj (Nat.not_lt_zero _)) (.inl rfl) hm⟩
  | succ left ih =>
    obtain ⟨m, hattempt, hm, hcancelled⟩ := attempt_of_not_cancelled r hl failures
    have hfinal : isFinal (l.verdict token r 0) = true →
        Course token r l failures (left + 1) 0 (l.verdict token r 0) m := fun h =>
      .answered (Nat.zero_le _) (fun _ hj => absurd hj (Nat.not_lt_zero _)) (.inr h) hm
    rw [attempts_succ, hattempt]
    cases hverdict : l.verdict token r 0 with
    | ok j =>
      rw [hverdict] at hfinal
      exact ⟨0, hfinal rfl⟩
    | error e =>
      cases hretry : e.isRetryable with
      | false =>
        refine ⟨0, ?_⟩
        rw [hverdict] at hfinal
        simp only [hretry, Bool.false_eq_true, if_false]
        exact hfinal (by simp only [isFinal, hretry]; rfl)
      | true =>
        have hfails : isFinal (l.verdict token r 0) = false := by
          rw [hverdict]
          simp only [isFinal, hretry]
          rfl
        have hquiet : m.isCancelled token = false := by
          rw [hcancelled]
          refine decide_eq_false fun houtcome => ?_
          rw [(verdict_of_interrupted houtcome).2] at hfails
          cases hfails
        simp only [hretry, if_true]
        have hwait := tried_backOff hm (by omega) (l.reply r 0).cancelOnRetry
        -- Only the caller's own token ends the wait; that of another request leaves the run as it is.
        by_cases htoken : (l.reply r 0).cancelOnRetry = some token
        · rw [attempts_of_cancelled (by rw [isCancelled_backOff, decide_eq_true htoken]; rfl)]
          exact ⟨0, .cancelled (Nat.succ_pos left) (fun _ hj => absurd hj (Nat.not_lt_zero _)) hfails htoken hwait⟩
        · have hopen : (backOff (failures + 1) (l.reply r 0).cancelOnRetry m).2.isCancelled token = false := by
            rw [isCancelled_backOff, decide_eq_false htoken, hquiet]
            rfl
          have hcount' : failures + 1 + left < 2 ^ 32 := by omega
          obtain ⟨i, hrest⟩ := ih hopen hcount'
          exact ⟨i + 1, hrest.cons ⟨hfails, htoken⟩ hwait⟩

/-! ## Requests of a client -/

/-- Whether the caller cancels while the attempt with this number is in flight, or in the wait after it. -/
def cancelsAt (token : Token) (r : Request) (l : Link) (limit i : ℕ) : Prop :=
  (l.reply r i).outcome = .interrupted token ∨
    i + 1 < limit ∧ isFinal (l.verdict token r i) = false ∧ (l.reply r i).cancelOnRetry = some token

/-- What becomes of a request for which so many attempts are allowed, whatever the replies are. -/
structure Persists (limit : ℕ) (token : Token) (r : Request) (l : Link) (result : Except ApiError Json)
    (m : Link) : Prop where
  /-- If the caller does not cancel, there are attempts up to the first final one, but not more than are
  allowed. The last one gives the result, and there is a wait after every other one. -/
  uncancelled : l.isCancelled token = false →
    (∀ i < limit, (∀ j < i, l.passes token r j) → ¬cancelsAt token r l limit i) →
    ∃ i : ℕ, ((i + 1 : ℕ) : ℕ∞) = min (limit : ℕ∞) (l.firstFinal token r) ∧
      result = l.verdict token r i ∧ l.Tried r 0 (i + 1) i m
  /-- If the caller has cancelled, nothing goes out. -/
  cancelled_before : l.isCancelled token = true → result = .error .cancelled ∧ m = l
  /-- If the caller cancels later, no request follows. -/
  cancelled_after : l.isCancelled token = false → ∀ i < limit, (∀ j < i, l.passes token r j) →
    cancelsAt token r l limit i →
    result = .error .cancelled ∧ ∃ waits ≤ i + 1, l.Tried r 0 (i + 1) waits m

/-- The first final attempt is not among those that pass. -/
theorem le_firstFinal {i : ℕ} (hpasses : ∀ j < i, l.passes token r j) :
    ((i + 1 : ℕ) : ℕ∞) ≤ l.firstFinal token r := by
  refine le_iInf₂ fun j hj => ?_
  have hle : i ≤ j := by
    by_contra hlt
    have hfails := (hpasses j (Nat.lt_of_not_le hlt)).1
    rw [Set.mem_ofPred_eq, hfails] at hj
    cases hj
  exact Nat.cast_le.2 (Nat.succ_le_succ hle)

/-- The number of attempts when the last one is final or no other one is allowed. -/
theorem count_eq {i : ℕ} (hi : i ≤ left) (hpasses : ∀ j < i, l.passes token r j)
    (hlast : i = left ∨ isFinal (l.verdict token r i) = true) :
    ((i + 1 : ℕ) : ℕ∞) = min ((left + 1 : ℕ) : ℕ∞) (l.firstFinal token r) := by
  have hle := le_firstFinal hpasses
  rcases hlast with rfl | hfinal
  · exact (min_eq_left hle).symm
  · have heq : l.firstFinal token r = ((i + 1 : ℕ) : ℕ∞) := le_antisymm (iInf₂_le i hfinal) hle
    rw [heq, min_eq_right (Nat.cast_le.2 (Nat.succ_le_succ hi))]

/-- An attempt during which or after which the caller cancels does not pass. -/
theorem not_passes_of_cancelsAt {limit i : ℕ} (h : cancelsAt token r l limit i) : ¬l.passes token r i := by
  rintro ⟨hfails, hkept⟩
  rcases h with hflight | ⟨-, -, hwait⟩
  · rw [(verdict_of_interrupted hflight).2] at hfails
    cases hfails
  · exact hkept hwait

/-- A run in which the caller never cancels. -/
theorem Course.of_quiet {result : Except ApiError Json} (h : Course token r l failures left k result m)
    (hquiet : ∀ i < left + 1, (∀ j < i, l.passes token r j) → ¬cancelsAt token r l (left + 1) i) :
    ((k + 1 : ℕ) : ℕ∞) = min ((left + 1 : ℕ) : ℕ∞) (l.firstFinal token r) ∧
      result = l.verdict token r k ∧ l.Tried r failures (k + 1) k m := by
  cases h with
  | answered hk hpasses hlast hm => exact ⟨count_eq hk hpasses hlast, rfl, hm⟩
  | cancelled hk hpasses hfails hcancelled hm =>
    exact absurd (.inr ⟨Nat.succ_lt_succ hk, hfails, hcancelled⟩) (hquiet k (Nat.lt_succ_of_lt hk) hpasses)

/-- A run in which the caller cancels ends neither before that attempt nor after it. -/
theorem Course.of_cancelsAt {result : Except ApiError Json} {i : ℕ}
    (h : Course token r l failures left k result m) (hi : i < left + 1) (hpasses : ∀ j < i, l.passes token r j)
    (hcancels : cancelsAt token r l (left + 1) i) :
    result = .error .cancelled ∧ ∃ waits ≤ i + 1, l.Tried r failures (i + 1) waits m := by
  have hnot_after : (∀ j < k, l.passes token r j) → k ≤ i := fun hbefore =>
    Nat.le_of_not_lt fun hik => not_passes_of_cancelsAt hcancels (hbefore i hik)
  cases h with
  | answered hk hbefore hlast hm =>
    have hki : k = i := by
      refine (Nat.lt_or_eq_of_le (hnot_after hbefore)).resolve_left fun hlt => ?_
      rcases hlast with rfl | hfinal
      · omega
      · rw [(hpasses k hlt).1] at hfinal
        cases hfinal
    subst hki
    rcases hcancels with hflight | ⟨hlt, hfails, -⟩
    · exact ⟨(verdict_of_interrupted hflight).1, k, Nat.le_succ k, hm⟩
    · rcases hlast with rfl | hfinal
      · omega
      · rw [hfails] at hfinal
        cases hfinal
  | cancelled hk hbefore hfails hcancelled hm =>
    have hki : k = i :=
      (Nat.lt_or_eq_of_le (hnot_after hbefore)).resolve_left fun hlt => (hpasses k hlt).2 hcancelled
    subst hki
    exact ⟨rfl, k + 1, Nat.le_refl _, hm⟩

theorem persists_attempts (hcount : left < 2 ^ 32) (token : Token) (r : Request) (l : Link) :
    Persists (left + 1) token r l (attempts token r left 0 l).1 (attempts token r left 0 l).2 := by
  have hrun : l.isCancelled token = false →
      ∃ k, Course token r l 0 left k (attempts token r left 0 l).1 (attempts token r left 0 l).2 := fun hl =>
    course r hl ((Nat.zero_add left).trans_lt hcount)
  refine ⟨fun hl hquiet => ?_, fun hl => ?_, fun hl i hi hpasses hcancels => ?_⟩
  · obtain ⟨k, hk⟩ := hrun hl
    exact ⟨k, hk.of_quiet hquiet⟩
  · rw [attempts_of_cancelled hl]
    exact ⟨rfl, rfl⟩
  · obtain ⟨k, hk⟩ := hrun hl
    exact hk.of_cancelsAt hi hpasses hcancels

/-- The attempts that the settings allow, of which one is made in any case. -/
theorem retries_of_create {url : String} {auth : Option Auth} {settings : Settings} {c : Client}
    (hc : create url auth settings = .ok c) :
    max 1 settings.maxRetries.toNat = c.retries + 1 ∧ c.retries < 2 ^ 32 := by
  have hretries : c.retries = settings.maxRetries.toNat - 1 := by
    unfold create at hc
    cases hurl : ServerUrl.normalize url with
    | error e =>
      rw [hurl] at hc
      cases hc
    | ok base =>
      rw [hurl] at hc
      cases hc
      rfl
  have hword := settings.maxRetries.toNat_lt
  omega

/-- What a client does is given by its setting and the replies, for every setting, every request and every
row of replies; and no wait of any number of failures is too long for a word. -/
theorem persists_executeRaw {url : String} {auth : Option Auth} {settings : Settings} {c : Client}
    (hc : create url auth settings = .ok c) (token : Token) (method path : String) (body : Option Json)
    (l : Link) :
    Persists (max 1 settings.maxRetries.toNat) token (c.request method path body) l
        (c.executeRaw token method path body l).1 (c.executeRaw token method path body l).2 ∧
      ∀ failures : UInt32, 0 < failures →
        (retryDelay failures).toNat = min (1000 * 2 ^ (failures.toNat - 1)) 60000 := by
  obtain ⟨hlimit, hcount⟩ := retries_of_create hc
  refine ⟨?_, fun failures _ => toNat_retryDelay failures⟩
  rw [hlimit]
  exact persists_attempts hcount token _ l

/-- A server that is always overloaded gets a request three times, if the settings are the usual ones. -/
theorem persists_overloaded :
    let overloaded : Link := { server := some fun _ _ => { outcome := .answered 503 none } }
    let r := sampleClient.request "GET" "rest/api/2/priority" none
    let run := sampleClient.executeRaw (.numbered 0) "GET" "rest/api/2/priority" none overloaded
    create "https://jira.example.com" none {} = .ok sampleClient ∧ (0 : UInt32) < 1 ∧
      (retryDelay 1).toNat = 1000 ∧
      run.1 = .error (.serverError "HTTP 503 Service Unavailable: https://jira.example.com/rest/api/2/priority") ∧
      run.2.requests = [r, r, r] ∧ run.2.waits = [⟨1, 1000⟩, ⟨2, 2000⟩] := by
  intro overloaded r run
  have hcreate : create "https://jira.example.com" none {} = .ok sampleClient := by rfl
  obtain ⟨hrun, hdelay⟩ := persists_executeRaw hcreate (.numbered 0) "GET" "rest/api/2/priority" none overloaded
  have hfails : ∀ i, isFinal (overloaded.verdict (.numbered 0) r i) = false := fun i => rfl
  have hnever : overloaded.firstFinal (.numbered 0) r = ⊤ := by
    unfold Link.firstFinal
    simp [hfails]
  obtain ⟨i, hi, hresult, hm⟩ := hrun.uncancelled rfl fun i _ _ hcancels => by
    rcases hcancels with hflight | ⟨-, -, hwait⟩
    · cases hflight
    · cases hwait
  have hthree : i = 2 := by
    rw [hnever, min_eq_left le_top] at hi
    exact Nat.succ.inj (Nat.cast_inj.1 hi)
  subst hthree
  exact ⟨hcreate, by decide, hdelay 1 (by decide), hresult.trans rfl, hm.requests_eq, hm.waits_eq⟩

end Client

end JiraQuery
