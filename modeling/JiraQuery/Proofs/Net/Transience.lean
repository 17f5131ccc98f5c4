import JiraQuery.Proofs.Net.Retrying

/-!
# What is tried again

The failures that are meant to be tried again are those that may pass by themselves: the server has too much
to do, it fails, or the connection breaks (`Outcome.isTransient`). The decision is made on the error that an
outcome is turned into, and there a status without a meaning of its own, such as 405 or 410, is a failure of
the server as well (`Outcome.isUnforeseen`). `Client.repeats_executeRaw` says after which outcomes a request
goes out once more; `Client.repeats_methodNotAllowed` is a request that is refused for good three times.
-/

namespace JiraQuery

namespace Outcome

variable {token : Token} {url : String} {o : Outcome} {status : ℕ} {body : Option String}

/-- A status by which a server says that it cannot answer now. -/
def isBusy (status : ℕ) : Bool :=
  status == 429 || (500 ≤ status && status ≤ 599)

/-- A failure that may pass by itself: of a server that cannot answer now, or of the connection, which may
break in the body of an answer, too. A caller who cancels has ended the call. -/
def isTransient (token : Token) : Outcome → Bool
  | answered status body => if isSuccess status then (Response.text? status body).isNone else isBusy status
  | dropped => true
  | interrupted t => t != token

/-- The codes of failures, not counting those of a server that cannot answer now, that have an error of their
own. -/
def namedFailures : List ℕ := [400, 401, 403, 404, 409]

/-- A failure by a status that has no error of its own and does not say that the server cannot answer now. -/
def isUnforeseen : Outcome → Bool
  | answered status _ => !isSuccess status && !isBusy status && !namedFailures.contains status
  | dropped | interrupted _ => false

theorem not_named_of_isBusy (h : isBusy status = true) : namedFailures.contains status = false := by
  have hbusy : status = 429 ∨ 500 ≤ status ∧ status ≤ 599 := by simpa [isBusy] using h
  have hnamed : ¬(status = 400 ∨ status = 401 ∨ status = 403 ∨ status = 404 ∨ status = 409) := by omega
  simpa [namedFailures] using hnamed

/-- The error of a failure is made from the status alone, as far as another attempt goes. -/
theorem isFinal_failure (hstatus : isSuccess status = false) :
    isFinal (Response.read url status body) = namedFailures.contains status := by
  unfold Response.read
  rw [if_neg (by rw [hstatus]; exact Bool.false_ne_true)]
  show (!(ApiError.ofStatus status _).isRetryable) = _
  rw [ApiError.isRetryable_ofStatus, Bool.not_not]
  rfl

/-- A success is final as soon as its body is there, whether it can be read or not. -/
theorem isFinal_success (hstatus : isSuccess status = true) :
    isFinal (Response.read url status body) = (Response.text? status body).isSome := by
  unfold Response.read
  rw [if_pos hstatus]
  cases Response.text? status body with
  | none => rfl
  | some text =>
    show isFinal (Response.document text) = true
    unfold Response.document
    by_cases hblank : text.toList.all Text.isBlank = true
    · rw [if_pos hblank]
      rfl
    · rw [if_neg hblank]
      cases Json.parse? text with
      | none => rfl
      | some j => rfl

/-- Another attempt makes sense after a failure that may pass, and after one that nobody foresaw. -/
theorem isFinal_verdict_iff (token : Token) (url : String) (o : Outcome) :
    isFinal (o.verdict token url) = false ↔ o.isTransient token = true ∨ o.isUnforeseen = true := by
  cases o with
  | answered status body =>
    show isFinal (Response.read url status body) = false ↔ _
    simp only [isTransient, isUnforeseen]
    cases hstatus : isSuccess status with
    | true =>
      rw [isFinal_success hstatus, if_pos rfl]
      cases Response.text? status body with
      | none => simp
      | some text => simp
    | false =>
      rw [isFinal_failure hstatus, if_neg Bool.false_ne_true]
      cases hbusy : isBusy status with
      | true =>
        rw [not_named_of_isBusy hbusy]
        simp
      | false => simp
  | dropped =>
    constructor
    · intro _
      exact .inl rfl
    · intro _
      rfl
  | interrupted t =>
    show isFinal (if t = token then .error .cancelled else .error .network) = false ↔ _
    simp only [isTransient, isUnforeseen, bne_iff_ne, Bool.false_eq_true, or_false]
    by_cases ht : t = token
    · rw [if_pos ht]
      constructor
      · intro hfinal
        cases hfinal
      · intro hother
        exact absurd ht hother
    · rw [if_neg ht]
      constructor
      · intro _
        exact ht
      · intro _
        rfl

end Outcome

namespace Client

variable {l m : Link} {token : Token} {r : Request} {left i : ℕ} {result : Except ApiError Json}

/-- Another attempt follows the one with this number: so many are allowed, it fails in a way that is tried
again, and the caller does not cancel in the wait after it. -/
def isFollowed (token : Token) (r : Request) (l : Link) (limit i : ℕ) : Prop :=
  i + 1 < limit ∧ (l.reply r i).cancelOnRetry ≠ some token ∧
    ((l.reply r i).outcome.isTransient token = true ∨ (l.reply r i).outcome.isUnforeseen = true)

theorem isFollowed_iff {limit : ℕ} : isFollowed token r l limit i ↔ i + 1 < limit ∧ l.passes token r i := by
  unfold isFollowed Link.passes Link.verdict
  rw [Outcome.isFinal_verdict_iff, and_comm (a := _ ≠ _)]

/-- Every attempt of a run but the last one is followed by another. -/
theorem Course.follows_iff (h : Course token r l 0 left i result m) :
    m.requests = l.requests ++ l.copies r (i + 1) ∧
      ∀ j < i + 1, (j + 1 < i + 1 ↔ isFollowed token r l (left + 1) j) := by
  have hsplit : i ≤ left → (∀ j < i, l.passes token r j) → ¬isFollowed token r l (left + 1) i →
      ∀ j < i + 1, (j + 1 < i + 1 ↔ isFollowed token r l (left + 1) j) := by
    intro hi hpasses hlast j hj
    by_cases hji : j = i
    · subst hji
      exact ⟨fun hlt => absurd hlt (Nat.lt_irrefl _), fun hfollowed => absurd hfollowed hlast⟩
    · have hlt : j < i := by omega
      exact ⟨fun _ => isFollowed_iff.2 ⟨by omega, hpasses j hlt⟩, fun _ => Nat.succ_lt_succ hlt⟩
  cases h with
  | answered hi hpasses hlast hm =>
    refine ⟨hm.requests_eq, hsplit hi hpasses ?_⟩
    intro hfollowed
    obtain ⟨hlimit, hfails, -⟩ := isFollowed_iff.1 hfollowed
    rcases hlast with rfl | hfinal
    · exact absurd hlimit (Nat.lt_irrefl _)
    · rw [hfails] at hfinal
      cases hfinal
  | cancelled hi hpasses hfails hcancelled hm =>
    refine ⟨hm.requests_eq, hsplit (Nat.le_of_lt hi) hpasses ?_⟩
    intro hfollowed
    exact hfollowed.2.1 hcancelled

/-- When a request goes out once more, for every request and every row of replies: the outcome before is one
that may pass or one by a status that has no error of its own, another attempt is allowed, and the caller has
not cancelled. -/
theorem repeats_executeRaw {url : String} {auth : Option Auth} {settings : Settings} {c : Client}
    (hc : create url auth settings = .ok c) (token : Token) (method path : String) (body : Option Json)
    (l : Link) :
    ∃ sent, (c.executeRaw token method path body l).2.requests =
        l.requests ++ l.copies (c.request method path body) sent ∧
      (sent = 0 ↔ l.isCancelled token = true) ∧
      ∀ i < sent, (i + 1 < sent ↔
        isFollowed token (c.request method path body) l (max 1 settings.maxRetries.toNat) i) := by
  obtain ⟨hlimit, hcount⟩ := retries_of_create hc
  rw [hlimit]
  show ∃ sent, (attempts token (c.request method path body) c.retries 0 l).2.requests = _ ∧ _
  cases hl : l.isCancelled token with
  | true =>
    rw [attempts_of_cancelled hl]
    refine ⟨0, ?_, ⟨fun _ => rfl, fun _ => rfl⟩, fun i hi => absurd hi (Nat.not_lt_zero i)⟩
    unfold Link.copies
    simp
  | false =>
    obtain ⟨i, hcourse⟩ := course (c.request method path body) hl ((Nat.zero_add c.retries).trans_lt hcount)
    obtain ⟨hrequests, hfollows⟩ := hcourse.follows_iff
    exact ⟨i + 1, hrequests, ⟨fun h => absurd h (Nat.succ_ne_zero i), fun h => by cases h⟩, hfollows⟩

/-- A server that is overloaded, then has lost the resource and then does not know it gets a request three
times, although five times are allowed. -/
theorem repeats_lostResource :
    let losing : Link := { server := some fun n _ => { outcome := .answered ([429, 410, 404].getD n 404) none } }
    let client := { sampleClient with retries := 4 }
    let r := client.request "GET" "rest/api/2/priority" none
    create "https://jira.example.com" none { maxRetries := 5 } = .ok client ∧
      (client.executeRaw (.numbered 0) "GET" "rest/api/2/priority" none losing).2.requests = [r, r, r] := by
  intro losing client r
  have hcreate : create "https://jira.example.com" none { maxRetries := 5 } = .ok client := by rfl
  obtain ⟨sent, hrequests, hzero, hfollows⟩ :=
    repeats_executeRaw hcreate (.numbered 0) "GET" "rest/api/2/priority" none losing
  have hoverloaded : isFollowed (.numbered 0) r losing 5 0 := ⟨by decide, nofun, .inl rfl⟩
  have hlost : isFollowed (.numbered 0) r losing 5 1 := ⟨by decide, nofun, .inr rfl⟩
  have hmissing : ¬isFollowed (.numbered 0) r losing 5 2 := by
    rintro ⟨-, -, htransient | hunforeseen⟩
    · cases htransient
    · cases hunforeseen
  have hfirst : 0 < sent := Nat.pos_of_ne_zero fun h => by cases hzero.1 h
  have hsecond : 1 < sent := (hfollows 0 hfirst).2 hoverloaded
  have hthird : 2 < sent := (hfollows 1 hsecond).2 hlost
  have hlast : ¬3 < sent := fun h => hmissing ((hfollows 2 hthird).1 h)
  have hthree : sent = 3 := by omega
  subst hthree
  exact ⟨hcreate, hrequests⟩

/-- A request with a method that the server does not allow for the resource goes out three times, if the
settings are the usual ones, though no answer is a failure that may pass. -/
theorem repeats_methodNotAllowed :
    let refusing : Link := { server := some fun _ _ => { outcome := .answered 405 none } }
    let r := sampleClient.request "PUT" "rest/api/2/priority" none
    create "https://jira.example.com" none {} = .ok sampleClient ∧
      (∀ i, (refusing.reply r i).outcome = .answered 405 none) ∧
      (Outcome.answered 405 none).isTransient (.numbered 0) = false ∧
      (sampleClient.executeRaw (.numbered 0) "PUT" "rest/api/2/priority" none refusing).2.requests =
        [r, r, r] :=
  ⟨rfl, fun _ => rfl, rfl, rfl⟩

end Client

end JiraQuery
