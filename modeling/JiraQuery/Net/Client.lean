import JiraQuery.Config.Settings
import JiraQuery.Net.Link
import JiraQuery.Net.Response
import JiraQuery.Net.ServerUrl
import JiraQuery.Number.Checked
import JiraQuery.Number.Saturating

/-!
# Clients

A client sends requests to one server. A failure that may pass is followed by a wait and another
attempt, up to a number of attempts; the waits double up to one minute. Before every attempt and
during every wait the caller may cancel.

| here | there |
| --- | --- |
| `Client.create` | `JiraClient::new` |
| `Client.request` | the URL in `JiraClient::execute_raw`, the headers and the body in `execute_once` |
| `Client.retryDelay` | `calculate_retry_delay` |
| `Client.attempt`, `Client.settle` | `JiraClient::execute_once`, under the first `select!` of `execute_raw` |
| `Client.backOff` | the second `select!` of `JiraClient::execute_raw` |
| `Client.attempts`, `Client.executeRaw` | the loop of `JiraClient::execute_raw` |
| `Client.execute` | `JiraClient::execute` |
-/

namespace JiraQuery

structure Client where
  /-- Normalized. -/
  baseUrl : String
  /-- Nobody in particular, if there are no credentials. -/
  auth : Option Auth
  /-- How many attempts follow the first one at most. -/
  retries : Nat

namespace Client

def create (url : String) (auth : Option Auth) (settings : Settings) : Except ApiError Client := do
  return { baseUrl := ← ServerUrl.normalize url, auth, retries := settings.maxRetries.toNat - 1 }

/-- The request for a path of the server. -/
def request (c : Client) (method path : String) (body : Option Json) : Request :=
  { method, url := ServerUrl.join c.baseUrl path, authorization := c.auth.map Auth.header, body }

/-- The longest wait, in milliseconds. -/
def longestDelay : UInt64 := 60000

/-- The wait after the given number of failures. A power that does not fit a word is long enough for
the longest one. -/
def retryDelay (failures : UInt32) : UInt64 :=
  min (((Number.pow? 2 (Number.subSat failures 1)).map (Number.mulSat 1000)).getD longestDelay) longestDelay

theorem toNat_min_word (a b : UInt64) : (min a b).toNat = min a.toNat b.toNat := by
  simp only [Min.min, UInt64.le_iff_toNat_le]
  split <;> rfl

/-- No power is too large for the wait, since the longest one is reached long before. -/
theorem toNat_retryDelay (failures : UInt32) :
    (retryDelay failures).toNat = min (1000 * Nat.pow 2 (failures.toNat - 1)) 60000 := by
  have hlongest : longestDelay.toNat = 60000 := rfl
  have hexponent : (Number.subSat failures 1).toNat = failures.toNat - 1 := Number.toNat_subSat failures 1
  unfold retryDelay
  rw [toNat_min_word, hlongest]
  cases hpow : Number.pow? 2 (Number.subSat failures 1) with
  | some c =>
    have hc : c.toNat = Nat.pow 2 (failures.toNat - 1) := by
      rw [Number.pow?_eq_some_iff.1 hpow, hexponent]
      rfl
    show min (Number.mulSat 1000 c).toNat 60000 = _
    rw [Number.toNat_mulSat, ← hc]
    show min (min (1000 * c.toNat) 0xFFFFFFFFFFFFFFFF) 60000 = _
    omega
  | none =>
    have hbig : 18446744073709551616 ≤ Nat.pow 2 (failures.toNat - 1) := by
      rw [← hexponent]
      exact Number.pow?_eq_none_iff.1 hpow
    show min longestDelay.toNat 60000 = _
    rw [hlongest]
    omega

/-- What an outcome comes to for a caller with a token. -/
def settle (token : Token) (url : String) : Outcome → StateM Link (Except ApiError Json)
  | .answered status body => return Response.read url status body
  | .dropped => return .error .network
  | .interrupted t => do
    modify (Link.cancel t)
    return .error (if (← get).isCancelled token then .cancelled else .network)

/-- The wait before another attempt, during which a token may be cancelled. -/
def backOff (failures : Nat) (cancelled : Option Token) : StateM Link Unit :=
  modify fun l =>
    let l := l.wait (retryDelay (UInt32.ofNat failures)).toNat
    cancelled.elim l l.cancel

/-- Makes one attempt: what it comes to, and the token that is cancelled during a wait after it. -/
def attempt (token : Token) (r : Request) : StateM Link (Except ApiError Json × Option Token) := do
  if (← get).isCancelled token then return (.error .cancelled, none)
  let reply ← modifyGet (Link.send r)
  return (← settle token r.url reply.outcome, reply.cancelOnRetry)

/-- One attempt, with the link that it goes out over. -/
theorem attempt_eq (token : Token) (r : Request) (l : Link) :
    attempt token r l =
      if l.isCancelled token then ((.error .cancelled, none), l)
      else
        let settled := settle token r.url (l.send r).1.outcome (l.send r).2
        ((settled.1, (l.send r).1.cancelOnRetry), settled.2) := by
  have hrun : (attempt token r).run l =
      if l.isCancelled token then ((.error .cancelled, none), l)
      else
        let settled := settle token r.url (l.send r).1.outcome (l.send r).2
        ((settled.1, (l.send r).1.cancelOnRetry), settled.2) := by
    cases h : l.isCancelled token with
    | true =>
      simp [attempt, h]
      rfl
    | false =>
      simp [attempt, h]
      rfl
  exact hrun

/-- Makes attempts until one is final; so many more may follow, and `failures` went before. -/
def attempts (token : Token) (r : Request) : Nat → Nat → StateM Link (Except ApiError Json)
  | 0, _ => return (← attempt token r).1
  | left + 1, failures => do
    match ← attempt token r with
    | (.error e, cancelled) =>
      if e.isRetryable then
        backOff (failures + 1) cancelled
        attempts token r left (failures + 1)
      else return .error e
    | (.ok j, _) => return .ok j

/-- The document at a path. -/
def executeRaw (c : Client) (token : Token) (method path : String) (body : Option Json) :
    StateM Link (Except ApiError Json) :=
  attempts token (c.request method path body) c.retries 0

/-- The value at a path, given how to read its document. -/
def execute {α : Type} (c : Client) (token : Token) (method path : String) (body : Option Json)
    (read? : Json → Option α) : StateM Link (Except ApiError α) := do
  return (← c.executeRaw token method path body).bind fun j =>
    (read? j).elim (.error .invalidResponse) .ok

/-! ## Laps -/

section
variable (token : Token) (r : Request) (l : Link)

theorem laps_settle (url : String) (o : Outcome) : (settle token url o l).2.laps = l.laps := by
  cases o <;> rfl

theorem laps_attempt : (attempt token r l).2.laps = l.laps := by
  rw [attempt_eq]
  split
  · rfl
  · dsimp only
    rw [laps_settle, Link.laps_send]

theorem laps_backOff (failures : Nat) (cancelled : Option Token) :
    (backOff failures cancelled l).2.laps = l.laps := by
  cases cancelled <;> rfl

theorem laps_attempts (left failures : Nat) : (attempts token r left failures l).2.laps = l.laps := by
  induction left generalizing failures l with
  | zero => exact laps_attempt token r l
  | succ left ih =>
    have hfirst := laps_attempt token r l
    rcases hattempt : attempt token r l with ⟨⟨outcome, cancelled⟩, m⟩
    rw [hattempt] at hfirst
    unfold attempts
    simp only [bind, StateT.bind, hattempt]
    cases outcome with
    | ok j => exact hfirst
    | error e =>
      cases hretry : e.isRetryable with
      | false =>
        simp only [hretry, Bool.false_eq_true, if_false]
        exact hfirst
      | true =>
        simp only [hretry, if_true]
        exact (ih _ _).trans ((laps_backOff m _ _).trans hfirst)

end

theorem laps_execute {α : Type} (c : Client) (token : Token) (method path : String) (body : Option Json)
    (read? : Json → Option α) (l : Link) :
    (c.execute token method path body read? l).2.laps = l.laps :=
  laps_attempts token (c.request method path body) l c.retries 0

end Client

end JiraQuery
