import JiraQuery.Log.Event
import JiraQuery.Net.Request

/-!
# Links

The state of the connection to a server: what was sent, how long was waited, what was told, which tokens
are cancelled, and whether the program that has the connection lives through sums that do not fit.
-/

namespace JiraQuery

/-- A wait before a further attempt. -/
structure Wait where
  /-- How many requests had gone out. -/
  after : Nat
  milliseconds : Nat
  deriving DecidableEq, Repr

structure Link where
  /-- Without a server no connection can be opened. -/
  server : Option Server
  cancelled : List Token := []
  /-- The requests that went out, in order. -/
  requests : List Request := []
  waits : List Wait := []
  events : List Event := []
  /-- How many sums of positions may still leave their word and go on from zero. A program that checks its
  sums stops at the first one. A program that does not is not stopped by any number of them; of it holds
  what holds for all numbers of laps. -/
  laps : Nat := 0

namespace Link

def isCancelled (l : Link) (t : Token) : Bool :=
  l.cancelled.contains t

def cancel (t : Token) (l : Link) : Link :=
  { l with cancelled := t :: l.cancelled }

def tell (e : Event) (l : Link) : Link :=
  { l with events := l.events ++ [e] }

def wait (milliseconds : Nat) (l : Link) : Link :=
  { l with waits := l.waits ++ [⟨l.requests.length, milliseconds⟩] }

/-- How long was waited each time. -/
def delays (l : Link) : List Nat :=
  l.waits.map (·.milliseconds)

/-- Hands a request to the server, if it can go out at all. -/
def send (r : Request) (l : Link) : Reply × Link :=
  match l.server with
  | some answer =>
    if r.isSendable then
      (answer l.requests.length r, { l with requests := l.requests ++ [r] })
    else ({ outcome := .dropped }, l)
  | none => ({ outcome := .dropped }, l)

@[simp] theorem isCancelled_cancel (l : Link) (t u : Token) :
    (l.cancel t).isCancelled u = (u == t || l.isCancelled u) := by
  simp only [isCancelled, cancel, List.contains_cons]

@[simp] theorem isCancelled_tell (l : Link) (e : Event) (t : Token) :
    (l.tell e).isCancelled t = l.isCancelled t := rfl

@[simp] theorem isCancelled_wait (l : Link) (n : Nat) (t : Token) :
    (l.wait n).isCancelled t = l.isCancelled t := rfl

@[simp] theorem cancelled_send (l : Link) (r : Request) : (l.send r).2.cancelled = l.cancelled := by
  unfold send
  split
  · split <;> rfl
  · rfl

@[simp] theorem laps_send (l : Link) (r : Request) : (l.send r).2.laps = l.laps := by
  unfold send
  split
  · split <;> rfl
  · rfl

/-- A request goes out at most once. -/
theorem requests_send (l : Link) (r : Request) :
    (l.send r).2.requests = l.requests ∨ (l.send r).2.requests = l.requests ++ [r] := by
  unfold send
  split
  · split
    · exact .inr rfl
    · exact .inl rfl
  · exact .inl rfl

end Link

end JiraQuery
