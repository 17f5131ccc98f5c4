import JiraQuery.Proofs.Search.Paging
import JiraQuery.Search.Stream

/-!
# Transcripts of a search

What happens while a stream is polled and tokens are cancelled in between: pages are asked for, and
every poll is answered. A page counts once, however often it takes to get it. Main statements:
`IssueStream.poll_next`, all that one poll can do, and `IssueStream.sent_transcript`, the requests that go
out are those of the transcript.
-/

namespace JiraQuery

/-- What is done with a stream. -/
inductive Move
  | poll
  | cancel (token : Token)

inductive Entry
  /-- A page is asked for, and this comes of it after the last attempt. -/
  | asked (request : SearchRequest) (reply : Except ApiError (Page Issue))
  | gave (issue : Issue)
  | failed (error : ApiError)
  /-- A poll finds the stream at its end. -/
  | ended
  | cancelled (token : Token)

namespace Entry

def request? : Entry → Option SearchRequest
  | asked q _ => some q
  | _ => none

def page? : Entry → Option (Page Issue)
  | asked _ (.ok page) => some page
  | _ => none

def issue? : Entry → Option Issue
  | gave i => some i
  | _ => none

def error? : Entry → Option ApiError
  | failed e => some e
  | _ => none

/-- Whether nothing is to come but the news that the stream is at its end. -/
def closes : Entry → Bool
  | failed _ | ended => true
  | _ => false

/-- The answer to a poll. -/
def answer : Option (Except ApiError Issue) → Entry
  | some (.ok i) => gave i
  | some (.error e) => failed e
  | none => ended

end Entry

/-! ## The entries of a transcript -/

abbrev Transcript := List Entry

namespace Transcript

/-- The requests for pages, in order. -/
def requests (T : Transcript) : List SearchRequest := T.filterMap Entry.request?

/-- The pages that came, in order. -/
def pages (T : Transcript) : List (Page Issue) := T.filterMap Entry.page?

/-- The issues of all pages. -/
def items (T : Transcript) : List Issue := T.pages.flatMap Page.items

/-- The issues that the reader got. -/
def given (T : Transcript) : List Issue := T.filterMap Entry.issue?

/-- The errors that the reader got. -/
def failures (T : Transcript) : List ApiError := T.filterMap Entry.error?

/-- Whether the reader got an error or has been told that the stream is at its end. -/
def isClosed (T : Transcript) : Bool := T.any Entry.closes

section
variable (A B : Transcript)

@[simp] theorem requests_append : requests (A ++ B) = A.requests ++ B.requests :=
  List.filterMap_append

@[simp] theorem pages_append : pages (A ++ B) = A.pages ++ B.pages :=
  List.filterMap_append

@[simp] theorem items_append : items (A ++ B) = A.items ++ B.items := by
  rw [items, pages_append, List.flatMap_append, items, items]

@[simp] theorem given_append : given (A ++ B) = A.given ++ B.given :=
  List.filterMap_append

@[simp] theorem isClosed_append : isClosed (A ++ B) = (A.isClosed || B.isClosed) :=
  List.any_append

@[simp] theorem isClosed_singleton (x : Entry) : isClosed [x] = x.closes :=
  Bool.or_false _

end

section
variable {x : Entry} (T : Transcript) (hx : x.request? = none)

include hx

theorem requests_concat : requests (T ++ [x]) = T.requests := by
  simp [requests, hx]

theorem pages_concat : pages (T ++ [x]) = T.pages := by
  cases x with
  | asked q r => cases hx
  | _ => simp [pages, Entry.page?]

theorem items_concat : items (T ++ [x]) = T.items := by
  rw [items, pages_concat T hx, items]

end

end Transcript

/-! ## Pagers -/

namespace Pager

/-- The page that a pager asks for when its turn comes, and what comes of it. -/
def fetch? (p : Pager) (l : Link) : Option (SearchRequest × Except ApiError (Page Issue)) :=
  if p.done || p.remaining = some 0 || l.isCancelled p.token then none
  else some (p.request, (p.request.fetch p.client p.token l).1)

/-- Whether a pager may go on. -/
def isLive (p : Pager) : Bool :=
  !p.done && p.remaining ≠ some 0

theorem isLive_iff {p : Pager} : p.isLive = true ↔ p.done = false ∧ p.remaining ≠ some 0 := by
  simp [isLive]

theorem isLive_eq_false_iff {p : Pager} :
    p.isLive = false ↔ p.done = true ∨ p.remaining = some 0 := by
  simp [isLive, Decidable.or_iff_not_imp_left]

/-- A pager that does not go on. -/
def ended (p : Pager) : Pager :=
  { p with done := true }

theorem isLive_advance_of_cut_eq_nil {p : Pager} {page : Page Issue} (h : p.cut page = []) :
    (p.advance page).isLive = false := by
  simp [isLive, advance, received, h]

/-- Nothing is added to the position by a page without issues. -/
theorem overflows_of_cut_eq_nil {p : Pager} {page : Page Issue} (h : p.cut page = []) :
    p.overflows page = false := by
  have hs := p.startAt.toNat_lt
  refine overflows_eq_false ?_
  rw [h, List.length_nil]
  exact hs

/-- What happens when a pager's turn comes: what is asked for, the answer and the pager after it, and
the link after it. -/
inductive Turn (p : Pager) (l : Link) : Option (SearchRequest × Except ApiError (Page Issue)) →
    Except ApiError (Option (List Issue)) × Pager → Link → Prop
  | stop (hlive : p.isLive = false) : Turn p l none (.ok none, p.ended) l
  | cancelled (hlive : p.isLive) (hcancelled : l.isCancelled p.token = true) :
      Turn p l none (.error .cancelled, p.ended) l
  | failed {e : ApiError} {m : Link} (hlive : p.isLive) (hcancelled : l.isCancelled p.token = false)
      (hfetch : p.request.fetch p.client p.token l = (.error e, m)) :
      Turn p l (some (p.request, .error e)) (.error e, p.ended) m
  | page {page : Page Issue} {m n : Link} (hlive : p.isLive)
      (hcancelled : l.isCancelled p.token = false)
      (hfetch : p.request.fetch p.client p.token l = (.ok page, m))
      (hlives : ¬(p.overflows page && m.laps = 0)) (hwarn : p.warn page (p.lap page m) = n) :
      Turn p l (some (p.request, .ok page)) (.ok (some (p.cut page)), p.advance page) n
  | overflow {page : Page Issue} {m : Link} (hlive : p.isLive)
      (hcancelled : l.isCancelled p.token = false)
      (hfetch : p.request.fetch p.client p.token l = (.ok page, m)) (hover : p.overflows page = true)
      (hlaps : m.laps = 0) :
      Turn p l (some (p.request, .ok page)) (.error .overflow, p.ended) m

theorem turn (p : Pager) (l : Link) : p.Turn l (p.fetch? l) (p.next l).1 (p.next l).2 := by
  unfold fetch? next
  cases hlive : p.isLive with
  | false =>
    have hstop : (p.done || decide (p.remaining = some 0)) = true := by
      simpa using isLive_eq_false_iff.1 hlive
    simp only [hstop, Bool.true_or, if_true]
    exact .stop hlive
  | true =>
    have hgo : (p.done || decide (p.remaining = some 0)) = false := by
      simpa using isLive_iff.1 hlive
    cases hcancelled : l.isCancelled p.token with
    | true =>
      simp only [hgo, Bool.or_true, Bool.false_eq_true, if_false, if_true]
      exact .cancelled hlive hcancelled
    | false =>
      simp only [hgo, Bool.or_false, Bool.false_eq_true, if_false]
      rcases hfetch : p.request.fetch p.client p.token l with ⟨e | page, m⟩
      · exact .failed hlive hcancelled hfetch
      · dsimp only
        split
        · next hstops =>
          obtain ⟨hover, hlaps⟩ := Bool.and_eq_true_iff.1 hstops
          exact .overflow hlive hcancelled hfetch hover (of_decide_eq_true hlaps)
        · next hlives => exact .page hlive hcancelled hfetch hlives rfl

end Pager

/-! ## Streams -/

namespace IssueStream

/-- The page that a stream asks for when it is polled, if it lets all issues through: it asks once its
buffer is used up. -/
def fetch? (s : IssueStream) (l : Link) : Option (SearchRequest × Except ApiError (Page Issue)) :=
  if s.buffer.isEmpty then s.pager.fetch? l else none

/-- What happens when a stream is polled. -/
def polled (s : IssueStream) (l : Link) : Transcript :=
  (s.fetch? l).toList.map (fun r => .asked r.1 r.2) ++ [.answer (s.next l).1.1]

/-- What happens during some moves, and the link after them. -/
def transcript : List Move → IssueStream → Link → Transcript × Link
  | [], _, l => ([], l)
  | .cancel t :: moves, s, l =>
    let (rest, m) := transcript moves s (l.cancel t)
    (.cancelled t :: rest, m)
  | .poll :: moves, s, l =>
    let (rest, m) := transcript moves (s.next l).1.2 (s.next l).2
    (s.polled l ++ rest, m)

/-- Whether all issues of a stream's pager get to the reader. -/
structure IsPlain (s : IssueStream) : Prop where
  sieve_eq : s.sieve = {}
  quota_eq : s.quota = none

/-- What one poll of a plain stream comes to: what happens, the stream after it, the link after it. -/
inductive Poll (s : IssueStream) (l : Link) : Transcript → IssueStream → Link → Prop
  | give {i : Issue} {is : List Issue} (hbuffer : s.buffer = i :: is) :
      Poll s l [.gave i] { s with buffer := is } l
  | stop (hbuffer : s.buffer = []) (hlive : s.pager.isLive = false) :
      Poll s l [.ended] { s with pager := s.pager.ended } l
  | cancelled (hbuffer : s.buffer = []) (hlive : s.pager.isLive)
      (hcancelled : l.isCancelled s.pager.token = true) :
      Poll s l [.failed .cancelled] { s with pager := s.pager.ended } l
  | failed {e : ApiError} {m : Link} (hbuffer : s.buffer = []) (hlive : s.pager.isLive)
      (hcancelled : l.isCancelled s.pager.token = false)
      (hfetch : s.pager.request.fetch s.pager.client s.pager.token l = (.error e, m)) :
      Poll s l [.asked s.pager.request (.error e), .failed e] { s with pager := s.pager.ended } m
  | page {page : Page Issue} {i : Issue} {is : List Issue} {m n : Link} (hbuffer : s.buffer = [])
      (hlive : s.pager.isLive) (hcancelled : l.isCancelled s.pager.token = false)
      (hfetch : s.pager.request.fetch s.pager.client s.pager.token l = (.ok page, m))
      (hlives : ¬(s.pager.overflows page && m.laps = 0))
      (hwarn : s.pager.warn page (s.pager.lap page m) = n) (hcut : s.pager.cut page = i :: is) :
      Poll s l [.asked s.pager.request (.ok page), .gave i]
        { s with pager := s.pager.advance page, buffer := is } n
  | blank {page : Page Issue} {m n : Link} (hbuffer : s.buffer = []) (hlive : s.pager.isLive)
      (hcancelled : l.isCancelled s.pager.token = false)
      (hfetch : s.pager.request.fetch s.pager.client s.pager.token l = (.ok page, m))
      (hwarn : s.pager.warn page m = n) (hcut : s.pager.cut page = []) :
      Poll s l [.asked s.pager.request (.ok page), .ended]
        { s with pager := (s.pager.advance page).ended, buffer := [] } n
  | overflow {page : Page Issue} {m : Link} (hbuffer : s.buffer = []) (hlive : s.pager.isLive)
      (hcancelled : l.isCancelled s.pager.token = false)
      (hfetch : s.pager.request.fetch s.pager.client s.pager.token l = (.ok page, m))
      (hover : s.pager.overflows page = true) (hlaps : m.laps = 0) :
      Poll s l [.asked s.pager.request (.ok page), .failed .overflow]
        { s with pager := s.pager.ended } m

namespace Poll

variable {s t : IssueStream} {l m n : Link} {E : Transcript} {page : Page Issue} {i : Issue}
  {is : List Issue}

theorem eq_of_page (h : s.Poll l E t n) (hbuffer : s.buffer = []) (hlive : s.pager.isLive)
    (hcancelled : l.isCancelled s.pager.token = false)
    (hfetch : s.pager.request.fetch s.pager.client s.pager.token l = (.ok page, m))
    (hover : s.pager.overflows page = false) (hcut : s.pager.cut page = i :: is) :
    E = [.asked s.pager.request (.ok page), .gave i] ∧
      t = { s with pager := s.pager.advance page, buffer := is } := by
  cases h with
  | give | stop | cancelled => simp_all
  | failed _ _ _ hfetch' => cases hfetch.symm.trans hfetch'
  | page _ _ _ hfetch' _ _ hcut' =>
    cases hfetch.symm.trans hfetch'
    cases hcut.symm.trans hcut'
    exact ⟨rfl, rfl⟩
  | blank _ _ _ hfetch' _ hcut' =>
    cases hfetch.symm.trans hfetch'
    cases hcut.symm.trans hcut'
  | overflow _ _ _ hfetch' hover' =>
    cases hfetch.symm.trans hfetch'
    cases hover.symm.trans hover'

theorem eq_of_cancelled (h : s.Poll l E t m) (hbuffer : s.buffer = []) (hlive : s.pager.isLive)
    (hcancelled : l.isCancelled s.pager.token = true) :
    E = [.failed .cancelled] ∧ t = { s with pager := s.pager.ended } := by
  cases h <;> simp_all

theorem eq_of_not_live (h : s.Poll l E t m) (hbuffer : s.buffer = [])
    (hlive : s.pager.isLive = false) : E = [.ended] := by
  cases h <;> simp_all

end Poll

theorem next_of_buffer {s : IssueStream} {l : Link} {i : Issue} {is : List Issue} (hs : s.IsPlain)
    (hbuffer : s.buffer = i :: is) : s.next l = ((some (.ok i), { s with buffer := is }), l) := by
  obtain ⟨pager, buffer, sieve, quota⟩ := s
  obtain ⟨rfl, rfl⟩ := hs
  obtain rfl : buffer = i :: is := hbuffer
  rw [next]
  rfl

theorem next_of_pager {s : IssueStream} {l : Link} (hs : s.IsPlain) (hbuffer : s.buffer = []) :
    s.next l = match s.pager.next l with
      | ((.error e, pager), l) => ((some (.error e), { s with pager }), l)
      | ((.ok none, pager), l) => ((none, { s with pager }), l)
      | ((.ok (some buffer), pager), l) => next { s with pager, buffer } l := by
  obtain ⟨pager, buffer, sieve, quota⟩ := s
  obtain ⟨rfl, rfl⟩ := hs
  obtain rfl : buffer = [] := hbuffer
  rw [next, if_neg (by simp)]
  simp only [Sieve.pull]
  split
  · next h => rw [h]
  · next h => rw [h]
  · next h => rw [h]

/-- A stream whose pager does not go on is at its end. -/
theorem next_of_not_live {s : IssueStream} {l : Link} (hs : s.IsPlain) (hbuffer : s.buffer = [])
    (hlive : s.pager.isLive = false) :
    s.next l = ((none, { s with pager := s.pager.ended }), l) := by
  rw [next_of_pager hs hbuffer, Pager.next_stop (Pager.isLive_eq_false_iff.1 hlive)]
  rfl

theorem poll_next {s : IssueStream} (hs : s.IsPlain) (l : Link) :
    s.Poll l (s.polled l) (s.next l).1.2 (s.next l).2 := by
  cases hbuffer : s.buffer with
  | cons i is =>
    have hfetch : s.fetch? l = none := by simp [fetch?, hbuffer]
    rw [polled, hfetch, next_of_buffer hs hbuffer]
    exact .give hbuffer
  | nil =>
    have hfetch : s.fetch? l = s.pager.fetch? l := by simp [fetch?, hbuffer]
    have hturn := s.pager.turn l
    rw [polled, hfetch, next_of_pager hs hbuffer]
    generalize s.pager.fetch? l = asked at hturn ⊢
    generalize s.pager.next l = result at hturn ⊢
    obtain ⟨⟨answer, pager⟩, m⟩ := result
    cases hturn with
    | stop hlive => exact .stop hbuffer hlive
    | cancelled hlive hcancelled => exact .cancelled hbuffer hlive hcancelled
    | failed hlive hcancelled hfetch => exact .failed hbuffer hlive hcancelled hfetch
    | overflow hlive hcancelled hfetch hover hlaps =>
      exact .overflow hbuffer hlive hcancelled hfetch hover hlaps
    | @page page m n hlive hcancelled hfetch hlives hwarn =>
      have hplain : IsPlain { s with pager := s.pager.advance page, buffer := s.pager.cut page } :=
        ⟨hs.sieve_eq, hs.quota_eq⟩
      cases hcut : s.pager.cut page with
      | cons i is =>
        rw [hcut] at hplain
        simp only [next_of_buffer hplain rfl]
        exact .page hbuffer hlive hcancelled hfetch hlives hwarn hcut
      | nil =>
        rw [hcut] at hplain
        rw [Pager.lap_of_fits (Pager.overflows_of_cut_eq_nil hcut)] at hwarn
        simp only [next_of_not_live hplain rfl (Pager.isLive_advance_of_cut_eq_nil hcut)]
        exact .blank hbuffer hlive hcancelled hfetch hwarn hcut

end IssueStream

/-! ## Requests on the link -/

/-- Requests that go out for pages, each of them once and then again after each failure that may pass. -/
inductive Sent (c : Client) : List SearchRequest → List Request → Prop
  | nil : Sent c [] []
  | cons {q : SearchRequest} {qs : List SearchRequest} {rs : List Request} {n : Nat}
      (hn : n ≤ c.retries + 1) (hrest : Sent c qs rs) :
      Sent c (q :: qs) (List.replicate n (q.post c) ++ rs)

namespace Client

variable {token : Token} {r : Request}

theorem requests_settle (url : String) (o : Outcome) (l : Link) :
    (settle token url o l).2.requests = l.requests := by
  cases o <;> rfl

theorem requests_attempt (l : Link) :
    ∃ n ≤ 1, (attempt token r l).2.requests = l.requests ++ List.replicate n r := by
  rw [attempt_eq]
  split
  · exact ⟨0, Nat.zero_le 1, (List.append_nil _).symm⟩
  · rw [requests_settle]
    rcases l.requests_send r with h | h
    · exact ⟨0, Nat.zero_le 1, by rw [h]; exact (List.append_nil _).symm⟩
    · exact ⟨1, Nat.le_refl 1, h⟩

theorem requests_backOff (failures : Nat) (cancelled : Option Token) (l : Link) :
    (backOff failures cancelled l).2.requests = l.requests := by
  cases cancelled <;> rfl

/-- Every attempt sends a request at most once. -/
theorem requests_attempts (left failures : Nat) (l : Link) :
    ∃ n ≤ left + 1, (attempts token r left failures l).2.requests =
      l.requests ++ List.replicate n r := by
  induction left generalizing failures l with
  | zero => exact requests_attempt l
  | succ left ih =>
    obtain ⟨n, hn, hfirst⟩ := @requests_attempt token r l
    rcases hattempt : attempt token r l with ⟨⟨outcome, cancelled⟩, m⟩
    rw [hattempt] at hfirst
    unfold attempts
    simp only [bind, StateT.bind, hattempt]
    cases outcome with
    | ok j => exact ⟨n, by omega, hfirst⟩
    | error e =>
      cases hretry : e.isRetryable with
      | false =>
        simp only [hretry, Bool.false_eq_true, if_false]
        exact ⟨n, by omega, hfirst⟩
      | true =>
        simp only [hretry, if_true]
        obtain ⟨k, hk, hrest⟩ := ih (failures + 1) (backOff (failures + 1) cancelled m).2
        refine ⟨n + k, by omega, ?_⟩
        rw [requests_backOff, hfirst, List.append_assoc, List.replicate_append_replicate] at hrest
        exact hrest

end Client

theorem SearchRequest.requests_fetch (q : SearchRequest) (c : Client) (token : Token) (l : Link) :
    ∃ n ≤ c.retries + 1, (q.fetch c token l).2.requests =
      l.requests ++ List.replicate n (q.post c) :=
  Client.requests_attempts c.retries 0 l

namespace Sent

variable {c : Client} {qs qs' : List SearchRequest} {rs rs' : List Request}

theorem append (h : Sent c qs rs) (h' : Sent c qs' rs') : Sent c (qs ++ qs') (rs ++ rs') := by
  induction h with
  | nil => exact h'
  | cons hn _ ih =>
    rw [List.append_assoc]
    exact .cons hn ih

theorem single {q : SearchRequest} {n : Nat} (hn : n ≤ c.retries + 1) :
    Sent c [q] (List.replicate n (q.post c)) := by
  have h := Sent.cons (q := q) hn .nil
  rwa [List.append_nil] at h

end Sent

namespace IssueStream

variable {s t : IssueStream} {l m : Link} {E : Transcript}

theorem Poll.isPlain (h : s.Poll l E t m) (hs : s.IsPlain) : t.IsPlain := by
  cases h <;> exact ⟨hs.sieve_eq, hs.quota_eq⟩

theorem Poll.client_eq (h : s.Poll l E t m) : t.pager.client = s.pager.client := by
  cases h <;> rfl

theorem requests_warn (p : Pager) (page : Page Issue) (l : Link) :
    (p.warn page l).requests = l.requests := by
  unfold Pager.warn
  split <;> rfl

theorem requests_lap (p : Pager) (page : Page Issue) (l : Link) :
    (p.lap page l).requests = l.requests := by
  unfold Pager.lap
  split <;> rfl

theorem Poll.sent (h : s.Poll l E t m) :
    ∃ rs, m.requests = l.requests ++ rs ∧ Sent s.pager.client E.requests rs := by
  obtain ⟨n, hn, hrequests⟩ := s.pager.request.requests_fetch s.pager.client s.pager.token l
  cases h with
  | give | stop | cancelled => exact ⟨[], (List.append_nil _).symm, .nil⟩
  | failed hbuffer hlive hcancelled hfetch | overflow hbuffer hlive hcancelled hfetch =>
    rw [hfetch] at hrequests
    exact ⟨_, hrequests, .single hn⟩
  | page hbuffer hlive hcancelled hfetch hlives hwarn hcut =>
    rw [hfetch, ← requests_lap s.pager, ← requests_warn s.pager, hwarn] at hrequests
    exact ⟨_, hrequests, .single hn⟩
  | blank hbuffer hlive hcancelled hfetch hwarn hcut =>
    rw [hfetch, ← requests_warn s.pager, hwarn] at hrequests
    exact ⟨_, hrequests, .single hn⟩

/-- What goes out while a plain stream is read are the requests of the transcript. -/
theorem sent_transcript (hs : s.IsPlain) (moves : List Move) (l : Link) :
    ∃ rs, (transcript moves s l).2.requests = l.requests ++ rs ∧
      Sent s.pager.client (transcript moves s l).1.requests rs := by
  induction moves generalizing s l with
  | nil => exact ⟨[], (List.append_nil _).symm, .nil⟩
  | cons move moves ih =>
    cases move with
    | cancel t => exact ih hs (l.cancel t)
    | poll =>
      have hpoll := poll_next hs l
      obtain ⟨rs, hfirst, hsent⟩ := hpoll.sent
      obtain ⟨rs', hrest, hsent'⟩ := ih (hpoll.isPlain hs) (s.next l).2
      refine ⟨rs ++ rs', ?_, ?_⟩
      · rw [← List.append_assoc, ← hfirst]
        exact hrest
      · rw [hpoll.client_eq] at hsent'
        show Sent s.pager.client (Transcript.requests (s.polled l ++ _)) _
        rw [Transcript.requests_append]
        exact hsent.append hsent'

end IssueStream

end JiraQuery
