import JiraQuery.Metadata.Issue
import JiraQuery.Net.Client
import JiraQuery.Number.Saturating
import JiraQuery.Search.Page

/-!
# Paging through a search

A pager asks for one page of issues after the other, each from where the last one ended, until the
total or its own limit is reached. An error and an empty page end it. Positions are words, and a sum of them
that does not fit either stops the program or goes on from zero, which a link allows so many times (`laps`).
Main statement: `measure_next`, every page brings the pager nearer to the end of its laps.

| here | there |
| --- | --- |
| `FieldSelection.names` | `FieldSelection::to_wire` |
| `searchTotal` | `SearchExecutor::total` |
| `Pager.start` | `SearchExecutor::new` with `SearchExecutor::stream` |
| `Pager.remaining` | `limit` less `yielded`, which saturates there |
| `Pager.next`, `Pager.advance` | `Pager::next_page`, its sums with `+=` |
-/

namespace JiraQuery

/-- Which fields the issues carry. -/
inductive FieldSelection
  | all
  | only (names : List String)
  deriving DecidableEq, Repr

/-- The selection in a request. -/
def FieldSelection.names : FieldSelection → List String
  | all => ["*all"]
  | only names => names

structure SearchOptions where
  fields : FieldSelection := .all
  expand : List String := []
  /-- How many issues are passed over. -/
  startAt : UInt32 := 0
  /-- How many issues there are at most. -/
  limit : Option UInt32 := none
  deriving DecidableEq, Repr

/-- Asks for a page of issues. -/
def SearchRequest.fetch (q : SearchRequest) (client : Client) (token : Token) :
    StateM Link (Except ApiError (Page Issue)) :=
  client.execute token "POST" "rest/api/2/search" (some (encode q)) decode?

/-- The number of issues that match a query, from a page without issues. -/
def searchTotal (client : Client) (token : Token) (jql : String) :
    StateM Link (Except ApiError UInt32) := do
  let q : SearchRequest := { jql, startAt := 0, maxResults := 0, fields := ["key"] }
  return (← q.fetch client token).map Page.total

structure Pager where
  client : Client
  token : Token
  jql : String
  fields : List String
  expand : List String
  pageSize : UInt32
  one_le_pageSize : 1 ≤ pageSize
  /-- The position of the next issue. -/
  startAt : UInt32
  /-- How many more issues there are at most. -/
  remaining : Option UInt32
  done : Bool := false

namespace Pager

/-- A pager that has not asked for anything; it asks for at least one issue at once. -/
def start (client : Client) (token : Token) (pageSize : UInt32) (jql : String)
    (options : SearchOptions) : Pager where
  client := client
  token := token
  jql := jql
  fields := options.fields.names
  expand := options.expand
  pageSize := max pageSize 1
  one_le_pageSize := Settings.le_max_right _ _
  startAt := options.startAt
  remaining := options.limit

/-- The request for the next page. -/
def request (p : Pager) : SearchRequest where
  jql := p.jql
  startAt := p.startAt
  maxResults := p.remaining.elim p.pageSize (min · p.pageSize)
  fields := p.fields
  expand := p.expand

/-- The issues of a page that are within the limit. -/
def cut (p : Pager) (page : Page Issue) : List Issue :=
  p.remaining.elim page.items (page.items.take ·.toNat)

/-- How many issues came with a page, as a word. -/
def received (p : Pager) (page : Page Issue) : UInt32 :=
  UInt32.ofNat (p.cut page).length

/-- Whether the position after a page does not fit its word. The number of all issues that came is no
greater than the position, so it does not leave its word any earlier. -/
def overflows (p : Pager) (page : Page Issue) : Bool :=
  UInt32.size ≤ p.startAt.toNat + (p.received page).toNat

/-- The pager after a page. A position that does not fit goes on from zero. -/
def advance (p : Pager) (page : Page Issue) : Pager :=
  let startAt := p.startAt + p.received page
  let remaining := p.remaining.map (Number.subSat · (p.received page))
  { p with
    startAt
    remaining
    done := p.received page = 0 || remaining = some 0 || page.total ≤ startAt }

/-- A page without issues before the announced end is worth a warning. -/
def warn (p : Pager) (page : Page Issue) (l : Link) : Link :=
  if p.received page = 0 ∧ p.startAt < page.total then
    l.tell (.shortSearch p.startAt page.total)
  else l

/-- The link after a page: a position that does not fit takes one of the laps. -/
def lap (p : Pager) (page : Page Issue) (l : Link) : Link :=
  if p.overflows page then { l with laps := l.laps - 1 } else l

/-- The next page of issues, or nothing at the end. Where the position does not fit and no lap is left, the
page is lost with the program. -/
def next (p : Pager) (l : Link) : (Except ApiError (Option (List Issue)) × Pager) × Link :=
  let ended := { p with done := true }
  if p.done || p.remaining = some 0 then ((.ok none, ended), l)
  else if l.isCancelled p.token then ((.error .cancelled, ended), l)
  else match p.request.fetch p.client p.token l with
    | (.error e, l) => ((.error e, ended), l)
    | (.ok page, l) =>
      if p.overflows page && l.laps = 0 then ((.error .overflow, ended), l)
      else ((.ok (some (p.cut page)), p.advance page), p.warn page (p.lap page l))

/-- How many issues there may still be before the position leaves its word, one more than the positions
that are left. -/
def potential (p : Pager) : Nat :=
  if p.done then 0 else 0x100000000 - p.startAt.toNat

/-- What is left to do: first of the laps, then of the one that the pager is on. -/
def measure (p : Pager) (l : Link) : Nat × Nat :=
  (l.laps, p.potential)

theorem laps_warn (p : Pager) (page : Page Issue) (l : Link) : (p.warn page l).laps = l.laps := by
  unfold warn
  split <;> rfl

/-- A position that fits is the sum. -/
theorem toNat_startAt_of_fits {p : Pager} {page : Page Issue} (h : p.overflows page = false) :
    (p.advance page).startAt.toNat = p.startAt.toNat + (p.received page).toNat := by
  have hfits : ¬ UInt32.size ≤ p.startAt.toNat + (p.received page).toNat := of_decide_eq_false h
  show (p.startAt + p.received page).toNat = _
  rw [UInt32.toNat_add]
  exact Nat.mod_eq_of_lt (Nat.lt_of_not_le hfits)

theorem potential_advance {p : Pager} {page : Page Issue} (hdone : p.done = false)
    (hfits : p.overflows page = false) : (p.advance page).potential < p.potential := by
  have hs := p.startAt.toNat_lt
  have hstart := toNat_startAt_of_fits hfits
  unfold potential
  rw [hdone]
  simp only [Bool.false_eq_true, if_false]
  split
  · omega
  · next hd =>
    simp only [advance, Bool.or_eq_true, decide_eq_true_eq, not_or] at hd
    have hsome : (p.received page).toNat ≠ 0 := fun h => hd.1.1 (UInt32.toNat_inj.1 h)
    omega

/-- A page takes a lap, or the pager gets further within the one that it is on. -/
theorem measure_advance {p : Pager} {page : Page Issue} {l : Link} (hdone : p.done = false)
    (hlives : ¬(p.overflows page && l.laps = 0)) :
    Prod.Lex (· < ·) (· < ·) ((p.advance page).measure (p.warn page (p.lap page l))) (p.measure l) := by
  unfold measure lap
  rw [laps_warn]
  cases hover : p.overflows page with
  | true =>
    have hlaps : l.laps ≠ 0 := by simpa [hover] using hlives
    exact .left _ _ (Nat.sub_lt (Nat.pos_of_ne_zero hlaps) Nat.one_pos)
  | false => exact .right _ (potential_advance hdone hover)

theorem laps_fetch (q : SearchRequest) (client : Client) (token : Token) (l : Link) :
    (q.fetch client token l).2.laps = l.laps :=
  client.laps_execute token "POST" "rest/api/2/search" (some (encode q)) decode? l

theorem measure_next {p q : Pager} {l m : Link} {issues : List Issue}
    (h : p.next l = ((.ok (some issues), q), m)) :
    Prod.Lex (· < ·) (· < ·) (q.measure m) (p.measure l) := by
  unfold next at h
  split at h
  · simp at h
  · next hd =>
    split at h
    · simp at h
    · have hlaps := laps_fetch p.request p.client p.token l
      split at h
      · simp at h
      · next page n hfetch =>
        rw [hfetch] at hlaps
        split at h
        · simp at h
        · next hlives =>
          simp only [Prod.mk.injEq] at h
          rw [← h.1.2, ← h.2]
          have hless := measure_advance (p := p) (by simp_all) hlives
          unfold measure at hless ⊢
          rwa [hlaps] at hless

end Pager

end JiraQuery
