import JiraQuery.Query.Expr
import JiraQuery.Search.Pager

/-!
# Streams of issues

A stream gives issues one at a time and asks for a page only when the one before it has been used up.
Between the pager and the reader stand the filters of the client, a number of issues to pass over
and a number of issues to give at most. Main statement: `measure_next`, a stream comes to its end.

| here | there |
| --- | --- |
| `Sieve`, `Sieve.pull` | `try_filter` in `QueryProvider::run`, by the residual filters and the count `to_skip` |
| `IssueStream.quota` | `take`, in `QueryProvider::run` |
| `IssueStream.next` | the stream of `SearchExecutor::stream`, which unfolds the pager |
| `IssueStream.collect` | `try_collect` |
-/

namespace JiraQuery

/-- What stands between the issues of the server and the reader. -/
structure Sieve where
  filters : List ClientFilter := []
  /-- How many of the issues that pass the filters are passed over. -/
  toSkip : Nat := 0

namespace Sieve

def passes (v : Sieve) (i : Issue) : Bool :=
  v.filters.all (·.matches? i)

/-- The first issue that gets through and the issues after it. -/
def pull (v : Sieve) : List Issue → Option (Issue × List Issue) × Sieve
  | [] => (none, v)
  | i :: is =>
    if v.passes i then
      if v.toSkip = 0 then (some (i, is), v) else pull { v with toSkip := v.toSkip - 1 } is
    else pull v is

theorem length_lt_of_pull {v w : Sieve} {is rest : List Issue} {i : Issue}
    (h : v.pull is = (some (i, rest), w)) : rest.length < is.length := by
  fun_induction pull v is with
  | case1 => simp at h
  | case2 => simp_all
  | case3 v i is _ _ ih => exact Nat.lt_succ_of_lt (ih h)
  | case4 v i is _ ih => exact Nat.lt_succ_of_lt (ih h)

end Sieve

structure IssueStream where
  pager : Pager
  /-- Issues that have arrived and that the reader has not asked for. -/
  buffer : List Issue := []
  sieve : Sieve := {}
  /-- How many more issues the reader gets at most. -/
  quota : Option Nat := none

namespace IssueStream

/-- The next issue, the error in its place, or nothing at the end. -/
def next (s : IssueStream) (l : Link) : (Option (Except ApiError Issue) × IssueStream) × Link :=
  if s.quota = some 0 then ((none, s), l)
  else match s.sieve.pull s.buffer with
    | (some (issue, buffer), sieve) =>
      ((some (.ok issue), { s with buffer, sieve, quota := s.quota.map (· - 1) }), l)
    | (none, sieve) =>
      match _h : s.pager.next l with
      | ((.error e, pager), l) => ((some (.error e), { s with pager, sieve, buffer := [] }), l)
      | ((.ok none, pager), l) => ((none, { s with pager, sieve, buffer := [] }), l)
      | ((.ok (some buffer), pager), l) => next { s with pager, sieve, buffer } l
termination_by s.pager.measure l
decreasing_by exact Pager.measure_next _h

/-- What is left to do: first of the pager, then of the buffer. -/
def measure (s : IssueStream) (l : Link) : (Nat × Nat) × Nat :=
  (s.pager.measure l, s.buffer.length)

theorem measure_next {s t : IssueStream} {l m : Link} {issue : Issue}
    (h : s.next l = ((some (.ok issue), t), m)) :
    Prod.Lex (Prod.Lex (· < ·) (· < ·)) (· < ·) (t.measure m) (s.measure l) := by
  fun_induction next s l with
  | case1 => simp at h
  | case2 s l _ i buffer sieve hp =>
    obtain ⟨⟨-, rfl⟩, rfl⟩ := by simpa using h
    exact .right _ (Sieve.length_lt_of_pull hp)
  | case3 => simp at h
  | case4 => simp at h
  | case5 s l _ sieve hp buffer pager l' hn ih =>
    have hlt := Pager.measure_next hn
    have := ih h
    simp only [Prod.lex_def, Prod.mk.injEq, measure, Pager.measure] at hlt this ⊢
    omega

/-- Every issue up to the end or the first error. -/
def collect (s : IssueStream) (l : Link) : Except ApiError (List Issue) × Link :=
  match _h : s.next l with
  | ((none, _), l) => (.ok [], l)
  | ((some (.error e), _), l) => (.error e, l)
  | ((some (.ok issue), s), l) =>
    let (rest, l) := collect s l
    (rest.map (issue :: ·), l)
termination_by s.measure l
decreasing_by exact measure_next _h

end IssueStream

end JiraQuery
