import JiraQuery.Proofs.Handle.Reductions
import JiraQuery.Proofs.Search.Laziness

/-!
# Consumers of a query

A list of results and every reduction poll the stream of a query for as many issues as they need, and for no
more (`Handle.Consumes`). What a poll after the end does is nothing (`IssueStream.next_after`), so that a
consumer can be taken to make a number of polls that is known beforehand (`Scalar.polls`). Main statement:
`Handle.consumes_lazily`, on the requests that go out when filters are left to the client. It holds for any
number of laps, so that it is also about a program that is not stopped by positions that do not fit.
-/

namespace JiraQuery

namespace Handle

variable {h : Handle} {q : Query} {t : Translation} {s m : Site} {answer : Server} {fields : FieldSelection}

/-- What a consumer does to a link who needs so many results of a translated query with filters left to the
client: it polls the stream, and that fetches the pages that the number needs. -/
structure Consumes (h : Handle) (t : Translation) (fields : FieldSelection) (l : Link) (pages : List Fetch)
    (need : Option ℕ) (k j : ℕ) (n : Link) : Prop where
  link_eq : n = ((h.run t fields).after l k).2
  reads : (h.run t fields).Reads l pages k j
  needs : NeedsPages (fun i => t.residual.all (·.matches? i)) (t.skip.getD 0).toNat pages need j

/-- The stream of a translated query with filters left to the client. -/
theorem run_eq (hr : t.hasResidual = true) :
    h.run t fields = { h.streamJql t.jql { fields } with
      sieve := { filters := t.residual, toSkip := (t.skip.getD 0).toNat }
      quota := t.limit.map UInt32.toNat } :=
  if_pos hr

theorem yet_run (hr : t.hasResidual = true) (ys : List Issue) :
    (h.run t fields).yet ys = t.results ys := by
  rw [run_eq hr]
  rfl

theorem quota_run (hr : t.hasResidual = true) : (h.run t fields).quota = t.limit.map UInt32.toNat := by
  rw [run_eq hr]

variable {pages : List Fetch} {lost : Option (Page Issue)} {l n : Link}

/-- Polls of the stream of a query. -/
theorem consumes_polls (hr : t.hasResidual = true) (hpages : (h.run t fields).pager.Pages l pages lost) (k : ℕ) :
    ∃ j, h.Consumes t fields l pages (some (within (t.limit.map UInt32.toNat) k)) k j
      ((h.run t fields).after l k).2 := by
  have hbuffer : (h.run t fields).buffer = [] := by
    rw [run_eq hr]
    rfl
  obtain ⟨j, hreads, hneeds⟩ := IssueStream.reads_activity hpages hbuffer k
  refine ⟨j, rfl, hreads, ?_⟩
  rw [run_eq hr] at hneeds
  exact hneeds

/-- Polls for all results of a query, and one more. -/
theorem consumes_all (hr : t.hasResidual = true) (hpages : (h.run t fields).pager.Pages l pages lost) :
    ∃ k j, h.Consumes t fields l pages (t.limit.map UInt32.toNat) k j
      ((h.run t fields).after l ((t.results (pages.flatMap Fetch.issues)).length + 1)).2 := by
  obtain ⟨j, hlink, hreads, hneeds⟩ :=
    consumes_polls hr hpages ((t.results (pages.flatMap Fetch.issues)).length + 1)
  refine ⟨_, j, hlink, hreads, ?_⟩
  unfold Translation.results at hneeds
  refine (needsPages_within_length ?_).1 hneeds
  rw [List.length_drop, List.countP_eq_length_filter]

/-- All results of a query. -/
theorem consumes_collect (hr : t.hasResidual = true) (hpages : (h.run t fields).pager.Pages l pages lost) :
    ∃ n, (h.run t fields).collect l =
        (settled (lost.map fun _ => .overflow) (t.limit.map UInt32.toNat)
          (t.results (pages.flatMap Fetch.issues)).length (.ok (t.results (pages.flatMap Fetch.issues))), n) ∧
      ∃ k j, h.Consumes t fields l pages (t.limit.map UInt32.toNat) k j n := by
  obtain ⟨m, hfeeds⟩ := hpages.exists_feeds
  obtain ⟨n, hcollect, -⟩ := IssueStream.collect_of_feeds hfeeds
  have hafter := IssueStream.collect_eq_after hfeeds
  rw [hcollect] at hafter
  rw [yet_run hr, quota_run hr] at hcollect
  rw [yet_run hr] at hafter
  have hn : n = _ := hafter
  refine ⟨n, hcollect, ?_⟩
  rw [hn]
  exact consumes_all hr hpages

/-- A reduction of a query. -/
theorem consumes_reduce (hr : t.hasResidual = true) {s : Site}
    (hpages : (h.run t fields).pager.Pages s.link pages lost) (r : Scalar) :
    ∃ n, r.reduce (h.run t fields) s =
        (settled (lost.map fun _ => .api .overflow) (r.needs (t.limit.map UInt32.toNat))
          (t.results (pages.flatMap Fetch.issues)).length (r.ofList (t.results (pages.flatMap Fetch.issues))),
          { s with link := n }) ∧
      ∃ k j, h.Consumes t fields s.link pages (r.needs (t.limit.map UInt32.toNat)) k j n := by
  obtain ⟨m, hfeeds⟩ := hpages.exists_feeds
  have hreduce := r.reduce_eq hfeeds
  rw [yet_run hr, quota_run hr, Option.map_map] at hreduce
  refine ⟨_, hreduce, ?_⟩
  cases r with
  | first | firstOrNone | any => exact ⟨1, consumes_polls hr hpages 1⟩
  | single => exact ⟨2, consumes_polls hr hpages 2⟩
  | count => exact consumes_all hr hpages

/-- A query with filters left to the client sends as few requests as possible. Whatever pages the server
answers with, the pager comes to its end, or the program stops at a position that does not fit its word, which
takes more issues than there are positions on all laps. Any number of polls, the list of results and every
reduction then fetch the shortest run of pages with as many results as they need, and no page before the one in
front of it has been examined. What comes out are the results in the pages, or the failure where the program
stops before there are enough of them. -/
theorem consumes_lazily (htranslate : h.translate q s = (.ok t, m)) (hr : t.hasResidual = true)
    (hl : m.link.Reaches h.client h.token answer) (hs : answer.Pages h.client (t.topic q.fields)) :
    let limit := t.limit.map UInt32.toNat
    ∃ pages lost, (h.run t q.fields).pager.Pages m.link pages lost ∧
      (∀ page, lost = some page →
        UInt32.size * (m.link.laps + 1) ≤ (pages.flatMap Fetch.issues ++ page.items).length) ∧
      let found := t.results (pages.flatMap Fetch.issues)
      (h.stream q s = (.ok (h.run t q.fields), m) ∧
        ∀ k, ∃ j, h.Consumes t q.fields m.link pages (some (within limit k)) k j
          ((h.run t q.fields).after m.link k).2) ∧
      (∃ n, h.toList q s =
          (settled (lost.map fun _ => .api .overflow) limit found.length (.ok found), { m with link := n }) ∧
        ∃ k j, h.Consumes t q.fields m.link pages limit k j n) ∧
      ∀ r : Scalar, ∃ n,
        h.scalar q r s = (settled (lost.map fun _ => .api .overflow) (r.needs limit) found.length (r.ofList found),
          { m with link := n }) ∧
        ∃ k j, h.Consumes t q.fields m.link pages (r.needs limit) k j n := by
  intro limit
  have hpager : (h.run t q.fields).pager =
      .start h.client h.token h.settings.pageSize t.jql { fields := q.fields } := by
    rw [run_eq hr]
    rfl
  obtain ⟨pages, lost, hpages⟩ := Pager.exists_pages
    (.start h.client h.token h.settings.pageSize t.jql { fields := q.fields }) m.link hl hs
  have hsize (page : Page Issue) (hlost : lost = some page) := hpages.size_le_of_overflow hlost
  rw [← hpager] at hpages
  have hstream : h.stream q s = (.ok (h.run t q.fields), m) := Remote.bind_of_ok htranslate _
  refine ⟨pages, lost, hpages, ?_, ⟨hstream, consumes_polls hr hpages⟩, ?_, fun r => ?_⟩
  · intro page hlost
    have hle := hsize page hlost
    rwa [show (Pager.start h.client h.token h.settings.pageSize t.jql { fields := q.fields }).startAt.toNat = 0
      from rfl, Nat.zero_add] at hle
  · obtain ⟨n, hcollect, hconsumes⟩ := consumes_collect hr hpages
    refine ⟨n, ?_, hconsumes⟩
    rw [toList_eq hstream hcollect, settled_mapError, Option.map_map]
    rfl
  · obtain ⟨n, hreduce, hconsumes⟩ := consumes_reduce hr hpages r
    refine ⟨n, ?_, hconsumes⟩
    unfold scalar
    rw [Remote.bind_of_ok htranslate, if_pos hr]
    exact hreduce

end Handle

/-- A handle that asks for one issue at a time. -/
def singlyHandle : Handle := { sampleHandle with settings := { maxIssuesPerRequest := 1 } }

/-- A query without a limit that the server evaluates in part. -/
def unlimitedQuery : Query where
  operators := [
    .filter (.and (.eq (.system .project) (.text "A")) (.client ⟨0, fun i => i.key != "B-1"⟩))]

def unlimitedTranslation : Translation where
  predicate := "project = \"A\""
  orderings := []
  limit := none
  skip := none
  residual := [⟨0, fun i => i.key != "B-1"⟩]

theorem pages_singlyHandle {pages : List Fetch} {lost : Option (Page Issue)}
    (h : (singlyHandle.run unlimitedTranslation .all).pager.Pages sampleLink pages lost) :
    ∃ q rest, pages = ⟨q, [{ id := "1", key := "A-1" }]⟩ :: rest ∧ rest ≠ [] := by
  obtain ⟨rest, rfl, -, hrest⟩ := h.of_next_page
    (Pager.next_of_page? (reaches_sampleLink _) rfl nofun (Server.page?_sample _ _ _ _) nofun)
  refine ⟨_, rest, rfl, ?_⟩
  rintro rfl
  cases hrest with
  | stop hended => cases hended

/-- There are two pages of one issue each; whether there is a result is known after the first one. -/
theorem consumes_lazily_any :
    singlyHandle.translate unlimitedQuery { link := sampleLink } =
        (.ok unlimitedTranslation, { link := sampleLink }) ∧
      unlimitedTranslation.hasResidual = true ∧
      sampleLink.Reaches singlyHandle.client singlyHandle.token Server.sample ∧
      Server.sample.Pages singlyHandle.client (unlimitedTranslation.topic unlimitedQuery.fields) ∧
      ∃ pages lost n, (singlyHandle.run unlimitedTranslation .all).pager.Pages sampleLink pages lost ∧
        1 < pages.length ∧
        singlyHandle.scalar unlimitedQuery .any { link := sampleLink } = (.ok (.bool true), { link := n }) ∧
        n.requests.length = 1 := by
  have htranslate : singlyHandle.translate unlimitedQuery { link := sampleLink } =
      (.ok unlimitedTranslation, { link := sampleLink }) := rfl
  have hreaches : sampleLink.Reaches singlyHandle.client singlyHandle.token Server.sample :=
    reaches_sampleLink _
  have hserver : Server.sample.Pages singlyHandle.client
      (unlimitedTranslation.topic unlimitedQuery.fields) := fun n q _ => ⟨_, Server.page?_sample n q _ _⟩
  obtain ⟨pages, lost, hpages, -, -, -, hscalar⟩ := Handle.consumes_lazily htranslate rfl hreaches hserver
  obtain ⟨n, hany, k, j, hlink, hreads, hneeds⟩ := hscalar .any
  obtain ⟨q, rest, rfl, hrest⟩ := pages_singlyHandle hpages
  have hshortest := hneeds.of_ne_zero (by decide)
  have hle : j ≤ 1 := hshortest.2 (.inr ⟨1, rfl, Nat.le_refl 1⟩)
  have hne : j ≠ 0 := by
    rintro rfl
    rcases hshortest.1 with hnone | ⟨count, hcount, hzero⟩
    · cases hnone
    · obtain rfl := Option.some.inj hcount
      exact absurd hzero (Nat.not_succ_le_zero 0)
  have hone : j = 1 := by omega
  have htrue : singlyHandle.scalar unlimitedQuery .any { link := sampleLink } =
      (.ok (.bool true), { link := n }) :=
    hany.trans (congrArg (·, _) (settled_of_le _ (Nat.succ_pos _) _))
  refine ⟨htranslate, rfl, hreaches, hserver, _, lost, n, hpages, ?_, htrue, ?_⟩
  · have hpos := List.length_pos_iff.2 hrest
    rw [List.length_cons]
    omega
  · rw [hlink, hreads.requests_eq, hone]
    rfl

end JiraQuery
