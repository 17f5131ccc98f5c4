import JiraQuery.Handle.Query
import JiraQuery.Proofs.Search.Streaming

/-!
# The results of a query

A translated query stands for a part of the issues that match its text (`Translation.results`). The
server cuts the result if it can, and the client does if filters are left to it; what comes out is the
same. Main statements: `Handle.exists_feeds_run` and `Handle.toList_eq_results`.
-/

namespace JiraQuery

/-! ## Calls -/

namespace Remote

variable {α β : Type}

theorem bind_of_ok {x : Remote α} {a : α} {s m : Site} (h : x s = (.ok a, m)) (f : α → Remote β) :
    (x >>= f) s = f a m := by
  show ExceptT.bindCont f (x s).1 (x s).2 = f a m
  rw [h]
  rfl

theorem bind_of_error {x : Remote α} {e : Error} {s m : Site} (h : x s = (.error e, m)) (f : α → Remote β) :
    (x >>= f) s = (.error e, m) := by
  show ExceptT.bindCont f (x s).1 (x s).2 = (.error e, m)
  rw [h]
  rfl

theorem bind_pure {x : Remote α} {r : Except Error α} {s m : Site} (h : x s = (r, m)) (f : α → β) :
    (x >>= fun a => pure (f a)) s = (r.map f, m) := by
  cases r with
  | ok a => exact bind_of_ok h _
  | error e => exact bind_of_error h _

section
variable {call : StateM Link (Except ApiError α)} {s : Site} {m : Link}

theorem viaLink_eq {r : Except ApiError α} (h : call s.link = (r, m)) :
    viaLink call s = (r.mapError .api, { s with link := m }) := by
  unfold viaLink
  rw [h]

theorem viaLink_of_ok {a : α} (h : call s.link = (.ok a, m)) : viaLink call s = (.ok a, { s with link := m }) :=
  viaLink_eq h

theorem viaLink_of_error {e : ApiError} (h : call s.link = (.error e, m)) :
    viaLink call s = (.error (.api e), { s with link := m }) :=
  viaLink_eq h

end

end Remote

/-! ## Queries -/

/-- What a translated query stands for among the issues that match its text: those that pass the filters
left to the client, from the first one that is not skipped up to the limit. -/
def Translation.results (t : Translation) (xs : List Issue) : List Issue :=
  upTo (t.limit.map UInt32.toNat)
    ((xs.filter fun i => t.residual.all (·.matches? i)).drop (t.skip.getD 0).toNat)

/-- What the searches of a translated query are about. -/
def Translation.topic (t : Translation) (fields : FieldSelection) : Topic :=
  ⟨t.jql, fields.names, []⟩

namespace Handle

variable {h : Handle} {q : Query} {t : Translation} {xs : List Issue}

/-- A query is translated at a site, and the site after that reaches a server that holds the issues. -/
structure Serves (h : Handle) (q : Query) (t : Translation) (xs : List Issue) (s m : Site) : Prop where
  translate_eq : h.translate q s = (.ok t, m)
  server : ∃ answer, m.link.Reaches h.client h.token answer ∧
    answer.Holds h.client (t.topic q.fields) xs

/-- Whoever cuts the result, the stream of a translated query has its results yet to give. -/
theorem exists_feeds_run {fields : FieldSelection} {l : Link} {answer : Server}
    (hl : l.Reaches h.client h.token answer) (hs : answer.Holds h.client (t.topic fields) xs) :
    ∃ ys m, (h.run t fields).pager.Feeds l ys none m ∧ (h.run t fields).yet ys = t.results xs := by
  by_cases hr : t.hasResidual = true
  · have hrun : h.run t fields = { h.streamJql t.jql { fields } with
        sieve := { filters := t.residual, toSkip := (t.skip.getD 0).toNat }
        quota := t.limit.map UInt32.toNat } := if_pos hr
    obtain ⟨m, hfeeds, -⟩ := Pager.exists_feeds
      (p := .start h.client h.token h.settings.pageSize t.jql { fields }) hl hs nofun
    rw [hrun]
    exact ⟨xs, m, hfeeds, rfl⟩
  · have hrun : h.run t fields =
        h.streamJql t.jql { fields, startAt := t.skip.getD 0, limit := t.limit } := if_neg hr
    have hnone : t.residual = [] := by simpa [Translation.hasResidual] using hr
    have hall : (xs.filter fun i => t.residual.all (·.matches? i)) = xs :=
      List.filter_eq_self.2 fun _ _ => by rw [hnone]; rfl
    obtain ⟨m, hfeeds, -⟩ := Pager.exists_feeds
      (p := .start h.client h.token h.settings.pageSize t.jql
        { fields, startAt := t.skip.getD 0, limit := t.limit }) hl hs nofun
    rw [hrun]
    refine ⟨_, m, hfeeds, ?_⟩
    rw [Translation.results, hall]
    exact Sieve.sift_default _

variable {s m : Site}

theorem stream_eq (hs : h.Serves q t xs s m) : h.stream q s = (.ok (h.run t q.fields), m) :=
  Remote.bind_of_ok hs.translate_eq _

theorem collect_run (hs : h.Serves q t xs s m) :
    ∃ n, (h.run t q.fields).collect m.link = (.ok (t.results xs), n) := by
  obtain ⟨answer, hl, hholds⟩ := hs.server
  obtain ⟨ys, k, hfeeds, hyet⟩ := exists_feeds_run hl hholds
  obtain ⟨n, hcollect, -⟩ := IssueStream.collect_of_feeds hfeeds
  rw [hyet] at hcollect
  exact ⟨n, hcollect⟩

theorem toList_eq {st : IssueStream} {n : Link} {r : Except ApiError (List Issue)}
    (hstream : h.stream q s = (.ok st, m)) (hcollect : st.collect m.link = (r, n)) :
    h.toList q s = (r.mapError .api, { m with link := n }) :=
  (Remote.bind_of_ok hstream _).trans (Remote.viaLink_eq hcollect)

/-- A query that is translated succeeds, and the issues that come out are its results among those that
the server holds. -/
theorem toList_eq_results (hs : h.Serves q t xs s m) :
    ∃ st n, h.stream q s = (.ok st, m) ∧ st.collect m.link = (.ok (t.results xs), n) ∧
      h.toList q s = (.ok (t.results xs), { m with link := n }) := by
  obtain ⟨n, hcollect⟩ := collect_run hs
  exact ⟨_, n, stream_eq hs, hcollect, toList_eq (stream_eq hs) hcollect⟩

end Handle

/-- A handle for the server with two issues. -/
def sampleHandle : Handle := { client := sampleClient, settings := {}, token := .numbered 0 }

/-- A query that the server evaluates in part. -/
def sampleQuery : Query where
  operators := [
    .filter (.and (.eq (.system .project) (.text "A")) (.client ⟨0, fun i => i.key != "B-1"⟩)),
    .skip 1, .take 5]

def sampleTranslation : Translation where
  predicate := "project = \"A\""
  orderings := []
  limit := some 5
  skip := some 1
  residual := [⟨0, fun i => i.key != "B-1"⟩]

theorem serves_sample : sampleHandle.Serves sampleQuery sampleTranslation sampleIssues
    { link := sampleLink } { link := sampleLink } :=
  ⟨rfl, Server.sample, reaches_sampleLink _, Server.holds_sample _ _⟩

/-- Both issues pass the filter, and the first one is skipped. -/
theorem toList_eq_results_sample :
    sampleHandle.Serves sampleQuery sampleTranslation sampleIssues
        { link := sampleLink } { link := sampleLink } ∧
      ∃ st n, sampleHandle.stream sampleQuery { link := sampleLink } =
          (.ok st, { link := sampleLink }) ∧
        st.collect sampleLink = (.ok [{ id := "2", key := "A-2" }], n) ∧
        sampleHandle.toList sampleQuery { link := sampleLink } =
          (.ok [{ id := "2", key := "A-2" }], { link := n }) :=
  ⟨serves_sample, Handle.toList_eq_results serves_sample⟩

end JiraQuery
