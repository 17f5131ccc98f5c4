import JiraQuery.Proofs.Handle.Results
import JiraQuery.Proofs.Search.Activity

/-!
# Reductions of a query

A query is reduced to what its list of results reduces to (`Scalar.ofList`), although the list is never
built: the server is asked for its first issues, for its total, or for issues that the client filters.
Main statements: `Scalar.reduce_eq` on streams, also on those that fail, and `Handle.scalar_eq_ofList` on
queries.
-/

namespace JiraQuery

/-- The reduction of a list of issues. -/
def Scalar.ofList : Scalar → List Issue → Except Error ScalarValue
  | first, [] => .error .empty
  | first, i :: _ => .ok (.issue (some i))
  | firstOrNone, is => .ok (.issue is.head?)
  | single, [] => .error .empty
  | single, [i] => .ok (.issue (some i))
  | single, _ :: _ :: _ => .error .moreThanOne
  | count, is => .ok (.count is.length)
  | any, is => .ok (.bool !is.isEmpty)

theorem Scalar.itemLimit?_eq_none {r : Scalar} : r.itemLimit? = none ↔ r = .count := by
  cases r <;> simp [itemLimit?]

/-- The issues within its limit decide a reduction. -/
theorem Scalar.ofList_take {r : Scalar} {cap : UInt32} (h : r.itemLimit? = some cap)
    (is : List Issue) : r.ofList (is.take cap.toNat) = r.ofList is := by
  cases r with
  | first | firstOrNone | any =>
    obtain rfl := Option.some.inj h
    cases is <;> rfl
  | single =>
    obtain rfl := Option.some.inj h
    rcases is with _ | ⟨i, _ | ⟨j, is⟩⟩ <;> rfl
  | count => simp [itemLimit?] at h

/-! ## Streams -/

namespace IssueStream

variable {st t : IssueStream} {s : Site} {m : Link} {i : Issue}

theorem pull_of_next_none (h : st.next s.link = ((none, t), m)) :
    st.pull s = (.ok (none, t), { s with link := m }) := by
  refine Remote.viaLink_of_ok ?_
  rw [h]

theorem pull_of_next_error {e : ApiError} (h : st.next s.link = ((some (.error e), t), m)) :
    st.pull s = (.error (.api e), { s with link := m }) := by
  refine Remote.viaLink_of_error ?_
  rw [h]

theorem pull_of_next_some (h : st.next s.link = ((some (.ok i), t), m)) :
    st.pull s = (.ok (some i, t), { s with link := m }) := by
  refine Remote.viaLink_of_ok ?_
  rw [h]

end IssueStream

section
variable {st : IssueStream} {s : Site} {n : Link} {ys : List Issue} {ending : Option ApiError}

/-- Where a stream is at its end or its quota is used up, no more is needed. -/
theorem settled_at_end {α : Type} {quota : Option ℕ} (hend : ending = none ∨ quota = some 0) (cap : ℕ)
    (x : Except Error α) : settled (ending.map .api) (some (within quota cap)) 0 x = x := by
  rcases hend with rfl | rfl
  · rfl
  · exact settled_of_le _ (Nat.min_le_right cap 0) x

theorem settled_failed {α : Type} {e : ApiError} {quota : Option ℕ} (hq : quota ≠ some 0) (cap : ℕ)
    (x : Except Error α) : settled ((some e).map .api) (some (within quota (cap + 1))) 0 x = .error (.api e) := by
  refine settled_of_lt _ ?_ x
  rw [within_succ hq]
  exact Nat.succ_pos _

/-- An issue is given by the first poll, and the others need one issue less. -/
theorem settled_cons {α : Type} {quota : Option ℕ} (hq : quota ≠ some 0) (cap found : ℕ) (x : Except Error α) :
    settled (ending.map .api) (some (within quota (cap + 1))) (found + 1) x =
      settled (ending.map .api) (some (within (quota.map (· - 1)) cap)) found x := by
  rw [within_succ hq]
  exact (settled_succ _ (by simp) found x).symm

theorem settled_enough {α : Type} (quota : Option ℕ) (found : ℕ) (x : Except Error α) :
    settled (ending.map .api) (some (within quota 0)) found x = x := by
  rw [within_zero]
  exact settled_of_le _ (Nat.zero_le found) x

namespace Scalar

/-- How many issues a reduction needs of a stream with a limit. -/
def needs (limit : Option ℕ) : Scalar → Option ℕ
  | first | firstOrNone | any => some (within limit 1)
  | single => some (within limit 2)
  | count => limit

/-- After how many polls of a stream that gives so many issues a reduction is decided. One that finds the end
before makes fewer polls, but the others would do nothing. -/
def polls (found : ℕ) : Scalar → ℕ
  | first | firstOrNone | any => 1
  | single => 2
  | count => found + 1

theorem reduce_one {r : Scalar} (hcap : r.itemLimit? = some 1) (h : st.pager.Feeds s.link ys ending n) :
    r.reduce st s = (settled (ending.map .api) (some (within st.quota 1)) (st.yet ys).length
      (r.ofList (st.yet ys)), { s with link := (st.next s.link).2 }) := by
  rcases IssueStream.next_of_feeds h with
    ⟨hnil, hend, t, m, hnext, -⟩ | ⟨hnil, hq, e, t, rfl, hnext⟩ | ⟨hq, i, t, m, zs, hnext, -, hcons, -⟩
  · have hpull := IssueStream.pull_of_next_none hnext
    rw [hnil, hnext, List.length_nil, settled_at_end hend]
    cases r with
    | first | firstOrNone | any => exact Remote.bind_of_ok hpull _
    | single | count => cases hcap
  · have hpull := IssueStream.pull_of_next_error hnext
    rw [hnil, hnext, List.length_nil, settled_failed hq]
    cases r with
    | first | firstOrNone | any => exact Remote.bind_of_error hpull _
    | single | count => cases hcap
  · have hpull := IssueStream.pull_of_next_some hnext
    rw [hcons, hnext, List.length_cons, settled_cons hq, settled_enough]
    cases r with
    | first | firstOrNone | any => exact Remote.bind_of_ok hpull _
    | single | count => cases hcap

/-- A second issue is looked for, and it would be one too many. -/
theorem reduce_single (h : st.pager.Feeds s.link ys ending n) :
    single.reduce st s = (settled (ending.map .api) (some (within st.quota 2)) (st.yet ys).length
      (single.ofList (st.yet ys)), { s with link := ((st.next s.link).1.2.next (st.next s.link).2).2 }) := by
  rcases IssueStream.next_of_feeds h with
    ⟨hnil, hend, t, m, hnext, -⟩ | ⟨hnil, hq, e, t, rfl, hnext⟩ | ⟨hq, i, t, m, zs, hnext, hfeeds, hcons, hquota⟩
  · have hpull := IssueStream.pull_of_next_none hnext
    have hlater := IssueStream.next_after hnext (by simp)
    rw [hnil, hnext, List.length_nil, settled_at_end hend, hlater]
    exact Remote.bind_of_ok hpull _
  · have hpull := IssueStream.pull_of_next_error hnext
    have hlater := IssueStream.next_after hnext (by simp)
    rw [hnil, hnext, List.length_nil, settled_failed hq, hlater]
    exact Remote.bind_of_error hpull _
  · have hpull := IssueStream.pull_of_next_some hnext
    rw [hcons, hnext, List.length_cons, settled_cons hq, ← hquota]
    refine (Remote.bind_of_ok hpull _).trans ?_
    rcases IssueStream.next_of_feeds hfeeds with
      ⟨hnil, hend, u, k, hnext', -⟩ | ⟨hnil, hq', e, u, rfl, hnext'⟩ | ⟨hq', j, u, k, us, hnext', -, hcons', -⟩
    · have hpull' := IssueStream.pull_of_next_none (s := { s with link := m }) hnext'
      rw [hnil, hnext', List.length_nil, settled_at_end hend]
      exact Remote.bind_of_ok hpull' _
    · have hpull' := IssueStream.pull_of_next_error (s := { s with link := m }) hnext'
      rw [hnil, hnext', List.length_nil, settled_failed hq']
      exact Remote.bind_of_error hpull' _
    · have hpull' := IssueStream.pull_of_next_some (s := { s with link := m }) hnext'
      rw [hcons', hnext', List.length_cons, settled_cons hq', settled_enough]
      exact Remote.bind_of_ok hpull' _

theorem reduce_count (h : st.pager.Feeds s.link ys ending n) :
    count.reduce st s = (settled (ending.map .api) st.quota (st.yet ys).length (count.ofList (st.yet ys)),
      { s with link := (st.after s.link ((st.yet ys).length + 1)).2 }) := by
  obtain ⟨m, hcollect, -⟩ := IssueStream.collect_of_feeds h
  have hlink := IssueStream.collect_eq_after h
  rw [hcollect] at hlink
  have hall : Remote.viaLink st.collect s =
      (settled (ending.map .api) st.quota (st.yet ys).length (.ok (st.yet ys)), { s with link := m }) := by
    rw [Remote.viaLink_eq hcollect, settled_mapError]
    rfl
  rw [← hlink]
  exact (Remote.bind_pure hall _).trans (congrArg (·, _) (settled_map _ _ _ _ _))

/-- A stream is reduced to what the issues that it has yet to give reduce to, unless it fails before there are
as many as the reduction needs. -/
theorem reduce_eq (r : Scalar) (h : st.pager.Feeds s.link ys ending n) :
    r.reduce st s = (settled (ending.map .api) (r.needs st.quota) (st.yet ys).length (r.ofList (st.yet ys)),
      { s with link := (st.after s.link (r.polls (st.yet ys).length)).2 }) := by
  cases r with
  | first | firstOrNone | any => exact reduce_one rfl h
  | single => exact reduce_single h
  | count => exact reduce_count h

end Scalar

end

/-! ## Queries -/

namespace Translation

variable {t : Translation} {xs : List Issue}

theorem results_capped (cap : UInt32) :
    (t.capped (some cap)).results xs = (t.results xs).take cap.toNat := by
  simp only [results, capped, Option.elim_some, Option.map_some, upTo_some]
  cases t.limit with
  | none => rfl
  | some n =>
    simp only [Option.elim_some, Option.map_some, upTo_some, Number.toNat_min, List.take_take]
    rw [Nat.min_comm]

/-- The total of a search, once it is cut, is the number of results. -/
theorem toNat_cutCount {total : UInt32} (htotal : total.toNat = xs.length) (hr : t.residual = []) :
    (t.cutCount total).toNat = (t.results xs).length := by
  have hall : (xs.filter fun i => t.residual.all (·.matches? i)) = xs :=
    List.filter_eq_self.2 fun _ _ => by rw [hr]; rfl
  have hleft : (Number.subSat total (t.skip.getD 0)).toNat =
      (xs.drop (t.skip.getD 0).toNat).length := by
    rw [Number.toNat_subSat, htotal, List.length_drop]
  rw [results, hall, length_upTo, ← hleft, cutCount]
  cases t.limit with
  | none => rfl
  | some n => exact (Number.toNat_min _ n).trans (Nat.min_comm _ _)

end Translation

namespace Handle

variable {h : Handle} {q : Query} {t : Translation} {xs : List Issue}

/-- Every reduction of a query agrees with the list of its results, also if the list is made at another
site. -/
theorem scalar_eq_ofList {s₁ s₂ m₁ m₂ : Site} (h₁ : h.Serves q t xs s₁ m₁)
    (h₂ : h.Serves q t xs s₂ m₂) :
    ∃ v n, h.toList q s₁ = (.ok v, n) ∧ ∀ r, ∃ m, h.scalar q r s₂ = (r.ofList v, m) := by
  obtain ⟨n, hcollect⟩ := collect_run h₁
  obtain ⟨answer, hl, hs⟩ := h₂.server
  refine ⟨t.results xs, _, toList_eq (stream_eq h₁) hcollect, fun r => ?_⟩
  unfold scalar
  rw [Remote.bind_of_ok h₂.translate_eq]
  by_cases hr : t.hasResidual = true
  · rw [if_pos hr]
    obtain ⟨ys, k, hfeeds, hyet⟩ := exists_feeds_run hl hs
    rw [← hyet]
    exact ⟨_, r.reduce_eq hfeeds⟩
  · rw [if_neg hr]
    cases hcap : r.itemLimit? with
    | none =>
      obtain rfl := Scalar.itemLimit?_eq_none.1 hcap
      obtain ⟨total, m, htotal, hlength⟩ := searchTotal_eq hl hs
      have hcall : h.total t.jql m₂ = (.ok total, { m₂ with link := m }) := Remote.viaLink_of_ok htotal
      have hnone : t.residual = [] := by simpa [Translation.hasResidual] using hr
      refine ⟨{ m₂ with link := m }, ?_⟩
      rw [if_pos rfl, Remote.bind_of_ok hcall, Translation.toNat_cutCount hlength hnone]
      rfl
    | some cap =>
      have hcount : r ≠ .count := fun h => by simp [Scalar.itemLimit?_eq_none.2 h] at hcap
      obtain ⟨ys, k, hfeeds, hyet⟩ := exists_feeds_run (t := t.capped (some cap)) hl hs
      rw [if_neg hcount, ← Scalar.ofList_take hcap, ← Translation.results_capped, ← hyet]
      exact ⟨_, r.reduce_eq hfeeds⟩

end Handle

theorem scalar_eq_ofList_sample :
    sampleHandle.Serves sampleQuery sampleTranslation sampleIssues
        { link := sampleLink } { link := sampleLink } ∧
      ∃ v n, sampleHandle.toList sampleQuery { link := sampleLink } = (.ok v, n) ∧
        ∀ r, ∃ m, sampleHandle.scalar sampleQuery r { link := sampleLink } = (r.ofList v, m) :=
  ⟨serves_sample, Handle.scalar_eq_ofList serves_sample serves_sample⟩

end JiraQuery
