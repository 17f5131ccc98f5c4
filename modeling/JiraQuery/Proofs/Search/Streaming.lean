import JiraQuery.Proofs.Search.Paging
import JiraQuery.Search.Stream

/-!
# The issues of a stream

What a stream has yet to give is known from its buffer and from what its pager feeds it
(`IssueStream.yet`): the issues that pass the filters, without those that are passed over and within the
quota. Main statements: `IssueStream.collect_of_feeds` and `collect_start`, a search without filters
gives a part of the server's issues with as few requests as possible.
-/

namespace JiraQuery

namespace Sieve

/-- The issues that get through. -/
def sift (v : Sieve) (is : List Issue) : List Issue :=
  (is.filter v.passes).drop v.toSkip

@[simp] theorem sift_nil (v : Sieve) : v.sift [] = [] :=
  List.drop_nil

/-- Without filters, and with nothing to pass over, everything gets through. -/
@[simp] theorem sift_default (is : List Issue) : sift {} is = is :=
  List.filter_eq_self.2 fun _ _ => rfl

theorem sift_cons (v : Sieve) (i : Issue) (is : List Issue) :
    v.sift (i :: is) =
      if v.passes i then
        if v.toSkip = 0 then i :: v.sift is else sift { v with toSkip := v.toSkip - 1 } is
      else v.sift is := by
  unfold sift
  rw [List.filter_cons]
  split
  · split
    · next h => rw [h]; rfl
    · next h =>
      conv => lhs; rw [← Nat.sub_add_cancel (Nat.pos_of_ne_zero h), List.drop_succ_cons]
      rfl
  · rfl

theorem sift_of_pull_some {v w : Sieve} {is rest : List Issue} {i : Issue}
    (h : v.pull is = (some (i, rest), w)) (js : List Issue) :
    v.sift (is ++ js) = i :: w.sift (rest ++ js) := by
  fun_induction pull v is with
  | case1 => simp at h
  | case2 v i is hpass hskip =>
    obtain ⟨⟨rfl, rfl⟩, rfl⟩ := by simpa using h
    rw [List.cons_append, sift_cons, if_pos hpass, if_pos hskip]
  | case3 v i is hpass hskip ih =>
    rw [List.cons_append, sift_cons, if_pos hpass, if_neg hskip]
    exact ih h
  | case4 v i is hpass ih =>
    rw [List.cons_append, sift_cons, if_neg hpass]
    exact ih h

theorem sift_of_pull_none {v w : Sieve} {is : List Issue} (h : v.pull is = (none, w))
    (js : List Issue) : v.sift (is ++ js) = w.sift js := by
  fun_induction pull v is with
  | case1 =>
    obtain rfl := (Prod.mk.inj h).2
    rfl
  | case2 => simp at h
  | case3 v i is hpass hskip ih =>
    rw [List.cons_append, sift_cons, if_pos hpass, if_neg hskip]
    exact ih h
  | case4 v i is hpass ih =>
    rw [List.cons_append, sift_cons, if_neg hpass]
    exact ih h

end Sieve

/-! ## Ends -/

section
variable {ε α β : Type}

/-- What comes of so many results if they end like this: an error, unless there are as many as were
needed. -/
def settled (ending : Option ε) (need : Option ℕ) (found : ℕ) (x : Except ε α) : Except ε α :=
  match ending with
  | none => x
  | some e => if need.any (· ≤ found) then x else .error e

theorem settled_map (ending : Option ε) (need : Option ℕ) (found : ℕ) (x : Except ε α) (f : α → β) :
    (settled ending need found x).map f = settled ending need found (x.map f) := by
  cases ending with
  | none => rfl
  | some e =>
    show Except.map f (if _ then x else .error e) = if _ then x.map f else .error e
    split <;> rfl

theorem settled_mapError {δ : Type} (ending : Option ε) (need : Option ℕ) (found : ℕ) (x : Except ε α)
    (f : ε → δ) :
    (settled ending need found x).mapError f = settled (ending.map f) need found (x.mapError f) := by
  cases ending with
  | none => rfl
  | some e =>
    show Except.mapError f (if _ then x else .error e) = if _ then x.mapError f else .error (f e)
    split <;> rfl

theorem settled_of_le (ending : Option ε) {need found : ℕ} (h : need ≤ found) (x : Except ε α) :
    settled ending (some need) found x = x := by
  cases ending with
  | none => rfl
  | some e => exact if_pos (decide_eq_true h)

theorem settled_of_lt (e : ε) {need found : ℕ} (h : found < need) (x : Except ε α) :
    settled (some e) (some need) found x = .error e :=
  if_neg fun hle => Nat.not_le_of_lt h (of_decide_eq_true hle)

/-- A quota that is not used up goes down with the issues that are given. -/
theorem settled_succ (ending : Option ε) {quota : Option ℕ} (hq : quota ≠ some 0) (found : ℕ)
    (x : Except ε α) :
    settled ending (quota.map (· - 1)) found x = settled ending quota (found + 1) x := by
  have hany : (quota.map (· - 1)).any (· ≤ found) = quota.any (· ≤ found + 1) := by
    cases quota with
    | none => rfl
    | some k =>
      have hk : k ≠ 0 := fun h => hq (congrArg some h)
      simp only [Option.map_some, Option.any_some, decide_eq_decide]
      omega
  unfold settled
  rw [hany]

end

/-! ## Streams -/

namespace IssueStream

/-- What a stream has yet to give if its pager has yet to give `ys`. -/
def yet (s : IssueStream) (ys : List Issue) : List Issue :=
  upTo s.quota (s.sieve.sift (s.buffer ++ ys))

variable {s : IssueStream} {l n : Link} {ys is : List Issue} {i : Issue} {ending : Option ApiError}

/-- A stream is at its end, it fails as its pager does, or it gives the first of the issues that it has yet
to give. -/
theorem next_of_feeds (h : s.pager.Feeds l ys ending n) :
    (s.yet ys = [] ∧ (ending = none ∨ s.quota = some 0) ∧
        ∃ t m, s.next l = ((none, t), m) ∧ (s.quota = none → m = n)) ∨
      (s.yet ys = [] ∧ s.quota ≠ some 0 ∧
        ∃ e t, ending = some e ∧ s.next l = ((some (.error e), t), n)) ∨
      s.quota ≠ some 0 ∧ ∃ i t m zs, s.next l = ((some (.ok i), t), m) ∧ t.pager.Feeds m zs ending n ∧
        s.yet ys = i :: t.yet zs ∧ t.quota = s.quota.map (· - 1) := by
  fun_induction next s l generalizing ys with
  | case1 s l hq =>
    refine .inl ⟨?_, .inr hq, s, l, rfl, fun hnone => by simp [hnone] at hq⟩
    rw [yet, hq, upTo_some, List.take_zero]
  | case2 s l hq i buffer sieve hpull =>
    refine .inr (.inr ⟨hq, i, _, l, ys, rfl, h, ?_, rfl⟩)
    rw [yet, Sieve.sift_of_pull_some hpull, upTo_cons hq]
    rfl
  | case3 s l hq sieve hpull e pager m hnext =>
    cases h with
    | stop h | page h _ => rw [hnext] at h; simp at h
    | fail h =>
      rw [hnext] at h
      obtain ⟨⟨rfl, -⟩, rfl⟩ := by simpa using h
      refine .inr (.inl ⟨?_, hq, e, _, rfl, rfl⟩)
      rw [yet, Sieve.sift_of_pull_none hpull, Sieve.sift_nil, upTo_nil]
  | case4 s l hq sieve hpull pager m hnext =>
    cases h with
    | stop h =>
      rw [hnext] at h
      obtain ⟨-, rfl⟩ := Prod.mk.inj h
      refine .inl ⟨?_, .inl rfl, _, m, rfl, fun _ => rfl⟩
      rw [yet, Sieve.sift_of_pull_none hpull, Sieve.sift_nil, upTo_nil]
    | fail h | page h _ => rw [hnext] at h; simp at h
  | case5 s l hq sieve hpull buffer pager m hnext ih =>
    cases h with
    | stop h | fail h => rw [hnext] at h; simp at h
    | page h hrest =>
      rw [hnext] at h
      obtain ⟨⟨rfl, rfl⟩, rfl⟩ := by simpa using h
      rw [yet, Sieve.sift_of_pull_none hpull]
      exact ih hrest

theorem next_of_yet_nil (h : s.pager.Feeds l ys none n) (hyet : s.yet ys = []) :
    ∃ t m, s.next l = ((none, t), m) ∧ (s.quota = none → m = n) := by
  rcases next_of_feeds h with ⟨-, -, hnext⟩ | ⟨-, -, e, t, hnone, -⟩ | ⟨-, i, t, m, zs, -, -, hcons, -⟩
  · exact hnext
  · cases hnone
  · exact absurd (hyet.symm.trans hcons) (List.cons_ne_nil i _).symm

theorem next_of_yet_cons (h : s.pager.Feeds l ys ending n) (hyet : s.yet ys = i :: is) :
    s.quota ≠ some 0 ∧ ∃ t m zs, s.next l = ((some (.ok i), t), m) ∧ t.pager.Feeds m zs ending n ∧
      t.yet zs = is ∧ t.quota = s.quota.map (· - 1) := by
  rcases next_of_feeds h with ⟨hnil, -⟩ | ⟨hnil, -⟩ | ⟨hq, j, t, m, zs, hnext, hfeeds, hcons, hquota⟩
  · exact absurd (hnil.symm.trans hyet) (List.cons_ne_nil i is).symm
  · exact absurd (hnil.symm.trans hyet) (List.cons_ne_nil i is).symm
  · obtain ⟨rfl, rfl⟩ := List.cons.inj (hyet.symm.trans hcons)
    exact ⟨hq, t, m, zs, hnext, hfeeds, rfl, hquota⟩

theorem collect_of_none {t : IssueStream} {m : Link} (h : s.next l = ((none, t), m)) :
    s.collect l = (.ok [], m) := by
  rw [collect]
  split
  · next h' => rw [(Prod.mk.inj (h'.symm.trans h)).2]
  · next h' => simp [h] at h'
  · next h' => simp [h] at h'

theorem collect_of_error {t : IssueStream} {m : Link} {e : ApiError}
    (h : s.next l = ((some (.error e), t), m)) : s.collect l = (.error e, m) := by
  rw [collect]
  split
  · next h' => simp [h] at h'
  · next h' =>
    obtain ⟨⟨rfl, -⟩, rfl⟩ := by simpa using h'.symm.trans h
    rfl
  · next h' => simp [h] at h'

theorem collect_of_some {t : IssueStream} {m : Link} (h : s.next l = ((some (.ok i), t), m)) :
    s.collect l = ((t.collect m).1.map (i :: ·), (t.collect m).2) := by
  rw [collect]
  split
  · next h' => simp [h] at h'
  · next h' => simp [h] at h'
  · next h' =>
    obtain ⟨⟨rfl, rfl⟩, rfl⟩ := by simpa using h'.symm.trans h
    rfl

/-- A stream gives all that it has yet to give, and fails after it if its pager does and there is room for
more. -/
theorem collect_of_feeds (h : s.pager.Feeds l ys ending n) :
    ∃ m, s.collect l = (settled ending s.quota (s.yet ys).length (.ok (s.yet ys)), m) ∧
      (s.quota = none → m = n) := by
  induction hyet : s.yet ys generalizing s l ys with
  | nil =>
    rcases next_of_feeds h with
      ⟨-, hend, t, m, hnext, hm⟩ | ⟨-, hq, e, t, rfl, hnext⟩ | ⟨-, i, t, m, zs, -, -, hcons, -⟩
    · refine ⟨m, ?_, hm⟩
      rw [collect_of_none hnext]
      rcases hend with rfl | hq
      · rfl
      · cases ending with
        | none => rfl
        | some e => simp [settled, hq]
    · refine ⟨n, ?_, fun _ => rfl⟩
      have hroom : s.quota.any (· ≤ 0) = false := by
        cases hquota : s.quota with
        | none => rfl
        | some k =>
          have hk : k ≠ 0 := fun h => hq (by rw [hquota, h])
          simpa using hk
      rw [collect_of_error hnext]
      simp only [settled, List.length_nil, hroom, Bool.false_eq_true, if_false]
    · exact absurd (hyet.symm.trans hcons) (List.cons_ne_nil i _).symm
  | cons i is ih =>
    obtain ⟨hq, t, m, zs, hnext, hfeeds, hrest, hquota⟩ := next_of_yet_cons h hyet
    obtain ⟨m', hcollect, hm'⟩ := ih hfeeds hrest
    refine ⟨m', ?_, fun hnone => hm' (by rw [hquota, hnone]; rfl)⟩
    rw [collect_of_some hnext, hcollect, hquota, settled_succ ending hq, settled_map]
    rfl

end IssueStream

/-- A search without filters gives the issues of the server from the start on and within the limit, each
of them once, whatever the lengths of the pages. If pages are as long as they can be, it takes no more
requests than there are full pages in that, but at least one unless the limit is zero. -/
theorem collect_start {client : Client} {token : Token} {pageSize : UInt32} {jql : String}
    {options : SearchOptions} {answer : Server} {xs : List Issue} {l : Link} (hsize : 1 ≤ pageSize)
    (hl : l.Reaches client token answer)
    (hs : answer.Holds client ⟨jql, options.fields.names, options.expand⟩ xs) :
    let found := upTo (options.limit.map UInt32.toNat) (xs.drop options.startAt.toNat)
    ∃ m, IssueStream.collect { pager := .start client token pageSize jql options } l =
        (.ok found, m) ∧
      (answer.Fills client ⟨jql, options.fields.names, options.expand⟩ xs →
        m.requests.length = l.requests.length +
          if options.limit = some 0 then 0
          else max 1 ((found.length + pageSize.toNat - 1) / pageSize.toNat)) := by
  intro found
  obtain ⟨n, hfeeds, hcount⟩ :=
    Pager.exists_feeds (p := .start client token pageSize jql options) hl hs nofun
  obtain ⟨m, hcollect, hm⟩ := IssueStream.collect_of_feeds
    (s := { pager := .start client token pageSize jql options }) hfeeds
  obtain rfl := hm rfl
  refine ⟨m, ?_, fun hfills => ?_⟩
  · rw [hcollect, IssueStream.yet]
    simp only [List.nil_append, Sieve.sift_default, upTo_none]
    rfl
  · have hmax : max pageSize 1 = pageSize := Settings.max_one_of_one_le hsize
    have hfull := hcount hfills
    simp only [Pager.calls, Pager.pageCount, Pager.start, hmax, Bool.false_eq_true, false_or] at hfull
    exact hfull

/-- Two issues in pages of one take two requests. -/
theorem collect_start_sample :
    (1 : UInt32) ≤ 1 ∧ sampleLink.Reaches sampleClient (.numbered 0) Server.sample ∧
      Server.sample.Holds sampleClient ⟨"project = A", ["*all"], []⟩ sampleIssues ∧
      Server.sample.Fills sampleClient ⟨"project = A", ["*all"], []⟩ sampleIssues ∧
      ∃ m, IssueStream.collect
          { pager := .start sampleClient (.numbered 0) 1 "project = A" {} } sampleLink =
          (.ok sampleIssues, m) ∧ m.requests.length = 2 := by
  have hreaches := reaches_sampleLink (.numbered 0)
  have hholds := Server.holds_sample sampleClient ⟨"project = A", ["*all"], []⟩
  have hfills := Server.fills_sample sampleClient ⟨"project = A", ["*all"], []⟩
  obtain ⟨m, hcollect, hcount⟩ := @collect_start sampleClient (.numbered 0) 1 "project = A" {}
    Server.sample sampleIssues sampleLink (by decide) hreaches hholds
  exact ⟨by decide, hreaches, hholds, hfills, m, hcollect, hcount hfills⟩

end JiraQuery
