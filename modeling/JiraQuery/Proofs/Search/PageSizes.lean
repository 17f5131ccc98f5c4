import JiraQuery.Proofs.Net.Sending

/-!
# Sizes of pages

A pager asks for pages of at least one issue and at most its own page size, which stays as it is while the
pages are read. So the requests of a stream are bounded by the page size of its pager, however long it is
read. Main statements: `IssueStream.within_next` and `IssueStream.adds_collect`.
-/

namespace JiraQuery

/-- The request for the number of issues, which asks for none of them. -/
def SearchRequest.count (jql : String) : SearchRequest where
  jql := jql
  startAt := 0
  maxResults := 0
  fields := ["key"]

/-- Requests of a client that do not ask for too much at once: they have no body, or they ask for the number
of issues, or for a page of at least one and at most so many. -/
inductive SizedRequest (c : Client) (most : UInt32) : Request → Prop
  | get (path : String) : SizedRequest c most (c.request "GET" path none)
  | count (jql : String) : SizedRequest c most ((SearchRequest.count jql).post c)
  | page (q : SearchRequest) (hpos : 1 ≤ q.maxResults) (hle : q.maxResults ≤ most) :
      SizedRequest c most (q.post c)

variable {c : Client} {most : UInt32}

theorem SearchRequest.adds_fetch {q : SearchRequest} (h : SizedRequest c most (q.post c)) (token : Token)
    (l : Link) : l.Adds (SizedRequest c most) (q.fetch c token l).2 :=
  Client.adds_executeRaw h l

theorem adds_searchTotal (token : Token) (jql : String) (l : Link) :
    l.Adds (SizedRequest c most) (searchTotal c token jql l).2 :=
  SearchRequest.adds_fetch (.count jql) token l

/-! ## Pagers -/

namespace Pager

/-- A pager of a client that asks for at most so many issues at once. -/
structure Within (c : Client) (most : UInt32) (p : Pager) : Prop where
  client_eq : p.client = c
  pageSize_le : p.pageSize ≤ most

variable {p : Pager}

theorem maxResults_le_pageSize (p : Pager) : p.request.maxResults ≤ p.pageSize := by
  rw [UInt32.le_iff_toNat_le, toNat_maxResults]
  cases p.quota with
  | none => exact Nat.le_refl _
  | some n => exact Nat.min_le_right _ _

/-- A pager that may go on asks for a page of a fair size. -/
theorem Within.sized (h : p.Within c most) (hlive : p.isLive) : SizedRequest c most (p.request.post c) :=
  .page _ (UInt32.le_iff_toNat_le.2 (UInt32.lt_iff_toNat_lt.1 (maxResults_pos (isLive_iff.1 hlive).2)))
    (UInt32.le_trans p.maxResults_le_pageSize h.pageSize_le)

theorem Within.next (h : p.Within c most) (l : Link) :
    l.Adds (SizedRequest c most) (p.next l).2 ∧ (p.next l).1.2.Within c most := by
  have hturn := p.turn l
  have hfetch (hlive : p.isLive) := SearchRequest.adds_fetch (h.sized hlive) p.token l
  rw [← h.client_eq] at hfetch ⊢
  rcases hnext : p.next l with ⟨⟨r, q⟩, m⟩
  rw [hnext] at hturn
  generalize p.fetch? l = asked at hturn
  cases hturn with
  | stop hlive => exact ⟨.refl _, rfl, h.pageSize_le⟩
  | cancelled hlive hcancelled => exact ⟨.refl _, rfl, h.pageSize_le⟩
  | failed hlive hcancelled hfailed | overflow hlive hcancelled hfailed =>
    have hadds := hfetch hlive
    rw [hfailed] at hadds
    exact ⟨hadds, rfl, h.pageSize_le⟩
  | page hlive hcancelled hpage hlives hwarn =>
    have hadds := hfetch hlive
    rw [hpage] at hadds
    refine ⟨hadds.trans (.of_requests_eq ?_), rfl, h.pageSize_le⟩
    rw [← hwarn, IssueStream.requests_warn, IssueStream.requests_lap]

theorem within_start (token : Token) {pageSize : UInt32} (jql : String) (options : SearchOptions)
    (hpos : 1 ≤ pageSize) (hle : pageSize ≤ most) :
    (start c token pageSize jql options).Within c most where
  client_eq := rfl
  pageSize_le := by
    show max pageSize 1 ≤ most
    rwa [Settings.max_one_of_one_le hpos]

end Pager

/-! ## Streams -/

namespace IssueStream

variable {s : IssueStream}

/-- By induction on the pages that a poll reads. -/
theorem within_next (h : s.pager.Within c most) (l : Link) :
    l.Adds (SizedRequest c most) (s.next l).2 ∧ (s.next l).1.2.pager.Within c most := by
  fun_induction IssueStream.next s l with
  | case1 => exact ⟨.refl _, h⟩
  | case2 => exact ⟨.refl _, h⟩
  | case3 s l _ _ _ e pager m hnext | case4 s l _ _ _ pager m hnext =>
    have hpager := h.next l
    rwa [hnext] at hpager
  | case5 s l _ _ _ buffer pager m hnext ih =>
    have hpager := h.next l
    rw [hnext] at hpager
    obtain ⟨hadds, hwithin⟩ := ih hpager.2
    exact ⟨hpager.1.trans hadds, hwithin⟩

/-- By induction on the issues that are given. -/
theorem adds_collect (h : s.pager.Within c most) (l : Link) :
    l.Adds (SizedRequest c most) (s.collect l).2 := by
  fun_induction IssueStream.collect s l with
  | case1 s l _ m hnext | case2 s l e _ m hnext =>
    have hfirst := within_next h l
    rw [hnext] at hfirst
    exact hfirst.1
  | case3 s l issue t m hnext rest n hrest ih =>
    have hfirst := within_next h l
    rw [hnext] at hfirst
    have hadds := ih hfirst.2
    rw [hrest] at hadds
    exact hfirst.1.trans hadds

theorem sends_pull (h : s.pager.Within c most) :
    s.pull.Sends (SizedRequest c most) fun pulled => pulled.2.pager.Within c most := by
  refine .viaLink (fun l => ?_) fun {l m pulled} hok => ?_
  · have hnext := (within_next h l).1
    rcases hs : s.next l with ⟨⟨_ | _ | _, t⟩, n⟩ <;> rwa [hs] at hnext
  · have hnext := (within_next h l).2
    rcases hs : s.next l with ⟨⟨_ | e | i, t⟩, n⟩ <;> simp only [hs] at hok hnext
    · cases hok
      exact hnext
    · cases hok
    · cases hok
      exact hnext

end IssueStream

end JiraQuery
