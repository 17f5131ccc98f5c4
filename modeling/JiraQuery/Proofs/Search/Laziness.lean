import JiraQuery.Proofs.Search.Activity

/-!
# Lazy streams

A stream asks for a page when it is polled and no issue of its buffer gets through, and not before. Each act
of a stream keeps the books (`Progress`): what has been examined and what waits in the buffer are the pages so
far, in order, and what has passed the filters was passed over or given. Main statement:
`IssueStream.reads_activity`, polls for a number of issues fetch the shortest run of pages with so many to
give, whatever the pages are.
-/

namespace JiraQuery

/-! ## What holds after each act -/

/-- What holds after some acts of a stream that was polled first over a link and has given so many issues: of
all the pages of its pager, the stream after the acts and the link after them. -/
structure Progress (s₀ : IssueStream) (l₀ : Link) (pages : List Fetch) (A : Activity) (given : ℕ)
    (s : IssueStream) (l : Link) : Prop where
  pages_eq : ∃ rest lost, pages = A.fetches ++ rest ∧ s.pager.Pages l rest lost
  client_eq : s.pager.client = s₀.pager.client
  requests_eq : l.requests = l₀.requests ++ A.fetches.map fun f => f.request.post s₀.pager.client
  /-- What has not been examined waits in the buffer. -/
  arrived_eq : A.examined ++ s.buffer = A.arrived
  ordered : A.Ordered
  filters_eq : s.sieve.filters = s₀.sieve.filters
  /-- The issues that pass the filters are passed over until there were enough, and then given. -/
  skipped_eq : A.examined.countP s₀.sieve.passes + s.sieve.toSkip = s₀.sieve.toSkip + given
  toSkip_eq : given ≠ 0 → s.sieve.toSkip = 0
  quota_eq : s.quota = s₀.quota.map (· - given)
  given_le : ∀ n, s₀.quota = some n → given ≤ n

namespace Progress

variable {s₀ s : IssueStream} {l₀ l m : Link} {pages : List Fetch} {A : Activity} {given : ℕ}
  {lost : Option (Page Issue)} {sieve : Sieve} {pager : Pager} {is rest : List Issue} {i : Issue}

theorem start (hpages : s₀.pager.Pages l₀ pages lost) (hbuffer : s₀.buffer = []) :
    Progress s₀ l₀ pages [] 0 s₀ l₀ where
  pages_eq := ⟨pages, lost, rfl, hpages⟩
  client_eq := rfl
  requests_eq := (List.append_nil _).symm
  arrived_eq := hbuffer
  ordered := by
    intro B f C heq
    exact absurd heq (by simp)
  filters_eq := rfl
  skipped_eq := Nat.zero_add _
  toSkip_eq h := absurd rfl h
  quota_eq := Option.map_id'.symm
  given_le _ _ := Nat.zero_le _

theorem passes_eq (h : Progress s₀ l₀ pages A given s l) : s.sieve.passes = s₀.sieve.passes := by
  unfold Sieve.passes
  rw [h.filters_eq]

/-- As long as the quota is not used up, there is room for one more issue. -/
theorem given_lt (h : Progress s₀ l₀ pages A given s l) (hquota : s.quota ≠ some 0) :
    ∀ n, s₀.quota = some n → given < n := by
  intro n hn
  have hle := h.given_le n hn
  have hne : n - given ≠ 0 := by
    intro hsub
    apply hquota
    rw [h.quota_eq, hn, Option.map_some, hsub]
  omega

/-- Examining issues of the buffer; so many more issues are given after it. -/
theorem examine {more : ℕ} {quota : Option ℕ} (h : Progress s₀ l₀ pages A given s l)
    (hbuffer : s.buffer = is ++ rest) (hfilters : sieve.filters = s.sieve.filters)
    (hskipped : is.countP s.sieve.passes + sieve.toSkip = s.sieve.toSkip + more)
    (hzero : given + more ≠ 0 → sieve.toSkip = 0) (hquota : quota = s.quota.map (· - more))
    (hle : ∀ n, s₀.quota = some n → given + more ≤ n) :
    Progress s₀ l₀ pages (A ++ is.map .examined) (given + more)
      { s with sieve, quota, buffer := rest } l where
  pages_eq := by simpa using h.pages_eq
  client_eq := h.client_eq
  requests_eq := by simpa using h.requests_eq
  arrived_eq := by
    have harrived := h.arrived_eq
    rw [hbuffer] at harrived
    simpa using harrived
  ordered := h.ordered.examined is
  filters_eq := hfilters.trans h.filters_eq
  skipped_eq := by
    have hcount := h.skipped_eq
    rw [h.passes_eq] at hskipped
    simp only [Activity.examined_append, Activity.examined_map_examined, List.countP_append]
    omega
  toSkip_eq := hzero
  quota_eq := by
    rw [hquota, h.quota_eq, Option.map_map]
    refine congrArg (s₀.quota.map ·) (funext fun n => ?_)
    exact Nat.sub_sub n given more
  given_le := hle

/-- An issue gets through. -/
theorem give (h : Progress s₀ l₀ pages A given s l) (hquota : s.quota ≠ some 0)
    (hpull : s.sieve.pull s.buffer = (some (i, rest), sieve)) :
    s₀.sieve.passes i = true ∧ Progress s₀ l₀ pages (A ++ (s.sieve.seen s.buffer).map .examined) (given + 1)
      { s with sieve, buffer := rest, quota := s.quota.map (· - 1) } l := by
  obtain ⟨hsplit, ⟨before, hbefore, hcount⟩, hpass, hfilters, hzero⟩ := Sieve.pulls_of_pull_some hpull
  have hone : (s.sieve.seen s.buffer).countP s.sieve.passes = s.sieve.toSkip + 1 := by
    rw [hbefore, List.countP_append, hcount, List.countP_singleton, if_pos hpass]
  refine ⟨?_, ?_⟩
  · rw [← h.passes_eq]
    exact hpass
  · refine h.examine hsplit hfilters ?_ (fun _ => hzero) rfl (h.given_lt hquota)
    rw [hone, hzero]

/-- The buffer is used up, and no issue of it gets through. -/
theorem look (h : Progress s₀ l₀ pages A given s l) (hpull : s.sieve.pull s.buffer = (none, sieve)) :
    Progress s₀ l₀ pages (A ++ s.buffer.map .examined) given { s with sieve, buffer := [] } l := by
  obtain ⟨-, hfilters, hcount⟩ := Sieve.seen_of_pull_none hpull
  have hnone : s.quota = s.quota.map (· - 0) := Option.map_id'.symm
  show Progress s₀ l₀ pages _ (given + 0) { s with sieve, quota := s.quota, buffer := [] } l
  refine h.examine (List.append_nil _).symm hfilters hcount ?_ hnone h.given_le
  intro hgiven
  have hzero := h.toSkip_eq hgiven
  omega

/-- A page is fetched when the buffer is used up; its issues wait in the buffer. -/
theorem arrive (h : Progress s₀ l₀ pages A given s l) (hbuffer : s.buffer = []) {rest : List Fetch}
    {lost : Option (Page Issue)} (hpages : pages = A.fetches ++ ⟨s.pager.request, is⟩ :: rest)
    (hrest : pager.Pages m rest lost) (hclient : pager.client = s.pager.client)
    (hsent : m.requests = l.requests ++ [s.pager.request.post s.pager.client]) :
    Progress s₀ l₀ pages (A ++ [.fetched ⟨s.pager.request, is⟩]) given { s with pager, buffer := is } m := by
  have hexamined : A.examined = A.arrived := by
    rw [← h.arrived_eq, hbuffer, List.append_nil]
  refine ⟨⟨rest, lost, ?_, hrest⟩, hclient.trans h.client_eq, ?_, ?_, ?_, h.filters_eq, ?_, h.toSkip_eq,
    h.quota_eq, h.given_le⟩
  · rw [hpages, Activity.fetches_append, List.append_assoc]
    rfl
  · rw [hsent, h.requests_eq, Activity.fetches_append, List.map_append, List.append_assoc, h.client_eq]
    rfl
  · rw [Activity.examined_append, Activity.arrived_append, hexamined, List.append_assoc]
    refine congrArg (_ ++ ·) ?_
    exact (List.append_nil _).symm
  · exact h.ordered.concat fun _ _ => hexamined
  · rw [Activity.examined_append]
    show (A.examined ++ []).countP _ + _ = _
    rw [List.append_nil]
    exact h.skipped_eq

theorem fetch (h : Progress s₀ l₀ pages A given s l) (hbuffer : s.buffer = [])
    (hnext : s.pager.next l = ((.ok (some is), pager), m)) :
    Progress s₀ l₀ pages (A ++ [.fetched ⟨s.pager.request, is⟩]) given { s with pager, buffer := is } m := by
  obtain ⟨rest, lost, hpages, hrest⟩ := h.pages_eq
  obtain ⟨later, rfl, hsent, hlater⟩ := hrest.of_next_page hnext
  have hclient := s.pager.client_next l
  rw [hnext] at hclient
  exact h.arrive hbuffer hpages hlater hclient hsent

/-- The program stops with a page, and nothing of it gets into the buffer. -/
theorem overflow (h : Progress s₀ l₀ pages A given s l) (hbuffer : s.buffer = [])
    (hnext : s.pager.next l = ((.error .overflow, pager), m)) :
    Progress s₀ l₀ pages (A ++ [.fetched ⟨s.pager.request, []⟩]) given { s with pager, buffer := [] } m ∧
      IssueStream.IsAtEnd { s with pager, buffer := [] } := by
  obtain rfl := Pager.of_next_error hnext
  obtain ⟨rest, lost, hpages, hrest⟩ := h.pages_eq
  obtain ⟨-, rfl, hsent⟩ := hrest.of_next_error hnext
  have hended : s.pager.ended.isLive = false := rfl
  exact ⟨h.arrive hbuffer hpages (.stop hended) rfl hsent, rfl, hended⟩

/-- The pager has no page left. -/
theorem stop (h : Progress s₀ l₀ pages A given s l) (hbuffer : s.buffer = [])
    (hnext : s.pager.next l = ((.ok none, pager), m)) :
    Progress s₀ l₀ pages A given { s with pager, buffer := [] } m ∧
      IssueStream.IsAtEnd { s with pager, buffer := [] } := by
  obtain ⟨hlive, rfl, rfl⟩ := Pager.of_next_none hnext
  obtain ⟨rest, lost, hpages, hrest⟩ := h.pages_eq
  obtain ⟨rfl, rfl⟩ := hrest.eq_nil hlive
  have hended : s.pager.ended.isLive = false := rfl
  have harrived := h.arrived_eq
  rw [hbuffer] at harrived
  exact ⟨⟨⟨[], none, hpages, .stop hended⟩, h.client_eq, h.requests_eq, harrived, h.ordered, h.filters_eq,
    h.skipped_eq, h.toSkip_eq, h.quota_eq, h.given_le⟩, rfl, hended⟩

/-- One poll: it gives an issue, which it has examined last, or it finds that there is none. -/
theorem poll (h : Progress s₀ l₀ pages A given s l) (hquota : s.quota ≠ some 0) :
    (∃ B i, s.acts l = B ++ [.examined i] ∧ s₀.sieve.passes i = true ∧
        Progress s₀ l₀ pages (A ++ s.acts l) (given + 1) (s.next l).1.2 (s.next l).2) ∨
      Progress s₀ l₀ pages (A ++ s.acts l) given (s.next l).1.2 (s.next l).2 ∧ (s.next l).1.2.IsAtEnd := by
  fun_induction IssueStream.next s l generalizing A with
  | case1 s l hzero => exact absurd hzero hquota
  | case2 s l _ i rest sieve hpull =>
    obtain ⟨hpass, hgave⟩ := h.give hquota hpull
    obtain ⟨before, hbefore, -⟩ := (Sieve.pulls_of_pull_some hpull).last
    rw [IssueStream.acts_of_give hquota hpull]
    refine .inl ⟨before.map .examined, i, ?_, hpass, hgave⟩
    rw [hbefore, List.map_append]
    rfl
  | case3 s l _ sieve hpull e pager m hnext =>
    obtain ⟨rest, lost, -, hrest⟩ := h.pages_eq
    obtain ⟨rfl, -, -⟩ := hrest.of_next_error hnext
    rw [IssueStream.acts_of_overflow hquota hpull hnext, ← List.append_assoc]
    exact .inr ((h.look hpull).overflow rfl hnext)
  | case4 s l _ sieve hpull pager m hnext =>
    rw [IssueStream.acts_of_stop hquota hpull hnext]
    exact .inr ((h.look hpull).stop rfl hnext)
  | case5 s l _ sieve hpull is pager m hnext ih =>
    rw [IssueStream.acts_of_page hquota hpull hnext, List.append_cons, ← List.append_assoc,
      ← List.append_assoc]
    have harrived := (h.look hpull).fetch rfl hnext
    rcases ih harrived hquota with ⟨B, i, hacts, hpass, hgave⟩ | hended
    · refine .inl ⟨s.buffer.map .examined ++ .fetched ⟨s.pager.request, is⟩ :: B, i, ?_, hpass, hgave⟩
      rw [hacts]
      simp
    · exact .inr hended

end Progress

/-! ## Runs of polls -/

section
variable {limit : Option ℕ} {given k : ℕ}

theorem lt_within_succ (hroom : ∀ n, limit = some n → given < n) (hle : given ≤ within limit k) :
    given < within limit (k + 1) := by
  cases limit with
  | none => exact Nat.lt_succ_of_le hle
  | some n =>
    have hlt := hroom n rfl
    simp only [within, Option.elim_some] at hle ⊢
    omega

theorem succ_eq_within (hroom : ∀ n, limit = some n → given < n) (heq : given = within limit k) :
    given + 1 = within limit (k + 1) := by
  cases limit with
  | none => exact congrArg Nat.succ heq
  | some n =>
    have hlt := hroom n rfl
    simp only [within, Option.elim_some] at heq ⊢
    omega

end

/-- How polls for so many issues end: nothing was asked for, all of them were given, the last act being to
examine the last of them, or there are no more. -/
inductive Stands (s₀ : IssueStream) (need : ℕ) (A : Activity) (given : ℕ) (s : IssueStream) : Prop
  | idle (hneed : need = 0) (hgiven : given = 0) (hA : A = [])
  | enough (hpos : 0 < given) (hgiven : given = need)
      (hlast : ∃ B i, A = B ++ [.examined i] ∧ s₀.sieve.passes i = true)
  | ended (hlt : given < need) (hend : s.IsAtEnd)

theorem IssueStream.IsAtEnd.acts_eq {s : IssueStream} (h : s.IsAtEnd) (l : Link) : s.acts l = [] := by
  by_cases hquota : s.quota = some 0
  · exact IssueStream.acts_of_quota hquota
  · have hnext := Pager.next_stop (l := l) (Pager.isLive_eq_false_iff.1 h.not_live)
    rw [IssueStream.acts_of_stop hquota h.pull_eq hnext, h.buffer_eq]
    rfl

section
variable {s₀ s : IssueStream} {l₀ l : Link} {pages : List Fetch} {lost : Option (Page Issue)} {A : Activity}
  {given k : ℕ}

/-- A reader who has got all issues within the limit gets nothing more. -/
theorem Stands.of_quota (hp : Progress s₀ l₀ pages A given s l) (hquota : s.quota = some 0)
    (h : Stands s₀ (within s₀.quota k) A given s) : Stands s₀ (within s₀.quota (k + 1)) A given s := by
  have hlimit : s₀.quota = some given := by
    have hleft := hp.quota_eq
    rw [hquota] at hleft
    obtain ⟨n, hn, hsub⟩ := Option.map_eq_some_iff.1 hleft.symm
    have hle := hp.given_le n hn
    have heq : n = given := by omega
    rw [hn, heq]
  rw [hlimit] at h ⊢
  have hneed : ∀ j, within (some given) j = min j given := fun _ => rfl
  rw [hneed] at h ⊢
  cases h with
  | idle hzero hgiven hA => exact .idle (by omega) hgiven hA
  | enough hpos hgiven hlast => exact .enough hpos (by omega) hlast
  | ended hlt hend => omega

/-- One more poll, which asks for one more issue. -/
theorem Stands.of_poll (hp : Progress s₀ l₀ pages A given s l) (hquota : s.quota ≠ some 0)
    (h : Stands s₀ (within s₀.quota k) A given s) :
    ∃ given', Progress s₀ l₀ pages (A ++ s.acts l) given' (s.next l).1.2 (s.next l).2 ∧
      Stands s₀ (within s₀.quota (k + 1)) (A ++ s.acts l) given' (s.next l).1.2 := by
  have hroom := hp.given_lt hquota
  rcases hp.poll hquota with ⟨B, i, hacts, hpass, hgave⟩ | ⟨hstopped, hend⟩
  · refine ⟨given + 1, hgave, .enough (Nat.succ_pos given) ?_ ⟨A ++ B, i, ?_, hpass⟩⟩
    · cases h with
      | idle hzero hgiven hA => exact succ_eq_within hroom (hgiven.trans hzero.symm)
      | enough hpos hgiven hlast => exact succ_eq_within hroom hgiven
      | ended hlt hend =>
        rw [hend.acts_eq] at hacts
        simp at hacts
    · rw [hacts, List.append_assoc]
  · refine ⟨given, hstopped, .ended (lt_within_succ hroom ?_) hend⟩
    cases h with
    | idle hzero hgiven hA => exact (hgiven.trans hzero.symm).le
    | enough hpos hgiven hlast => exact hgiven.le
    | ended hlt hend => exact hlt.le

/-- By induction on the number of polls. -/
theorem Progress.run (hpages : s₀.pager.Pages l₀ pages lost) (hbuffer : s₀.buffer = []) (k : ℕ) :
    ∃ given, Progress s₀ l₀ pages (s₀.activity l₀ k) given (s₀.after l₀ k).1 (s₀.after l₀ k).2 ∧
      Stands s₀ (within s₀.quota k) (s₀.activity l₀ k) given (s₀.after l₀ k).1 := by
  induction k with
  | zero =>
    exact ⟨0, .start hpages hbuffer, .idle within_zero rfl rfl⟩
  | succ k ih =>
    obtain ⟨given, hprogress, hstands⟩ := ih
    rw [IssueStream.activity, IssueStream.after]
    by_cases hquota : (s₀.after l₀ k).1.quota = some 0
    · have hnext : (s₀.after l₀ k).1.next (s₀.after l₀ k).2 = ((none, (s₀.after l₀ k).1), (s₀.after l₀ k).2) := by
        rw [IssueStream.next, if_pos hquota]
      rw [IssueStream.acts_of_quota hquota, List.append_nil, hnext]
      exact ⟨given, hprogress, hstands.of_quota hprogress hquota⟩
    · exact hstands.of_poll hprogress hquota

end

/-! ## The shortest run of pages -/

/-- The first `j` pages are the shortest run that holds so many issues that pass, or all pages if there are
not so many of them. -/
def IsShortestRun (passes : Issue → Bool) (count : Option ℕ) (pages : List Fetch) (j : ℕ) : Prop :=
  IsLeast {j | j = pages.length ∨
    ∃ n, count = some n ∧ n ≤ ((pages.take j).flatMap Fetch.issues).countP passes} j

/-- For so many of the issues that pass, after others that are passed over, the first `j` of all pages are
needed: none for no issue, and else the shortest run with the last of them. -/
structure NeedsPages (passes : Issue → Bool) (skip : ℕ) (pages : List Fetch) (need : Option ℕ) (j : ℕ) :
    Prop where
  of_zero : need = some 0 → j = 0
  of_ne_zero : need ≠ some 0 → IsShortestRun passes (need.map (skip + ·)) pages j

namespace IssueStream

/-- What a stream does over a link during so many polls is to fetch the first `j` of all pages, with one
request for each. An issue is examined when it leaves the buffer, and no page is fetched before the pages in
front of it have been examined. -/
structure Reads (s : IssueStream) (l : Link) (pages : List Fetch) (k j : ℕ) : Prop where
  fetches_eq : (s.activity l k).fetches = pages.take j
  requests_eq : (s.after l k).2.requests =
    l.requests ++ (pages.take j).map fun f => f.request.post s.pager.client
  arrived_eq : (s.activity l k).examined ++ (s.after l k).1.buffer = (s.activity l k).arrived
  ordered : (s.activity l k).Ordered

end IssueStream

section
variable {s₀ s : IssueStream} {l₀ l : Link} {pages : List Fetch} {A : Activity} {given need : ℕ} {i : Issue}

theorem countP_take_le (passes : Issue → Bool) (pages : List Fetch) (j : ℕ) :
    ((pages.take j).flatMap Fetch.issues).countP passes ≤ (pages.flatMap Fetch.issues).countP passes :=
  ((List.take_prefix j pages).flatMap Fetch.issues).countP_le

theorem Progress.take_eq (hp : Progress s₀ l₀ pages A given s l) {j : ℕ} (hj : j ≤ A.fetches.length) :
    pages.take j = A.fetches.take j := by
  obtain ⟨rest, lost, hpages, -⟩ := hp.pages_eq
  rw [hpages, List.take_append_of_le_length hj]

/-- All issues that were asked for have been given: the last page was fetched before the last of them was
examined, and then all pages in front of it had been examined. -/
theorem Progress.isShortestRun_of_enough (hp : Progress s₀ l₀ pages (A ++ [.examined i]) given s l)
    (hpos : 0 < given) (hpass : s₀.sieve.passes i = true) :
    IsShortestRun s₀.sieve.passes (some (s₀.sieve.toSkip + given)) pages A.fetches.length := by
  have hfetches : Activity.fetches (A ++ [.examined i]) = A.fetches := Activity.fetches_concat_examined
  have htake : ∀ j ≤ A.fetches.length, pages.take j = A.fetches.take j := by
    intro j hj
    rw [← hfetches] at hj ⊢
    exact hp.take_eq hj
  have hcount : (Activity.examined (A ++ [.examined i])).countP s₀.sieve.passes = s₀.sieve.toSkip + given := by
    rw [← hp.skipped_eq, hp.toSkip_eq (Nat.pos_iff_ne_zero.1 hpos)]
    rfl
  constructor
  · refine .inr ⟨_, rfl, ?_⟩
    have harrived : Activity.examined (A ++ [.examined i]) <+: A.fetches.flatMap Fetch.issues := by
      rw [← hfetches]
      exact ⟨s.buffer, hp.arrived_eq⟩
    rw [htake _ le_rfl, List.take_length, ← hcount]
    exact harrived.countP_le
  · rintro j (hall | ⟨n, hn, hle⟩)
    · obtain ⟨rest, lost, hpages, -⟩ := hp.pages_eq
      rw [hall, hpages, hfetches, List.length_append]
      exact Nat.le_add_right _ _
    · by_contra hlt
      have hbefore := (hp.ordered.of_append.take_prefix (Nat.lt_of_not_le hlt)).countP_le
        (p := s₀.sieve.passes)
      have hlast : Activity.examined (A ++ [.examined i]) = A.examined ++ [i] := Activity.examined_append
      rw [hlast, List.countP_append, List.countP_singleton, if_pos hpass] at hcount
      rw [htake j (Nat.le_of_not_le hlt)] at hle
      obtain rfl := Option.some.inj hn
      omega

/-- There are no more issues: all pages have been fetched and examined. -/
theorem Progress.isShortestRun_of_ended (hp : Progress s₀ l₀ pages A given s l) (hlt : given < need)
    (hend : s.IsAtEnd) :
    IsShortestRun s₀.sieve.passes (some (s₀.sieve.toSkip + need)) pages A.fetches.length := by
  obtain ⟨rest, lost, hpages, hrest⟩ := hp.pages_eq
  rw [(hrest.eq_nil hend.not_live).1, List.append_nil] at hpages
  have hexamined : A.examined = pages.flatMap Fetch.issues := by
    have harrived := hp.arrived_eq
    rw [hend.buffer_eq, List.append_nil] at harrived
    rw [harrived, hpages]
    rfl
  have hcount := hp.skipped_eq
  rw [hexamined] at hcount
  constructor
  · exact .inl (congrArg List.length hpages.symm)
  · rintro j (hall | ⟨n, hn, hle⟩)
    · rw [hall, hpages]
    · have hle' := countP_take_le s₀.sieve.passes pages j
      obtain rfl := Option.some.inj hn
      omega

theorem Progress.needs (hp : Progress s₀ l₀ pages A given s l) (h : Stands s₀ need A given s) :
    NeedsPages s₀.sieve.passes s₀.sieve.toSkip pages (some need) A.fetches.length := by
  cases h with
  | idle hneed hgiven hA =>
    refine ⟨fun _ => ?_, fun hne => absurd (congrArg some hneed) hne⟩
    rw [hA]
    rfl
  | enough hpos hgiven hlast =>
    obtain ⟨B, i, rfl, hpass⟩ := hlast
    subst hgiven
    rw [Activity.fetches_concat_examined]
    refine ⟨fun h => ?_, fun _ => hp.isShortestRun_of_enough hpos hpass⟩
    exact absurd (Option.some.inj h) (Nat.pos_iff_ne_zero.1 hpos)
  | ended hlt hend =>
    refine ⟨fun h => ?_, fun _ => hp.isShortestRun_of_ended hlt hend⟩
    have hnone := Option.some.inj h
    omega

end

section
variable {passes : Issue → Bool} {skip j : ℕ} {pages : List Fetch}

/-- If there are not so many issues that pass, all pages are the shortest run. -/
theorem isShortestRun_iff_of_lt {count : Option ℕ}
    (hlt : ∀ n, count = some n → (pages.flatMap Fetch.issues).countP passes < n) :
    IsShortestRun passes count pages j ↔ j = pages.length := by
  have hset : {j | j = pages.length ∨
      ∃ n, count = some n ∧ n ≤ ((pages.take j).flatMap Fetch.issues).countP passes} = {pages.length} := by
    ext j
    constructor
    · rintro (hall | ⟨n, hn, hle⟩)
      · exact hall
      · have hcount := hlt n hn
        have htake := countP_take_le passes pages j
        omega
    · intro hall
      exact .inl hall
  unfold IsShortestRun
  rw [hset]
  constructor
  · intro h
    exact h.1
  · rintro rfl
    exact isLeast_singleton

theorem needsPages_iff_of_lt {need : Option ℕ} (hzero : need ≠ some 0)
    (hlt : ∀ n, need = some n → (pages.flatMap Fetch.issues).countP passes < skip + n) :
    NeedsPages passes skip pages need j ↔ j = pages.length := by
  have hshortest : IsShortestRun passes (need.map (skip + ·)) pages j ↔ j = pages.length := by
    refine isShortestRun_iff_of_lt fun n hn => ?_
    obtain ⟨k, hk, rfl⟩ := Option.map_eq_some_iff.1 hn
    exact hlt k hk
  constructor
  · intro h
    exact hshortest.1 (h.of_ne_zero hzero)
  · intro h
    exact ⟨fun hnone => absurd hnone hzero, fun _ => hshortest.2 h⟩

/-- One poll more than there are issues within a limit needs no more pages than the limit does. -/
theorem needsPages_within_length {limit : Option ℕ} {is : List Issue}
    (his : is.length = (pages.flatMap Fetch.issues).countP passes - skip) :
    NeedsPages passes skip pages (some (within limit ((upTo limit is).length + 1))) j ↔
      NeedsPages passes skip pages limit j := by
  have hlength : (upTo limit is).length = limit.elim is.length (min · is.length) := length_upTo
  by_cases hfull : ∃ n, limit = some n ∧ n ≤ is.length
  · obtain ⟨n, rfl, hn⟩ := hfull
    have hwithin : within (some n) ((upTo (some n) is).length + 1) = n := by
      rw [hlength]
      simp only [within, Option.elim_some]
      omega
    rw [hwithin]
  · -- neither number of issues is there
    have hlack : ∀ n, limit = some n → is.length < n := by
      intro n hn
      by_contra hle
      exact hfull ⟨n, hn, Nat.le_of_not_lt hle⟩
    have hwithin : within limit ((upTo limit is).length + 1) = is.length + 1 := by
      rw [hlength]
      cases limit with
      | none => rfl
      | some n =>
        have hlt := hlack n rfl
        simp only [within, Option.elim_some]
        omega
    rw [hwithin, needsPages_iff_of_lt (by simp), needsPages_iff_of_lt]
    · intro hzero
      exact absurd (hlack 0 hzero) (Nat.not_lt_zero _)
    · intro n hn
      have hlt := hlack n hn
      omega
    · intro n hn
      have heq := Option.some.inj hn
      omega

end

/-- Polls for a number of issues fetch the shortest run of pages with so many issues to give, whatever the
pages are, but never more issues than are within the limit. -/
theorem IssueStream.reads_activity {s : IssueStream} {l : Link} {pages : List Fetch} {lost : Option (Page Issue)}
    (hpages : s.pager.Pages l pages lost) (hbuffer : s.buffer = []) (k : ℕ) :
    ∃ j, s.Reads l pages k j ∧
      NeedsPages s.sieve.passes s.sieve.toSkip pages (some (within s.quota k)) j := by
  obtain ⟨given, hprogress, hstands⟩ := Progress.run hpages hbuffer k
  obtain ⟨rest, lost, hall, -⟩ := hprogress.pages_eq
  have htake : pages.take (s.activity l k).fetches.length = (s.activity l k).fetches := by
    conv => lhs; rw [hall]
    exact List.take_left
  refine ⟨_, ⟨htake.symm, ?_, hprogress.arrived_eq, hprogress.ordered⟩, hprogress.needs hstands⟩
  rw [htake]
  exact hprogress.requests_eq

end JiraQuery
