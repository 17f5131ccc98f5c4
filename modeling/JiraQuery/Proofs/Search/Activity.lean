import JiraQuery.Proofs.Search.Streaming
import JiraQuery.Proofs.Search.Transcript

/-!
# The acts of a stream

What a stream does while it is polled is written down act by act: a page is fetched, an issue of the buffer is
put to the filters (`IssueStream.activity`). Such a list of acts is in order if no page is fetched before the
pages in front of it have been examined to their end (`Activity.Ordered`). What there is to fetch are the
pages of the pager. Main statements: `Pager.exists_pages`, against a server that answers a pager comes to its
end or stops at a position that does not fit, whatever the pages are, and `Pager.Pages.size_le_of_overflow`,
it stops like that only when the issues have used up every lap.
-/

namespace JiraQuery

/-! ## Examining issues -/

namespace Sieve

variable {v w : Sieve} {is rest : List Issue} {i : Issue}

/-- The issues that are examined until one gets through, with that one. -/
def seen (v : Sieve) : List Issue → List Issue
  | [] => []
  | i :: is =>
    i :: if v.passes i then
        if v.toSkip = 0 then [] else seen { v with toSkip := v.toSkip - 1 } is
      else seen v is

/-- An issue gets through: before it so many have passed the filters as are passed over. -/
structure Pulls (v w : Sieve) (is rest : List Issue) (i : Issue) : Prop where
  split : is = v.seen is ++ rest
  last : ∃ before, v.seen is = before ++ [i] ∧ before.countP v.passes = v.toSkip
  passes : v.passes i = true
  filters_eq : w.filters = v.filters
  toSkip_eq : w.toSkip = 0

theorem pulls_of_pull_some (h : v.pull is = (some (i, rest), w)) : v.Pulls w is rest i := by
  fun_induction pull v is with
  | case1 => simp at h
  | case2 v j is hpass hskip =>
    obtain ⟨⟨rfl, rfl⟩, rfl⟩ := by simpa using h
    have hseen : v.seen (j :: is) = [j] := by simp only [seen, hpass, hskip, if_true]
    refine ⟨?_, ⟨[], ?_, ?_⟩, hpass, rfl, hskip⟩
    · rw [hseen]
      rfl
    · rw [hseen]
      rfl
    · rw [hskip]
      rfl
  | case3 v j is hpass hskip ih =>
    obtain ⟨hsplit, ⟨before, hbefore, hcount⟩, hi, hfilters, hzero⟩ := ih h
    have hseen : v.seen (j :: is) = j :: seen { v with toSkip := v.toSkip - 1 } is := by
      simp only [seen, hpass, hskip, if_true, if_false]
    refine ⟨?_, ⟨j :: before, ?_, ?_⟩, hi, hfilters, hzero⟩
    · rw [hseen, List.cons_append, ← hsplit]
    · rw [hseen, hbefore]
      rfl
    · have hone : before.countP v.passes = v.toSkip - 1 := hcount
      rw [List.countP_cons_of_pos hpass, hone]
      omega
  | case4 v j is hpass ih =>
    obtain ⟨hsplit, ⟨before, hbefore, hcount⟩, hi, hfilters, hzero⟩ := ih h
    have hseen : v.seen (j :: is) = j :: v.seen is := by simp only [seen, hpass]; rfl
    refine ⟨?_, ⟨j :: before, ?_, ?_⟩, hi, hfilters, hzero⟩
    · rw [hseen, List.cons_append, ← hsplit]
    · rw [hseen, hbefore]
      rfl
    · rw [List.countP_cons_of_neg hpass, hcount]

/-- No issue gets through: all of them are examined, and those that pass the filters are passed over. -/
theorem seen_of_pull_none (h : v.pull is = (none, w)) :
    v.seen is = is ∧ w.filters = v.filters ∧ is.countP v.passes + w.toSkip = v.toSkip := by
  fun_induction pull v is with
  | case1 v =>
    obtain rfl := (Prod.mk.inj h).2
    exact ⟨rfl, rfl, Nat.zero_add _⟩
  | case2 => simp at h
  | case3 v j is hpass hskip ih =>
    obtain ⟨hseen, hfilters, hcount⟩ := ih h
    refine ⟨?_, hfilters, ?_⟩
    · simp only [seen, hpass, hskip, if_true, if_false, hseen]
    · have hone : is.countP v.passes + w.toSkip = v.toSkip - 1 := hcount
      rw [List.countP_cons_of_pos hpass]
      omega
  | case4 v j is hpass ih =>
    obtain ⟨hseen, hfilters, hcount⟩ := ih h
    refine ⟨?_, hfilters, ?_⟩
    · simp only [seen, hpass, hseen]
      rfl
    · rw [List.countP_cons_of_neg hpass, hcount]

end Sieve

/-! ## Acts of a stream -/

/-- A page that has been fetched. -/
structure Fetch where
  request : SearchRequest
  issues : List Issue

inductive Act
  | fetched (fetch : Fetch)
  /-- An issue is taken out of the buffer and put to the filters. -/
  | examined (issue : Issue)

namespace Act

def fetch? : Act → Option Fetch
  | fetched f => some f
  | examined _ => none

def issue? : Act → Option Issue
  | fetched _ => none
  | examined i => some i

end Act

abbrev Activity := List Act

namespace Activity

/-- The pages that were fetched, in order. -/
def fetches (A : Activity) : List Fetch := A.filterMap Act.fetch?

/-- The issues that were examined, in order. -/
def examined (A : Activity) : List Issue := A.filterMap Act.issue?

/-- The issues of all pages. -/
def arrived (A : Activity) : List Issue := A.fetches.flatMap Fetch.issues

/-- Before a page is fetched, all issues of the pages so far have been examined. -/
def Ordered (A : Activity) : Prop :=
  ∀ (B : Activity) f (C : Activity), A = B ++ .fetched f :: C → B.examined = B.arrived

variable {A B : Activity} {is : List Issue} {i : Issue} {f : Fetch} {x : Act}

@[simp] theorem fetches_append : fetches (A ++ B) = A.fetches ++ B.fetches :=
  List.filterMap_append

@[simp] theorem examined_append : examined (A ++ B) = A.examined ++ B.examined :=
  List.filterMap_append

@[simp] theorem arrived_append : arrived (A ++ B) = A.arrived ++ B.arrived := by
  rw [arrived, fetches_append, List.flatMap_append, arrived, arrived]

@[simp] theorem fetches_concat_examined : fetches (A ++ [.examined i]) = A.fetches := by
  rw [fetches_append]
  exact List.append_nil _

@[simp] theorem fetches_map_examined : fetches (is.map .examined) = [] := by
  rw [fetches, List.filterMap_map]
  exact List.filterMap_eq_nil_iff.2 fun _ _ => rfl

@[simp] theorem examined_map_examined : examined (is.map .examined) = is := by
  rw [examined, List.filterMap_map]
  exact List.filterMap_some

@[simp] theorem arrived_map_examined : arrived (is.map .examined) = [] := by
  rw [arrived, fetches_map_examined, List.flatMap_nil]

theorem Ordered.concat (h : A.Ordered) (hx : ∀ f, x = .fetched f → A.examined = A.arrived) :
    Ordered (A ++ [x]) := by
  intro B f C heq
  rcases List.eq_nil_or_concat C with rfl | ⟨C, y, rfl⟩
  · obtain ⟨rfl, hlast⟩ := List.append_inj' heq rfl
    exact hx f (List.cons.inj hlast).1
  · rw [List.concat_eq_append, ← List.cons_append, ← List.append_assoc] at heq
    exact h B f C (List.append_inj' heq rfl).1

theorem Ordered.examined (h : A.Ordered) (is : List Issue) : Ordered (A ++ is.map .examined) := by
  induction is generalizing A with
  | nil =>
    rw [List.map_nil, List.append_nil]
    exact h
  | cons i is ih =>
    rw [List.map_cons, List.append_cons]
    apply ih
    apply h.concat
    intro f hf
    cases hf

theorem Ordered.of_append (h : Ordered (A ++ B)) : A.Ordered := by
  rintro C f D rfl
  exact h C f (D ++ B) (List.append_assoc C (.fetched f :: D) B)

/-- What happens before the page with this number is fetched. -/
theorem exists_before_fetch {k : ℕ} (hk : k < A.fetches.length) :
    ∃ (B : Activity) (f : Fetch) (C : Activity), A = B ++ .fetched f :: C ∧ B.fetches = A.fetches.take k := by
  induction A generalizing k with
  | nil => exact absurd hk (Nat.not_lt_zero k)
  | cons x A ih =>
    cases x with
    | examined i =>
      obtain ⟨B, f, C, rfl, hfetches⟩ := ih hk
      exact ⟨.examined i :: B, f, C, rfl, hfetches⟩
    | fetched g =>
      cases k with
      | zero => exact ⟨[], g, A, rfl, rfl⟩
      | succ k =>
        obtain ⟨B, f, C, rfl, hfetches⟩ := ih (Nat.lt_of_succ_lt_succ hk)
        exact ⟨.fetched g :: B, f, C, rfl, congrArg (g :: ·) hfetches⟩

/-- The issues of the pages in front of a page that was fetched have been examined first. -/
theorem Ordered.take_prefix (h : A.Ordered) {k : ℕ} (hk : k < A.fetches.length) :
    (A.fetches.take k).flatMap Fetch.issues <+: A.examined := by
  obtain ⟨B, f, C, hA, hfetches⟩ := exists_before_fetch hk
  have hbefore : B.examined = B.arrived := h B f C hA
  rw [← hfetches]
  show B.arrived <+: _
  rw [← hbefore, hA, examined_append]
  exact List.prefix_append _ _

end Activity

namespace IssueStream

/-- What a stream does when it is polled. A page with which the program stops gives no issues. -/
def acts (s : IssueStream) (l : Link) : Activity :=
  if s.quota = some 0 then []
  else (s.sieve.seen s.buffer).map .examined ++
    match s.sieve.pull s.buffer with
    | (some _, _) => []
    | (none, sieve) =>
      match _h : s.pager.next l with
      | ((.ok (some issues), pager), l) =>
        .fetched ⟨s.pager.request, issues⟩ :: acts { s with pager, sieve, buffer := issues } l
      | ((.error .overflow, _), _) => [.fetched ⟨s.pager.request, []⟩]
      | _ => []
termination_by s.pager.measure l
decreasing_by exact Pager.measure_next _h

/-- A stream and the link after a number of polls, whatever they give. -/
def after (s : IssueStream) (l : Link) : ℕ → IssueStream × Link
  | 0 => (s, l)
  | k + 1 => (((after s l k).1.next (after s l k).2).1.2, ((after s l k).1.next (after s l k).2).2)

/-- What a stream does during a number of polls. -/
def activity (s : IssueStream) (l : Link) : ℕ → Activity
  | 0 => []
  | k + 1 => activity s l k ++ (s.after l k).1.acts (s.after l k).2

/-- A stream with nothing left to give, neither in its buffer nor from its pager. -/
structure IsAtEnd (s : IssueStream) : Prop where
  buffer_eq : s.buffer = []
  not_live : s.pager.isLive = false

variable {s t : IssueStream} {l m : Link} {sieve : Sieve} {pager : Pager} {is rest : List Issue} {i : Issue}

theorem acts_of_quota (hquota : s.quota = some 0) : s.acts l = [] := by
  rw [acts, if_pos hquota]

theorem acts_of_give (hquota : s.quota ≠ some 0) (hpull : s.sieve.pull s.buffer = (some (i, rest), sieve)) :
    s.acts l = (s.sieve.seen s.buffer).map .examined := by
  rw [acts, if_neg hquota, hpull]
  exact List.append_nil _

theorem acts_of_page (hquota : s.quota ≠ some 0) (hpull : s.sieve.pull s.buffer = (none, sieve))
    (hnext : s.pager.next l = ((.ok (some is), pager), m)) :
    s.acts l = s.buffer.map .examined ++
      .fetched ⟨s.pager.request, is⟩ :: acts { s with pager, sieve, buffer := is } m := by
  rw [acts, if_neg hquota, hpull, (Sieve.seen_of_pull_none hpull).1]
  dsimp only
  split
  · next h =>
    obtain ⟨⟨rfl, rfl⟩, rfl⟩ := by simpa using h.symm.trans hnext
    rfl
  · next h => simp [hnext] at h
  · next h _ => exact absurd hnext (h is pager m)

theorem acts_of_overflow (hquota : s.quota ≠ some 0) (hpull : s.sieve.pull s.buffer = (none, sieve))
    (hnext : s.pager.next l = ((.error .overflow, pager), m)) :
    s.acts l = s.buffer.map .examined ++ [.fetched ⟨s.pager.request, []⟩] := by
  rw [acts, if_neg hquota, hpull, (Sieve.seen_of_pull_none hpull).1]
  dsimp only
  split
  · next h => simp [hnext] at h
  · rfl
  · next _ h => exact absurd hnext (h pager m)

theorem acts_of_stop (hquota : s.quota ≠ some 0) (hpull : s.sieve.pull s.buffer = (none, sieve))
    (hnext : s.pager.next l = ((.ok none, pager), m)) : s.acts l = s.buffer.map .examined := by
  rw [acts, if_neg hquota, hpull, (Sieve.seen_of_pull_none hpull).1]
  dsimp only
  split
  · next h => simp [hnext] at h
  · next h => simp [hnext] at h
  · exact List.append_nil _

end IssueStream

/-! ## The pages of a pager -/

/-- A server that answers every search on a topic with a page, whatever its length and its total are. -/
def Server.Pages (answer : Server) (c : Client) (t : Topic) : Prop :=
  ∀ n (q : SearchRequest), q.Concerns t → ∃ page, (answer n (q.post c)).page? (q.post c).url = some page

namespace Pager

/-- A warning leaves the connection as it is. -/
theorem reaches_warn {p : Pager} {l : Link} {c : Client} {token : Token} {answer : Server}
    (hl : l.Reaches c token answer) (page : Page Issue) : (p.warn page l).Reaches c token answer := by
  unfold warn
  split
  · exact ⟨hl.server_eq, hl.sendable, hl.not_cancelled⟩
  · exact hl

/-- So does a lap. -/
theorem reaches_lap {p : Pager} {l : Link} {c : Client} {token : Token} {answer : Server}
    (hl : l.Reaches c token answer) (page : Page Issue) : (p.lap page l).Reaches c token answer := by
  unfold lap
  split
  · exact ⟨hl.server_eq, hl.sendable, hl.not_cancelled⟩
  · exact hl

theorem client_next (p : Pager) (l : Link) : (p.next l).1.2.client = p.client := by
  have hturn := p.turn l
  generalize p.fetch? l = asked at hturn
  generalize (p.next l).1 = result at hturn ⊢
  generalize (p.next l).2 = m at hturn
  cases hturn <;> rfl

/-- All the pages of a pager, each of them with one request: up to its end, or up to a page after which the
position does not fit. The program stops with that page, which gives no issues. -/
inductive Pages : Pager → Link → List Fetch → Option (Page Issue) → Prop
  | stop {p : Pager} {l : Link} (hlive : p.isLive = false) : Pages p l [] none
  | page {p q : Pager} {l m : Link} {is : List Issue} {rest : List Fetch} {lost : Option (Page Issue)}
      (hnext : p.next l = ((.ok (some is), q), m))
      (hsent : m.requests = l.requests ++ [p.request.post p.client]) (hrest : Pages q m rest lost) :
      Pages p l (⟨p.request, is⟩ :: rest) lost
  | overflow {p q : Pager} {l m : Link} {page : Page Issue}
      (hfetch : p.fetch? l = some (p.request, .ok page))
      (hnext : p.next l = ((.error .overflow, q), m))
      (hsent : m.requests = l.requests ++ [p.request.post p.client]) :
      Pages p l [⟨p.request, []⟩] (some page)

theorem exists_pages {answer : Server} (p : Pager) (l : Link) (hl : l.Reaches p.client p.token answer)
    (hs : answer.Pages p.client p.topic) : ∃ pages lost, p.Pages l pages lost := by
  cases hlive : p.isLive with
  | false => exact ⟨[], none, .stop hlive⟩
  | true =>
    obtain ⟨hd, hr⟩ := isLive_iff.1 hlive
    obtain ⟨page, hpage⟩ := hs l.requests.length p.request ⟨rfl, .inr ⟨rfl, rfl⟩⟩
    by_cases hstops : p.overflows page && l.laps = 0
    · obtain ⟨hover, hlaps⟩ := Bool.and_eq_true_iff.1 hstops
      have hnext := next_of_overflow hl hd hr hpage hover (of_decide_eq_true hlaps)
      have hfetch : p.fetch? l = some (p.request, .ok page) := by
        simp only [fetch?, hd, hr, hl.not_cancelled, SearchRequest.fetch_eq hl hpage]
        rfl
      exact ⟨_, _, .overflow hfetch hnext rfl⟩
    · have hnext := next_of_page? hl hd hr hpage hstops
      have hsent : (p.warn page (p.lap page (l.sent (p.request.post p.client)))).requests =
          l.requests ++ [p.request.post p.client] := by
        rw [IssueStream.requests_warn, IssueStream.requests_lap]
        rfl
      have hreaches := reaches_warn (p := p) (reaches_lap (p := p) (hl.sent (p.request.post p.client)) page) page
      obtain ⟨rest, lost, hrest⟩ := exists_pages (p.advance page) _ hreaches hs
      exact ⟨_, _, .page hnext hsent hrest⟩
termination_by p.measure l
decreasing_by exact measure_next hnext

variable {p q : Pager} {l m : Link} {answer : Server} {pages : List Fetch} {lost : Option (Page Issue)}
  {is : List Issue}

theorem of_next_none (h : p.next l = ((.ok none, q), m)) : p.isLive = false ∧ q = p.ended ∧ m = l := by
  have hturn := p.turn l
  rw [h] at hturn
  generalize p.fetch? l = asked at hturn
  cases hturn with
  | stop hlive => exact ⟨hlive, rfl, rfl⟩

theorem of_next_error {e : ApiError} (h : p.next l = ((.error e, q), m)) : q = p.ended := by
  have hturn := p.turn l
  rw [h] at hturn
  generalize p.fetch? l = asked at hturn
  cases hturn <;> rfl

/-- The pager stops at a position that does not fit only without a lap. -/
theorem overflows_of_next {page : Page Issue} (hfetch : p.fetch? l = some (p.request, .ok page))
    (h : p.next l = ((.error .overflow, q), m)) : p.overflows page = true ∧ l.laps = 0 := by
  have hturn := p.turn l
  have hlaps := laps_fetch p.request p.client p.token l
  rw [h, hfetch] at hturn
  cases hturn with
  | overflow _ _ hfetch hover hzero =>
    rw [hfetch] at hlaps
    exact ⟨hover, hlaps.symm.trans hzero⟩

/-- A position on its lap is no further than the issues that came. -/
theorem position_next (h : p.next l = ((.ok (some is), q), m)) :
    q.startAt.toNat + UInt32.size * l.laps ≤ p.startAt.toNat + is.length + UInt32.size * m.laps := by
  have hturn := p.turn l
  rw [h] at hturn
  generalize p.fetch? l = asked at hturn
  cases hturn with
  | @page page k _ hlive hcancelled hfetch hlives hwarn =>
    have hm : p.warn page (p.lap page k) = m := hwarn
    have hlaps : k.laps = l.laps := by
      have hkept := laps_fetch p.request p.client p.token l
      rwa [hfetch] at hkept
    have hreceived := toNat_received_le p page
    rw [← hm, laps_warn, ← hlaps]
    cases hover : p.overflows page with
    | false =>
      rw [lap_of_fits hover, toNat_startAt_of_fits hover]
      omega
    | true =>
      obtain ⟨n, hn⟩ : ∃ n, k.laps = n + 1 := Nat.exists_eq_succ_of_ne_zero (by simpa [hover] using hlives)
      have hleft : (p.lap page k).laps = n := by simp [lap, hover, hn]
      have hstart := toNat_startAt_of_overflows hover
      rw [hleft, hn, Nat.mul_succ]
      omega

namespace Pages

theorem eq_nil (h : p.Pages l pages lost) (hlive : p.isLive = false) : pages = [] ∧ lost = none := by
  have hstop := next_stop (l := l) (isLive_eq_false_iff.1 hlive)
  cases h with
  | stop => exact ⟨rfl, rfl⟩
  | page hnext | overflow _ hnext =>
    rw [hstop] at hnext
    simp at hnext

theorem of_next_page (h : p.Pages l pages lost) (hnext : p.next l = ((.ok (some is), q), m)) :
    ∃ rest, pages = ⟨p.request, is⟩ :: rest ∧ m.requests = l.requests ++ [p.request.post p.client] ∧
      q.Pages m rest lost := by
  cases h with
  | stop hlive =>
    rw [next_stop (isLive_eq_false_iff.1 hlive)] at hnext
    simp at hnext
  | page hnext' hsent hrest =>
    obtain ⟨⟨rfl, rfl⟩, rfl⟩ := by simpa using hnext'.symm.trans hnext
    exact ⟨_, rfl, hsent, hrest⟩
  | overflow _ hnext' =>
    rw [hnext'] at hnext
    simp at hnext

/-- There is no other error than a position that does not fit. -/
theorem of_next_error {e : ApiError} (h : p.Pages l pages lost) (hnext : p.next l = ((.error e, q), m)) :
    e = .overflow ∧ pages = [⟨p.request, []⟩] ∧
      m.requests = l.requests ++ [p.request.post p.client] := by
  cases h with
  | stop hlive =>
    rw [next_stop (isLive_eq_false_iff.1 hlive)] at hnext
    simp at hnext
  | page hnext' =>
    rw [hnext'] at hnext
    simp at hnext
  | overflow _ hnext' hsent =>
    obtain ⟨⟨rfl, rfl⟩, rfl⟩ := by simpa using hnext'.symm.trans hnext
    exact ⟨rfl, rfl, hsent⟩

/-- All the pages are what the pager feeds to a stream. -/
theorem exists_feeds (h : p.Pages l pages lost) :
    ∃ m, p.Feeds l (pages.flatMap Fetch.issues) (lost.map fun _ => .overflow) m := by
  induction h with
  | stop hlive => exact ⟨_, .stop (next_stop (isLive_eq_false_iff.1 hlive))⟩
  | page hnext hsent hrest ih =>
    obtain ⟨m, hfeeds⟩ := ih
    exact ⟨m, .page hnext hfeeds⟩
  | overflow _ hnext => exact ⟨_, .fail hnext⟩

/-- The program stops only after more issues than there are positions on all laps together. -/
theorem size_le_of_overflow (h : p.Pages l pages lost) {page : Page Issue} (hlost : lost = some page) :
    UInt32.size * (l.laps + 1) ≤ p.startAt.toNat + (pages.flatMap Fetch.issues ++ page.items).length := by
  induction h with
  | stop => cases hlost
  | @page p q l m is rest lost hnext hsent hrest ih =>
    have hrest := ih hlost
    have hposition := position_next hnext
    rw [Nat.mul_succ] at hrest ⊢
    simp only [List.flatMap_cons, List.length_append] at hrest ⊢
    omega
  | @overflow p q l m lost hfetch hnext hsent =>
    obtain rfl := Option.some.inj hlost
    obtain ⟨hover, hlaps⟩ := overflows_of_next hfetch hnext
    have hreceived := toNat_received_le p lost
    have hcut := p.length_cut_le_length lost
    have hsize : UInt32.size ≤ p.startAt.toNat + (p.received lost).toNat := of_decide_eq_true hover
    rw [hlaps]
    simp only [List.flatMap_cons, List.flatMap_nil, List.append_nil, List.nil_append]
    omega

end Pages

end Pager

/-! ## Polls one after the other -/

namespace IssueStream

variable {s t : IssueStream} {l m n : Link} {ys : List Issue} {ending : Option ApiError}

theorem IsAtEnd.pull_eq (h : s.IsAtEnd) : s.sieve.pull s.buffer = (none, s.sieve) := by
  rw [h.buffer_eq]
  rfl

/-- A stream at its end stays there, and it asks for nothing. -/
theorem IsAtEnd.next_eq (h : s.IsAtEnd) (l : Link) : ∃ t, s.next l = ((none, t), l) := by
  have hstop := Pager.next_stop (l := l) (Pager.isLive_eq_false_iff.1 h.not_live)
  by_cases hquota : s.quota = some 0
  · exact ⟨s, by rw [next, if_pos hquota]⟩
  · rw [next, if_neg hquota, h.pull_eq]
    dsimp only
    split
    · next h' => simp [hstop] at h'
    · next h' =>
      obtain ⟨rfl, rfl⟩ := by simpa using hstop.symm.trans h'
      exact ⟨_, rfl⟩
    · next h' => simp [hstop] at h'

/-- After its end or an error, a stream asks for nothing. -/
theorem next_after {r : Option (Except ApiError Issue)} (h : s.next l = ((r, t), m))
    (hr : ∀ i, r ≠ some (.ok i)) : (t.next m).2 = m := by
  fun_induction next s l with
  | case1 s l hquota =>
    obtain ⟨⟨rfl, rfl⟩, rfl⟩ := by simpa using h
    rw [next, if_pos hquota]
  | case2 s l _ i =>
    obtain ⟨⟨rfl, -⟩, -⟩ := by simpa using h
    exact absurd rfl (hr i)
  | case3 s l hquota sieve hpull e pager n hnext =>
    obtain ⟨⟨rfl, rfl⟩, rfl⟩ := by simpa using h
    obtain rfl := Pager.of_next_error hnext
    obtain ⟨u, hend⟩ := IsAtEnd.next_eq (s := { s with pager := s.pager.ended, sieve, buffer := [] })
      ⟨rfl, rfl⟩ n
    rw [hend]
  | case4 s l hquota sieve hpull pager n hnext =>
    obtain ⟨⟨rfl, rfl⟩, rfl⟩ := by simpa using h
    obtain ⟨-, rfl, rfl⟩ := Pager.of_next_none hnext
    obtain ⟨u, hend⟩ := IsAtEnd.next_eq (s := { s with pager := s.pager.ended, sieve, buffer := [] })
      ⟨rfl, rfl⟩ n
    rw [hend]
  | case5 s l hquota sieve hpull buffer pager n hnext ih => exact ih h

/-- The first poll and those after it. -/
theorem after_succ (s : IssueStream) (l : Link) (k : ℕ) :
    s.after l (k + 1) = (s.next l).1.2.after (s.next l).2 k := by
  induction k with
  | zero => rfl
  | succ k ih =>
    rw [after, ih]
    rfl

/-- All issues are given by one poll each, and one more poll finds the end or an error. -/
theorem collect_eq_after (h : s.pager.Feeds l ys ending n) :
    (s.collect l).2 = (s.after l ((s.yet ys).length + 1)).2 := by
  induction hyet : s.yet ys generalizing s l ys with
  | nil =>
    rcases next_of_feeds h with ⟨-, -, t, m, hnext, -⟩ | ⟨-, -, e, t, -, hnext⟩ | ⟨-, i, t, m, zs, -, -, hcons, -⟩
    · rw [collect_of_none hnext, after_succ, hnext]
      rfl
    · rw [collect_of_error hnext, after_succ, hnext]
      rfl
    · exact absurd (hyet.symm.trans hcons) (List.cons_ne_nil i _).symm
  | cons i is ih =>
    obtain ⟨-, t, m, zs, hnext, hfeeds, hrest, -⟩ := next_of_yet_cons h hyet
    rw [collect_of_some hnext, after_succ, hnext]
    exact ih hfeeds hrest

end IssueStream

end JiraQuery
