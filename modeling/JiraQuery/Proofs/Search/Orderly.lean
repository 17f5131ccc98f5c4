import JiraQuery.Proofs.Search.Transcript

/-!
# Orderly searches

Whatever a server answers and whenever a token is cancelled, a search keeps to an order: a page is asked
for where the issues so far end, and only while there may be more; the reader gets the issues as they
come, up to the limit; after an error or the end nothing follows but the end. Each entry of a transcript
is allowed by the entries before it (`Allowed`), which one step preserves (`Reached`). Main statement:
`orderly_transcript`.
-/

namespace JiraQuery

open Transcript

/-! ## What may happen -/

/-- When a search that starts with a pager may ask for a page, after what has happened so far. -/
structure MayAsk (p : Pager) (l : Link) (T : Transcript) (q : SearchRequest) : Prop where
  jql_eq : q.jql = p.jql
  fields_eq : q.fields = p.fields
  expand_eq : q.expand = p.expand
  /-- The page begins where the issues so far end. -/
  startAt_eq : q.startAt.toNat = p.startAt.toNat + T.given.length
  one_le : 1 ≤ q.maxResults.toNat
  le_pageSize : q.maxResults.toNat ≤ p.pageSize.toNat
  le_limit : ∀ n, p.quota = some n → q.maxResults.toNat + T.given.length ≤ n
  /-- The reader has got all issues so far. -/
  given_eq : T.given = upTo p.quota T.items
  not_closed : T.isClosed = false
  not_cancelled : l.isCancelled p.token = false ∧ .cancelled p.token ∉ T
  /-- All requests so far have got a page that is not empty. -/
  replied : ∀ q r, .asked q r ∈ T → ∃ page, r = .ok page ∧ page.items ≠ []
  /-- There are more issues by the last page. -/
  lt_total : ∀ page, T.pages.getLast? = some page → q.startAt < page.total

/-- What may happen in a search, after what has happened so far. -/
def Allowed (p : Pager) (l : Link) (T : Transcript) : Entry → Prop
  | .asked q _ => MayAsk p l T q
  | .gave i => T.isClosed = false ∧ T.given ++ [i] <+: upTo p.quota T.items
  | .failed e => T.isClosed = false ∧ T.given = upTo p.quota T.items ∧
      (e = .cancelled ∨ ∃ q, T.getLast? = some (.asked q (.error e)))
  | .ended => T.isClosed = true ∨ T.given = upTo p.quota T.items
  | .cancelled _ => True

/-- Whether every entry of a transcript is allowed. -/
def IsAllowed (p : Pager) (l : Link) (T : Transcript) : Prop :=
  ∀ A x B, T = A ++ x :: B → Allowed p l A x

theorem IsAllowed.snoc {p : Pager} {l : Link} {T : Transcript} {x : Entry} (h : IsAllowed p l T)
    (hx : Allowed p l T x) : IsAllowed p l (T ++ [x]) := by
  intro A y B heq
  rcases List.eq_nil_or_concat B with rfl | ⟨B, z, rfl⟩
  · obtain ⟨rfl, hlast⟩ := List.append_inj' heq rfl
    obtain rfl := (List.cons.inj hlast).1
    exact hx
  · rw [List.concat_eq_append, ← List.cons_append, ← List.append_assoc] at heq
    exact h A y B (List.append_inj' heq rfl).1

/-! ## What holds after each step -/

/-- Whether positions in a search stay within 32 bits. -/
def Fits (p : Pager) (T : Transcript) : Prop :=
  p.startAt.toNat + (upTo p.quota T.items).length < 2 ^ 32

theorem Fits.of_append {p : Pager} {A B : Transcript} (h : Fits p (A ++ B)) : Fits p A := by
  unfold Fits at h ⊢
  rw [items_append, upTo_append, List.length_append] at h
  omega

/-- A pager that started as another one. -/
structure Pager.Continues (p p₀ : Pager) : Prop where
  client_eq : p.client = p₀.client
  token_eq : p.token = p₀.token
  jql_eq : p.jql = p₀.jql
  fields_eq : p.fields = p₀.fields
  expand_eq : p.expand = p₀.expand
  pageSize_eq : p.pageSize = p₀.pageSize

namespace Pager.Continues

variable {p p₀ : Pager}

theorem advance (h : p.Continues p₀) (page : Page Issue) : (p.advance page).Continues p₀ := by
  obtain ⟨hclient, htoken, hjql, hfields, hexpand, hsize⟩ := h
  exact ⟨hclient, htoken, hjql, hfields, hexpand, hsize⟩

theorem ended (h : p.Continues p₀) : p.ended.Continues p₀ := by
  obtain ⟨hclient, htoken, hjql, hfields, hexpand, hsize⟩ := h
  exact ⟨hclient, htoken, hjql, hfields, hexpand, hsize⟩

end Pager.Continues

/-- What is known of a pager that is not done, from what has happened so far. -/
structure Live (p₀ : Pager) (T : Transcript) (p : Pager) : Prop where
  startAt_eq : p.startAt.toNat = p₀.startAt.toNat + (upTo p₀.quota T.items).length
  quota_eq : p.quota = p₀.quota.map (· - (upTo p₀.quota T.items).length)
  replied : ∀ q r, .asked q r ∈ T → ∃ page, r = .ok page ∧ page.items ≠ []
  lt_total : ∀ page, T.pages.getLast? = some page → p.startAt < page.total
  /-- Every page so far has moved the start on. -/
  starts_lt : ∀ q ∈ T.requests, q.startAt.toNat < p.startAt.toNat
  requests_le : T.requests.length ≤ (upTo p₀.quota T.items).length

theorem Live.concat {p₀ p : Pager} {T : Transcript} {x : Entry} (h : Live p₀ T p)
    (hx : x.request? = none) : Live p₀ (T ++ [x]) p := by
  refine ⟨?_, ?_, fun q r hmem => ?_, ?_, ?_, ?_⟩
  · rw [items_concat T hx]; exact h.startAt_eq
  · rw [items_concat T hx]; exact h.quota_eq
  · rcases List.mem_append.1 hmem with hmem | hmem
    · exact h.replied q r hmem
    · obtain rfl := List.mem_singleton.1 hmem
      cases hx
  · rw [pages_concat T hx]; exact h.lt_total
  · rw [requests_concat T hx]; exact h.starts_lt
  · rw [requests_concat T hx, items_concat T hx]; exact h.requests_le

/-- What holds of a search that started with a pager over a link: what has happened so far, the stream
after it and the link after it. -/
structure Reached (p₀ : Pager) (l₀ : Link) (T : Transcript) (s : IssueStream) (l : Link) : Prop where
  plain : s.IsPlain
  continues : s.pager.Continues p₀
  /-- What the reader has not got waits in the buffer. -/
  arrived_eq : T.given ++ s.buffer = upTo p₀.quota T.items
  cancelled : l₀.isCancelled p₀.token = true ∨ .cancelled p₀.token ∈ T →
    l.isCancelled p₀.token = true
  closed : T.isClosed = true → s.pager.done = true ∧ s.buffer = []
  live : s.pager.done = false → Live p₀ T s.pager
  allowed : IsAllowed p₀ l₀ T
  ascending : (T.requests.map (·.startAt.toNat)).Pairwise (· < ·)
  bounded : ∀ n, p₀.quota = some n → T.requests.length ≤ n

namespace Reached

variable {p₀ : Pager} {l₀ l m : Link} {T : Transcript} {s : IssueStream}

theorem start (p₀ : Pager) (l₀ : Link) : Reached p₀ l₀ [] { pager := p₀ } l₀ where
  plain := ⟨rfl, rfl⟩
  continues := ⟨rfl, rfl, rfl, rfl, rfl, rfl⟩
  arrived_eq := upTo_nil.symm
  cancelled h := h.elim id fun hmem => absurd hmem List.not_mem_nil
  closed h := absurd h Bool.false_ne_true
  live _ := by
    have hzero : (upTo p₀.quota (items [])).length = 0 := congrArg List.length upTo_nil
    refine ⟨?_, ?_, ?_, ?_, ?_, ?_⟩
    · rw [hzero, Nat.add_zero]
    · rw [hzero]
      exact Option.map_id'.symm
    · exact fun q r hmem => absurd hmem List.not_mem_nil
    · exact fun page h => absurd h (by simp [pages])
    · exact fun q hmem => absurd hmem (by simp [requests])
    · exact Nat.zero_le _
  allowed A x B h := absurd h (by simp)
  ascending := .nil
  bounded n _ := Nat.zero_le n

/-- With nothing in the buffer, the reader has got all that has come. -/
theorem given_eq (h : Reached p₀ l₀ T s l) (hbuffer : s.buffer = []) :
    T.given = upTo p₀.quota T.items := by
  rw [← h.arrived_eq, hbuffer, List.append_nil]

theorem not_closed (h : Reached p₀ l₀ T s l) (hdone : s.pager.done = false) : T.isClosed = false := by
  by_contra hclosed
  have hd := (h.closed (Bool.not_eq_false _ ▸ hclosed)).1
  simp [hdone] at hd

/-- An entry that asks for nothing takes a stream further. -/
theorem note {x : Entry} {t : IssueStream} (h : Reached p₀ l₀ T s l) (hx : x.request? = none)
    (hallowed : Allowed p₀ l₀ T x) (hplain : t.IsPlain) (hcontinues : t.pager.Continues p₀)
    (hgiven : given (T ++ [x]) ++ t.buffer = T.given ++ s.buffer)
    (hcancelled : l₀.isCancelled p₀.token = true ∨ .cancelled p₀.token ∈ T ++ [x] →
      m.isCancelled p₀.token = true)
    (hclosed : isClosed (T ++ [x]) = true → t.pager.done = true ∧ t.buffer = [])
    (hlive : t.pager.done = false → t.pager = s.pager) : Reached p₀ l₀ (T ++ [x]) t m := by
  refine ⟨hplain, hcontinues, ?_, hcancelled, hclosed, fun hdone => ?_, h.allowed.snoc hallowed, ?_, ?_⟩
  · rw [hgiven, h.arrived_eq, items_concat T hx]
  · have hpager := hlive hdone
    rw [hpager] at hdone ⊢
    exact (h.live hdone).concat hx
  · rw [requests_concat T hx]
    exact h.ascending
  · rw [requests_concat T hx]
    exact h.bounded

theorem give {i : Issue} {is : List Issue} (h : Reached p₀ l₀ T s l) (hbuffer : s.buffer = i :: is) :
    Reached p₀ l₀ (T ++ [.gave i]) { s with buffer := is } l := by
  have hopen : T.isClosed = false := by
    by_contra hclosed
    have hnil := (h.closed (Bool.not_eq_false _ ▸ hclosed)).2
    simp [hbuffer] at hnil
  have hprefix : T.given ++ [i] <+: upTo p₀.quota T.items := by
    rw [← h.arrived_eq, hbuffer]
    exact ⟨is, by simp⟩
  refine h.note rfl ⟨hopen, hprefix⟩ ⟨h.plain.sieve_eq, h.plain.quota_eq⟩ h.continues ?_ ?_ ?_ ?_
  · rw [hbuffer, given_append, List.append_assoc]
    rfl
  · intro hc
    exact h.cancelled (hc.imp_right fun hmem => by simpa using hmem)
  · intro hclosed
    rw [isClosed_append, isClosed_singleton, hopen] at hclosed
    cases hclosed
  · exact fun _ => rfl

/-- The reader learns that the stream is at its end, or of an error. -/
theorem close {x : Entry} (h : Reached p₀ l₀ T s l) (hbuffer : s.buffer = []) (hx : x.closes = true)
    (hallowed : Allowed p₀ l₀ T x) :
    Reached p₀ l₀ (T ++ [x]) { s with pager := s.pager.ended } l := by
  have hquiet : x.request? = none ∧ x.issue? = none ∧ x ≠ .cancelled p₀.token := by
    cases x <;> simp_all [Entry.closes, Entry.request?, Entry.issue?]
  obtain ⟨hrequest, hissue, hne⟩ := hquiet
  refine h.note hrequest hallowed ⟨h.plain.sieve_eq, h.plain.quota_eq⟩ h.continues.ended ?_ ?_ ?_ ?_
  · simp [given, hissue]
  · intro hc
    exact h.cancelled (hc.imp_right fun hmem => by simpa [hne.symm] using hmem)
  · exact fun _ => ⟨rfl, hbuffer⟩
  · intro hdone
    cases hdone

theorem cancel (h : Reached p₀ l₀ T s l) (t : Token) :
    Reached p₀ l₀ (T ++ [.cancelled t]) s (l.cancel t) := by
  refine h.note rfl trivial h.plain h.continues ?_ ?_ ?_ ?_
  · simp [given, Entry.issue?]
  · intro hc
    rw [Link.isCancelled_cancel, Bool.or_eq_true, beq_iff_eq]
    rcases hc with hl | hmem
    · exact .inr (h.cancelled (.inl hl))
    · rcases List.mem_append.1 hmem with hmem | hmem
      · exact .inr (h.cancelled (.inr hmem))
      · obtain heq := List.mem_singleton.1 hmem
        exact .inl (Entry.cancelled.inj heq)
  · intro hclosed
    rw [isClosed_append, isClosed_singleton] at hclosed
    exact h.closed ((Bool.or_eq_true_iff.1 hclosed).resolve_right Bool.false_ne_true)
  · exact fun _ => rfl

/-- A live stream whose buffer is used up may ask for its next page. -/
theorem mayAsk (h : Reached p₀ l₀ T s l) (hbuffer : s.buffer = []) (hlive : s.pager.isLive)
    (hcancelled : l.isCancelled s.pager.token = false) : MayAsk p₀ l₀ T s.pager.request := by
  obtain ⟨hdone, hremaining⟩ := Pager.isLive_iff.1 hlive
  have hpager := h.live hdone
  have hgiven := h.given_eq hbuffer
  have hpos := UInt32.lt_iff_toNat_lt.1 (Pager.maxResults_pos hremaining)
  have hmax := s.pager.toNat_maxResults
  rw [hpager.quota_eq, h.continues.pageSize_eq, ← hgiven] at hmax
  exact {
    jql_eq := h.continues.jql_eq
    fields_eq := h.continues.fields_eq
    expand_eq := h.continues.expand_eq
    startAt_eq := by rw [hgiven]; exact hpager.startAt_eq
    one_le := hpos
    le_pageSize := by
      rw [hmax]
      cases p₀.quota with
      | none => exact Nat.le_refl _
      | some n => exact Nat.min_le_right _ _
    le_limit := by
      intro n hn
      simp only [hn, Option.map_some, Option.elim_some] at hmax
      have hzero : (0 : UInt32).toNat = 0 := rfl
      omega
    given_eq := hgiven
    not_closed := h.not_closed hdone
    not_cancelled := by
      rw [h.continues.token_eq] at hcancelled
      by_contra hnot
      have hl := h.cancelled (by
        rcases not_and_or.1 hnot with hl | hmem
        · exact .inl (by simpa using hl)
        · exact .inr (by simpa using hmem))
      simp [hcancelled] at hl
    replied := hpager.replied
    lt_total := hpager.lt_total }

/-- Asking for a page keeps to the order; the issues of the reply wait in the buffer. -/
theorem ask {r : Except ApiError (Page Issue)} {t : IssueStream} (h : Reached p₀ l₀ T s l)
    (hbuffer : s.buffer = []) (hlive : s.pager.isLive)
    (hcancelled : l.isCancelled s.pager.token = false) (hplain : t.IsPlain)
    (hcontinues : t.pager.Continues p₀)
    (harrived : t.buffer = upTo s.pager.quota (items [.asked s.pager.request r]))
    (hlater : t.pager.done = false → Live p₀ (T ++ [.asked s.pager.request r]) t.pager) :
    Reached p₀ l₀ (T ++ [.asked s.pager.request r]) t m := by
  have hask := h.mayAsk hbuffer hlive hcancelled
  have hpager := h.live (Pager.isLive_iff.1 hlive).1
  have hrequests : requests (T ++ [.asked s.pager.request r]) = T.requests ++ [s.pager.request] :=
    requests_append _ _
  refine ⟨hplain, hcontinues, ?_, ?_, ?_, hlater, h.allowed.snoc hask, ?_, ?_⟩
  · have hgiven : given (T ++ [.asked s.pager.request r]) = T.given :=
      (given_append _ _).trans (List.append_nil _)
    rw [hgiven, hask.given_eq, harrived, items_append, upTo_append, hpager.quota_eq]
  · rintro (hl | hmem)
    · simp [hask.not_cancelled.1] at hl
    · simp [hask.not_cancelled.2] at hmem
  · intro hclosed
    rw [isClosed_append, isClosed_singleton, hask.not_closed] at hclosed
    cases hclosed
  · rw [hrequests, List.map_append, List.pairwise_append]
    refine ⟨h.ascending, List.pairwise_singleton _ _, ?_⟩
    intro a ha b hb
    obtain ⟨q, hq, rfl⟩ := List.mem_map.1 ha
    obtain rfl := List.mem_singleton.1 hb
    exact hpager.starts_lt q hq
  · intro n hn
    have hle := hask.le_limit n hn
    have hpos := hask.one_le
    have hcount := hpager.requests_le
    rw [← hask.given_eq] at hcount
    rw [hrequests, List.length_append, List.length_singleton]
    omega

theorem cut_items (h : Live p₀ T s.pager) (page : Page Issue) :
    upTo p₀.quota (items (T ++ [.asked s.pager.request (.ok page)])) =
      upTo p₀.quota T.items ++ s.pager.cut page := by
  have hitems : items (T ++ [.asked s.pager.request (.ok page)]) = T.items ++ page.items := by
    simp [items, pages, Entry.page?]
  rw [hitems, upTo_append, Pager.cut_eq, h.quota_eq]

/-- The position after a page is the number of an issue. -/
theorem startAt_add_lt {page : Page Issue} (h : Live p₀ T s.pager)
    (hfits : Fits p₀ (T ++ [.asked s.pager.request (.ok page)])) :
    s.pager.startAt.toNat + (s.pager.cut page).length < 2 ^ 32 := by
  unfold Fits at hfits
  rw [cut_items h page, List.length_append] at hfits
  rw [h.startAt_eq]
  omega

/-- A page moves a pager on, and leaves it live only if it was not empty and there is more. -/
theorem live_advance {page : Page Issue} (h : Reached p₀ l₀ T s l) (hlive : s.pager.isLive)
    (hfits : Fits p₀ (T ++ [.asked s.pager.request (.ok page)]))
    (hdone : (s.pager.advance page).done = false) :
    Live p₀ (T ++ [.asked s.pager.request (.ok page)]) (s.pager.advance page) := by
  have hpager := h.live (Pager.isLive_iff.1 hlive).1
  have hcut := cut_items hpager page
  have hlt := startAt_add_lt hpager hfits
  obtain ⟨⟨hsome, hremaining⟩, htotal⟩ : ((s.pager.received page ≠ 0 ∧
      (s.pager.advance page).remaining ≠ some 0) ∧ ¬ page.total ≤ (s.pager.advance page).startAt) := by
    simpa [Pager.advance] using hdone
  have hreceived : s.pager.cut page ≠ [] := mt (Pager.received_eq_zero hlt).2 hsome
  have hstart := Pager.toNat_startAt_advance hlt
  have hpos : 0 < (s.pager.cut page).length := List.length_pos_iff.2 hreceived
  refine ⟨?_, ?_, ?_, ?_, ?_, ?_⟩
  · rw [hstart, hcut, List.length_append, hpager.startAt_eq]
    omega
  · rw [Pager.quota_advance, hcut, List.length_append, hpager.quota_eq]
    cases p₀.quota with
    | none => rfl
    | some n => simp only [Option.map_some, Nat.sub_sub]
  · intro q r hmem
    rcases List.mem_append.1 hmem with hmem | hmem
    · exact hpager.replied q r hmem
    · obtain ⟨-, rfl⟩ := Entry.asked.inj (List.mem_singleton.1 hmem)
      refine ⟨page, rfl, fun hnil => hreceived ?_⟩
      rw [Pager.cut_eq, hnil, upTo_nil]
  · intro last hlast
    have hpage : page = last := by simpa [pages, Entry.page?] using hlast
    rw [← hpage]
    exact UInt32.not_le.1 htotal
  · intro q hq
    rw [hstart]
    rw [requests_append] at hq
    rcases List.mem_append.1 hq with hq | hq
    · have := hpager.starts_lt q hq
      omega
    · obtain rfl := List.mem_singleton.1 hq
      show s.pager.startAt.toNat < _
      omega
  · have hcount := hpager.requests_le
    rw [hcut, requests_append, List.length_append, List.length_append]
    show T.requests.length + 1 ≤ _
    omega

theorem ask_failed {e : ApiError} (h : Reached p₀ l₀ T s l) (hbuffer : s.buffer = [])
    (hlive : s.pager.isLive) (hcancelled : l.isCancelled s.pager.token = false) :
    Reached p₀ l₀ (T ++ [.asked s.pager.request (.error e)]) { s with pager := s.pager.ended } m :=
  h.ask hbuffer hlive hcancelled ⟨h.plain.sieve_eq, h.plain.quota_eq⟩ h.continues.ended
    (hbuffer.trans upTo_nil.symm) fun hdone => absurd hdone Bool.true_eq_false_eq_False

theorem ask_page {page : Page Issue} (h : Reached p₀ l₀ T s l) (hbuffer : s.buffer = [])
    (hlive : s.pager.isLive) (hcancelled : l.isCancelled s.pager.token = false)
    (hfits : Fits p₀ (T ++ [.asked s.pager.request (.ok page)])) :
    Reached p₀ l₀ (T ++ [.asked s.pager.request (.ok page)])
      { s with pager := s.pager.advance page, buffer := s.pager.cut page } m := by
  refine h.ask hbuffer hlive hcancelled ⟨h.plain.sieve_eq, h.plain.quota_eq⟩
    (h.continues.advance page) ?_ fun hdone => h.live_advance hlive hfits hdone
  have hitems : items [.asked s.pager.request (.ok page)] = page.items := List.append_nil _
  rw [hitems]
  exact Pager.cut_eq

/-- One poll. A page that arrives is put into the buffer first, from which its first issue is given. -/
theorem poll {E : Transcript} {t : IssueStream} (h : Reached p₀ l₀ T s l) (hpoll : s.Poll l E t m)
    (hfits : Fits p₀ (T ++ E)) : Reached p₀ l₀ (T ++ E) t m := by
  cases hpoll with
  | give hbuffer => exact h.give hbuffer
  | stop hbuffer hlive => exact h.close hbuffer rfl (.inr (h.given_eq hbuffer))
  | cancelled hbuffer hlive hcancelled =>
    have hopen := h.not_closed (Pager.isLive_iff.1 hlive).1
    exact h.close hbuffer rfl ⟨hopen, h.given_eq hbuffer, .inl rfl⟩
  | @failed e m hbuffer hlive hcancelled hfetch =>
    have hasked := h.ask_failed (m := m) (e := e) hbuffer hlive hcancelled
    have hopen : isClosed (T ++ [.asked s.pager.request (.error e)]) = false := by
      rw [isClosed_append, h.not_closed (Pager.isLive_iff.1 hlive).1]
      rfl
    have hlast : (T ++ [Entry.asked s.pager.request (.error e)]).getLast? =
        some (.asked s.pager.request (.error e)) := List.getLast?_concat
    have hclosed := hasked.close (x := .failed e) hbuffer rfl
      ⟨hopen, hasked.given_eq hbuffer, .inr ⟨s.pager.request, hlast⟩⟩
    rwa [List.append_assoc] at hclosed
  | @page page i is m _ hbuffer hlive hcancelled hfetch _ hwarn hcut =>
    subst hwarn
    rw [List.append_cons] at hfits
    have hasked := h.ask_page (m := s.pager.warn page (s.pager.lap page m)) hbuffer hlive hcancelled
      hfits.of_append
    have hgave := hasked.give hcut
    rwa [List.append_assoc] at hgave
  | @blank page m _ hbuffer hlive hcancelled hfetch hwarn hcut =>
    subst hwarn
    rw [List.append_cons] at hfits
    have hasked := h.ask_page (m := s.pager.warn page m) hbuffer hlive hcancelled hfits.of_append
    have hclosed := hasked.close (x := .ended) hcut rfl (.inr (hasked.given_eq hcut))
    rwa [List.append_assoc, hcut] at hclosed
  | @overflow page m hbuffer hlive hcancelled hfetch hover hlaps =>
    rw [List.append_cons] at hfits
    have hlt := startAt_add_lt (h.live (Pager.isLive_iff.1 hlive).1) hfits.of_append
    exact absurd (hover.symm.trans (Pager.overflows_eq_false hlt)) Bool.true_eq_false_eq_False

/-- Any number of moves, after what has happened so far. -/
theorem run {moves : List Move} (h : Reached p₀ l₀ T s l)
    (hfits : Fits p₀ (T ++ (s.transcript moves l).1)) :
    ∃ t, Reached p₀ l₀ (T ++ (s.transcript moves l).1) t (s.transcript moves l).2 := by
  induction moves generalizing T s l with
  | nil =>
    show ∃ t, Reached p₀ l₀ (T ++ []) t l
    rw [List.append_nil]
    exact ⟨s, h⟩
  | cons move moves ih =>
    cases move with
    | cancel t =>
      show ∃ u, Reached p₀ l₀ (T ++ .cancelled t :: (s.transcript moves (l.cancel t)).1) u _
      rw [List.append_cons]
      exact ih (h.cancel t) (by rwa [← List.append_cons])
    | poll =>
      have hassoc : T ++ (s.transcript (.poll :: moves) l).1 =
          T ++ s.polled l ++ ((s.next l).1.2.transcript moves (s.next l).2).1 :=
        (List.append_assoc _ _ _).symm
      rw [hassoc] at hfits ⊢
      exact ih (h.poll (IssueStream.poll_next h.plain l) hfits.of_append) hfits

end Reached

/-! ## After the end -/

theorem IsAllowed.after_closed {p : Pager} {l : Link} {A B : Transcript} (h : IsAllowed p l (A ++ B))
    (hA : A.isClosed = true) : B.requests = [] ∧ B.given = [] ∧ B.failures = [] := by
  have hentry : ∀ x ∈ B, x.request? = none ∧ x.issue? = none ∧ x.error? = none := by
    intro x hx
    obtain ⟨C, D, rfl⟩ := List.append_of_mem hx
    have hallowed := h (A ++ C) x D (List.append_assoc _ _ _).symm
    have hclosed : isClosed (A ++ C) = true := by rw [isClosed_append, hA, Bool.true_or]
    cases x with
    | asked q r => exact absurd (hclosed.symm.trans hallowed.not_closed) Bool.true_eq_false_eq_False
    | gave i => exact absurd (hclosed.symm.trans hallowed.1) Bool.true_eq_false_eq_False
    | failed e => exact absurd (hclosed.symm.trans hallowed.1) Bool.true_eq_false_eq_False
    | ended | cancelled => exact ⟨rfl, rfl, rfl⟩
  refine ⟨?_, ?_, ?_⟩
  · exact List.filterMap_eq_nil_iff.2 fun x hx => (hentry x hx).1
  · exact List.filterMap_eq_nil_iff.2 fun x hx => (hentry x hx).2.1
  · exact List.filterMap_eq_nil_iff.2 fun x hx => (hentry x hx).2.2

/-- Whether the reader learns at once of every request that comes to nothing. -/
def Reports (T : Transcript) : Prop :=
  ∀ A q e B, T = A ++ .asked q (.error e) :: B → ∃ C, B = .failed e :: C

theorem reports_of_not_mem {T : Transcript} (h : ∀ q e, .asked q (.error e) ∉ T) : Reports T := by
  rintro A q e B rfl
  exact absurd (List.mem_append_right A List.mem_cons_self) (h q e)

theorem reports_failed (q : SearchRequest) (e : ApiError) :
    Reports [.asked q (.error e), .failed e] := by
  intro A q' e' B heq
  cases A with
  | nil =>
    obtain ⟨hasked, rfl⟩ := List.cons.inj heq
    obtain ⟨-, hreply⟩ := Entry.asked.inj hasked
    exact ⟨[], by rw [Except.error.inj hreply]⟩
  | cons x A =>
    have hrest : [Entry.failed e] = A ++ .asked q' (.error e') :: B := (List.cons.inj heq).2
    exact reports_of_not_mem (by simp) A q' e' B hrest

theorem Reports.append {S T : Transcript} (hS : Reports S) (hT : Reports T) : Reports (S ++ T) := by
  intro A q e B heq
  rcases List.append_eq_append_iff.1 heq with ⟨C, hA, hB⟩ | ⟨C, hA, hB⟩
  · exact hT C q e B hB
  · cases C with
    | nil =>
      rw [List.append_nil] at hA
      exact hT [] q e B (by simpa using hB.symm)
    | cons x C =>
      obtain ⟨rfl, rfl⟩ := List.cons.inj hB
      obtain ⟨D, rfl⟩ := hS A q e C hA
      exact ⟨D ++ T, rfl⟩

namespace IssueStream

variable {s t : IssueStream} {l m : Link} {E : Transcript}

theorem Poll.reports (h : s.Poll l E t m) : Reports E := by
  cases h with
  | failed => exact reports_failed _ _
  | _ => exact reports_of_not_mem (by simp)

theorem reports_transcript (hs : s.IsPlain) (moves : List Move) (l : Link) :
    Reports (s.transcript moves l).1 := by
  induction moves generalizing s l with
  | nil => exact fun A q e B heq => absurd heq (by simp [transcript])
  | cons move moves ih =>
    cases move with
    | cancel t =>
      have hone : Reports [.cancelled t] := reports_of_not_mem (by simp)
      exact hone.append (ih hs (l.cancel t))
    | poll =>
      have hpoll := poll_next hs l
      exact hpoll.reports.append (ih (hpoll.isPlain hs) (s.next l).2)

end IssueStream

/-! ## Searches -/

/-- The order that a search keeps to which starts with a pager over a link. -/
structure Orderly (p : Pager) (l : Link) (T : Transcript) : Prop where
  allowed : IsAllowed p l T
  /-- The reader gets the issues of the pages in their order and within the limit. -/
  given_prefix : T.given <+: upTo p.quota T.items
  ascending : (T.requests.map (·.startAt.toNat)).Pairwise (· < ·)
  reported : Reports T
  /-- Nothing follows an error but the end. -/
  final : ∀ (A : Transcript) e (B : Transcript), T = A ++ .failed e :: B →
    B.requests = [] ∧ B.given = [] ∧ B.failures = []
  bounded : ∀ n, p.quota = some n → T.requests.length ≤ n

theorem Reached.orderly {p₀ : Pager} {l₀ l : Link} {T : Transcript} {s : IssueStream}
    (h : Reached p₀ l₀ T s l) (hreports : Reports T) : Orderly p₀ l₀ T where
  allowed := h.allowed
  given_prefix := by
    rw [← h.arrived_eq]
    exact List.prefix_append _ _
  ascending := h.ascending
  reported := hreports
  final A e B heq := by
    have hallowed := h.allowed
    rw [heq, List.append_cons] at hallowed
    exact hallowed.after_closed (by rw [isClosed_append]; exact Bool.or_true _)
  bounded := h.bounded

/-- Over any link, with any replies and with tokens cancelled at any time, a search keeps to the order as
long as the positions of its issues have a number, and the requests that go out are those of its pages,
each repeated for the attempts that it takes. -/
theorem orderly_transcript (client : Client) (token : Token) (pageSize : UInt32) (jql : String)
    (options : SearchOptions) (moves : List Move) (l m : Link) (T : Transcript)
    (hT : IssueStream.transcript moves { pager := .start client token pageSize jql options } l =
      (T, m))
    (hfits : options.startAt.toNat + (upTo (options.limit.map UInt32.toNat) T.items).length <
      2 ^ 32) :
    Orderly (.start client token pageSize jql options) l T ∧
      ∃ rs, m.requests = l.requests ++ rs ∧ Sent client T.requests rs := by
  have hreached := Reached.start (.start client token pageSize jql options) l
  have hpositions : Fits (.start client token pageSize jql options) ([] ++ T) := hfits
  obtain ⟨t, hrun⟩ := hreached.run (by rw [hT]; exact hpositions)
  have hreports := IssueStream.reports_transcript hreached.plain moves l
  have hsent := IssueStream.sent_transcript hreached.plain moves l
  rw [hT] at hrun hreports hsent
  exact ⟨hrun.orderly hreports, hsent⟩

/-- A search for one issue at a time. -/
def sampleSearch : IssueStream where
  pager := .start sampleClient (.numbered 0) 1 "project = A" {}

def samplePage : Page Issue := { total := 2, items := [{ id := "1", key := "A-1" }] }

/-- What happens when the search is cancelled after its first page. -/
def sampleTranscript : Transcript := [
  .asked sampleSearch.pager.request (.ok samplePage), .gave { id := "1", key := "A-1" },
  .cancelled (.numbered 0), .failed .cancelled, .ended]

theorem transcript_sampleSearch :
    ∃ m, sampleSearch.transcript [.poll, .cancel (.numbered 0), .poll, .poll] sampleLink =
      (sampleTranscript, m) := by
  have hplain : sampleSearch.IsPlain := ⟨rfl, rfl⟩
  have hfetch : sampleSearch.pager.request.fetch sampleClient (.numbered 0) sampleLink =
      (.ok samplePage, sampleLink.sent (sampleSearch.pager.request.post sampleClient)) :=
    SearchRequest.fetch_eq (reaches_sampleLink _) (Server.page?_sample _ _ _ _)
  have hfits : sampleSearch.pager.overflows samplePage = false := by decide
  have hcut : sampleSearch.pager.cut samplePage = [{ id := "1", key := "A-1" }] := rfl
  have hpoll := IssueStream.poll_next hplain sampleLink
  obtain ⟨hfirst, hs⟩ := hpoll.eq_of_page rfl rfl rfl hfetch hfits hcut
  have hplain' := hpoll.isPlain hplain
  simp only [IssueStream.transcript, hfirst]
  generalize (sampleSearch.next sampleLink).1.2 = s at hs hplain' ⊢
  generalize (sampleSearch.next sampleLink).2 = l
  obtain ⟨hbuffer, hlive, htoken⟩ : s.buffer = [] ∧ s.pager.isLive = true ∧
      s.pager.token = .numbered 0 := by
    rw [hs]
    exact ⟨rfl, rfl, rfl⟩
  have hcancelled : (l.cancel (.numbered 0)).isCancelled s.pager.token = true := by
    simp [htoken]
  have hpoll' := IssueStream.poll_next hplain' (l.cancel (.numbered 0))
  obtain ⟨hsecond, ht⟩ := hpoll'.eq_of_cancelled hbuffer hlive hcancelled
  have hplain'' := hpoll'.isPlain hplain'
  rw [hsecond]
  generalize (s.next (l.cancel (.numbered 0))).1.2 = t at ht hplain'' ⊢
  generalize (s.next (l.cancel (.numbered 0))).2 = m
  obtain ⟨hbuffer', hlive'⟩ : t.buffer = [] ∧ t.pager.isLive = false := by
    rw [ht]
    exact ⟨hbuffer, rfl⟩
  rw [(IssueStream.poll_next hplain'' m).eq_of_not_live hbuffer' hlive']
  exact ⟨_, rfl⟩

/-- One request goes out. -/
theorem orderly_sampleSearch :
    ∃ m, sampleSearch.transcript [.poll, .cancel (.numbered 0), .poll, .poll] sampleLink =
        (sampleTranscript, m) ∧
      0 + (upTo none sampleTranscript.items).length < 2 ^ 32 ∧
      Orderly sampleSearch.pager sampleLink sampleTranscript ∧
      ∃ rs, m.requests = sampleLink.requests ++ rs ∧ Sent sampleClient sampleTranscript.requests rs := by
  obtain ⟨m, htranscript⟩ := transcript_sampleSearch
  have hfits : 0 + (upTo none sampleTranscript.items).length < 2 ^ 32 := by decide
  exact ⟨m, htranscript, hfits,
    orderly_transcript sampleClient (.numbered 0) 1 "project = A" {} _ sampleLink m sampleTranscript
      htranscript hfits⟩

end JiraQuery
