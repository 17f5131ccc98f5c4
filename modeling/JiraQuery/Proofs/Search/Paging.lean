import JiraQuery.Proofs.Search.Serving

/-!
# The pages of a search

Against a server that holds a list of issues, a pager cuts that list into consecutive parts. What it
has yet to give (`Pager.pending`) is a page and then what the pager after that page has yet to give, so
nothing is lost or repeated however short the pages are. Main statement: `Pager.exists_feeds`.
-/

namespace JiraQuery

/-! ## Limits -/

/-- The items within a limit. -/
def upTo {α : Type} (limit : Option Nat) (xs : List α) : List α :=
  limit.elim xs xs.take

/-- How many of some items that are asked for are within a limit. -/
def within (limit : Option Nat) (k : Nat) : Nat :=
  limit.elim k (min k)

section
variable {α : Type} {limit : Option Nat} {xs : List α}

@[simp] theorem within_zero : within limit 0 = 0 := by
  cases limit with
  | none => rfl
  | some n => exact Nat.zero_min n

/-- Within a limit that is not used up there is one more item than within what is left of it. -/
theorem within_succ (hlimit : limit ≠ some 0) (k : Nat) :
    within limit (k + 1) = within (limit.map (· - 1)) k + 1 := by
  cases limit with
  | none => rfl
  | some n =>
    have hn : n ≠ 0 := fun h => hlimit (congrArg some h)
    simp only [within, Option.elim_some, Option.map_some]
    omega

@[simp] theorem upTo_none : upTo none xs = xs := rfl

@[simp] theorem upTo_some {n : Nat} : upTo (some n) xs = xs.take n := rfl

@[simp] theorem upTo_nil : upTo limit ([] : List α) = [] := by
  cases limit <;> simp

theorem upTo_cons {x : α} (hlimit : limit ≠ some 0) :
    upTo limit (x :: xs) = x :: upTo (limit.map (· - 1)) xs := by
  cases limit with
  | none => rfl
  | some n =>
    have hn : n ≠ 0 := fun h => hlimit (congrArg some h)
    exact List.take_cons (Nat.pos_of_ne_zero hn)

theorem upTo_ne_nil (hlimit : limit ≠ some 0) (hxs : xs ≠ []) : upTo limit xs ≠ [] := by
  cases limit with
  | none => exact hxs
  | some n =>
    have hn : n ≠ 0 := fun h => hlimit (congrArg some h)
    simp [hn, hxs]

theorem length_upTo : (upTo limit xs).length = limit.elim xs.length (min · xs.length) := by
  cases limit <;> simp

/-- More items are within what is left of the limit. -/
theorem upTo_append (xs ys : List α) :
    upTo limit (xs ++ ys) =
      upTo limit xs ++ upTo (limit.map (· - (upTo limit xs).length)) ys := by
  cases limit with
  | none => rfl
  | some n =>
    have hleft : n - min n xs.length = n - xs.length := by omega
    simp only [upTo_some, Option.map_some, List.take_append, List.length_take, hleft]

/-- The items within a limit, some first and then the others within what is left of the limit. -/
theorem take_append_upTo {k : Nat} (h : ∀ n, limit = some n → k ≤ n) :
    xs.take k ++ upTo (limit.map (· - k)) (xs.drop k) = upTo limit xs := by
  cases limit with
  | none => exact List.take_append_drop k xs
  | some n =>
    have hn : k + (n - k) = n := Nat.add_sub_cancel' (h n rfl)
    rw [upTo_some, ← hn, List.take_add, hn]
    rfl

end

/-! ## What is pending -/

namespace Pager

/-- What a pager searches for. -/
def topic (p : Pager) : Topic :=
  ⟨p.jql, p.fields, p.expand⟩

/-- How many more issues there are at most, as a natural number. -/
def quota (p : Pager) : Option Nat :=
  p.remaining.map UInt32.toNat

/-- What a pager has yet to give of the issues of a server. -/
def pending (p : Pager) (xs : List Issue) : List Issue :=
  upTo p.quota (xs.drop p.startAt.toNat)

variable {p : Pager} {xs : List Issue} {page : Page Issue}

theorem quota_eq_some_zero : p.quota = some 0 ↔ p.remaining = some 0 := by
  unfold quota
  cases p.remaining with
  | none => simp
  | some r => simp [← UInt32.toNat_inj]

theorem pending_of_remaining (h : p.remaining = some 0) : p.pending xs = [] := by
  unfold pending
  rw [quota_eq_some_zero.2 h, upTo_some, List.take_zero]

theorem one_le_toNat_pageSize : 1 ≤ p.pageSize.toNat :=
  UInt32.le_iff_toNat_le.1 p.one_le_pageSize

/-- A request is for a page, or for what is left of the limit. -/
theorem toNat_maxResults :
    p.request.maxResults.toNat = p.quota.elim p.pageSize.toNat (min · p.pageSize.toNat) := by
  unfold request quota
  cases p.remaining with
  | none => rfl
  | some r => exact Number.toNat_min r p.pageSize

theorem maxResults_pos (h : p.remaining ≠ some 0) : 0 < p.request.maxResults := by
  have hsize := p.one_le_toNat_pageSize
  rw [UInt32.lt_iff_toNat_lt, toNat_maxResults]
  cases hq : p.quota with
  | none => exact hsize
  | some n =>
    have hn : n ≠ 0 := fun h0 => h (quota_eq_some_zero.1 (h0 ▸ hq))
    exact Nat.lt_min.2 ⟨Nat.pos_of_ne_zero hn, hsize⟩

theorem cut_eq : p.cut page = upTo p.quota page.items := by
  unfold cut quota
  cases p.remaining <;> rfl

/-- A position that fits takes no lap. -/
theorem lap_of_fits (h : p.overflows page = false) (l : Link) : p.lap page l = l := by
  unfold lap
  rw [h]
  rfl

/-- A position that does not fit goes on from zero. -/
theorem toNat_startAt_of_overflows (h : p.overflows page = true) :
    (p.advance page).startAt.toNat + UInt32.size = p.startAt.toNat + (p.received page).toNat := by
  have hsize : UInt32.size ≤ p.startAt.toNat + (p.received page).toNat := of_decide_eq_true h
  have hs := p.startAt.toNat_lt
  have hr := (p.received page).toNat_lt
  have hstart : (p.advance page).startAt.toNat =
      (p.startAt.toNat + (p.received page).toNat) % UInt32.size := UInt32.toNat_add _ _
  have hone : (p.startAt.toNat + (p.received page).toNat) / UInt32.size = 1 :=
    Nat.div_eq_of_lt_le (by omega) (by unfold UInt32.size at *; omega)
  have hdiv := Nat.mod_add_div (p.startAt.toNat + (p.received page).toNat) UInt32.size
  rw [hone] at hdiv
  omega

theorem toNat_received_le (p : Pager) (page : Page Issue) :
    (p.received page).toNat ≤ (p.cut page).length := by
  show (UInt32.ofNat (p.cut page).length).toNat ≤ _
  rw [UInt32.toNat_ofNat']
  exact Nat.mod_le _ _

theorem length_cut_le_length (p : Pager) (page : Page Issue) : (p.cut page).length ≤ page.items.length := by
  rw [cut_eq]
  cases p.quota with
  | none => exact Nat.le_refl _
  | some n => exact List.length_take_le' n _

section
variable (h : p.startAt.toNat + (p.cut page).length < 2 ^ 32)

include h

theorem toNat_received : (p.received page).toNat = (p.cut page).length :=
  UInt32.toNat_ofNat_of_lt' (show (p.cut page).length < 2 ^ 32 by omega)

theorem received_eq_zero : p.received page = 0 ↔ p.cut page = [] := by
  rw [← UInt32.toNat_inj, toNat_received h]
  exact List.length_eq_zero_iff

theorem overflows_eq_false : p.overflows page = false := by
  refine decide_eq_false ?_
  rw [toNat_received h]
  exact Nat.not_le_of_lt h

theorem toNat_startAt_advance :
    (p.advance page).startAt.toNat = p.startAt.toNat + (p.cut page).length := by
  rw [toNat_startAt_of_fits (overflows_eq_false h), toNat_received h]

end

theorem length_cut_le_of_quota {n : Nat} (h : p.quota = some n) : (p.cut page).length ≤ n := by
  rw [cut_eq, h]
  exact List.length_take_le n _

theorem quota_advance : (p.advance page).quota = p.quota.map (· - (p.cut page).length) := by
  cases hr : p.remaining with
  | none => simp [quota, advance, hr]
  | some r =>
    have hle : (p.cut page).length ≤ r.toNat := length_cut_le_of_quota (by simp [quota, hr])
    have hreceived : (p.received page).toNat = (p.cut page).length :=
      UInt32.toNat_ofNat_of_lt' (hle.trans_lt r.toNat_lt)
    simp only [quota, advance, hr, Option.map_some, Number.toNat_subSat, hreceived]

/-! ## A single page -/

section
variable (hlen : xs.length < 2 ^ 32) (hr : p.remaining ≠ some 0) (ha : p.request.IsAnswer xs page)

include hr ha

theorem cut_eq_take : p.cut page = (xs.drop p.startAt.toNat).take (p.cut page).length := by
  have hslice : page.items <+: xs.drop p.startAt.toNat := ha.slice (maxResults_pos hr)
  have hcut : p.cut page <+: page.items := by
    rw [cut_eq]
    cases p.quota with
    | none => exact List.prefix_refl _
    | some n => exact List.take_prefix n _
  exact List.prefix_iff_eq_take.1 (hcut.trans hslice)

theorem length_cut_le : (p.cut page).length ≤ xs.length - p.startAt.toNat := by
  have h := congrArg List.length (cut_eq_take hr ha)
  rw [List.length_take, List.length_drop] at h
  omega

theorem cut_ne_nil (h : p.startAt.toNat < xs.length) : p.cut page ≠ [] := by
  rw [cut_eq]
  exact upTo_ne_nil (mt quota_eq_some_zero.1 hr) (ha.ne_nil (maxResults_pos hr) h)

include hlen

theorem startAt_add_length_cut_lt : p.startAt.toNat + (p.cut page).length < 2 ^ 32 := by
  have hle := length_cut_le hr ha
  have hs := p.startAt.toNat_lt
  omega

/-- A page and what comes after it is what there was before it. -/
theorem cut_append_pending : p.cut page ++ (p.advance page).pending xs = p.pending xs := by
  unfold pending
  rw [toNat_startAt_advance (startAt_add_length_cut_lt hlen hr ha), quota_advance, ← List.drop_drop]
  conv => lhs; lhs; rw [cut_eq_take hr ha]
  exact take_append_upTo fun _ hn => length_cut_le_of_quota hn

/-- A pager that is done has nothing left to give. -/
theorem pending_of_done_advance (h : (p.advance page).done) : (p.advance page).pending xs = [] := by
  have hfits := startAt_add_length_cut_lt hlen hr ha
  have hstart := toNat_startAt_advance hfits
  simp only [advance, Bool.or_eq_true, decide_eq_true_eq] at h
  rcases h with (hnone | hzero) | htotal
  · have hpast : xs.length ≤ p.startAt.toNat :=
      Nat.le_of_not_lt fun hlt => cut_ne_nil hr ha hlt ((received_eq_zero hfits).1 hnone)
    unfold pending
    rw [hstart, List.drop_eq_nil_of_le (by omega), upTo_nil]
  · exact pending_of_remaining hzero
  · have hpast : page.total.toNat ≤ (p.advance page).startAt.toNat := UInt32.le_iff_toNat_le.1 htotal
    rw [ha.total_eq] at hpast
    unfold pending
    rw [List.drop_eq_nil_of_le hpast, upTo_nil]

end

/-! ## A run of pages -/

theorem next_stop {l : Link} (h : p.done = true ∨ p.remaining = some 0) :
    p.next l = ((.ok none, { p with done := true }), l) :=
  if_pos (by simpa using h)

section
variable {l : Link} {answer : Server} (hl : l.Reaches p.client p.token answer) (hd : p.done = false)
  (hr : p.remaining ≠ some 0)

include hl hd hr

section
variable (hpage : (answer l.requests.length (p.request.post p.client)).page?
  (p.request.post p.client).url = some page)

include hpage

/-- A page that arrives is cut to the limit, and the pager goes on from its end. -/
theorem next_of_page? (hlives : ¬(p.overflows page && l.laps = 0)) :
    p.next l = ((.ok (some (p.cut page)), p.advance page),
      p.warn page (p.lap page (l.sent (p.request.post p.client)))) := by
  unfold next
  simp only [hd, hr, hl.not_cancelled, SearchRequest.fetch_eq hl hpage]
  exact if_neg hlives

/-- A page after which the position does not fit is the last one where no lap is left. -/
theorem next_of_overflow (hover : p.overflows page = true) (hlaps : l.laps = 0) :
    p.next l = ((.error .overflow, { p with done := true }), l.sent (p.request.post p.client)) := by
  have hstops : (p.overflows page && decide ((l.sent (p.request.post p.client)).laps = 0)) = true :=
    Bool.and_eq_true_iff.2 ⟨hover, decide_eq_true hlaps⟩
  unfold next
  simp only [hd, hr, hl.not_cancelled, SearchRequest.fetch_eq hl hpage]
  exact if_pos hstops

end

theorem next_page (hs : answer.Holds p.client p.topic xs) :
    ∃ page, p.request.IsAnswer xs page ∧
      (answer l.requests.length (p.request.post p.client)).page? (p.request.post p.client).url =
        some page ∧
      p.next l = ((.ok (some (p.cut page)), p.advance page), l.sent (p.request.post p.client)) := by
  obtain ⟨page, hpage, ha⟩ := hs.reply l.requests.length p.request ⟨rfl, .inr ⟨rfl, rfl⟩⟩
  have hfits := startAt_add_length_cut_lt hs.length_lt hr ha
  have hover := overflows_eq_false hfits
  have hquiet : p.warn page (l.sent (p.request.post p.client)) = l.sent (p.request.post p.client) := by
    refine if_neg fun ⟨hnone, hlt⟩ => cut_ne_nil hr ha ?_ ((received_eq_zero hfits).1 hnone)
    rw [← ha.total_eq]
    exact UInt32.lt_iff_toNat_lt.1 hlt
  refine ⟨page, ha, hpage, ?_⟩
  rw [next_of_page? hl hd hr hpage (by simp [hover]), lap_of_fits hover, hquiet]

end

/-- The issues that a pager gives until it comes to its end or to an error, and the link after that. -/
inductive Feeds : Pager → Link → List Issue → Option ApiError → Link → Prop
  | stop {p q : Pager} {l m : Link} (h : p.next l = ((.ok none, q), m)) : Feeds p l [] none m
  | fail {p q : Pager} {l m : Link} {e : ApiError} (h : p.next l = ((.error e, q), m)) :
      Feeds p l [] (some e) m
  | page {p q : Pager} {l m n : Link} {page rest : List Issue} {ending : Option ApiError}
      (h : p.next l = ((.ok (some page), q), m)) (hrest : Feeds q m rest ending n) :
      Feeds p l (page ++ rest) ending n

/-! ## The number of requests -/

/-- The number of full pages that so many issues take; there is always one. -/
def pageCount (size issues : Nat) : Nat :=
  max 1 ((issues + size - 1) / size)

theorem pageCount_of_le {size issues : Nat} (hsize : 1 ≤ size) (h : issues ≤ size) :
    pageCount size issues = 1 := by
  have hlt : (issues + size - 1) / size < 2 := Nat.div_lt_of_lt_mul (by omega)
  unfold pageCount
  omega

theorem pageCount_add {size issues : Nat} (hsize : 1 ≤ size) (h : 1 ≤ issues) :
    pageCount size (size + issues) = pageCount size issues + 1 := by
  have hdiv : (size + issues + size - 1) / size = (issues + size - 1) / size + 1 := by
    rw [← Nat.add_div_right _ hsize]
    congr 1
    omega
  have hpos : 0 < (issues + size - 1) / size := Nat.div_pos (by omega) hsize
  unfold pageCount
  omega

/-- The number of requests that a pager makes if all pages are full. -/
def calls (p : Pager) (xs : List Issue) : Nat :=
  if p.done = true ∨ p.remaining = some 0 then 0
  else pageCount p.pageSize.toNat (p.pending xs).length

theorem pending_ne_nil (hr : p.remaining ≠ some 0) (h : p.startAt.toNat < xs.length) :
    p.pending xs ≠ [] := by
  have hne : xs.drop p.startAt.toNat ≠ [] := by simpa using h
  exact upTo_ne_nil (mt quota_eq_some_zero.1 hr) hne

section
variable (hlen : xs.length < 2 ^ 32) (hr : p.remaining ≠ some 0) (ha : p.request.IsAnswer xs page)

include hlen hr ha

theorem pending_advance_eq_nil :
    (p.advance page).pending xs = [] ↔
      (p.advance page).done = true ∨ (p.advance page).remaining = some 0 := by
  constructor
  · intro hnil
    refine Classical.or_iff_not_imp_right.2 fun hr' => ?_
    have hpast : xs.length ≤ (p.advance page).startAt.toNat :=
      Nat.le_of_not_lt fun hlt => pending_ne_nil hr' hlt hnil
    have htotal : page.total ≤ (p.advance page).startAt := by
      rw [UInt32.le_iff_toNat_le, ha.total_eq]
      exact hpast
    simp only [advance] at htotal ⊢
    simp [htotal]
  · rintro (hdone | hzero)
    · exact pending_of_done_advance hlen hr ha hdone
    · exact pending_of_remaining hzero

/-- A full page is one of the pages that the issues take. -/
theorem calls_advance (hd : p.done = false)
    (hfull : page.items.length = min p.request.maxResults.toNat (xs.length - p.startAt.toNat)) :
    p.calls xs = (p.advance page).calls xs + 1 := by
  have hsize := p.one_le_toNat_pageSize
  have hcut : (p.cut page).length = min (p.pending xs).length p.pageSize.toNat := by
    rw [cut_eq, pending, length_upTo, length_upTo, hfull, toNat_maxResults, List.length_drop]
    cases p.quota with
    | none => exact Nat.min_comm _ _
    | some n => simp only [Option.elim_some]; omega
  have hsum := congrArg List.length (cut_append_pending hlen hr ha)
  rw [List.length_append] at hsum
  have hstart : p.calls xs = pageCount p.pageSize.toNat (p.pending xs).length := if_neg (by simp [hd, hr])
  rw [hstart]
  by_cases hnil : (p.advance page).pending xs = []
  · have hend : (p.advance page).calls xs = 0 :=
      if_pos ((pending_advance_eq_nil hlen hr ha).1 hnil)
    rw [hnil, List.length_nil] at hsum
    rw [hend, pageCount_of_le hsize (by omega)]
  · have hnext : (p.advance page).calls xs =
        pageCount p.pageSize.toNat ((p.advance page).pending xs).length :=
      if_neg fun h => hnil ((pending_advance_eq_nil hlen hr ha).2 h)
    have hpos : 1 ≤ ((p.advance page).pending xs).length := List.length_pos_iff.2 hnil
    have hall : (p.pending xs).length = p.pageSize.toNat + ((p.advance page).pending xs).length := by
      omega
    rw [hnext, hall, pageCount_add hsize hpos]

end

/-! ## All pages -/

/-- A pager gives what is pending, with as many requests as full pages take if all pages are full. -/
theorem exists_feeds {l : Link} {answer : Server} (hl : l.Reaches p.client p.token answer)
    (hs : answer.Holds p.client p.topic xs) (hdone : p.done = true → p.pending xs = []) :
    ∃ m, p.Feeds l (p.pending xs) none m ∧ (answer.Fills p.client p.topic xs →
      m.requests.length = l.requests.length + p.calls xs) := by
  -- every page lowers the potential
  induction h : p.potential using Nat.strongRecOn generalizing p l with
  | ind k ih =>
    subst h
    by_cases hstop : p.done = true ∨ p.remaining = some 0
    · have hnil : p.pending xs = [] := hstop.elim hdone pending_of_remaining
      have hcalls : p.calls xs = 0 := if_pos hstop
      rw [hnil, hcalls]
      exact ⟨l, .stop (next_stop hstop), fun _ => rfl⟩
    · obtain ⟨hd, hr⟩ : p.done = false ∧ p.remaining ≠ some 0 := by simpa using hstop
      obtain ⟨page, ha, hpage, hnext⟩ := next_page hl hd hr hs
      have hfits := overflows_eq_false (startAt_add_length_cut_lt hs.length_lt hr ha)
      obtain ⟨m, hfeeds, hcount⟩ := ih _ (potential_advance hd hfits) (p := p.advance page)
        (hl.sent (p.request.post p.client)) hs (pending_of_done_advance hs.length_lt hr ha) rfl
      refine ⟨m, ?_, fun hfills => ?_⟩
      · rw [← cut_append_pending hs.length_lt hr ha]
        exact .page hnext hfeeds
      · have hfull := hfills _ p.request page ⟨rfl, .inr ⟨rfl, rfl⟩⟩ hpage
        have hone : (l.sent (p.request.post p.client)).requests.length = l.requests.length + 1 :=
          List.length_append
        rw [hcount hfills, hone, calls_advance hs.length_lt hr ha hd hfull]
        omega

end Pager

end JiraQuery
