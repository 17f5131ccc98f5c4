import JiraQuery.Proofs.Query.Drafting
import JiraQuery.Proofs.Search.Paging

/-!
# Cutting the result

A query cuts its result by takes and skips, of which there may be any number in any order. The first
issue and the number of issues that a draft keeps for them are words that stop at their ends; a `Window`
is the same in numbers without ends, where taking and skipping are plain list operations
(`Window.part_foldl`). On a list that a word can count, both give what the operators give one after the
other. Main statement: `translate_append_cuts`.
-/

namespace JiraQuery

namespace Operator

/-- What an operator leaves of a result. -/
def cut {α : Type} (xs : List α) : Operator → List α
  | take n => xs.take n.toNat
  | skip n => xs.drop n.toNat
  | _ => xs

end Operator

/-! ## Windows -/

/-- A part of a list: where it starts, and how long it is at most. A length below zero is that of an
empty part. -/
structure Window where
  start : Nat := 0
  length : Option Int := none

namespace Window

variable {α : Type}

/-- A window is cut as a draft is, but without ends of the numbers. -/
def step (w : Window) : Operator → Window
  | .take n => { w with length := some (w.length.elim (n.toNat : Int) (min · (n.toNat : Int))) }
  | .skip n => { start := w.start + n.toNat, length := w.length.map (· - (n.toNat : Int)) }
  | _ => w

/-- The part of a list that is seen through a window. -/
def part (w : Window) (xs : List α) : List α :=
  upTo (w.length.map Int.toNat) (xs.drop w.start)

theorem part_step (w : Window) (op : Operator) (xs : List α) :
    (w.step op).part xs = op.cut (w.part xs) := by
  cases op with
  | take n =>
    cases hw : w.length with
    | none => simp [part, step, Operator.cut, hw]
    | some l =>
      have hmin : (min l (n.toNat : Int)).toNat = min n.toNat l.toNat := by omega
      simp [part, step, Operator.cut, hw, hmin, List.take_take]
  | skip n =>
    cases hw : w.length with
    | none => simp [part, step, Operator.cut, hw, List.drop_drop]
    | some l =>
      have hsub : (l - (n.toNat : Int)).toNat = l.toNat - n.toNat := by omega
      simp [part, step, Operator.cut, hw, hsub, List.drop_take, List.drop_drop]
  | filter | orderBy | thenBy => rfl

/-- A window shows what its operators leave, one after the other. -/
theorem part_foldl (w : Window) (ops : List Operator) (xs : List α) :
    (ops.foldl step w).part xs = ops.foldl Operator.cut (w.part xs) := by
  induction ops generalizing w with
  | nil => rfl
  | cons op ops ih => rw [List.foldl_cons, List.foldl_cons, ih, part_step]

theorem length_step_eq_none {w : Window} {op : Operator} :
    (w.step op).length = none ↔ w.length = none ∧ ∀ n, op ≠ .take n := by
  cases op with
  | take n => simp [step]
  | skip n => simp [step]
  | filter | orderBy | thenBy => simp [step]

/-- The length is open until something is taken. -/
theorem length_foldl_eq_none {w : Window} {ops : List Operator} :
    (ops.foldl step w).length = none ↔ w.length = none ∧ ∀ n, Operator.take n ∉ ops := by
  induction ops generalizing w with
  | nil => simp
  | cons op ops ih =>
    rw [List.foldl_cons, ih, length_step_eq_none]
    simp only [List.mem_cons, not_or, forall_and, and_assoc, eq_comm]

end Window

/-! ## Drafts -/

namespace Draft

variable {d d' : Draft} {w : Window} {op : Operator} {ops cuts : List Operator}

/-- To cut a result is always possible, and changes nothing else. -/
theorem step_of_isCut (d : Draft) (hop : op.isCut) :
    ∃ limit skip, d.step op = .ok { d with limit, skip } := by
  cases op with
  | take n => exact ⟨_, d.skip, rfl⟩
  | skip n => exact ⟨_, _, rfl⟩
  | filter | orderBy | thenBy => cases hop

theorem foldlM_of_isCut (d : Draft) (hcuts : ∀ op ∈ cuts, op.isCut) :
    ∃ limit skip, cuts.foldlM step d = .ok { d with limit, skip } := by
  induction cuts generalizing d with
  | nil => exact ⟨d.limit, d.skip, rfl⟩
  | cons op cuts ih =>
    obtain ⟨hop, hcuts⟩ := List.forall_mem_cons.1 hcuts
    obtain ⟨limit, skip, hstep⟩ := d.step_of_isCut hop
    obtain ⟨limit', skip', hrest⟩ := ih { d with limit, skip } hcuts
    refine ⟨limit', skip', ?_⟩
    rw [List.foldlM_cons, hstep]
    exact hrest

/-- Conditions and orderings cut nothing. -/
theorem uncut_of_step (hop : op.isCut = false) (h : d.step op = .ok d') :
    d'.limit = d.limit ∧ d'.skip = d.skip := by
  rcases step_cases h with
    ⟨e, rfl, -, rfl⟩ | ⟨f, dir, rfl, -, rfl⟩ | ⟨f, dir, rfl, -, -, rfl⟩ | ⟨hcut, limit, skip, rfl⟩
  · exact ⟨rfl, rfl⟩
  · exact ⟨rfl, rfl⟩
  · exact ⟨rfl, rfl⟩
  · simp [hop] at hcut

theorem uncut_of_foldlM (hops : ∀ op ∈ ops, op.isCut = false) (h : ops.foldlM step d = .ok d') :
    d'.limit = d.limit ∧ d'.skip = d.skip := by
  induction ops generalizing d with
  | nil =>
    obtain rfl := Except.ok.inj h
    exact ⟨rfl, rfl⟩
  | cons op ops ih =>
    obtain ⟨hop, hops⟩ := List.forall_mem_cons.1 hops
    obtain ⟨e, hstep, h⟩ := foldlM_cons_eq_ok_iff.1 h
    obtain ⟨hlimit, hskip⟩ := uncut_of_step hop hstep
    obtain ⟨hlimit', hskip'⟩ := ih hops h
    exact ⟨hlimit'.trans hlimit, hskip'.trans hskip⟩

/-- The words of a draft stand for a window, as far as words go. -/
structure Keeps (d : Draft) (w : Window) : Prop where
  start : (d.skip.getD 0).toNat = min w.start 0xFFFFFFFF
  length : d.limit.map UInt32.toNat = w.length.map Int.toNat

theorem keeps_uncut (hlimit : d.limit = none) (hskip : d.skip = none) : d.Keeps {} where
  start := by simp [hskip]
  length := by simp [hlimit]

theorem Keeps.length_cases (hd : d.Keeps w) :
    (d.limit = none ∧ w.length = none) ∨
      ∃ l k, d.limit = some l ∧ w.length = some k ∧ l.toNat = k.toNat := by
  have hlength := hd.length
  cases hl : d.limit with
  | none => exact .inl ⟨rfl, by simpa [hl, eq_comm] using hlength⟩
  | some l =>
    obtain ⟨k, hk, hkl⟩ : ∃ k, w.length = some k ∧ k.toNat = l.toNat := by
      simpa [hl, eq_comm] using hlength
    exact .inr ⟨l, k, rfl, hk, hkl.symm⟩

/-- A sum that stops at the largest word stays there, and a difference that stops at zero stands for one
below zero: whatever follows, both are cut alike. -/
theorem Keeps.step (hd : d.Keeps w) (hop : op.isCut) (h : d.step op = .ok d') :
    d'.Keeps (w.step op) := by
  cases op with
  | take n =>
    obtain rfl := Except.ok.inj h
    refine ⟨hd.start, ?_⟩
    rcases hd.length_cases with ⟨hl, hw⟩ | ⟨l, k, hl, hk, hlk⟩
    · simp [Window.step, hl, hw]
    · have hmin : min l.toNat n.toNat = (min k (n.toNat : Int)).toNat := by omega
      simp [Window.step, hl, hk, Number.toNat_min, hmin]
  | skip n =>
    obtain rfl := Except.ok.inj h
    refine ⟨?_, ?_⟩
    · show (Number.addSat (d.skip.getD 0) n).toNat = min (w.start + n.toNat) 0xFFFFFFFF
      rw [Number.toNat_addSat, hd.start]
      omega
    · rcases hd.length_cases with ⟨hl, hw⟩ | ⟨l, k, hl, hk, hlk⟩
      · simp [Window.step, hl, hw]
      · have hsub : l.toNat - n.toNat = (k - (n.toNat : Int)).toNat := by omega
        simp [Window.step, hl, hk, Number.toNat_subSat, hsub]
  | filter | orderBy | thenBy => cases hop

theorem Keeps.foldlM (hd : d.Keeps w) (hcuts : ∀ op ∈ cuts, op.isCut)
    (h : cuts.foldlM Draft.step d = .ok d') : d'.Keeps (cuts.foldl Window.step w) := by
  induction cuts generalizing d w with
  | nil =>
    obtain rfl := Except.ok.inj h
    exact hd
  | cons op cuts ih =>
    obtain ⟨hop, hcuts⟩ := List.forall_mem_cons.1 hcuts
    obtain ⟨e, hstep, h⟩ := foldlM_cons_eq_ok_iff.1 h
    exact ih (hd.step hop hstep) hcuts h

theorem Keeps.limit_eq_none_iff (hd : d.Keeps w) : d.limit = none ↔ w.length = none := by
  rw [← Option.map_eq_none_iff, hd.length, Option.map_eq_none_iff]

/-- On a list that a word can count, nothing is lost by the ends of words. -/
theorem Keeps.part_eq {α : Type} {xs : List α} (hd : d.Keeps w) (hxs : xs.length < 2 ^ 32) :
    upTo (d.limit.map UInt32.toNat) (xs.drop (d.skip.getD 0).toNat) = w.part xs := by
  have hdrop : xs.drop (min w.start 0xFFFFFFFF) = xs.drop w.start := by
    rcases Nat.le_total w.start 0xFFFFFFFF with h | h
    · rw [Nat.min_eq_left h]
    · rw [Nat.min_eq_right h, List.drop_eq_nil_of_le (by omega), List.drop_eq_nil_of_le (by omega)]
  rw [hd.start, hd.length, hdrop]
  rfl

end Draft

/-! ## Queries -/

/-- Where a draft is cut shows in the limit and the number of skipped issues only. -/
theorem Translation.ofDraft_cut (catalog : Catalog) (serverMax : UInt32) (d : Draft)
    (limit skip : Option UInt32) :
    ofDraft catalog serverMax { d with limit, skip } =
      (ofDraft catalog serverMax d).map fun t =>
        { t with limit := limit.map (min · (max serverMax 1)), skip } := by
  have hremote : Draft.remote { d with limit, skip } = d.remote := rfl
  unfold ofDraft
  rw [hremote]
  cases renderConjuncts catalog d.remote with
  | error e => rfl
  | ok predicate =>
    show (do let orderings ← d.orderings.mapM (renderOrdering catalog); _) = _
    cases d.orderings.mapM (renderOrdering catalog) with
    | error e => rfl
    | ok orderings => rfl

theorem Draft.ofOperators_append (ops ops' : List Operator) :
    ofOperators (ops ++ ops') = ofOperators ops >>= fun d => ops'.foldlM step d :=
  List.foldlM_append

/-- The operators that cut the result of a draft come to one limit and one number of skipped issues. -/
theorem Draft.ofOperators_append_cuts {ops cuts : List Operator}
    (hops : ∀ op ∈ ops, op.isCut = false) (hcuts : ∀ op ∈ cuts, op.isCut = true) :
    ∃ limit skip : Option UInt32,
      ofOperators (ops ++ cuts) = (ofOperators ops).map (fun d => { d with limit, skip }) ∧
      Keeps { limit, skip } (cuts.foldl Window.step {}) := by
  rw [ofOperators_append]
  cases hd : ofOperators ops with
  | error e =>
    -- nothing is cut where the conditions are refused, so that any run of the cuts will do
    obtain ⟨limit, skip, hrun⟩ := foldlM_of_isCut {} hcuts
    exact ⟨limit, skip, rfl, (keeps_uncut rfl rfl).foldlM hcuts hrun⟩
  | ok d =>
    obtain ⟨hlimit, hskip⟩ := uncut_of_foldlM hops hd
    obtain ⟨limit, skip, hrun⟩ := d.foldlM_of_isCut hcuts
    obtain ⟨hstart, hlength⟩ := (keeps_uncut hlimit hskip).foldlM hcuts hrun
    exact ⟨limit, skip, hrun, hstart, hlength⟩

/-- The operators that cut the result of a query come to one limit, which is missing unless something is
taken, and one number of skipped issues. Of any list that a word can count they leave what the operators
leave one after the other, which is also what they leave in numbers that never stop at an end. Nothing
else becomes of the query, but that its limit does not exceed what the server returns. -/
theorem translate_append_cuts (catalog : Catalog) (serverMax : UInt32) {ops cuts : List Operator}
    (hops : ∀ op ∈ ops, op.isCut = false) (hcuts : ∀ op ∈ cuts, op.isCut = true) :
    ∃ limit skip : Option UInt32,
      Draft.ofOperators (ops ++ cuts) =
        (Draft.ofOperators ops).map (fun d => { d with limit, skip }) ∧
      translate catalog serverMax (ops ++ cuts) =
        (translate catalog serverMax ops).map (fun t =>
          { t with limit := limit.map (min · (max serverMax 1)), skip }) ∧
      (limit = none ↔ ∀ n, .take n ∉ cuts) ∧
      ∀ xs : List Issue, xs.length < 2 ^ 32 →
        upTo (limit.map UInt32.toNat) (xs.drop (skip.getD 0).toNat) = cuts.foldl Operator.cut xs ∧
        upTo (limit.map UInt32.toNat) (xs.drop (skip.getD 0).toNat) =
          (cuts.foldl Window.step {}).part xs := by
  obtain ⟨limit, skip, hdraft, hkeeps⟩ := Draft.ofOperators_append_cuts hops hcuts
  refine ⟨limit, skip, hdraft, ?_, ?_, fun xs hxs => ?_⟩
  · unfold translate
    rw [hdraft]
    cases Draft.ofOperators ops with
    | error e => rfl
    | ok d => exact Translation.ofDraft_cut catalog serverMax d limit skip
  · rw [hkeeps.limit_eq_none_iff, Window.length_foldl_eq_none]
    exact and_iff_right rfl
  · have hpart := hkeeps.part_eq hxs
    exact ⟨hpart.trans (Window.part_foldl {} cuts xs), hpart⟩

/-- A condition and an ordering. -/
def uncutQuery : List Operator :=
  [.filter (.eq (.system .project) (.text "A")), .orderBy (.system .key) .ascending]

/-- Takes and skips in turn. -/
def mixedCuts : List Operator := [.skip 1, .take 5, .skip 2, .take 4]

/-- Of five issues after the first one two more are left out, and the server returns two at most. -/
theorem translate_append_mixedCuts :
    (∀ op ∈ uncutQuery, op.isCut = false) ∧ (∀ op ∈ mixedCuts, op.isCut = true) ∧
      ∃ t, translate [] 2 (uncutQuery ++ mixedCuts) = .ok t ∧ t.limit = some 2 ∧ t.skip = some 3 ∧
        ∀ xs : List Issue, xs.length < 2 ^ 32 →
          (xs.drop 3).take 3 = mixedCuts.foldl Operator.cut xs := by
  have hops : ∀ op ∈ uncutQuery, op.isCut = false := by simp [uncutQuery, Operator.isCut]
  have hcuts : ∀ op ∈ mixedCuts, op.isCut = true := by simp [mixedCuts, Operator.isCut]
  obtain ⟨limit, skip, hdraft, htranslate, -, hpart⟩ := translate_append_cuts [] 2 hops hcuts
  have hd := Except.ok.inj hdraft
  obtain rfl : some 3 = limit := congrArg Draft.limit hd
  obtain rfl : some 3 = skip := congrArg Draft.skip hd
  exact ⟨hops, hcuts, _, htranslate, rfl, rfl, fun xs hxs => (hpart xs hxs).1⟩

/-- A sum of skips that does not fit into a word leaves nothing, as the skips do one after the other. -/
example : Draft.ofOperators [.skip 1, .skip 0xFFFFFFFF] = .ok { skip := some 0xFFFFFFFF } := rfl

end JiraQuery
