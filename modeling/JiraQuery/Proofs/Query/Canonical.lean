import JiraQuery.Proofs.Query.Cutting

/-!
# The canonical form of a query

The order in which the operators of a query stand matters little: conditions may come before the
orderings, of which only the last primary one and what refines it count, and the result is cut at the
end. A query that goes on after its result is cut, or that refines an ordering which it does not have, is
refused. Main statement: `translate_canonical`.
-/

namespace JiraQuery

namespace Operator

def isFilter : Operator → Bool
  | filter _ => true
  | _ => false

def isOrderBy : Operator → Bool
  | orderBy _ _ => true
  | _ => false

def isThenBy : Operator → Bool
  | thenBy _ _ => true
  | _ => false

/-- The ordering that an operator asks for. -/
def ordering? : Operator → Option (Field × Direction)
  | orderBy f dir | thenBy f dir => some (f, dir)
  | _ => none

end Operator

/-- The last primary ordering of a query and those that refine it. -/
def lastOrdering : List Operator → List Operator
  | [] => []
  | op :: ops =>
    if op.isOrderBy && !ops.any Operator.isOrderBy then op :: ops.filter Operator.isThenBy
    else lastOrdering ops

/-- The conditions of a query, and then its last ordering. -/
def canonical (ops : List Operator) : List Operator :=
  ops.filter Operator.isFilter ++ lastOrdering ops

/-- Whether an ordering is refined before there is a primary one. -/
def refinesNothing (ops : List Operator) : Bool :=
  (ops.takeWhile (!·.isOrderBy)).any Operator.isThenBy

/-- Whether anything but a cut follows a cut. -/
def resumes (ops : List Operator) : Bool :=
  (ops.dropWhile (!·.isCut)).any (!·.isCut)

/-! ## Orderings -/

/-- The orderings of a draft after an operator. -/
def reordered (os : List (Field × Direction)) : Operator → List (Field × Direction)
  | .orderBy f dir => [(f, dir)]
  | .thenBy f dir => os ++ [(f, dir)]
  | _ => os

variable {ops : List Operator}

/-- Without a primary ordering the others are appended. -/
theorem foldl_reordered (os : List (Field × Direction)) (h : ∀ op ∈ ops, op.isOrderBy = false) :
    ops.foldl reordered os = os ++ (ops.filter Operator.isThenBy).filterMap Operator.ordering? := by
  induction ops generalizing os with
  | nil => simp
  | cons op ops ih =>
    obtain ⟨hop, hops⟩ := List.forall_mem_cons.1 h
    rw [List.foldl_cons, ih _ hops]
    cases op with
    | orderBy => cases hop
    | thenBy f dir =>
      show os ++ [(f, dir)] ++ _ = os ++ ((f, dir) :: _)
      rw [List.append_assoc, List.singleton_append]
    | filter | take | skip => rfl

/-- A query has no primary ordering, or it has a last one. -/
theorem lastOrdering_cases (ops : List Operator) :
    (lastOrdering ops = [] ∧ ∀ op ∈ ops, op.isOrderBy = false) ∨
      ∃ before f dir after, ops = before ++ .orderBy f dir :: after ∧
        (∀ op ∈ after, op.isOrderBy = false) ∧
        lastOrdering ops = .orderBy f dir :: after.filter Operator.isThenBy := by
  induction ops with
  | nil => exact .inl ⟨rfl, by simp⟩
  | cons op ops ih =>
    rcases ih with ⟨hlast, hnone⟩ | ⟨before, f, dir, after, rfl, hafter, hlast⟩
    · have hany : ops.any Operator.isOrderBy = false := by simpa using hnone
      cases op with
      | orderBy f dir =>
        exact .inr ⟨[], f, dir, ops, rfl, hnone, by simp [lastOrdering, Operator.isOrderBy, hany]⟩
      | filter | thenBy | take | skip =>
        exact .inl ⟨hlast, List.forall_mem_cons.2 ⟨rfl, hnone⟩⟩
    · refine .inr ⟨op :: before, f, dir, after, rfl, hafter, ?_⟩
      rw [← hlast, lastOrdering]
      simp [Operator.isOrderBy]

/-- A query that refines no missing ordering and has no primary one has none at all. -/
theorem filter_isThenBy_eq_nil (h : ∀ op ∈ ops, op.isOrderBy = false)
    (hrefines : refinesNothing ops = false) : ops.filter Operator.isThenBy = [] := by
  have htake : ops.takeWhile (!·.isOrderBy) = ops :=
    List.takeWhile_eq_self_iff.2 fun op hop => by simp [h op hop]
  rw [refinesNothing, htake] at hrefines
  simpa using hrefines

theorem foldl_reordered_filter (ops : List Operator) (os : List (Field × Direction)) :
    (ops.filter Operator.isFilter).foldl reordered os = os := by
  induction ops with
  | nil => rfl
  | cons op ops ih => cases op <;> exact ih

/-- The canonical form leaves a draft with the same orderings. -/
theorem foldl_reordered_canonical (hrefines : refinesNothing ops = false) :
    (canonical ops).foldl reordered [] = ops.foldl reordered [] := by
  rw [canonical, List.foldl_append, foldl_reordered_filter]
  rcases lastOrdering_cases ops with ⟨hlast, hnone⟩ | ⟨before, f, dir, after, rfl, hafter, hlast⟩
  · rw [hlast, foldl_reordered [] hnone, filter_isThenBy_eq_nil hnone hrefines]
    rfl
  · have hthens : ∀ op ∈ after.filter Operator.isThenBy, op.isOrderBy = false :=
      fun op hop => hafter op (List.mem_of_mem_filter hop)
    rw [hlast, List.foldl_append, List.foldl_cons, List.foldl_cons, foldl_reordered _ hthens,
      foldl_reordered _ hafter, List.filter_filter]
    simp [reordered]

/-! ## Conditions -/

theorem conditions_filter (ops : List Operator) :
    conditions (ops.filter Operator.isFilter) = conditions ops := by
  induction ops with
  | nil => rfl
  | cons op ops ih =>
    cases op with
    | filter e => exact congrArg (e :: ·) ih
    | orderBy | thenBy | take | skip => exact ih

theorem conditions_eq_nil (h : ∀ op ∈ ops, op.isFilter = false) : conditions ops = [] := by
  refine List.filterMap_eq_nil_iff.2 fun op hop => ?_
  have hnot := h op hop
  cases op with
  | filter => cases hnot
  | orderBy | thenBy | take | skip => rfl

/-! ## Members of the canonical form -/

theorem isOrdering_of_mem_lastOrdering {op : Operator} (h : op ∈ lastOrdering ops) :
    op.isOrderBy ∨ op.isThenBy := by
  rcases lastOrdering_cases ops with ⟨hlast, -⟩ | ⟨before, f, dir, after, -, -, hlast⟩
  · simp [hlast] at h
  · rw [hlast] at h
    rcases List.mem_cons.1 h with rfl | h
    · exact .inl rfl
    · exact .inr (List.mem_filter.1 h).2

theorem isCut_of_mem_canonical {op : Operator} (h : op ∈ canonical ops) : op.isCut = false := by
  rcases List.mem_append.1 h with h | h
  · have hfilter := (List.mem_filter.1 h).2
    cases op with
    | filter => rfl
    | orderBy | thenBy | take | skip => cases hfilter
  · have hordering := isOrdering_of_mem_lastOrdering h
    cases op with
    | orderBy | thenBy => rfl
    | filter | take | skip => simp [Operator.isOrderBy, Operator.isThenBy] at hordering

theorem conditions_canonical (ops : List Operator) : conditions (canonical ops) = conditions ops := by
  have hnone : conditions (lastOrdering ops) = [] := by
    refine conditions_eq_nil fun op hop => ?_
    have hordering := isOrdering_of_mem_lastOrdering hop
    cases op with
    | filter => simp [Operator.isOrderBy, Operator.isThenBy] at hordering
    | orderBy | thenBy | take | skip => rfl
  rw [canonical, conditions_append, conditions_filter, hnone, List.append_nil]

theorem refinesNothing_canonical (ops : List Operator) : refinesNothing (canonical ops) = false := by
  have hfilters : ∀ op ∈ ops.filter Operator.isFilter, (!op.isOrderBy) = true ∧ op.isThenBy = false := by
    intro op hop
    have hfilter := (List.mem_filter.1 hop).2
    cases op with
    | filter => exact ⟨rfl, rfl⟩
    | orderBy | thenBy | take | skip => cases hfilter
  have hlast : (lastOrdering ops).takeWhile (!·.isOrderBy) = [] := by
    rcases lastOrdering_cases ops with ⟨hlast, -⟩ | ⟨before, f, dir, after, -, -, hlast⟩
    · rw [hlast, List.takeWhile_nil]
    · rw [hlast]
      rfl
  rw [refinesNothing, canonical, List.takeWhile_append_of_pos fun op hop => (hfilters op hop).1, hlast,
    List.append_nil]
  exact List.any_eq_false.2 fun op hop => by simp [(hfilters op hop).2]

/-! ## Drafts -/

namespace Draft

variable {d d' : Draft} {op : Operator}

/-- An operator that is in its place does what it is for. -/
theorem step_of_unpaged (hd : d.paged = false) (hop : op.isCut = false)
    (hthen : op.isThenBy → d.orderings ≠ []) :
    d.step op = .ok { d with
      conjuncts := d.conjuncts ++ op.condition?.toList.flatMap Expr.conjuncts
      orderings := reordered d.orderings op } := by
  cases op with
  | filter e => simp [step, unpaged, hd, Operator.condition?, reordered]
  | orderBy f dir => simp [step, unpaged, hd, Operator.condition?, reordered]
  | thenBy f dir => simp [step, unpaged, hd, Operator.condition?, reordered, hthen rfl]
  | take | skip => cases hop

/-- A query that cuts nothing and refines no missing ordering is drafted. -/
theorem foldlM_of_unpaged (hd : d.paged = false) (hops : ∀ op ∈ ops, op.isCut = false)
    (hrefines : d.orderings ≠ [] ∨ refinesNothing ops = false) :
    ops.foldlM step d = .ok { d with
      conjuncts := d.conjuncts ++ (conditions ops).flatMap Expr.conjuncts
      orderings := ops.foldl reordered d.orderings } := by
  induction ops generalizing d with
  | nil => simp [conditions]; rfl
  | cons op ops ih =>
    obtain ⟨hop, hops⟩ := List.forall_mem_cons.1 hops
    have hthen : op.isThenBy → d.orderings ≠ [] := by
      intro hthen
      cases op with
      | thenBy f dir =>
        have hrefined : refinesNothing (.thenBy f dir :: ops) = true := rfl
        exact hrefines.resolve_right (by simp [hrefined])
      | filter | orderBy | take | skip => cases hthen
    have hnext : reordered d.orderings op ≠ [] ∨ refinesNothing ops = false := by
      cases op with
      | filter e => exact hrefines
      | orderBy f dir => exact .inl (List.cons_ne_nil _ _)
      | thenBy f dir => exact .inl (by simp [reordered])
      | take | skip => cases hop
    rw [List.foldlM_cons, step_of_unpaged hd hop hthen]
    have hrest := ih (d := { d with
      conjuncts := d.conjuncts ++ op.condition?.toList.flatMap Expr.conjuncts
      orderings := reordered d.orderings op }) hd hops hnext
    refine hrest.trans ?_
    rw [conditions_cons, List.flatMap_append, List.append_assoc, List.foldl_cons]

theorem ofOperators_of_unpaged (hops : ∀ op ∈ ops, op.isCut = false)
    (hrefines : refinesNothing ops = false) :
    ofOperators ops = .ok
      { conjuncts := (conditions ops).flatMap Expr.conjuncts, orderings := ops.foldl reordered [] } :=
  foldlM_of_unpaged rfl hops (.inr hrefines)

/-! ## Operators out of place -/

theorem paged_of_isCut (hop : op.isCut) (h : d.step op = .ok d') : d'.paged := by
  cases op with
  | take n =>
    obtain rfl := Except.ok.inj h
    rfl
  | skip n =>
    obtain rfl := Except.ok.inj h
    simp [paged]
  | filter | orderBy | thenBy => cases hop

/-- Once the result is cut, it can only be cut further. -/
theorem isCut_of_paged (hd : d.paged) (h : ops.foldlM step d = .ok d') : ∀ op ∈ ops, op.isCut := by
  induction ops generalizing d with
  | nil => simp
  | cons op ops ih =>
    obtain ⟨e, hstep, h⟩ := foldlM_cons_eq_ok_iff.1 h
    have hop : op.isCut := by
      rcases step_cases hstep with
        ⟨_, -, hnot, -⟩ | ⟨_, _, -, hnot, -⟩ | ⟨_, _, -, hnot, -⟩ | ⟨hcut, -⟩
      · simp [hd] at hnot
      · simp [hd] at hnot
      · simp [hd] at hnot
      · exact hcut
    exact List.forall_mem_cons.2 ⟨hop, ih (paged_of_isCut hop hstep) h⟩

theorem resumes_of_foldlM (h : ops.foldlM step d = .ok d') : resumes ops = false := by
  induction ops generalizing d with
  | nil => rfl
  | cons op ops ih =>
    obtain ⟨e, hstep, h⟩ := foldlM_cons_eq_ok_iff.1 h
    cases hop : op.isCut with
    | false =>
      rw [resumes, List.dropWhile_cons_of_pos (by simp [hop])]
      exact ih h
    | true =>
      have hrest := isCut_of_paged (paged_of_isCut hop hstep) h
      rw [resumes, List.dropWhile_cons_of_neg (by simp [hop])]
      simpa [hop] using hrest

theorem refinesNothing_of_foldlM (hd : d.orderings = []) (h : ops.foldlM step d = .ok d') :
    refinesNothing ops = false := by
  induction ops generalizing d with
  | nil => rfl
  | cons op ops ih =>
    obtain ⟨e, hstep, h⟩ := foldlM_cons_eq_ok_iff.1 h
    rcases step_cases hstep with
      ⟨e, rfl, -, rfl⟩ | ⟨f, dir, rfl, -, rfl⟩ | ⟨f, dir, rfl, -, hne, rfl⟩ | ⟨hcut, limit, skip, rfl⟩
    · exact ih (by exact hd) h
    · rfl
    · exact absurd hd hne
    · have hrest : refinesNothing ops = false := ih (by exact hd) h
      cases op with
      | take | skip => exact hrest
      | filter | orderBy | thenBy => cases hcut

end Draft

/-! ## Queries -/

/-- A translated query without its cuts. -/
def Translation.uncut (t : Translation) : Translation :=
  { t with limit := none, skip := none }

theorem translate_uncut (catalog : Catalog) (serverMax : UInt32) (ops : List Operator)
    {cuts : List Operator} (hcuts : ∀ op ∈ cuts, op.isCut) :
    (translate catalog serverMax (ops ++ cuts)).map Translation.uncut =
      (translate catalog serverMax ops).map Translation.uncut := by
  unfold translate
  rw [Draft.ofOperators_append]
  cases Draft.ofOperators ops with
  | error e => rfl
  | ok d =>
    obtain ⟨limit, skip, hrun⟩ := d.foldlM_of_isCut hcuts
    show ((cuts.foldlM Draft.step d >>= _).map _ : Except _ _) = (Translation.ofDraft _ _ d).map _
    rw [hrun]
    show ((Translation.ofDraft _ _ { d with limit, skip }).map _ : Except _ _) = _
    rw [Translation.ofDraft_cut]
    cases Translation.ofDraft catalog serverMax d <;> rfl

/-- A query that cuts nothing and refines no missing ordering is translated, or refused, as its canonical
form is. To cut the result of any query changes nothing but its cuts. A query that does anything but cut
after a cut, or that refines an ordering before it has one, is refused. -/
theorem translate_canonical (catalog : Catalog) (serverMax : UInt32) (ops : List Operator) :
    ((∀ op ∈ ops, op.isCut = false) → refinesNothing ops = false →
      translate catalog serverMax ops = translate catalog serverMax (canonical ops)) ∧
    (∀ cuts : List Operator, (∀ op ∈ cuts, op.isCut) →
      (translate catalog serverMax (ops ++ cuts)).map Translation.uncut =
        (translate catalog serverMax ops).map Translation.uncut) ∧
    (resumes ops ∨ refinesNothing ops →
      ∃ error, translate catalog serverMax ops = .error error) := by
  refine ⟨fun hops hrefines => ?_, fun cuts => translate_uncut catalog serverMax ops, fun hout => ?_⟩
  · have hcanonical := Draft.ofOperators_of_unpaged (fun op hop => isCut_of_mem_canonical hop)
      (refinesNothing_canonical ops)
    rw [conditions_canonical, foldl_reordered_canonical hrefines,
      ← Draft.ofOperators_of_unpaged hops hrefines] at hcanonical
    unfold translate
    rw [hcanonical]
  · cases h : translate catalog serverMax ops with
    | error error => exact ⟨error, rfl⟩
    | ok t =>
      obtain ⟨d, hd, -⟩ := bind_eq_ok_iff.1 h
      simp [Draft.resumes_of_foldlM hd, Draft.refinesNothing_of_foldlM rfl hd] at hout

/-- Conditions among orderings, the first of which is given up; no field has its name. -/
def scrambledQuery : List Operator := [
  .orderBy (.custom "Nope") .ascending, .filter (.eq (.system .project) (.text "A")),
  .thenBy (.system .key) .ascending, .orderBy (.system .priority) .descending,
  .filter (.client ⟨0, fun i => i.key != "A-1"⟩), .thenBy (.system .created) .ascending]

theorem translate_canonical_scrambled :
    (∀ op ∈ scrambledQuery, op.isCut = false) ∧ refinesNothing scrambledQuery = false ∧
      canonical scrambledQuery = [
        .filter (.eq (.system .project) (.text "A")), .filter (.client ⟨0, fun i => i.key != "A-1"⟩),
        .orderBy (.system .priority) .descending, .thenBy (.system .created) .ascending] ∧
      (∃ t, translate [] 100 (canonical scrambledQuery) = .ok t ∧
        translate [] 100 scrambledQuery = .ok t ∧
        t.jql = "project = \"A\" ORDER BY priority DESC, created ASC") ∧
      (∀ op ∈ mixedCuts, op.isCut) ∧
      (translate [] 100 (scrambledQuery ++ mixedCuts)).map Translation.uncut =
        (translate [] 100 scrambledQuery).map Translation.uncut ∧
      resumes (mixedCuts ++ scrambledQuery) ∧
      ∃ error, translate [] 100 (mixedCuts ++ scrambledQuery) = .error error := by
  have hops : ∀ op ∈ scrambledQuery, op.isCut = false := by simp [scrambledQuery, Operator.isCut]
  have hcuts : ∀ op ∈ mixedCuts, op.isCut := by simp [mixedCuts, Operator.isCut]
  obtain ⟨hcanonical, huncut, -⟩ := translate_canonical [] 100 scrambledQuery
  obtain ⟨-, -, hfails⟩ := translate_canonical [] 100 (mixedCuts ++ scrambledQuery)
  exact ⟨hops, rfl, rfl, ⟨_, rfl, hcanonical hops rfl, by decide⟩, hcuts, huncut mixedCuts hcuts, rfl,
    hfails (.inl rfl)⟩

end JiraQuery
