import JiraQuery.Proofs.Outcome
import JiraQuery.Query.Translation
import Mathlib

/-!
# What the operators of a query come to

The conditions of all filters are taken apart into conjuncts. Those that the server evaluates are
written as one conjunction, the others are left to the client. Main statements: `predicate_of_translate`
and `residual_of_translate`, what the server and the client are left with.
-/

namespace JiraQuery

/-! ## Conditions -/

/-- The condition of a filter. -/
def Operator.condition? : Operator → Option Expr
  | filter e => some e
  | _ => none

/-- Whether an operator cuts the result. -/
def Operator.isCut : Operator → Bool
  | take _ | skip _ => true
  | _ => false

theorem Operator.condition?_of_isCut {op : Operator} (h : op.isCut) : op.condition? = none := by
  cases op with
  | filter => cases h
  | orderBy | thenBy | take | skip => rfl

/-- The conditions of a query, in order. -/
def conditions (ops : List Operator) : List Expr :=
  ops.filterMap Operator.condition?

theorem conditions_cons (op : Operator) (ops : List Operator) :
    conditions (op :: ops) = op.condition?.toList ++ conditions ops := by
  unfold conditions
  cases hop : op.condition? <;> simp [hop]

theorem conditions_append (ops ops' : List Operator) :
    conditions (ops ++ ops') = conditions ops ++ conditions ops' :=
  List.filterMap_append

theorem mem_conditions {ops : List Operator} {e : Expr} :
    e ∈ conditions ops ↔ .filter e ∈ ops := by
  unfold conditions
  rw [List.mem_filterMap]
  constructor
  · rintro ⟨op, hop, he⟩
    cases op with
    | filter e' =>
      obtain rfl := Option.some.inj he
      exact hop
    | _ => cases he
  · intro he
    exact ⟨.filter e, he, rfl⟩

/-- Whether the server is asked to evaluate a conjunct, or to refuse it. -/
def Expr.isRemote : Expr → Bool
  | client _ => false
  | _ => true

/-- The conjuncts that the server is asked to evaluate, in order. -/
def remoteParts (ops : List Operator) : List Expr :=
  ((conditions ops).flatMap Expr.conjuncts).filter Expr.isRemote

/-- The filter of a conjunct that is left to the client. -/
def Expr.clientFilter? : Expr → Option ClientFilter
  | client f => some f
  | _ => none

namespace Draft

variable {d d' : Draft}

theorem remote_eq : d.remote = d.conjuncts.filter Expr.isRemote := rfl

theorem residual_eq : d.residual = d.conjuncts.filterMap Expr.clientFilter? := rfl

theorem unpaged_eq_ok_iff {operator : String} : d.unpaged operator = .ok () ↔ d.paged = false := by
  unfold unpaged
  cases d.paged <;> simp

/-- All that an operator can do to a draft: only what cuts the result is possible once it is cut. -/
theorem step_cases {op : Operator} (h : d.step op = .ok d') :
    (∃ e, op = .filter e ∧ d.paged = false ∧
      d' = { d with conjuncts := d.conjuncts ++ e.conjuncts }) ∨
    (∃ f dir, op = .orderBy f dir ∧ d.paged = false ∧ d' = { d with orderings := [(f, dir)] }) ∨
    (∃ f dir, op = .thenBy f dir ∧ d.paged = false ∧ d.orderings ≠ [] ∧
      d' = { d with orderings := d.orderings ++ [(f, dir)] }) ∨
    (op.isCut ∧ ∃ limit skip, d' = { d with limit, skip }) := by
  cases op with
  | filter e =>
    obtain ⟨⟨⟩, hpaged, h⟩ := bind_eq_ok_iff.1 h
    exact .inl ⟨e, rfl, unpaged_eq_ok_iff.1 hpaged, (Except.ok.inj h).symm⟩
  | orderBy f dir =>
    obtain ⟨⟨⟩, hpaged, h⟩ := bind_eq_ok_iff.1 h
    exact .inr (.inl ⟨f, dir, rfl, unpaged_eq_ok_iff.1 hpaged, (Except.ok.inj h).symm⟩)
  | thenBy f dir =>
    obtain ⟨⟨⟩, hpaged, h⟩ := bind_eq_ok_iff.1 h
    dsimp only at h
    split at h
    · cases h
    · next hne =>
      refine .inr (.inr (.inl ⟨f, dir, rfl, unpaged_eq_ok_iff.1 hpaged, ?_, (Except.ok.inj h).symm⟩))
      simpa using hne
  | take n | skip n => exact .inr (.inr (.inr ⟨rfl, _, _, (Except.ok.inj h).symm⟩))

theorem conjuncts_of_step {op : Operator} (h : d.step op = .ok d') :
    d'.conjuncts = d.conjuncts ++ op.condition?.toList.flatMap Expr.conjuncts := by
  rcases step_cases h with
    ⟨e, rfl, -, rfl⟩ | ⟨f, dir, rfl, -, rfl⟩ | ⟨f, dir, rfl, -, -, rfl⟩ | ⟨hcut, limit, skip, rfl⟩
  · simp [Operator.condition?]
  · simp [Operator.condition?]
  · simp [Operator.condition?]
  · simp [Operator.condition?_of_isCut hcut]

theorem conjuncts_of_foldlM {ops : List Operator} (h : ops.foldlM step d = .ok d') :
    d'.conjuncts = d.conjuncts ++ (conditions ops).flatMap Expr.conjuncts := by
  induction ops generalizing d with
  | nil =>
    obtain rfl := Except.ok.inj h
    simp [conditions]
  | cons op ops ih =>
    obtain ⟨e, hstep, h⟩ := foldlM_cons_eq_ok_iff.1 h
    rw [ih h, conjuncts_of_step hstep, conditions_cons, List.flatMap_append, List.append_assoc]

theorem conjuncts_ofOperators {ops : List Operator} (h : ofOperators ops = .ok d) :
    d.conjuncts = (conditions ops).flatMap Expr.conjuncts :=
  conjuncts_of_foldlM h

/-- The fields of the orderings come from the operators. -/
theorem orderings_of_step {P : Field → Prop} {op : Operator} (h : d.step op = .ok d')
    (hop : ∀ f ∈ op.fields, P f) (hd : ∀ o ∈ d.orderings, P o.1) : ∀ o ∈ d'.orderings, P o.1 := by
  rcases step_cases h with
    ⟨e, rfl, -, rfl⟩ | ⟨f, dir, rfl, -, rfl⟩ | ⟨f, dir, rfl, -, -, rfl⟩ | ⟨-, limit, skip, rfl⟩
  · exact hd
  · exact List.forall_mem_singleton.2 (hop f (List.mem_singleton_self f))
  · exact List.forall_mem_append.2
      ⟨hd, List.forall_mem_singleton.2 (hop f (List.mem_singleton_self f))⟩
  · exact hd

theorem orderings_of_foldlM {P : Field → Prop} {ops : List Operator}
    (h : ops.foldlM step d = .ok d') (hops : ∀ op ∈ ops, ∀ f ∈ op.fields, P f)
    (hd : ∀ o ∈ d.orderings, P o.1) : ∀ o ∈ d'.orderings, P o.1 := by
  induction ops generalizing d with
  | nil =>
    obtain rfl := Except.ok.inj h
    exact hd
  | cons op ops ih =>
    obtain ⟨hop, hops⟩ := List.forall_mem_cons.1 hops
    obtain ⟨e, hstep, h⟩ := foldlM_cons_eq_ok_iff.1 h
    exact ih h hops (orderings_of_step hstep hop hd)

end Draft

/-! ## Conjunctions -/

/-- The conjunction of conditions, if there are any. -/
def Expr.conjunction? : List Expr → Option Expr
  | [] => none
  | e :: es => some (es.foldl .and e)

/-- Two texts of a chain are one text of it. -/
theorem joined_merge (sep a b : String) (ts : List String) :
    Text.joined sep ((a ++ sep ++ b) :: ts) = Text.joined sep (a :: b :: ts) := by
  cases ts with
  | nil => rfl
  | cons t ts => simp only [Text.joined_cons_cons, String.append_assoc]

/-- A chain is written without parentheses in the text of its conjunction. -/
theorem Expr.render_foldl (catalog : Catalog) (e : Expr) (es : List Expr) :
    (es.foldl .and e).render catalog .conjunction =
      Text.joined " AND " <$> (e :: es).mapM (·.render catalog .conjunction) := by
  induction es generalizing e with
  | nil => simp
  | cons e' es ih =>
    rw [List.foldl_cons, ih]
    simp only [List.mapM_cons, render, Surrounding.enclose, or_true, if_true, map_eq_pure_bind,
      bind_assoc, pure_bind, joined_merge]

theorem Expr.exists_foldl_eq_and (l r : Expr) (es : List Expr) :
    ∃ l' r', es.foldl Expr.and (.and l r) = .and l' r' := by
  induction es generalizing l r with
  | nil => exact ⟨l, r, rfl⟩
  | cons e es ih => exact ih (.and l r) e

/-- The predicate of several conditions is the text of their conjunction. -/
theorem Translation.renderConjuncts_eq (catalog : Catalog) (es : List Expr) :
    renderConjuncts catalog es = (Expr.conjunction? es).elim (.ok "") (·.predicate catalog) := by
  match es with
  | [] => rfl
  | [e] => rfl
  | e :: e' :: es =>
    obtain ⟨l, r, hand⟩ := Expr.exists_foldl_eq_and e e' es
    have hrender := Expr.render_foldl catalog e (e' :: es)
    -- a conjunction by itself is written as it is within another one
    have hplain : (Expr.and l r).predicate catalog = (Expr.and l r).render catalog .conjunction := by
      simp only [Expr.predicate, Expr.render, Surrounding.enclose, true_or, or_true, if_true]
    rw [List.foldl_cons, hand] at hrender
    rw [Expr.conjunction?, Option.elim_some, List.foldl_cons, hand, hplain, hrender]
    rfl

/-! ## Translated queries -/

section
variable {catalog : Catalog} {serverMax : UInt32} {ops : List Operator} {t : Translation}

theorem exists_draft_of_translate (h : translate catalog serverMax ops = .ok t) :
    ∃ d : Draft, d.conjuncts = (conditions ops).flatMap Expr.conjuncts ∧
      Translation.ofDraft catalog serverMax d = .ok t := by
  obtain ⟨d, hd, h⟩ := bind_eq_ok_iff.1 h
  exact ⟨d, Draft.conjuncts_ofOperators hd, h⟩

/-- The predicate of a query is the text of the conjunction of its remote parts. -/
theorem predicate_of_translate (h : translate catalog serverMax ops = .ok t) :
    (Expr.conjunction? (remoteParts ops)).elim (.ok "") (·.predicate catalog) =
      .ok t.predicate := by
  obtain ⟨d, hd, h⟩ := exists_draft_of_translate h
  obtain ⟨predicate, hpredicate, h⟩ := bind_eq_ok_iff.1 h
  obtain ⟨orderings, -, h⟩ := bind_eq_ok_iff.1 h
  obtain rfl := Except.ok.inj h
  rw [Draft.remote_eq, hd, Translation.renderConjuncts_eq] at hpredicate
  exact hpredicate

theorem residual_of_translate (h : translate catalog serverMax ops = .ok t) :
    t.residual = ((conditions ops).flatMap Expr.conjuncts).filterMap Expr.clientFilter? := by
  obtain ⟨d, hd, h⟩ := exists_draft_of_translate h
  obtain ⟨predicate, -, h⟩ := bind_eq_ok_iff.1 h
  obtain ⟨orderings, -, h⟩ := bind_eq_ok_iff.1 h
  obtain rfl := Except.ok.inj h
  rw [← hd]
  exact Draft.residual_eq

end

end JiraQuery
