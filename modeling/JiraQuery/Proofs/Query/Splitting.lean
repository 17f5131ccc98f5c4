import JiraQuery.Proofs.Query.Drafting

/-!
# Splitting conditions between server and client

What a query asks for holds of an issue exactly if the remote parts hold by the server's account and all
residual filters let the issue pass. Filters of the client can only be kept back from the top level of
a condition; beneath an alternative or a negation there is no text for them and the query is refused.
Main statement: `translate_splits`.
-/

namespace JiraQuery

/-- What the server makes of each clause. -/
structure Valuation where
  comparison : Comparison → Bool
  call : MethodCall → Bool

namespace Expr

/-- Whether a condition holds of an issue. -/
def holds (v : Valuation) (i : Issue) : Expr → Bool
  | compare x => v.comparison x
  | call x => v.call x
  | and l r => l.holds v i && r.holds v i
  | or l r => l.holds v i || r.holds v i
  | not e => !e.holds v i
  | client f => f.matches? i

/-- The filters of the client anywhere in a condition, from left to right. -/
def clientFilters : Expr → List ClientFilter
  | and l r => l.clientFilters ++ r.clientFilters
  | or l r => l.clientFilters ++ r.clientFilters
  | not e => e.clientFilters
  | client f => [f]
  | _ => []

/-- Whether a filter of the client stands anywhere beneath an alternative or a negation. -/
def hidesFilter : Expr → Bool
  | and l r => l.hidesFilter || r.hidesFilter
  | or l r => !(l.clientFilters.isEmpty && r.clientFilters.isEmpty)
  | not e => !e.clientFilters.isEmpty
  | _ => false

/-! ## Conjuncts -/

theorem all_holds_conjuncts (v : Valuation) (i : Issue) (e : Expr) :
    e.conjuncts.all (·.holds v i) = e.holds v i := by
  induction e with
  | and l r ihl ihr => rw [conjuncts, List.all_append, ihl, ihr, holds]
  | _ => simp [conjuncts, holds]

theorem flatMap_clientFilters_conjuncts (e : Expr) :
    e.conjuncts.flatMap clientFilters = e.clientFilters := by
  induction e with
  | and l r ihl ihr => rw [conjuncts, List.flatMap_append, ihl, ihr, clientFilters]
  | _ => simp [conjuncts, clientFilters]

/-- A filter that is hidden in a condition is hidden in one of its remote parts. -/
theorem exists_conjunct_of_hidesFilter {e : Expr} (h : e.hidesFilter) :
    ∃ c ∈ e.conjuncts, c.isRemote ∧ c.clientFilters ≠ [] := by
  induction e with
  | and l r ihl ihr =>
    rcases Bool.or_eq_true_iff.1 h with h | h
    · obtain ⟨c, hc, hremote⟩ := ihl h
      exact ⟨c, List.mem_append_left _ hc, hremote⟩
    · obtain ⟨c, hc, hremote⟩ := ihr h
      exact ⟨c, List.mem_append_right _ hc, hremote⟩
  | or l r =>
    refine ⟨.or l r, List.mem_singleton_self _, rfl, fun hnone => ?_⟩
    obtain ⟨hl, hr⟩ := List.append_eq_nil_iff.1 hnone
    simp [hidesFilter, hl, hr] at h
  | not e =>
    refine ⟨.not e, List.mem_singleton_self _, rfl, fun hnone => ?_⟩
    have hnone : e.clientFilters = [] := hnone
    simp [hidesFilter, hnone] at h
  | compare | call | client => simp [hidesFilter] at h

/-! ## Texts -/

/-- A condition that has a text leaves nothing to the client. -/
theorem clientFilters_of_render {catalog : Catalog} {e : Expr} {s : Surrounding} {text : String}
    (h : e.render catalog s = .ok text) : e.clientFilters = [] := by
  induction e generalizing s text with
  | compare | call => rfl
  | and l r ihl ihr | or l r ihl ihr =>
    obtain ⟨a, ha, h⟩ := bind_eq_ok_iff.1 h
    obtain ⟨b, hb, -⟩ := bind_eq_ok_iff.1 h
    rw [clientFilters, ihl ha, ihr hb, List.append_nil]
  | not e ih =>
    obtain ⟨a, ha, -⟩ := bind_eq_ok_iff.1 h
    exact ih ha
  | client f => cases h

theorem clientFilters_foldl (e : Expr) (es : List Expr) :
    (es.foldl .and e).clientFilters = (e :: es).flatMap clientFilters := by
  induction es generalizing e with
  | nil => simp
  | cons e' es ih =>
    rw [List.foldl_cons, ih]
    simp only [List.flatMap_cons, clientFilters, List.append_assoc]

theorem clientFilters_of_conjunction? {catalog : Catalog} {es : List Expr} {text : String}
    (h : (conjunction? es).elim (.ok "") (·.predicate catalog) = .ok text) :
    es.flatMap clientFilters = [] := by
  cases es with
  | nil => rfl
  | cons e es =>
    rw [← clientFilters_foldl]
    exact clientFilters_of_render h

end Expr

/-! ## Queries -/

/-- A conjunct is evaluated by the server or is a filter of the client. -/
theorem Expr.remote_or_client (c : Expr) :
    (c.isRemote = true ∧ c.clientFilter? = none) ∨
      ∃ f, c = client f ∧ c.isRemote = false ∧ c.clientFilter? = some f := by
  cases c with
  | client f => exact .inr ⟨f, rfl, rfl, rfl⟩
  | _ => exact .inl ⟨rfl, rfl⟩

/-- Conjuncts that are kept back hold if their filters match. -/
theorem all_hold_iff_remote (v : Valuation) (i : Issue) (cs : List Expr) :
    (∀ c ∈ cs, c.holds v i) ↔
      (∀ c ∈ cs.filter Expr.isRemote, c.holds v i) ∧
        ∀ f ∈ cs.filterMap Expr.clientFilter?, f.matches? i := by
  induction cs with
  | nil => simp
  | cons c cs ih =>
    rcases c.remote_or_client with ⟨hremote, hnone⟩ | ⟨f, rfl, hlocal, hsome⟩
    · rw [List.filter_cons_of_pos hremote, List.filterMap_cons_none hnone, List.forall_mem_cons,
        List.forall_mem_cons, ih, and_assoc]
    · rw [List.filter_cons_of_neg (Bool.not_eq_true _ ▸ hlocal), List.filterMap_cons_some hsome,
        List.forall_mem_cons, List.forall_mem_cons, ih]
      exact and_left_comm

/-- The filters that are kept back are all that there are if the remote parts have none. -/
theorem filterMap_clientFilter? {cs : List Expr}
    (h : (cs.filter Expr.isRemote).flatMap Expr.clientFilters = []) :
    cs.filterMap Expr.clientFilter? = cs.flatMap Expr.clientFilters := by
  induction cs with
  | nil => rfl
  | cons c cs ih =>
    rcases c.remote_or_client with ⟨hremote, hnone⟩ | ⟨f, rfl, hlocal, hsome⟩
    · rw [List.filter_cons_of_pos hremote, List.flatMap_cons] at h
      obtain ⟨hc, hcs⟩ := List.append_eq_nil_iff.1 h
      rw [List.filterMap_cons_none hnone, List.flatMap_cons, hc, ih hcs, List.nil_append]
    · rw [List.filter_cons_of_neg (Bool.not_eq_true _ ▸ hlocal)] at h
      rw [List.filterMap_cons_some hsome, List.flatMap_cons, ih h]
      rfl

theorem flatMap_clientFilters_conditions (es : List Expr) :
    (es.flatMap Expr.conjuncts).flatMap Expr.clientFilters = es.flatMap Expr.clientFilters := by
  rw [List.flatMap_assoc]
  exact congrArg (es.flatMap ·) (funext Expr.flatMap_clientFilters_conjuncts)

theorem clientFilters_remoteParts {catalog : Catalog} {serverMax : UInt32} {ops : List Operator}
    {t : Translation} (h : translate catalog serverMax ops = .ok t) :
    (remoteParts ops).flatMap Expr.clientFilters = [] :=
  Expr.clientFilters_of_conjunction? (predicate_of_translate h)

theorem conditions_hold_iff (v : Valuation) (i : Issue) (ops : List Operator) :
    (∀ e ∈ conditions ops, e.holds v i) ↔
      ∀ c ∈ (conditions ops).flatMap Expr.conjuncts, c.holds v i := by
  simp only [List.forall_mem_flatMap]
  refine forall₂_congr fun e _ => ?_
  rw [← Expr.all_holds_conjuncts, List.all_eq_true]

/-- A query that is translated asks the server for the conjunction of its remote parts, in which the
client has no part, and leaves to the client all of its filters in their order: whatever the server makes
of the clauses, the conditions of the query hold of an issue if both parts do. A query that hides a filter
of the client beneath an alternative or a negation is refused. -/
theorem translate_splits (catalog : Catalog) (serverMax : UInt32) (ops : List Operator) :
    (∀ t, translate catalog serverMax ops = .ok t →
      (Expr.conjunction? (remoteParts ops)).elim (.ok "") (·.predicate catalog) = .ok t.predicate ∧
      (∀ c ∈ remoteParts ops, c.clientFilters = []) ∧
      t.residual = (conditions ops).flatMap Expr.clientFilters ∧
      ∀ v i, (∀ e ∈ conditions ops, e.holds v i) ↔
        (∀ c ∈ remoteParts ops, c.holds v i) ∧ ∀ f ∈ t.residual, f.matches? i) ∧
    ((∃ e ∈ conditions ops, e.hidesFilter) →
      ∃ error, translate catalog serverMax ops = .error error) := by
  refine ⟨fun t h => ⟨predicate_of_translate h, ?_, ?_, fun v i => ?_⟩, ?_⟩
  · exact List.flatMap_eq_nil_iff.1 (clientFilters_remoteParts h)
  · rw [residual_of_translate h, filterMap_clientFilter? (clientFilters_remoteParts h),
      flatMap_clientFilters_conditions]
  · rw [residual_of_translate h, conditions_hold_iff]
    exact all_hold_iff_remote v i _
  · rintro ⟨e, he, hhides⟩
    cases h : translate catalog serverMax ops with
    | error error => exact ⟨error, rfl⟩
    | ok t =>
      obtain ⟨c, hc, hremote, hfilters⟩ := Expr.exists_conjunct_of_hidesFilter hhides
      have hmem : c ∈ remoteParts ops :=
        List.mem_filter.2 ⟨List.mem_flatMap.2 ⟨e, he, hc⟩, hremote⟩
      exact absurd (List.flatMap_eq_nil_iff.1 (clientFilters_remoteParts h) c hmem) hfilters

/-- Filters of the client between conditions of the server. -/
def mixedConditions : List Operator := [
  .filter (.and (.and (.client ⟨0, fun i => i.key != "A-1"⟩) (.eq (.system .project) (.text "A")))
    (.or (.isEmpty (.system .assignee)) (.eq (.system .votes) (.integer 3)))),
  .filter (.client ⟨1, fun i => i.id != "7"⟩),
  .take 5]

/-- A filter of the client below a conjunction that is negated. -/
def hiddenFilter : Expr :=
  .and (.isEmpty (.system .labels))
    (.not (.and (.isEmpty (.system .dueDate)) (.client ⟨0, fun i => i.key != "A-1"⟩)))

theorem translate_splits_sample :
    (∃ t, translate [] 100 mixedConditions = .ok t ∧
      t.predicate = "project = \"A\" AND (assignee is EMPTY OR votes = 3)" ∧
      t.residual.map ClientFilter.tag = [0, 1] ∧
      ∀ v i, (∀ e ∈ conditions mixedConditions, e.holds v i) ↔
        (∀ c ∈ remoteParts mixedConditions, c.holds v i) ∧ ∀ f ∈ t.residual, f.matches? i) ∧
    hiddenFilter.hidesFilter ∧ ∃ error, translate [] 100 [.filter hiddenFilter] = .error error := by
  obtain ⟨hok, -⟩ := translate_splits [] 100 mixedConditions
  obtain ⟨-, herror⟩ := translate_splits [] 100 [.filter hiddenFilter]
  obtain ⟨-, -, -, hsplit⟩ := hok _ rfl
  have hhidden : ∃ e ∈ conditions [.filter hiddenFilter], e.hidesFilter :=
    ⟨hiddenFilter, List.mem_singleton_self _, rfl⟩
  exact ⟨⟨_, rfl, by decide, rfl, hsplit⟩, rfl, herror hhidden⟩

end JiraQuery
