import JiraQuery.Proofs.Query.Drafting
import JiraQuery.Proofs.Query.Reading

/-!
# Valid predicates

What the predicate of a translated query is made of: clauses that say whether a field is empty, that
compare it with one operand, or that look it up in a list of operands that is not empty. Calls are taken
over as they are, so they have to be calls. Nothing looks into a list within a list: its values are
written with parentheses of their own, which no clause has. Main statement: `valid_predicate`.
-/

namespace JiraQuery

namespace Literal

/-- How a value is called in a clause, a function by the call that its text is read as. -/
def written? : Literal → Option Jql.Operand
  | function call => Jql.call? call
  | x => x.operand?

/-- Whether a value can stand in a clause: a list cannot, nor can a text that is not a call. -/
def isOperand : Literal → Bool
  | function call => (Jql.call? call).isSome
  | list _ => false
  | _ => true

theorem spelledBy_written?_of_isScalar {x : Literal} (h : x.isScalar) : x.SpelledBy written? := by
  obtain ⟨v, hv, hspells⟩ := spelledBy_operand? h
  refine ⟨v, ?_, hspells⟩
  cases x with
  | function call => simp [isScalar] at h
  | list items => simp [isScalar] at h
  | _ => exact hv

theorem spelledBy_written? {x : Literal} (h : x.isOperand) : x.SpelledBy written? := by
  cases x with
  | function call =>
    obtain ⟨v, hv⟩ := Option.isSome_iff_exists.1 h
    exact ⟨v, hv, by rw [render]; exact Jql.spells_of_call? hv⟩
  | list items => simp [isOperand] at h
  | _ => exact spelledBy_written?_of_isScalar rfl

end Literal

namespace Expr

/-- The conjuncts of a condition have its values, but for those that are left to the client. -/
theorem values_of_mem_conjuncts {e c : Expr} (h : c ∈ e.conjuncts) : c.values ⊆ e.values := by
  induction e with
  | and l r ihl ihr =>
    rcases List.mem_append.1 h with h | h
    · exact List.Subset.trans (ihl h) (List.subset_append_left _ _)
    · exact List.Subset.trans (ihr h) (List.subset_append_right _ _)
  | compare | call | or | not | client =>
    obtain rfl := List.mem_singleton.1 h
    exact List.Subset.refl _

theorem values_foldl (e : Expr) (es : List Expr) :
    (es.foldl .and e).values = (e :: es).flatMap values := by
  induction es generalizing e with
  | nil => simp
  | cons e' es ih =>
    rw [List.foldl_cons, ih]
    simp only [List.flatMap_cons, values, List.append_assoc]

theorem values_of_conjunction? {es : List Expr} {e : Expr} (h : conjunction? es = some e) :
    e.values = es.flatMap values := by
  cases es with
  | nil => cases h
  | cons e' es =>
    obtain rfl := Option.some.inj h
    exact values_foldl e' es

end Expr

/-- The values in the remote parts of a query are values of its conditions. -/
theorem values_remoteParts (ops : List Operator) :
    (remoteParts ops).flatMap Expr.values ⊆ (conditions ops).flatMap Expr.values := by
  intro v hv
  obtain ⟨c, hc, hvc⟩ := List.mem_flatMap.1 hv
  obtain ⟨e, he, hce⟩ := List.mem_flatMap.1 (List.mem_filter.1 hc).1
  exact List.mem_flatMap.2 ⟨e, he, Expr.values_of_mem_conjuncts hce hvc⟩

/-- The predicate of a query without lists within lists, whose functions are calls, is empty or is a
condition by the grammar of queries, every clause of which is proper. The condition is the conjunction of
the remote parts of the query, up to the grouping of chains. -/
theorem valid_predicate (catalog : Catalog) (serverMax : UInt32) (ops : List Operator)
    (t : Translation) (hvalues : ∀ e ∈ conditions ops, ∀ v ∈ e.values, v.isOperand)
    (h : translate catalog serverMax ops = .ok t) :
    (remoteParts ops = [] ∧ t.predicate = "") ∨
      ∃ e x y, Expr.conjunction? (remoteParts ops) = some e ∧
        e.conditionBy? Literal.written? catalog = some x ∧ Jql.read? t.predicate = some y ∧
        Jql.Regroups y x ∧ ∀ c ∈ y.clauses, c.Proper := by
  have hpredicate := predicate_of_translate h
  cases hparts : Expr.conjunction? (remoteParts ops) with
  | none =>
    rw [hparts] at hpredicate
    have hnil : remoteParts ops = [] := by
      cases hremote : remoteParts ops with
      | nil => rfl
      | cons e es => rw [hremote] at hparts; cases hparts
    exact .inl ⟨hnil, (Except.ok.inj hpredicate).symm⟩
  | some e =>
    rw [hparts] at hpredicate
    have hspelled : ∀ v ∈ e.values, v.SpelledBy Literal.written? := by
      intro v hv
      rw [Expr.values_of_conjunction? hparts] at hv
      obtain ⟨e', he', hv'⟩ := List.mem_flatMap.1 (values_remoteParts ops hv)
      exact Literal.spelledBy_written? (hvalues e' he' v hv')
    obtain ⟨ls, x, hx, hproper, hspells, hreads⟩ := e.reads_renderBy .nothing hspelled hpredicate
    obtain ⟨y, hregroups, hy⟩ := Jql.ChainReads.read? hreads hspells
    exact .inr ⟨e, x, y, rfl, hx, hy, hregroups, hregroups.clauses_eq ▸ hproper⟩

/-- Calls beside other values, and a filter of the client. -/
def callConditions : List Operator := [
  .filter (.and (.client ⟨0, fun i => i.key != "A-1"⟩)
    (.eq (.system .assignee) (.function "currentUser()"))),
  .filter (.or (.isIn (.system .reporter) [.function "membersOf(\"a, b\", 2)", .empty])
    (.isNotEmpty (.system .dueDate)))]

def callConditionsText : String :=
  "assignee = currentUser() AND (reporter in (membersOf(\"a, b\", 2), EMPTY) OR due is not EMPTY)"

theorem valid_predicate_calls :
    ∃ t y, translate [] 100 callConditions = .ok t ∧ t.predicate = callConditionsText ∧
      Jql.read? callConditionsText = some y ∧ ∀ c ∈ y.clauses, c.Proper := by
  have hvalues : ∀ e ∈ conditions callConditions, ∀ v ∈ e.values, v.isOperand := by
    have huser : (Jql.call? "currentUser()").isSome := by cbv
    have hmembers : (Jql.call? "membersOf(\"a, b\", 2)").isSome := by cbv
    simp [conditions, callConditions, Operator.condition?, Expr.values, Expr.eq, Expr.isIn,
      Expr.isNotEmpty, Expr.compareWith, Literal.spread, Literal.isOperand, huser, hmembers]
  obtain ⟨t, h, ht⟩ : ∃ t, translate [] 100 callConditions = .ok t ∧
      t.predicate = callConditionsText := ⟨_, rfl, by cbv⟩
  rcases valid_predicate [] 100 callConditions t hvalues h with
    ⟨hnil, -⟩ | ⟨-, -, y, -, -, hy, -, hproper⟩
  · cases hnil
  · exact ⟨t, y, h, ht, ht ▸ hy, hproper⟩

/-! ## Lists within lists -/

namespace Jql

/-- No clause looks a field up in a list that starts with a list. -/
theorem clause?_nested (t : Term) (rest : List Lexeme) :
    clause? (t.lexeme :: .word "in" :: .opening :: .opening :: rest) = none := by
  have hrelation : relation? t (.word "in" :: .opening :: .opening :: rest) = none := by
    have his : isKeyword "is" "in" = false := by decide
    have hin : isKeyword "in" "in" = true := by decide
    simp [relation?, membership?, operands?, operand?, his, hin]
  cases t with
  | word w => exact hrelation
  | quoted s => exact hrelation

theorem read?_nested {text : String} {t : Term} {rest : List Lexeme}
    (ht : ∀ w, t = .word w → isKeyword "not" w = false)
    (hs : Spells text (t.lexeme :: .word "in" :: .opening :: .opening :: rest)) :
    read? text = none := by
  have hnot : after? "not" (t.lexeme :: .word "in" :: .opening :: .opening :: rest) = none := by
    cases t with
    | word w => simp [Term.lexeme, after?, ht w rfl]
    | quoted s => rfl
  have hopening : (t.lexeme :: .word "in" :: .opening :: .opening :: rest).head? ≠ some .opening := by
    cases t <;> simp [Term.lexeme]
  have hchain := chain_eq_none .or (unit_eq_none hnot hopening (clause?_nested t rest))
  unfold Spells at hs
  simp only [read?, hs, Option.bind_some, hchain]

end Jql

/-- The values of an inner list get parentheses of their own. -/
theorem read?_nestedItems :
    ∃ t, translate [] 100 [.filter (.isIn (.system .status) [.list [.text "a"]])] = .ok t ∧
      t.predicate = "status in ((\"a\"))" ∧ Jql.read? "status in ((\"a\"))" = none := by
  have hspells : Jql.Spells "status in ((\"a\"))" (Jql.Term.lexeme (.word "status") :: .word "in" ::
      .opening :: .opening :: [.quoted "a", .closing, .closing]) := by
    unfold Jql.Spells
    cbv
  exact ⟨_, rfl, by cbv, Jql.read?_nested (by simp [Jql.isKeyword]) hspells⟩

end JiraQuery
