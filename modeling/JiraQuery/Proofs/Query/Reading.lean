import JiraQuery.Proofs.Query.Meaning

/-!
# Reading a predicate back

The text of a condition is read as the condition again: its clauses in their order, under its
connectives, with nothing changed but how a chain of one connective is grouped. What a part of a text
is read as depends on its surrounding, which is the invariant here (`Surrounding.Reads`): beneath a
negation it is one unit, within a chain it goes on with the rest of the chain. Main statement:
`read?_predicate`.
-/

namespace JiraQuery

open Jql (Spells Term Operand Clause Condition Connective ChainReads UnitReads)

namespace Expr

/-- Whether the grammar says what each part means: nothing is left to the client or written as it is,
and no list holds a list. -/
def isPlain : Expr → Bool
  | compare x => x.value.spread.all (·.isScalar)
  | call x => x.values.all (·.isScalar)
  | and l r => l.isPlain && r.isPlain
  | or l r => l.isPlain && r.isPlain
  | not e => e.isPlain
  | client _ => false

/-- The condition on issues in terms of clauses, in some reading of values. -/
def conditionBy? (operandOf : Literal → Option Operand) (catalog : Catalog) :
    Expr → Option Condition
  | compare x => (x.clauseBy? operandOf catalog).map .clause
  | call x => (x.clauseBy? operandOf catalog).map .clause
  | and l r => do
    return .join .and (← l.conditionBy? operandOf catalog) (← r.conditionBy? operandOf catalog)
  | or l r => do
    return .join .or (← l.conditionBy? operandOf catalog) (← r.conditionBy? operandOf catalog)
  | not e => (e.conditionBy? operandOf catalog).map .not
  | client _ => none

/-- The values that the clauses of a condition compare with, from left to right. -/
def values : Expr → List Literal
  | compare x => x.value.spread
  | call x => x.values
  | and l r => l.values ++ r.values
  | or l r => l.values ++ r.values
  | not e => e.values
  | client _ => []

theorem isScalar_of_isPlain {e : Expr} (h : e.isPlain) : ∀ v ∈ e.values, v.isScalar := by
  induction e with
  | compare x => exact List.all_eq_true.1 h
  | call x => exact List.all_eq_true.1 h
  | and l r ihl ihr | or l r ihl ihr =>
    obtain ⟨hl, hr⟩ : l.isPlain ∧ r.isPlain := by simpa [isPlain] using h
    exact List.forall_mem_append.2 ⟨ihl hl, ihr hr⟩
  | not e ih => exact ih h
  | client f => simp [isPlain] at h

end Expr

/-! ## Parts of a text -/

/-- How a part of a text is read within a surrounding. -/
def Surrounding.Reads : Surrounding → List Jql.Lexeme → Condition → Prop
  | nothing => ChainReads .or
  | disjunction => ChainReads .or
  | conjunction => ChainReads .and
  | negation => UnitReads

theorem Surrounding.reads_unit {ls : List Jql.Lexeme} {x : Condition} (s : Surrounding)
    (h : UnitReads ls x) : s.Reads ls x := by
  cases s with
  | nothing => exact h.chain.alternative
  | disjunction => exact h.chain.alternative
  | conjunction => exact h.chain
  | negation => exact h

/-- A chain by itself is a chain of alternatives. -/
theorem alternative_of_chain {k : Connective} {ls : List Jql.Lexeme} {x : Condition}
    (h : ChainReads k ls x) : ChainReads .or ls x := by
  cases k with
  | and => exact h.alternative
  | or => exact h

/-- What stands around the parts of a chain. -/
def surroundingOf : Connective → Surrounding
  | .and => .conjunction
  | .or => .disjunction

/-- A chain is enclosed where it would not be read as one part. -/
theorem reads_enclose {k : Connective} {text : String} {ls : List Jql.Lexeme} {x : Condition}
    (s : Surrounding) (hs : Spells text ls) (h : ChainReads k ls x) :
    ∃ ms, Spells (s.enclose (surroundingOf k) text) ms ∧ s.Reads ms x := by
  have hor := alternative_of_chain h
  unfold Surrounding.enclose
  split
  · next hopen =>
    refine ⟨ls, hs, ?_⟩
    rcases hopen with rfl | rfl
    · exact hor
    · cases k with
      | and => exact h
      | or => exact h
  · exact ⟨_, hs.enclosed, s.reads_unit hor.enclosed⟩

theorem spells_text (k : Connective) : Spells k.text [k.word] := by
  cases k with
  | and => exact IsWord.spells (by decide)
  | or => exact IsWord.spells (by decide)

/-- Two parts of a chain with the keyword between them. -/
theorem reads_join {k : Connective} {a b : String} {ls ms : List Jql.Lexeme} {x y : Condition}
    (s : Surrounding) (ha : Spells a ls) (hb : Spells b ms) (hx : (surroundingOf k).Reads ls x)
    (hy : (surroundingOf k).Reads ms y) :
    ∃ ns, Spells (s.enclose (surroundingOf k) (a ++ (" " ++ k.text ++ " ") ++ b)) ns ∧
      s.Reads ns (.join k x y) := by
  have hchain : ∀ {ls x}, (surroundingOf k).Reads ls x → ChainReads k ls x := by
    intro ls x h
    cases k with
    | and => exact h
    | or => exact h
  have hspells : Spells (a ++ (" " ++ k.text ++ " ") ++ b) (ls ++ k.word :: ms) := by
    have h := (ha.spaced (spells_text k)).spaced hb
    simp only [String.append_assoc, List.append_assoc] at h ⊢
    exact h
  exact reads_enclose s hspells ((hchain hx).join (hchain hy))

namespace Expr

/-- The text of a condition is read as that condition, and all its clauses are proper, in every reading of
values that the texts of its values follow. -/
theorem reads_renderBy {operandOf : Literal → Option Operand} {catalog : Catalog} (e : Expr)
    (s : Surrounding) {text : String} (he : ∀ v ∈ e.values, v.SpelledBy operandOf)
    (h : e.render catalog s = .ok text) :
    ∃ ls x, e.conditionBy? operandOf catalog = some x ∧ (∀ c ∈ x.clauses, c.Proper) ∧
      Spells text ls ∧ s.Reads ls x := by
  induction e generalizing s text with
  | compare x =>
    obtain ⟨c, hc, hproper, hspells⟩ := Comparison.spells_render he h
    exact ⟨_, .clause c, by simp [conditionBy?, hc], List.forall_mem_singleton.2 hproper, hspells,
      s.reads_unit (Jql.unitReads_clause hproper)⟩
  | call x =>
    obtain ⟨c, hc, hproper, hspells⟩ := MethodCall.spells_render he h
    exact ⟨_, .clause c, by simp [conditionBy?, hc], List.forall_mem_singleton.2 hproper, hspells,
      s.reads_unit (Jql.unitReads_clause hproper)⟩
  | and l r ihl ihr =>
    obtain ⟨hl, hr⟩ := List.forall_mem_append.1 he
    obtain ⟨a, ha, h⟩ := bind_eq_ok_iff.1 h
    obtain ⟨b, hb, h⟩ := bind_eq_ok_iff.1 h
    obtain rfl := Except.ok.inj h
    obtain ⟨ls, x, hx, hxproper, hls, hxreads⟩ := ihl .conjunction hl ha
    obtain ⟨ms, y, hy, hyproper, hms, hyreads⟩ := ihr .conjunction hr hb
    obtain ⟨ns, hns, hreads⟩ := reads_join (k := .and) s hls hms hxreads hyreads
    exact ⟨ns, .join .and x y, by simp [conditionBy?, hx, hy],
      List.forall_mem_append.2 ⟨hxproper, hyproper⟩, hns, hreads⟩
  | or l r ihl ihr =>
    obtain ⟨hl, hr⟩ := List.forall_mem_append.1 he
    obtain ⟨a, ha, h⟩ := bind_eq_ok_iff.1 h
    obtain ⟨b, hb, h⟩ := bind_eq_ok_iff.1 h
    obtain rfl := Except.ok.inj h
    obtain ⟨ls, x, hx, hxproper, hls, hxreads⟩ := ihl .disjunction hl ha
    obtain ⟨ms, y, hy, hyproper, hms, hyreads⟩ := ihr .disjunction hr hb
    obtain ⟨ns, hns, hreads⟩ := reads_join (k := .or) s hls hms hxreads hyreads
    exact ⟨ns, .join .or x y, by simp [conditionBy?, hx, hy],
      List.forall_mem_append.2 ⟨hxproper, hyproper⟩, hns, hreads⟩
  | not e ih =>
    obtain ⟨a, ha, h⟩ := bind_eq_ok_iff.1 h
    obtain rfl := Except.ok.inj h
    obtain ⟨ls, x, hx, hproper, hls, hreads⟩ := ih .negation he ha
    have hnot : Spells "NOT" [.word "NOT"] := IsWord.spells (by decide)
    exact ⟨.word "NOT" :: ls, .not x, by simp [conditionBy?, hx], hproper, hnot.spaced hls,
      s.reads_unit hreads.not⟩
  | client f => cases h

/-- What an expression is written as means the expression. -/
theorem means_of_render {catalog : Catalog} {e : Expr} {s : Surrounding} {text : String} {x : Condition}
    (h : e.render catalog s = .ok text) (hx : e.conditionBy? Literal.operand? catalog = some x) :
    x.Means catalog e := by
  induction e generalizing s text x with
  | compare c =>
    obtain ⟨d, hd, rfl⟩ := Option.map_eq_some_iff.1 hx
    exact .compare (Comparison.compares_of_render h hd)
  | call c =>
    obtain ⟨d, hd, rfl⟩ := Option.map_eq_some_iff.1 hx
    exact .call (MethodCall.calls_of_render h hd)
  | and l r ihl ihr =>
    obtain ⟨a, ha, h⟩ := bind_eq_ok_iff.1 h
    obtain ⟨b, hb, -⟩ := bind_eq_ok_iff.1 h
    obtain ⟨y, hy, hx⟩ := Option.bind_eq_some_iff.1 hx
    obtain ⟨z, hz, hx⟩ := Option.bind_eq_some_iff.1 hx
    obtain rfl := Option.some.inj hx
    exact .and (ihl ha hy) (ihr hb hz)
  | or l r ihl ihr =>
    obtain ⟨a, ha, h⟩ := bind_eq_ok_iff.1 h
    obtain ⟨b, hb, -⟩ := bind_eq_ok_iff.1 h
    obtain ⟨y, hy, hx⟩ := Option.bind_eq_some_iff.1 hx
    obtain ⟨z, hz, hx⟩ := Option.bind_eq_some_iff.1 hx
    obtain rfl := Option.some.inj hx
    exact .or (ihl ha hy) (ihr hb hz)
  | not e ih =>
    obtain ⟨a, ha, -⟩ := bind_eq_ok_iff.1 h
    obtain ⟨y, hy, rfl⟩ := Option.map_eq_some_iff.1 hx
    exact .not (ih ha hy)
  | client f => cases h

end Expr

/-- A predicate without parts of the client is read back as a condition that means what it was made from, up to
the grouping of chains; so it has the same clauses in the same order, and the same truth value
whatever the clauses mean. -/
theorem read?_predicate (catalog : Catalog) (e : Expr) (text : String) (he : e.isPlain)
    (h : e.predicate catalog = .ok text) :
    ∃ x y, x.Means catalog e ∧ Jql.read? text = some y ∧ Jql.Regroups y x ∧
      y.clauses = x.clauses ∧ ∀ truth, y.holds truth = x.holds truth := by
  obtain ⟨ls, x, hx, -, hspells, hreads⟩ := e.reads_renderBy .nothing
    (fun v hv => Literal.spelledBy_operand? (Expr.isScalar_of_isPlain he v hv)) h
  obtain ⟨y, hregroups, hy⟩ := ChainReads.read? hreads hspells
  exact ⟨x, y, Expr.means_of_render h hx, hy, hregroups, hregroups.clauses_eq, hregroups.holds_eq⟩

/-- A condition with operators and values of all kinds, of which texts hold keywords, quotes and parentheses, and
with a chain that is read in another grouping. -/
def intricate : Expr :=
  let leapDay : Date := ⟨2024, 2, 29, by decide, by decide⟩
  .not (.or
    (.or
      (.and (.eq (.custom "say \"or\" (B") (.text "x AND \"y)"))
        (.contains (.system .labels) (.list [.text "a\\", .integer (-5)])))
      (.and (.compareWith .ge (.system .created) (.date leapDay))
        (.compareWith .lt (.system .updated) (.dateTime ⟨leapDay, 7, 5, 59⟩))))
    (.not (.or (.notIn (.customId "10") [.float (-0.25), .empty])
      (.and (.eq (.system .summary) (.text "Done, (NOT")) (.isNotEmpty (.system .dueDate))))))

def intricateText : String :=
  "NOT ((\"Say \\\"OR\\\" (b\" = \"x AND \\\"y)\" AND labels in (\"a\\\\\", -5)) OR " ++
    "(created >= \"2024/02/29\" AND updated < \"2024/02/29 07:05\") OR " ++
    "NOT (cf[10] not in (-0.25, EMPTY) OR (summary ~ \"Done, (NOT\" AND due is not EMPTY)))"

theorem read?_intricateText :
    intricate.isPlain ∧
      intricate.predicate [{ id := "team", name := "Say \"OR\" (b" }] = .ok intricateText ∧
      ∃ x y, x.Means [{ id := "team", name := "Say \"OR\" (b" }] intricate ∧
        Jql.read? intricateText = some y ∧ Jql.Regroups y x ∧ y.clauses = x.clauses ∧
        ∀ truth, y.holds truth = x.holds truth := by
  have hplain : intricate.isPlain := by decide
  -- Errors cannot be compared, so the text is compared as an option.
  have hsome : (intricate.predicate [{ id := "team", name := "Say \"OR\" (b" }]).toOption =
      some intricateText := by decide +kernel
  have htext : intricate.predicate [{ id := "team", name := "Say \"OR\" (b" }] = .ok intricateText := by
    cases h : intricate.predicate [{ id := "team", name := "Say \"OR\" (b" }] with
    | error e => rw [h] at hsome; cases hsome
    | ok text => rw [h] at hsome; exact congrArg _ (Option.some.inj hsome)
  exact ⟨hplain, htext, read?_predicate _ intricate _ hplain htext⟩

end JiraQuery
