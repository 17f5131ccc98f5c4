import JiraQuery.Query.Catalog

/-!
# The text of a condition

Comparisons and calls become clauses. Chains of one connective are written without parentheses; a
chain of the other connective, or one that is negated, is enclosed.

| here | there |
| --- | --- |
| `Expr.predicate`, `Expr.render` | `JqlVisitor::translate_predicate`, `visit` and `visit_combinator`, which flattens a chain first |
| `Surrounding` | `Option<Parent>` |
| `Comparison.render`, `Literal.operand` | `JqlVisitor::visit_comparison` |
| `MethodCall.render` | `JqlVisitor::visit_call` |
| `Literal.checkFinite` | `check_literal` |
-/

namespace JiraQuery

/-! ## Clauses -/

/-- Refuses numbers without a text. -/
def Literal.checkFinite (value : Literal) : Except TranslationError Unit :=
  match value.notFinite? with
  | some x => .error (.invalidArgument (.notFinite x))
  | none => .ok ()

/-- What a comparison writes after its operator: membership takes a list, which it encloses, and every
other operator a single value. -/
def Literal.operand (field : Field) (op : CompareOp) (value : Literal) :
    Except TranslationError String :=
  match op, value with
  | .isIn, .list [] | .notIn, .list [] => .error (.invalidArgument (.noValues op field))
  | .isIn, .list items | .notIn, .list items => .ok (Literal.list items).render
  | .isIn, value | .notIn, value => .ok ("(" ++ value.render ++ ")")
  | op, .list _ => .error (.invalidArgument (.listWith op))
  | _, value => .ok value.render

namespace Comparison

/-- Equality on free text searches its words, unless it is meant exactly. -/
def operatorOn (x : Comparison) (ref : FieldRef) : CompareOp :=
  match x.op with
  | .eq => if ref.text && !x.exact then .like else .eq
  | .ne => if ref.text && !x.exact then .notLike else .ne
  | op => op

/-- The comparison of a field with the absence of a value. -/
def renderEmpty (x : Comparison) (ref : FieldRef) : Except TranslationError String :=
  match x.op with
  | .eq => .ok (ref.name ++ " is EMPTY")
  | .ne => .ok (ref.name ++ " is not EMPTY")
  | op => .error (.invalidArgument (.emptyWith op))

def render (catalog : Catalog) (x : Comparison) : Except TranslationError String := do
  let ref ← catalog.resolve x.field
  x.value.checkFinite
  if x.value.isEmpty then x.renderEmpty ref
  else do
    let op := x.operatorOn ref
    let operand ← x.value.operand x.field op
    return ref.name ++ " " ++ op.token ++ " " ++ operand

end Comparison

namespace MethodCall

/-- The values that a call searches for; lists among its arguments are opened once. -/
def values (x : MethodCall) : List Literal :=
  x.args.flatMap Literal.spread

/-- Free text is searched for one value. -/
def renderText (x : MethodCall) (ref : FieldRef) : Except TranslationError String :=
  match x.values with
  | [.empty] => .error (.invalidArgument (.containsEmpty x.field))
  | [value] => .ok (ref.name ++ " ~ " ++ value.render)
  | _ => .error (.invalidArgument (.containsSeveral x.field))

def render (catalog : Catalog) (x : MethodCall) : Except TranslationError String :=
  if x.method ≠ .contains then .error (.unsupported (.call x.field x.method))
  else do
    let ref ← catalog.resolve x.field
    if x.values.isEmpty then throw (.invalidArgument (.containsNothing x.field))
    (Literal.list x.values).checkFinite
    if ref.text && !ref.multi then x.renderText ref
    else return ref.name ++ " in (" ++ Text.joined ", " (x.values.map Literal.render) ++ ")"

end MethodCall

/-! ## Connectives -/

/-- What stands directly around a part of a condition. -/
inductive Surrounding
  | nothing | conjunction | disjunction | negation
  deriving DecidableEq, Repr

/-- Encloses a chain of one connective within another surrounding. -/
def Surrounding.enclose (s chain : Surrounding) (text : String) : String :=
  if s = nothing ∨ s = chain then text else "(" ++ text ++ ")"

namespace Expr

def render (catalog : Catalog) : Surrounding → Expr → Except TranslationError String
  | _, compare x => x.render catalog
  | _, call x => x.render catalog
  | s, and l r => do
    let a ← l.render catalog .conjunction
    let b ← r.render catalog .conjunction
    return s.enclose .conjunction (a ++ " AND " ++ b)
  | s, or l r => do
    let a ← l.render catalog .disjunction
    let b ← r.render catalog .disjunction
    return s.enclose .disjunction (a ++ " OR " ++ b)
  | _, not e => do return "NOT " ++ (← e.render catalog .negation)
  | _, client _ => .error (.unsupported .nestedClientFilter)

/-- The text of a condition that the server evaluates as a whole. -/
def predicate (catalog : Catalog) (e : Expr) : Except TranslationError String :=
  e.render catalog .nothing

end Expr

end JiraQuery
