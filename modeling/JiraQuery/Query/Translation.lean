import JiraQuery.Number.Saturating
import JiraQuery.Query.Condition

/-!
# Translating a query

The operators of a query are collected in a `Draft`, which is then written: the conjuncts of all
filters become one condition for the server, but for the filters that the client keeps.

| here | there |
| --- | --- |
| `Draft.step`, `Draft.ofOperators` | the loop over the operators in `JqlVisitor::translate` |
| `Draft.remote`, `Draft.residual` | its `parts` and its `residual` |
| `Translation` | `Translation` with the `QueryDescriptor` in it |
| `Translation.hasResidual` | `Translation::has_residual` |
| `Translation.jql`, `Translation.orderText` | `QueryDescriptor::jql` |
| `Translation.ofDraft`, `translate` | `JqlVisitor::new` with `JqlVisitor::translate` |
-/

namespace JiraQuery

/-- What the operators of a query ask for, all together. -/
structure Draft where
  conjuncts : List Expr := []
  orderings : List (Field × Direction) := []
  /-- How many issues are returned at most. -/
  limit : Option UInt32 := none
  /-- How many leading issues are left out. -/
  skip : Option UInt32 := none

namespace Draft

/-- Whether the result has been cut. -/
def paged (d : Draft) : Bool :=
  d.limit.isSome || d.skip.isSome

/-- Refuses an operator once the result has been cut. -/
def unpaged (d : Draft) (operator : String) : Except TranslationError Unit :=
  if d.paged then .error (.unsupported (.afterPaging operator)) else .ok ()

/-- Conditions are added and an ordering replaced; cutting the front shortens the rest. -/
def step (d : Draft) : Operator → Except TranslationError Draft
  | .filter e => do
    d.unpaged "Where"
    return { d with conjuncts := d.conjuncts ++ e.conjuncts }
  | .orderBy f dir => do
    d.unpaged "OrderBy"
    return { d with orderings := [(f, dir)] }
  | .thenBy f dir => do
    d.unpaged "ThenBy"
    if d.orderings.isEmpty then throw (.invalidArgument .thenByFirst)
    return { d with orderings := d.orderings ++ [(f, dir)] }
  | .take n => .ok { d with limit := some (d.limit.elim n (min · n)) }
  | .skip n => .ok { d with
      skip := some (Number.addSat (d.skip.getD 0) n)
      limit := d.limit.map (Number.subSat · n) }

def ofOperators (ops : List Operator) : Except TranslationError Draft :=
  ops.foldlM step {}

/-- The conjuncts that the server evaluates. -/
def remote (d : Draft) : List Expr :=
  d.conjuncts.filter fun
    | .client _ => false
    | _ => true

/-- The filters that the client evaluates. -/
def residual (d : Draft) : List ClientFilter :=
  d.conjuncts.filterMap fun
    | .client f => some f
    | _ => none

end Draft

/-- A translated query. Cutting the result is not part of its text. -/
structure Translation where
  /-- The condition for the server; empty if it has none. -/
  predicate : String
  orderings : List (String × Direction)
  limit : Option UInt32
  skip : Option UInt32
  /-- The filters that each returned issue has to pass. -/
  residual : List ClientFilter

namespace Translation

def hasResidual (t : Translation) : Bool :=
  !t.residual.isEmpty

/-- The text of the orderings. -/
def orderText (t : Translation) : String :=
  Text.joined ", " (t.orderings.map fun o => o.1 ++ " " ++ o.2.token)

/-- The query text: the condition, and the orderings if there are any. -/
def jql (t : Translation) : String :=
  if t.orderings.isEmpty then t.predicate
  else t.predicate ++ (if t.predicate.isEmpty then "" else " ") ++ "ORDER BY " ++ t.orderText

/-- A single conjunct stands alone; several are chained. -/
def renderConjuncts (catalog : Catalog) : List Expr → Except TranslationError String
  | [e] => e.predicate catalog
  | es => return Text.joined " AND " (← es.mapM (·.render catalog .conjunction))

def renderOrdering (catalog : Catalog) (o : Field × Direction) :
    Except TranslationError (String × Direction) := do
  return ((← catalog.resolve o.1).name, o.2)

/-- Writes a draft; a limit never exceeds what the server returns, which is at least one issue. -/
def ofDraft (catalog : Catalog) (serverMax : UInt32) (d : Draft) : Except TranslationError Translation := do
  let predicate ← renderConjuncts catalog d.remote
  let orderings ← d.orderings.mapM (renderOrdering catalog)
  return {
    predicate
    orderings
    limit := d.limit.map (min · (max serverMax 1))
    skip := d.skip
    residual := d.residual }

end Translation

/-- Translates the operators of a query. -/
def translate (catalog : Catalog) (serverMax : UInt32) (ops : List Operator) :
    Except TranslationError Translation := do
  Translation.ofDraft catalog serverMax (← Draft.ofOperators ops)

end JiraQuery
