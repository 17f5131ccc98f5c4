import JiraQuery.Metadata.Issue
import JiraQuery.Query.Field
import JiraQuery.Query.Literal

/-!
# Conditions

The condition of a query is a tree of comparisons and calls, which the server evaluates, and of
filters that only the client can evaluate.
-/

namespace JiraQuery

inductive CompareOp
  | eq | ne | gt | ge | lt | le | isIn | notIn | like | notLike
  deriving DecidableEq, Repr

/-- The operator in a query text. -/
def CompareOp.token : CompareOp → String
  | eq => "="
  | ne => "!="
  | gt => ">"
  | ge => ">="
  | lt => "<"
  | le => "<="
  | isIn => "in"
  | notIn => "not in"
  | like => "~"
  | notLike => "!~"

/-- A field, an operator and a value. -/
structure Comparison where
  field : Field
  op : CompareOp
  value : Literal
  /-- Compares free text as a whole, and not by its words. -/
  exact : Bool := false

instance : BEq Comparison where
  beq a b := a.field == b.field && a.op == b.op && a.value == b.value && a.exact == b.exact

inductive Method
  | contains | startsWith | endsWith
  /-- Any other method; none of them has a text. -/
  | named (name : String)
  deriving DecidableEq, Repr

def Method.label : Method → String
  | contains => "Contains"
  | startsWith => "StartsWith"
  | endsWith => "EndsWith"
  | named name => name

/-- A method called on a field. -/
structure MethodCall where
  method : Method
  field : Field
  args : List Literal

instance : BEq MethodCall where
  beq a b := a.method == b.method && a.field == b.field && Literal.sameItems a.args b.args

/-- A test of issues that the client makes. Two filters are the same only if they were made at once,
which their tags tell. -/
structure ClientFilter where
  tag : Nat
  matches? : Issue → Bool

namespace ClientFilter

instance : BEq ClientFilter := ⟨fun a b => a.tag == b.tag⟩

/-- What there is to show of a filter. -/
def describe (_ : ClientFilter) : String := "LocalFilter(..)"

end ClientFilter

/-- A condition on issues. -/
inductive Expr
  | compare (comparison : Comparison)
  | call (call : MethodCall)
  | and (left right : Expr)
  | or (left right : Expr)
  | not (inner : Expr)
  /-- Evaluated by the client, on the issues that the server returns. -/
  | client (filter : ClientFilter)

namespace Expr

def compareWith (op : CompareOp) (field : Field) (value : Literal) : Expr :=
  .compare { field, op, value }

def eq : Field → Literal → Expr := compareWith .eq

/-- Compares free text as a whole. -/
def exactMatch (field : Field) (value : Literal) : Expr :=
  .compare { field, op := .eq, value, exact := true }

def like : Field → Literal → Expr := compareWith .like

def isIn (field : Field) (values : List Literal) : Expr :=
  compareWith .isIn field (.list values)

def notIn (field : Field) (values : List Literal) : Expr :=
  compareWith .notIn field (.list values)

def isEmpty (field : Field) : Expr := compareWith .eq field .empty

def isNotEmpty (field : Field) : Expr := compareWith .ne field .empty

def contains (field : Field) (value : Literal) : Expr :=
  .call ⟨.contains, field, [value]⟩

def containsAny (field : Field) (values : List Literal) : Expr :=
  .call ⟨.contains, field, values⟩

/-- The fields of a condition, from left to right. -/
def fields : Expr → List Field
  | compare c => [c.field]
  | call c => [c.field]
  | and l r => l.fields ++ r.fields
  | or l r => l.fields ++ r.fields
  | not e => e.fields
  | client _ => []

/-- The parts of a conjunction, from left to right. -/
def conjuncts : Expr → List Expr
  | and l r => l.conjuncts ++ r.conjuncts
  | e => [e]

def same : Expr → Expr → Bool
  | compare a, compare b => a == b
  | call a, call b => a == b
  | and a b, and c d => same a c && same b d
  | or a b, or c d => same a c && same b d
  | not a, not b => same a b
  | client a, client b => a == b
  | _, _ => false

instance : BEq Expr := ⟨same⟩

end Expr

inductive Direction
  | ascending | descending
  deriving DecidableEq, Repr

def Direction.token : Direction → String
  | ascending => "ASC"
  | descending => "DESC"

/-- A step of a query, in the order in which steps are added. -/
inductive Operator
  | filter (condition : Expr)
  | orderBy (field : Field) (direction : Direction)
  | thenBy (field : Field) (direction : Direction)
  | take (count : UInt32)
  | skip (count : UInt32)

namespace Operator

/-- The fields that an operator refers to. -/
def fields : Operator → List Field
  | filter e => e.fields
  | orderBy f _ => [f]
  | thenBy f _ => [f]
  | take _ => []
  | skip _ => []

end Operator

end JiraQuery
