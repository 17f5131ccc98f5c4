import JiraQuery.Handle.Collections
import JiraQuery.Query.Translation

/-!
# Running queries

A query is translated with the custom fields that it needs, and then run as a stream or reduced to a
single value. Without filters of the client the server cuts the result; with such filters the client
does, after it has filtered.

| here | there |
| --- | --- |
| `Query`, `NameScope` | `QueryRequest`, `CustomFieldScope` |
| `Handle.catalogFor`, `Handle.translate` | `QueryProvider::translate` |
| `Handle.run` | `QueryProvider::run` |
| `Handle.stream` | `QueryProvider::execute` |
| `Handle.scalar`, `Scalar.reduce` | `QueryProvider::execute_scalar` |
| `Scalar.itemLimit?` | `Scalar::item_limit` |
-/

namespace JiraQuery

/-- Where the names of custom fields are looked up. -/
inductive NameScope
  | server
  /-- Among the fields of a project, which tells fields of one name apart. -/
  | within (scope : FieldScope)
  deriving DecidableEq, Repr

structure Query where
  operators : List Operator := []
  fields : FieldSelection := .all
  scope : NameScope := .server

/-- Whether the query names a custom field. -/
def Query.needsCatalog (q : Query) : Bool :=
  q.operators.any fun op => op.fields.any (·.needsCatalog)

/-- What the result of a query is reduced to. -/
inductive Scalar
  | first | firstOrNone | single | count | any
  deriving DecidableEq, Repr

/-- How many issues decide a reduction. -/
def Scalar.itemLimit? : Scalar → Option UInt32
  | first | firstOrNone | any => some 1
  | single => some 2
  | count => none

inductive ScalarValue
  | issue (issue : Option Issue)
  | count (count : Nat)
  | bool (value : Bool)

namespace ScalarValue

def issue? : ScalarValue → Option Issue
  | issue i => i
  | _ => none

def count? : ScalarValue → Option Nat
  | count n => some n
  | _ => none

def bool? : ScalarValue → Option Bool
  | bool b => some b
  | _ => none

end ScalarValue

namespace Translation

/-- Lowers the limit to a number of issues. -/
def capped (t : Translation) (cap : Option UInt32) : Translation :=
  { t with limit := cap.elim t.limit fun n => some (t.limit.elim n (min · n)) }

/-- What is left of a number of matching issues once the result is cut. -/
def cutCount (t : Translation) (total : UInt32) : UInt32 :=
  let count := Number.subSat total (t.skip.getD 0)
  t.limit.elim count (min count ·)

end Translation

namespace Handle

variable (h : Handle)

/-- The fields by whose names a query is understood; without need nothing is fetched. -/
def catalogFor (q : Query) : Remote Catalog :=
  if q.needsCatalog then
    match q.scope with
    | .server => h.customFields
    | .within scope => h.customFieldsFor scope
  else return []

def translate (q : Query) : Remote Translation := do
  let catalog ← h.catalogFor q
  match JiraQuery.translate catalog h.settings.serverMaxResults q.operators with
  | .ok t => return t
  | .error e => throw (.translation e)

/-- The results of a translated query. -/
def run (t : Translation) (fields : FieldSelection) : IssueStream :=
  if t.hasResidual then
    { h.streamJql t.jql { fields } with
      sieve := { filters := t.residual, toSkip := (t.skip.getD 0).toNat }
      quota := t.limit.map UInt32.toNat }
  else h.streamJql t.jql { fields, startAt := t.skip.getD 0, limit := t.limit }

/-- The results of a query, which are not fetched before they are asked for. -/
def stream (q : Query) : Remote IssueStream := do
  return h.run (← h.translate q) q.fields

def toList (q : Query) : Remote (List Issue) := do
  .viaLink (← h.stream q).collect

end Handle

/-- The next issue of a stream, or nothing at the end. -/
def IssueStream.pull (s : IssueStream) : Remote (Option Issue × IssueStream) :=
  .viaLink fun l => match s.next l with
    | ((none, s), l) => (.ok (none, s), l)
    | ((some (.ok i), s), l) => (.ok (some i, s), l)
    | ((some (.error e), _), l) => (.error e, l)

/-- Reduces a stream; it is read no further than the reduction needs. -/
def Scalar.reduce (s : IssueStream) : Scalar → Remote ScalarValue
  | first => do
    match (← s.pull).1 with
    | some i => return .issue (some i)
    | none => throw .empty
  | firstOrNone => do return .issue (← s.pull).1
  | single => do
    match ← s.pull with
    | (none, _) => throw .empty
    | (some i, s) =>
      if (← s.pull).1.isSome then throw .moreThanOne
      return .issue (some i)
  | count => do return .count (← Remote.viaLink s.collect).length
  | any => do return .bool (← s.pull).1.isSome

namespace Handle

variable (h : Handle)

/-- Reduces a query. Without filters of the client the server is asked for no more issues than the
reduction needs, and a count is taken from the total. -/
def scalar (q : Query) (reduction : Scalar) : Remote ScalarValue := do
  let t ← h.translate q
  if t.hasResidual then reduction.reduce (h.run t q.fields)
  else if reduction = .count then return .count (t.cutCount (← h.total t.jql)).toNat
  else reduction.reduce (h.run (t.capped reduction.itemLimit?) q.fields)

end Handle

end JiraQuery
