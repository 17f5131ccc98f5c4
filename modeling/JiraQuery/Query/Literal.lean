import JiraQuery.Calendar
import JiraQuery.Number.Shortest
import JiraQuery.Text.Joined
import JiraQuery.Text.Quoted

/-!
# Literals

The values that a query compares fields with, and their text. Text and dates are quoted, numbers and
function calls stand as they are, lists are in parentheses.

| here | there |
| --- | --- |
| `Literal.render`, `Literal.renderItems` | `render_literal` |
| `Literal.notFinite?`, `Literal.notFiniteItem?` | what `check_literal` refuses |
| `Literal.same`, `Literal.sameItems` | the derived `PartialEq` of `Literal` |
-/

namespace JiraQuery

inductive Literal
  | text (value : String)
  | integer (value : Int)
  | float (value : Float)
  | date (value : Date)
  | dateTime (value : DateTime)
  /-- The absence of a value. -/
  | empty
  /-- A call such as `currentUser()`, written as it is. -/
  | function (call : String)
  | list (items : List Literal)
  deriving Inhabited

namespace Literal

/-- Numbers are positional at any size, and whole numbers have no point. -/
def floatLayout : Number.Layout := ⟨.up, none, none, "", false⟩

mutual

/-- The text of a literal. -/
def render : Literal → String
  | text s => Text.Quoted.quote s
  | integer n => toString n
  | float x => floatLayout.render x
  | date d => Text.Quoted.quote d.text
  | dateTime t => Text.Quoted.quote t.text
  | empty => "EMPTY"
  | function call => call
  | list items => "(" ++ Text.joined ", " (renderItems items) ++ ")"

/-- The texts of the items of a list. -/
def renderItems : List Literal → List String
  | [] => []
  | x :: xs => render x :: renderItems xs

end

theorem renderItems_eq_map : ∀ xs, renderItems xs = xs.map render
  | [] => rfl
  | x :: xs => by rw [renderItems, renderItems_eq_map xs, List.map_cons]

mutual

/-- The first number in a literal that has no text as a number. -/
def notFinite? : Literal → Option Float
  | float x => if Number.isFinite x then none else some x
  | list items => notFiniteItem? items
  | _ => none

/-- The first such number in the items of a list. -/
def notFiniteItem? : List Literal → Option Float
  | [] => none
  | x :: xs => (notFinite? x).or (notFiniteItem? xs)

end

mutual

/-- Equality of literals; doubles compare as numbers, so that a NaN differs from itself. -/
def same : Literal → Literal → Bool
  | text a, text b => a == b
  | integer a, integer b => a == b
  | float a, float b => a == b
  | date a, date b => a == b
  | dateTime a, dateTime b => a == b
  | empty, empty => true
  | function a, function b => a == b
  | list a, list b => sameItems a b
  | _, _ => false

/-- Equality of the items of two lists, one by one. -/
def sameItems : List Literal → List Literal → Bool
  | [], [] => true
  | a :: as, b :: bs => same a b && sameItems as bs
  | _, _ => false

end

instance : BEq Literal := ⟨same⟩

def isEmpty : Literal → Bool
  | empty => true
  | _ => false

/-- The values that a literal contributes to a list of arguments: a list is opened once. -/
def spread : Literal → List Literal
  | list items => items
  | x => [x]

end Literal

end JiraQuery
