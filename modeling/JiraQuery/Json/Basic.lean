import JiraQuery.Json.Members

/-!
# JSON documents

A document, as read from text or built by the library. Whole numbers are kept apart from doubles, and
the members of an object are in order of their names.
-/

namespace JiraQuery

/-- A JSON document. -/
inductive Json
  | null
  | bool (value : Bool)
  | int (value : Int)
  | float (value : Float)
  | str (value : String)
  | arr (items : List Json)
  | obj (members : List (String × Json))
  deriving Inhabited

namespace Json

/-- An object with the given members, of which the last one of a name counts. -/
def ofMembers (ms : List (String × Json)) : Json :=
  .obj (Members.ofList ms)

def isNull : Json → Bool
  | .null => true
  | _ => false

def text? : Json → Option String
  | .str s => some s
  | _ => none

def bool? : Json → Option Bool
  | .bool b => some b
  | _ => none

/-- A whole number from `low` to `high`. -/
def intIn? (low high : Int) : Json → Option Int
  | .int n => if low ≤ n ∧ n ≤ high then some n else none
  | _ => none

def items? : Json → Option (List Json)
  | .arr xs => some xs
  | _ => none

def members? : Json → Option (Members Json)
  | .obj ms => some ms
  | _ => none

/-- The member of an object. -/
def get? (j : Json) (name : String) : Option Json :=
  j.members?.bind (·.get? name)

end Json

end JiraQuery
