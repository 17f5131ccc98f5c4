/-!
# Patterns

Regular expressions as trees: letters, sets of characters in brackets, groups, alternatives and
repetitions.
-/

namespace JiraQuery.Pattern

/-- A character that stands for itself. -/
structure Letter where
  char : Char
  /-- Whether it is written by two hexadecimal digits, as a byte is. -/
  isByte : Bool := false
  deriving DecidableEq, Repr

/-- What flags change, as far as it has a bearing on what can be read and run. -/
structure FlagChange where
  insensitive : Option Bool := none
  unicode : Option Bool := none
  /-- Whether blanks and comments are passed over. -/
  spaced : Option Bool := none
  deriving DecidableEq, Repr

/-- Ways to combine two sets. -/
inductive SetOperator
  | intersection | difference | symmetricDifference
  deriving DecidableEq, Repr

inductive CharSet
  | empty
  | letter (x : Letter)
  | range (low high : Letter)
  /-- A set of ASCII characters that has a name. -/
  | named (negated : Bool)
  /-- The digits, the blanks or the characters of words. -/
  | shorthand (negated : Bool)
  | brackets (negated : Bool) (body : CharSet)
  | union (members : List CharSet)
  | combine (operator : SetOperator) (left right : CharSet)

inductive Expr
  | empty
  /-- Flags for what follows in the same group. -/
  | setFlags (change : FlagChange)
  | letter (x : Letter)
  | anyLetter
  /-- A place between characters: an end of a line or of the text, or an end of a word. -/
  | edge (ofWord : Bool)
  | shorthand (negated : Bool)
  | brackets (negated : Bool) (body : CharSet)
  | repeated (e : Expr)
  | group (change : FlagChange) (body : Expr)
  | alternatives (es : List Expr)
  | concat (es : List Expr)

namespace CharSet

/-- A set of members, the last one first. -/
def ofMembers : List CharSet → CharSet
  | [] => empty
  | [x] => x
  | xs => union xs.reverse

/-- Combines a set with what is left of an operator, if there is one. -/
def after (left : Option (SetOperator × CharSet)) (x : CharSet) : CharSet :=
  match left with
  | some (operator, y) => combine operator y x
  | none => x

mutual

/-- How deeply brackets, unions and operators are nested. -/
def depth : CharSet → Nat
  | empty | letter _ | range _ _ | named _ | shorthand _ => 0
  | brackets _ body => depth body + 1
  | union xs => depthAll xs + 1
  | combine _ x y => max (depth x) (depth y) + 1

def depthAll : List CharSet → Nat
  | [] => 0
  | x :: xs => max (depth x) (depthAll xs)

end

end CharSet

namespace Expr

/-- Expressions one after another, the last one first. -/
def ofItems : List Expr → Expr
  | [] => empty
  | [e] => e
  | es => concat es.reverse

/-- Alternatives, the last one first. -/
def ofAlternatives : List Expr → Expr
  | [e] => e
  | es => alternatives es.reverse

mutual

/-- How deeply the parts of an expression are nested. -/
def depth : Expr → Nat
  | empty | setFlags _ | letter _ | anyLetter | edge _ | shorthand _ => 0
  | brackets _ body => body.depth + 1
  | repeated e => depth e + 1
  | group _ e => depth e + 1
  | alternatives es => depthAll es + 1
  | concat es => depthAll es + 1

def depthAll : List Expr → Nat
  | [] => 0
  | e :: es => max (depth e) (depthAll es)

end

/-- Whether a repetition can follow. -/
def isRepeatable : Expr → Bool
  | empty | setFlags _ => false
  | _ => true

end Expr

end JiraQuery.Pattern
