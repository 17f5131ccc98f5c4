import JiraQuery.Number.DecimalText
import JiraQuery.Pattern.Parser

/-!
# Patterns that can be run

Patterns are run without tables of Unicode properties, and they match whole characters. So letters of
either case, and characters of words, are at hand for ASCII alone, which a flag has to ask for; and
then nothing may match a part of a character.
-/

namespace JiraQuery.Pattern

/-- The flags in force. -/
structure Flags where
  insensitive : Bool := false
  unicode : Bool := true

def Flags.change (f : Flags) (c : FlagChange) : Flags :=
  ⟨c.insensitive.getD f.insensitive, c.unicode.getD f.unicode⟩

/-- Whether a letter can be matched. A byte beyond ASCII is a part of a character. -/
def Letter.isSupported (f : Flags) (x : Letter) : Bool :=
  if f.unicode then !f.insensitive else !x.isByte || x.char.toNat < 0x80

/-- Whether a letter can be a member of a set. -/
def Letter.isMember (f : Flags) (x : Letter) : Bool :=
  if f.unicode then !f.insensitive else x.char.toNat < 0x80

/-- Whether a shorthand can be matched; a negated one would match parts of characters. -/
def isShorthandSupported (f : Flags) (negated : Bool) : Bool :=
  !f.unicode && !negated

mutual

def CharSet.isSupported (f : Flags) : CharSet → Bool
  | .empty => true
  | .letter x => x.isMember f
  | .range low high => low.isMember f && high.isMember f
  | .named negated => if f.unicode then !f.insensitive else !negated
  | .shorthand negated => isShorthandSupported f negated
  | .brackets negated body => (f.unicode || !negated) && body.isSupported f
  | .union xs => CharSet.areSupported f xs
  | .combine _ x y => x.isSupported f && y.isSupported f

def CharSet.areSupported (f : Flags) : List CharSet → Bool
  | [] => true
  | x :: xs => x.isSupported f && CharSet.areSupported f xs

end

mutual

/-- The flags in force after an expression, if it can be run. -/
def Expr.flagsAfter? (f : Flags) : Expr → Option Flags
  | .empty => some f
  | .setFlags change => some (f.change change)
  | .letter x => if x.isSupported f then some f else none
  | .anyLetter => if f.unicode then some f else none
  | .edge ofWord => if ofWord && f.unicode then none else some f
  | .shorthand negated => if isShorthandSupported f negated then some f else none
  | .brackets negated body =>
    if (f.unicode || !negated) && body.isSupported f then some f else none
  | .repeated e => e.flagsAfter? f
  | .group change e => (e.flagsAfter? (f.change change)).map fun _ => f
  | .alternatives es => Expr.flagsAfterAll? f es
  | .concat es => Expr.flagsAfterAll? f es

def Expr.flagsAfterAll? (f : Flags) : List Expr → Option Flags
  | [] => some f
  | e :: es => (e.flagsAfter? f).bind fun f => Expr.flagsAfterAll? f es

end

/-- Whether a text is an expression that can be run. -/
def isExpression (s : List Char) : Bool :=
  (parse? s).any fun e => (e.flagsAfter? {}).isSome

/-- A number with a plus sign, which as an expression would begin with a repetition. -/
def isSignedNumber : List Char → Bool
  | '+' :: s => (Number.unsigned? s).isSome
  | _ => false

/-- Whether a text can be held against values, as a number or as an expression. -/
def isReadable (s : List Char) : Bool :=
  isSignedNumber s || isExpression s

end JiraQuery.Pattern
