import JiraQuery.Pattern.Scanner
import JiraQuery.Text.AlphanumericTable

/-!
# Reading patterns

Repetitions with a count are not among the patterns, and there are no sets by Unicode property and no
conditions on what surrounds a match. Parts nest at most 250 levels deep.
-/

namespace JiraQuery.Pattern

/-! ## Sets in brackets -/

/-- The names of sets of ASCII characters. -/
def setNames : List String :=
  ["alnum", "alpha", "ascii", "blank", "cntrl", "digit", "graph", "lower", "print", "punct", "space",
    "upper", "word", "xdigit"]

/-- Reads a set by its name, after its bracket: whether it is negated, and what follows. -/
def namedSet? : List Char → Option (Bool × List Char)
  | ':' :: s =>
    let negated := s.head? = some '^'
    let s := if negated then s.drop 1 else s
    let name := String.ofList (s.takeWhile (· ≠ ':'))
    match s.dropWhile (· ≠ ':') with
    | ':' :: ']' :: rest => if setNames.contains name then some (negated, rest) else none
    | _ => none
  | _ => none

/-- A character or an escape within brackets. -/
def setItem? (p : Scanner) : Option (Item × Scanner) :=
  match p.rest with
  | [] => none
  | '\\' :: s => escape? (p.goto s)
  | c :: s => some (.letter ⟨c, false⟩, p.goto s)

/-- Reads one member: a character, a range or a shorthand. A hyphen at the end or before another one
makes no range. -/
def member? (p : Scanner) : Option (CharSet × Scanner) :=
  (setItem? p).bind fun (x, p) =>
    let p := p.skip
    match p.rest with
    | [] => none
    | c :: s =>
      if c ≠ '-' || p.peek = some ']' || p.peek = some '-' then
        match x with
        | .letter x => some (.letter x, p)
        | .shorthand negated => some (.shorthand negated, p)
        | .edge _ => none
      else match x, setItem? (p.goto s).skip with
        | .letter low, some (.letter high, p) =>
          if low.char ≤ high.char then some (.range low high, p) else none
        | _, _ => none

/-- The hyphens at the front of a set, each a member. -/
def hyphens : Nat → Scanner → List CharSet × Scanner
  | 0, p => ([], p)
  | fuel + 1, p => match p.rest with
    | '-' :: s =>
      let (xs, p) := hyphens fuel (p.goto s).skip
      (.letter ⟨'-', false⟩ :: xs, p)
    | _ => ([], p)

/-- Reads the front of a set after its bracket: whether it is negated, and the members that would mean
something else further on, hyphens or a closing bracket. -/
def openSet (p : Scanner) : Bool × List CharSet × Scanner :=
  let p := p.skip
  let negated := p.rest.head? = some '^'
  let p := if negated then (p.goto (p.rest.drop 1)).skip else p
  let (xs, p) := hyphens p.rest.length p
  match xs, p.rest with
  | [], ']' :: s => (negated, [.letter ⟨']', false⟩], (p.goto s).skip)
  | xs, _ => (negated, xs, p)

/-- Reads members up to the closing bracket, after `acc`, the last one first, and after what is left
of an operator. -/
def members? : Nat → Option (SetOperator × CharSet) → List CharSet → Scanner →
    Option (CharSet × Scanner)
  | 0, _, _, _ => none
  | fuel + 1, left, acc, p =>
    let p := p.skip
    let combined := CharSet.after left (.ofMembers acc)
    match p.rest with
    | [] => none
    | '[' :: s => match namedSet? s with
      | some (negated, s) => members? fuel left (.named negated :: acc) (p.goto s)
      | none =>
        let (negated, first, p) := openSet (p.goto s)
        match members? fuel none first p with
        | some (body, p) => members? fuel left (.brackets negated body :: acc) p
        | none => none
    | ']' :: s => some (combined, p.goto s)
    | '&' :: '&' :: s => members? fuel (some (.intersection, combined)) [] (p.goto s)
    | '-' :: '-' :: s => members? fuel (some (.difference, combined)) [] (p.goto s)
    | '~' :: '~' :: s => members? fuel (some (.symmetricDifference, combined)) [] (p.goto s)
    | _ => match member? p with
      | some (x, p) => members? fuel left (x :: acc) p
      | none => none

/-- Reads a set after its bracket. -/
def brackets? (p : Scanner) : Option (Expr × Scanner) :=
  let (negated, first, p) := openSet p
  (members? (p.rest.length + 1) none first p).map fun (body, p) => (.brackets negated body, p)

/-! ## Groups -/

/-- The flags, and the sign that negates those after it. -/
def flagLetters : List Char :=
  ['i', 'm', 's', 'U', 'u', 'R', 'x', '-']

/-- Reads flags; each occurs once, and some follow the sign that negates. -/
def flagChange? (s : List Char) : Option FlagChange :=
  if s.all flagLetters.contains && decide s.Nodup && s.getLast? ≠ some '-' then
    let value := fun c =>
      if (s.takeWhile (· ≠ '-')).contains c then some true
      else if s.contains c then some false
      else none
    some { insensitive := value 'i', unicode := value 'u', spaced := value 'x' }
  else none

/-- Whether a character may stand in the name of a group. -/
def isNameChar (c : Char) : Bool :=
  c = '_' || c = '.' || c = '[' || c = ']' || Text.isAlphanumeric c

/-- Names begin with a letter or an underscore. -/
def isName (s : List Char) : Bool :=
  s.head?.any (fun c => c = '_' || Text.isAlphabetic c) && s.all isNameChar

/-- Reads the name of a group, which no other group has. -/
def groupName? (p : Scanner) (s : List Char) : Option Scanner :=
  let chars := s.takeWhile (· ≠ '>')
  let name := String.ofList chars
  match s.dropWhile (· ≠ '>') with
  | [] => none
  | _ :: rest =>
    if isName chars && !p.names.contains name then some { p with rest, names := name :: p.names }
    else none

/-- Reads the front of a group after its parenthesis; the result tells whether it was flags alone. -/
def openGroup? (p : Scanner) : Option (FlagChange × Bool × Scanner) :=
  let p := p.skip
  match p.rest with
  | '?' :: 'P' :: '<' :: s => (groupName? p s).map ({}, false, ·)
  | '?' :: '<' :: s => (groupName? p s).map ({}, false, ·)
  | '?' :: s =>
    let flags := s.takeWhile fun c => c ≠ ':' && c ≠ ')'
    (flagChange? flags).bind fun change => match s.drop flags.length with
      | ':' :: s => some (change, false, p.goto s)
      | ')' :: s => if flags.isEmpty then none else some (change, true, p.goto s)
      | _ => none
  | _ => some ({}, false, p)

/-! ## Expressions -/

/-- Reads an item that is no operator. -/
def item? (p : Scanner) : Option (Expr × Scanner) :=
  match p.rest with
  | [] => none
  | '\\' :: s => (escape? (p.goto s)).map fun (x, p) => match x with
    | .letter x => (.letter x, p)
    | .edge ofWord => (.edge ofWord, p)
    | .shorthand negated => (.shorthand negated, p)
  | '.' :: s => some (.anyLetter, p.goto s)
  | '^' :: s | '$' :: s => some (.edge false, p.goto s)
  | c :: s => some (.letter ⟨c, false⟩, p.goto s)

/-- Reads an expression up to the end, or within a group up to its parenthesis. `acc` are the items
before and `done` the alternatives before, the last one first. -/
def expr? : Nat → Bool → List Expr → List Expr → Scanner → Option (Expr × Scanner)
  | 0, _, _, _, _ => none
  | fuel + 1, grouped, acc, done, p =>
    let p := p.skip
    let whole := Expr.ofAlternatives (.ofItems acc :: done)
    match p.rest with
    | [] => if grouped then none else some (whole, p)
    | ')' :: s => if grouped then some (whole, p.goto s) else none
    | '|' :: s => expr? fuel grouped [] (.ofItems acc :: done) (p.goto s)
    | '(' :: s => match openGroup? (p.goto s) with
      | none => none
      | some (change, alone, inner) =>
        let inner := { inner with spaced := change.spaced.getD p.spaced }
        if alone then expr? fuel grouped (.setFlags change :: acc) done inner
        else match expr? fuel true [] [] inner with
          | none => none
          | some (body, after) =>
            expr? fuel grouped (.group change body :: acc) done { after with spaced := p.spaced }
    | '[' :: s => match brackets? (p.goto s) with
      | some (e, p) => expr? fuel grouped (e :: acc) done p
      | none => none
    | '\x7b' :: _ => none
    | c :: s =>
      if c = '*' || c = '+' || c = '?' then
        match acc with
        | e :: acc =>
          let s := if s.head? = some '?' then s.drop 1 else s
          if e.isRepeatable then expr? fuel grouped (.repeated e :: acc) done (p.goto s) else none
        | [] => none
      else match item? p with
        | some (e, p) => expr? fuel grouped (e :: acc) done p
        | none => none

/-- How deeply parts may be nested. -/
def maxDepth : Nat := 250

def parse? (s : List Char) : Option Expr :=
  (expr? (s.length + 1) false [] [] { rest := s }).bind fun (e, _) =>
    if e.depth ≤ maxDepth then some e else none

end JiraQuery.Pattern
