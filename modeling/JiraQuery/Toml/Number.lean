import JiraQuery.Calendar
import JiraQuery.Json.Parser
import JiraQuery.Number.DecimalText
import JiraQuery.Number.Shortest

/-!
# Numbers and dates of configuration files

Whole numbers have 64 bits with a sign and are decimal, hexadecimal, octal or binary. Single
underscores may stand between digits. Of dates only the form is checked: a date is a document that no
setting is read from.
-/

namespace JiraQuery.Toml

open Number (takeSign ofDigits)

/-- Whether digits and underscores stand as they have to: every underscore between two digits. -/
def grouped : List Char → Bool
  | [] => false
  | [c] => c ≠ '_'
  | c :: d :: s => c ≠ '_' && (if d = '_' then grouped s else grouped (d :: s))

/-- Digits, possibly with underscores between them, and what follows them. -/
def digits? (isDigit : Char → Bool) (s : List Char) : Option (List Char × List Char) :=
  let inside := fun c => isDigit c || c = '_'
  let run := s.takeWhile inside
  if grouped run then some (run.filter (· ≠ '_'), s.dropWhile inside) else none

/-- The digits of a decimal whole number; there is none in front of a zero. -/
def wholeDigits? : List Char → Option (List Char × List Char)
  | '0' :: s => some (['0'], s)
  | s => digits? Char.isDigit s

/-- A whole number of 64 bits with a sign. -/
def whole? (n : Int) (s : List Char) : Option (Json × List Char) :=
  if -0x8000000000000000 ≤ n ∧ n < 0x8000000000000000 then some (.int n, s) else none

/-- A number in another base, after its mark. -/
def inBase? (base : Nat) (s : List Char) : Option (Json × List Char) :=
  let isDigit := fun c => (Json.Parser.hexValue? c).any (· < base)
  (digits? isDigit s).bind fun (ds, s) =>
    whole? (ds.foldl (fun n c => base * n + (Json.Parser.hexValue? c).getD 0) 0 : Nat) s

/-- The power of ten of a double. -/
def power? : List Char → Option (Int × List Char)
  | c :: s =>
    if c = 'e' ∨ c = 'E' then
      let (negative, s) := takeSign s
      (digits? Char.isDigit s).map fun (ds, s) =>
        (if negative then -(ofDigits ds : Int) else ofDigits ds, s)
    else none
  | [] => none

/-- A double; one that is too large is refused. -/
def double? (negative : Bool) (whole places : List Char) (power : Int) (s : List Char) :
    Option (Json × List Char) :=
  let x := Number.nearestDouble (ofDigits (whole ++ places)) (power - places.length)
  if Number.isInfinite x && !negative then none else some (.float (if negative then -x else x), s)

/-- A decimal number. -/
def decimal? (s : List Char) : Option (Json × List Char) := do
  let (negative, s) := takeSign s
  let (whole, s) ← wholeDigits? s
  match s with
  | '.' :: s =>
    let (places, s) ← digits? Char.isDigit s
    match s with
    | c :: _ =>
      if c = 'e' ∨ c = 'E' then
        let (power, s) ← power? s
        double? negative whole places power s
      else double? negative whole places 0 s
    | [] => double? negative whole places 0 []
  | c :: _ =>
    if c = 'e' ∨ c = 'E' then
      let (power, s) ← power? s
      double? negative whole [] power s
    else whole? (if negative then -(ofDigits whole : Int) else ofDigits whole) s
  | [] => whole? (if negative then -(ofDigits whole : Int) else ofDigits whole) []

/-- One of the doubles that have a name. -/
def namedDouble? (s : List Char) : Option (Json × List Char) :=
  let (negative, s) := takeSign s
  match "inf".toList.isPrefixOf? s, "nan".toList.isPrefixOf? s with
  | some s, _ => some (.float (if negative then -(1 / 0) else 1 / 0), s)
  | _, some s => some (.float (0 / 0), s)
  | _, _ => none

/-! ## Dates -/

/-- The number that the next `width` digits make, if it lies between two bounds. -/
def field? (width low high : Nat) (s : List Char) : Option (Nat × List Char) :=
  let ds := s.take width
  let n := ofDigits ds
  if ds.length = width ∧ ds.all Char.isDigit ∧ low ≤ n ∧ n ≤ high then some (n, s.drop width)
  else none

/-- What follows a certain character. -/
def after? (c : Char) : List Char → Option (List Char)
  | d :: s => if d = c then some s else none
  | [] => none

/-- What follows a day. -/
def day? (s : List Char) : Option (List Char) := do
  let (year, s) ← field? 4 0 9999 s
  let (month, s) ← field? 2 1 12 (← after? '-' s)
  let (_, s) ← field? 2 1 (daysInMonth year month) (← after? '-' s)
  return s

/-- What follows a time of day; a minute may have a second more. -/
def clock? (s : List Char) : Option (List Char) := do
  let (_, s) ← field? 2 0 23 s
  let (_, s) ← field? 2 0 59 (← after? ':' s)
  let (_, s) ← field? 2 0 60 (← after? ':' s)
  match s with
  | '.' :: rest =>
    if (rest.head?.map Char.isDigit).getD false then return rest.dropWhile Char.isDigit
    else none
  | s => return s

/-- What follows the distance from universal time, if one is given. -/
def offset? : List Char → Option (List Char)
  | 'Z' :: s | 'z' :: s => some s
  | '+' :: s | '-' :: s => do
    let (_, s) ← field? 2 0 23 s
    let (_, s) ← field? 2 0 59 (← after? ':' s)
    return s
  | s => some s

/-- What follows a date: a day, a time, or both with a letter or a blank between them. -/
def dateRest? (s : List Char) : Option (List Char) :=
  match day? s with
  | none => clock? s
  | some s => match s with
    | 'T' :: t | 't' :: t => (clock? t).bind offset?
    | ' ' :: t => match clock? t with
      | some t => offset? t
      | none => some s
    | s => some s

/-- The document of a date. -/
def dateDocument (text : List Char) : Json :=
  .obj [("date", .str (String.ofList text))]

/-! ## All of them -/

/-- A number or a date. -/
def number? (s : List Char) : Option (Json × List Char) :=
  match dateRest? s with
  | some rest => some (dateDocument (s.take (s.length - rest.length)), rest)
  | none => match s with
    | '0' :: 'x' :: s => inBase? 16 s
    | '0' :: 'o' :: s => inBase? 8 s
    | '0' :: 'b' :: s => inBase? 2 s
    | s => (namedDouble? s).or (decimal? s)

end JiraQuery.Toml
