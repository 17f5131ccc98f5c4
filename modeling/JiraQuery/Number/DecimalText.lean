/-!
# Reading a decimal as a double

An optional sign, then digits with an optional point and power of ten, or one of the words `inf`,
`infinity` and `nan` in any case. The result is the nearest double.
-/

namespace JiraQuery.Number

/-- The value of a list of decimal digits. -/
def ofDigits (ds : List Char) : Nat :=
  ds.foldl (fun n c => 10 * n + (c.toNat - 0x30)) 0

/-- The digits at the front, and what follows them. -/
def spanDigits (s : List Char) : List Char × List Char :=
  (s.takeWhile Char.isDigit, s.dropWhile Char.isDigit)

/-- The double nearest to `digits * 10 ^ exponent`. -/
def nearestDouble (digits : Nat) (exponent : Int) : Float :=
  let size := ((toString digits).length : Int) + exponent
  if digits = 0 ∨ size < -400 then 0
  else if 400 < size then 1 / 0
  else Float.ofScientific digits (exponent < 0) exponent.natAbs

/-- A sign at the front, if any, and what follows it. -/
def takeSign : List Char → Bool × List Char
  | '-' :: s => (true, s)
  | '+' :: s => (false, s)
  | s => (false, s)

/-- The power of ten at the end of a decimal. -/
def power? : List Char → Option Int
  | [] => some 0
  | c :: s =>
    if c = 'e' ∨ c = 'E' then
      let (negative, s) := takeSign s
      if s.isEmpty ∨ !s.all Char.isDigit then none
      else some (if negative then -(ofDigits s : Int) else ofDigits s)
    else none

/-- A decimal without its sign. -/
def unsigned? (s : List Char) : Option Float :=
  let word := s.map Char.toLower
  if word = "inf".toList ∨ word = "infinity".toList then some (1 / 0)
  else if word = "nan".toList then some (0 / 0)
  else
    let (whole, s) := spanDigits s
    let (places, s) := match s with
      | '.' :: s => spanDigits s
      | s => ([], s)
    if whole.isEmpty ∧ places.isEmpty then none
    else (power? s).map fun e => nearestDouble (ofDigits (whole ++ places)) (e - places.length)

/-- The double that a decimal text denotes. -/
def double? (text : String) : Option Float :=
  let (negative, s) := takeSign text.toList
  (unsigned? s).map fun x => if negative then -x else x

end JiraQuery.Number
