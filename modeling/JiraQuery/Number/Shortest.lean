/-!
# The shortest decimal of a double

A double is read back from every decimal nearer to it than to its neighbours. `Magnitude.shortest`
is the decimal with the fewest digits among those, and the nearest one of that length; of two that
are equally near the notation decides. All arithmetic is on natural numbers.
-/

namespace JiraQuery.Number

/-- The number `significand * 2 ^ exponent`. -/
structure Magnitude where
  significand : Nat
  exponent : Int
  deriving DecidableEq

/-- What the bits of a double stand for. -/
inductive Reading
  | notNumber
  | infinite (negative : Bool)
  | finite (negative : Bool) (magnitude : Magnitude)

/-- The bit of a significand that is not stored, the one of value `2 ^ 52`. -/
def leadingBit : Nat := 0x10000000000000

/-- Splits the bits of a double into sign, exponent and significand. -/
def Reading.ofBits (bits : Nat) : Reading :=
  let negative := bits / 0x8000000000000000 = 1
  let exponent : Nat := bits / leadingBit % 0x800
  let fraction : Nat := bits % leadingBit
  if exponent = 2047 then
    if fraction = 0 then .infinite negative else .notNumber
  else if exponent = 0 then
    .finite negative ⟨fraction, -1074⟩
  else
    .finite negative ⟨leadingBit + fraction, Int.ofNat exponent - 1075⟩

/-- The number `digits * 10 ^ exponent`. -/
structure Decimal where
  digits : Nat
  exponent : Int
  deriving DecidableEq

/-- The numbers that are rounded to one double, as numerators over `den`. -/
structure Interval where
  low : Nat
  value : Nat
  high : Nat
  den : Nat
  /-- Whether the two ends belong to it. -/
  closed : Bool

/-- Which of two neighbours is taken for a number in the middle between them. -/
inductive Tie
  /-- The greater one. -/
  | up
  /-- The even one. -/
  | even
  deriving DecidableEq, Repr

/-- What is taken for a number in the middle between `d` and `d + 1`. -/
def Tie.pick (t : Tie) (d : Nat) : Nat :=
  match t with
  | up => d + 1
  | even => if d % 2 = 0 then d else d + 1

namespace Interval

/-- Whether `d * 10 ^ e` lies in the interval. -/
def holds (i : Interval) (e : Int) (d : Nat) : Bool :=
  let point := d * Nat.pow 10 e.toNat * i.den
  let scale := Nat.pow 10 (-e).toNat
  if i.closed then i.low * scale ≤ point && point ≤ i.high * scale
  else i.low * scale < point && point < i.high * scale

/-- The multiple of `10 ^ e` in the interval that is nearest to the value. -/
def nearest? (i : Interval) (tie : Tie) (e : Int) : Option Nat :=
  let num := i.value * Nat.pow 10 (-e).toNat
  let den := i.den * Nat.pow 10 e.toNat
  let d := num / den
  match i.holds e d, i.holds e (d + 1) with
  | true, true =>
    some (if 2 * (num % den) < den then d else if den < 2 * (num % den) then d + 1 else tie.pick d)
  | true, false => some d
  | false, true => some (d + 1)
  | false, false => none

/-- The first decimal found on ever finer grids. -/
def search (i : Interval) (tie : Tie) : Nat → Int → Decimal
  | 0, e => ⟨i.value * Nat.pow 10 (-e).toNat / (i.den * Nat.pow 10 e.toNat), e⟩
  | fuel + 1, e => match i.nearest? tie e with
    | some d => ⟨d, e⟩
    | none => search i tie fuel (e - 1)

end Interval

namespace Magnitude

/-- The lower end is half as far away where the doubles below are twice as dense. -/
def interval (m : Magnitude) : Interval :=
  let up := Nat.pow 2 (m.exponent - 2).toNat
  let below := if m.significand = leadingBit ∧ -1074 < m.exponent then 1 else 2
  { low := (4 * m.significand - below) * up
    value := 4 * m.significand * up
    high := (4 * m.significand + 2) * up
    den := Nat.pow 2 (2 - m.exponent).toNat
    closed := m.significand % 2 = 0 }

/-- Seventeen digits always suffice, and the search starts at most two places above the first. -/
def shortest (m : Magnitude) (tie : Tie) : Decimal :=
  m.interval.search tie 21 (Int.fdiv ((Nat.log2 m.significand + m.exponent) * 30103) 100000 + 2)

end Magnitude

namespace Decimal

def digitChars (d : Decimal) : List Char :=
  (toString d.digits).toList

/-- Positional notation, with a point only where places follow it. -/
def positional (d : Decimal) : List Char :=
  let s := d.digitChars
  if 0 ≤ d.exponent then s ++ List.replicate d.exponent.toNat '0'
  else
    let places := (-d.exponent).toNat
    if places < s.length then s.take (s.length - places) ++ '.' :: s.drop (s.length - places)
    else '0' :: '.' :: (List.replicate (places - s.length) '0' ++ s)

end Decimal

/-- Where a notation for doubles leaves positional form, and what it adds to whole numbers. -/
structure Layout where
  tie : Tie
  /-- Positional form holds for points up to this many places after the first digit. -/
  maxWhole : Option Nat
  /-- Positional form holds for up to this many zeros between point and first digit. -/
  maxZeros : Option Nat
  /-- What follows a whole number in positional form. -/
  wholeSuffix : String
  /-- Whether a power of ten that is not negative has a sign as well. -/
  signedPower : Bool

namespace Layout

/-- One digit, the other digits after a point, `e`, the power of ten. -/
def scientific (l : Layout) (d : Decimal) : List Char :=
  let s := d.digitChars
  let power := d.exponent + s.length - 1
  let sign := if l.signedPower && 0 ≤ power then ['+'] else []
  s.take 1 ++ (if s.length = 1 then [] else '.' :: s.drop 1) ++ 'e' :: sign ++
    (toString power).toList

def finite (l : Layout) (d : Decimal) : List Char :=
  let point : Int := d.digitChars.length + d.exponent
  let inside := (l.maxWhole.all fun n => point ≤ (n : Int)) && l.maxZeros.all fun n => -(n : Int) ≤ point
  if inside then d.positional ++ (if 0 ≤ d.exponent then l.wholeSuffix.toList else [])
  else l.scientific d

/-- The text of a double; zero has the digit `0`. -/
def render (l : Layout) (x : Float) : String :=
  match Reading.ofBits x.toBits.toNat with
  | .notNumber => "NaN"
  | .infinite negative => if negative then "-inf" else "inf"
  | .finite negative m =>
    let text := l.finite (if m.significand = 0 then ⟨0, 0⟩ else m.shortest l.tie)
    String.ofList (if negative then '-' :: text else text)

end Layout

/-- Whether a double is neither infinite nor a NaN. -/
def isFinite (x : Float) : Bool :=
  match Reading.ofBits x.toBits.toNat with
  | .finite .. => true
  | _ => false

/-- Whether a double is infinite. -/
def isInfinite (x : Float) : Bool :=
  match Reading.ofBits x.toBits.toNat with
  | .infinite _ => true
  | _ => false

end JiraQuery.Number
