import JiraQuery.Json.Basic
import JiraQuery.Number.DecimalText
import JiraQuery.Number.Shortest

/-!
# Reading JSON

The strict grammar: no comments, no trailing commas, no bare control characters in a string, no half
of a surrogate pair, at most 127 levels of nesting.

A number without fraction and power of ten that fits 64 bits is whole. Any other number is a double,
computed from its first digits: as many as fit 64 bits are kept as a whole number, which is then
multiplied or divided by a power of ten. A result that is too large is not read.
-/

namespace JiraQuery.Json.Parser

open Number (spanDigits ofDigits takeSign)

def isSpace (c : Char) : Bool :=
  c = ' ' || c = '\n' || c = '\t' || c = '\r'

def skipSpace (s : List Char) : List Char :=
  s.dropWhile isSpace

/-! ## Numbers -/

/-- Appends digits to a whole number as long as it fits 64 bits, and counts the digits left. -/
def keepDigits : Nat → List Char → Nat × Nat
  | n, [] => (n, 0)
  | n, c :: ds =>
    let m := n * 10 + (c.toNat - 0x30)
    if m < UInt64.size then keepDigits m ds else (n, ds.length + 1)

/-- `x` scaled by a power of ten, in steps that doubles can hold. -/
def scale : Nat → Float → Int → Option Float
  | 0, x, _ => some x
  | fuel + 1, x, e =>
    if e.natAbs ≤ 308 then
      let power := Float.ofScientific 1 false e.natAbs
      if 0 ≤ e then
        let y := x * power
        if Number.isInfinite y then none else some y
      else some (x / power)
    else if x == 0 then some x
    else if 0 ≤ e then none
    else scale fuel (x / Float.ofScientific 1 false 308) (e + 308)

/-- The double of a number with the given digits before and after the point. -/
def double? (negative : Bool) (whole places : List Char) (power : Int) : Option Json :=
  let (n, dropped) := keepDigits 0 whole
  let (n, ignored) := keepDigits n places
  let e := (dropped : Int) - (places.length - ignored : Nat) + power
  (scale 4 (Float.ofNat n) e).map fun x => .float (if negative then -x else x)

/-- The number with the given digits and without fraction and power. -/
def whole? (negative : Bool) (digits : List Char) : Option Json :=
  let n := ofDigits digits
  if negative then
    if 0 < n ∧ n ≤ 0x8000000000000000 then some (.int (-n)) else double? true digits [] 0
  else if n < UInt64.size then some (.int n) else double? false digits [] 0

/-- The power of ten after `e`, and what follows it. -/
def power? (s : List Char) : Option (Int × List Char) :=
  let (negative, s) := takeSign s
  let (ds, s) := spanDigits s
  if ds.isEmpty then none else some (if negative then -(ofDigits ds : Int) else ofDigits ds, s)

/-- The places after a point, if there is one, and what follows them. -/
def places? : List Char → Option (Option (List Char) × List Char)
  | '.' :: s =>
    let (ds, s) := spanDigits s
    if ds.isEmpty then none else some (some ds, s)
  | s => some (none, s)

/-- The power of ten, if there is one, and what follows it. -/
def exponent? : List Char → Option (Option Int × List Char)
  | [] => some (none, [])
  | c :: s =>
    if c = 'e' ∨ c = 'E' then (power? s).map fun r => (some r.1, r.2) else some (none, c :: s)

/-- The number with the given parts. -/
def ofParts? (negative : Bool) (whole : List Char) : Option (List Char) → Option Int → Option Json
  | none, none => whole? negative whole
  | places, power => double? negative whole (places.getD []) (power.getD 0)

/-- A number without its sign. -/
def unsigned? (negative : Bool) (s : List Char) : Option (Json × List Char) :=
  let (whole, s) := spanDigits s
  if whole.isEmpty ∨ (1 < whole.length ∧ whole.head? = some '0') then none
  else do
    let (places, s) ← places? s
    let (power, s) ← exponent? s
    return (← ofParts? negative whole places power, s)

def number? : List Char → Option (Json × List Char)
  | '-' :: s => unsigned? true s
  | s => unsigned? false s

/-! ## Strings -/

def hexValue? (c : Char) : Option Nat :=
  let n := c.toNat
  if c.isDigit then some (n - 0x30)
  else if 0x61 ≤ n ∧ n ≤ 0x66 then some (n - 0x57)
  else if 0x41 ≤ n ∧ n ≤ 0x46 then some (n - 0x37)
  else none

/-- Four hexadecimal digits, and what follows them. -/
def unit? : List Char → Option (Nat × List Char)
  | a :: b :: c :: d :: s => do
    let a ← hexValue? a
    let b ← hexValue? b
    let c ← hexValue? c
    let d ← hexValue? d
    return (((a * 16 + b) * 16 + c) * 16 + d, s)
  | _ => none

/-- The character of a `\u` escape, which takes two of them beyond the first 2 ^ 16. -/
def codePoint? (s : List Char) : Option (Char × List Char) := do
  let (n, s) ← unit? s
  if n < 0xD800 ∨ 0xDFFF < n then return (Char.ofNat n, s)
  else if 0xDBFF < n then none
  else match s with
    | '\\' :: 'u' :: s => do
      let (m, s) ← unit? s
      if m < 0xDC00 ∨ 0xDFFF < m then none
      else return (Char.ofNat (0x10000 + (n - 0xD800) * 0x400 + (m - 0xDC00)), s)
    | _ => none

/-- The character of an escape, after its backslash. -/
def escape? : List Char → Option (Char × List Char)
  | '"' :: s => some ('"', s)
  | '\\' :: s => some ('\\', s)
  | '/' :: s => some ('/', s)
  | 'b' :: s => some (Char.ofNat 0x8, s)
  | 'f' :: s => some (Char.ofNat 0xC, s)
  | 'n' :: s => some ('\n', s)
  | 'r' :: s => some ('\r', s)
  | 't' :: s => some ('\t', s)
  | 'u' :: s => codePoint? s
  | _ => none

/-- Reads to the closing quote; `acc` holds the characters read so far, last one first. -/
def string? : Nat → List Char → List Char → Option (String × List Char)
  | 0, _, _ => none
  | _ + 1, _, [] => none
  | fuel + 1, acc, c :: s =>
    if c = '"' then some (String.ofList acc.reverse, s)
    else if c = '\\' then
      match escape? s with
      | some (c, s) => string? fuel (c :: acc) s
      | none => none
    else if c.toNat < 0x20 then none
    else string? fuel (c :: acc) s

/-! ## Documents -/

/-- The constants of the grammar. -/
def constant? (s : List Char) : Option (Json × List Char) :=
  match "null".toList.isPrefixOf? s, "true".toList.isPrefixOf? s, "false".toList.isPrefixOf? s with
  | some s, _, _ => some (.null, s)
  | _, some s, _ => some (.bool true, s)
  | _, _, some s => some (.bool false, s)
  | _, _, _ => none

mutual

/-- A value within at most `depth - 1` further levels. -/
def value? : Nat → Nat → List Char → Option (Json × List Char)
  | 0, _, _ => none
  | fuel + 1, depth, s =>
    match skipSpace s with
    | '[' :: s =>
      match depth with
      | d + 2 => match skipSpace s with
        | ']' :: s => some (.arr [], s)
        | s => items? fuel (d + 1) [] s
      | _ => none
    | '\x7b' :: s =>
      match depth with
      | d + 2 => match skipSpace s with
        | '\x7d' :: s => some (.obj [], s)
        | s => fields? fuel (d + 1) [] s
      | _ => none
    | '"' :: s => (string? (s.length + 1) [] s).map fun r => (.str r.1, r.2)
    | s => (constant? s).or (number? s)

/-- The items of a list up to its closing bracket. -/
def items? : Nat → Nat → List Json → List Char → Option (Json × List Char)
  | 0, _, _, _ => none
  | fuel + 1, depth, acc, s =>
    match value? fuel depth s with
    | none => none
    | some (x, s) => match skipSpace s with
      | ',' :: s => items? fuel depth (x :: acc) s
      | ']' :: s => some (.arr (x :: acc).reverse, s)
      | _ => none

/-- The members of an object up to its closing brace. -/
def fields? : Nat → Nat → List (String × Json) → List Char → Option (Json × List Char)
  | 0, _, _, _ => none
  | fuel + 1, depth, acc, s =>
    match skipSpace s with
    | '"' :: s => match string? (s.length + 1) [] s with
      | none => none
      | some (name, s) => match skipSpace s with
        | ':' :: s => match value? fuel depth s with
          | none => none
          | some (x, s) => match skipSpace s with
            | ',' :: s => fields? fuel depth ((name, x) :: acc) s
            | '\x7d' :: s => some (ofMembers ((name, x) :: acc).reverse, s)
            | _ => none
        | _ => none
    | _ => none

end

end JiraQuery.Json.Parser

namespace JiraQuery.Json

/-- The document that a text holds. -/
def parse? (text : String) : Option Json :=
  let s := text.toList
  match Parser.value? (2 * s.length + 2) 128 s with
  | some (j, rest) => if (Parser.skipSpace rest).isEmpty then some j else none
  | none => none

end JiraQuery.Json
