/-!
# Percent encoding

ASCII letters, digits and `-`, `_`, `.`, `~` stand for themselves; every other byte of the UTF-8 form
is written as a percent sign and two upper-case hexadecimal digits.
-/

namespace JiraQuery.Text.Percent

/-- The bytes that stand for themselves. -/
def isPlain (b : UInt8) : Bool :=
  let n := b.toNat
  (0x41 ≤ n && n ≤ 0x5A) || (0x61 ≤ n && n ≤ 0x7A) || (0x30 ≤ n && n ≤ 0x39) ||
    n = 0x2D || n = 0x2E || n = 0x5F || n = 0x7E

/-- The upper-case digit of a value below sixteen. -/
def hexDigit (n : Nat) : Char :=
  Char.ofNat (if n < 10 then 0x30 + n else 0x37 + n)

def encodeByte (b : UInt8) : List Char :=
  if isPlain b then [Char.ofNat b.toNat]
  else ['%', hexDigit (b.toNat / 16), hexDigit (b.toNat % 16)]

def encodeChars (s : List Char) : List Char :=
  s.flatMap fun c => (String.utf8EncodeChar c).flatMap encodeByte

def encode (s : String) : String :=
  String.ofList (encodeChars s.toList)

end JiraQuery.Text.Percent
