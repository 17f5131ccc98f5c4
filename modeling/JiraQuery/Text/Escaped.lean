import JiraQuery.Text.Blank
import JiraQuery.Text.VisibleTable

/-!
# Escaped text

A text in double quotes that shows every character: line breaks, tabs, quotes and backslashes are
escaped, and so is what has no visible form or attaches itself to the quote before it.
-/

namespace JiraQuery.Text.Escaped

/-- The hexadecimal digits of a number, in lower case. -/
def hexText (n : Nat) : List Char :=
  Nat.toDigits 16 n

/-- The escape by code point. -/
def codePoint (c : Char) : List Char :=
  '\\' :: 'u' :: '\x7b' :: (hexText c.toNat ++ ['\x7d'])

def escapeChar (c : Char) : List Char :=
  if c = '"' ∨ c = '\\' then ['\\', c]
  else match c.toNat with
    | 0x0 => ['\\', '0']
    | 0x9 => ['\\', 't']
    | 0xA => ['\\', 'n']
    | 0xD => ['\\', 'r']
    | n =>
      if 0x20 ≤ n ∧ n < 0x7F then [c]
      else if inRanges extendingRanges n || inRanges hiddenRanges n then codePoint c
      else [c]

def quoted (s : String) : String :=
  String.ofList ('"' :: (s.toList.flatMap escapeChar ++ ['"']))

end JiraQuery.Text.Escaped
