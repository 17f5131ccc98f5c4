import JiraQuery.Json.Basic
import JiraQuery.Number.Shortest
import JiraQuery.Text.Joined

/-!
# Writing JSON

Documents are written without blanks. A double shows that it is one: it has a point or a power of
ten.
-/

namespace JiraQuery.Json

/-- Doubles are positional from five places before the first digit to sixteen after it. -/
def floatLayout : Number.Layout := ⟨.even, some 16, some 4, ".0", true⟩

/-- The lower-case digit of a value below sixteen. -/
def hexDigit (n : Nat) : Char :=
  Char.ofNat (if n < 10 then 0x30 + n else 0x57 + n)

/-- Quotes, backslashes and control characters are escaped. -/
def escapeChar (c : Char) : List Char :=
  if c = '"' then ['\\', '"']
  else if c = '\\' then ['\\', '\\']
  else if 0x20 ≤ c.toNat then [c]
  else match c.toNat with
    | 0x8 => ['\\', 'b']
    | 0x9 => ['\\', 't']
    | 0xA => ['\\', 'n']
    | 0xC => ['\\', 'f']
    | 0xD => ['\\', 'r']
    | n => ['\\', 'u', '0', '0', hexDigit (n / 16), hexDigit (n % 16)]

def quoted (s : String) : String :=
  String.ofList ('"' :: (s.toList.flatMap escapeChar ++ ['"']))

mutual

/-- The text of a document. -/
def render : Json → String
  | .null => "null"
  | .bool b => if b then "true" else "false"
  | .int n => toString n
  | .float x => floatLayout.render x
  | .str s => quoted s
  | .arr xs => "[" ++ Text.joined "," (renderItems xs) ++ "]"
  | .obj ms => "\x7b" ++ Text.joined "," (renderMembers ms) ++ "\x7d"

/-- The texts of the items of a list. -/
def renderItems : List Json → List String
  | [] => []
  | x :: xs => render x :: renderItems xs

/-- The texts of the members of an object. -/
def renderMembers : List (String × Json) → List String
  | [] => []
  | (name, x) :: ms => (quoted name ++ ":" ++ render x) :: renderMembers ms

end

end JiraQuery.Json
