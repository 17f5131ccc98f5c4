import JiraQuery.Json.Parser

/-!
# Blanks, comments and quoted text of configuration files

Text is quoted in four ways: on one line or over several, with escapes or without. Of the text over
several lines a line break at the very front does not count, and every line break is a line feed.
-/

namespace JiraQuery.Toml

/-- A character that may stand in text and comments. -/
def isPlain (c : Char) : Bool :=
  c = '\t' || (0x20 ≤ c.toNat && c.toNat ≠ 0x7F)

def isSpace (c : Char) : Bool :=
  c = ' ' || c = '\t'

def skipSpace (s : List Char) : List Char :=
  s.dropWhile isSpace

/-- What follows a line break. -/
def lineBreak? : List Char → Option (List Char)
  | '\n' :: s => some s
  | '\r' :: '\n' :: s => some s
  | _ => none

/-- What follows a comment, if there is one. -/
def skipComment : List Char → List Char
  | '#' :: s => s.dropWhile isPlain
  | s => s

/-- What follows the rest of a line, which may be a comment. -/
def lineEnd? (s : List Char) : Option (List Char) :=
  match skipComment (skipSpace s) with
  | [] => some []
  | s => lineBreak? s

/-- Skips blanks, line breaks and comments. -/
def skipLines : Nat → List Char → List Char
  | 0, s => s
  | fuel + 1, s => match lineBreak? (skipComment (skipSpace s)) with
    | some s => skipLines fuel s
    | none => skipSpace s

/-! ## Escapes -/

/-- The value of hexadecimal digits. -/
def hexNumber? (ds : List Char) : Option Nat :=
  ds.foldlM (fun n c => (Json.Parser.hexValue? c).map (16 * n + ·)) 0

/-- The character whose code point has exactly `width` hexadecimal digits, and what follows. -/
def codePoint? (width : Nat) (s : List Char) : Option (Char × List Char) :=
  if s.length < width then none
  else (hexNumber? (s.take width)).bind fun n =>
    if h : n.isValidChar then some (Char.ofNatAux n h, s.drop width) else none

/-- The character of an escape, after its backslash. -/
def escape? : List Char → Option (Char × List Char)
  | '"' :: s => some ('"', s)
  | '\\' :: s => some ('\\', s)
  | 'b' :: s => some (Char.ofNat 0x8, s)
  | 'f' :: s => some (Char.ofNat 0xC, s)
  | 'n' :: s => some ('\n', s)
  | 'r' :: s => some ('\r', s)
  | 't' :: s => some ('\t', s)
  | 'u' :: s => codePoint? 4 s
  | 'U' :: s => codePoint? 8 s
  | _ => none

/-- Skips blanks and line breaks. -/
def skipBlank : List Char → List Char
  | ' ' :: s => skipBlank s
  | '\t' :: s => skipBlank s
  | '\n' :: s => skipBlank s
  | '\r' :: '\n' :: s => skipBlank s
  | s => s

/-- What follows the blanks and line breaks after a backslash at the end of a line. -/
def continuation? (s : List Char) : Option (List Char) :=
  (lineBreak? (skipSpace s)).map skipBlank

/-! ## Quoted text -/

/-- Text on one line with escapes, after its opening quote. -/
def basicText? : Nat → List Char → List Char → Option (String × List Char)
  | 0, _, _ => none
  | _ + 1, _, [] => none
  | fuel + 1, acc, c :: s =>
    if c = '"' then some (String.ofList acc.reverse, s)
    else if c = '\\' then (escape? s).bind fun r => basicText? fuel (r.1 :: acc) r.2
    else if isPlain c then basicText? fuel (c :: acc) s
    else none

/-- Text on one line without escapes, after its opening quote. -/
def literalText? (s : List Char) : Option (String × List Char) :=
  let inside := fun c => isPlain c && c ≠ '\x27'
  match s.dropWhile inside with
  | _ :: rest =>
    if (s.dropWhile inside).head? = some '\x27' then some (String.ofList (s.takeWhile inside), rest)
    else none
  | [] => none

/-- Text over several lines, after its three opening quotes: `quote` is the quote, three to five of
which end the text and leave all but three to it, and `escapes` tells whether there are escapes. -/
def linesText? (quote : Char) (escapes : Bool) :
    Nat → List Char → List Char → Option (String × List Char)
  | 0, _, _ => none
  | _ + 1, _, [] => none
  | fuel + 1, acc, c :: s =>
    if c = quote then
      let quotes := 1 + (s.takeWhile (· = quote)).length
      let rest := s.dropWhile (· = quote)
      if quotes < 3 then linesText? quote escapes fuel (List.replicate quotes quote ++ acc) rest
      else if quotes ≤ 5 then
        some (String.ofList (List.replicate (quotes - 3) quote ++ acc).reverse, rest)
      else none
    else if escapes && c = '\\' then
      match continuation? s with
      | some s => linesText? quote escapes fuel acc s
      | none => (escape? s).bind fun r => linesText? quote escapes fuel (r.1 :: acc) r.2
    else if isPlain c then linesText? quote escapes fuel (c :: acc) s
    else (lineBreak? (c :: s)).bind fun s => linesText? quote escapes fuel ('\n' :: acc) s

/-- Text in one of the four ways. -/
def text? : List Char → Option (String × List Char)
  | '"' :: '"' :: '"' :: s => linesText? '"' true (s.length + 1) [] ((lineBreak? s).getD s)
  | '\x27' :: '\x27' :: '\x27' :: s => linesText? '\x27' false (s.length + 1) [] ((lineBreak? s).getD s)
  | '"' :: s => basicText? (s.length + 1) [] s
  | '\x27' :: s => literalText? s
  | _ => none

end JiraQuery.Toml
