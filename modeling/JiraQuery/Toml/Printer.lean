import JiraQuery.Json.Basic
import JiraQuery.Text.Joined

/-!
# Writing configuration files

A text is written between the first kind of quotes in which nothing in it has to be escaped: double
quotes, single quotes, three double quotes, three single quotes. Where there is none, it is escaped
between double quotes.
-/

namespace JiraQuery.Toml

/-! ## Text -/

/-- Kinds of quotes. Texts in three quotes may have several lines. -/
inductive QuoteStyle
  | basic | literal | basicLines | literalLines
  deriving DecidableEq, Repr

namespace QuoteStyle

def delimiter : QuoteStyle → List Char
  | basic => ['"']
  | literal => ['\x27']
  | basicLines => ['"', '"', '"']
  | literalLines => ['\x27', '\x27', '\x27']

/-- Whether a text may have several lines. -/
def hasLines : QuoteStyle → Bool
  | basic | literal => false
  | basicLines | literalLines => true

/-- Whether there are escapes. -/
def hasEscapes : QuoteStyle → Bool
  | basic | basicLines => true
  | literal | literalLines => false

end QuoteStyle

/-- A character that has to be escaped between any quotes. -/
def isControl (c : Char) : Bool :=
  c ≠ '\t' && c ≠ '\n' && (c.toNat < 0x20 || c.toNat = 0x7F)

/-- Whether `n` characters `q` stand in a row. -/
def hasRun (q : Char) (n : Nat) : List Char → Bool
  | [] => n = 0
  | c :: s => (List.replicate n q).isPrefixOf (c :: s) || hasRun q n s

/-- The kind of quotes for a text. -/
def quoteStyle (s : List Char) : QuoteStyle :=
  let lines := s.contains '\n'
  let escaped := if lines then .basicLines else .basic
  if s.any isControl then escaped
  else if !lines && !s.contains '\\' && !s.contains '"' then .basic
  else if !lines && !s.contains '\x27' then .literal
  else if !s.contains '\\' && !hasRun '"' 3 s then .basicLines
  else if !hasRun '\x27' 3 s then .literalLines
  else escaped

/-- The upper-case hexadecimal digits of a number, at least four of them. -/
def hexText (n : Nat) : List Char :=
  let ds := (Nat.toDigits 16 n).map Char.toUpper
  List.replicate (4 - ds.length) '0' ++ ds

/-- A character other than a quote between double quotes; `lines` tells whether line breaks stand as
they are. -/
def escapeChar (lines : Bool) (c : Char) : List Char :=
  match c.toNat with
  | 0x8 => ['\\', 'b']
  | 0x9 => ['\\', 't']
  | 0xA => if lines then ['\n'] else ['\\', 'n']
  | 0xC => ['\\', 'f']
  | 0xD => ['\\', 'r']
  | 0x5C => ['\\', '\\']
  | n => if n < 0x20 ∨ n = 0x7F then '\\' :: 'u' :: hexText n else [c]

/-- A text between double quotes, `seen` quotes as they are at its front. Between three quotes two in
a row may stand as they are, and the next one is escaped. -/
def escapeChars (lines : Bool) (seen : Nat) : List Char → List Char
  | [] => []
  | c :: s =>
    if c = '"' then
      if seen < (if lines then 2 else 0) then '"' :: escapeChars lines (seen + 1) s
      else '\\' :: '"' :: escapeChars lines 0 s
    else escapeChar lines c ++ escapeChars lines 0 s

/-- A text in quotes. If it has several lines, it begins on a line of its own. -/
def quoteChars (s : List Char) : List Char :=
  let style := quoteStyle s
  let start := if style.hasLines && s.contains '\n' then ['\n'] else []
  let body := if style.hasEscapes then escapeChars style.hasLines 0 s else s
  style.delimiter ++ start ++ body ++ style.delimiter

def quote (s : String) : String :=
  String.ofList (quoteChars s.toList)

/-! ## Tables -/

/-- A value that stands after a key. -/
inductive Scalar
  | text (value : String)
  | whole (value : Int)
  | flag (value : Bool)
  | emptyList
  deriving DecidableEq, Repr

namespace Scalar

def toJson : Scalar → Json
  | text s => .str s
  | whole n => .int n
  | flag b => .bool b
  | emptyList => .arr []

def render : Scalar → String
  | text s => quote s
  | whole n => toString n
  | flag b => toString b
  | emptyList => "[]"

end Scalar

/-- A header, if any, and the pairs below it. -/
structure Section where
  header : Option String := none
  pairs : List (String × Scalar)
  deriving DecidableEq, Repr

/-- The lines of a section. -/
def Section.render (x : Section) : String :=
  String.join (x.header.toList.map (· ++ "\n") ++
    x.pairs.map fun p => p.1 ++ " = " ++ p.2.render ++ "\n")

/-- Sections with a blank line between them; those without content are left out. -/
def render (xs : List Section) : String :=
  Text.joined "\n" ((xs.filter fun x => x.header.isSome || !x.pairs.isEmpty).map Section.render)

end JiraQuery.Toml
