import JiraQuery.Toml.Number
import JiraQuery.Toml.Text
import JiraQuery.Toml.Tree

/-!
# Reading configuration files

A text is read into statements, one a line but for values over several lines, and from these the
tables are built. Nesting goes at most 79 levels deep.
-/

namespace JiraQuery.Toml

/-! ## Keys -/

def isBareKeyChar (c : Char) : Bool :=
  c.isAlphanum || c = '-' || c = '_'

/-- One part of a key. -/
def keyPart? : List Char → Option (String × List Char)
  | '"' :: s => basicText? (s.length + 1) [] s
  | '\x27' :: s => literalText? s
  | s =>
    let bare := s.takeWhile isBareKeyChar
    if bare.isEmpty then none else some (String.ofList bare, s.dropWhile isBareKeyChar)

/-- The parts of a dotted key, with blanks around them. -/
def keyParts? : Nat → List Char → Option (List String × List Char)
  | 0, _ => none
  | fuel + 1, s => (keyPart? (skipSpace s)).bind fun (part, s) =>
    match skipSpace s with
    | '.' :: s => (keyParts? fuel s).map fun (parts, s) => (part :: parts, s)
    | s => some ([part], s)

/-- A dotted key: the parts before the last one, and the last one. -/
abbrev Key := List String × String

/-- How many levels there are at most, and parts of a key. -/
def maxDepth : Nat := 79

def key? (s : List Char) : Option (Key × List Char) :=
  (keyParts? maxDepth s).bind fun (parts, s) => parts.getLast?.map fun k => ((parts.dropLast, k), s)

/-! ## Values -/

/-- The constants of the grammar. -/
def constant? (s : List Char) : Option (Json × List Char) :=
  match "true".toList.isPrefixOf? s, "false".toList.isPrefixOf? s with
  | some s, _ => some (.bool true, s)
  | _, some s => some (.bool false, s)
  | _, _ => none

/-- A value that is not made of other values. -/
def scalar? (s : List Char) : Option (Json × List Char) :=
  match text? s with
  | some (t, s) => some (.str t, s)
  | none => (constant? s).or (number? s)

mutual

/-- A value within at most `depth` further levels. -/
def value? : Nat → Nat → List Char → Option (Json × List Char)
  | 0, _, _ => none
  | fuel + 1, depth, '[' :: s => match depth with
    | 0 => none
    | d + 1 => items? fuel d [] s
  | fuel + 1, depth, '\x7b' :: s => match depth with
    | 0 => none
    | d + 1 => match skipSpace s with
      | '\x7d' :: s => some (.obj [], s)
      | s => pairs? fuel d [] s
  | _ + 1, _, s => scalar? s

/-- The items of a list up to its closing bracket, over any number of lines. -/
def items? : Nat → Nat → List Json → List Char → Option (Json × List Char)
  | 0, _, _, _ => none
  | fuel + 1, depth, acc, s =>
    match skipLines s.length s with
    | ']' :: s => some (.arr acc.reverse, s)
    | s => match value? fuel depth s with
      | none => none
      | some (x, s) => match skipLines s.length s with
        | ',' :: s => items? fuel depth (x :: acc) s
        | ']' :: s => some (.arr (x :: acc).reverse, s)
        | _ => none

/-- The pairs of a table up to its closing brace, on one line. -/
def pairs? : Nat → Nat → List (Key × Json) → List Char → Option (Json × List Char)
  | 0, _, _, _ => none
  | fuel + 1, depth, acc, s =>
    match key? s with
    | none => none
    | some (k, s) => match s with
      | '=' :: s => match value? fuel depth (skipSpace s) with
        | none => none
        | some (x, s) => match skipSpace s with
          | ',' :: s => pairs? fuel depth ((k, x) :: acc) s
          | '\x7d' :: s =>
            (Entries.assignAll [] ((k, x) :: acc).reverse).map fun es => (es.toJson, s)
          | _ => none
      | _ => none

end

/-! ## Statements -/

inductive Statement
  | pair (key : Key) (value : Json)
  /-- A header, in double brackets if its table is one of several. -/
  | header (key : Key) (several : Bool)

/-- A pair up to its closing line break. -/
def pair? (s : List Char) : Option (Statement × List Char) :=
  match key? s with
  | some (k, '=' :: s) => match value? (2 * s.length + 2) maxDepth (skipSpace s) with
    | some (x, s) => (lineEnd? s).map (.pair k x, ·)
    | none => none
  | _ => none

/-- A header up to its line break, after its first bracket. -/
def header? : List Char → Option (Statement × List Char)
  | '[' :: s => match key? s with
    | some (k, ']' :: ']' :: s) => (lineEnd? s).map (.header k true, ·)
    | _ => none
  | s => match key? s with
    | some (k, ']' :: s) => (lineEnd? s).map (.header k false, ·)
    | _ => none

/-- The statements of a text. -/
def statements? : Nat → List Char → Option (List Statement)
  | 0, _ => none
  | fuel + 1, s =>
    match skipSpace s with
    | [] => some []
    | '[' :: s => (header? s).bind fun (x, s) => (statements? fuel s).map (x :: ·)
    | c :: s =>
      if c = '#' ∨ c = '\n' ∨ c = '\r' then (lineEnd? (c :: s)).bind (statements? fuel)
      else (pair? (c :: s)).bind fun (x, s) => (statements? fuel s).map (x :: ·)

/-- The pairs up to the first header, and the headers each with its pairs. -/
def sections : List Statement → List (Key × Json) × List (Key × Bool × List (Key × Json))
  | [] => ([], [])
  | .pair k x :: rest => let (ps, hs) := sections rest; ((k, x) :: ps, hs)
  | .header k several :: rest => let (ps, hs) := sections rest; ([], (k, several, ps) :: hs)

/-- The tables that statements make. -/
def build? (xs : List Statement) : Option Entries := do
  let (pairs, headers) := sections xs
  headers.foldlM (fun es h =>
    if h.2.1 then es.addItem h.1.1 h.1.2 h.2.2 else es.addTable h.1.1 h.1.2 h.2.2)
    (← Entries.assignAll [] pairs)

/-- The document that a text holds. A mark of the byte order at its front does not count. -/
def parse? (text : String) : Option Json :=
  let s := match text.toList with
    | '\ufeff' :: s => s
    | s => s
  ((statements? (s.length + 1) s).bind build?).map Entries.toJson

end JiraQuery.Toml
