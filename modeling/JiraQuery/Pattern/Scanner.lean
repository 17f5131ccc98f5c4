import JiraQuery.Json.Parser
import JiraQuery.Pattern.Basic
import JiraQuery.Text.Blank

/-!
# Scanning patterns

What is left of a pattern, blanks and comments in it, and escapes. Main statement:
`length_skipBlanks_le`, skipping adds nothing.
-/

namespace JiraQuery.Pattern

structure Scanner where
  rest : List Char
  /-- Whether blanks and comments are passed over. -/
  spaced : Bool := false
  /-- The names of the groups so far. -/
  names : List String := []

/-- Passes over blanks, and over comments up to the ends of their lines. -/
def skipBlanks (inComment : Bool) : List Char → List Char
  | [] => []
  | c :: s =>
    if inComment then skipBlanks (c ≠ '\n') s
    else if Text.isBlank c then skipBlanks false s
    else if c = '#' then skipBlanks true s
    else c :: s

theorem length_skipBlanks_le (inComment : Bool) (s : List Char) :
    (skipBlanks inComment s).length ≤ s.length := by
  induction s generalizing inComment with
  | nil => exact Nat.le_refl _
  | cons c s ih =>
    unfold skipBlanks
    split
    · exact Nat.le_succ_of_le (ih _)
    · split
      · exact Nat.le_succ_of_le (ih _)
      · split
        · exact Nat.le_succ_of_le (ih _)
        · exact Nat.le_refl _

/-- The first character that is no blank; a number sign before it is passed over once. -/
def firstVisible (seen : Bool) : List Char → Option Char
  | [] => none
  | c :: s =>
    if Text.isBlank c then firstVisible seen s
    else if !seen && c = '#' then firstVisible true s
    else some c

namespace Scanner

/-- Goes on with another text. -/
def goto (p : Scanner) (rest : List Char) : Scanner :=
  { p with rest }

def skip (p : Scanner) : Scanner :=
  if p.spaced then p.goto (skipBlanks false p.rest) else p

/-- The character after the first one. If blanks do not count it is the first visible one, but of a
comment it is the beginning. -/
def peek (p : Scanner) : Option Char :=
  let s := p.rest.drop 1
  if p.spaced then (firstVisible false s).or s.head? else s.head?

/-- Reads hexadecimal digits, blanks between and after them. -/
def hexDigits? (p : Scanner) : Nat → Nat → Option (Nat × Scanner)
  | 0, n => some (n, p)
  | width + 1, n => match p.rest with
    | [] => none
    | c :: s => (Json.Parser.hexValue? c).bind fun d => (p.goto s).skip.hexDigits? width (16 * n + d)

/-- Reads the code point of a character. -/
def codePoint? (p : Scanner) (width : Nat) : Option (Char × Scanner) :=
  (p.skip.hexDigits? width 0).bind fun (n, p) =>
    if h : n.isValidChar then some (Char.ofNatAux n h, p) else none

end Scanner

/-! ## Items -/

/-- What stands for one character or for a place. -/
inductive Item
  | letter (x : Letter)
  | edge (ofWord : Bool)
  | shorthand (negated : Bool)

/-- ASCII characters other than letters and digits stand for themselves after a backslash. -/
def escapesItself (c : Char) : Bool :=
  c.toNat < 0x80 && !c.isAlphanum

/-- The control characters that have escapes. -/
def controlEscapes : List (Char × Nat) :=
  [('a', 0x7), ('t', 0x9), ('n', 0xA), ('v', 0xB), ('f', 0xC), ('r', 0xD)]

/-- Reads an escape, after its backslash. -/
def escape? (p : Scanner) : Option (Item × Scanner) :=
  match p.rest with
  | [] => none
  | c :: s =>
    let p := p.goto s
    match c with
    | 'x' => (p.codePoint? 2).map fun (c, p) => (.letter ⟨c, true⟩, p)
    | 'u' => (p.codePoint? 4).map fun (c, p) => (.letter ⟨c, false⟩, p)
    | 'U' => (p.codePoint? 8).map fun (c, p) => (.letter ⟨c, false⟩, p)
    | 'd' | 's' | 'w' => some (.shorthand false, p)
    | 'D' | 'S' | 'W' => some (.shorthand true, p)
    | 'A' | 'z' => some (.edge false, p)
    | 'b' | 'B' | '<' | '>' => some (.edge true, p)
    | c => match controlEscapes.lookup c with
      | some n => some (.letter ⟨Char.ofNat n, false⟩, p)
      | none => if escapesItself c then some (.letter ⟨c, false⟩, p) else none

end JiraQuery.Pattern
