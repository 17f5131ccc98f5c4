/-!
# Quoted text

A text between double quotes, where a backslash stands before each double quote and each backslash
of the text. Main statement: `unquote_quote`, the reader gives a quoted text back and leaves what
follows it, whatever that is.
-/

namespace JiraQuery.Text.Quoted

/-- The text with a backslash before each double quote and each backslash. -/
def escape : List Char → List Char
  | [] => []
  | c :: s => if c = '"' ∨ c = '\\' then '\\' :: c :: escape s else c :: escape s

def quoteChars (s : List Char) : List Char :=
  '"' :: (escape s ++ ['"'])

def quote (s : String) : String :=
  String.ofList (quoteChars s.toList)

/-- Reads to the closing quote; a backslash makes the next character literal. -/
def unescape : List Char → Option (List Char × List Char)
  | [] => none
  | ['\\'] => none
  | '\\' :: c :: s => (unescape s).map fun r => (c :: r.1, r.2)
  | c :: s => if c = '"' then some ([], s) else (unescape s).map fun r => (c :: r.1, r.2)

/-- The text of a quoted form at the start of `s`, and what follows it. -/
def unquote : List Char → Option (List Char × List Char)
  | '"' :: s => unescape s
  | _ => none

theorem unescape_escape (t s : List Char) : unescape (escape t ++ '"' :: s) = some (t, s) := by
  induction t with
  | nil => simp [escape, unescape]
  | cons c t ih =>
    by_cases h : c = '"' ∨ c = '\\'
    · simp [escape, h, unescape, ih]
    · obtain ⟨hq, hb⟩ := not_or.1 h
      rw [escape, if_neg h, List.cons_append, unescape, if_neg hq, ih]
      · rfl
      · intro h'; exact absurd h' hb
      · intro _ _ h'; exact absurd h' hb

theorem unquote_quote (t s : List Char) : unquote (quoteChars t ++ s) = some (t, s) := by
  simp [quoteChars, unquote, unescape_escape]

end JiraQuery.Text.Quoted
