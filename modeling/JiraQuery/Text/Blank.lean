/-!
# White space

The characters with the Unicode property `White_Space`, and trimming by them. Main statements:
`isBlank_of_isWhitespace` (the ASCII blanks are among them), `trimEndWhile_append` and
`getLast?_trimEndWhile` (what trimming at the end removes and leaves).
-/

namespace JiraQuery.Text

/-- The code points with the property `White_Space`, as inclusive ranges. -/
def blankRanges : List (Nat × Nat) := [
  (0x9, 0xD), (0x20, 0x20), (0x85, 0x85), (0xA0, 0xA0), (0x1680, 0x1680), (0x2000, 0x200A),
  (0x2028, 0x2029), (0x202F, 0x202F), (0x205F, 0x205F), (0x3000, 0x3000)]

/-- Whether one of the inclusive ranges holds `n`. -/
def inRanges (ranges : List (Nat × Nat)) (n : Nat) : Bool :=
  ranges.any fun r => r.1 ≤ n && n ≤ r.2

def isBlank (c : Char) : Bool :=
  inRanges blankRanges c.toNat

theorem isBlank_of_isWhitespace {c : Char} (h : c.isWhitespace) : isBlank c := by
  simp only [Char.isWhitespace, Bool.or_eq_true, decide_eq_true_eq] at h
  rcases h with ((h | h) | h) | h <;> subst h <;> rfl

/-- Drops characters from the end as long as they satisfy `p`. -/
def trimEndWhile (p : Char → Bool) (s : List Char) : List Char :=
  (s.reverse.dropWhile p).reverse

/-- Drops white space at both ends. -/
def trimChars (s : List Char) : List Char :=
  trimEndWhile isBlank (s.dropWhile isBlank)

/-- `trimChars` on strings. -/
def trim (s : String) : String :=
  String.ofList (trimChars s.toList)

/-- What is dropped at the end satisfies `p`. -/
theorem trimEndWhile_append (p : Char → Bool) (s : List Char) :
    ∃ t, s = trimEndWhile p s ++ t ∧ ∀ c ∈ t, p c := by
  refine ⟨(s.reverse.takeWhile p).reverse, ?_, fun c hc => ?_⟩
  · rw [trimEndWhile, ← List.reverse_append, List.takeWhile_append_dropWhile, List.reverse_reverse]
  · exact List.all_eq_true.1 List.all_takeWhile c (by simpa using hc)

/-- What is left does not end in a character that satisfies `p`. -/
theorem getLast?_trimEndWhile {p : Char → Bool} {s : List Char} {c : Char}
    (h : (trimEndWhile p s).getLast? = some c) : p c = false := by
  rw [trimEndWhile, List.getLast?_reverse] at h
  simpa [h] using List.head?_dropWhile_not p s.reverse

end JiraQuery.Text
