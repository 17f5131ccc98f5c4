import JiraQuery.Text.Blank
import JiraQuery.Text.CaseTable

/-!
# Lower-casing

The full lower-case form of a text: one character may become two (a dotted capital I), and a capital
sigma at the end of a word becomes the final sigma. `sameName` compares names by it.
-/

namespace JiraQuery.Text

def capitalSigma : Char := Char.ofNat 0x3A3

/-- The lower-case form of a character that does not depend on its surroundings. -/
def lowerChar (c : Char) : List Char :=
  if c.toNat < 0x80 then [c.toLower]
  else if c.toNat = 0x130 then ['i', Char.ofNat 0x307]
  else [((caseRuns.findSome? (·.image? c.toNat)).map Char.ofNat).getD c]

/-- Whether the first character that bears on case carries case. -/
def startsCased (s : List Char) : Bool :=
  match s.dropWhile (inRanges ignorableRanges ·.toNat) with
  | [] => false
  | c :: _ => inRanges casedRanges c.toNat

/-- Lower-cases `s`, where `before` is what precedes it, last character first. -/
def lowerAfter (before : List Char) : List Char → List Char
  | [] => []
  | c :: s =>
    (if c = capitalSigma then
      [Char.ofNat (if startsCased before && !startsCased s then 0x3C2 else 0x3C3)]
    else lowerChar c) ++ lowerAfter (c :: before) s

def lowercase (s : String) : String :=
  String.ofList (lowerAfter [] s.toList)

/-- Equality of names, ignoring case. -/
def sameName (a b : String) : Bool :=
  a == b || lowercase a == lowercase b

@[simp] theorem sameName_refl (a : String) : sameName a a := by
  simp [sameName]

theorem sameName_comm (a b : String) : sameName a b = sameName b a := by
  simp only [sameName, Bool.beq_comm]

theorem sameName_iff {a b : String} : sameName a b ↔ lowercase a = lowercase b := by
  simp only [sameName, Bool.or_eq_true, beq_iff_eq]
  exact ⟨fun h => h.elim (congrArg lowercase) id, .inr⟩

theorem sameName_trans {a b c : String} (hab : sameName a b) (hbc : sameName b c) : sameName a c :=
  sameName_iff.2 ((sameName_iff.1 hab).trans (sameName_iff.1 hbc))

end JiraQuery.Text
