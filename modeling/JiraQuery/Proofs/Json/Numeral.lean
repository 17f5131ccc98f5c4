import JiraQuery.Json.Parser
import JiraQuery.Json.Printer
import Mathlib

/-!
# Numerals

Whole numbers and doubles are written as numerals. A numeral is read to its end whatever follows it, as
long as that cannot belong to it. Main statements: `Parser.number?_numeral`, `toList_toString_int`
and `exists_numeral_float`.
-/

namespace JiraQuery.Json

/-- Whether a text can follow a value inside a document. -/
def Closes (s : List Char) : Prop :=
  ∀ c ∈ s.head?, c = ',' ∨ c = ']' ∨ c = '\x7d'

theorem Closes.head_ne {c : Char} {s : List Char} (h : Closes s) (hc : c ∈ s.head?) :
    c.isDigit = false ∧ c ≠ '.' ∧ c ≠ 'e' ∧ c ≠ 'E' := by
  rcases h c hc with rfl | rfl | rfl
  · decide
  · decide
  · decide

/-! ## Digits -/

/-- Decimal digits, at least one of them. -/
structure Digits where
  chars : List Char
  ne_nil : chars ≠ []
  isDigit : ∀ c ∈ chars, c.isDigit = true

namespace Digits

/-- The digits of a natural number. -/
def ofNat (n : ℕ) : Digits where
  chars := Nat.toDigits 10 n
  ne_nil := Nat.toDigits_ne_nil
  isDigit _ hc := Nat.isDigit_of_mem_toDigits (by decide) (by decide) hc

/-- Digits with zeros after them. -/
def withZeros (ds : Digits) (n : ℕ) : Digits where
  chars := ds.chars ++ List.replicate n '0'
  ne_nil := List.append_ne_nil_of_left_ne_nil ds.ne_nil _
  isDigit c hc := by
    rcases List.mem_append.1 hc with hc | hc
    · exact ds.isDigit c hc
    · rw [List.eq_of_mem_replicate hc]
      rfl

/-- Digits with zeros before them. -/
def afterZeros (n : ℕ) (ds : Digits) : Digits where
  chars := List.replicate n '0' ++ ds.chars
  ne_nil := List.append_ne_nil_of_right_ne_nil _ ds.ne_nil
  isDigit c hc := by
    rcases List.mem_append.1 hc with hc | hc
    · rw [List.eq_of_mem_replicate hc]
      rfl
    · exact ds.isDigit c hc

theorem length_pos (ds : Digits) : 0 < ds.chars.length :=
  List.length_pos_iff.2 ds.ne_nil

/-- The first digits. -/
def take (ds : Digits) (n : ℕ) (hn : 0 < n) : Digits where
  chars := ds.chars.take n
  ne_nil h := by
    rcases List.take_eq_nil_iff.1 h with h | h
    · omega
    · exact ds.ne_nil h
  isDigit c hc := ds.isDigit c (List.mem_of_mem_take hc)

/-- The digits after the first ones. -/
def drop (ds : Digits) (n : ℕ) (hn : n < ds.chars.length) : Digits where
  chars := ds.chars.drop n
  ne_nil h := absurd (List.drop_eq_nil_iff.1 h) (by omega)
  isDigit c hc := ds.isDigit c (List.mem_of_mem_drop hc)

end Digits

/-! ## Numerals -/

/-- A numeral by its parts. A power of ten comes with the sign it is written with. -/
structure Numeral where
  negative : Bool
  whole : Digits
  places : Option Digits
  power : Option (Bool × Digits)

namespace Numeral

def placesText : Option Digits → List Char
  | none => []
  | some ds => '.' :: ds.chars

def powerText : Option (Bool × Digits) → List Char
  | none => []
  | some p => 'e' :: (if p.1 then '-' else '+') :: p.2.chars

def text (n : Numeral) : List Char :=
  (if n.negative then ['-'] else []) ++ (n.whole.chars ++ (placesText n.places ++ powerText n.power))

/-- The number that a numeral stands for, if it may be written like this and is not too large. -/
def value? (n : Numeral) : Option Json :=
  if 1 < n.whole.chars.length ∧ n.whole.chars.head? = some '0' then none
  else
    Parser.ofParts? n.negative n.whole.chars (n.places.map Digits.chars)
      (n.power.map fun p => if p.1 then -(Number.ofDigits p.2.chars : Int) else Number.ofDigits p.2.chars)

end Numeral

namespace Parser

variable {s : List Char}

theorem spanDigits_append (ds : Digits) (hs : ∀ c ∈ s.head?, c.isDigit = false) :
    Number.spanDigits (ds.chars ++ s) = (ds.chars, s) := by
  have hstop : s.takeWhile Char.isDigit = [] ∧ s.dropWhile Char.isDigit = s := by
    cases s with
    | nil => exact ⟨rfl, rfl⟩
    | cons c s =>
      have hc := hs c rfl
      exact ⟨List.takeWhile_cons_of_neg (by simp [hc]), List.dropWhile_cons_of_neg (by simp [hc])⟩
  unfold Number.spanDigits
  rw [List.takeWhile_append_of_pos ds.isDigit, List.dropWhile_append_of_pos ds.isDigit, hstop.1, hstop.2,
    List.append_nil]

theorem power?_signed (negative : Bool) (ds : Digits) (hs : ∀ c ∈ s.head?, c.isDigit = false) :
    power? ((if negative then '-' else '+') :: (ds.chars ++ s)) =
      some (if negative then -(Number.ofDigits ds.chars : Int) else Number.ofDigits ds.chars, s) := by
  have hsign : Number.takeSign ((if negative then '-' else '+') :: (ds.chars ++ s)) =
      (negative, ds.chars ++ s) := by
    cases negative <;> rfl
  unfold power?
  rw [hsign]
  dsimp only
  rw [spanDigits_append ds hs]
  exact if_neg (by simp [ds.ne_nil])

theorem exponent?_append (power : Option (Bool × Digits)) (hs : Closes s) :
    exponent? (Numeral.powerText power ++ s) =
      some (power.map fun p =>
        if p.1 then -(Number.ofDigits p.2.chars : Int) else Number.ofDigits p.2.chars, s) := by
  cases power with
  | some p =>
    show (power? ((if p.1 then '-' else '+') :: (p.2.chars ++ s))).map _ = _
    rw [power?_signed p.1 p.2 fun c hc => (hs.head_ne hc).1]
    rfl
  | none =>
    cases s with
    | nil => rfl
    | cons c s =>
      obtain ⟨-, -, he, hE⟩ := hs.head_ne (c := c) rfl
      show (if c = 'e' ∨ c = 'E' then _ else some (none, c :: s)) = _
      rw [if_neg fun h => h.elim he hE]
      rfl

/-- A numeral's digits before the point end where its places or its power of ten begin. -/
theorem head_tail_not_digit (places : Option Digits) (power : Option (Bool × Digits)) (hs : Closes s) :
    ∀ c ∈ (Numeral.placesText places ++ (Numeral.powerText power ++ s)).head?, c.isDigit = false := by
  intro c hc
  cases places with
  | some ds =>
    obtain rfl := Option.some.inj hc
    rfl
  | none =>
    cases power with
    | some p =>
      obtain rfl := Option.some.inj hc
      rfl
    | none => exact (hs.head_ne hc).1

theorem places?_append (places : Option Digits) (power : Option (Bool × Digits)) (hs : Closes s) :
    places? (Numeral.placesText places ++ (Numeral.powerText power ++ s)) =
      some (places.map Digits.chars, Numeral.powerText power ++ s) := by
  have hdigit : ∀ c ∈ (Numeral.powerText power ++ s).head?, c.isDigit = false :=
    head_tail_not_digit none power hs
  cases places with
  | some ds =>
    simp only [Numeral.placesText, List.cons_append, places?]
    rw [spanDigits_append ds hdigit]
    exact if_neg (by simp [ds.ne_nil])
  | none =>
    show places? (Numeral.powerText power ++ s) = some (none, _)
    unfold places?
    split
    · next heq =>
      exfalso
      cases power with
      | some p => cases heq
      | none =>
        rw [show Numeral.powerText none ++ s = s from rfl] at heq
        exact (hs.head_ne (heq ▸ rfl)).2.1 rfl
    · rfl

theorem unsigned?_append (negative : Bool) (whole : Digits) (places : Option Digits)
    (power : Option (Bool × Digits)) (hs : Closes s) :
    unsigned? negative (whole.chars ++ (Numeral.placesText places ++ (Numeral.powerText power ++ s))) =
      (Numeral.value? ⟨negative, whole, places, power⟩).map (·, s) := by
  have hne : whole.chars.isEmpty = false := List.isEmpty_eq_false_iff.2 whole.ne_nil
  unfold unsigned?
  rw [spanDigits_append whole (head_tail_not_digit places power hs)]
  simp only [hne, Bool.false_eq_true, false_or]
  unfold Numeral.value?
  split
  · rfl
  · rw [places?_append places power hs]
    show (exponent? (Numeral.powerText power ++ s)).bind _ = _
    rw [exponent?_append power hs]
    show (ofParts? _ _ _ _).bind _ = _
    cases ofParts? negative whole.chars (places.map Digits.chars) _ <;> rfl

/-- A numeral is read to its end. -/
theorem number?_numeral (n : Numeral) (hs : Closes s) : number? (n.text ++ s) = n.value?.map (·, s) := by
  obtain ⟨negative, whole, places, power⟩ := n
  have htext : Numeral.text ⟨negative, whole, places, power⟩ ++ s =
      (if negative then ['-'] else []) ++
        (whole.chars ++ (Numeral.placesText places ++ (Numeral.powerText power ++ s))) := by
    simp only [Numeral.text, List.append_assoc]
  rw [htext, ← unsigned?_append negative whole places power hs]
  cases negative with
  | true => rfl
  | false =>
    show number? (whole.chars ++ _) = _
    cases hwhole : whole.chars with
    | nil => exact absurd hwhole whole.ne_nil
    | cons c cs =>
      have hc := whole.isDigit c (by rw [hwhole]; exact List.mem_cons_self)
      unfold number?
      split
      · next heq =>
        obtain ⟨rfl, -⟩ := List.cons.inj heq
        cases hc
      · rfl

end Parser

/-! ## Whole numbers -/

/-- The numeral of a whole number. -/
def Numeral.ofInt (n : Int) : Numeral :=
  ⟨decide (n < 0), .ofNat n.natAbs, none, none⟩

theorem toList_toString_int (n : Int) : (toString n).toList = (Numeral.ofInt n).text := by
  show n.repr.toList = (if decide (n < 0) then ['-'] else []) ++ (Nat.toDigits 10 n.natAbs ++ [])
  rw [Int.repr_eq_if, List.append_nil]
  by_cases hn : 0 ≤ n
  · have habs : n.natAbs = n.toNat := by omega
    rw [if_pos hn, decide_eq_false (not_lt.2 hn), Nat.toList_repr, habs]
    rfl
  · have habs : n.natAbs = (-n).toNat := by omega
    rw [if_neg hn, decide_eq_true (not_le.1 hn), String.toList_append, Nat.toList_repr, habs]
    rfl

/-- No number but zero begins with the digit zero. -/
theorem head?_toDigits_ne_zero {n : ℕ} (hn : 0 < n) : (Nat.toDigits 10 n).head? ≠ some '0' := by
  induction n using Nat.strongRecOn with
  | _ n ih =>
    by_cases hlt : n < 10
    · have hdigit : ∀ k < 10, 0 < k → k.digitChar ≠ '0' := by decide
      rw [Nat.toDigits_of_lt_base hlt]
      exact fun h => hdigit n hlt hn (Option.some.inj h)
    · rw [Nat.toDigits_of_base_le (by decide) (by omega), List.head?_append_of_ne_nil _ Nat.toDigits_ne_nil]
      exact ih (n / 10) (by omega) (by omega)

theorem not_leading_zero (n : ℕ) :
    ¬(1 < (Digits.ofNat n).chars.length ∧ (Digits.ofNat n).chars.head? = some '0') := by
  rintro ⟨hlength, hhead⟩
  rcases Nat.eq_zero_or_pos n with rfl | hn
  · exact absurd hlength (by decide)
  · exact head?_toDigits_ne_zero hn hhead

theorem ofDigits_ofNat (n : ℕ) : Number.ofDigits (Digits.ofNat n).chars = n := by
  have hfold : Number.ofDigits (Nat.toDigits 10 n) = Nat.ofDigitChars 10 (Nat.toDigits 10 n) 0 := by
    rw [Nat.ofDigitChars_eq_foldl]
    rfl
  exact hfold.trans Nat.ofDigitChars_ten_toDigits

/-- The numeral of a whole number of 64 bits stands for it. -/
theorem Numeral.value?_ofInt {n : Int} (hlow : -0x8000000000000000 ≤ n) (hhigh : n < 0x10000000000000000) :
    (ofInt n).value? = some (.int n) := by
  unfold value? ofInt
  rw [if_neg (not_leading_zero n.natAbs)]
  show Parser.whole? (decide (n < 0)) (Digits.ofNat n.natAbs).chars = _
  unfold Parser.whole?
  rw [ofDigits_ofNat]
  by_cases hn : n < 0
  · have habs : -(n.natAbs : Int) = n := by omega
    simp only [decide_eq_true hn, if_true]
    rw [if_pos (by omega), habs]
  · have habs : (n.natAbs : Int) = n := by omega
    have hsize : n.natAbs < UInt64.size := by
      show n.natAbs < 18446744073709551616
      omega
    simp only [decide_eq_false hn, Bool.false_eq_true, if_false]
    rw [if_pos hsize, habs]

/-! ## Doubles -/

theorem digitChars_eq (d : Number.Decimal) : d.digitChars = (Digits.ofNat d.digits).chars :=
  Nat.toList_repr

/-- A positional numeral has a point in it, or goes on with `.0`. -/
theorem exists_numeral_positional (d : Number.Decimal) :
    ∃ (whole places : Digits),
      d.positional ++ (if 0 ≤ d.exponent then ".0".toList else []) =
        whole.chars ++ Numeral.placesText (some places) := by
  let ds := Digits.ofNat d.digits
  unfold Number.Decimal.positional
  rw [digitChars_eq]
  by_cases hexponent : 0 ≤ d.exponent
  · refine ⟨ds.withZeros d.exponent.toNat, .ofNat 0, ?_⟩
    simp only [if_pos hexponent]
    rfl
  · simp only [if_neg hexponent, List.append_nil]
    by_cases hinside : (-d.exponent).toNat < ds.chars.length
    · refine ⟨ds.take (ds.chars.length - (-d.exponent).toNat) (by omega),
        ds.drop (ds.chars.length - (-d.exponent).toNat) (by omega), ?_⟩
      rw [if_pos hinside]
      rfl
    · refine ⟨.ofNat 0, ds.afterZeros ((-d.exponent).toNat - ds.chars.length), ?_⟩
      rw [if_neg hinside]
      rfl

/-- A scientific numeral has a power of ten with a sign. -/
theorem exists_numeral_scientific (d : Number.Decimal) :
    ∃ (whole : Digits) (places : Option Digits) (power : Bool × Digits),
      floatLayout.scientific d = whole.chars ++ (Numeral.placesText places ++ Numeral.powerText (some power)) := by
  let ds := Digits.ofNat d.digits
  let power : Int := d.exponent + ds.chars.length - 1
  have hpower : 'e' :: ((if true && 0 ≤ power then ['+'] else []) ++ (toString power).toList) =
      Numeral.powerText (some (decide (power < 0), .ofNat power.natAbs)) := by
    rw [toList_toString_int]
    by_cases hneg : power < 0
    · simp [Numeral.ofInt, Numeral.text, Numeral.placesText, Numeral.powerText, hneg, not_le.2 hneg]
    · simp [Numeral.ofInt, Numeral.text, Numeral.placesText, Numeral.powerText, hneg, not_lt.1 hneg]
  have hscientific : floatLayout.scientific d = ds.chars.take 1 ++
      ((if ds.chars.length = 1 then [] else '.' :: ds.chars.drop 1) ++
        Numeral.powerText (some (decide (power < 0), .ofNat power.natAbs))) := by
    unfold Number.Layout.scientific
    rw [digitChars_eq, ← hpower]
    simp only [List.append_assoc, List.cons_append]
    rfl
  by_cases hone : ds.chars.length = 1
  · rw [if_pos hone] at hscientific
    exact ⟨ds.take 1 Nat.one_pos, none, _, hscientific⟩
  · have hlength := ds.length_pos
    rw [if_neg hone] at hscientific
    exact ⟨ds.take 1 Nat.one_pos, some (ds.drop 1 (by omega)), _, hscientific⟩

theorem exists_numeral_finite (d : Number.Decimal) :
    ∃ (whole : Digits) (places : Option Digits) (power : Option (Bool × Digits)),
      floatLayout.finite d = whole.chars ++ (Numeral.placesText places ++ Numeral.powerText power) := by
  unfold Number.Layout.finite
  dsimp only
  split
  · obtain ⟨whole, places, htext⟩ := exists_numeral_positional d
    exact ⟨whole, some places, none, by rw [Numeral.powerText, List.append_nil]; exact htext⟩
  · obtain ⟨whole, places, power, htext⟩ := exists_numeral_scientific d
    exact ⟨whole, places, some power, htext⟩

/-- What is written for a double that is no number. -/
def wordTexts : List (List Char) := ["NaN".toList, "inf".toList, "-inf".toList]

/-- A double is written as a numeral or as one of three words. -/
theorem exists_numeral_float (x : Float) :
    (∃ m : Numeral, (floatLayout.render x).toList = m.text) ∨ (floatLayout.render x).toList ∈ wordTexts := by
  unfold Number.Layout.render
  cases Number.Reading.ofBits x.toBits.toNat with
  | notNumber => exact .inr (by decide)
  | infinite negative => cases negative with
    | false => exact .inr (by decide)
    | true => exact .inr (by decide)
  | finite negative m =>
    obtain ⟨whole, places, power, htext⟩ := exists_numeral_finite
      (if m.significand = 0 then ⟨0, 0⟩ else m.shortest floatLayout.tie)
    refine .inl ⟨⟨negative, whole, places, power⟩, ?_⟩
    simp only [String.toList_ofList, htext, Numeral.text]
    cases negative <;> rfl

end JiraQuery.Json
