import JiraQuery.Proofs.Json.Numeral
import JiraQuery.Proofs.Number.Nearest
import JiraQuery.Proofs.Query.Word
import JiraQuery.Query.Literal

/-!
# Reading values

The numbers and dates of a query text are read digit by digit, with no regard to how they came to be written:
whole numbers with a sign, decimals, which stand for the nearest double, days and minutes. Main statements:
`integer?_toString`, `readsDouble_render`, `day?_text` and `minute?_text`, a value is read back from its text.
-/

namespace JiraQuery.Jql

/-! ## Readers -/

/-- The number that decimal digits stand for, of which there is at least one. -/
def digits? (s : List Char) : Option ℕ :=
  if s ≠ [] ∧ s.all Char.isDigit then some (Nat.ofDigitChars 10 s 0) else none

/-- Whether there is a minus sign in front, and what follows a sign. -/
def splitSign : List Char → Bool × List Char
  | '-' :: s => (true, s)
  | '+' :: s => (false, s)
  | s => (false, s)

/-- A whole number with or without a sign. -/
def integer? (s : List Char) : Option ℤ :=
  (digits? (splitSign s).2).map fun (n : ℕ) => if (splitSign s).1 then -(n : ℤ) else n

/-- A whole number, or one with places after a point. -/
def decimal? (s : List Char) : Option ℚ :=
  match s.splitOn '.' with
  | [whole] => (digits? whole).map fun (n : ℕ) => (n : ℚ)
  | [whole, places] => do
    let n ← digits? whole
    let m ← digits? places
    return n + m / 10 ^ places.length
  | _ => none

/-- Whether a decimal with or without a sign stands for a double, which is the nearest one. -/
def ReadsDouble (s : List Char) (x : Float) : Prop :=
  Number.isNegative x = (splitSign s).1 ∧ ∃ v, decimal? (splitSign s).2 = some v ∧ Number.IsNearest v x

/-- A year, a month and a day of it between slashes. -/
def day? (s : List Char) : Option (ℤ × ℕ × ℕ) :=
  match s.splitOn '/' with
  | [year, month, day] => do return (← integer? year, ← digits? month, ← digits? day)
  | _ => none

/-- A day, then an hour and a minute of it. -/
def minute? (s : List Char) : Option ((ℤ × ℕ × ℕ) × ℕ × ℕ) :=
  match s.splitOn ' ' with
  | [day, time] => match time.splitOn ':' with
    | [hour, minute] => do return (← day? day, ← digits? hour, ← digits? minute)
    | _ => none
  | _ => none

/-! ## Whole numbers -/

/-- What separates the parts of a value is no digit. -/
theorem not_mem_of_isDigit {c : Char} {s : List Char} (hc : c.isDigit = false) (hs : ∀ d ∈ s, d.isDigit) :
    c ∉ s := by
  intro h
  simp [hs c h] at hc

section
variable {s t : List Char} {n : ℕ}

theorem digits?_eq (hne : s ≠ []) (hs : ∀ c ∈ s, c.isDigit) : digits? s = some (Nat.ofDigitChars 10 s 0) :=
  if_pos ⟨hne, List.all_eq_true.2 hs⟩

theorem isDigit_zeros_append (n : ℕ) (hs : ∀ c ∈ s, c.isDigit) : ∀ c ∈ List.replicate n '0' ++ s, c.isDigit := by
  refine List.forall_mem_append.2 ⟨fun c hc => ?_, hs⟩
  rw [List.eq_of_mem_replicate hc]
  rfl

theorem isDigit_toDigits (n : ℕ) : ∀ c ∈ Nat.toDigits 10 n, c.isDigit := fun _ hc =>
  Nat.isDigit_of_mem_toDigits (by decide) (by decide) hc

/-- Zeros in front do not count. -/
theorem digits?_zeros_append (k : ℕ) (hs : digits? s = some n) : digits? (List.replicate k '0' ++ s) = some n := by
  obtain ⟨⟨hne, hall⟩, hn⟩ := Option.ite_none_right_eq_some.1 hs
  rw [digits?_eq (List.append_ne_nil_of_right_ne_nil _ hne) (isDigit_zeros_append k (List.all_eq_true.1 hall)),
    Nat.ofDigitChars_append, Nat.ofDigitChars_replicate_zero, mul_zero, ← Option.some.inj hn]

theorem digits?_toDigits (n : ℕ) : digits? (Nat.toDigits 10 n) = some n := by
  rw [digits?_eq Nat.toDigits_ne_nil (isDigit_toDigits n), Nat.ofDigitChars_ten_toDigits]

/-- A sign is no digit and no point. -/
theorem splitSign_of_forall (hs : ∀ c ∈ s, c.isDigit ∨ c = '.') : splitSign s = (false, s) := by
  unfold splitSign
  split
  · exact absurd (hs '-' List.mem_cons_self) (by decide)
  · exact absurd (hs '+' List.mem_cons_self) (by decide)
  · rfl

theorem integer?_minus (h : digits? s = some n) : integer? ('-' :: s) = some (-(n : ℤ)) := by
  simp only [integer?, splitSign, h, Option.map_some, if_true]

theorem integer?_plus (h : digits? s = some n) : integer? ('+' :: s) = some (n : ℤ) := by
  simp only [integer?, splitSign, h, Option.map_some, Bool.false_eq_true, if_false]

theorem integer?_digits (hs : ∀ c ∈ s, c.isDigit) (h : digits? s = some n) : integer? s = some (n : ℤ) := by
  simp only [integer?, splitSign_of_forall fun c hc => .inl (hs c hc), h, Option.map_some, Bool.false_eq_true,
    if_false]

theorem integer?_toString (n : ℤ) : integer? (toString n).toList = some n := by
  have htext : (toString n).toList = (if n < 0 then ['-'] else []) ++ Nat.toDigits 10 n.natAbs := by
    rw [Json.toList_toString_int]
    simp [Json.Numeral.ofInt, Json.Numeral.text, Json.Numeral.placesText, Json.Numeral.powerText,
      Json.Digits.ofNat]
  rw [htext]
  split
  · have habs : -(n.natAbs : ℤ) = n := by omega
    exact (integer?_minus (digits?_toDigits n.natAbs)).trans (congrArg some habs)
  · have habs : (n.natAbs : ℤ) = n := by omega
    exact (integer?_digits (isDigit_toDigits n.natAbs) (digits?_toDigits n.natAbs)).trans (congrArg some habs)

end

/-! ## Doubles -/

section
variable {s t : List Char}

/-- Digits with zeros behind them. -/
theorem decimal?_zeros (hs : s ≠ []) (hdigit : ∀ c ∈ s, c.isDigit) (k : ℕ) :
    decimal? (s ++ List.replicate k '0') = some (10 ^ k * (Nat.ofDigitChars 10 s 0 : ℚ)) := by
  have hzeros : ∀ c ∈ s ++ List.replicate k '0', c.isDigit :=
    List.forall_mem_append.2 ⟨hdigit, fun c hc => by rw [List.eq_of_mem_replicate hc]; rfl⟩
  have hpoint : ∀ part ∈ [s ++ List.replicate k '0'], '.' ∉ part :=
    List.forall_mem_singleton.2 (not_mem_of_isDigit (by decide) hzeros)
  have hsplit : (s ++ List.replicate k '0').splitOn '.' = [s ++ List.replicate k '0'] := by
    simpa only [List.intercalate_singleton] using List.splitOn_intercalate '.' hpoint (by simp)
  rw [decimal?, hsplit]
  simp only [digits?_eq (List.append_ne_nil_of_left_ne_nil hs _) hzeros, Nat.ofDigitChars_append,
    Nat.ofDigitChars_replicate_zero, Option.map_some, Nat.cast_mul, Nat.cast_pow, Nat.cast_ofNat]

/-- Digits of which the last ones stand after a point. -/
theorem decimal?_point (hs : s ≠ []) (ht : t ≠ []) (hdigit : ∀ c ∈ s ++ t, c.isDigit) :
    decimal? (s ++ '.' :: t) = some ((Nat.ofDigitChars 10 (s ++ t) 0 : ℚ) / 10 ^ t.length) := by
  obtain ⟨hsdigit, htdigit⟩ := List.forall_mem_append.1 hdigit
  have hpoint : ∀ part ∈ [s, t], '.' ∉ part := by
    simpa using ⟨not_mem_of_isDigit (by decide) hsdigit, not_mem_of_isDigit (by decide) htdigit⟩
  have hsplit : (s ++ '.' :: t).splitOn '.' = [s, t] := by
    simpa using List.splitOn_intercalate '.' hpoint (by simp)
  have hvalue : (Nat.ofDigitChars 10 (s ++ t) 0 : ℚ) =
      10 ^ t.length * Nat.ofDigitChars 10 s 0 + Nat.ofDigitChars 10 t 0 := by
    rw [Nat.ofDigitChars_append, Nat.ofDigitChars_eq_ofDigitChars_zero]
    push_cast
    rfl
  rw [decimal?, hsplit, hvalue, add_div, mul_div_cancel_left₀ _ (pow_ne_zero _ (by norm_num))]
  simp only [digits?_eq hs hsdigit, digits?_eq ht htdigit]
  rfl

/-- Digits behind a point and zeros. -/
theorem decimal?_zero_point (hs : s ≠ []) (hdigit : ∀ c ∈ s, c.isDigit) (k : ℕ) :
    decimal? ('0' :: '.' :: (List.replicate k '0' ++ s)) =
      some ((Nat.ofDigitChars 10 s 0 : ℚ) / 10 ^ (k + s.length)) := by
  have hzeros := isDigit_zeros_append k hdigit
  have hall : ∀ c ∈ ['0'] ++ (List.replicate k '0' ++ s), c.isDigit :=
    List.forall_mem_append.2 ⟨by simp, hzeros⟩
  have hvalue : Nat.ofDigitChars 10 (['0'] ++ (List.replicate k '0' ++ s)) 0 = Nat.ofDigitChars 10 s 0 := by
    rw [← List.append_assoc, Nat.ofDigitChars_append, ← List.replicate_one, ← List.replicate_add,
      Nat.ofDigitChars_replicate_zero, mul_zero]
  have hread := decimal?_point (s := ['0']) (by simp) (List.append_ne_nil_of_right_ne_nil _ hs) hall
  rwa [hvalue, List.length_append, List.length_replicate] at hread

end

theorem value_of_nonneg {d : Number.Decimal} (h : 0 ≤ d.exponent) :
    d.value = 10 ^ d.exponent.toNat * (d.digits : ℚ) := by
  rw [Number.Decimal.value, mul_comm, ← zpow_natCast, Int.toNat_of_nonneg h]

theorem value_of_neg {d : Number.Decimal} (h : ¬0 ≤ d.exponent) :
    d.value = d.digits / 10 ^ (-d.exponent).toNat := by
  have hpower : (10 : ℚ) ^ d.exponent = (10 ^ (-d.exponent).toNat)⁻¹ := by
    rw [← zpow_natCast, Int.toNat_of_nonneg (by omega), zpow_neg, inv_inv]
  rw [Number.Decimal.value, hpower, div_eq_mul_inv]

/-- A decimal is read back, whether its point is behind the digits, among them or in front. -/
theorem decimal?_positional (d : Number.Decimal) : decimal? d.positional = some d.value := by
  have hchars : d.digitChars = Nat.toDigits 10 d.digits := Json.digitChars_eq d
  have hne : d.digitChars ≠ [] := hchars ▸ Nat.toDigits_ne_nil
  have hdigit : ∀ c ∈ d.digitChars, c.isDigit := hchars ▸ isDigit_toDigits d.digits
  have hvalue : Nat.ofDigitChars 10 d.digitChars 0 = d.digits := hchars ▸ Nat.ofDigitChars_ten_toDigits
  unfold Number.Decimal.positional
  dsimp only
  split
  · next hwhole => rw [decimal?_zeros hne hdigit, hvalue, value_of_nonneg hwhole]
  · next hpoint =>
    rw [value_of_neg hpoint]
    split
    · next hinside =>
      have htake := List.take_append_drop (d.digitChars.length - (-d.exponent).toNat) d.digitChars
      have hlength : (d.digitChars.drop (d.digitChars.length - (-d.exponent).toNat)).length =
          (-d.exponent).toNat := by
        rw [List.length_drop]
        omega
      have htakene : d.digitChars.take (d.digitChars.length - (-d.exponent).toNat) ≠ [] := by
        rw [Ne, List.take_eq_nil_iff]
        exact not_or.2 ⟨by omega, hne⟩
      have hdropne : d.digitChars.drop (d.digitChars.length - (-d.exponent).toNat) ≠ [] :=
        List.length_pos_iff.1 (by omega)
      rw [decimal?_point htakene hdropne (htake.symm ▸ hdigit), htake, hlength, hvalue]
    · next houtside =>
      have hlength : (-d.exponent).toNat - d.digitChars.length + d.digitChars.length = (-d.exponent).toNat := by omega
      rw [decimal?_zero_point hne hdigit, hlength, hvalue]

theorem isDigit_or_eq_of_mem_positional {d : Number.Decimal} {c : Char} (hc : c ∈ d.positional) :
    c.isDigit ∨ c = '.' := by
  have hdigit : ∀ c ∈ d.digitChars, c.isDigit := Json.digitChars_eq d ▸ isDigit_toDigits d.digits
  unfold Number.Decimal.positional at hc
  dsimp only at hc
  split at hc
  · rcases List.mem_append.1 hc with hc | hc
    · exact .inl (hdigit c hc)
    · rw [List.eq_of_mem_replicate hc]
      exact .inl rfl
  · split at hc
    · rcases List.mem_append.1 hc with hc | hc
      · exact .inl (hdigit c (List.mem_of_mem_take hc))
      · rcases List.mem_cons.1 hc with rfl | hc
        · exact .inr rfl
        · exact .inl (hdigit c (List.mem_of_mem_drop hc))
    · rcases List.mem_cons.1 hc with rfl | hc
      · exact .inl rfl
      · rcases List.mem_cons.1 hc with rfl | hc
        · exact .inr rfl
        · exact .inl (isDigit_zeros_append _ hdigit c hc)

theorem splitSign_positional (d : Number.Decimal) : splitSign d.positional = (false, d.positional) :=
  splitSign_of_forall fun _ hc => isDigit_or_eq_of_mem_positional hc

/-- A double is read back from the decimal that it is written with. -/
theorem readsDouble_render {x : Float} (h : Number.isFinite x) :
    ReadsDouble (Literal.floatLayout.render x).toList x := by
  unfold Number.isFinite at h
  unfold Number.Layout.render
  cases hbits : Number.Reading.ofBits x.toBits.toNat with
  | notNumber => simp [hbits] at h
  | infinite negative => simp [hbits] at h
  | finite negative m =>
    have hnegative := Number.isNegative_of_finite hbits
    have hnearest : Number.IsNearest
        (if m.significand = 0 then ⟨0, 0⟩ else m.shortest Literal.floatLayout.tie : Number.Decimal).value x := by
      split
      · next hzero => simpa [Number.Decimal.value] using Number.isNearest_zero hbits hzero
      · next hpos => exact Number.isNearest_shortest hbits (Nat.pos_of_ne_zero hpos) _
    simp only [String.toList_ofList, finite_floatLayout]
    cases negative with
    | true => exact ⟨hnegative, _, decimal?_positional _, hnearest⟩
    | false =>
      simp only [Bool.false_eq_true, if_false, ReadsDouble, splitSign_positional]
      exact ⟨hnegative, _, decimal?_positional _, hnearest⟩

/-! ## Dates -/

theorem toList_padded (width n : ℕ) : ∃ k, (padded width n).toList = List.replicate k '0' ++ Nat.toDigits 10 n := by
  refine ⟨width - (toString n).length, ?_⟩
  rw [padded, String.toList_append, String.toList_ofList]
  exact congrArg _ Nat.toList_repr

theorem digits?_padded (width n : ℕ) : digits? (padded width n).toList = some n := by
  obtain ⟨k, hk⟩ := toList_padded width n
  rw [hk, digits?_zeros_append k (digits?_toDigits n)]

theorem isDigit_padded (width n : ℕ) : ∀ c ∈ (padded width n).toList, c.isDigit := by
  obtain ⟨k, hk⟩ := toList_padded width n
  exact hk ▸ isDigit_zeros_append k (isDigit_toDigits n)

theorem integer?_yearText (year : ℤ) : integer? (yearText year).toList = some year := by
  have hread := digits?_padded 4 year.natAbs
  unfold yearText
  split
  · have habs : -(year.natAbs : ℤ) = year := by omega
    rw [String.toList_append]
    exact (integer?_minus hread).trans (congrArg some habs)
  · have habs : (year.natAbs : ℤ) = year := by omega
    split
    · rw [String.toList_append]
      exact (integer?_plus hread).trans (congrArg some habs)
    · exact (integer?_digits (isDigit_padded 4 year.natAbs) hread).trans (congrArg some habs)

theorem not_mem_yearText {c : Char} (hc : c.isDigit = false) (hm : c ≠ '-') (hp : c ≠ '+') (year : ℤ) :
    c ∉ (yearText year).toList := by
  have hpadded := not_mem_of_isDigit hc (isDigit_padded 4 year.natAbs)
  unfold yearText
  split
  · simp [hm, hpadded]
  · split
    · simp [hp, hpadded]
    · exact hpadded

theorem day?_text (d : Date) : day? d.text.toList = some (d.year, d.month, d.day) := by
  have htext : d.text.toList = ['/'].intercalate
      [(yearText d.year).toList, (padded 2 d.month).toList, (padded 2 d.day).toList] := by
    simp [Date.text]
  have hslash : ∀ part ∈ [(yearText d.year).toList, (padded 2 d.month).toList, (padded 2 d.day).toList],
      '/' ∉ part := by
    simpa using ⟨not_mem_yearText (by decide) (by decide) (by decide) d.year,
      not_mem_of_isDigit (by decide) (isDigit_padded 2 d.month),
      not_mem_of_isDigit (by decide) (isDigit_padded 2 d.day)⟩
  rw [day?, htext, List.splitOn_intercalate '/' hslash (by simp)]
  simp [integer?_yearText, digits?_padded]

/-- The seconds are not written. -/
theorem minute?_text (t : DateTime) : minute? t.text.toList =
    some ((t.date.year, t.date.month, t.date.day), (t.hour : ℕ), (t.minute : ℕ)) := by
  have htext : t.text.toList = [' '].intercalate
      [t.date.text.toList, [':'].intercalate [(padded 2 t.hour).toList, (padded 2 t.minute).toList]] := by
    simp [DateTime.text]
  have hcolon : ∀ part ∈ [(padded 2 t.hour).toList, (padded 2 t.minute).toList], ':' ∉ part := by
    simpa using ⟨not_mem_of_isDigit (by decide) (isDigit_padded 2 t.hour),
      not_mem_of_isDigit (by decide) (isDigit_padded 2 t.minute)⟩
  have hdigits := fun n => not_mem_of_isDigit (c := ' ') (by decide) (isDigit_padded 2 n)
  have hyear := not_mem_yearText (c := ' ') (by decide) (by decide) (by decide) t.date.year
  have hblank : ∀ part ∈ [t.date.text.toList,
      [':'].intercalate [(padded 2 t.hour).toList, (padded 2 t.minute).toList]], ' ' ∉ part := by
    simp [Date.text, hyear, hdigits]
  rw [minute?, htext, List.splitOn_intercalate ' ' hblank (by simp)]
  dsimp only
  rw [List.splitOn_intercalate ':' hcolon (by simp)]
  simp [day?_text, digits?_padded]

end JiraQuery.Jql
