import JiraQuery.Proofs.Json.Numeral
import JiraQuery.Proofs.Toml.Quoting
import JiraQuery.Toml.Parser

/-!
# Values that are read back

A value is written up to the end of its line, where it is read to. A whole number is no date, since the digits
of a date end in a dash or a colon, and it is written without the marks of another base. Main statement:
`value?_render`.
-/

namespace JiraQuery.Toml

open Json (Digits Numeral)

variable {s t : List Char} {c : Char} {n : ℤ}

/-! ## Whole numbers -/

theorem ne_of_isDigit (ds : Digits) (hc : c.isDigit = false) : ∀ d ∈ ds.chars, d ≠ c := by
  rintro d hd rfl
  rw [ds.isDigit d hd] at hc
  cases hc

theorem grouped_of_ne (hne : s ≠ []) (hs : ∀ d ∈ s, d ≠ '_') : grouped s = true := by
  induction s with
  | nil => exact absurd rfl hne
  | cons d s ih =>
    obtain ⟨hd, hrest⟩ := List.forall_mem_cons.1 hs
    cases s with
    | nil => simp [grouped, hd]
    | cons e s =>
      have he : e ≠ '_' := hrest e List.mem_cons_self
      rw [grouped, if_neg he, ih (List.cons_ne_nil e s) hrest]
      simpa using hd

/-- Digits are read up to the end of their line. -/
theorem digits?_line (ds : Digits) (t : List Char) :
    digits? Char.isDigit (ds.chars ++ '\n' :: t) = some (ds.chars, '\n' :: t) := by
  have hne := ne_of_isDigit ds (c := '_') rfl
  obtain ⟨htake, hdrop⟩ := run_append (p := fun d => d.isDigit || d = '_') (s := ds.chars) (t := '\n' :: t)
    (fun d hd => by simp [ds.isDigit d hd]) (fun d hd => by cases hd; decide)
  have hfilter : ds.chars.filter (· ≠ '_') = ds.chars := by
    rw [List.filter_eq_self]
    simpa using hne
  unfold digits?
  simp only [htake, hdrop, grouped_of_ne ds.ne_nil hne, hfilter, if_true]

/-- A field of a date takes nothing but digits. -/
theorem field?_eq_some {width low high k : ℕ} {r : List Char} (h : field? width low high s = some (k, r)) :
    s.take width ++ r = s ∧ (s.take width).length = width ∧ ∀ d ∈ s.take width, d.isDigit = true := by
  unfold field? at h
  dsimp only at h
  split_ifs at h with hfield
  obtain ⟨hlength, hall, -⟩ := hfield
  obtain ⟨-, rfl⟩ := Prod.mk.inj (Option.some.inj h)
  exact ⟨List.take_append_drop width s, hlength, List.all_eq_true.1 hall⟩

/-- The digits of a line are followed by no other character, wherever a field of a date ends. -/
theorem after?_of_field? {width low high k : ℕ} {r : List Char} (ds : Digits) (hdigit : c.isDigit = false)
    (hbreak : c ≠ '\n') (h : field? width low high (ds.chars ++ '\n' :: t) = some (k, r)) :
    after? c r = none := by
  obtain ⟨happend, hlength, hall⟩ := field?_eq_some h
  cases r with
  | nil => rfl
  | cons d r =>
    refine if_neg ?_
    rintro rfl
    -- the first character that is no digit is the line break
    have hbefore : ((ds.chars ++ '\n' :: t).take width ++ d :: r).dropWhile Char.isDigit = d :: r := by
      rw [List.dropWhile_append_of_pos hall, List.dropWhile_cons_of_neg (by simp [hdigit])]
    rw [happend, List.dropWhile_append_of_pos ds.isDigit, List.dropWhile_cons_of_neg (by decide)] at hbefore
    exact hbreak (List.cons.inj hbefore).1.symm

theorem field?_sign {width low high : ℕ} : field? (width + 1) low high ('-' :: s) = none := by
  unfold field?
  dsimp only
  rw [if_neg]
  simp

theorem dateRest?_digits (ds : Digits) (t : List Char) : dateRest? (ds.chars ++ '\n' :: t) = none := by
  have hday : day? (ds.chars ++ '\n' :: t) = none := by
    unfold day?
    cases hyear : field? 4 0 9999 (ds.chars ++ '\n' :: t) with
    | none => rfl
    | some year =>
      have hdash := after?_of_field? (c := '-') ds rfl (by decide) hyear
      simp [hdash]
  have hclock : clock? (ds.chars ++ '\n' :: t) = none := by
    unfold clock?
    cases hhour : field? 2 0 23 (ds.chars ++ '\n' :: t) with
    | none => rfl
    | some hour =>
      have hcolon := after?_of_field? (c := ':') ds rfl (by decide) hhour
      simp [hcolon]
  unfold dateRest?
  rw [hday]
  exact hclock

theorem dateRest?_sign : dateRest? ('-' :: s) = none := by
  have hday : day? ('-' :: s) = none := by
    unfold day?
    rw [field?_sign]
    rfl
  unfold dateRest?
  rw [hday]
  show clock? ('-' :: s) = none
  unfold clock?
  rw [field?_sign]
  rfl

/-- Only zero is written with a zero at its front. -/
theorem ofNat_ne_zero_cons (n : ℕ) {u : List Char} (hu : ∀ c ∈ u.head?, c ≠ '\n') :
    (Digits.ofNat n).chars ++ '\n' :: t ≠ '0' :: u := by
  intro h
  rcases Nat.eq_zero_or_pos n with rfl | hpos
  · obtain rfl : '\n' :: t = u := (List.cons.inj h).2
    exact hu '\n' rfl rfl
  · have hhead : (Digits.ofNat n).chars.head? = some '0' := by
      rw [← List.head?_append_of_ne_nil _ (Digits.ofNat n).ne_nil, h]
      rfl
    exact Json.head?_toDigits_ne_zero hpos hhead

theorem wholeDigits?_line (n : ℕ) (t : List Char) :
    wholeDigits? ((Digits.ofNat n).chars ++ '\n' :: t) = some ((Digits.ofNat n).chars, '\n' :: t) := by
  rcases Nat.eq_zero_or_pos n with rfl | hpos
  · rfl
  · unfold wholeDigits?
    split
    · next r heq =>
      have hhead : (Digits.ofNat n).chars.head? = some '0' := by
        rw [← List.head?_append_of_ne_nil _ (Digits.ofNat n).ne_nil, heq]
        rfl
      exact absurd hhead (Json.head?_toDigits_ne_zero hpos)
    · exact digits?_line _ t

theorem ofInt_text (n : ℤ) (t : List Char) : (Numeral.ofInt n).text ++ t =
    if n < 0 then '-' :: ((Digits.ofNat n.natAbs).chars ++ t) else (Digits.ofNat n.natAbs).chars ++ t := by
  unfold Numeral.text Numeral.ofInt
  by_cases hneg : n < 0
  · simp [hneg, Numeral.placesText, Numeral.powerText]
  · simp [hneg, Numeral.placesText, Numeral.powerText]

theorem takeSign_digits (ds : Digits) (t : List Char) : Number.takeSign (ds.chars ++ t) = (false, ds.chars ++ t) := by
  cases hds : ds.chars with
  | nil => exact absurd hds ds.ne_nil
  | cons d r =>
    have hminus := ne_of_isDigit ds (c := '-') rfl d (by simp [hds])
    have hplus := ne_of_isDigit ds (c := '+') rfl d (by simp [hds])
    rw [List.cons_append]
    unfold Number.takeSign
    split <;> simp_all

theorem takeSign_ofInt (n : ℤ) (t : List Char) :
    Number.takeSign ((Numeral.ofInt n).text ++ t) = (decide (n < 0), (Digits.ofNat n.natAbs).chars ++ t) := by
  rw [ofInt_text]
  by_cases hneg : n < 0
  · rw [if_pos hneg, decide_eq_true hneg]
    rfl
  · rw [if_neg hneg, decide_eq_false hneg]
    exact takeSign_digits _ t

theorem decimal?_line (hlow : -0x8000000000000000 ≤ n) (hhigh : n < 0x8000000000000000) (t : List Char) :
    decimal? ((Numeral.ofInt n).text ++ '\n' :: t) = some (.int n, '\n' :: t) := by
  have hsign : (if decide (n < 0) = true then -(n.natAbs : ℤ) else n.natAbs) = n := by
    by_cases hneg : n < 0
    · simp only [hneg, decide_true, if_true]
      omega
    · simp only [hneg, decide_false, Bool.false_eq_true, if_false]
      omega
  unfold decimal?
  rw [takeSign_ofInt]
  simp only [wholeDigits?_line]
  show whole? (if decide (n < 0) = true then -(Number.ofDigits (Digits.ofNat n.natAbs).chars : ℤ)
    else Number.ofDigits (Digits.ofNat n.natAbs).chars) ('\n' :: t) = _
  rw [Json.ofDigits_ofNat, hsign]
  exact if_pos ⟨hlow, hhigh⟩

theorem namedDouble?_ofInt (n : ℤ) (t : List Char) : namedDouble? ((Numeral.ofInt n).text ++ t) = none := by
  unfold namedDouble?
  rw [takeSign_ofInt]
  cases hds : (Digits.ofNat n.natAbs).chars with
  | nil => exact absurd hds (Digits.ofNat n.natAbs).ne_nil
  | cons d r =>
    have hi := ne_of_isDigit (Digits.ofNat n.natAbs) (c := 'i') rfl d (by simp [hds])
    have hn := ne_of_isDigit (Digits.ofNat n.natAbs) (c := 'n') rfl d (by simp [hds])
    simp [List.isPrefixOf?, hi.symm, hn.symm]

theorem number?_line (hlow : -0x8000000000000000 ≤ n) (hhigh : n < 0x8000000000000000) (t : List Char) :
    number? ((Numeral.ofInt n).text ++ '\n' :: t) = some (.int n, '\n' :: t) := by
  have hdate : dateRest? ((Numeral.ofInt n).text ++ '\n' :: t) = none := by
    rw [ofInt_text]
    by_cases hneg : n < 0
    · rw [if_pos hneg]
      exact dateRest?_sign
    · rw [if_neg hneg]
      exact dateRest?_digits _ t
  have hmark : ∀ u, (∀ c ∈ u.head?, c ≠ '\n') → (Numeral.ofInt n).text ++ '\n' :: t ≠ '0' :: u := by
    intro u hu
    rw [ofInt_text]
    by_cases hneg : n < 0
    · rw [if_pos hneg]
      exact fun h => absurd (List.cons.inj h).1 (by decide)
    · rw [if_neg hneg]
      exact ofNat_ne_zero_cons _ hu
  unfold number?
  rw [hdate]
  dsimp only
  split
  · next u heq => exact absurd heq (hmark ('x' :: u) (by simp))
  · next u heq => exact absurd heq (hmark ('o' :: u) (by simp))
  · next u heq => exact absurd heq (hmark ('b' :: u) (by simp))
  · rw [namedDouble?_ofInt, decimal?_line hlow hhigh]
    rfl

/-! ## All values -/

/-- Whether a whole number has 64 bits with a sign. -/
def Scalar.Fits : Scalar → Prop
  | .whole n => -0x8000000000000000 ≤ n ∧ n < 0x8000000000000000
  | _ => True

theorem value?_of_head {fuel depth : ℕ} (h : ∀ c ∈ s.head?, c ≠ '[' ∧ c ≠ '\x7b') :
    value? (fuel + 1) depth s = scalar? s := by
  unfold value?
  split <;> simp_all

theorem scalar?_of_head (h : ∀ c ∈ s.head?, c ≠ '"' ∧ c ≠ '\x27' ∧ c ≠ 't' ∧ c ≠ 'f') :
    scalar? s = number? s := by
  cases s with
  | nil => rfl
  | cons c s =>
    obtain ⟨hdouble, hsingle, ht, hf⟩ := h c rfl
    have htext : text? (c :: s) = none := by
      unfold text?
      split <;> simp_all
    have hconstant : constant? (c :: s) = none := by
      simp [constant?, List.isPrefixOf?, ht.symm, hf.symm]
    unfold scalar?
    rw [htext, hconstant]
    rfl

theorem head_text {u : String} (hc : c ∈ ((Scalar.text u).render.toList ++ t).head?) :
    c = '"' ∨ c = '\x27' := by
  have hquote : (Scalar.text u).render.toList = quoteChars u.toList := String.toList_ofList
  rw [hquote, quoteChars] at hc
  cases hstyle : quoteStyle u.toList with
  | basic =>
    obtain rfl : '"' = c := by simpa [hstyle, QuoteStyle.delimiter] using hc
    exact .inl rfl
  | literal =>
    obtain rfl : '\x27' = c := by simpa [hstyle, QuoteStyle.delimiter] using hc
    exact .inr rfl
  | basicLines =>
    obtain rfl : '"' = c := by simpa [hstyle, QuoteStyle.delimiter] using hc
    exact .inl rfl
  | literalLines =>
    obtain rfl : '\x27' = c := by simpa [hstyle, QuoteStyle.delimiter] using hc
    exact .inr rfl

theorem head_whole (hc : c ∈ ((Scalar.whole n).render.toList ++ t).head?) : c = '-' ∨ c.isDigit = true := by
  have hdigits : (Scalar.whole n).render.toList = (Numeral.ofInt n).text := Json.toList_toString_int n
  rw [hdigits, ofInt_text] at hc
  by_cases hneg : n < 0
  · rw [if_pos hneg] at hc
    exact .inl (Option.some.inj hc).symm
  · rw [if_neg hneg, List.head?_append_of_ne_nil _ (Digits.ofNat n.natAbs).ne_nil] at hc
    exact .inr ((Digits.ofNat n.natAbs).isDigit c (List.mem_of_mem_head? hc))

/-- A value is read back from its line. -/
theorem value?_render {fuel depth : ℕ} (hfuel : 2 ≤ fuel) (hdepth : 1 ≤ depth) {v : Scalar} (hv : v.Fits)
    (t : List Char) : value? fuel depth (v.render.toList ++ '\n' :: t) = some (v.toJson, '\n' :: t) := by
  obtain ⟨fuel, rfl⟩ : ∃ k, fuel = k + 2 := ⟨fuel - 2, by omega⟩
  obtain ⟨depth, rfl⟩ : ∃ k, depth = k + 1 := ⟨depth - 1, by omega⟩
  cases v with
  | text u =>
    have hread : text? ((Scalar.text u).render.toList ++ '\n' :: t) = some (u, '\n' :: t) := by
      have hquoted : text? (quoteChars u.toList ++ '\n' :: t) = some (String.ofList u.toList, '\n' :: t) :=
        text?_quoteChars (by simp) u.toList
      rw [String.ofList_toList] at hquoted
      simpa [Scalar.render, quote] using hquoted
    rw [value?_of_head, scalar?, hread]
    · rfl
    · intro c hc
      rcases head_text hc with rfl | rfl
      · decide
      · decide
  | whole n =>
    rw [value?_of_head, scalar?_of_head]
    · have hdigits : (Scalar.whole n).render.toList = (Numeral.ofInt n).text := Json.toList_toString_int n
      rw [hdigits]
      exact number?_line hv.1 hv.2 t
    · intro c hc
      rcases head_whole hc with rfl | hdigit
      · decide
      · refine ⟨?_, ?_, ?_, ?_⟩ <;> rintro rfl <;> cases hdigit
    · intro c hc
      rcases head_whole hc with rfl | hdigit
      · decide
      · refine ⟨?_, ?_⟩ <;> rintro rfl <;> cases hdigit
  | flag b =>
    cases b with
    | false => rfl
    | true => rfl
  | emptyList => rfl

theorem skipSpace_of_head (h : ∀ c ∈ s.head?, isSpace c = false) : skipSpace s = s := by
  cases s with
  | nil => rfl
  | cons c s => exact List.dropWhile_cons_of_neg (by simp [h c rfl])

/-- No value begins with a blank. -/
theorem skipSpace_render (v : Scalar) (t : List Char) :
    skipSpace (v.render.toList ++ t) = v.render.toList ++ t := by
  cases v with
  | text u =>
    apply skipSpace_of_head
    intro c hc
    rcases head_text hc with rfl | rfl
    · rfl
    · rfl
  | whole n =>
    apply skipSpace_of_head
    intro c hc
    rw [isSpace, Bool.or_eq_false_iff, decide_eq_false_iff_not, decide_eq_false_iff_not]
    rcases head_whole hc with rfl | hdigit
    · decide
    · constructor <;> rintro rfl <;> cases hdigit
  | flag b =>
    cases b with
    | false => rfl
    | true => rfl
  | emptyList => rfl

end JiraQuery.Toml
