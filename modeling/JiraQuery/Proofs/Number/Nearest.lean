import JiraQuery.Number.Shortest
import Mathlib

/-!
# The nearest double

The decimal that a double is written with lies nearer to it than to any other double, or in the middle if the
double is the even one (`IsNearest`), so that the double is what the decimal is rounded to. Doubles are as far
apart as their exponents say, and the decimal lies within half of that. Main statement:
`isNearest_shortest`.
-/

namespace JiraQuery.Number

open Float.Model (Format UnpackedFloat)
open Float.Model.UnpackedFloat (Sign unpackMantissa unpackExponent unpackSign)

/-! ## Sizes -/

/-- The size of a double that is a number. An infinite one counts as the power of two that comes after the
greatest finite one. -/
def size? (x : Float) : Option ℚ :=
  match x.toModel.unpack with
  | .notANumber => none
  | .infinity _ => some (2 ^ 1024)
  | .zero _ => some 0
  | .finite _ significand exponent _ => some (significand * 2 ^ exponent)

/-- Whether a double has a minus sign; zero may have one. -/
def isNegative (x : Float) : Bool :=
  match x.toModel.unpack with
  | .notANumber => false
  | .infinity sign | .zero sign | .finite sign _ _ _ => sign == .negative

/-- Whether a number is rounded to a double of this sign or the other: no other double is nearer, and of two
that are equally near this one is even. -/
def IsNearest (v : ℚ) (x : Float) : Prop :=
  ∃ s, size? x = some s ∧ ∀ y t, size? y = some t → t ≠ s →
    |v - s| < |v - t| ∨ |v - s| = |v - t| ∧ x.toBits.toNat % 2 = 0

theorem two_zpow_pos (e : ℤ) : (0 : ℚ) < 2 ^ e :=
  zpow_pos (by norm_num) e

/-- A power as a fraction of natural powers, one of which is one. -/
theorem zpow_eq_div (a : ℚ) (e : ℤ) : a ^ e = a ^ e.toNat / a ^ (-e).toNat := by
  rcases le_total 0 e with h | h
  · rw [Int.toNat_eq_zero.2 (by omega : -e ≤ 0), pow_zero, div_one, ← zpow_natCast, Int.toNat_of_nonneg h]
  · rw [Int.toNat_eq_zero.2 h, pow_zero, ← zpow_natCast, Int.toNat_of_nonneg (by omega : 0 ≤ -e), zpow_neg,
      one_div, inv_inv]

namespace Magnitude

variable {m n : Magnitude}

def value (m : Magnitude) : ℚ :=
  m.significand * 2 ^ m.exponent

/-- The significand of a double and its exponent. The significand has no more places than there are, and as
many unless the exponent is the least one. -/
structure IsDouble (m : Magnitude) : Prop where
  significand_lt : m.significand < 2 ^ 53
  le_exponent : -1074 ≤ m.exponent
  full : m.exponent = -1074 ∨ 2 ^ 52 ≤ m.significand

/-- How far the next smaller double is away, in halves of the distance to the next greater one. -/
def below (m : Magnitude) : ℕ :=
  if m.significand = leadingBit ∧ -1074 < m.exponent then 1 else 2

theorem one_le_below (m : Magnitude) : 1 ≤ m.below := by
  unfold below
  split <;> omega

theorem below_le_two (m : Magnitude) : m.below ≤ 2 := by
  unfold below
  split <;> omega

/-- A value in places of a smaller exponent. -/
theorem value_eq_of_le (h : m.exponent ≤ n.exponent) : ∃ k : ℕ, n.value = k * 2 ^ m.exponent := by
  refine ⟨n.significand * 2 ^ (n.exponent - m.exponent).toNat, ?_⟩
  have hpow : (2 : ℚ) ^ n.exponent = 2 ^ (n.exponent - m.exponent).toNat * 2 ^ m.exponent := by
    rw [← zpow_natCast, Int.toNat_of_nonneg (by omega : 0 ≤ n.exponent - m.exponent), ← zpow_add₀ (by norm_num)]
    congr 1
    omega
  rw [value, hpow]
  push_cast
  ring

/-- A double with a smaller exponent is less than the first one with a full significand. -/
theorem value_le_of_lt (hn : n.IsDouble) (h : n.exponent < m.exponent) :
    n.value ≤ 2 ^ 52 * 2 ^ m.exponent - 2 ^ m.exponent / 2 := by
  have hsignificand : (n.significand : ℚ) ≤ 2 ^ 53 - 1 := by
    have hlt : n.significand + 1 ≤ 2 ^ 53 := hn.significand_lt
    have hcast : ((n.significand + 1 : ℕ) : ℚ) ≤ (2 ^ 53 : ℕ) := Nat.cast_le.2 hlt
    push_cast at hcast
    linarith
  have hhalf : (2 : ℚ) ^ n.exponent ≤ 2 ^ m.exponent / 2 := by
    rw [div_eq_mul_inv, ← zpow_sub_one₀ (by norm_num)]
    exact zpow_le_zpow_right₀ (by norm_num) (by omega)
  calc n.value ≤ (2 ^ 53 - 1) * 2 ^ n.exponent :=
        mul_le_mul_of_nonneg_right hsignificand (two_zpow_pos _).le
    _ ≤ (2 ^ 53 - 1) * (2 ^ m.exponent / 2) := mul_le_mul_of_nonneg_left hhalf (by norm_num)
    _ = 2 ^ 52 * 2 ^ m.exponent - 2 ^ m.exponent / 2 := by ring

/-- With a greater exponent than the least one, a significand is full. -/
theorem le_value_of_lt (hm : m.IsDouble) (hn : n.IsDouble) (h : n.exponent < m.exponent) :
    2 ^ 52 * 2 ^ m.exponent ≤ m.value := by
  have hle := hn.le_exponent
  have hfull : 2 ^ 52 ≤ m.significand := hm.full.resolve_left (by omega)
  have hcast : (2 ^ 52 : ℚ) ≤ m.significand := by exact_mod_cast hfull
  exact mul_le_mul_of_nonneg_right hcast (two_zpow_pos _).le

/-- A greater double is away by at least one place. -/
theorem add_le_of_lt (hm : m.IsDouble) (hn : n.IsDouble) (h : m.value < n.value) :
    m.value + 2 ^ m.exponent ≤ n.value := by
  have hpos := two_zpow_pos m.exponent
  rcases le_or_gt m.exponent n.exponent with hle | hlt
  · obtain ⟨k, hk⟩ := value_eq_of_le hle
    rw [hk, value] at h ⊢
    have hsucc : m.significand + 1 ≤ k := by
      exact_mod_cast (mul_lt_mul_iff_left₀ hpos).1 h
    have hcast : (m.significand + 1 : ℚ) ≤ k := by exact_mod_cast hsucc
    have hmul := mul_le_mul_of_nonneg_right hcast hpos.le
    linarith
  · have hfull := le_value_of_lt hm hn hlt
    have hless := value_le_of_lt hn hlt
    linarith

/-- A smaller double is away by one place as well, or by half a place where the exponents change. -/
theorem add_le_of_gt (hm : m.IsDouble) (hn : n.IsDouble) (h : n.value < m.value) :
    n.value + m.below / 2 * 2 ^ m.exponent ≤ m.value := by
  have hpos := two_zpow_pos m.exponent
  have hbelow : (m.below : ℚ) ≤ 2 := by exact_mod_cast m.below_le_two
  have hplace : (m.below : ℚ) / 2 * 2 ^ m.exponent ≤ 2 ^ m.exponent := by nlinarith
  rcases le_or_gt m.exponent n.exponent with hle | hlt
  · obtain ⟨k, hk⟩ := value_eq_of_le hle
    rw [hk, value] at h ⊢
    have hsucc : k + 1 ≤ m.significand := by
      exact_mod_cast (mul_lt_mul_iff_left₀ hpos).1 h
    have hcast : (k + 1 : ℚ) ≤ m.significand := by exact_mod_cast hsucc
    have hmul := mul_le_mul_of_nonneg_right hcast hpos.le
    linarith
  · have hless := value_le_of_lt hn hlt
    have hfull := le_value_of_lt hm hn hlt
    by_cases hfirst : m.significand = leadingBit
    · have hone : m.below = 1 := by
        have hle := hn.le_exponent
        exact if_pos ⟨hfirst, by omega⟩
      rw [hone]
      push_cast
      linarith
    · have hnext : 2 ^ 52 + 1 ≤ m.significand := by
        have hle := hn.le_exponent
        have hsome : 2 ^ 52 ≤ m.significand := hm.full.resolve_left (by omega)
        have hne : m.significand ≠ 2 ^ 52 := hfirst
        omega
      have hcast : (2 ^ 52 + 1 : ℚ) ≤ m.significand := by exact_mod_cast hnext
      have hmul : (2 ^ 52 + 1) * 2 ^ m.exponent ≤ m.value := mul_le_mul_of_nonneg_right hcast hpos.le
      linarith

/-! ## Nearness -/

/-- A number within half the distance to the next doubles. Its ends belong to it if the significand is even. -/
structure Covers (m : Magnitude) (v : ℚ) : Prop where
  low : m.value - m.below / 4 * 2 ^ m.exponent ≤ v
  high : v ≤ m.value + 2 ^ m.exponent / 2
  odd : m.significand % 2 ≠ 0 →
    m.value - m.below / 4 * 2 ^ m.exponent < v ∧ v < m.value + 2 ^ m.exponent / 2

theorem Covers.nearer {v : ℚ} (h : m.Covers v) (hm : m.IsDouble) (hn : n.IsDouble) (hne : n.value ≠ m.value) :
    |v - m.value| < |v - n.value| ∨ |v - m.value| = |v - n.value| ∧ m.significand % 2 = 0 := by
  have hpos := two_zpow_pos m.exponent
  have hbelow : (1 : ℚ) ≤ m.below := by exact_mod_cast m.one_le_below
  have hplace : 0 < (m.below : ℚ) / 4 * 2 ^ m.exponent := by positivity
  have hle : |v - m.value| ≤ |v - n.value| ∧
      (m.significand % 2 ≠ 0 → |v - m.value| < |v - n.value|) := by
    rcases lt_or_gt_of_ne hne with hless | hgreater
    · have hgap := add_le_of_gt hm hn hless
      have hdist := le_abs_self (v - n.value)
      refine ⟨(abs_le.2 ⟨?_, ?_⟩).trans hdist, fun hodd => (abs_lt.2 ⟨?_, ?_⟩).trans_le hdist⟩
      · linarith [h.low]
      · linarith
      · linarith [(h.odd hodd).1]
      · linarith
    · have hgap := add_le_of_lt hm hn hgreater
      have hdist := neg_le_abs (v - n.value)
      refine ⟨(abs_le.2 ⟨?_, ?_⟩).trans hdist, fun hodd => (abs_lt.2 ⟨?_, ?_⟩).trans_le hdist⟩
      · linarith
      · linarith [h.high]
      · linarith
      · linarith [(h.odd hodd).2]
  rcases hle.1.lt_or_eq with hlt | heq
  · exact .inl hlt
  · refine .inr ⟨heq, ?_⟩
    by_contra hodd
    exact (hle.2 hodd).ne heq

end Magnitude

/-! ## The search -/

def Decimal.value (d : Decimal) : ℚ :=
  d.digits * 10 ^ d.exponent

theorem Tie.pick_cases (tie : Tie) (d : ℕ) : tie.pick d = d ∨ tie.pick d = d + 1 := by
  cases tie with
  | up => exact .inr rfl
  | even => exact ite_eq_or_eq _ d (d + 1)

namespace Interval

variable {i : Interval} {e : ℤ} {d : ℕ} {v : ℚ}

/-- A number between the ends. -/
structure Contains (i : Interval) (v : ℚ) : Prop where
  low : i.low / i.den ≤ v
  high : v ≤ i.high / i.den
  open_ends : i.closed = false → i.low / i.den < v ∧ v < i.high / i.den

section
variable (hden : 0 < i.den)

include hden

theorem le_point_iff {n : ℕ} :
    (n / i.den : ℚ) ≤ d * 10 ^ e ↔ n * 10 ^ (-e).toNat ≤ d * 10 ^ e.toNat * i.den := by
  have hden' : (0 : ℚ) < i.den := by exact_mod_cast hden
  rw [zpow_eq_div, ← mul_div_assoc, div_le_div_iff₀ hden' (by positivity)]
  exact_mod_cast Iff.rfl

theorem point_le_iff {n : ℕ} :
    (d * 10 ^ e : ℚ) ≤ n / i.den ↔ d * 10 ^ e.toNat * i.den ≤ n * 10 ^ (-e).toNat := by
  have hden' : (0 : ℚ) < i.den := by exact_mod_cast hden
  rw [zpow_eq_div, ← mul_div_assoc, div_le_div_iff₀ (by positivity) hden']
  exact_mod_cast Iff.rfl

theorem holds_iff : i.holds e d = true ↔ i.Contains (d * 10 ^ e) := by
  have hlow := le_point_iff hden (e := e) (d := d) (n := i.low)
  have hhigh := point_le_iff hden (e := e) (d := d) (n := i.high)
  have hlow' := (point_le_iff hden (e := e) (d := d) (n := i.low)).not
  have hhigh' := (le_point_iff hden (e := e) (d := d) (n := i.high)).not
  rw [not_le, not_le] at hlow' hhigh'
  unfold holds
  cases hclosed : i.closed with
  | true =>
    rw [if_pos rfl, Bool.and_eq_true, decide_eq_true_eq, decide_eq_true_eq]
    constructor
    · rintro ⟨hl, hh⟩
      exact ⟨hlow.2 hl, hhigh.2 hh, by simp [hclosed]⟩
    · rintro ⟨hl, hh, -⟩
      exact ⟨hlow.1 hl, hhigh.1 hh⟩
  | false =>
    rw [if_neg Bool.false_ne_true, Bool.and_eq_true, decide_eq_true_eq, decide_eq_true_eq]
    constructor
    · rintro ⟨hl, hh⟩
      have hl' := hlow'.2 hl
      have hh' := hhigh'.2 hh
      exact ⟨hl'.le, hh'.le, fun _ => ⟨hl', hh'⟩⟩
    · rintro ⟨-, -, hopen⟩
      exact ⟨hlow'.1 (hopen hclosed).1, hhigh'.1 (hopen hclosed).2⟩

theorem contains_of_nearest? {tie : Tie} (h : i.nearest? tie e = some d) : i.Contains (d * 10 ^ e) := by
  refine (holds_iff hden).1 ?_
  unfold nearest? at h
  dsimp only at h
  split at h
  · next hfirst hsecond =>
    obtain rfl := Option.some.inj h
    split
    · exact hfirst
    · split
      · exact hsecond
      · rcases tie.pick_cases (i.value * Nat.pow 10 (-e).toNat / (i.den * Nat.pow 10 e.toNat)) with heq | heq
        · rwa [heq]
        · rwa [heq]
  · next hfirst hsecond =>
    obtain rfl := Option.some.inj h
    exact hfirst
  · next hfirst hsecond =>
    obtain rfl := Option.some.inj h
    exact hsecond
  · cases h

/-- On a grid that is fine enough, the multiple in front of the value is near enough. -/
theorem exists_nearest? (tie : Tie) (hfine : (10 ^ e : ℚ) ≤ i.value / i.den - i.low / i.den)
    (hhigh : i.value < i.high) : ∃ d, i.nearest? tie e = some d := by
  have hholds : i.holds e (i.value * Nat.pow 10 (-e).toNat / (i.den * Nat.pow 10 e.toNat)) = true := by
    refine (holds_iff hden).2 ?_
    have hden' : (0 : ℚ) < i.den := by exact_mod_cast hden
    have hgrid : 0 < i.den * 10 ^ e.toNat := by positivity
    have hpos : (0 : ℚ) < 10 ^ e := by positivity
    have hvalue : (i.value / i.den : ℚ) =
        (i.value * 10 ^ (-e).toNat : ℕ) / (i.den * 10 ^ e.toNat : ℕ) * 10 ^ e := by
      rw [zpow_eq_div]
      push_cast
      field_simp
    have hfloor : ((i.value * 10 ^ (-e).toNat / (i.den * 10 ^ e.toNat) : ℕ) : ℚ) ≤
        (i.value * 10 ^ (-e).toNat : ℕ) / (i.den * 10 ^ e.toNat : ℕ) := Nat.cast_div_le
    have hnext : ((i.value * 10 ^ (-e).toNat : ℕ) / (i.den * 10 ^ e.toNat : ℕ) : ℚ) <
        (i.value * 10 ^ (-e).toNat / (i.den * 10 ^ e.toNat) : ℕ) + 1 := by
      rw [div_lt_iff₀ (by exact_mod_cast hgrid)]
      have hlt := Nat.lt_mul_div_succ (i.value * 10 ^ (-e).toNat) hgrid
      rw [Nat.mul_comm (i.den * 10 ^ e.toNat)] at hlt
      exact_mod_cast hlt
    have hend : (i.value / i.den : ℚ) < i.high / i.den :=
      div_lt_div_of_pos_right (by exact_mod_cast hhigh) hden'
    have hle := mul_le_mul_of_nonneg_right hfloor hpos.le
    have hlt := mul_lt_mul_of_pos_right hnext hpos
    rw [← hvalue] at hle hlt
    have hin : (i.low / i.den : ℚ) <
        (i.value * 10 ^ (-e).toNat / (i.den * 10 ^ e.toNat) : ℕ) * 10 ^ e := by linarith
    have hout := hle.trans_lt hend
    exact ⟨hin.le, hout.le, fun _ => ⟨hin, hout⟩⟩
  unfold nearest?
  dsimp only
  rw [hholds]
  cases i.holds e (i.value * Nat.pow 10 (-e).toNat / (i.den * Nat.pow 10 e.toNat) + 1) with
  | true => exact ⟨_, rfl⟩
  | false => exact ⟨_, rfl⟩

/-- The search gets to a decimal between the ends if one of its grids is fine enough. -/
theorem contains_search (tie : Tie) (hhigh : i.value < i.high) (fuel : ℕ) (e : ℤ)
    (hfine : ∃ j < fuel, (10 ^ (e - j : ℤ) : ℚ) ≤ i.value / i.den - i.low / i.den) :
    i.Contains (i.search tie fuel e).value := by
  induction fuel generalizing e with
  | zero =>
    obtain ⟨j, hj, -⟩ := hfine
    exact absurd hj (Nat.not_lt_zero j)
  | succ fuel ih =>
    unfold search
    cases hnearest : i.nearest? tie e with
    | some d => exact contains_of_nearest? hden hnearest
    | none =>
      obtain ⟨j, hj, hfine⟩ := hfine
      cases j with
      | zero =>
        obtain ⟨d, hd⟩ := exists_nearest? hden tie (by simpa using hfine) hhigh
        rw [hnearest] at hd
        cases hd
      | succ j =>
        refine ih (e - 1) ⟨j, Nat.lt_of_succ_lt_succ hj, ?_⟩
        have heq : e - 1 - j = e - (j + 1 : ℕ) := by push_cast; ring
        rwa [heq]

end

end Interval

/-! ## The shortest decimal -/

/-- Powers of ten against powers of two, by `10 ^ 3 ≤ 2 ^ 10` and `2 ^ 93 ≤ 10 ^ 28`. -/
theorem ten_zpow_le {a b : ℤ} (hpos : 10 * a ≤ 3 * b) (hneg : 93 * a ≤ 28 * b) : (10 : ℚ) ^ a ≤ 2 ^ b := by
  rcases le_total 0 a with ha | ha
  · obtain ⟨n, rfl⟩ := Int.eq_ofNat_of_zero_le ha
    refine le_of_pow_le_pow_left₀ three_ne_zero (two_zpow_pos b).le ?_
    calc ((10 : ℚ) ^ (n : ℤ)) ^ 3 = (10 ^ 3) ^ n := by rw [zpow_natCast, ← pow_mul, ← pow_mul, mul_comm]
      _ ≤ (2 ^ 10) ^ n := pow_le_pow_left₀ (by norm_num) (by norm_num) n
      _ = 2 ^ (10 * n : ℤ) := by rw [← pow_mul]; exact_mod_cast rfl
      _ ≤ 2 ^ (b * 3) := zpow_le_zpow_right₀ (by norm_num) (by omega)
      _ = (2 ^ b) ^ 3 := by rw [zpow_mul]; rfl
  · obtain ⟨n, hn⟩ := Int.eq_ofNat_of_zero_le (Int.neg_nonneg_of_nonpos ha)
    obtain rfl : a = -n := by omega
    refine le_of_pow_le_pow_left₀ (by norm_num : 28 ≠ 0) (two_zpow_pos b).le ?_
    calc ((10 : ℚ) ^ (-n : ℤ)) ^ 28 = ((10 ^ 28) ^ n)⁻¹ := by
          rw [zpow_neg, zpow_natCast, inv_pow, ← pow_mul, ← pow_mul, mul_comm]
      _ ≤ ((2 ^ 93) ^ n)⁻¹ := inv_anti₀ (by positivity) (pow_le_pow_left₀ (by norm_num) (by norm_num) n)
      _ = 2 ^ (-(93 * n : ℤ)) := by rw [zpow_neg, ← pow_mul]; exact_mod_cast rfl
      _ ≤ 2 ^ (b * 28) := zpow_le_zpow_right₀ (by norm_num) (by omega)
      _ = (2 ^ b) ^ 28 := by rw [zpow_mul]; rfl

/-- The grids that are searched become as fine as a quarter of the last place of seventeen digits. -/
theorem ten_zpow_fdiv_le {k : ℤ} (hlow : -1074 ≤ k) (hhigh : k ≤ 1023) :
    (10 : ℚ) ^ (Int.fdiv (k * 30103) 100000 - 18) ≤ 2 ^ (k - 54) := by
  have hdiv : 100000 * Int.fdiv (k * 30103) 100000 ≤ k * 30103 := by
    rw [Int.fdiv_eq_ediv_of_nonneg _ (by norm_num)]
    exact Int.mul_ediv_self_le (by norm_num)
  have hpower : (10 : ℚ) ^ Int.fdiv (k * 30103) 100000 ≤ 2 ^ (k + 5) := ten_zpow_le (by omega) (by omega)
  have hsmall : (10 : ℚ) ^ (-18 : ℤ) ≤ 2 ^ (-59 : ℤ) := by norm_num
  calc (10 : ℚ) ^ (Int.fdiv (k * 30103) 100000 - 18)
      = 10 ^ Int.fdiv (k * 30103) 100000 * 10 ^ (-18 : ℤ) := by
        rw [← zpow_add₀ (by norm_num)]
        rfl
    _ ≤ 2 ^ (k + 5) * 2 ^ (-59 : ℤ) := mul_le_mul hpower hsmall (by positivity) (by positivity)
    _ = 2 ^ (k - 54) := by
        rw [← zpow_add₀ (by norm_num)]
        congr 1
        omega

namespace Magnitude

variable {m : Magnitude}

theorem den_interval_pos (m : Magnitude) : 0 < m.interval.den :=
  Nat.pow_pos Nat.zero_lt_two

/-- The numerators of an interval are in quarters of the last place. -/
theorem quarters (m : Magnitude) (n : ℕ) :
    ((n * Nat.pow 2 (m.exponent - 2).toNat : ℕ) : ℚ) / m.interval.den = n / 4 * 2 ^ m.exponent := by
  have hden : ((m.interval.den : ℕ) : ℚ) = 2 ^ (-(m.exponent - 2)).toNat := by
    rw [neg_sub]
    exact Nat.cast_pow 2 _
  have hsplit : (2 : ℚ) ^ m.exponent = 2 ^ (m.exponent - 2) * 4 := by
    rw [zpow_sub₀ (by norm_num)]
    norm_num
  have hnum : ((Nat.pow 2 (m.exponent - 2).toNat : ℕ) : ℚ) = 2 ^ (m.exponent - 2).toNat := Nat.cast_pow 2 _
  rw [Nat.cast_mul, hnum, hden, hsplit, zpow_eq_div 2 (m.exponent - 2)]
  ring

theorem value_interval (m : Magnitude) : (m.interval.value : ℚ) / m.interval.den = m.value := by
  refine (m.quarters (4 * m.significand)).trans ?_
  rw [value]
  push_cast
  ring

theorem high_interval (m : Magnitude) :
    (m.interval.high : ℚ) / m.interval.den = m.value + 2 ^ m.exponent / 2 := by
  refine (m.quarters (4 * m.significand + 2)).trans ?_
  rw [value]
  push_cast
  ring

theorem low_interval (hm : 0 < m.significand) :
    (m.interval.low : ℚ) / m.interval.den = m.value - m.below / 4 * 2 ^ m.exponent := by
  have hle : m.below ≤ 4 * m.significand := by
    have := m.below_le_two
    omega
  refine (m.quarters (4 * m.significand - m.below)).trans ?_
  rw [value, Nat.cast_sub hle]
  push_cast
  ring

theorem covers_of_contains (hm : 0 < m.significand) {v : ℚ} (h : m.interval.Contains v) : m.Covers v := by
  obtain ⟨hlow, hhigh, hopen⟩ := h
  rw [low_interval hm] at hlow hopen
  rw [high_interval] at hhigh hopen
  exact ⟨hlow, hhigh, fun hodd => hopen (decide_eq_false hodd)⟩

/-- Seventeen digits suffice. -/
theorem contains_shortest (hm : m.IsDouble) (hexponent : m.exponent ≤ 971) (hpos : 0 < m.significand)
    (tie : Tie) : m.interval.Contains (m.shortest tie).value := by
  have hlog : Nat.log2 m.significand < 53 := (Nat.log2_lt hpos.ne').2 hm.significand_lt
  have hleast := hm.le_exponent
  have hhigh : m.interval.value < m.interval.high :=
    Nat.mul_lt_mul_of_pos_right (Nat.lt_add_of_pos_right Nat.zero_lt_two) (Nat.pow_pos Nat.zero_lt_two)
  refine Interval.contains_search m.den_interval_pos tie hhigh 21 _ ⟨20, by norm_num, ?_⟩
  rw [value_interval, low_interval hpos, sub_sub_cancel]
  have hbelow : (1 : ℚ) ≤ m.below := by exact_mod_cast m.one_le_below
  have hgrid : Int.fdiv ((Nat.log2 m.significand + m.exponent) * 30103) 100000 + 2 - (20 : ℕ) =
      Int.fdiv ((Nat.log2 m.significand + m.exponent) * 30103) 100000 - 18 := by omega
  rw [hgrid]
  calc (10 : ℚ) ^ (Int.fdiv ((Nat.log2 m.significand + m.exponent) * 30103) 100000 - 18)
      ≤ 2 ^ (Nat.log2 m.significand + m.exponent - 54) := ten_zpow_fdiv_le (by omega) (by omega)
    _ ≤ 2 ^ (m.exponent - 2) := zpow_le_zpow_right₀ (by norm_num) (by omega)
    _ = 1 / 4 * 2 ^ m.exponent := by
        rw [zpow_sub₀ (by norm_num)]
        norm_num
        ring
    _ ≤ m.below / 4 * 2 ^ m.exponent := by
        have := two_zpow_pos m.exponent
        gcongr

end Magnitude

/-! ## Bits -/

/-- The stored exponent of a double. -/
def storedExponent (bits : ℕ) : ℕ := bits / 2 ^ 52 % 2 ^ 11

/-- The stored part of a significand. -/
def fraction (bits : ℕ) : ℕ := bits % 2 ^ 52

section
variable (b : BitVec Format.binary64.numBits)

theorem toNat_unpackMantissa : (unpackMantissa b).toNat = fraction b.toNat := by
  rw [UnpackedFloat.unpackMantissa_def, BitVec.extractLsb'_toNat]
  rfl

theorem toNat_unpackExponent : (unpackExponent b).toNat = storedExponent b.toNat := by
  rw [UnpackedFloat.unpackExponent_def, BitVec.extractLsb'_toNat, Nat.shiftRight_eq_div_pow]
  rfl

theorem toNat_unpackSign : (unpackSign b).toNat = b.toNat / 2 ^ 63 := by
  have hlt : b.toNat / 2 ^ 63 < 2 ^ 1 := Nat.div_lt_of_lt_mul b.isLt
  rw [UnpackedFloat.unpackSign_def, BitVec.extractLsb'_toNat, Nat.shiftRight_eq_div_pow]
  exact Nat.mod_eq_of_lt hlt

theorem toNat_leading : (1#1 ++ unpackMantissa b).toNat = 2 ^ 52 + fraction b.toNat := by
  rw [BitVec.toNat_append, toNat_unpackMantissa]
  have hlt : fraction b.toNat < 2 ^ 52 := Nat.mod_lt _ (by norm_num)
  exact (Nat.two_pow_add_eq_or_of_lt hlt 1).symm

theorem unpackExponent_eq_neg_one : unpackExponent b = -1#_ ↔ storedExponent b.toNat = 2047 := by
  rw [← BitVec.toNat_inj, toNat_unpackExponent]
  rfl

theorem unpackExponent_eq_zero : unpackExponent b = 0#_ ↔ storedExponent b.toNat = 0 := by
  rw [← BitVec.toNat_inj, toNat_unpackExponent]
  rfl

theorem unpackMantissa_eq_zero : unpackMantissa b = 0#_ ↔ fraction b.toNat = 0 := by
  rw [← BitVec.toNat_inj, toNat_unpackMantissa]
  rfl

theorem ofBitVec_unpackSign :
    (Sign.ofBitVec (unpackSign b) == .negative) = decide (b.toNat / 2 ^ 63 = 1) := by
  have hone : ∀ s : BitVec 1, (Sign.ofBitVec s == .negative) = decide (s.toNat = 1) := by decide
  rw [hone, toNat_unpackSign]

end

theorem size?_eq (x : Float) : size? x =
    if storedExponent x.toBits.toNat = 2047 then if fraction x.toBits.toNat = 0 then some (2 ^ 1024) else none
    else if storedExponent x.toBits.toNat = 0 then some ((fraction x.toBits.toNat : ℚ) * 2 ^ (-1074 : ℤ))
    else some ((2 ^ 52 + fraction x.toBits.toNat : ℚ) * 2 ^ (storedExponent x.toBits.toNat - 1075 : ℤ)) := by
  have hbits : x.toBits.toNat = (x.toModel.toBits.toBitVec : BitVec Format.binary64.numBits).toNat := rfl
  rw [hbits]
  unfold size? Float.Model.unpack
  generalize (x.toModel.toBits.toBitVec : BitVec Format.binary64.numBits) = b
  have hinf := unpackExponent_eq_neg_one b
  have hleast := unpackExponent_eq_zero b
  have hzero := unpackMantissa_eq_zero b
  unfold UnpackedFloat.unpack
  by_cases he : storedExponent b.toNat = 2047
  · rw [if_pos he, if_pos (hinf.2 he)]
    by_cases hf : fraction b.toNat = 0
    · rw [if_pos hf, if_pos (hzero.2 hf)]
    · rw [if_neg hf, if_neg (hzero.not.2 hf)]
  · rw [if_neg he, if_neg (hinf.not.2 he)]
    by_cases hl : storedExponent b.toNat = 0
    · rw [if_pos hl, if_pos (hleast.2 hl)]
      by_cases hf : fraction b.toNat = 0
      · rw [dif_pos (hzero.2 hf), hf]
        simp
      · rw [dif_neg (hzero.not.2 hf)]
        dsimp only
        rw [toNat_unpackMantissa, toNat_unpackExponent, hl]
        rfl
    · rw [if_neg hl, if_neg (hleast.not.2 hl)]
      dsimp only
      rw [toNat_leading, toNat_unpackExponent]
      push_cast
      rfl

theorem isNegative_eq {x : Float} {s : ℚ} (h : size? x = some s) :
    isNegative x = decide (x.toBits.toNat / 2 ^ 63 = 1) := by
  have hsign := ofBitVec_unpackSign x.toModel.toBits.toBitVec
  have hbits : x.toBits.toNat = (x.toModel.toBits.toBitVec : BitVec Format.binary64.numBits).toNat := rfl
  rw [hbits, ← hsign]
  unfold size? at h
  unfold isNegative
  unfold Float.Model.unpack UnpackedFloat.unpack at h ⊢
  dsimp only at h ⊢
  split_ifs at h ⊢ <;> rfl

/-- Each size is that of a significand and an exponent. -/
theorem exists_isDouble {x : Float} {s : ℚ} (h : size? x = some s) : ∃ m : Magnitude, m.IsDouble ∧ m.value = s := by
  have hfraction : fraction x.toBits.toNat < 2 ^ 52 := Nat.mod_lt _ (by norm_num)
  rw [size?_eq] at h
  split_ifs at h with hinf hzero hleast
  · obtain rfl := Option.some.inj h
    refine ⟨⟨2 ^ 52, 972⟩, ⟨by norm_num, by norm_num, .inr (le_refl _)⟩, ?_⟩
    have hpow : (2 : ℚ) ^ (972 : ℤ) = 2 ^ 972 := zpow_natCast 2 972
    rw [Magnitude.value, hpow, Nat.cast_pow, Nat.cast_two, ← pow_add]
  · obtain rfl := Option.some.inj h
    exact ⟨⟨fraction x.toBits.toNat, -1074⟩, ⟨by dsimp only; omega, le_refl _, .inl rfl⟩, rfl⟩
  · obtain rfl := Option.some.inj h
    refine ⟨⟨2 ^ 52 + fraction x.toBits.toNat, storedExponent x.toBits.toNat - 1075⟩,
      ⟨by dsimp only; omega, by dsimp only; omega, .inr (by dsimp only; omega)⟩, ?_⟩
    rw [Magnitude.value]
    push_cast
    rfl

section
variable {x : Float} {negative : Bool} {m : Magnitude}
  (h : Reading.ofBits x.toBits.toNat = .finite negative m)

include h

theorem ofBits_finite : negative = decide (x.toBits.toNat / 2 ^ 63 = 1) ∧
    (storedExponent x.toBits.toNat = 0 ∧ m = ⟨fraction x.toBits.toNat, -1074⟩ ∨
      storedExponent x.toBits.toNat ≠ 0 ∧ storedExponent x.toBits.toNat < 2047 ∧
        m = ⟨2 ^ 52 + fraction x.toBits.toNat, storedExponent x.toBits.toNat - 1075⟩) := by
  have hlt : storedExponent x.toBits.toNat < 2048 := Nat.mod_lt _ (by norm_num)
  have hexponent : x.toBits.toNat / leadingBit % 0x800 = storedExponent x.toBits.toNat := rfl
  have hfraction : x.toBits.toNat % leadingBit = fraction x.toBits.toNat := rfl
  unfold Reading.ofBits at h
  dsimp only at h
  rw [hexponent, hfraction] at h
  split_ifs at h with hinf hzero hleast
  · obtain ⟨rfl, rfl⟩ := Reading.finite.inj h
    exact ⟨rfl, .inl ⟨hleast, rfl⟩⟩
  · obtain ⟨rfl, rfl⟩ := Reading.finite.inj h
    exact ⟨rfl, .inr ⟨hleast, by omega, rfl⟩⟩

theorem size?_of_finite : size? x = some m.value := by
  rw [size?_eq]
  rcases (ofBits_finite h).2 with ⟨hleast, rfl⟩ | ⟨hleast, hlt, rfl⟩
  · rw [if_neg (by omega), if_pos hleast]
    rfl
  · rw [if_neg (by omega), if_neg hleast, Magnitude.value]
    push_cast
    rfl

theorem isNegative_of_finite : isNegative x = negative :=
  (isNegative_eq (size?_of_finite h)).trans (ofBits_finite h).1.symm

theorem isDouble_of_finite : m.IsDouble ∧ m.exponent ≤ 971 := by
  have hfraction : fraction x.toBits.toNat < 2 ^ 52 := Nat.mod_lt _ (by norm_num)
  rcases (ofBits_finite h).2 with ⟨-, rfl⟩ | ⟨hleast, hlt, rfl⟩
  · exact ⟨⟨by dsimp only; omega, le_refl _, .inl rfl⟩, by norm_num⟩
  · exact ⟨⟨by dsimp only; omega, by dsimp only; omega, .inr (Nat.le_add_right _ _)⟩, by dsimp only; omega⟩

/-- The last bit of a double is that of its significand. -/
theorem mod_two_of_finite : x.toBits.toNat % 2 = m.significand % 2 := by
  have hlast : fraction x.toBits.toNat % 2 = x.toBits.toNat % 2 := Nat.mod_mod_of_dvd _ (by norm_num)
  rcases (ofBits_finite h).2 with ⟨-, rfl⟩ | ⟨-, -, rfl⟩
  · exact hlast.symm
  · dsimp only
    omega

/-- A number near a double is nearer to it than to others. -/
theorem isNearest_of_covers {v : ℚ} (hv : m.Covers v) : IsNearest v x := by
  refine ⟨m.value, size?_of_finite h, fun y t hy hne => ?_⟩
  obtain ⟨n, hn, rfl⟩ := exists_isDouble hy
  rw [mod_two_of_finite h]
  exact hv.nearer (isDouble_of_finite h).1 hn hne

/-- The shortest decimal of a double is rounded to the double. -/
theorem isNearest_shortest (hm : 0 < m.significand) (tie : Tie) : IsNearest (m.shortest tie).value x := by
  obtain ⟨hdouble, hexponent⟩ := isDouble_of_finite h
  exact isNearest_of_covers h (m.covers_of_contains hm (m.contains_shortest hdouble hexponent hm tie))

theorem isNearest_zero (hm : m.significand = 0) : IsNearest 0 x := by
  have hzero : m.value = 0 := by
    rw [Magnitude.value, hm, Nat.cast_zero, zero_mul]
  refine ⟨0, hzero ▸ size?_of_finite h, fun y t _ hne => .inl ?_⟩
  rw [sub_zero, zero_sub, abs_neg, abs_zero]
  exact abs_pos.2 hne

end

end JiraQuery.Number
