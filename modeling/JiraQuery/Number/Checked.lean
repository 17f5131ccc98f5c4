/-!
# Checked arithmetic on 64-bit words

Products and powers that do not fit a word are not there, or the largest word stands for them.
`mul?_eq_some_iff` and `pow?_eq_some_iff` say when there is a result and which one, `toNat_mulSat` gives
the saturating product in natural numbers.
-/

namespace JiraQuery.Number

/-- The product, if it fits. -/
def mul? (a b : UInt64) : Option UInt64 :=
  if a.toNat * b.toNat < UInt64.size then some (a * b) else none

/-- The product, or the largest word where it does not fit. -/
def mulSat (a b : UInt64) : UInt64 :=
  (mul? a b).getD 0xFFFFFFFFFFFFFFFF

/-- Multiplies `acc` so many times by `base`, up to the first product that does not fit. -/
def timesPow? (base : UInt64) : Nat → UInt64 → Option UInt64
  | 0, acc => some acc
  | n + 1, acc => match mul? acc base with
    | some acc => timesPow? base n acc
    | none => none

/-- A power, if it fits. -/
def pow? (base : UInt64) (exponent : UInt32) : Option UInt64 :=
  timesPow? base exponent.toNat 1

theorem mul?_eq_some_iff {a b c : UInt64} : mul? a b = some c ↔ c.toNat = a.toNat * b.toNat := by
  have hc : c.toNat < 18446744073709551616 := c.toNat_lt
  unfold mul? UInt64.size
  split
  · next h =>
    rw [Option.some_inj, ← UInt64.toNat_inj, UInt64.toNat_mul, Nat.mod_eq_of_lt h]
    exact eq_comm
  · next h =>
    refine iff_of_false (fun hnone => ?_) fun heq => ?_
    · cases hnone
    · omega

theorem toNat_mulSat (a b : UInt64) :
    (mulSat a b).toNat = min (a.toNat * b.toNat) 0xFFFFFFFFFFFFFFFF := by
  unfold mulSat mul? UInt64.size
  split
  · next h =>
    show (a * b).toNat = _
    rw [UInt64.toNat_mul, Nat.mod_eq_of_lt h]
    omega
  · next h =>
    show 0xFFFFFFFFFFFFFFFF = _
    omega

theorem timesPow?_eq_some_iff {base acc c : UInt64} {n : Nat} :
    timesPow? base n acc = some c ↔ c.toNat = acc.toNat * Nat.pow base.toNat n := by
  induction n generalizing acc with
  | zero =>
    show some acc = some c ↔ c.toNat = acc.toNat * 1
    rw [Option.some_inj, ← UInt64.toNat_inj, Nat.mul_one]
    exact eq_comm
  | succ n ih =>
    have hstep : acc.toNat * Nat.pow base.toNat (n + 1) =
        acc.toNat * base.toNat * Nat.pow base.toNat n := by
      show acc.toNat * (Nat.pow base.toNat n * base.toNat) = _
      rw [Nat.mul_assoc, Nat.mul_comm base.toNat]
    rw [hstep]
    unfold timesPow?
    cases hmul : mul? acc base with
    | some m => simp only [ih, mul?_eq_some_iff.1 hmul]
    | none =>
      -- a product that does not fit only grows
      refine iff_of_false (fun h => by cases h) fun h => ?_
      have hc : c.toNat < UInt64.size := c.toNat_lt
      have hbase : 0 < base.toNat := by
        refine Nat.pos_of_ne_zero fun h0 => ?_
        simp [mul?, h0, UInt64.size] at hmul
      have hbig : ¬acc.toNat * base.toNat < UInt64.size := by
        intro hfits
        simp [mul?, hfits] at hmul
      have hpow : 1 ≤ Nat.pow base.toNat n := Nat.pow_pos hbase
      have hle : acc.toNat * base.toNat ≤ acc.toNat * base.toNat * Nat.pow base.toNat n :=
        Nat.le_mul_of_pos_right _ hpow
      omega

/-- A power is there exactly if it fits. -/
theorem pow?_eq_some_iff {base c : UInt64} {exponent : UInt32} :
    pow? base exponent = some c ↔ c.toNat = Nat.pow base.toNat exponent.toNat := by
  unfold pow?
  rw [timesPow?_eq_some_iff]
  show c.toNat = 1 * _ ↔ _
  rw [Nat.one_mul]

theorem pow?_eq_none_iff {base : UInt64} {exponent : UInt32} :
    pow? base exponent = none ↔ UInt64.size ≤ Nat.pow base.toNat exponent.toNat := by
  constructor
  · intro hnone
    refine Nat.le_of_not_lt fun hfits => ?_
    have hsome : pow? base exponent = some (UInt64.ofNat (Nat.pow base.toNat exponent.toNat)) :=
      pow?_eq_some_iff.2 (UInt64.toNat_ofNat_of_lt' hfits)
    rw [hnone] at hsome
    cases hsome
  · intro hbig
    cases hpow : pow? base exponent with
    | none => rfl
    | some c =>
      have hc : c.toNat < UInt64.size := c.toNat_lt
      have heq := pow?_eq_some_iff.1 hpow
      omega

end JiraQuery.Number
