/-!
# Saturating arithmetic on 32-bit counts

Sums stop at the largest count and differences at zero. `toNat_addSat`, `toNat_subSat` and
`toNat_ofNatSat` give the results in natural numbers.
-/

namespace JiraQuery.Number

/-- The sum, or the largest count where it does not fit. -/
def addSat (a b : UInt32) : UInt32 :=
  if a.toNat + b.toNat < 0x100000000 then a + b else 0xFFFFFFFF

/-- The difference, or zero where it would be negative. -/
def subSat (a b : UInt32) : UInt32 :=
  if b.toNat ≤ a.toNat then a - b else 0

/-- A natural number as a count, or the largest count where it does not fit. -/
def ofNatSat (n : Nat) : UInt32 :=
  UInt32.ofNat (min n 0xFFFFFFFF)

theorem toNat_ofNatSat (n : Nat) : (ofNatSat n).toNat = min n 0xFFFFFFFF := by
  unfold ofNatSat
  rw [UInt32.toNat_ofNat']
  omega

theorem toNat_addSat (a b : UInt32) : (addSat a b).toNat = min (a.toNat + b.toNat) 0xFFFFFFFF := by
  unfold addSat
  split
  · rw [UInt32.toNat_add]; omega
  · simp; omega

theorem toNat_subSat (a b : UInt32) : (subSat a b).toNat = a.toNat - b.toNat := by
  unfold subSat
  split
  · next h => exact UInt32.toNat_sub_of_le _ _ (UInt32.le_iff_toNat_le.2 h)
  · simp; omega

theorem toNat_min (a b : UInt32) : (min a b).toNat = min a.toNat b.toNat := by
  simp only [Min.min, UInt32.le_iff_toNat_le]
  split <;> rfl

end JiraQuery.Number
