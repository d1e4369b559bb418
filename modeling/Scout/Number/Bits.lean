import Scout.Number.Binary64

/-! Floating-point numbers as the integers that are stored for them. -/

namespace Scout

namespace F64

/-- The stored integer of a number. -/
def toBits (x : F64) : UInt64 :=
  UInt64.ofNat (x.negative.toNat * 2 ^ 63 + x.magnitude.val)

/-- The number that is stored as an integer. -/
def ofBits (bits : UInt64) : F64 where
  negative := decide (2 ^ 63 ≤ bits.toNat)
  magnitude := ⟨bits.toNat % 2 ^ 63, Nat.mod_lt _ (by decide)⟩

/-- The stored integer has the sign in its highest bit. -/
theorem toNat_toBits (x : F64) :
    x.toBits.toNat = x.negative.toNat * 2 ^ 63 + x.magnitude.val := by
  -- The sum fits into sixty-four bits.
  have small := x.magnitude.isLt
  have sign := x.negative.toNat_le
  rw [toBits, UInt64.toNat_ofNat']
  omega

/-- Every number is the one that is stored as its integer. -/
@[simp] theorem ofBits_toBits (x : F64) : ofBits x.toBits = x := by
  -- The highest bit and the others are separated again.
  obtain ⟨negative, magnitude⟩ := x
  have small := magnitude.isLt
  have stored := toNat_toBits ⟨negative, magnitude⟩
  unfold ofBits
  cases negative <;> simp only [Bool.toNat_false, Bool.toNat_true] at stored <;> congr 1
  · simp only [decide_eq_false_iff_not]; omega
  · apply Fin.ext; simp only; omega
  · simp only [decide_eq_true_eq]; omega
  · apply Fin.ext; simp only; omega

/-- Every integer is stored for the number that is made of it. -/
@[simp] theorem toBits_ofBits (bits : UInt64) : (ofBits bits).toBits = bits := by
  -- The highest bit and the others are put together again.
  apply UInt64.toNat_inj.mp
  have small := bits.toNat_lt
  rw [toNat_toBits]
  simp only [ofBits]
  by_cases high : 2 ^ 63 ≤ bits.toNat
  · simp only [high, decide_true, Bool.toNat_true]; omega
  · simp only [high, decide_false, Bool.toNat_false]; omega

end F64

/-- A binary32 number, as the integer that is stored for it. -/
structure F32 where
  bits : UInt32
  deriving DecidableEq, Repr

end Scout
