import Mathlib.Algebra.Order.Round
import Mathlib.Data.Rat.Floor
import Scout.Number.Binary64

/-! Rounding to a nearest integer, whichever one of two is taken. -/

namespace Scout

section Nearest

variable {α : Type} [Field α] [LinearOrder α] [IsStrictOrderedRing α] [FloorRing α]

/-- A rounding takes every number to an integer that is nearest to it. -/
def Nearest (rounding : α → ℤ) : Prop :=
  ∀ number, |(rounding number : α) - number| ≤ 1 / 2

/-- The nearest integer, and the even one of two. -/
def roundHalfEven (number : α) : ℤ :=
  if Int.fract number < 1 / 2 then ⌊number⌋
  else if 1 / 2 < Int.fract number then ⌊number⌋ + 1
  else ⌊number⌋ + ⌊number⌋ % 2

/-- The nearest integer, and of two the one that is farther away from zero. -/
def roundHalfAway (number : α) : ℤ :=
  if number < 0 then -⌊|number| + 1 / 2⌋ else ⌊|number| + 1 / 2⌋

/-- Rounding halves to even integers takes a nearest one. -/
theorem nearest_roundHalfEven : Nearest (roundHalfEven : α → ℤ) := by
  -- The integers next to the number are its floor and the one above.
  intro number
  have split := Int.self_sub_floor number
  have low := Int.fract_nonneg number
  have high := Int.fract_lt_one number
  unfold roundHalfEven
  split_ifs with below above
  · rw [abs_le]
    constructor <;> linarith
  · rw [abs_le]
    push_cast
    constructor <;> linarith
  · -- The number is exactly between them.
    rcases Int.emod_two_eq_zero_or_one ⌊number⌋ with even | odd
    · rw [even, abs_le]
      push_cast
      constructor <;> linarith
    · rw [odd, abs_le]
      push_cast
      constructor <;> linarith

/-- Rounding halves away from zero takes a nearest integer. -/
theorem nearest_roundHalfAway : Nearest (roundHalfAway : α → ℤ) := by
  -- The sign is put back after rounding.
  intro number
  have low := Int.floor_le (|number| + 1 / 2)
  have high := Int.lt_floor_add_one (|number| + 1 / 2)
  unfold roundHalfAway
  split_ifs with negative
  · rw [abs_of_neg negative] at low high ⊢
    rw [abs_le]
    push_cast
    constructor <;> linarith
  · rw [abs_of_nonneg (not_lt.mp negative)] at low high ⊢
    rw [abs_le]
    constructor <;> linarith

namespace Nearest

variable {rounding : α → ℤ}

/-- A larger number is not rounded to a smaller integer. -/
theorem mono (nearest : Nearest rounding) {first second : α} (le : first ≤ second) :
    rounding first ≤ rounding second := by
  rcases le.eq_or_lt with rfl | lt
  · rfl
  · -- If it were, the smaller number would have to be the larger one.
    have below := (abs_le.mp (nearest first)).2
    have above := (abs_le.mp (nearest second)).1
    by_contra wrong
    have apart : (rounding second : α) + 1 ≤ rounding first := by
      exact_mod_cast Int.add_one_le_iff.mpr (not_le.mp wrong)
    linarith

/-- An integer is rounded to itself. -/
theorem intCast (nearest : Nearest rounding) (number : ℤ) : rounding number = number := by
  -- All other integers are farther away.
  obtain ⟨below, above⟩ := abs_le.mp (nearest number)
  have low : ((rounding number : ℤ) : α) < (number + 1 : ℤ) := by
    push_cast
    linarith
  have high : ((number - 1 : ℤ) : α) < (rounding number : ℤ) := by
    push_cast
    linarith
  have := Int.cast_lt.mp low
  have := Int.cast_lt.mp high
  omega

/-- What is at most an integer is rounded to at most this integer. -/
theorem le_of_le (nearest : Nearest rounding) {number : α} {bound : ℤ} (le : number ≤ bound) :
    rounding number ≤ bound :=
  (nearest.mono le).trans_eq (nearest.intCast bound)

end Nearest

end Nearest

/-- The floor of a number that is not negative is a quotient of natural numbers. -/
theorem floor_eq_quotient {number : ℚ} (nonneg : 0 ≤ number) :
    ⌊number⌋ = (number.num.natAbs / number.den : ℕ) := by
  -- The numerator is not negative.
  have whole : (number.num.natAbs : ℤ) = number.num :=
    Int.natAbs_of_nonneg (Rat.num_nonneg.mpr nonneg)
  rw [Rat.floor_def', Int.natCast_div, whole]

/-- What is left above the floor is a remainder of natural numbers. -/
theorem fract_mul_den {number : ℚ} (nonneg : 0 ≤ number) :
    Int.fract number * number.den = (number.num.natAbs % number.den : ℕ) := by
  -- The fractional part of a fraction is the remainder over the denominator.
  have whole : number * number.den = (number.num.natAbs : ℚ) := by
    rw [Rat.mul_den_eq_num, ← Int.cast_natCast, Int.natAbs_of_nonneg (Rat.num_nonneg.mpr nonneg)]
  have division : ((number.den * (number.num.natAbs / number.den) +
      number.num.natAbs % number.den : ℕ) : ℚ) = (number.num.natAbs : ℕ) := by
    rw [Nat.div_add_mod]
  rw [Nat.cast_add, Nat.cast_mul] at division
  rw [Int.fract, floor_eq_quotient nonneg, Int.cast_natCast, sub_mul, whole, ← division]
  ring

/-- A fraction of natural numbers is rounded like the number that it denotes. -/
theorem F64.roundHalfEven_eq {number : ℚ} (nonneg : 0 ≤ number) :
    (F64.roundHalfEven number.num.natAbs number.den : ℤ) = Scout.roundHalfEven number := by
  have rest := fract_mul_den nonneg
  have positive : (0 : ℚ) < number.den := by exact_mod_cast number.den_pos
  -- Twice the remainder is compared with the denominator.
  have below : Int.fract number < 1 / 2 ↔
      2 * (number.num.natAbs % number.den) < number.den := by
    rw [← mul_lt_mul_iff_of_pos_right positive, rest]
    constructor
    · intro less
      have twice : (2 * (number.num.natAbs % number.den : ℕ) : ℚ) < number.den := by linarith
      exact_mod_cast twice
    · intro less
      have twice : (2 * (number.num.natAbs % number.den : ℕ) : ℚ) < number.den := by
        exact_mod_cast less
      linarith
  have above : 1 / 2 < Int.fract number ↔
      number.den < 2 * (number.num.natAbs % number.den) := by
    rw [← mul_lt_mul_iff_of_pos_right positive, rest]
    constructor
    · intro less
      have twice : (number.den : ℚ) < (2 * (number.num.natAbs % number.den : ℕ) : ℚ) := by linarith
      exact_mod_cast twice
    · intro less
      have twice : (number.den : ℚ) < (2 * (number.num.natAbs % number.den : ℕ) : ℚ) := by
        exact_mod_cast less
      linarith
  unfold F64.roundHalfEven Scout.roundHalfEven
  simp only [below, above, floor_eq_quotient nonneg]
  split_ifs
  · rfl
  · push_cast
    rfl
  · push_cast
    rfl

end Scout
