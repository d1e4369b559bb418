import Mathlib.Algebra.Order.Field.Power
import Mathlib.Data.Rat.Cast.Order
import Mathlib.Tactic.FieldSimp
import Mathlib.Tactic.Linarith
import Mathlib.Tactic.LinearCombination
import Mathlib.Tactic.Positivity
import Mathlib.Tactic.Ring
import Scout.Number.Binary64Order
import Scout.Number.Nearest

/-! Binary64 rounding keeps the order of numbers, and leaves those that are stored as they are. -/

namespace Scout.F64

/-- A magnitude is an exponent and a significand, which may just have been carried. -/
theorem magnitudeValue_grid {exponent significand : ℕ} (small : significand ≤ 2 ^ 53)
    (normal : exponent = 0 ∨ 2 ^ 52 ≤ significand) :
    magnitudeValue (exponent * 2 ^ 52 + significand) = significand * 2 ^ exponent / 2 ^ 1074 := by
  -- The scales of the two formats differ by a factor of two.
  have double : (2 : ℚ) ^ 1075 = 2 * 2 ^ 1074 := pow_succ' 2 1074
  have positive : (0 : ℚ) < 2 ^ 1074 := by positivity
  unfold magnitudeValue
  rw [double]
  generalize (2 : ℚ) ^ 1074 = scale at positive ⊢
  by_cases subnormal : exponent * 2 ^ 52 + significand < 2 ^ 52
  · have none : exponent = 0 := by omega
    subst none
    rw [if_pos subnormal]
    simp
  · rw [if_neg subnormal]
    rcases small.lt_or_eq with less | rfl
    · -- The significand has its leading bit, which is not stored.
      obtain ⟨fraction, rfl⟩ : ∃ fraction, significand = 2 ^ 52 + fraction :=
        ⟨significand - 2 ^ 52, by omega⟩
      have quotient : (exponent * 2 ^ 52 + (2 ^ 52 + fraction)) / 2 ^ 52 = exponent + 1 := by omega
      have rest : (exponent * 2 ^ 52 + (2 ^ 52 + fraction)) % 2 ^ 52 = fraction := by omega
      rw [quotient, rest, pow_succ' 2 exponent]
      field_simp
    · have quotient : (exponent * 2 ^ 52 + 2 ^ 53) / 2 ^ 52 = exponent + 2 := by omega
      have rest : (exponent * 2 ^ 52 + 2 ^ 53) % 2 ^ 52 = 0 := by omega
      rw [quotient, rest, pow_add]
      push_cast
      field_simp
      norm_num

/-- Every magnitude has an exponent and a significand. -/
theorem exists_grid (magnitude : ℕ) : ∃ exponent significand,
    magnitude = exponent * 2 ^ 52 + significand ∧ significand < 2 ^ 53 ∧
      (exponent = 0 ∨ 2 ^ 52 ≤ significand) := by
  -- Below the normal range the exponent is the smallest one.
  by_cases subnormal : magnitude < 2 ^ 52
  · exact ⟨0, magnitude, by omega, by omega, .inl rfl⟩
  · exact ⟨magnitude / 2 ^ 52 - 1, magnitude % 2 ^ 52 + 2 ^ 52, by omega, by omega,
      .inr (by omega)⟩

/-- A larger magnitude is the magnitude of a larger number. -/
theorem magnitudeValue_strictMono : StrictMono magnitudeValue := by
  -- Two magnitudes that follow each other have an exponent in common.
  refine strictMono_nat_of_lt_succ fun magnitude => ?_
  obtain ⟨exponent, significand, rfl, less, normal⟩ := exists_grid magnitude
  have next : magnitudeValue (exponent * 2 ^ 52 + (significand + 1)) = _ :=
    magnitudeValue_grid (by omega) (normal.imp id fun large => by omega)
  rw [add_assoc, next, magnitudeValue_grid less.le normal]
  have positive : (0 : ℚ) < 2 ^ 1074 := by positivity
  gcongr
  omega

section Exponent

variable {numerator denominator : ℕ}

/-- A power of two compares to a fraction as the two powers do that are computed. -/
theorem zpow_le_fraction (positive : 0 < denominator) (exponent : ℤ) :
    (2 : ℚ) ^ exponent ≤ numerator / denominator ↔
      denominator * 2 ^ exponent.toNat ≤ numerator * 2 ^ (-exponent).toNat := by
  have below : (0 : ℚ) < denominator := by exact_mod_cast positive
  -- One of the two powers is one.
  rcases Int.le_total 0 exponent with nonneg | nonpos
  · obtain ⟨power, rfl⟩ := Int.eq_ofNat_of_zero_le nonneg
    rw [le_div_iff₀ below, show (-(power : ℤ)).toNat = 0 by omega, Int.toNat_natCast,
      zpow_natCast, pow_zero, mul_one, mul_comm]
    exact_mod_cast Iff.rfl
  · obtain ⟨power, same⟩ := Int.eq_ofNat_of_zero_le (neg_nonneg.mpr nonpos)
    obtain rfl : exponent = -(power : ℤ) := by omega
    have scale : (0 : ℚ) < 2 ^ power := by positivity
    rw [le_div_iff₀ below, show (-(power : ℤ)).toNat = 0 by omega,
      show (- -(power : ℤ)).toNat = power by omega, zpow_neg, zpow_natCast, pow_zero, mul_one,
      inv_mul_le_iff₀ scale, mul_comm]
    exact_mod_cast Iff.rfl

/-- The exponent of a fraction is that of the power of two at or below it. -/
theorem floorLog2_spec (above : 0 < numerator) (positive : 0 < denominator) :
    (2 : ℚ) ^ floorLog2 numerator denominator ≤ numerator / denominator ∧
      (numerator / denominator : ℚ) < 2 ^ (floorLog2 numerator denominator + 1) := by
  have below : (0 : ℚ) < denominator := by exact_mod_cast positive
  have lowNumerator : (2 : ℚ) ^ numerator.log2 ≤ numerator := by
    exact_mod_cast Nat.log2_self_le above.ne'
  have highNumerator : (numerator : ℚ) < 2 ^ (numerator.log2 + 1) := by
    exact_mod_cast Nat.lt_log2_self
  have lowDenominator : (2 : ℚ) ^ denominator.log2 ≤ denominator := by
    exact_mod_cast Nat.log2_self_le positive.ne'
  have highDenominator : (denominator : ℚ) < 2 ^ (denominator.log2 + 1) := by
    exact_mod_cast Nat.lt_log2_self
  -- The two logarithms leave two powers of two to choose from.
  have least : (2 : ℚ) ^ ((numerator.log2 : ℤ) - denominator.log2 - 1) ≤ numerator / denominator := by
    rw [le_div_iff₀ below]
    calc (2 : ℚ) ^ ((numerator.log2 : ℤ) - denominator.log2 - 1) * denominator
        ≤ 2 ^ ((numerator.log2 : ℤ) - denominator.log2 - 1) * 2 ^ (denominator.log2 + 1) := by
          gcongr
      _ = 2 ^ numerator.log2 := by
          rw [← zpow_natCast, ← zpow_natCast, ← zpow_add₀ two_ne_zero]
          congr 1
          push_cast
          ring
      _ ≤ numerator := lowNumerator
  have most : (numerator / denominator : ℚ) < 2 ^ ((numerator.log2 : ℤ) - denominator.log2 + 1) := by
    rw [div_lt_iff₀ below]
    calc (numerator : ℚ) < 2 ^ (numerator.log2 + 1) := highNumerator
      _ = 2 ^ ((numerator.log2 : ℤ) - denominator.log2 + 1) * 2 ^ denominator.log2 := by
          rw [← zpow_natCast, ← zpow_natCast, ← zpow_add₀ two_ne_zero]
          congr 1
          push_cast
          ring
      _ ≤ 2 ^ ((numerator.log2 : ℤ) - denominator.log2 + 1) * denominator := by
          gcongr
  unfold floorLog2
  dsimp only
  split_ifs with fits
  · exact ⟨(zpow_le_fraction positive _).mpr fits, most⟩
  · refine ⟨least, ?_⟩
    rw [sub_add_cancel]
    exact not_le.mp fun le => fits ((zpow_le_fraction positive _).mp le)

/-- The exponent field below which a fraction has its leading bit, or the smallest one. -/
def roundingExponent (numerator denominator : ℕ) : ℕ :=
  (max (floorLog2 numerator denominator) (-1022) + 1022).toNat

/-- A fraction, scaled so that its significand is the nearest integer. -/
def roundingSignificand (numerator denominator : ℕ) : ℕ :=
  roundHalfEven (numerator * 2 ^ (1074 - roundingExponent numerator denominator))
    (denominator * 2 ^ (roundingExponent numerator denominator - 1074))

/-- A rounded magnitude has this exponent and this significand, unless it overflows. -/
theorem roundMagnitude_eq (above : 0 < numerator) :
    roundMagnitude numerator denominator = min (roundingExponent numerator denominator * 2 ^ 52 +
      roundingSignificand numerator denominator) infinityMagnitude := by
  -- The unit of the significand is counted from the smallest one.
  unfold roundMagnitude roundingSignificand roundingExponent
  have least : -1022 ≤ max (floorLog2 numerator denominator) (-1022) := le_max_right _ _
  rw [if_neg above.ne']
  dsimp only
  generalize max (floorLog2 numerator denominator) (-1022) = exponent at least
  rw [show (-(exponent - 52)).toNat = 1074 - (exponent + 1022).toNat by omega,
    show (exponent - 52).toNat = (exponent + 1022).toNat - 1074 by omega]

/-- Common factors do not change what a fraction is rounded to. -/
theorem roundHalfEven_mul_left {factor : ℕ} (positive : 0 < factor) :
    roundHalfEven (factor * numerator) (factor * denominator) =
      roundHalfEven numerator denominator := by
  -- The remainder is multiplied by the factor, too.
  unfold roundHalfEven
  dsimp only
  rw [Nat.mul_div_mul_left _ _ positive, Nat.mul_mod_mul_left,
    show 2 * (factor * (numerator % denominator)) = factor * (2 * (numerator % denominator)) by ring]
  simp only [Nat.mul_lt_mul_left positive]

/-- A fraction is rounded like the number that it denotes, whether it is reduced or not. -/
theorem roundHalfEven_fraction (positive : 0 < denominator) :
    (roundHalfEven numerator denominator : ℤ) =
      Scout.roundHalfEven (numerator / denominator : ℚ) := by
  -- The reduced fraction differs by a common factor.
  have nonneg : (0 : ℚ) ≤ numerator / denominator := by positivity
  rw [← roundHalfEven_eq nonneg]
  obtain ⟨factor, top, bottom⟩ := Rat.exists_eq_mul_div_num_and_eq_mul_div_den (numerator : ℤ)
    (show (denominator : ℤ) ≠ 0 by exact_mod_cast positive.ne')
  simp only [Int.cast_natCast] at top bottom
  generalize (numerator / denominator : ℚ) = number at nonneg top bottom ⊢
  have den := number.den_pos
  have factorPos : 0 < factor := by
    by_contra wrong
    nlinarith
  lift factor to ℕ using factorPos.le
  have whole : (number.num.natAbs : ℤ) = number.num :=
    Int.natAbs_of_nonneg (Rat.num_nonneg.mpr nonneg)
  rw [← whole] at top
  obtain rfl : numerator = factor * number.num.natAbs := by exact_mod_cast top
  obtain rfl : denominator = factor * number.den := by exact_mod_cast bottom
  rw [roundHalfEven_mul_left (by exact_mod_cast factorPos)]

/-- The scaled fraction is the fraction in units of its significand. -/
theorem scaled_eq (positive : 0 < denominator) (exponent : ℕ) :
    ((numerator * 2 ^ (1074 - exponent) : ℕ) / (denominator * 2 ^ (exponent - 1074) : ℕ) : ℚ) =
      numerator / denominator * (2 ^ 1074 / 2 ^ exponent) := by
  have below : (0 : ℚ) < denominator := by exact_mod_cast positive
  have power : (0 : ℚ) < 2 ^ exponent := by positivity
  have scale : (0 : ℚ) < 2 ^ (exponent - 1074) := by positivity
  -- One of the two differences is zero.
  have powers : (2 : ℚ) ^ exponent * 2 ^ (1074 - exponent) = 2 ^ (exponent - 1074) * 2 ^ 1074 := by
    rw [← pow_add, ← pow_add, show exponent + (1074 - exponent) = exponent - 1074 + 1074 by omega]
  push_cast
  generalize (2 : ℚ) ^ 1074 = unit at powers ⊢
  rw [div_mul_div_comm, div_eq_div_iff (mul_pos below scale).ne' (mul_pos below power).ne']
  linear_combination (numerator * denominator : ℚ) * powers

/-- A power of two with a nonnegative distance from the smallest unit. -/
theorem power_eq {exponent : ℤ} {power bits : ℕ} (least : (power : ℤ) = exponent + 1022) :
    (2 : ℚ) ^ (exponent - 52 + bits) = (2 ^ bits : ℕ) * 2 ^ power / 2 ^ 1074 := by
  -- Exponents are added up.
  rw [eq_div_iff (by positivity)]
  push_cast
  rw [← zpow_natCast, ← zpow_natCast, ← zpow_natCast, ← zpow_add₀ two_ne_zero,
    ← zpow_add₀ two_ne_zero, show exponent - 52 + bits + ((1074 : ℕ) : ℤ) = bits + power by omega]

/-- The exponent of a fraction leaves its significand below the carry. -/
theorem fraction_lt_carry (above : 0 < numerator) (positive : 0 < denominator) :
    (numerator / denominator : ℚ) <
      (2 ^ 53 : ℕ) * 2 ^ roundingExponent numerator denominator / 2 ^ 1074 := by
  -- The exponent is at least that of the fraction.
  obtain ⟨_, high⟩ := floorLog2_spec above positive
  refine high.trans_le ?_
  have least : (roundingExponent numerator denominator : ℤ) =
      max (floorLog2 numerator denominator) (-1022) + 1022 :=
    Int.toNat_of_nonneg (by omega)
  rw [← power_eq least]
  exact zpow_le_zpow_right₀ one_le_two (by omega)

/-- Above the smallest exponent a fraction has its leading bit. -/
theorem leading_le_fraction (above : 0 < numerator) (positive : 0 < denominator) :
    roundingExponent numerator denominator = 0 ∨
      ((2 ^ 52 : ℕ) * 2 ^ roundingExponent numerator denominator / 2 ^ 1074 : ℚ) ≤
        numerator / denominator := by
  -- The exponent is that of the fraction, unless that is too small.
  obtain ⟨low, _⟩ := floorLog2_spec above positive
  rcases Int.le_total (floorLog2 numerator denominator) (-1022) with small | large
  · left
    unfold roundingExponent
    omega
  · right
    have least : (roundingExponent numerator denominator : ℤ) =
        floorLog2 numerator denominator + 1022 := by
      unfold roundingExponent
      omega
    rw [← power_eq least]
    exact (zpow_le_zpow_right₀ one_le_two (by omega)).trans low

/-- The significand is the nearest multiple of the unit. -/
theorem roundingSignificand_eq (positive : 0 < denominator) :
    (roundingSignificand numerator denominator : ℤ) = Scout.roundHalfEven
      (numerator / denominator * (2 ^ 1074 / 2 ^ roundingExponent numerator denominator) : ℚ) := by
  rw [← scaled_eq positive]
  exact roundHalfEven_fraction (Nat.mul_pos positive (by positivity))

/-- A multiple of the unit below a fraction is at most the significand. -/
theorem le_roundingSignificand (positive : 0 < denominator) {bound : ℕ}
    (below : (bound * 2 ^ roundingExponent numerator denominator / 2 ^ 1074 : ℚ) ≤
      numerator / denominator) : bound ≤ roundingSignificand numerator denominator := by
  -- Rounding keeps the order.
  have unit : (0 : ℚ) < 2 ^ roundingExponent numerator denominator := by positivity
  have scale : (0 : ℚ) < 2 ^ 1074 := by positivity
  have scaled : (((bound : ℕ) : ℤ) : ℚ) ≤ numerator / denominator *
      (2 ^ 1074 / 2 ^ roundingExponent numerator denominator) := by
    rw [Int.cast_natCast, ← mul_div_assoc, le_div_iff₀ unit]
    exact (div_le_iff₀ scale).mp below
  have rounded := nearest_roundHalfEven.mono scaled
  rw [nearest_roundHalfEven.intCast, ← roundingSignificand_eq positive] at rounded
  exact_mod_cast rounded

/-- A multiple of the unit above a fraction is at least the significand. -/
theorem roundingSignificand_le (positive : 0 < denominator) {bound : ℕ}
    (above : (numerator / denominator : ℚ) ≤
      bound * 2 ^ roundingExponent numerator denominator / 2 ^ 1074) :
    roundingSignificand numerator denominator ≤ bound := by
  -- Rounding keeps the order.
  have unit : (0 : ℚ) < 2 ^ roundingExponent numerator denominator := by positivity
  have scale : (0 : ℚ) < 2 ^ 1074 := by positivity
  have scaled : (numerator / denominator * (2 ^ 1074 / 2 ^ roundingExponent numerator denominator)
      : ℚ) ≤ ((bound : ℕ) : ℤ) := by
    rw [Int.cast_natCast, ← mul_div_assoc, div_le_iff₀ unit]
    exact (le_div_iff₀ scale).mp above
  have rounded := nearest_roundHalfEven.le_of_le scaled
  rw [← roundingSignificand_eq positive] at rounded
  exact_mod_cast rounded

/-- What is stored and is not above a fraction is not above what the fraction is rounded to. -/
theorem le_roundMagnitude (positive : 0 < denominator) {magnitude : ℕ}
    (stored : magnitude ≤ infinityMagnitude)
    (below : magnitudeValue magnitude ≤ numerator / denominator) :
    magnitude ≤ roundMagnitude numerator denominator := by
  rcases Nat.eq_zero_or_pos numerator with rfl | above
  · -- Only zero is not above zero.
    refine Nat.le_of_not_lt fun larger => ?_
    have := magnitudeValue_strictMono (Nat.zero_lt_of_lt larger)
    simp [magnitudeValue] at below this
    linarith
  rw [roundMagnitude_eq above]
  refine le_min ?_ stored
  by_contra wrong
  have carry := fraction_lt_carry above positive
  have normal := (leading_le_fraction above positive).imp_right (le_roundingSignificand positive)
  -- The magnitude has the fraction's exponent, or is too large.
  obtain ⟨significand, rfl⟩ : ∃ significand,
      magnitude = roundingExponent numerator denominator * 2 ^ 52 + significand :=
    ⟨magnitude - roundingExponent numerator denominator * 2 ^ 52, by omega⟩
  rcases Nat.lt_or_ge (2 ^ 53) significand with large | small
  · have value := magnitudeValue_strictMono.monotone
      (Nat.add_le_add_left large.le (roundingExponent numerator denominator * 2 ^ 52))
    rw [magnitudeValue_grid le_rfl (.inr (by norm_num))] at value
    exact absurd (value.trans below) (not_le.mpr carry)
  · rw [magnitudeValue_grid small (normal.imp id fun large => by omega)] at below
    have := le_roundingSignificand positive below
    omega

/-- What is stored and is not below a fraction is not below what the fraction is rounded to. -/
theorem roundMagnitude_le_of_le (positive : 0 < denominator) {magnitude : ℕ}
    (above : (numerator / denominator : ℚ) ≤ magnitudeValue magnitude) :
    roundMagnitude numerator denominator ≤ magnitude := by
  rcases Nat.eq_zero_or_pos numerator with rfl | some_
  · simp [roundMagnitude]
  rw [roundMagnitude_eq some_]
  refine (min_le_left _ _).trans ?_
  have carry := roundingSignificand_le positive (fraction_lt_carry some_ positive).le
  have leading := leading_le_fraction some_ positive
  by_contra wrong
  -- The magnitude has the fraction's exponent, or is too small.
  have leads : roundingExponent numerator denominator = 0 ∨
      roundingExponent numerator denominator * 2 ^ 52 + 2 ^ 52 ≤ magnitude := by
    refine leading.imp id fun low => Nat.le_of_not_lt fun less => ?_
    have value := magnitudeValue_strictMono less
    rw [magnitudeValue_grid (by norm_num) (.inr le_rfl)] at value
    exact absurd (above.trans_lt value) (not_lt.mpr low)
  obtain ⟨significand, rfl⟩ : ∃ significand,
      magnitude = roundingExponent numerator denominator * 2 ^ 52 + significand :=
    ⟨magnitude - roundingExponent numerator denominator * 2 ^ 52, by omega⟩
  rw [magnitudeValue_grid (by omega) (leads.imp id fun large => by omega)] at above
  have := roundingSignificand_le positive above
  omega

end Exponent

section Values

variable {a b low high : F64} {number : ℚ}

/-- The value of the magnitude zero. -/
theorem magnitudeValue_zero : magnitudeValue 0 = 0 := by
  simp [magnitudeValue]

/-- No magnitude has a negative value. -/
theorem magnitudeValue_nonneg (magnitude : ℕ) : 0 ≤ magnitudeValue magnitude :=
  magnitudeValue_zero ▸ magnitudeValue_strictMono.monotone (Nat.zero_le magnitude)

/-- Signed magnitudes are ordered as the values are. -/
theorem value_lt_of_key_lt (less : a.key < b.key) : a.value < b.value := by
  -- Negative numbers come before the others, and in the opposite order.
  obtain ⟨first, magnitude⟩ := a
  obtain ⟨second, other⟩ := b
  have left := magnitudeValue_nonneg magnitude
  have right := magnitudeValue_nonneg other
  simp only [key, value] at less ⊢
  cases first <;> cases second <;> simp only [Bool.false_eq_true, if_true, if_false] at less ⊢
  · exact magnitudeValue_strictMono (by omega)
  · omega
  · rcases (show 0 < magnitude.val ∨ 0 < other.val by omega) with positive | positive
    · have := magnitudeValue_strictMono positive
      rw [magnitudeValue_zero] at this
      linarith
    · have := magnitudeValue_strictMono positive
      rw [magnitudeValue_zero] at this
      linarith
  · have := magnitudeValue_strictMono (show other.val < magnitude.val by omega)
    linarith

/-- Numbers of the same signed magnitude have the same value. -/
theorem value_eq_of_key_eq (same : a.key = b.key) : a.value = b.value := by
  -- Only the sign of a zero may differ.
  obtain ⟨first, magnitude⟩ := a
  obtain ⟨second, other⟩ := b
  simp only [key, value] at same ⊢
  cases first <;> cases second <;> simp only [Bool.false_eq_true, if_true, if_false] at same ⊢
  · rw [show magnitude.val = other.val by omega]
  · rw [show magnitude.val = 0 by omega, show other.val = 0 by omega, magnitudeValue_zero, neg_zero]
  · rw [show magnitude.val = 0 by omega, show other.val = 0 by omega, magnitudeValue_zero, neg_zero]
  · rw [show magnitude.val = other.val by omega]

/-- Values are ordered as the signed magnitudes are. -/
theorem value_le_iff : a.value ≤ b.value ↔ a.key ≤ b.key := by
  -- The values are ordered strictly like the keys.
  constructor
  · exact fun le => not_lt.mp fun less => absurd (value_lt_of_key_lt less) (not_lt.mpr le)
  · intro le
    rcases le.lt_or_eq with less | same
    · exact (value_lt_of_key_lt less).le
    · exact (value_eq_of_key_eq same).le

/-- The weak order of finite numbers is that of their values. -/
theorem le_iff_value (finiteA : a.isFinite = true) (finiteB : b.isFinite = true) :
    a ≤ b ↔ a.value ≤ b.value :=
  (le_iff finiteA finiteB).trans value_le_iff.symm

/-- A value that is not negative is that of the magnitude. -/
theorem value_eq_of_nonneg (nonneg : 0 ≤ a.value) : a.value = magnitudeValue a.magnitude := by
  -- Otherwise the magnitude is zero.
  have := magnitudeValue_nonneg a.magnitude
  unfold value at nonneg ⊢
  split_ifs at nonneg ⊢ with negative
  · linarith
  · rfl

/-- Rounding does not lead out of an interval between two finite numbers. -/
theorem rounded_between (nonneg : 0 ≤ number) (lowFinite : low.isFinite = true)
    (highFinite : high.isFinite = true) (above : low.value ≤ number) (below : number ≤ high.value) :
    (rounded false number).isFinite = true ∧ low.value ≤ (rounded false number).value ∧
      (rounded false number).value ≤ high.value := by
  have fraction : (number.num.natAbs / number.den : ℚ) = number := by
    rw [Nat.cast_natAbs, Int.cast_abs, abs_of_nonneg (by exact_mod_cast Rat.num_nonneg.mpr nonneg),
      Rat.num_div_den]
  -- Both ends are stored, so that rounding does not pass them.
  have upper : roundMagnitude number.num.natAbs number.den ≤ high.magnitude := by
    refine roundMagnitude_le_of_le number.den_pos ?_
    rw [fraction, ← value_eq_of_nonneg (nonneg.trans below)]
    exact below
  have lower : low.value ≤ magnitudeValue (roundMagnitude number.num.natAbs number.den) := by
    rcases le_or_gt low.value 0 with negative | positive
    · exact negative.trans (magnitudeValue_nonneg _)
    · rw [value_eq_of_nonneg positive.le] at above ⊢
      have finite : low.magnitude.val < infinityMagnitude := by simpa [isFinite] using lowFinite
      refine magnitudeValue_strictMono.monotone (le_roundMagnitude number.den_pos finite.le ?_)
      rwa [fraction]
  have finite : high.magnitude.val < infinityMagnitude := by simpa [isFinite] using highFinite
  refine ⟨?_, lower, ?_⟩
  · exact decide_eq_true (upper.trans_lt finite)
  · rw [value_eq_of_nonneg (nonneg.trans below)]
    exact magnitudeValue_strictMono.monotone upper

/-- A positive value belongs to a number without a sign. -/
theorem negative_of_value_pos (positive : 0 < a.value) : a.negative = false := by
  -- The other values are not positive.
  have := magnitudeValue_nonneg a.magnitude
  unfold value at positive
  split_ifs at positive with negative
  · linarith
  · simpa using negative

/-- The product of positive numbers is the rounded product of their values. -/
theorem mul_eq_rounded (finiteA : a.isFinite = true) (finiteB : b.isFinite = true)
    (positiveA : 0 < a.value) (positiveB : 0 < b.value) :
    a * b = rounded false (a.value * b.value) := by
  -- Neither factor has a sign.
  have same : a * b = F64.mul a b := rfl
  rw [same, F64.mul, isNaN_of_isFinite finiteA, isNaN_of_isFinite finiteB, finiteA, finiteB,
    negative_of_value_pos positiveA, negative_of_value_pos positiveB,
    abs_of_pos (mul_pos positiveA positiveB)]
  rfl

/-- The quotient of positive numbers is the rounded quotient of their values. -/
theorem div_eq_rounded (finiteA : a.isFinite = true) (finiteB : b.isFinite = true)
    (positiveA : 0 < a.value) (positiveB : 0 < b.value) :
    a / b = rounded false (a.value / b.value) := by
  -- The divisor is not zero.
  have nonzero : b.isZero = false := by
    by_contra wrong
    have magnitude : b.magnitude.val = 0 := by simpa [isZero] using wrong
    rw [value_eq_of_nonneg positiveB.le, magnitude, magnitudeValue_zero] at positiveB
    exact lt_irrefl _ positiveB
  have same : a / b = F64.div a b := rfl
  rw [same, F64.div, isNaN_of_isFinite finiteA, isNaN_of_isFinite finiteB, finiteA, finiteB,
    nonzero, negative_of_value_pos positiveA, negative_of_value_pos positiveB,
    abs_of_pos (div_pos positiveA positiveB)]
  rfl

/-- A product of positive numbers stays in every interval of finite numbers that it is in. -/
theorem mul_between (finiteA : a.isFinite = true) (finiteB : b.isFinite = true)
    (positiveA : 0 < a.value) (positiveB : 0 < b.value) (lowFinite : low.isFinite = true)
    (highFinite : high.isFinite = true) (above : low.value ≤ a.value * b.value)
    (below : a.value * b.value ≤ high.value) :
    (a * b).isFinite = true ∧ low.value ≤ (a * b).value ∧ (a * b).value ≤ high.value := by
  rw [mul_eq_rounded finiteA finiteB positiveA positiveB]
  exact rounded_between (mul_pos positiveA positiveB).le lowFinite highFinite above below

/-- A quotient of positive numbers stays in every interval of finite numbers that it is in. -/
theorem div_between (finiteA : a.isFinite = true) (finiteB : b.isFinite = true)
    (positiveA : 0 < a.value) (positiveB : 0 < b.value) (lowFinite : low.isFinite = true)
    (highFinite : high.isFinite = true) (above : low.value ≤ a.value / b.value)
    (below : a.value / b.value ≤ high.value) :
    (a / b).isFinite = true ∧ low.value ≤ (a / b).value ∧ (a / b).value ≤ high.value := by
  rw [div_eq_rounded finiteA finiteB positiveA positiveB]
  exact rounded_between (div_pos positiveA positiveB).le lowFinite highFinite above below

end Values

end Scout.F64
