import Scout.Number.Binary64

/-! Finite binary64 numbers are ordered by their signed magnitudes. -/

namespace Scout.F64

/-- A finite number is not a NaN. -/
theorem isNaN_of_isFinite {x : F64} (finite : x.isFinite = true) : x.isNaN = false := by
  -- The finite magnitudes and the NaN magnitudes lie on either side of the infinite one.
  simp only [isFinite, decide_eq_true_eq] at finite
  simp only [isNaN, decide_eq_false_iff_not]
  omega

/-- Negating twice restores the number, bit by bit. -/
theorem neg_neg (x : F64) : - -x = x := by
  -- The sign bit is flipped back.
  obtain ⟨negative, magnitude⟩ := x
  show F64.neg (F64.neg ⟨negative, magnitude⟩) = _
  simp [F64.neg]

/-- Clearing or flipping the sign bit keeps a number finite. -/
@[simp] theorem isFinite_neg (x : F64) : (-x).isFinite = x.isFinite := rfl

/-- The absolute value of a finite number is finite. -/
@[simp] theorem isFinite_abs (x : F64) : x.abs.isFinite = x.isFinite := rfl

/-- Negation negates the signed magnitude. -/
@[simp] theorem key_neg (x : F64) : (-x).key = -x.key := by
  -- Only the sign bit differs, so the two branches of the key trade places.
  obtain ⟨negative, magnitude⟩ := x
  change (F64.neg ⟨negative, magnitude⟩).key = -key ⟨negative, magnitude⟩
  cases negative <;> simp [key, F64.neg]

/-- The absolute value has the distance of the signed magnitude from zero as its own. -/
theorem key_abs (x : F64) : x.abs.key = |x.key| := by
  -- A cleared sign leaves the magnitude itself.
  obtain ⟨negative, magnitude⟩ := x
  have nonneg : (0 : Int) ≤ magnitude.val := Int.natCast_nonneg _
  cases negative <;> simp [key, abs, abs_of_nonneg nonneg]

/-- Strict order of finite numbers is strict order of signed magnitudes. -/
theorem lt_iff {a b : F64} (finiteA : a.isFinite = true) (finiteB : b.isFinite = true) :
    a < b ↔ a.key < b.key := by
  -- Neither operand is a NaN, so only the comparison of magnitudes is left.
  have notNaN := isNaN_of_isFinite finiteA
  have notNaN' := isNaN_of_isFinite finiteB
  exact ⟨fun less => less.2.2, fun less => ⟨notNaN, notNaN', less⟩⟩

/-- Weak order of finite numbers is weak order of signed magnitudes. -/
theorem le_iff {a b : F64} (finiteA : a.isFinite = true) (finiteB : b.isFinite = true) :
    a ≤ b ↔ a.key ≤ b.key := by
  -- Neither operand is a NaN, so only the comparison of magnitudes is left.
  have notNaN := isNaN_of_isFinite finiteA
  have notNaN' := isNaN_of_isFinite finiteB
  exact ⟨fun less => less.2.2, fun less => ⟨notNaN, notNaN', less⟩⟩

section Clamp

variable {value low high : F64}

/-- Clamping selects one of its three arguments. -/
theorem clamp_cases (value low high : F64) :
    Scalar.clamp value low high = value ∨ Scalar.clamp value low high = low ∨
      Scalar.clamp value low high = high := by
  -- Each of the two tests keeps its operand or replaces it by an end of the interval.
  simp only [Scalar.clamp]
  by_cases below : value < low
  · by_cases above : high < low <;> simp [below, above]
  · by_cases above : high < value <;> simp [below, above]

/-- Clamping finite numbers gives a finite number. -/
theorem isFinite_clamp (finite : value.isFinite = true) (lowFinite : low.isFinite = true)
    (highFinite : high.isFinite = true) : (Scalar.clamp value low high).isFinite = true := by
  -- The result is one of the three finite arguments.
  rcases clamp_cases value low high with same | same | same <;> rw [same] <;> assumption

/-- On finite numbers clamping is the minimum of a maximum. -/
theorem key_clamp (finite : value.isFinite = true) (lowFinite : low.isFinite = true)
    (highFinite : high.isFinite = true) :
    (Scalar.clamp value low high).key = min high.key (max low.key value.key) := by
  -- The first test raises to the lower end, the second lowers to the upper end.
  simp only [Scalar.clamp]
  by_cases below : value < low
  · have order := (lt_iff finite lowFinite).mp below
    rw [if_pos below]
    by_cases above : high < low
    · have crossed := (lt_iff highFinite lowFinite).mp above
      rw [if_pos above]
      omega
    · have ordered := mt (lt_iff highFinite lowFinite).mpr above
      rw [if_neg above]
      omega
  · have order := mt (lt_iff finite lowFinite).mpr below
    rw [if_neg below]
    by_cases above : high < value
    · have crossed := (lt_iff highFinite finite).mp above
      rw [if_pos above]
      omega
    · have ordered := mt (lt_iff highFinite finite).mpr above
      rw [if_neg above]
      omega

end Clamp

/-- A product with a zero factor is a zero when the other factor is finite. -/
theorem isZero_mul_left {a b : F64} (zero : a.isZero = true) (finite : b.isFinite = true) :
    (a * b).isZero = true ∧ (a * b).isFinite = true := by
  -- The exact product vanishes, and rounding keeps it at magnitude zero.
  have magnitude : a.magnitude.val = 0 := by simpa [isZero] using zero
  have aFinite : a.isFinite = true := by simp [isFinite, magnitude, infinityMagnitude]
  have valueZero : a.value = 0 := by simp [value, magnitudeValue, magnitude]
  have product : a * b = rounded (a.negative != b.negative) |a.value * b.value| := by
    change F64.mul a b = _
    simp [F64.mul, isNaN_of_isFinite aFinite, isNaN_of_isFinite finite, aFinite, finite]
  rw [product, valueZero]
  simp [isZero, isFinite, rounded, roundMagnitude, infinityMagnitude]

end Scout.F64
