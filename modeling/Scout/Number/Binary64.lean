import Scout.Number.Scalar

/-! Binary64 bit patterns with the ordering and the rounding of IEEE 754. -/

namespace Scout

/-- A binary64 bit pattern: the sign bit and the sixty-three bits below it. -/
structure F64 where
  /-- The sign bit. -/
  negative : Bool
  /-- Biased exponent and fraction, read as one integer. -/
  magnitude : Fin (2 ^ 63)
  deriving DecidableEq, Repr

namespace F64

/-- The magnitude of an infinity: an exponent of all ones over a zero fraction. -/
def infinityMagnitude : Nat := 0x7ff * 2 ^ 52

/-- The quiet NaN an invalid operation produces. -/
def nan : F64 := ⟨false, 0x7ff8000000000000⟩

/-- An infinity of the given sign. -/
def infinity (negative : Bool) : F64 := ⟨negative, 0x7ff0000000000000⟩

/-- A zero of the given sign. -/
def signedZero (negative : Bool) : F64 := ⟨negative, 0⟩

/-- Magnitudes above the infinities are the NaNs. -/
def isNaN (x : F64) : Bool :=
  infinityMagnitude < x.magnitude.val

/-- Magnitudes below the infinities are the finite numbers. -/
def isFinite (x : F64) : Bool :=
  x.magnitude.val < infinityMagnitude

/-- Both zeros have no bit set below the sign. -/
def isZero (x : F64) : Bool :=
  x.magnitude.val = 0

/-- The signed magnitude, which orders all numbers and identifies the two zeros. -/
def key (x : F64) : Int :=
  if x.negative then -(x.magnitude.val : Int) else x.magnitude.val

/-- Negation flips the sign bit, of a NaN too. -/
protected def neg (x : F64) : F64 :=
  { x with negative := !x.negative }

/-- The absolute value clears the sign bit. -/
def abs (x : F64) : F64 :=
  { x with negative := false }

/-- Strict numeric order, false whenever a NaN is compared. -/
protected def lt (a b : F64) : Prop :=
  a.isNaN = false ∧ b.isNaN = false ∧ a.key < b.key

/-- Weak numeric order, false whenever a NaN is compared. -/
protected def le (a b : F64) : Prop :=
  a.isNaN = false ∧ b.isNaN = false ∧ a.key ≤ b.key

/-- Numeric equality: the zeros are equal and a NaN equals nothing. -/
def eqv (a b : F64) : Bool :=
  !a.isNaN && !b.isNaN && a.key == b.key

instance : Neg F64 := ⟨F64.neg⟩
instance : LT F64 := ⟨F64.lt⟩
instance : LE F64 := ⟨F64.le⟩

instance : DecidableRel (α := F64) (· < ·) :=
  fun a b => inferInstanceAs (Decidable (a.isNaN = false ∧ b.isNaN = false ∧ a.key < b.key))

instance : DecidableRel (α := F64) (· ≤ ·) :=
  fun a b => inferInstanceAs (Decidable (a.isNaN = false ∧ b.isNaN = false ∧ a.key ≤ b.key))

/-- The absolute value of a finite magnitude, exactly. -/
def magnitudeValue (magnitude : Nat) : ℚ :=
  -- A zero exponent field has no implicit leading bit.
  if magnitude < 2 ^ 52 then magnitude / 2 ^ 1074
  else (2 ^ 52 + magnitude % 2 ^ 52 : Nat) * 2 ^ (magnitude / 2 ^ 52) / 2 ^ 1075

/-- The exact value of a finite number. -/
def value (x : F64) : ℚ :=
  if x.negative then -magnitudeValue x.magnitude else magnitudeValue x.magnitude

/-- The quotient rounded to the nearest integer, with ties to the even one. -/
def roundHalfEven (numerator denominator : Nat) : Nat :=
  let quotient := numerator / denominator
  let twice := 2 * (numerator % denominator)
  if twice < denominator then quotient
  else if denominator < twice then quotient + 1
  else quotient + quotient % 2

/-- The exponent of the power of two at or below a positive fraction. -/
def floorLog2 (numerator denominator : Nat) : Int :=
  let estimate : Int := (numerator.log2 : Int) - denominator.log2
  -- The two logarithms fix the exponent up to one.
  if denominator * 2 ^ estimate.toNat ≤ numerator * 2 ^ (-estimate).toNat then estimate
  else estimate - 1

/-- The finite magnitude nearest to a fraction, or the infinite one past the largest. -/
def roundMagnitude (numerator denominator : Nat) : Nat :=
  if numerator = 0 then 0 else
    -- Below the normal range the exponent stops falling and the significand loses bits.
    let exponent := max (floorLog2 numerator denominator) (-1022)
    let unit := exponent - 52
    let significand :=
      roundHalfEven (numerator * 2 ^ (-unit).toNat) (denominator * 2 ^ unit.toNat)
    -- A carry out of the significand lands in the exponent field.
    min ((exponent + 1022).toNat * 2 ^ 52 + significand) infinityMagnitude

/-- Rounding never leaves the bit patterns of finite numbers and infinities. -/
theorem roundMagnitude_le (numerator denominator : Nat) :
    roundMagnitude numerator denominator ≤ infinityMagnitude := by
  -- The last operation takes a minimum with the infinite magnitude.
  unfold roundMagnitude
  split
  · exact Nat.zero_le _
  · exact Nat.min_le_right _ _

/-- The number of the given sign nearest to a nonnegative fraction. -/
def rounded (negative : Bool) (magnitude : ℚ) : F64 where
  negative := negative
  magnitude := ⟨roundMagnitude magnitude.num.natAbs magnitude.den,
    Nat.lt_of_le_of_lt (roundMagnitude_le _ _) (by decide)⟩

/-- The number nearest to a rational, with positive zero for zero. -/
def ofRat (q : ℚ) : F64 :=
  rounded (decide (q < 0)) |q|

/-- Correctly rounded addition. -/
protected def add (a b : F64) : F64 :=
  if a.isNaN || b.isNaN then nan
  else if !a.isFinite then (if !b.isFinite && a.negative != b.negative then nan else a)
  else if !b.isFinite then b
  -- An exact zero is negative only when both summands are negative zeros.
  else if a.value + b.value = 0 then
    signedZero (a.isZero && b.isZero && a.negative && b.negative)
  else ofRat (a.value + b.value)

/-- Correctly rounded multiplication. -/
protected def mul (a b : F64) : F64 :=
  if a.isNaN || b.isNaN then nan
  else if !a.isFinite || !b.isFinite then
    (if a.isZero || b.isZero then nan else infinity (a.negative != b.negative))
  else rounded (a.negative != b.negative) |a.value * b.value|

/-- Correctly rounded division. -/
protected def div (a b : F64) : F64 :=
  if a.isNaN || b.isNaN then nan
  else if !a.isFinite then
    (if !b.isFinite then nan else infinity (a.negative != b.negative))
  else if !b.isFinite then signedZero (a.negative != b.negative)
  else if b.isZero then (if a.isZero then nan else infinity (a.negative != b.negative))
  else rounded (a.negative != b.negative) |a.value / b.value|

instance : Scalar F64 where
  add := F64.add
  mul := F64.mul
  div := F64.div
  decLt := inferInstance
  decLe := inferInstance
  ofRat := ofRat
  isFinite := isFinite
  eqv := eqv

/-- The minimum of two numbers, ignoring a NaN. -/
protected def min (a b : F64) : F64 :=
  if a.isNaN then b else if b.isNaN then a else if b < a then b else a

/-- The maximum of two numbers, ignoring a NaN. -/
protected def max (a b : F64) : F64 :=
  if a.isNaN then b else if b.isNaN then a else if a < b then b else a

end F64
end Scout
