import Mathlib.Algebra.Order.Field.Rat

/-! Arithmetic shared by the machine's binary64 numbers and by exact rationals. -/

namespace Scout

/-- The operations a velocity computation performs on its numbers. -/
class Scalar (α : Type) extends Add α, Mul α, Div α, Neg α, LT α, LE α where
  /-- Strict comparison is decided by evaluation. -/
  decLt : DecidableRel (α := α) (· < ·)
  /-- Weak comparison is decided by evaluation. -/
  decLe : DecidableRel (α := α) (· ≤ ·)
  /-- The number a decimal literal or a converted integer denotes. -/
  ofRat : ℚ → α
  /-- Neither an infinity nor a NaN. -/
  isFinite : α → Bool
  /-- Numeric equality, which is not identity of representations. -/
  eqv : α → α → Bool

namespace Scalar

variable {α : Type} [Scalar α]

instance : DecidableRel (α := α) (· < ·) := Scalar.decLt

instance : DecidableRel (α := α) (· ≤ ·) := Scalar.decLe

/-- Positive zero. -/
def zero : α :=
  ofRat 0

/-- The literal one. -/
def one : α :=
  ofRat 1

/-- Restrict a value to an interval, testing the lower end first. -/
def clamp (value low high : α) : α :=
  -- The second test reads the value the first one may have raised.
  let raised := if value < low then low else value
  if high < raised then high else raised

end Scalar

/-- Exact rationals are the numbers of an analysis without rounding. -/
instance : Scalar ℚ where
  decLt := inferInstance
  decLe := inferInstance
  ofRat value := value
  isFinite _ := true
  eqv left right := left == right

end Scout
