import Scout.Number.Binary64

/-! Planar velocities, their limits, and the Scout's swapped motion axes. -/

namespace Scout

variable {α : Type} [Scalar α]

/-- Velocity expressed with standard mobile-base axis semantics. -/
structure Velocity (α : Type) where
  /-- Forward speed, positive forward. -/
  forwardMps : α
  /-- Leftward speed, positive left. -/
  lateralMps : α
  /-- Rotation speed, positive counter-clockwise. -/
  yawRps : α
  deriving DecidableEq, Repr

/-- The largest speed allowed on each axis. -/
structure MotionLimits (α : Type) where
  maxForwardMps : α
  maxLateralMps : α
  maxYawRps : α
  deriving DecidableEq, Repr

/-- The command the motor controller receives. -/
structure ScoutTwist (α : Type) where
  linearX : α
  linearY : α
  linearZ : α
  angularX : α
  angularY : α
  angularZ : α
  deriving DecidableEq, Repr

/-- The limits every command of the driver uses. -/
def MotionLimits.default : MotionLimits α where
  maxForwardMps := Scalar.ofRat (47 / 100)
  maxLateralMps := Scalar.ofRat (1 / 5)
  maxYawRps := Scalar.ofRat (29 / 10)

/-- The stop command. -/
def ScoutTwist.zero : ScoutTwist α where
  linearX := Scalar.zero
  linearY := Scalar.zero
  linearZ := Scalar.zero
  angularX := Scalar.zero
  angularY := Scalar.zero
  angularZ := Scalar.zero

/-- Why a velocity cannot become a command. -/
inductive MotionError where
  | notFinite (field : String)
  | nonPositiveLimit (field : String)
  deriving DecidableEq, Repr

/-- The text an error is displayed as. -/
def MotionError.display : MotionError → String
  | .notFinite field => field ++ " must be finite"
  | .nonPositiveLimit field => field ++ " must be greater than zero"

/-- Refuse infinities and NaNs. -/
def validateFinite (field : String) (value : α) : Except MotionError Unit :=
  if Scalar.isFinite value then .ok () else .error (.notFinite field)

/-- Refuse limits that do not leave an interval around zero. -/
def validateLimit (field : String) (value : α) : Except MotionError Unit := do
  -- A limit that is no number is reported as such, and not as too small.
  validateFinite field value
  if Scalar.zero < value then .ok () else .error (.nonPositiveLimit field)

namespace Velocity

/-- A velocity from its three components. -/
def new (vxMps vyMps vthetaRps : α) : Velocity α where
  forwardMps := vxMps
  lateralMps := vyMps
  yawRps := vthetaRps

/-- The velocity at rest. -/
def default : Velocity α :=
  new Scalar.zero Scalar.zero Scalar.zero

/-- Numeric equality of all three components. -/
def eqv (left right : Velocity α) : Bool :=
  Scalar.eqv left.forwardMps right.forwardMps && Scalar.eqv left.lateralMps right.lateralMps &&
    Scalar.eqv left.yawRps right.yawRps

/-- Clamp a velocity and map it to the Scout's axes, whose linear x points right. -/
def toScoutTwist (velocity : Velocity α) (limits : MotionLimits α) :
    Except MotionError (ScoutTwist α) := do
  validateFinite "forward velocity" velocity.forwardMps
  validateFinite "lateral velocity" velocity.lateralMps
  validateFinite "yaw velocity" velocity.yawRps
  -- The limits are validated only once the whole velocity is known to be finite.
  validateLimit "forward limit" limits.maxForwardMps
  validateLimit "lateral limit" limits.maxLateralMps
  validateLimit "yaw limit" limits.maxYawRps
  return { ScoutTwist.zero with
    linearX := -Scalar.clamp velocity.lateralMps (-limits.maxLateralMps) limits.maxLateralMps
    linearY := Scalar.clamp velocity.forwardMps (-limits.maxForwardMps) limits.maxForwardMps
    angularZ := Scalar.clamp velocity.yawRps (-limits.maxYawRps) limits.maxYawRps }

end Velocity
end Scout
