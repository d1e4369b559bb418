import Mathlib.Algebra.Order.Group.Abs
import Scout.Motion.Mapping

/-! Every command made from a velocity is finite and within the driver's limits. -/

namespace Scout

/-- A command that may be published: finite, planar, and within the default limits. -/
structure ScoutTwist.Safe (twist : ScoutTwist F64) : Prop where
  /-- The rightward speed is finite and bounded. -/
  linearX : twist.linearX.isFinite = true ∧
    twist.linearX.abs ≤ (MotionLimits.default : MotionLimits F64).maxLateralMps
  /-- The forward speed is finite and bounded. -/
  linearY : twist.linearY.isFinite = true ∧
    twist.linearY.abs ≤ (MotionLimits.default : MotionLimits F64).maxForwardMps
  /-- The turning speed is finite and bounded. -/
  angularZ : twist.angularZ.isFinite = true ∧
    twist.angularZ.abs ≤ (MotionLimits.default : MotionLimits F64).maxYawRps
  /-- No vertical motion is ever commanded. -/
  linearZ : twist.linearZ = Scalar.zero
  /-- No roll is ever commanded. -/
  angularX : twist.angularX = Scalar.zero
  /-- No pitch is ever commanded. -/
  angularY : twist.angularY = Scalar.zero

/-- The forward limit as a bit pattern. -/
theorem default_maxForward :
    (MotionLimits.default : MotionLimits F64).maxForwardMps = ⟨false, 0x3fde147ae147ae14⟩ := by
  -- The literal 0.47 is rounded once.
  decide +kernel

/-- The lateral limit as a bit pattern. -/
theorem default_maxLateral :
    (MotionLimits.default : MotionLimits F64).maxLateralMps = ⟨false, 0x3fc999999999999a⟩ := by
  -- The literal 0.2 is rounded once.
  decide +kernel

/-- The yaw limit as a bit pattern. -/
theorem default_maxYaw :
    (MotionLimits.default : MotionLimits F64).maxYawRps = ⟨false, 0x4007333333333333⟩ := by
  -- The literal 2.9 is rounded once.
  decide +kernel

/-- A clamped finite value stays within a finite limit of either sign. -/
theorem abs_clamp_le {value limit : F64} (finite : value.isFinite = true)
    (limitFinite : limit.isFinite = true) (positive : Scalar.zero < limit) :
    (Scalar.clamp value (-limit) limit).isFinite = true ∧
      (Scalar.clamp value (-limit) limit).abs ≤ limit := by
  -- The signed magnitude of the result lies between those of the two ends.
  have negFinite : (-limit).isFinite = true := limitFinite
  have result := F64.isFinite_clamp finite negFinite limitFinite
  have sound := (@sound_limit_iff "" _).mp ⟨limitFinite, fun _ => positive⟩
  refine ⟨result, ?_⟩
  rw [F64.le_iff (by simpa using result) limitFinite, F64.key_abs, abs_le,
    key_clamp_limit limitFinite finite]
  omega

/-- The default limits pass their own checks. -/
theorem default_positive : (MotionLimits.default : MotionLimits F64).Positive := by
  -- Each limit is the bit pattern of a positive number.
  intro axis
  cases axis with
  | forward => rw [MotionLimits.along, default_maxForward]; decide +kernel
  | lateral => rw [MotionLimits.along, default_maxLateral]; decide +kernel
  | yaw => rw [MotionLimits.along, default_maxYaw]; decide +kernel

/-- Every command made from a velocity is safe to publish. -/
theorem toScoutTwist_safe {velocity : Velocity F64} {twist : ScoutTwist F64}
    (accepted : velocity.toScoutTwist .default = .ok twist) : twist.Safe := by
  -- Each moving axis is a clamp, possibly negated, and the other axes keep their zeros.
  obtain ⟨⟨finite, positive⟩, same⟩ := Velocity.toScoutTwist_eq_ok.mp accepted
  subst same
  have clamped (axis : Axis) := abs_clamp_le (finite axis) (positive axis).1 (positive axis).2
  exact {
    linearX := clamped .lateral
    linearY := clamped .forward
    angularZ := clamped .yaw
    linearZ := rfl
    angularX := rfl
    angularY := rfl }

/-- The stop command is safe to publish. -/
theorem zero_safe : (ScoutTwist.zero : ScoutTwist F64).Safe := by
  -- Every component is the zero pattern, and each limit is a positive pattern.
  have zero : (Scalar.zero : F64).isFinite = true := by decide +kernel
  exact {
    linearX := ⟨zero, by decide +kernel⟩
    linearY := ⟨zero, by decide +kernel⟩
    angularZ := ⟨zero, by decide +kernel⟩
    linearZ := rfl
    angularX := rfl
    angularY := rfl }

end Scout
