import Scout.Codec.Fields
import Scout.Motion.Velocity
import Scout.Number.Binary64Order

/-! What mapping a velocity to a command accepts, what it does to each component, and its bytes. -/

namespace Scout

open Scout.Stream Decoder

/-- The bytes of a command, component after component. -/
def ScoutTwist.encodeRos (twist : ScoutTwist F64) : Bytes :=
  [twist.linearX, twist.linearY, twist.linearZ, twist.angularX, twist.angularY,
    twist.angularZ].foldl writeF64 []

/-- Read a command back, component after component. -/
def ScoutTwist.read : Decode (ScoutTwist F64) := do
  let linearX ← readF64
  let linearY ← readF64
  let linearZ ← readF64
  let angularX ← readF64
  let angularY ← readF64
  let angularZ ← readF64
  finish
  return { linearX, linearY, linearZ, angularX, angularY, angularZ }

/-- Clamping as the standard library does it, where none stands for its failing assertion. -/
def assertingClamp (value low high : F64) : Option F64 :=
  if low ≤ high then some (Scalar.clamp value low high) else none

/-- A validation of the mapping: the name of a field, its number, and whether it is a limit. -/
structure Check where
  field : String
  value : F64
  isLimit : Bool

namespace Check

/-- Make a validation. -/
def validate (check : Check) : Except MotionError Unit :=
  if check.isLimit then validateLimit check.field check.value
  else validateFinite check.field check.value

/-- A number that passes: finite, and positive if it is a limit. -/
def Sound (check : Check) : Prop :=
  check.value.isFinite = true ∧ (check.isLimit = true → Scalar.zero < check.value)

instance (check : Check) : Decidable check.Sound :=
  inferInstanceAs (Decidable (_ ∧ _))

/-- What is said of a number that does not pass. -/
def problem (check : Check) : MotionError :=
  if check.value.isFinite then .nonPositiveLimit check.field else .notFinite check.field

/-- A validation passes exactly on the sound numbers, and names its field otherwise. -/
theorem validate_eq (check : Check) :
    check.validate = if check.Sound then .ok () else .error check.problem := by
  -- Only a finite number is compared with zero, and only if it is a limit.
  obtain ⟨field, value, isLimit⟩ := check
  unfold validate Sound problem validateLimit validateFinite
  by_cases finite : value.isFinite = true
  · cases isLimit with
    | false => simp [Scalar.isFinite, finite]
    | true => simp [Scalar.isFinite, finite, Bind.bind, Except.bind]
  · cases isLimit with
    | false => simp [Scalar.isFinite, finite]
    | true => simp [Scalar.isFinite, finite, Bind.bind, Except.bind]

/-- The first number that does not pass, if there is one. -/
def firstUnsound (checks : List Check) : Option Check :=
  checks.find? fun check => !decide check.Sound

/-- Validations made in order fail at the first number that does not pass. -/
theorem forM_validate (checks : List Check) :
    checks.forM validate =
      match firstUnsound checks with
      | none => .ok ()
      | some check => .error check.problem := by
  -- The induction is on the validations that are still to be made.
  induction checks with
  | nil => rfl
  | cons first later ih =>
    show (validate first >>= fun _ => later.forM validate) = _
    rw [validate_eq, firstUnsound, List.find?_cons]
    by_cases sound : first.Sound
    · rw [if_pos sound, decide_eq_true sound]
      exact ih
    · rw [if_neg sound, decide_eq_false sound]
      rfl

end Check

/-- A limit is sound exactly if it is finite with a positive signed magnitude. -/
theorem sound_limit_iff {field : String} {limit : F64} :
    Check.Sound ⟨field, limit, true⟩ ↔ limit.isFinite = true ∧ 0 < limit.key := by
  -- Zero is finite, and has zero as its signed magnitude.
  have zeroFinite : (Scalar.zero : F64).isFinite = true := by decide +kernel
  have zeroKey : (Scalar.zero : F64).key = 0 := by decide +kernel
  unfold Check.Sound
  refine and_congr_right fun finite => ?_
  rw [F64.lt_iff zeroFinite finite, zeroKey]
  simp

/-- A limit that passes is finite and positive. -/
theorem validateLimit_ok {field : String} {limit : F64} (passed : validateLimit field limit = .ok ()) :
    limit.isFinite = true ∧ 0 < limit.key := by
  -- The validation is the one of a sound number, and zero has no signed magnitude.
  have made : Check.validate ⟨field, limit, true⟩ = .ok () := passed
  rw [Check.validate_eq] at made
  by_cases sound : Check.Sound ⟨field, limit, true⟩
  · exact sound_limit_iff.mp sound
  · rw [if_neg sound] at made
    cases made

/-- The assertion holds for a limit that has passed. -/
theorem assertingClamp_limit {field : String} {value limit : F64}
    (passed : validateLimit field limit = .ok ()) :
    assertingClamp value (-limit) limit = some (Scalar.clamp value (-limit) limit) := by
  -- The negative of a positive number is below it.
  obtain ⟨finite, positive⟩ := validateLimit_ok passed
  have ordered : -limit ≤ limit := by
    rw [F64.le_iff (by simpa using finite) finite, F64.key_neg]
    omega
  exact if_pos ordered

namespace Velocity

/-- The validations of the mapping, in order. -/
def checks (velocity : Velocity F64) (limits : MotionLimits F64) : List Check :=
  [⟨"forward velocity", velocity.forwardMps, false⟩,
    ⟨"lateral velocity", velocity.lateralMps, false⟩,
    ⟨"yaw velocity", velocity.yawRps, false⟩,
    ⟨"forward limit", limits.maxForwardMps, true⟩,
    ⟨"lateral limit", limits.maxLateralMps, true⟩,
    ⟨"yaw limit", limits.maxYawRps, true⟩]

/-- The command that a velocity within no particular bounds is clamped to. -/
def mapped (velocity : Velocity F64) (limits : MotionLimits F64) : ScoutTwist F64 :=
  { ScoutTwist.zero with
    linearX := -Scalar.clamp velocity.lateralMps (-limits.maxLateralMps) limits.maxLateralMps
    linearY := Scalar.clamp velocity.forwardMps (-limits.maxForwardMps) limits.maxForwardMps
    angularZ := Scalar.clamp velocity.yawRps (-limits.maxYawRps) limits.maxYawRps }

/-- The mapping with the assertions of its three clamps. -/
def toScoutTwistAsserting (velocity : Velocity F64) (limits : MotionLimits F64) :
    ExceptT MotionError Option (ScoutTwist F64) := do
  validateFinite "forward velocity" velocity.forwardMps
  validateFinite "lateral velocity" velocity.lateralMps
  validateFinite "yaw velocity" velocity.yawRps
  validateLimit "forward limit" limits.maxForwardMps
  validateLimit "lateral limit" limits.maxLateralMps
  validateLimit "yaw limit" limits.maxYawRps
  let lateral ← assertingClamp velocity.lateralMps (-limits.maxLateralMps) limits.maxLateralMps
  let forward ← assertingClamp velocity.forwardMps (-limits.maxForwardMps) limits.maxForwardMps
  let yaw ← assertingClamp velocity.yawRps (-limits.maxYawRps) limits.maxYawRps
  return { ScoutTwist.zero with linearX := -lateral, linearY := forward, angularZ := yaw }

/-- A validation in front changes a computation that does not fail an assertion only by its error. -/
theorem run_lift_bind {α : Type} {check : Except MotionError Unit}
    {next : ExceptT MotionError Option α} {next' : Except MotionError α}
    (same : check = .ok () → next.run = some next') :
    ((liftM check : ExceptT MotionError Option Unit) >>= fun _ => next).run =
      some (check >>= fun _ => next') := by
  -- A validation that fails ends both computations with its error.
  cases check with
  | error problem => rfl
  | ok passed => exact same rfl

/-- The mapping makes its six validations and then clamps. -/
theorem toScoutTwist_eq (velocity : Velocity F64) (limits : MotionLimits F64) :
    velocity.toScoutTwist limits =
      match Check.firstUnsound (velocity.checks limits) with
      | none => .ok (velocity.mapped limits)
      | some check => .error check.problem := by
  -- The validations of the definition are those of the list, one after another.
  have listed : velocity.toScoutTwist limits =
      (velocity.checks limits).forM Check.validate >>= fun _ => pure (velocity.mapped limits) := by
    simp only [checks, List.forM, bind_assoc, pure_bind]
    rfl
  rw [listed, Check.forM_validate]
  cases Check.firstUnsound (velocity.checks limits) with
  | none => rfl
  | some check => rfl

/-- The assertions of the mapping hold whenever they are reached. -/
theorem toScoutTwistAsserting_eq (velocity : Velocity F64) (limits : MotionLimits F64) :
    (velocity.toScoutTwistAsserting limits).run = some (velocity.toScoutTwist limits) := by
  -- A clamp is reached only after its limit has passed.
  refine run_lift_bind fun _ => run_lift_bind fun _ => run_lift_bind fun _ =>
    run_lift_bind fun forward => run_lift_bind fun lateral => run_lift_bind fun yaw => ?_
  rw [assertingClamp_limit lateral, assertingClamp_limit forward, assertingClamp_limit yaw]
  rfl

end Velocity

/-- The velocity that a command makes the robot drive at. -/
def ScoutTwist.readBack (twist : ScoutTwist F64) : Velocity F64 where
  forwardMps := twist.linearY
  lateralMps := -twist.linearX
  yawRps := twist.angularZ

/-- The three ways in which the robot moves. -/
inductive Axis where
  | forward
  | lateral
  | yaw
  deriving DecidableEq, Repr

/-- The component of a velocity along an axis. -/
def Velocity.along (velocity : Velocity F64) : Axis → F64
  | .forward => velocity.forwardMps
  | .lateral => velocity.lateralMps
  | .yaw => velocity.yawRps

/-- The limit along an axis. -/
def MotionLimits.along (limits : MotionLimits F64) : Axis → F64
  | .forward => limits.maxForwardMps
  | .lateral => limits.maxLateralMps
  | .yaw => limits.maxYawRps

section Component

/-- What clamping makes of one component of a request. -/
structure ClampedTo (limit request applied : F64) : Prop where
  /-- The component depends on nothing but the request and its limit. -/
  formula : applied = Scalar.clamp request (-limit) limit
  within : -limit ≤ applied ∧ applied ≤ limit
  unchanged : -limit ≤ request ∧ request ≤ limit → applied = request
  sign : applied.negative = request.negative
  zero : applied.isZero = request.isZero

variable {limit request : F64}

/-- The signed magnitude of a clamped component lies between those of both ends. -/
theorem key_clamp_limit (limitFinite : limit.isFinite = true) (finite : request.isFinite = true) :
    (Scalar.clamp request (-limit) limit).key = min limit.key (max (-limit.key) request.key) := by
  -- The lower end is the negative of the upper one.
  rw [F64.key_clamp finite (by simpa using limitFinite) limitFinite, F64.key_neg]

/-- A value that is not outside an interval is kept as it is. -/
theorem clamp_of_within {value low high : F64} (notBelow : low ≤ value) (notAbove : value ≤ high) :
    Scalar.clamp value low high = value := by
  -- Neither test succeeds.
  have below : ¬ value < low := fun less => absurd notBelow.2.2 (not_le.mpr less.2.2)
  have above : ¬ high < value := fun less => absurd notAbove.2.2 (not_le.mpr less.2.2)
  simp only [Scalar.clamp]
  rw [if_neg below, if_neg above]

/-- Numbers on the same side of zero agree in their sign and in not being zero. -/
theorem F64.same_side {a b : F64} (side : (a.key < 0 ∧ b.key < 0) ∨ (0 < a.key ∧ 0 < b.key)) :
    a.negative = b.negative ∧ a.isZero = b.isZero := by
  -- The signed magnitude has the sign of its number.
  obtain ⟨negative, magnitude⟩ := a
  obtain ⟨negative', magnitude'⟩ := b
  cases negative <;> cases negative' <;> simp [key, isZero] at side ⊢ <;> omega

/-- A finite request is clamped between the negative and the positive of its limit. -/
theorem clampedTo_clamp (limitFinite : limit.isFinite = true) (positive : 0 < limit.key)
    (finite : request.isFinite = true) :
    ClampedTo limit request (Scalar.clamp request (-limit) limit) := by
  have negFinite : (-limit).isFinite = true := limitFinite
  have key := key_clamp_limit limitFinite finite
  have result := F64.isFinite_clamp finite negFinite limitFinite
  have inside : -limit ≤ Scalar.clamp request (-limit) limit ∧
      Scalar.clamp request (-limit) limit ≤ limit := by
    rw [F64.le_iff negFinite result, F64.le_iff result limitFinite, F64.key_neg, key]
    omega
  -- Both ends of the interval lie on the side of zero on which the request that is moved there is.
  have kept : (Scalar.clamp request (-limit) limit).negative = request.negative ∧
      (Scalar.clamp request (-limit) limit).isZero = request.isZero := by
    rcases F64.clamp_cases request (-limit) limit with same | same | same
    · rw [same]
      exact ⟨rfl, rfl⟩
    · rw [same, F64.key_neg] at key
      rw [same]
      apply F64.same_side
      rw [F64.key_neg]
      omega
    · rw [same] at key
      rw [same]
      apply F64.same_side
      omega
  exact {
    formula := rfl
    within := inside
    unchanged := fun unclamped => clamp_of_within unclamped.1 unclamped.2
    sign := kept.1
    zero := kept.2 }

/-- A larger request is clamped to a component that is at least as large. -/
theorem clamp_mono {limit request request' : F64} (limitFinite : limit.isFinite = true)
    (finite : request.isFinite = true) (finite' : request'.isFinite = true)
    (larger : request ≤ request') :
    Scalar.clamp request (-limit) limit ≤ Scalar.clamp request' (-limit) limit := by
  -- The keys are clamped like the numbers themselves.
  have negFinite : (-limit).isFinite = true := limitFinite
  have order := (F64.le_iff finite finite').mp larger
  rw [F64.le_iff (F64.isFinite_clamp finite negFinite limitFinite)
    (F64.isFinite_clamp finite' negFinite limitFinite), key_clamp_limit limitFinite finite,
    key_clamp_limit limitFinite finite']
  omega

end Component

/-- A command is read back as exactly the numbers it was laid out from. -/
theorem ScoutTwist.reads_read : Reads true read (fun _ => True) encodeRos := by
  -- The components are read in the order in which they are written.
  unfold read
  refine Reads.whole (Reads.field linearX reads_readF64 fun _ =>
    Reads.field linearY reads_readF64 fun _ => Reads.field linearZ reads_readF64 fun _ =>
    Reads.field angularX reads_readF64 fun _ => Reads.field angularY reads_readF64 fun _ =>
    Reads.field angularZ reads_readF64 fun _ => reads_finish fun twist => ?_)
    (fun twist => by simp) fun twist _ => by simp [encodeRos, writeF64]
  · obtain ⟨linearX, linearY, linearZ, angularX, angularY, angularZ⟩ := twist
    simp [and_assoc]

/-- A command takes six times eight bytes. -/
theorem ScoutTwist.encodeRos_length (twist : ScoutTwist F64) : twist.encodeRos.length = 48 := by
  -- Each component takes eight bytes.
  simp [encodeRos, writeF64]

/-- A velocity all of whose components are finite. -/
def Velocity.Finite (velocity : Velocity F64) : Prop :=
  ∀ axis, (velocity.along axis).isFinite = true

/-- Limits that leave an interval around zero on every axis. -/
def MotionLimits.Positive (limits : MotionLimits F64) : Prop :=
  ∀ axis, (limits.along axis).isFinite = true ∧ Scalar.zero < limits.along axis

namespace Velocity

variable {velocity : Velocity F64} {limits : MotionLimits F64} {twist : ScoutTwist F64}

/-- No validation fails exactly if the components are finite and the limits positive. -/
theorem firstUnsound_eq_none :
    Check.firstUnsound (velocity.checks limits) = none ↔ velocity.Finite ∧ limits.Positive := by
  -- Each of the six numbers is sound for itself.
  rw [Check.firstUnsound, List.find?_eq_none]
  simp only [checks, List.forall_mem_cons, Check.Sound]
  constructor
  · intro sound
    obtain ⟨forward, lateral, yaw, maxForward, maxLateral, maxYaw, _⟩ := sound
    simp at forward lateral yaw maxForward maxLateral maxYaw
    constructor
    · intro axis
      cases axis with
      | forward => exact forward
      | lateral => exact lateral
      | yaw => exact yaw
    · intro axis
      cases axis with
      | forward => exact maxForward
      | lateral => exact maxLateral
      | yaw => exact maxYaw
  · intro sound
    obtain ⟨finite, positive⟩ := sound
    have maxForward : limits.maxForwardMps.isFinite = true ∧ _ := positive .forward
    have maxLateral : limits.maxLateralMps.isFinite = true ∧ _ := positive .lateral
    have maxYaw : limits.maxYawRps.isFinite = true ∧ _ := positive .yaw
    simp [show velocity.forwardMps.isFinite = true from finite .forward,
      show velocity.lateralMps.isFinite = true from finite .lateral,
      show velocity.yawRps.isFinite = true from finite .yaw, maxForward, maxLateral, maxYaw]
    exact ⟨maxForward.2, maxLateral.2, maxYaw.2⟩

/-- A velocity is mapped exactly if it is finite and the limits are positive. -/
theorem toScoutTwist_eq_ok : velocity.toScoutTwist limits = .ok twist ↔
    (velocity.Finite ∧ limits.Positive) ∧ twist = velocity.mapped limits := by
  -- Either there is a first number that does not pass, or there is none.
  rw [toScoutTwist_eq, ← firstUnsound_eq_none]
  cases Check.firstUnsound (velocity.checks limits) with
  | none => simp [eq_comm]
  | some check => simp

/-- Reading a mapped velocity back gives the clamp of each component. -/
theorem readBack_mapped (axis : Axis) : (velocity.mapped limits).readBack.along axis =
    Scalar.clamp (velocity.along axis) (-limits.along axis) (limits.along axis) := by
  -- The lateral component is negated twice.
  cases axis with
  | forward => rfl
  | lateral => exact F64.neg_neg _
  | yaw => rfl

/-- Each component of a mapped velocity is clamped to its limit. -/
theorem clampedTo_of_ok (accepted : velocity.toScoutTwist limits = .ok twist) (axis : Axis) :
    ClampedTo (limits.along axis) (velocity.along axis) (twist.readBack.along axis) := by
  -- The validations say what clamping needs.
  obtain ⟨⟨finite, positive⟩, rfl⟩ := toScoutTwist_eq_ok.mp accepted
  rw [readBack_mapped]
  have limit := (@sound_limit_iff "" _).mp ⟨(positive axis).1, fun _ => (positive axis).2⟩
  exact clampedTo_clamp limit.1 limit.2 (finite axis)

/-- The velocity that a command makes the robot drive at is mapped to that command. -/
theorem toScoutTwist_readBack (accepted : velocity.toScoutTwist limits = .ok twist) :
    twist.readBack.toScoutTwist limits = .ok twist := by
  have clamped := clampedTo_of_ok accepted
  obtain ⟨⟨finite, positive⟩, rfl⟩ := toScoutTwist_eq_ok.mp accepted
  -- A component within its limit is not clamped again.
  have again (axis : Axis) : Scalar.clamp ((velocity.mapped limits).readBack.along axis)
      (-limits.along axis) (limits.along axis) = (velocity.mapped limits).readBack.along axis :=
    clamp_of_within (clamped axis).within.1 (clamped axis).within.2
  refine toScoutTwist_eq_ok.mpr ⟨⟨fun axis => ?_, positive⟩, ?_⟩
  · rw [readBack_mapped]
    have limitFinite := (positive axis).1
    exact F64.isFinite_clamp (finite axis) (by simpa using limitFinite) limitFinite
  · -- The other components are zero in both commands.
    have lateral : -Scalar.clamp (-(velocity.mapped limits).linearX) (-limits.maxLateralMps)
        limits.maxLateralMps = (velocity.mapped limits).linearX := by
      exact (congrArg _ (again .lateral)).trans (F64.neg_neg _)
    have forward := again .forward
    have yaw := again .yaw
    unfold mapped at forward lateral yaw ⊢
    exact ScoutTwist.mk.injEq .. ▸ ⟨lateral.symm, forward.symm, rfl, rfl, rfl, yaw.symm⟩

/-- What the mapping makes of a velocity, for given limits. -/
structure MapsTo (velocity : Velocity F64) (limits : MotionLimits F64) (twist : ScoutTwist F64) :
    Prop where
  clamps : ∀ axis,
    ClampedTo (limits.along axis) (velocity.along axis) (twist.readBack.along axis)
  again : twist.readBack.toScoutTwist limits = .ok twist
  /-- Nothing is said of the other components of the other velocity. -/
  monotone : ∀ (other : Velocity F64) (otherTwist : ScoutTwist F64) (axis : Axis),
    other.toScoutTwist limits = .ok otherTwist ∧ velocity.along axis ≤ other.along axis →
      twist.readBack.along axis ≤ otherTwist.readBack.along axis
  /-- Nothing is said of the other components and the other limits. -/
  independent : ∀ (other : Velocity F64) (otherLimits : MotionLimits F64)
    (otherTwist : ScoutTwist F64) (axis : Axis),
    other.toScoutTwist otherLimits = .ok otherTwist ∧ velocity.along axis = other.along axis ∧
      limits.along axis = otherLimits.along axis →
        twist.readBack.along axis = otherTwist.readBack.along axis

/-- An accepted velocity is mapped as it should be. -/
theorem mapsTo_of_ok (accepted : velocity.toScoutTwist limits = .ok twist) :
    velocity.MapsTo limits twist where
  clamps := clampedTo_of_ok accepted
  again := toScoutTwist_readBack accepted
  monotone other otherTwist axis larger := by
    -- Both components are clamped to the same limit.
    obtain ⟨otherAccepted, order⟩ := larger
    obtain ⟨⟨finite, positive⟩, _⟩ := toScoutTwist_eq_ok.mp accepted
    obtain ⟨⟨otherFinite, _⟩, _⟩ := toScoutTwist_eq_ok.mp otherAccepted
    rw [(clampedTo_of_ok accepted axis).formula, (clampedTo_of_ok otherAccepted axis).formula]
    exact clamp_mono (positive axis).1 (finite axis) (otherFinite axis) order
  independent other otherLimits otherTwist axis agreeing := by
    -- A component is a function of the request and its limit.
    obtain ⟨otherAccepted, request, limit⟩ := agreeing
    rw [(clampedTo_of_ok accepted axis).formula, (clampedTo_of_ok otherAccepted axis).formula,
      request, limit]

/-- The mapping of velocities is exact in what it accepts, clamps and encodes. -/
theorem toScoutTwist_exact :
    (∀ (velocity : Velocity F64) (limits : MotionLimits F64),
      ((∃ twist, velocity.toScoutTwist limits = .ok twist) ↔
        velocity.Finite ∧ limits.Positive) ∧
      (∀ problem, velocity.toScoutTwist limits = .error problem ↔
        ∃ check, Check.firstUnsound (velocity.checks limits) = some check ∧
          problem = check.problem) ∧
      (velocity.toScoutTwistAsserting limits).run = some (velocity.toScoutTwist limits) ∧
      ∀ twist, velocity.toScoutTwist limits = .ok twist → velocity.MapsTo limits twist) ∧
    ∀ twist : ScoutTwist F64, twist.encodeRos.length = 48 ∧
      decoded (ScoutTwist.read (.new twist.encodeRos)) = .ok twist := by
  refine ⟨fun velocity limits => ⟨?_, fun problem => ?_, toScoutTwistAsserting_eq velocity limits,
    fun twist => mapsTo_of_ok⟩, fun twist => ⟨twist.encodeRos_length, ?_⟩⟩
  · simp only [toScoutTwist_eq_ok]
    exact ⟨fun found => found.choose_spec.1, fun valid => ⟨_, valid, rfl⟩⟩
  · rw [toScoutTwist_eq]
    cases Check.firstUnsound (velocity.checks limits) with
    | none => simp
    | some check => simp [eq_comm]
  · -- The bytes are the layout of the command, which is read back as it was.
    obtain ⟨after, found⟩ := (decoded_iff ScoutTwist.reads_read).mpr ⟨trivial, rfl⟩
    rw [found]
    rfl

end Velocity
end Scout
