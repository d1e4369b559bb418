import Mathlib.Algebra.Order.Field.Basic
import Mathlib.Tactic.Linarith
import Mathlib.Tactic.Positivity
import Scout.Teleop.Session

/-! Changing the speed: the arithmetic of the loop over any numbers, and its safety over exact ones. -/

namespace Scout

/-- Numbers with the minima and maxima that the speed scale is made of. -/
class Extrema (α : Type) extends Scalar α where
  /-- The minimum of a first number and some more, folded from infinity. -/
  least : α → List α → α
  smaller : α → α → α
  larger : α → α → α

instance : Extrema F64 where
  least first others := (first :: others).foldl F64.min (F64.infinity false)
  smaller := F64.min
  larger := F64.max

instance : Extrema ℚ where
  -- Infinity is neutral, and there is no infinity among the exact numbers.
  least first others := others.foldl min first
  smaller := min
  larger := max

/-- The speeds and the rate that teleoperation is started with, as numbers of some kind. -/
structure SpeedArgs (α : Type) where
  speed : α
  strafeSpeed : α
  turnSpeed : α
  rateHz : α

/-- Which movement keys are held at some time. -/
structure HeldKeys where
  forward : Bool
  reverse : Bool
  strafeLeft : Bool
  strafeRight : Bool
  turnLeft : Bool
  turnRight : Bool
  deriving DecidableEq

section Generic

variable {α : Type} [Extrema α]

/-- How much one press changes the scale, and the smallest scale there is. -/
def quarter : α := Scalar.ofRat (1 / 4)

namespace SpeedArgs

/-- A speed that is accepted: finite, positive, and not beyond its limit. -/
def AcceptedSpeed (value maximum : α) : Prop :=
  Scalar.isFinite value = true ∧ ¬ value ≤ Scalar.zero ∧ ¬ maximum < value

/-- Arguments that pass the checks of teleoperation. -/
structure Accepted (args : SpeedArgs α) (limits : MotionLimits α) : Prop where
  speed : AcceptedSpeed args.speed limits.maxForwardMps
  strafeSpeed : AcceptedSpeed args.strafeSpeed limits.maxLateralMps
  turnSpeed : AcceptedSpeed args.turnSpeed limits.maxYawRps
  rateHz : Scalar.isFinite args.rateHz = true ∧
    Scalar.one ≤ args.rateHz ∧ args.rateHz ≤ Scalar.ofRat 100

/-- The largest speed scale that keeps all speeds and the rate within their limits. -/
def maximumSpeedScale (args : SpeedArgs α) (limits : MotionLimits α) : α :=
  Extrema.larger
    (Extrema.least (limits.maxForwardMps / args.speed)
      [limits.maxLateralMps / args.strafeSpeed, limits.maxYawRps / args.turnSpeed,
        Scalar.ofRat 100 / args.rateHz])
    quarter

/-- The speed scale that the loop starts with. -/
def initialSpeedScale (args : SpeedArgs α) (limits : MotionLimits α) : α :=
  Extrema.smaller Scalar.one (args.maximumSpeedScale limits)

/-- The speed scale after one press, where none stands for a failing assertion. -/
def adjustedSpeedScale (current : α) (increase : Bool) (maximum : α) : Option α :=
  let change := if increase then quarter else -quarter
  if (quarter : α) ≤ maximum then some (Scalar.clamp (current + change) quarter maximum) else none

/-- The speed scale after some presses. -/
def speedScaleAfter (args : SpeedArgs α) (limits : MotionLimits α) (presses : List Bool) : Option α :=
  presses.foldlM (fun current increase =>
    adjustedSpeedScale current increase (args.maximumSpeedScale limits))
    (args.initialSpeedScale limits)

/-- The velocity that held keys ask for at a speed scale. -/
def velocity (args : SpeedArgs α) (keys : HeldKeys) (speedScale : α) : Velocity α :=
  let balance (positive negative : Bool) : α :=
    Scalar.ofRat (((positive.toNat : Int) - negative.toNat : Int) : ℚ)
  { forwardMps := balance keys.forward keys.reverse * args.speed * speedScale
    lateralMps := balance keys.strafeLeft keys.strafeRight * args.strafeSpeed * speedScale
    yawRps := balance keys.turnLeft keys.turnRight * args.turnSpeed * speedScale }

/-- The seconds between two commands at a speed scale. -/
def periodSecs (args : SpeedArgs α) (speedScale : α) : α :=
  Scalar.one / (args.rateHz * speedScale)

end SpeedArgs
end Generic

/-- The nanoseconds nearest to exact seconds, where none stands for the conversion's panic. -/
def Duration.fromExactSecs (secs : ℚ) : Option Duration :=
  if secs < 0 then none
  else
    let exact := secs * 1000000000
    let nanos := F64.roundHalfEven exact.num.natAbs exact.den
    if nanos / 1000000000 < 2 ^ 64 then some nanos else none

section Session

/-- The numbers that a session is started with. -/
def TeleopArgs.numbers (args : TeleopArgs) : SpeedArgs F64 where
  speed := args.speed
  strafeSpeed := args.strafeSpeed
  turnSpeed := args.turnSpeed
  rateHz := args.rateHz

/-- The keys that are held at some time. -/
def TeleopControl.keysAt (control : TeleopControl) (now : Instant) : HeldKeys where
  forward := (active control.forward now).1
  reverse := (active control.reverse now).1
  strafeLeft := (active control.strafeLeft now).1
  strafeRight := (active control.strafeRight now).1
  turnLeft := (active control.turnLeft now).1
  turnRight := (active control.turnRight now).1

variable (args : TeleopArgs)

/-- The loop's largest speed scale is the one over binary numbers. -/
theorem maximumSpeedScale_numbers (limits : MotionLimits F64) :
    args.maximumSpeedScale limits = args.numbers.maximumSpeedScale limits := rfl

/-- The loop's velocity is the one over binary numbers. -/
theorem velocity_numbers (control : TeleopControl) (now : Instant) (speedScale : F64) :
    (control.velocity now args.speed args.strafeSpeed args.turnSpeed speedScale).1 =
      args.numbers.velocity (control.keysAt now) speedScale := rfl

/-- The loop's period is the one over binary numbers, converted as exact seconds are. -/
theorem period_numbers (speedScale : F64) (finite : (args.numbers.periodSecs speedScale).isFinite = true) :
    args.period speedScale = Duration.fromExactSecs (args.numbers.periodSecs speedScale).value := by
  -- Only finite numbers have an exact value.
  have unfolded : args.period speedScale =
      Duration.fromSecsF64 (args.numbers.periodSecs speedScale) := rfl
  rw [unfolded, Duration.fromSecsF64, Duration.fromExactSecs, finite]
  simp

/-- One check after another passes exactly if both do. -/
theorem unit_bind_ok {ε : Type} {first second : Except ε Unit} :
    (first >>= fun _ => second) = .ok () ↔ first = .ok () ∧ second = .ok () := by
  -- A check that fails ends the sequence.
  cases first with
  | ok passed => simp [Bind.bind, Except.bind]
  | error problem => simp [Bind.bind, Except.bind]

/-- A speed passes its check exactly if it is accepted. -/
theorem validateTeleopSpeed_eq_ok {name text : String} {value maximum : F64} :
    TeleopArgs.validateTeleopSpeed name value maximum text = .ok () ↔
      SpeedArgs.AcceptedSpeed value maximum := by
  -- The check refuses exactly the other speeds.
  unfold TeleopArgs.validateTeleopSpeed SpeedArgs.AcceptedSpeed
  by_cases refused : !value.isFinite ∨ value ≤ Scalar.zero ∨ maximum < value
  · rw [if_pos refused]
    refine iff_of_false nofun fun accepted => ?_
    rcases refused with infinite | small | large
    · have finite : value.isFinite = true := accepted.1
      rw [finite] at infinite
      cases infinite
    · exact accepted.2.1 small
    · exact accepted.2.2 large
  · rw [if_neg refused]
    obtain ⟨finite, small, large⟩ := not_or.mp refused |>.imp_right not_or.mp
    have known : value.isFinite = true := by simpa using finite
    exact iff_of_true rfl ⟨known, small, large⟩

/-- The loop accepts the arguments that are accepted over binary numbers. -/
theorem validate_numbers : args.validate = .ok () ↔ args.numbers.Accepted .default := by
  -- The four checks are made one after another.
  have rate : (if !args.rateHz.isFinite ∨
      ¬ (Scalar.one ≤ args.rateHz ∧ args.rateHz ≤ Scalar.ofRat 100) then
        (.error "--rate-hz must be finite and between 1 and 100" : Outcome) else .ok ()) = .ok () ↔
      args.rateHz.isFinite = true ∧ Scalar.one ≤ args.rateHz ∧ args.rateHz ≤ Scalar.ofRat 100 := by
    by_cases finite : args.rateHz.isFinite = true
    · simp [finite]
    · simp [finite]
  unfold TeleopArgs.validate
  rw [unit_bind_ok, unit_bind_ok, unit_bind_ok, validateTeleopSpeed_eq_ok,
    validateTeleopSpeed_eq_ok, validateTeleopSpeed_eq_ok, rate]
  exact ⟨fun all => ⟨all.1, all.2.1, all.2.2.1, all.2.2.2⟩,
    fun all => ⟨all.speed, all.strafeSpeed, all.turnSpeed, all.rateHz⟩⟩

/-- The largest speed scale of the loop is never below the smallest one. -/
theorem quarter_le_maximum (limits : MotionLimits F64) :
    (quarter : F64) ≤ args.maximumSpeedScale limits := by
  -- The last operation takes a maximum with the smallest scale.
  have reflexive : (quarter : F64) ≤ quarter := by decide +kernel
  have number : (quarter : F64).isNaN = false := by decide +kernel
  have unfolded (x : F64) : (quarter : F64) ≤ F64.max x quarter := by
    unfold F64.max
    by_cases notNumber : x.isNaN = true
    · rwa [if_pos notNumber]
    · rw [if_neg notNumber, number, if_neg Bool.false_ne_true]
      by_cases below : x < quarter
      · rwa [if_pos below]
      · rw [if_neg below]
        have order : ¬ x.key < (quarter : F64).key := fun less =>
          below ⟨Bool.not_eq_true _ |>.mp notNumber, number, less⟩
        exact ⟨number, Bool.not_eq_true _ |>.mp notNumber, not_lt.mp order⟩
  exact unfolded _

/-- A press in the loop changes the scale as over binary numbers, and no assertion fails. -/
theorem adjustedSpeedScale_numbers (current : F64) (increase : Bool) (limits : MotionLimits F64) :
    SpeedArgs.adjustedSpeedScale current increase (args.numbers.maximumSpeedScale limits) =
      some (adjustedSpeedScale current increase (args.maximumSpeedScale limits)) :=
  if_pos (quarter_le_maximum args limits)

/-- The loop has its speed scale: it has started, and not yet stopped. -/
def TeleopPhase.Driving : TeleopPhase → Prop
  | .checking | .preparing | .entering | .starting | .stopping _ | .returned _ => False
  | _ => True

/-- While the loop drives, its speed scale is the one after some presses. -/
def Teleop.Pressed (args : TeleopArgs) (loop : Teleop) : Prop :=
  loop.phase.Driving → ∃ presses,
    args.numbers.speedScaleAfter .default presses = some loop.speedScale

variable {args} {before after : Teleop}

/-- A step that does not touch the speed scale keeps it as it is. -/
theorem Teleop.Pressed.kept (pressed : before.Pressed args) (driving : before.phase.Driving)
    (same : after.speedScale = before.speedScale) : after.Pressed args :=
  fun _ => same ▸ pressed driving

/-- Another press extends the presses. -/
theorem Teleop.Pressed.press (pressed : before.Pressed args) (driving : before.phase.Driving)
    (increase : Bool) (changed : after.speedScale = adjustedSpeedScale before.speedScale increase
      (args.maximumSpeedScale .default)) : after.Pressed args := by
  -- The new press comes last.
  intro _
  obtain ⟨presses, found⟩ := pressed driving
  refine ⟨presses ++ [increase], ?_⟩
  unfold SpeedArgs.speedScaleAfter at found ⊢
  rw [List.foldlM_append, found, changed]
  simp only [Option.bind_eq_bind, Option.bind_some, List.foldlM_cons, List.foldlM_nil, bind_pure]
  exact adjustedSpeedScale_numbers args before.speedScale increase .default

/-- Acting on a key changes the speed scale by a press or not at all. -/
theorem Teleop.Pressed.handle (pressed : before.Pressed args) (driving : before.phase.Driving)
    (period : Duration) (key : KeyEvent) (now : Instant) :
    (before.handle args period key now).Pressed args := by
  -- Only two of the actions touch the speed scale.
  unfold Teleop.handle
  obtain ⟨action, control⟩ := before.control.handleKey key now
  cases action with
  | none => exact pressed.kept driving rfl
  | exit => exact pressed.kept driving rfl
  | capture => exact pressed.kept driving rfl
  | faster => exact pressed.press driving true (by simp only [Teleop.goto])
  | slower => exact pressed.press driving false (by simp only [Teleop.goto])

/-- Going on or leaving the loop keeps the speed scale. -/
theorem Teleop.Pressed.continue_ (pressed : before.Pressed args) (driving : before.phase.Driving)
    {α : Type} (loop : Teleop) (same : loop.speedScale = before.speedScale)
    (result : Except String α) (next : α → TeleopPhase) :
    (loop.continue_ result next).Pressed args := by
  -- Only the phase changes.
  cases result with
  | ok value => exact pressed.kept driving same
  | error error => exact pressed.kept driving same

/-- Making a command keeps the speed scale. -/
theorem Teleop.Pressed.publish (pressed : before.Pressed args) (driving : before.phase.Driving)
    (now : Instant) : (before.publish args now).Pressed args := by
  -- A command is made only if it is due and its mapping succeeds.
  unfold Teleop.publish
  by_cases due : before.nextPublish ≤ now
  · rw [if_pos due]
    obtain ⟨velocity, control⟩ := before.control.velocity now args.speed args.strafeSpeed
      args.turnSpeed before.speedScale
    simp only
    cases velocity.toScoutTwist MotionLimits.default with
    | ok command => exact pressed.kept driving rfl
    | error problem => exact pressed.kept driving rfl
  · rw [if_neg due]
    exact pressed.kept driving rfl

/-- Every effect of teleoperation changes the speed scale by a press or not at all. -/
theorem Teleop.Pressed.effect (pressed : before.Pressed args) {input : TeleopAnswer}
    (taken : before.teleop args input = some after) : after.Pressed args := by
  -- The cases follow the branches of the function, each named by its phase.
  unfold Teleop.teleop at taken
  split at taken <;> rename_i was
  · -- Nothing is known of the speed scale before the loop starts.
    split at taken <;> cases taken <;> exact fun driving => driving.elim
  · split at taken <;> cases taken <;> exact fun driving => driving.elim
  · split at taken <;> cases taken <;> exact fun driving => driving.elim
  · -- The loop starts without a press.
    cases taken
    exact fun _ => ⟨[], rfl⟩
  all_goals try have driving : before.phase.Driving := by rw [was]; trivial
  · cases taken
    exact pressed.continue_ driving (before.send _) rfl _ _
  · cases taken
    exact pressed.kept driving rfl
  · obtain ⟨period, _, rfl⟩ := Option.map_eq_some_iff.mp taken
    exact pressed.kept driving rfl
  · cases taken
    exact pressed.continue_ driving _ rfl _ _
  · cases taken
    exact pressed.continue_ driving _ rfl _ _
  · cases taken
    exact pressed.handle driving _ _ _
  · cases taken
    exact pressed.continue_ driving (before.send _) rfl _ _
  · cases taken
    exact pressed.continue_ driving _ rfl _ _
  · cases taken
    exact pressed.kept driving rfl
  · cases taken
    exact pressed.continue_ driving _ rfl _ _
  · cases taken
    exact pressed.kept driving rfl
  · cases taken
    exact pressed.publish driving _
  · split at taken
    · obtain ⟨period, _, rfl⟩ := Option.map_eq_some_iff.mp taken
      exact pressed.kept driving rfl
    · cases taken
      exact pressed.kept driving rfl
  · -- The loop has stopped.
    cases taken
    exact fun driving => driving.elim
  · cases taken

/-- In every run of teleoperation the speed scale is the one after some presses. -/
theorem Teleop.pressed_run {events : List TeleopEvent} {loop : Teleop}
    (ran : Machine.run (step args) start events = some loop) : loop.Pressed args := by
  -- There is no speed scale at the start, and every step changes it by a press or not at all.
  have initially : Pressed args start := fun driving => False.elim driving
  refine Machine.run_invariant (fun _ => True) (Pressed args) ?_ (fun _ _ => trivial) initially ran
  intro before event after _ pressed taken
  cases event with
  | interrupt =>
    cases taken
    exact pressed
  | main input => exact pressed.effect taken

end Session

section Rounding

/-- A fraction that is at most an integer is rounded to at most that integer. -/
theorem F64.roundHalfEven_le {numerator denominator bound : Nat}
    (below : numerator ≤ bound * denominator) (positive : 0 < denominator) :
    roundHalfEven numerator denominator ≤ bound := by
  have quotient : numerator / denominator ≤ bound :=
    Nat.div_le_of_le_mul (by rwa [Nat.mul_comm] at below)
  have split := Nat.div_add_mod numerator denominator
  unfold roundHalfEven
  by_cases whole : numerator / denominator = bound
  · -- Nothing is left over at the bound itself, so nothing is rounded up.
    have rest : numerator % denominator = 0 := by
      rw [whole, Nat.mul_comm] at split
      omega
    simp [rest, positive, whole]
  · -- Below the bound there is room for rounding up.
    have room : numerator / denominator + 1 ≤ bound := by omega
    dsimp only
    split_ifs <;> omega

/-- A fraction that is at least an integer is rounded to at least that integer. -/
theorem F64.le_roundHalfEven {numerator denominator bound : Nat}
    (above : bound * denominator ≤ numerator) (positive : 0 < denominator) :
    bound ≤ roundHalfEven numerator denominator := by
  -- Rounding does not go below the quotient.
  have quotient : bound ≤ numerator / denominator := (Nat.le_div_iff_mul_le positive).mpr above
  unfold roundHalfEven
  grind

/-- Exact seconds between whole numbers of nanoseconds become a duration between them. -/
theorem Duration.fromExactSecs_between {secs : ℚ} {low high : Nat}
    (above : (low : ℚ) ≤ secs * 1000000000) (below : secs * 1000000000 ≤ high)
    (small : high < 2 ^ 64) : ∃ duration, Duration.fromExactSecs secs = some duration ∧
      low ≤ duration ∧ duration ≤ high := by
  -- The exact number of nanoseconds is the fraction that is rounded.
  have nonneg : 0 ≤ secs * 1000000000 := le_trans (Nat.cast_nonneg low) above
  have fraction : secs * 1000000000 * (secs * 1000000000).den =
      ((secs * 1000000000).num.natAbs : ℚ) := by
    rw [Rat.mul_den_eq_num, ← Int.cast_natCast, Int.natAbs_of_nonneg (Rat.num_nonneg.mpr nonneg)]
  have positive : (0 : ℚ) < (secs * 1000000000).den := by exact_mod_cast Rat.den_pos _
  have notNegative : ¬ secs < 0 := by linarith
  have lower : low * (secs * 1000000000).den ≤ (secs * 1000000000).num.natAbs := by
    have scaled := mul_le_mul_of_nonneg_right above positive.le
    rw [fraction] at scaled
    exact_mod_cast scaled
  have upper : (secs * 1000000000).num.natAbs ≤ high * (secs * 1000000000).den := by
    have scaled := mul_le_mul_of_nonneg_right below positive.le
    rw [fraction] at scaled
    exact_mod_cast scaled
  have between := And.intro (F64.le_roundHalfEven lower (Rat.den_pos _))
    (F64.roundHalfEven_le upper (Rat.den_pos _))
  have fits : F64.roundHalfEven (secs * 1000000000).num.natAbs (secs * 1000000000).den
      / 1000000000 < 2 ^ 64 := lt_of_le_of_lt (Nat.div_le_self _ _) (between.2.trans_lt small)
  refine ⟨_, ?_, between⟩
  rw [Duration.fromExactSecs, if_neg notNegative]
  exact if_pos fits

end Rounding

section Exact

variable {args : SpeedArgs ℚ} {limits : MotionLimits ℚ}

/-- Clamping between ordered ends stays between them. -/
theorem clamp_between {value low high : ℚ} (ordered : low ≤ high) :
    low ≤ Scalar.clamp value low high ∧ Scalar.clamp value low high ≤ high := by
  -- The first test raises to the lower end, the second lowers to the upper end.
  simp only [Scalar.clamp]
  split_ifs <;> constructor <;> linarith

/-- A number within its limit is not clamped. -/
theorem clamp_within {value limit : ℚ} (within : |value| ≤ limit) :
    Scalar.clamp value (-limit) limit = value := by
  -- Neither test succeeds.
  obtain ⟨above, below⟩ := abs_le.mp within
  simp only [Scalar.clamp]
  rw [if_neg (not_lt.mpr above), if_neg (not_lt.mpr below)]

namespace SpeedArgs

/-- Accepted arguments are positive and within the limits of the driver. -/
theorem accepted_bounds (accepted : args.Accepted .default) :
    (0 < args.speed ∧ args.speed ≤ 47 / 100) ∧ (0 < args.strafeSpeed ∧ args.strafeSpeed ≤ 1 / 5) ∧
      (0 < args.turnSpeed ∧ args.turnSpeed ≤ 29 / 10) ∧ 1 ≤ args.rateHz ∧ args.rateHz ≤ 100 := by
  -- The checks are made in other words.
  have bounds {value maximum : ℚ} (speed : AcceptedSpeed value maximum) :
      0 < value ∧ value ≤ maximum := ⟨not_le.mp speed.2.1, not_lt.mp speed.2.2⟩
  exact ⟨bounds accepted.speed, bounds accepted.strafeSpeed, bounds accepted.turnSpeed,
    accepted.rateHz.2⟩

/-- The largest scale is at least one, and keeps each number within its limit. -/
theorem maximumSpeedScale_bounds (accepted : args.Accepted .default) :
    1 ≤ args.maximumSpeedScale .default ∧
      args.speed * args.maximumSpeedScale .default ≤ 47 / 100 ∧
      args.strafeSpeed * args.maximumSpeedScale .default ≤ 1 / 5 ∧
      args.turnSpeed * args.maximumSpeedScale .default ≤ 29 / 10 ∧
      args.rateHz * args.maximumSpeedScale .default ≤ 100 := by
  obtain ⟨speed, strafeSpeed, turnSpeed, rateHz⟩ := accepted_bounds accepted
  have positive : 0 < args.rateHz := lt_of_lt_of_le one_pos rateHz.1
  -- The maximum is the least of four quotients, none of which is below one.
  have unfolded : args.maximumSpeedScale .default =
      max (min (min (min (47 / 100 / args.speed) (1 / 5 / args.strafeSpeed))
        (29 / 10 / args.turnSpeed)) (100 / args.rateHz)) (1 / 4) := rfl
  have atLeast : 1 ≤ min (min (min (47 / 100 / args.speed) (1 / 5 / args.strafeSpeed))
      (29 / 10 / args.turnSpeed)) (100 / args.rateHz) := by
    refine le_min (le_min (le_min ?_ ?_) ?_) ?_
    · exact (one_le_div speed.1).mpr speed.2
    · exact (one_le_div strafeSpeed.1).mpr strafeSpeed.2
    · exact (one_le_div turnSpeed.1).mpr turnSpeed.2
    · exact (one_le_div positive).mpr rateHz.2
  have floorless : args.maximumSpeedScale .default =
      min (min (min (47 / 100 / args.speed) (1 / 5 / args.strafeSpeed))
        (29 / 10 / args.turnSpeed)) (100 / args.rateHz) := by
    rw [unfolded, max_eq_left]
    linarith
  have limited {value maximum : ℚ} (above : 0 < value)
      (most : args.maximumSpeedScale .default ≤ maximum / value) :
      value * args.maximumSpeedScale .default ≤ maximum := by
    rw [mul_comm]
    exact (le_div_iff₀ above).mp most
  refine ⟨floorless ▸ atLeast, limited speed.1 ?_, limited strafeSpeed.1 ?_,
    limited turnSpeed.1 ?_, limited positive ?_⟩
  · rw [floorless]
    exact (min_le_left _ _).trans ((min_le_left _ _).trans (min_le_left _ _))
  · rw [floorless]
    exact (min_le_left _ _).trans ((min_le_left _ _).trans (min_le_right _ _))
  · rw [floorless]
    exact (min_le_left _ _).trans (min_le_right _ _)
  · rw [floorless]
    exact min_le_right _ _

/-- One press keeps the scale between the smallest and the largest, with ordered ends. -/
theorem adjustedSpeedScale_between {current maximum : ℚ} (increase : Bool)
    (ordered : 1 / 4 ≤ maximum) :
    ∃ scale, adjustedSpeedScale current increase maximum = some scale ∧
      1 / 4 ≤ scale ∧ scale ≤ maximum :=
  ⟨_, if_pos ordered, clamp_between ordered⟩

/-- Any presses keep the scale between the smallest and the largest, with ordered ends. -/
theorem presses_between {maximum : ℚ} (ordered : 1 / 4 ≤ maximum) (presses : List Bool) {current : ℚ}
    (between : 1 / 4 ≤ current ∧ current ≤ maximum) :
    ∃ scale, presses.foldlM (fun current increase =>
      adjustedSpeedScale current increase maximum) current = some scale ∧
        1 / 4 ≤ scale ∧ scale ≤ maximum := by
  -- The induction is on the presses, from any scale between the two.
  induction presses generalizing current with
  | nil => exact ⟨current, rfl, between⟩
  | cons increase later ih =>
    obtain ⟨next, adjusted, bounds⟩ := @adjustedSpeedScale_between current _ increase ordered
    rw [List.foldlM_cons, adjusted]
    exact ih bounds

/-- The command that moves the robot as the held keys say, with nothing clipped. -/
def unclipped (args : SpeedArgs ℚ) (keys : HeldKeys) (speedScale : ℚ) : ScoutTwist ℚ :=
  { ScoutTwist.zero with
    linearX := -(args.velocity keys speedScale).lateralMps
    linearY := (args.velocity keys speedScale).forwardMps
    angularZ := (args.velocity keys speedScale).yawRps }

/-- What is safe about a speed scale. -/
structure SafeScale (args : SpeedArgs ℚ) (scale : ℚ) : Prop where
  between : 1 / 4 ≤ scale ∧ scale ≤ args.maximumSpeedScale .default
  speed : args.speed * scale ≤ 47 / 100
  strafeSpeed : args.strafeSpeed * scale ≤ 1 / 5
  turnSpeed : args.turnSpeed * scale ≤ 29 / 10
  rateHz : 1 / 4 ≤ args.rateHz * scale ∧ args.rateHz * scale ≤ 100
  clipsNothing : ∀ keys,
    (args.velocity keys scale).toScoutTwist .default = .ok (args.unclipped keys scale)
  period : ∃ duration, Duration.fromExactSecs (args.periodSecs scale) = some duration ∧
    0 < duration ∧ duration ≤ Duration.fromSecs 4

/-- Over exact numbers every velocity is mapped, since there is no infinity. -/
theorem toScoutTwist_of_exact (velocity : Velocity ℚ) :
    velocity.toScoutTwist .default = .ok { ScoutTwist.zero with
      linearX := -Scalar.clamp velocity.lateralMps (-(1 / 5)) (1 / 5)
      linearY := Scalar.clamp velocity.forwardMps (-(47 / 100)) (47 / 100)
      angularZ := Scalar.clamp velocity.yawRps (-(29 / 10)) (29 / 10) } := by
  have finite (field : String) (value : ℚ) : validateFinite field value = .ok () := rfl
  -- The default limits pass their own checks.
  have forward : validateLimit "forward limit" (MotionLimits.default : MotionLimits ℚ).maxForwardMps =
      .ok () := by decide +kernel
  have lateral : validateLimit "lateral limit" (MotionLimits.default : MotionLimits ℚ).maxLateralMps =
      .ok () := by decide +kernel
  have yaw : validateLimit "yaw limit" (MotionLimits.default : MotionLimits ℚ).maxYawRps =
      .ok () := by decide +kernel
  unfold Velocity.toScoutTwist
  rw [finite, finite, finite, forward, lateral, yaw]
  rfl

/-- A key against its opposite never asks for more than the speed itself. -/
theorem abs_component_le {positive negative : Bool} {speed scale limit : ℚ} (above : 0 < speed)
    (scaled : 0 < scale) (within : speed * scale ≤ limit) :
    |(Scalar.ofRat (((positive.toNat : Int) - negative.toNat : Int) : ℚ) : ℚ) * speed * scale| ≤
      limit := by
  -- The balance of two keys is one of minus one, zero, and one.
  have balance : |(Scalar.ofRat (((positive.toNat : Int) - negative.toNat : Int) : ℚ) : ℚ)| ≤ 1 := by
    cases positive <;> cases negative <;> decide +kernel
  have size : |speed * scale| = speed * scale := abs_of_pos (mul_pos above scaled)
  rw [mul_assoc, abs_mul, size]
  calc _ ≤ 1 * (speed * scale) := mul_le_mul_of_nonneg_right balance (mul_pos above scaled).le
    _ = speed * scale := one_mul _
    _ ≤ limit := within

/-- A scale between the smallest and the largest is safe. -/
theorem safeScale_of_between (accepted : args.Accepted .default) {scale : ℚ}
    (between : 1 / 4 ≤ scale ∧ scale ≤ args.maximumSpeedScale .default) : args.SafeScale scale := by
  obtain ⟨speed, strafeSpeed, turnSpeed, rateHz⟩ := accepted_bounds accepted
  obtain ⟨_, mostSpeed, mostStrafe, mostTurn, mostRate⟩ := maximumSpeedScale_bounds accepted
  have scaled : 0 < scale := by linarith
  -- A smaller scale makes each positive number smaller.
  have smaller {value limit : ℚ} (above : 0 < value)
      (most : value * args.maximumSpeedScale .default ≤ limit) : value * scale ≤ limit :=
    (mul_le_mul_of_nonneg_left between.2 above.le).trans most
  have positive : 0 < args.rateHz := by linarith
  have rateAbove : 1 / 4 ≤ args.rateHz * scale :=
    between.1.trans (le_mul_of_one_le_left scaled.le rateHz.1)
  have rateBelow := smaller positive mostRate
  exact {
    between := between
    speed := smaller speed.1 mostSpeed
    strafeSpeed := smaller strafeSpeed.1 mostStrafe
    turnSpeed := smaller turnSpeed.1 mostTurn
    rateHz := ⟨rateAbove, rateBelow⟩
    clipsNothing := by
      intro keys
      -- Every validation passes over exact numbers, and every clamp keeps its component.
      have forward := clamp_within (@abs_component_le keys.forward keys.reverse _ _ _ speed.1
        scaled (smaller speed.1 mostSpeed))
      have lateral := clamp_within (@abs_component_le keys.strafeLeft keys.strafeRight _ _ _
        strafeSpeed.1 scaled (smaller strafeSpeed.1 mostStrafe))
      have yaw := clamp_within (@abs_component_le keys.turnLeft keys.turnRight _ _ _
        turnSpeed.1 scaled (smaller turnSpeed.1 mostTurn))
      rw [toScoutTwist_of_exact]
      unfold unclipped velocity
      dsimp only
      rw [forward, lateral, yaw]
    period := by
      -- A rate between a quarter and a hundred leaves between a hundredth and four seconds.
      have rate : 0 < args.rateHz * scale := by linarith
      have secs : args.periodSecs scale * 1000000000 = 1000000000 / (args.rateHz * scale) := by
        exact one_div_mul_eq_div _ _
      obtain ⟨duration, found, low, high⟩ := @Duration.fromExactSecs_between
        (args.periodSecs scale) 10000000 4000000000
        (by rw [secs, le_div_iff₀ rate]; push_cast; linarith)
        (by rw [secs, div_le_iff₀ rate]; push_cast; linarith) (by decide)
      exact ⟨duration, found, lt_of_lt_of_le (by decide) low, high⟩ }

/-- Whatever presses change the speed, the scale is safe, and no assertion fails on the way. -/
theorem speedScaleAfter_safe (accepted : args.Accepted .default) (presses : List Bool) :
    ∃ scale, args.speedScaleAfter .default presses = some scale ∧ args.SafeScale scale := by
  -- The initial scale is one, which lies between the smallest and the largest.
  have most := (maximumSpeedScale_bounds accepted).1
  have initial : args.initialSpeedScale .default = 1 := min_eq_left most
  have ordered : 1 / 4 ≤ args.maximumSpeedScale .default := by linarith
  obtain ⟨scale, found, between⟩ := presses_between ordered presses
    (show 1 / 4 ≤ args.initialSpeedScale .default ∧ _ by rw [initial]; exact ⟨by norm_num, most⟩)
  exact ⟨scale, found, safeScale_of_between accepted between⟩

/-- The default arguments after two presses up and one down. -/
theorem speedScaleAfter_safe_default :
    ∃ scale, (⟨1 / 10, 1 / 10, 2, 40⟩ : SpeedArgs ℚ).speedScaleAfter .default [true, true, false] =
      some scale ∧ (⟨1 / 10, 1 / 10, 2, 40⟩ : SpeedArgs ℚ).SafeScale scale := by
  -- The arguments pass the four checks.
  have accepted : (⟨1 / 10, 1 / 10, 2, 40⟩ : SpeedArgs ℚ).Accepted .default := {
    speed := ⟨rfl, by decide +kernel, by decide +kernel⟩
    strafeSpeed := ⟨rfl, by decide +kernel, by decide +kernel⟩
    turnSpeed := ⟨rfl, by decide +kernel, by decide +kernel⟩
    rateHz := ⟨rfl, by decide +kernel, by decide +kernel⟩ }
  exact speedScaleAfter_safe accepted [true, true, false]

end SpeedArgs
end Exact
end Scout
