import Scout.Machine.Run
import Scout.Motion.Loop
import Scout.Teleop.Control

/-! The loop that drives from the keyboard, and the function around it. -/

namespace Scout

/-- How much one key press changes the speed. -/
def speedScaleStep : F64 := Scalar.ofRat (1 / 4)

/-- The smallest speed scale. -/
def minSpeedScale : F64 := Scalar.ofRat (1 / 4)

/-- The speeds and the rate that teleoperation is started with. -/
structure TeleopArgs where
  speed : F64
  strafeSpeed : F64
  turnSpeed : F64
  rateHz : F64

namespace TeleopArgs

/-- Refuse a speed that is not positive or beyond its limit. -/
def validateTeleopSpeed (name : String) (value maximum : F64) (text : String) : Outcome :=
  if !value.isFinite ∨ value ≤ Scalar.zero ∨ maximum < value then
    .error (s!"{name} must be finite, greater than zero, and no more than {text}")
  else .ok ()

/-- Check the arguments in the order the source checks them. -/
def validate (args : TeleopArgs) : Outcome := do
  let limits : MotionLimits F64 := MotionLimits.default
  validateTeleopSpeed "--speed" args.speed limits.maxForwardMps "0.47"
  validateTeleopSpeed "--strafe-speed" args.strafeSpeed limits.maxLateralMps "0.2"
  validateTeleopSpeed "--turn-speed" args.turnSpeed limits.maxYawRps "2.9"
  -- The rate is checked after the speeds.
  if !args.rateHz.isFinite ∨ ¬ (Scalar.one ≤ args.rateHz ∧ args.rateHz ≤ Scalar.ofRat 100) then
    .error "--rate-hz must be finite and between 1 and 100"
  else .ok ()

/-- The largest speed scale that keeps all speeds and the rate within their limits. -/
def maximumSpeedScale (args : TeleopArgs) (limits : MotionLimits F64) : F64 :=
  ([limits.maxForwardMps / args.speed, limits.maxLateralMps / args.strafeSpeed,
    limits.maxYawRps / args.turnSpeed, Scalar.ofRat 100 / args.rateHz].foldl F64.min
      -- A maximum below the smallest scale would leave the clamp without an interval.
      (F64.infinity false)).max minSpeedScale

/-- The time between two commands at a speed scale, where none stands for a panic. -/
def period (args : TeleopArgs) (speedScale : F64) : Option Duration :=
  Duration.fromSecsF64 (Scalar.one / (args.rateHz * speedScale))

end TeleopArgs

/-- The speed scale after one key press. -/
def adjustedSpeedScale (current : F64) (increase : Bool) (maximum : F64) : F64 :=
  let change := if increase then speedScaleStep else -speedScaleStep
  Scalar.clamp (current + change) minSpeedScale maximum

/-- Where teleoperation stands between two of its effects. -/
inductive TeleopPhase where
  | checking
  /-- The pictures' directory, the robot, the camera and the motor controller are set up. -/
  | preparing
  | entering
  | starting
  | greeting
  | testing
  | polling
  /-- The terminal is asked for an event, for this long at most. -/
  | polled (period wait : Duration)
  | reading (period : Duration)
  | handling (period : Duration) (key : KeyEvent)
  | capturing (period : Duration)
  | saving (period : Duration)
  | saved (period : Duration)
  | flushing
  | flushed
  | publishing
  /-- A command is handed over, made at this reading of the clock. -/
  | sending (command : ScoutTwist F64) (now : Instant)
  | stopping (sessionError : Option String)
  | returned (result : Outcome)

/-- What the environment answers to teleoperation's next effect. -/
inductive TeleopAnswer where
  | loop (input : LoopInput)
  /-- Raw mode is entered, and whether key-up events can be relied on. -/
  | terminal (result : Except String Bool)
  /-- Whether the terminal has an event. -/
  | polled (result : Except String Bool)
  /-- The terminal's event, if it is about a key. -/
  | read (result : Except String (Option KeyEvent))

/-- The running flag, the loop's variables, and the commands handed over, the latest first. -/
structure Teleop where
  running : Bool
  control : TeleopControl
  nextPublish : Instant
  speedScale : F64
  phase : TeleopPhase
  sent : List (ScoutTwist F64)

/-- One step of the loop, or an interrupt. -/
inductive TeleopEvent where
  | interrupt
  | main (input : TeleopAnswer)

namespace Teleop

/-- Nothing has been done. -/
def start : Teleop where
  running := true
  control := TeleopControl.new false
  nextPublish := 0
  speedScale := Scalar.one
  phase := .checking
  sent := []

/-- Move to another phase. -/
def goto (loop : Teleop) (phase : TeleopPhase) : Teleop :=
  { loop with phase }

/-- Note a command that has been handed over. -/
def send (loop : Teleop) (twist : ScoutTwist F64) : Teleop :=
  { loop with sent := twist :: loop.sent }

/-- Go on if an effect has succeeded, and else leave the loop with its error. -/
def continue_ {α : Type} (loop : Teleop) (result : Except String α) (next : α → TeleopPhase) :
    Teleop :=
  match result with
  | .ok value => loop.goto (next value)
  | .error error => loop.goto (.stopping (some error))

/-- Act on a key event. -/
def handle (args : TeleopArgs) (loop : Teleop) (period : Duration) (key : KeyEvent)
    (now : Instant) : Teleop :=
  let (action, control) := loop.control.handleKey key now
  let held := { loop with control }
  let maximum := args.maximumSpeedScale MotionLimits.default
  match action with
  -- The keys themselves are noted by the control.
  | .none => held.goto .publishing
  | .exit => held.goto (.stopping none)
  -- The keys are released and a stop is sent before the disk is touched.
  | .capture => { held with control := control.clear }.goto (.capturing period)
  | .faster =>
    -- The new speed is shown before the loop goes on.
    { held with speedScale := adjustedSpeedScale loop.speedScale true maximum }.goto .flushing
  | .slower =>
    { held with speedScale := adjustedSpeedScale loop.speedScale false maximum }.goto .flushing

/-- Make the next command if it is due. -/
def publish (args : TeleopArgs) (loop : Teleop) (now : Instant) : Teleop :=
  if loop.nextPublish ≤ now then
    let (velocity, control) :=
      loop.control.velocity now args.speed args.strafeSpeed args.turnSpeed loop.speedScale
    let held := { loop with control }
    match velocity.toScoutTwist MotionLimits.default with
    | .ok command => held.goto (.sending command now)
    | .error problem => held.goto (.stopping (some problem.display))
  -- Nothing is due yet, and the loop begins anew.
  else loop.goto .testing

/-- One effect of teleoperation. -/
def teleop (args : TeleopArgs) (loop : Teleop) (input : TeleopAnswer) : Option Teleop :=
  match loop.phase, input with
  | .checking, .loop .proceed =>
    match args.validate with
    | .ok () => some (loop.goto .preparing)
    | .error error => some (loop.goto (.returned (.error error)))
  | .preparing, .loop (.outcome result) =>
    match result with
    | .ok () => some (loop.goto .entering)
    | .error error => some (loop.goto (.returned (.error error)))
  -- From here on every error leads to the final stop.
  | .entering, .terminal result =>
    match result with
    | .ok reliableKeyRelease =>
      some ({ loop with control := TeleopControl.new reliableKeyRelease }.goto .starting)
    | .error error => some (loop.goto (.stopping (some error)))
  | .starting, .loop (.clock now) =>
    let maximum := args.maximumSpeedScale MotionLimits.default
    some ({ loop with
      nextPublish := now
      speedScale := F64.min Scalar.one maximum }.goto .greeting)
  -- The session begins with a stop.
  | .greeting, .loop (.outcome result) =>
    some ((loop.send ScoutTwist.zero).continue_ result fun _ => .testing)
  | .testing, .loop (.alive isOk) =>
    some (loop.goto (if loop.running && isOk then .polling else .stopping none))
  | .polling, .loop (.clock now) =>
    (args.period loop.speedScale).map fun period =>
      let ahead := (Duration.since loop.nextPublish now).getD 0
      loop.goto (.polled period (min ahead period))
  -- Without an event in time the loop goes on to the next command.
  | .polled period _, .polled result =>
    some (loop.continue_ result fun waits => if waits then .reading period else .publishing)
  | .reading period, .read result =>
    some (loop.continue_ result fun
      | some key => .handling period key
      | none => .publishing)
  | .handling period key, .loop (.clock now) => some (loop.handle args period key now)
  | .capturing period, .loop (.outcome result) =>
    some ((loop.send ScoutTwist.zero).continue_ result fun _ => .saving period)
  | .saving period, .loop (.outcome result) =>
    some (loop.continue_ result fun _ => .saved period)
  -- The next command is due a period after the picture has been saved.
  | .saved period, .loop (.clock now) =>
    some ({ loop with nextPublish := now + period }.goto .publishing)
  | .flushing, .loop (.outcome result) => some (loop.continue_ result fun _ => .flushed)
  | .flushed, .loop (.clock now) => some ({ loop with nextPublish := now }.goto .publishing)
  | .publishing, .loop (.clock now) => some (loop.publish args now)
  -- The period is measured from the reading of the clock the command was made at.
  | .sending command now, .loop (.outcome result) =>
    match result with
    | .ok () =>
      (args.period loop.speedScale).map fun period =>
        { loop.send command with nextPublish := now + period }.goto .testing
    | .error error => some ((loop.send command).goto (.stopping (some error)))
  | .stopping sessionError, .loop (.outcome result) =>
    some ((loop.send ScoutTwist.zero).goto (.returned (loopResult sessionError result)))
  | _, _ => none

/-- One step of the loop, or the interrupt handler clearing the running flag. -/
def step (args : TeleopArgs) (loop : Teleop) : TeleopEvent → Option Teleop
  | .interrupt => some { loop with running := false }
  | .main input => loop.teleop args input

end Teleop

namespace TeleopPhase

/-- Teleoperation has not got as far as the final stop. -/
def Early : TeleopPhase → Prop
  | .checking => True
  | .preparing => True
  | _ => False

/-- Teleoperation has returned. -/
def Returned : TeleopPhase → Prop
  | .returned _ => True
  | _ => False

/-- A command about to be handed over is safe. -/
def Sound : TeleopPhase → Prop
  | .sending command _ => command.Safe
  | _ => True

/-- A phase between the two ends, with a safe command if it has one. -/
structure Within (phase : TeleopPhase) : Prop where
  late : ¬ phase.Early
  going : ¬ phase.Returned
  sound : phase.Sound

end TeleopPhase

namespace Teleop

/-- The commands are governed, and the one about to be handed over is safe. -/
structure Orderly (loop : Teleop) : Prop where
  sound : loop.phase.Sound
  governed : Governed loop.sent loop.phase.Early loop.phase.Returned

/-- Nothing has been handed over at the beginning. -/
theorem orderly_start : Orderly start where
  sound := trivial
  governed := governed_nil

variable {args : TeleopArgs} {before after : Teleop}

/-- Whatever the loop's variables become, a step that sends nothing may go on. -/
theorem Orderly.moved (orderly : Orderly before) (same : after.sent = before.sent)
    (within : after.phase.Within) : Orderly after where
  -- Nothing more is sent.
  sound := within.sound
  governed := same ▸ orderly.governed.goto (fun now => absurd now within.late)
    fun now => absurd now within.going

/-- A step that hands over a stop may go on. -/
theorem Orderly.halted (orderly : Orderly before)
    (same : after.sent = ScoutTwist.zero :: before.sent) (within : after.phase.Within) :
    Orderly after where
  sound := within.sound
  governed := same ▸ orderly.governed.halt fun now => absurd now within.late

/-- A step that hands over a safe command may go on. -/
theorem Orderly.sent (orderly : Orderly before) {twist : ScoutTwist F64} (safe : twist.Safe)
    (same : after.sent = twist :: before.sent) (within : after.phase.Within) : Orderly after where
  sound := within.sound
  governed := same ▸ orderly.governed.send safe within.late within.going

/-- Leaving the loop or going on are both within. -/
theorem within_continue {α : Type} (loop : Teleop) (result : Except String α)
    {next : α → TeleopPhase} (within : ∀ value, (next value).Within) :
    (loop.continue_ result next).phase.Within := by
  -- An error leads to the final stop.
  cases result with
  | ok value => exact within value
  | error error => exact ⟨id, id, trivial⟩

/-- Going on does not touch the commands handed over. -/
theorem sent_continue {α : Type} (loop : Teleop) (result : Except String α)
    (next : α → TeleopPhase) : (loop.continue_ result next).sent = loop.sent := by
  -- Only the phase changes.
  cases result with
  | ok value => rfl
  | error error => rfl

/-- Acting on a key event keeps the loop orderly. -/
theorem Orderly.handle (orderly : Orderly before) (period : Duration) (key : KeyEvent)
    (now : Instant) : Orderly (before.handle args period key now) := by
  -- No action of a key hands over a command by itself.
  unfold Teleop.handle
  rcases before.control.handleKey key now with ⟨action, control⟩
  cases action with
  | none => exact orderly.moved rfl ⟨id, id, trivial⟩
  | exit => exact orderly.moved rfl ⟨id, id, trivial⟩
  | capture => exact orderly.moved rfl ⟨id, id, trivial⟩
  | faster => exact orderly.moved rfl ⟨id, id, trivial⟩
  | slower => exact orderly.moved rfl ⟨id, id, trivial⟩

/-- Making a command keeps the loop orderly: the mapping clamps it. -/
theorem Orderly.publish (orderly : Orderly before) (now : Instant) :
    Orderly (before.publish args now) := by
  -- A command is made only if it is due and its mapping succeeds.
  unfold Teleop.publish
  by_cases due : before.nextPublish ≤ now
  · rw [if_pos due]
    -- The keys decide the velocity, and whether it can be mapped.
    rcases before.control.velocity now args.speed args.strafeSpeed args.turnSpeed
      before.speedScale with ⟨velocity, control⟩
    simp only
    cases mapped : velocity.toScoutTwist MotionLimits.default with
    | ok command => exact orderly.moved rfl ⟨id, id, toScoutTwist_safe mapped⟩
    | error problem => exact orderly.moved rfl ⟨id, id, trivial⟩
  · rw [if_neg due]
    exact orderly.moved rfl ⟨id, id, trivial⟩

/-- Every effect of teleoperation keeps it orderly. -/
theorem Orderly.effect (orderly : Orderly before) {input : TeleopAnswer}
    (taken : before.teleop args input = some after) : Orderly after := by
  -- The cases follow the branches of the function, each named by its phase.
  unfold teleop at taken
  split at taken <;> rename_i was
  · -- Nothing has been handed over while the arguments are checked.
    have early : before.phase.Early := by rw [was]; trivial
    split at taken
    · cases taken
      exact ⟨trivial, orderly.governed.goto (fun _ => early) fun now => now.elim⟩
    · cases taken
      exact ⟨trivial, orderly.governed.quit early id⟩
  · have early : before.phase.Early := by rw [was]; trivial
    split at taken
    · cases taken
      exact orderly.moved rfl ⟨id, id, trivial⟩
    · cases taken
      exact ⟨trivial, orderly.governed.quit early id⟩
  · split at taken
    · cases taken
      exact orderly.moved rfl ⟨id, id, trivial⟩
    · cases taken
      exact orderly.moved rfl ⟨id, id, trivial⟩
  · cases taken
    exact orderly.moved rfl ⟨id, id, trivial⟩
  · cases taken
    exact orderly.halted (sent_continue _ _ _)
      (within_continue _ _ fun _ => ⟨id, id, trivial⟩)
  · cases taken
    refine orderly.moved rfl ?_
    show (if _ then TeleopPhase.polling else .stopping none).Within
    split <;> exact ⟨id, id, trivial⟩
  · obtain ⟨period, _, rfl⟩ := Option.map_eq_some_iff.mp taken
    exact orderly.moved rfl ⟨id, id, trivial⟩
  · cases taken
    refine orderly.moved (sent_continue _ _ _) (within_continue _ _ fun waits => ?_)
    cases waits <;> exact ⟨id, id, trivial⟩
  · cases taken
    refine orderly.moved (sent_continue _ _ _) (within_continue _ _ fun key => ?_)
    cases key <;> exact ⟨id, id, trivial⟩
  · cases taken
    exact orderly.handle _ _ _
  · cases taken
    exact orderly.halted (sent_continue _ _ _)
      (within_continue _ _ fun _ => ⟨id, id, trivial⟩)
  · cases taken
    exact orderly.moved (sent_continue _ _ _) (within_continue _ _ fun _ => ⟨id, id, trivial⟩)
  · cases taken
    exact orderly.moved rfl ⟨id, id, trivial⟩
  · cases taken
    exact orderly.moved (sent_continue _ _ _) (within_continue _ _ fun _ => ⟨id, id, trivial⟩)
  · cases taken
    exact orderly.moved rfl ⟨id, id, trivial⟩
  · cases taken
    exact orderly.publish _
  · -- The command about to be handed over has been clamped.
    have safe := orderly.sound
    rw [was] at safe
    split at taken
    · obtain ⟨period, _, rfl⟩ := Option.map_eq_some_iff.mp taken
      exact orderly.sent safe rfl ⟨id, id, trivial⟩
    · cases taken
      exact orderly.sent safe rfl ⟨id, id, trivial⟩
  · cases taken
    exact ⟨trivial, orderly.governed.halt fun now => now.elim⟩
  · cases taken

/-- Whatever happens, teleoperation stays orderly. -/
theorem orderly_run {events : List TeleopEvent} {loop : Teleop}
    (ran : Machine.run (step args) start events = some loop) : Orderly loop := by
  -- The loop is orderly at the start, and every step keeps it so.
  refine Machine.run_invariant (fun _ => True) Orderly ?_ (fun _ _ => trivial) orderly_start ran
  intro before event after _ orderly taken
  cases event with
  | interrupt =>
    cases taken
    exact ⟨orderly.sound, orderly.governed⟩
  | main input => exact orderly.effect taken

end Teleop
end Scout
