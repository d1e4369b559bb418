import Scout.Bridge.Steps
import Scout.Machine.Run
import Scout.Motion.Loop

/-! The loop that hands the bridge's command to the motor controller. -/

namespace Scout

/-- The rate of the loop and the longest command lifetime. -/
structure BridgeArgs where
  rateHz : F64
  maxCommandTimeoutMs : Nat

/-- Check the arguments of the bridge. -/
def BridgeArgs.validate (args : BridgeArgs) : Outcome :=
  if !args.rateHz.isFinite ∨ ¬ (Scalar.one ≤ args.rateHz ∧ args.rateHz ≤ Scalar.ofRat 100) then
    .error "--rate-hz must be finite and between 1 and 100"
  else if ¬ (100 ≤ args.maxCommandTimeoutMs ∧ args.maxCommandTimeoutMs ≤ 2000) then
    .error "--max-command-timeout-ms must be between 100 and 2000"
  else .ok ()

/-- What the control connections of a bridge with these arguments share. -/
def BridgeArgs.config (args : BridgeArgs) (parse : Bytes → Except String ControlRequest) :
    ControlConfig where
  parse := parse
  maximumTimeout := Duration.fromMillis args.maxCommandTimeoutMs

/-- Where the loop stands between two of its effects. -/
inductive PublishPhase where
  | checking
  /-- The robot, the interrupt handler and the motor controller are set up. -/
  | preparing
  | launching
  /-- The camera topic is subscribed to. -/
  | subscribing
  | greeting
  | testing
  | reading
  | sending (command : ScoutTwist F64)
  | parked
  | halting (sendError : Option String)
  | stopping (sendError : Option String)
  /-- The bridge is being shut down. -/
  | closing (result : Outcome)
  | returned (result : Outcome)

/-- An early interrupt, the bridge once it runs, and the commands handed over, latest first. -/
structure PublishLoop where
  interrupted : Bool
  bridge : Option Bridge
  phase : PublishPhase
  sent : List (ScoutTwist F64)

/-- One step of the loop, of the bridge's other threads, or an interrupt. -/
inductive PublishEvent where
  | interrupt
  | threads (event : BridgeEvent)
  | main (input : LoopInput)

namespace PublishLoop

/-- Nothing has been done. -/
def start : PublishLoop where
  interrupted := false
  bridge := none
  phase := .checking
  sent := []

/-- Move to another phase. -/
def goto (loop : PublishLoop) (phase : PublishPhase) : PublishLoop :=
  { loop with phase }

/-- Note a command that has been handed over. -/
def send (loop : PublishLoop) (twist : ScoutTwist F64) : PublishLoop :=
  { loop with sent := twist :: loop.sent }

/-- Clear the running flag. -/
def stopRunning (loop : PublishLoop) : PublishLoop :=
  { loop with
    interrupted := true
    bridge := loop.bridge.map fun bridge => { bridge with running := false } }

/-- Go on if an effect has succeeded, and else return its error. -/
def tryOutcome (loop : PublishLoop) (result : Outcome) (next : PublishPhase) : PublishLoop :=
  match result with
  | .ok () => loop.goto next
  | .error error => loop.goto (.returned (.error error))

/-- One effect of the loop while the bridge runs. -/
def runBridge (loop : PublishLoop) (bridge : Bridge) (input : LoopInput) : Option PublishLoop :=
  match loop.phase, input with
  | .greeting, .outcome result => some ((loop.send ScoutTwist.zero).tryOutcome result .testing)
  | .testing, .alive isOk =>
    some (loop.goto (if bridge.running && isOk then .reading else .halting none))
  -- The register is read under its lock, and cleared if its command has lapsed.
  | .reading, .clock now =>
    let (command, motion) := currentCommand bridge.motion now
    some ({ loop with bridge := some { bridge with motion } }.goto (.sending command))
  | .sending command, .outcome result =>
    match result with
    | .ok () => some ((loop.send command).goto .parked)
    -- A command that fails to be sent ends the loop.
    | .error error => some ((loop.send command).goto (.halting (some error)))
  | .parked, .proceed => some (loop.goto .testing)
  -- The other threads are told to end before the robot is stopped.
  | .halting sendError, .proceed => some (loop.stopRunning.goto (.stopping sendError))
  | .stopping sendError, .outcome result =>
    some ((loop.send ScoutTwist.zero).goto (.closing (loopResult sendError result)))
  | .closing result, .proceed =>
    -- The bridge is shut down step by step, which waits for its threads.
    if bridge.main = .returned then some (loop.goto (.returned result))
    else bridge.shutdown.map fun bridge => { loop with bridge := some bridge }
  | _, _ => none

/-- One effect of the function around the loop. -/
def integrationBridge (args : BridgeArgs) (loop : PublishLoop) (input : LoopInput) :
    Option PublishLoop :=
  match loop.phase, input with
  | .checking, .proceed => some (loop.tryOutcome args.validate .preparing)
  | .preparing, .outcome result => some (loop.tryOutcome result .launching)
  | .launching, .clock now =>
    -- An interrupt before the bridge runs is not forgotten.
    let bridge := { Bridge.start now with running := !loop.interrupted }
    some ({ loop with bridge := some bridge }.goto .subscribing)
  | .launching, .outcome (.error error) => some (loop.goto (.returned (.error error)))
  | .subscribing, .outcome result =>
    (Duration.fromSecsF64 (Scalar.one / args.rateHz)).map fun _ =>
      loop.tryOutcome result .greeting
  | _, _ => loop.bridge.bind fun bridge => loop.runBridge bridge input

/-- One step of another thread of the bridge; reading commands and shutting down are the loop's. -/
def runThreads (config : ControlConfig) (loop : PublishLoop) (event : BridgeEvent) :
    Option PublishLoop :=
  match event with
  | .currentCommand => none
  | .shutdown => none
  | _ =>
    loop.bridge.bind fun bridge =>
      (bridge.step config event).map fun bridge => { loop with bridge := some bridge }

/-- One step of everything. -/
def step (args : BridgeArgs) (parse : Bytes → Except String ControlRequest) (loop : PublishLoop) :
    PublishEvent → Option PublishLoop
  | .interrupt => some loop.stopRunning
  | .threads event => loop.runThreads (args.config parse) event
  | .main input => loop.integrationBridge args input

end PublishLoop

/-- The command register is not poisoned and holds a safe command. -/
structure Bridge.Guarded (bridge : Bridge) : Prop where
  unpoisoned : bridge.motion.poisoned = false
  safe : bridge.motion.value.command.Safe

/-- A request leaves a safe command in the register. -/
theorem RegisterWrite.safe {maximumTimeout : Duration} {now : Instant}
    {before after : Mutex MotionState} {handled : Option Handled}
    (written : RegisterWrite maximumTimeout now before handled after)
    (safe : before.value.command.Safe) : after.value.command.Safe := by
  -- Only a clamped command and the stop are ever written.
  cases written with
  | velocity accepted => exact toScoutTwist_safe accepted.mapped
  | stop => exact zero_safe
  | ping => exact safe
  | refused request => exact safe
  | none => exact safe

/-- Stopping leaves a safe command. -/
theorem stopMotion_safe {motion : Mutex MotionState} (safe : motion.value.command.Safe) :
    (stopMotion motion).value.command.Safe := by
  -- A poisoned lock keeps the command it has.
  unfold stopMotion
  split
  · exact zero_safe
  · exact safe

/-- Reading the command gives a safe one and leaves a safe one. -/
theorem currentCommand_safe {motion : Mutex MotionState} (now : Instant)
    (safe : motion.value.command.Safe) :
    (currentCommand motion now).1.Safe ∧ (currentCommand motion now).2.value.command.Safe := by
  -- The command is the one in the register or the stop.
  unfold currentCommand Mutex.lock
  by_cases poisoned : motion.poisoned = true
  · rw [if_pos poisoned]
    exact ⟨zero_safe, safe⟩
  · rw [if_neg poisoned]
    show (motion.value.current now).1.Safe ∧ (motion.value.current now).2.command.Safe
    unfold MotionState.current
    split
    · exact ⟨safe, safe⟩
    · exact ⟨zero_safe, zero_safe⟩

namespace Bridge

/-- The register is clear when the bridge starts. -/
theorem guarded_start (clock : Instant) (running : Bool) :
    ({ Bridge.start clock with running := running }).Guarded where
  unpoisoned := rfl
  safe := zero_safe

/-- Recording a handled request leaves the register alone. -/
theorem guarded_recordHandled {bridge : Bridge} (guarded : bridge.Guarded)
    (connection : Connection) (handled : Option Handled) :
    (bridge.recordHandled connection handled).Guarded := by
  -- Only the history grows.
  cases handled with
  | none => exact guarded
  | some what => exact ⟨guarded.unpoisoned, guarded.safe⟩

/-- Every step of the bridge keeps the register guarded. -/
theorem Guarded.step {config : ControlConfig} {before after : Bridge} {event : BridgeEvent}
    (guarded : before.Guarded) (taken : Steps config before event after) : after.Guarded := by
  -- The register changes by requests, by stops and by reading the command.
  have stopped : ({ before with motion := stopMotion before.motion }).Guarded :=
    ⟨(stopMotion_poisoned _).trans guarded.unpoisoned, stopMotion_safe guarded.safe⟩
  cases taken with
  | @serve connection input serve effect works served =>
    have written := serveControlClient_write guarded.unpoisoned served
    exact guarded_recordHandled ⟨written.poisoned.trans guarded.unpoisoned,
      written.safe guarded.safe⟩ _ _
  | currentCommand was =>
    exact ⟨(currentCommand_poisoned _ _).trans guarded.unpoisoned,
      (currentCommand_safe _ guarded.safe).2⟩
  | clear was => exact ⟨stopped.unpoisoned, stopped.safe⟩
  | finalStop works => exact ⟨stopped.unpoisoned, stopped.safe⟩
  | clearMotion was => exact ⟨stopped.unpoisoned, stopped.safe⟩
  | _ => exact ⟨guarded.unpoisoned, guarded.safe⟩

/-- Shutting the bridge down keeps the register guarded. -/
theorem Guarded.shutdown {before after : Bridge} (guarded : before.Guarded)
    (taken : before.shutdown = some after) : after.Guarded := by
  -- It is a step of the bridge, whatever its connections share.
  have stepped : before.step { parse := fun _ => .error "", maximumTimeout := 0 } .shutdown =
      some after := taken
  exact guarded.step (step_steps stepped)

end Bridge

namespace PublishPhase

/-- Nothing has been handed over in this phase. -/
def Early : PublishPhase → Prop
  | .checking => True
  | .preparing => True
  | .launching => True
  | .subscribing => True
  | _ => False

/-- The robot has been stopped for good, or the function has returned. -/
def Final : PublishPhase → Prop
  | .closing _ => True
  | .returned _ => True
  | _ => False

/-- A command about to be handed over is safe. -/
def Sound : PublishPhase → Prop
  | .sending command => command.Safe
  | _ => True

end PublishPhase

namespace PublishLoop

/-- The bridge is guarded, the commands are governed, and the next one is safe. -/
structure Orderly (loop : PublishLoop) : Prop where
  guarded : ∀ bridge, loop.bridge = some bridge → bridge.Guarded
  sound : loop.phase.Sound
  governed : Governed loop.sent loop.phase.Early loop.phase.Final

/-- Nothing has been handed over at the beginning. -/
theorem orderly_start : Orderly start where
  -- No bridge is running.
  guarded bridge running := by cases running
  sound := trivial
  governed := governed_nil

variable {args : BridgeArgs} {parse : Bytes → Except String ControlRequest}
  {before after : PublishLoop}

/-- Clearing the running flag keeps the loop orderly. -/
theorem Orderly.stopRunning (orderly : Orderly before) : Orderly before.stopRunning where
  -- Stopping the bridge changes nothing that is sent.
  guarded bridge running := by
    obtain ⟨earlier, was, rfl⟩ := Option.map_eq_some_iff.mp running
    exact ⟨(orderly.guarded earlier was).unpoisoned, (orderly.guarded earlier was).safe⟩
  sound := orderly.sound
  governed := orderly.governed

/-- An early effect goes on or returns its error. -/
theorem Orderly.tryEarly (orderly : Orderly before) (early : before.phase.Early)
    (result : Outcome) {next : PublishPhase} (sound : next.Sound) (going : ¬ next.Final) :
    Orderly (before.tryOutcome result next) := by
  -- Nothing has been handed over yet.
  cases result with
  | ok _ =>
    exact ⟨orderly.guarded, sound,
      orderly.governed.goto (fun _ => early) fun now => absurd now going⟩
  | error error =>
    exact ⟨orderly.guarded, trivial, orderly.governed.quit early id⟩

/-- Every effect while the bridge runs keeps the loop orderly. -/
theorem Orderly.runBridge (orderly : Orderly before) {bridge : Bridge} {input : LoopInput}
    (running : before.bridge = some bridge) (taken : before.runBridge bridge input = some after) :
    Orderly after := by
  -- The cases follow the branches, each named by its phase.
  have guarded := orderly.guarded bridge running
  unfold PublishLoop.runBridge at taken
  split at taken <;> rename_i was
  · cases taken
    -- The greeting is a stop, whether it is sent or not.
    rename_i result
    cases result with
    | ok _ => exact ⟨orderly.guarded, trivial, orderly.governed.halt fun now => now.elim⟩
    | error error => exact ⟨orderly.guarded, trivial, orderly.governed.halt fun now => now.elim⟩
  · cases taken
    rename_i isOk
    cases bridge.running && isOk
    · exact ⟨orderly.guarded, trivial, orderly.governed.onward id id⟩
    · exact ⟨orderly.guarded, trivial, orderly.governed.onward id id⟩
  · cases taken
    rename_i now
    have read := currentCommand_safe now guarded.safe
    refine ⟨fun later same => ?_, read.1, orderly.governed.onward id id⟩
    cases same
    exact ⟨(currentCommand_poisoned _ _).trans guarded.unpoisoned, read.2⟩
  · -- The command was safe when it was read.
    have safe := orderly.sound
    rw [was] at safe
    split at taken
    · cases taken
      exact ⟨orderly.guarded, trivial, orderly.governed.send safe id id⟩
    · cases taken
      exact ⟨orderly.guarded, trivial, orderly.governed.send safe id id⟩
  · cases taken
    exact ⟨orderly.guarded, trivial, orderly.governed.onward id id⟩
  · cases taken
    exact ⟨orderly.stopRunning.guarded, trivial, orderly.governed.onward id id⟩
  · cases taken
    exact ⟨orderly.guarded, trivial, orderly.governed.halt fun now => now.elim⟩
  · -- The bridge is shut down after the final stop.
    split at taken
    · cases taken
      exact ⟨orderly.guarded, trivial, orderly.governed.goto (fun now => now.elim)
        fun _ => .inl (by rw [was]; trivial)⟩
    · obtain ⟨later, stepped, rfl⟩ := Option.map_eq_some_iff.mp taken
      refine ⟨fun other same => ?_, orderly.sound, orderly.governed⟩
      cases same
      exact guarded.shutdown stepped
  · cases taken

/-- Every effect of the function around the loop keeps it orderly. -/
theorem Orderly.effect (orderly : Orderly before) {input : LoopInput}
    (taken : before.integrationBridge args input = some after) : Orderly after := by
  -- The early phases hand over nothing, and the others need the bridge.
  unfold integrationBridge at taken
  split at taken <;> rename_i was
  · cases taken
    exact orderly.tryEarly (by rw [was]; trivial) _ trivial id
  · cases taken
    exact orderly.tryEarly (by rw [was]; trivial) _ trivial id
  · cases taken
    refine ⟨fun bridge same => ?_, trivial,
      orderly.governed.goto (fun _ => by rw [was]; trivial) fun now => now.elim⟩
    cases same
    exact Bridge.guarded_start _ _
  · cases taken
    exact ⟨orderly.guarded, trivial, orderly.governed.quit (by rw [was]; trivial) id⟩
  · obtain ⟨period, _, rfl⟩ := Option.map_eq_some_iff.mp taken
    exact orderly.tryEarly (by rw [was]; trivial) _ trivial id
  · obtain ⟨bridge, running, taken⟩ := Option.bind_eq_some_iff.mp taken
    exact orderly.runBridge running taken

/-- Every step of another thread keeps the loop orderly. -/
theorem Orderly.threads (orderly : Orderly before) {config : ControlConfig} {event : BridgeEvent}
    (taken : before.runThreads config event = some after) : Orderly after := by
  -- Other threads change the bridge only.
  unfold runThreads at taken
  split at taken
  · cases taken
  · cases taken
  · obtain ⟨bridge, running, taken⟩ := Option.bind_eq_some_iff.mp taken
    obtain ⟨later, stepped, rfl⟩ := Option.map_eq_some_iff.mp taken
    refine ⟨fun other same => ?_, orderly.sound, orderly.governed⟩
    cases same
    exact (orderly.guarded bridge running).step (Bridge.step_steps stepped)

/-- Whatever happens, the publish loop stays orderly. -/
theorem orderly_run {events : List PublishEvent} {loop : PublishLoop}
    (ran : Machine.run (step args parse) start events = some loop) : Orderly loop := by
  -- The loop is orderly at the start, and every step keeps it so.
  refine Machine.run_invariant (fun _ => True) Orderly ?_ (fun _ _ => trivial) orderly_start ran
  intro before event after _ orderly taken
  cases event with
  | interrupt =>
    cases taken
    exact orderly.stopRunning
  | threads event => exact orderly.threads taken
  | main input => exact orderly.effect taken

end PublishLoop
end Scout
