import Scout.Bridge.Deadman

/-! Shutting down joins every thread that could move the robot. -/

namespace Scout.Bridge

/-- Shutting down has returned, and neither the listener nor a worker is left. -/
structure Quiescent (bridge : Bridge) : Prop where
  returned : bridge.main = .returned
  halted : bridge.listener = .finished
  idle : ∀ connection, ¬ bridge.Live connection

variable {config : ControlConfig} {before after : Bridge} {event : BridgeEvent}

/-- Once shutting down has returned, the ownership discipline leaves no thread. -/
theorem Owned.quiescent {bridge : Bridge} (owned : bridge.Owned)
    (returned : bridge.main = .returned) : bridge.Quiescent := by
  -- The listener has been joined, it ended without an owner, and only owners live.
  have halted := owned.joined (.inr returned)
  refine ⟨returned, halted, fun connection alive => ?_⟩
  have isOwner := owned.exclusive connection alive
  simp [owned.halted halted] at isOwner

/-- Nothing that can still happen then touches the register. -/
theorem Quiescent.step (quiescent : before.Quiescent)
    (taken : Steps config before event after) :
    after.Quiescent ∧ after.motion = before.motion := by
  -- Time, signals and arrivals remain, and every other step needs a thread that has ended.
  obtain ⟨returned, halted, idle⟩ := quiescent
  cases taken with
  | tick _ => exact ⟨⟨returned, halted, idle⟩, rfl⟩
  | signal => exact ⟨⟨returned, halted, idle⟩, rfl⟩
  | connect => exact ⟨⟨returned, halted, idle⟩, rfl⟩
  | listen _ was => simp [halted] at was
  | accept was _ => simp [halted] at was
  | reap was _ _ => simp [halted] at was
  | free was _ => simp [halted] at was
  | refuse was _ _ => simp [halted] at was
  | reject _ was => simp [halted] at was
  | clear was => simp [halted] at was
  | welcome was => simp [halted] at was
  | spawnFailed was => simp [halted] at was
  | joinOwner was _ _ => simp [halted] at was
  | joinNobody was _ => simp [halted] at was
  | serve works _ => exact absurd ⟨_, works, by simp⟩ (idle _)
  | finalStop works => exact absurd ⟨_, works, by simp⟩ (idle _)
  | finish works => exact absurd ⟨_, works, by simp⟩ (idle _)
  | panic works alive => exact absurd ⟨_, works, alive⟩ (idle _)
  | currentCommand was => simp [returned] at was
  | clearRunning was => simp [returned] at was
  | clearMotion was => simp [returned] at was
  | joinControl was _ => simp [returned] at was
  | joinCamera was => simp [returned] at was

/-- The register keeps its last value through everything that comes later. -/
theorem quiescent_run {events : List BridgeEvent} (quiescent : before.Quiescent)
    (ran : Machine.run (Bridge.step config) before events = some after) :
    after.motion = before.motion := by
  -- Quiescence carries the equality from step to step.
  exact Machine.run_relates (fun _ => True) Quiescent
    (fun first second => second.motion = first.motion)
    (fun _ => rfl) (fun _ _ _ here there => there.trans here)
    (fun _ _ _ _ holds taken => (holds.step (step_steps taken)).1)
    (fun _ _ _ _ holds taken => (holds.step (step_steps taken)).2)
    (fun _ _ => trivial) quiescent ran

/-- When shutting down returns, the register is clear, and it stays so whatever comes later. -/
theorem shutdown_final {clock : Instant} {events : List BridgeEvent} {bridge : Bridge}
    (orderly : ∀ event ∈ events, isPanic event = false)
    (ran : Machine.run (Bridge.step config) (Bridge.start clock) events = some bridge)
    (returned : bridge.main = .returned) :
    bridge.motion.value = MotionState.default ∧ bridge.Quiescent ∧
      ∀ further later, Machine.run (Bridge.step config) bridge further = some later →
        later.motion = bridge.motion := by
  -- Without a live worker there is no writer, and without panics no writer means a clear register.
  have quiescent := (owned_run ran).quiescent returned
  have idle : ∀ connection, ¬ bridge.CanWrite connection := by
    intro connection writes
    exact quiescent.idle connection writes.live
  refine ⟨atRest_run orderly ran idle, quiescent, ?_⟩
  intro further later onwards
  exact quiescent_run quiescent onwards

/-- Two buffered lines, of which the second is handled after the shutdown's own stop. -/
def shutdownRun : List BridgeEvent :=
  [.connect, .listener .proceed, .listener .accepted, .listener .proceed, .listener .proceed,
    .listener (.io true), .worker 0 (.io true), .worker 0 (.io true), .worker 0 (.io true),
    .worker 0 .proceed, .worker 0 (.read (.data [newline, newline])), .worker 0 .proceed,
    .shutdown, .shutdown, .worker 0 (.io true), .worker 0 .proceed, .worker 0 (.io true),
    .worker 0 .proceed, .worker 0 .proceed, .worker 0 .proceed, .worker 0 .proceed,
    .listener .proceed, .listener .proceed, .shutdown, .shutdown]

/-- A velocity handled after the shutdown's own stop is stopped before shutting down returns. -/
theorem shutdown_final_buffered :
    ∃ bridge, Machine.run (Bridge.step slowAdvance) (Bridge.start 0) shutdownRun = some bridge ∧
      bridge.motion.value = MotionState.default ∧ bridge.Quiescent := by
  -- The run is evaluated, and the theorem is applied to the state it ends in.
  have played : ((Machine.run (Bridge.step slowAdvance) (Bridge.start 0) shutdownRun).any
      fun bridge => bridge.main == .returned) = true := by
    decide +kernel
  obtain ⟨bridge, ran, returned⟩ := (Option.any_eq_true _ _).mp played
  have final := shutdown_final (by decide) ran (eq_of_beq returned)
  exact ⟨bridge, ran, final.1, final.2.1⟩

end Scout.Bridge
