import Scout.Bridge.Steps
import Scout.Machine.Run

/-! One worker at a time owns the command register, over every run of the bridge. -/

namespace Scout.Bridge

section Fields

variable (bridge : Bridge) (connection : Connection)

@[simp] theorem setWorker_motion (worker : Worker) :
    (bridge.setWorker connection worker).motion = bridge.motion := rfl

@[simp] theorem setWorker_owner (worker : Worker) :
    (bridge.setWorker connection worker).owner = bridge.owner := rfl

@[simp] theorem setWorker_listener (worker : Worker) :
    (bridge.setWorker connection worker).listener = bridge.listener := rfl

@[simp] theorem setWorker_main (worker : Worker) :
    (bridge.setWorker connection worker).main = bridge.main := rfl

@[simp] theorem setWorker_clock (worker : Worker) :
    (bridge.setWorker connection worker).clock = bridge.clock := rfl

@[simp] theorem setWorker_history (worker : Worker) :
    (bridge.setWorker connection worker).history = bridge.history := rfl

@[simp] theorem record_motion (happening : Happening) :
    (bridge.record happening).motion = bridge.motion := rfl

@[simp] theorem record_history (happening : Happening) :
    (bridge.record happening).history = happening :: bridge.history := rfl

@[simp] theorem recordHandled_motion (handled : Option Handled) :
    (bridge.recordHandled connection handled).motion = bridge.motion := by
  -- Recording touches the history only.
  cases handled <;> rfl

@[simp] theorem recordHandled_owner (handled : Option Handled) :
    (bridge.recordHandled connection handled).owner = bridge.owner := by
  -- Recording touches the history only.
  cases handled <;> rfl

@[simp] theorem recordHandled_listener (handled : Option Handled) :
    (bridge.recordHandled connection handled).listener = bridge.listener := by
  -- Recording touches the history only.
  cases handled <;> rfl

@[simp] theorem recordHandled_main (handled : Option Handled) :
    (bridge.recordHandled connection handled).main = bridge.main := by
  -- Recording touches the history only.
  cases handled <;> rfl

@[simp] theorem recordHandled_clock (handled : Option Handled) :
    (bridge.recordHandled connection handled).clock = bridge.clock := by
  -- Recording touches the history only.
  cases handled <;> rfl

@[simp] theorem recordHandled_workers (handled : Option Handled) :
    (bridge.recordHandled connection handled).workers = bridge.workers := by
  -- Recording touches the history only.
  cases handled <;> rfl

end Fields

/-- A worker whose thread has not ended. -/
def Live (bridge : Bridge) (connection : Connection) : Prop :=
  ∃ worker, bridge.workers connection = some worker ∧ worker.stage ≠ .finished

/-- A worker that may still write the command register. -/
def CanWrite (bridge : Bridge) (connection : Connection) : Prop :=
  ∃ worker, bridge.workers connection = some worker ∧ worker.stage = .running

/-- A worker that may still write is alive. -/
theorem CanWrite.live {bridge : Bridge} {connection : Connection}
    (writes : bridge.CanWrite connection) : bridge.Live connection := by
  -- Running is not the stage of an ended thread.
  obtain ⟨worker, works, stage⟩ := writes
  exact ⟨worker, works, by simp [stage]⟩

/-- A finished worker's thread is not alive. -/
theorem not_live_of_isFinished {bridge : Bridge} {connection : Connection}
    (ended : bridge.isFinished connection = true) : ¬ bridge.Live connection := by
  -- A live worker would be reported as unfinished.
  rintro ⟨worker, works, alive⟩
  simp [isFinished, works, alive] at ended

/-- An unfinished worker's thread is alive. -/
theorem live_of_not_isFinished {bridge : Bridge} {connection : Connection}
    (alive : bridge.isFinished connection = false) : bridge.Live connection := by
  -- Only a worker that exists is ever reported as unfinished.
  unfold isFinished at alive
  cases works : bridge.workers connection with
  | none => simp [works] at alive
  | some worker => exact ⟨worker, works, by simpa [works] using alive⟩

/-- Replacing one worker changes who is alive only there. -/
theorem live_setWorker {bridge : Bridge} {connection other : Connection} {worker : Worker}
    (alive : (bridge.setWorker connection worker).Live other) :
    (other = connection ∧ worker.stage ≠ .finished) ∨
      (other ≠ connection ∧ bridge.Live other) := by
  -- The updated table answers with the new worker at its connection and the old one elsewhere.
  obtain ⟨found, works, stage⟩ := alive
  by_cases same : other = connection
  · subst same
    simp only [setWorker, Function.update_self, Option.some.injEq] at works
    exact .inl ⟨rfl, works ▸ stage⟩
  · simp only [setWorker, Function.update_of_ne same] at works
    exact .inr ⟨same, found, works, stage⟩

/-- The ownership discipline: what the listener, the workers and the register agree on. -/
structure Owned (bridge : Bridge) : Prop where
  /-- No thread has panicked while holding the lock. -/
  unpoisoned : bridge.motion.poisoned = false
  /-- Only the owner's thread can be alive. -/
  exclusive : ∀ connection, bridge.Live connection → bridge.owner = some connection
  /-- A newcomer is let in only when there is no owner. -/
  vacant : ∀ connection,
    bridge.listener = .stopping connection ∨ bridge.listener = .spawning connection →
      bridge.owner = none
  /-- The register is clear when a newcomer's worker is about to be spawned. -/
  cleared : ∀ connection, bridge.listener = .spawning connection →
    bridge.motion.value = MotionState.default
  /-- The listener thread ends without an owner. -/
  halted : bridge.listener = .finished → bridge.owner = none
  /-- The bridge's user waits for the listener thread. -/
  joined : bridge.main = .joiningCamera ∨ bridge.main = .returned → bridge.listener = .finished

/-- The bridge starts with its ownership discipline in place. -/
theorem owned_start (clock : Instant) : (Bridge.start clock).Owned where
  -- There is no worker yet.
  unpoisoned := rfl
  exclusive := by
    rintro connection ⟨worker, works, _⟩
    simp [Bridge.start] at works
  vacant := by simp [Bridge.start]
  cleared := by simp [Bridge.start]
  halted := by simp [Bridge.start]
  joined := by simp [Bridge.start]

variable {config : ControlConfig} {before after : Bridge} {event : BridgeEvent}

/-- A running worker excludes a newcomer being let in and a finished listener. -/
theorem Owned.owner_busy (owned : before.Owned) {connection : Connection}
    (alive : before.Live connection) :
    (∀ other, before.listener ≠ .stopping other ∧ before.listener ≠ .spawning other) ∧
      before.listener ≠ .finished := by
  -- Each of these phases says there is no owner, and the live worker is one.
  have owner := owned.exclusive connection alive
  refine ⟨fun other => ⟨fun at_ => ?_, fun at_ => ?_⟩, fun at_ => ?_⟩
  · simp [owned.vacant other (.inl at_)] at owner
  · simp [owned.vacant other (.inr at_)] at owner
  · simp [owned.halted at_] at owner

/-- While the listener thread goes on, the bridge's user has not got past waiting for it. -/
theorem Owned.not_joined (owned : before.Owned) (going : before.listener ≠ .finished) :
    ¬ (before.main = .joiningCamera ∨ before.main = .returned) :=
  fun past => going (owned.joined past)

/-- The listener may move among the phases that let nobody in and do not end the thread. -/
theorem Owned.listens (owned : before.Owned) {phase : ListenerPhase}
    (going : before.listener ≠ .finished)
    (outside : ∀ connection, phase ≠ .stopping connection ∧ phase ≠ .spawning connection)
    (further : phase ≠ .finished) : Owned { before with listener := phase } := by
  -- No condition on the owner or the register applies in such a phase.
  exact { owned with
    vacant := fun connection at_ => by
      rcases at_ with at_ | at_
      · exact absurd at_ (outside connection).1
      · exact absurd at_ (outside connection).2
    cleared := fun connection at_ => absurd at_ (outside connection).2
    halted := fun at_ => absurd at_ further
    joined := fun past => absurd past (owned.not_joined going) }

/-- Without a live worker the ownership may be given up. -/
theorem Owned.nobody (owned : before.Owned) {owner : Connection}
    (isOwner : before.owner = some owner) (ended : before.isFinished owner = true)
    (connection : Connection) : ¬ before.Live connection := by
  -- The only thread that could be alive has ended.
  intro alive
  have same := owned.exclusive connection alive
  rw [isOwner, Option.some.injEq] at same
  exact not_live_of_isFinished (same ▸ ended) alive

/-- Replacing a live worker leaves the owner the only one that can be alive. -/
theorem Owned.exclusive_setWorker (owned : before.Owned) {connection other : Connection}
    {worker : Worker} (alive : before.Live connection)
    (later : (before.setWorker connection worker).Live other) : before.owner = some other := by
  -- Whoever is alive afterwards was alive before.
  rcases live_setWorker later with ⟨rfl, _⟩ | ⟨_, earlier⟩
  · exact owned.exclusive other alive
  · exact owned.exclusive other earlier

/-- Every step keeps the ownership discipline. -/
theorem Owned.step (owned : before.Owned) (taken : Steps config before event after) :
    after.Owned := by
  -- The cases follow the steps.
  -- A step of a live worker excludes the phases in which the register must be clear.
  cases taken with
  | tick elapsed => exact { owned with }
  | signal => exact { owned with }
  | connect => exact { owned with }
  | listen idle was =>
    have going : before.listener ≠ .finished := by rcases was with was | was <;> simp [was]
    rcases idle with rfl | rfl | rfl
    · exact owned.listens going (by simp) (by simp)
    · exact owned.listens going (by simp) (by simp)
    · exact owned.listens going (by simp) (by simp)
  | accept was waiting =>
    exact { owned.listens (by simp [was]) (by simp) (by simp) with }
  | reap was isOwner ended =>
    exact { owned with
      exclusive := fun connection alive => absurd alive (owned.nobody isOwner ended connection)
      vacant := fun _ _ => rfl
      cleared := by rintro connection at_; cases at_
      halted := fun _ => rfl
      joined := fun past => absurd past (owned.not_joined (by simp [was])) }
  | free was unowned =>
    exact { owned with
      vacant := fun _ _ => unowned
      cleared := by rintro connection at_; cases at_
      halted := fun _ => unowned
      joined := fun past => absurd past (owned.not_joined (by simp [was])) }
  | @refuse connection owner was isOwner alive =>
    have moved : Owned { before with listener := .rejecting connection } :=
      owned.listens (by simp [was]) (by simp) (by simp)
    exact { moved with }
  | reject succeeded was =>
    exact { owned.listens (by simp [was]) (by simp) (by simp) with }
  | clear was =>
    -- The register is cleared after the ownership has been given up.
    exact { owned with
      unpoisoned := by simpa using owned.unpoisoned
      vacant := fun _ _ => owned.vacant _ (.inl was)
      cleared := fun _ _ => stopMotion_value owned.unpoisoned
      halted := by intro at_; cases at_
      joined := fun past => absurd past (owned.not_joined (by simp [was])) }
  | @welcome newcomer was =>
    exact {
      unpoisoned := owned.unpoisoned
      exclusive := by
        intro connection alive
        -- Nobody was alive before, so the new worker is the only one.
        rcases live_setWorker alive with ⟨rfl, _⟩ | ⟨_, alive⟩
        · rfl
        · exact absurd was ((owned.owner_busy alive).1 newcomer).2
      vacant := by rintro connection (at_ | at_) <;> cases at_
      cleared := by rintro connection at_; cases at_
      halted := by intro at_; cases at_
      joined := fun past => absurd past (owned.not_joined (by simp [was])) }
  | @spawnFailed newcomer was =>
    exact { owned with
      exclusive := fun connection alive =>
        absurd was ((owned.owner_busy alive).1 newcomer).2
      vacant := fun _ _ => rfl
      cleared := by rintro connection at_; cases at_
      halted := fun _ => rfl
      joined := fun past => absurd past (owned.not_joined (by simp [was])) }
  | joinOwner was isOwner ended =>
    exact { owned with
      exclusive := fun connection alive => absurd alive (owned.nobody isOwner ended connection)
      vacant := fun _ _ => rfl
      cleared := by rintro connection at_; cases at_
      halted := fun _ => rfl
      joined := fun _ => rfl }
  | joinNobody was unowned =>
    exact { owned with
      vacant := fun _ _ => unowned
      cleared := by rintro connection at_; cases at_
      halted := fun _ => unowned
      joined := fun _ => rfl }
  | @serve connection input serve effect works served =>
    have alive : before.Live connection := ⟨_, works, by simp⟩
    have busy := (owned.owner_busy alive).1
    exact {
      unpoisoned := by
        simpa using (serveControlClient_write owned.unpoisoned served).poisoned.trans
          owned.unpoisoned
      exclusive := by
        intro other later
        unfold Live at later
        rw [recordHandled_workers] at later
        simpa using owned.exclusive_setWorker alive later
      vacant := by simpa using owned.vacant
      cleared := fun other at_ => absurd (by simpa using at_) (busy other).2
      halted := by simpa using owned.halted
      joined := by simpa using owned.joined }
  | @finalStop connection serve works =>
    have alive : before.Live connection := ⟨_, works, by simp⟩
    exact {
      unpoisoned := by simpa using owned.unpoisoned
      exclusive := fun other later => owned.exclusive_setWorker alive later
      vacant := owned.vacant
      cleared := fun _ _ => stopMotion_value owned.unpoisoned
      halted := owned.halted
      joined := owned.joined }
  | @finish connection serve works =>
    have alive : before.Live connection := ⟨_, works, by simp⟩
    exact { owned with exclusive := fun other later => owned.exclusive_setWorker alive later }
  | @panic connection serve stage works going =>
    have alive : before.Live connection := ⟨_, works, going⟩
    exact { owned with exclusive := fun other later => owned.exclusive_setWorker alive later }
  | currentCommand was =>
    exact { owned with
      unpoisoned := by simpa using owned.unpoisoned
      cleared := fun other at_ => currentCommand_default _ (owned.cleared other at_) }
  | clearRunning was =>
    exact { owned with joined := by rintro (at_ | at_) <;> cases at_ }
  | clearMotion was =>
    exact { owned with
      unpoisoned := by simpa using owned.unpoisoned
      cleared := fun _ _ => stopMotion_value owned.unpoisoned
      joined := by rintro (at_ | at_) <;> cases at_ }
  | joinControl was ended => exact { owned with joined := fun _ => ended }
  | joinCamera was => exact { owned with joined := fun _ => owned.joined (.inl was) }

/-- Every state a run reaches keeps the ownership discipline. -/
theorem owned_run {clock : Instant} {events : List BridgeEvent} {bridge : Bridge}
    (ran : Machine.run (step config) (Bridge.start clock) events = some bridge) :
    bridge.Owned := by
  -- The discipline holds at the start and every step keeps it.
  exact Machine.run_invariant (fun _ => True) Owned
    (fun _ _ _ _ owned taken => owned.step (step_steps taken)) (fun _ _ => trivial)
    (owned_start clock) ran

end Scout.Bridge
