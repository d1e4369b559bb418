import Scout.Bridge.Ownership

/-! Without panics, only a worker that may still write leaves the register armed. -/

namespace Scout.Bridge

/-- The register is clear whenever no worker may write it. -/
def AtRest (bridge : Bridge) : Prop :=
  (∀ connection, ¬ bridge.CanWrite connection) → bridge.motion.value = MotionState.default

/-- Whether an event is a worker's panic. -/
def isPanic : BridgeEvent → Bool
  | .panic _ => true
  | _ => false

/-- A worker put into the running stage may write. -/
theorem canWrite_setWorker_self (bridge : Bridge) (connection : Connection) (serve : Serve) :
    (bridge.setWorker connection { serve, stage := .running }).CanWrite connection := by
  -- The updated table answers with the new worker.
  exact ⟨{ serve, stage := .running }, by simp only [setWorker, Function.update_self], rfl⟩

/-- Replacing one worker leaves the others' right to write alone. -/
theorem canWrite_setWorker_of_ne {bridge : Bridge} {connection other : Connection}
    (different : other ≠ connection) (worker : Worker) :
    (bridge.setWorker connection worker).CanWrite other ↔ bridge.CanWrite other := by
  -- The updated table answers with the old worker elsewhere.
  simp [CanWrite, setWorker, Function.update_of_ne different]

/-- Nothing is armed when the listener thread starts. -/
theorem atRest_start (clock : Instant) : (Bridge.start clock).AtRest := fun _ => rfl

variable {config : ControlConfig} {before after : Bridge} {event : BridgeEvent}

/-- Every step but a panic keeps the register clear without a writer. -/
theorem AtRest.step (rest : before.AtRest) (owned : before.Owned)
    (orderly : isPanic event = false) (taken : Steps config before event after) :
    after.AtRest := by
  -- A step either keeps the workers' rights, clears the register, or has a writer at its end.
  intro idle
  cases taken with
  | tick elapsed => exact rest idle
  | signal => exact rest idle
  | connect => exact rest idle
  | listen _ _ => exact rest idle
  | accept _ _ => exact rest idle
  | reap _ _ _ => exact rest idle
  | free _ _ => exact rest idle
  | refuse _ _ _ => exact rest idle
  | reject _ _ => exact rest idle
  | clear _ => exact stopMotion_value owned.unpoisoned
  | welcome _ => exact absurd (canWrite_setWorker_self _ _ _) (idle _)
  | spawnFailed _ => exact rest idle
  | joinOwner _ _ _ => exact rest idle
  | joinNobody _ _ => exact rest idle
  | @serve connection input serve effect works served =>
    refine absurd ?_ (idle connection)
    unfold CanWrite
    rw [recordHandled_workers]
    exact canWrite_setWorker_self _ connection effect.serve
  | finalStop _ => exact stopMotion_value owned.unpoisoned
  | @finish connection serve works =>
    -- The worker that ends had already lost its right to write.
    refine rest fun other writes => ?_
    by_cases same : other = connection
    · subst same
      obtain ⟨worker, found, stage⟩ := writes
      rw [works, Option.some.injEq] at found
      simp [← found] at stage
    · exact idle other ((canWrite_setWorker_of_ne same _).mpr writes)
  | panic _ _ => simp [isPanic] at orderly
  | currentCommand _ => exact currentCommand_default _ (rest idle)
  | clearRunning _ => exact rest idle
  | clearMotion _ => exact stopMotion_value owned.unpoisoned
  | joinControl _ _ => exact rest idle
  | joinCamera _ => exact rest idle

/-- Every state a run without panics reaches is clear without a writer. -/
theorem atRest_run {clock : Instant} {events : List BridgeEvent} {bridge : Bridge}
    (orderly : ∀ event ∈ events, isPanic event = false)
    (ran : Machine.run (step config) (Bridge.start clock) events = some bridge) :
    bridge.AtRest := by
  -- Ownership and rest are carried along together.
  have both := Machine.run_invariant (fun event => isPanic event = false)
    (fun bridge : Bridge => bridge.Owned ∧ bridge.AtRest)
    (fun _ _ _ orderly holds taken =>
      ⟨holds.1.step (step_steps taken), holds.2.step holds.1 orderly (step_steps taken)⟩)
    orderly ⟨owned_start clock, atRest_start clock⟩ ran
  exact both.2

end Scout.Bridge
