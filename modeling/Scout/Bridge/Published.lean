import Scout.Bridge.Deadman
import Scout.Bridge.PublishLoop
import Scout.Machine.Observation

/-! What the bridge hands over to the motor controller is what its register says. -/

namespace Scout

namespace Bridge

variable {config : ControlConfig} {bridge : Bridge}

/-- An accepted velocity of the present owner that is in force at a clock reading. -/
def JustifiedAt (config : ControlConfig) (bridge : Bridge) (now : Instant)
    (command : ScoutTwist F64) : Prop :=
  ∃ connection vx vy vtheta timeoutMs since newer older,
    presentOwner bridge.history = some connection ∧
    InForce bridge.history newer older connection vx vy vtheta timeoutMs since ∧
    VelocityAccepted vx vy vtheta timeoutMs config.maximumTimeout command ∧
    now < since + Duration.fromMillis timeoutMs

/-- The bridge gives an account of its owner when it starts, whether it is to run or not. -/
theorem accounted_launched (clock : Instant) (running : Bool) :
    Accounted config { Bridge.start clock with running := running } := by
  -- A bridge that is not to run is one that has been interrupted at once.
  have started : Accounted config (Bridge.start clock) :=
    ⟨owned_start clock, latest_start clock, armed_start config clock⟩
  exact ⟨{ started.owned with }, started.latest, started.armed⟩

/-- Every step of the bridge keeps the account. -/
theorem Accounted.step {event : BridgeEvent} {after : Bridge} (accounted : Accounted config bridge)
    (taken : bridge.step config event = some after) : Accounted config after where
  -- Each of the three invariants is kept by every step.
  owned := accounted.owned.step (step_steps taken)
  latest := accounted.latest.step accounted.owned (step_steps taken)
  armed := accounted.armed.step accounted.owned accounted.latest (step_steps taken)

/-- Reading the command keeps the account, whatever the clock has said. -/
theorem Accounted.read (accounted : Accounted config bridge) (now : Instant) :
    Accounted config { bridge with motion := (Scout.currentCommand bridge.motion now).2 } where
  owned := { accounted.owned with
    unpoisoned := (currentCommand_poisoned _ _).trans accounted.owned.unpoisoned
    cleared := fun connection spawning => by
      -- A clear register stays clear.
      have clear := accounted.owned.cleared connection spawning
      have late : ∀ deadline, bridge.motion.value.deadline = some deadline → deadline ≤ now := by
        intro deadline set
        simp [clear, MotionState.default] at set
      rw [currentCommand_lapsed accounted.owned.unpoisoned late]
      rfl }
  latest := accounted.latest
  armed := accounted.armed.mono [] (currentCommand_kept _ _) (by simp) rfl (Nat.le_refl _)

/-- A command other than zero is justified at the clock reading that it is read with. -/
theorem Accounted.justifiedAt {now : Instant} (accounted : Accounted config bridge)
    (moving : (Scout.currentCommand bridge.motion now).1 ≠ ScoutTwist.zero) :
    JustifiedAt config bridge now (Scout.currentCommand bridge.motion now).1 := by
  -- Zero comes back unless there is a deadline ahead of the clock reading.
  have free := accounted.owned.unpoisoned
  have ahead : ∃ deadline, bridge.motion.value.deadline = some deadline ∧ now < deadline := by
    by_contra none
    refine moving (congrArg Prod.fst (currentCommand_lapsed free fun deadline set => ?_))
    exact Nat.not_lt.mp fun early => none ⟨deadline, set, early⟩
  obtain ⟨deadline, set, early⟩ := ahead
  obtain ⟨connection, vx, vy, vtheta, timeoutMs, since, newer, older, force, accepted, due, _⟩ :=
    accounted.armed deadline set
  rw [currentCommand_open free set early]
  exact ⟨connection, vx, vy, vtheta, timeoutMs, since, newer, older, force.present, force,
    accepted, due ▸ early⟩

/-- Shutting down is a step of the bridge, whatever its connections share. -/
theorem shutdown_steps (config : ControlConfig) {after : Bridge}
    (taken : bridge.shutdown = some after) : Steps config bridge .shutdown after := by
  have stepped : bridge.step config .shutdown = some after := taken
  exact step_steps stepped

/-- No step of the bridge sets its running flag. -/
theorem Steps.running {event : BridgeEvent} {after : Bridge}
    (taken : Steps config bridge event after) (stopped : bridge.running = false) :
    after.running = false := by
  -- The flag is kept by all steps but those that clear it.
  cases taken with
  | signal => rfl
  | clearRunning was => rfl
  | @serve connection input serve effect works served =>
    cases effect.handled <;> exact stopped
  | _ => exact stopped

end Bridge

/-- A reading of the command register: the clock reading before it, and the bridge at it. -/
structure Reading where
  now : Instant
  bridge : Bridge

/-- The command that a reading gives. -/
def Reading.command (reading : Reading) : ScoutTwist F64 :=
  (currentCommand reading.bridge.motion reading.now).1

namespace PublishLoop

/-- The reading of the register that a step makes. -/
def reading (loop : PublishLoop) (event : PublishEvent) : Option Reading :=
  match loop.phase, event with
  | .reading, .main (.clock now) => loop.bridge.map fun bridge => { now, bridge }
  | _, _ => none

/-- The readings of a run, in their order. -/
def readings (args : BridgeArgs) (parse : Bytes → Except String ControlRequest)
    (events : List PublishEvent) : List Reading :=
  Machine.observations (step args parse) reading start events

end PublishLoop

/-- In each phase, what has been handed over is framed by stops and else what has been read. -/
def PublishPhase.Frames (phase : PublishPhase) (sent read : List (ScoutTwist F64)) : Prop :=
  match phase with
  | .checking => sent = [] ∧ read = []
  | .preparing => sent = [] ∧ read = []
  | .launching => sent = [] ∧ read = []
  | .subscribing => sent = [] ∧ read = []
  | .greeting => sent = [] ∧ read = []
  | .sending command => sent ++ [command] = ScoutTwist.zero :: read
  | .closing _ => sent = ScoutTwist.zero :: read ++ [ScoutTwist.zero]
  | .returned result =>
    -- A function that fails early hands over the greeting at most.
    result ≠ .ok () ∧ read = [] ∧ (sent = [] ∨ sent = [ScoutTwist.zero]) ∨
      sent = ScoutTwist.zero :: read ++ [ScoutTwist.zero]
  | _ => sent = ScoutTwist.zero :: read

namespace PublishLoop

variable {args : BridgeArgs} {parse : Bytes → Except String ControlRequest}
  {before after : PublishLoop}

/-- What has been handed over is framed by stops and else what has been read. -/
def Framed (seen : List Reading) (loop : PublishLoop) : Prop :=
  loop.phase.Frames loop.sent.reverse (seen.map Reading.command)

/-- Nothing has been read or handed over at the beginning. -/
theorem framed_start : Framed [] start := ⟨rfl, rfl⟩

/-- Only the loop itself reads the register, in the reading phase. -/
theorem reading_none {event : PublishEvent}
    (other : ∀ input, event = .main input → before.phase ≠ .reading) :
    before.reading event = none := by
  -- Commands are read in one phase only.
  unfold reading
  split
  · rename_i now phase
    exact absurd phase (other _ rfl)
  · rfl

/-- What nobody reads is not seen. -/
theorem unread {event : PublishEvent}
    (other : ∀ input, event = .main input → before.phase ≠ .reading) (seen : List Reading) :
    seen ++ (before.reading event).toList = seen := by
  rw [reading_none other]
  exact List.append_nil _

/-- Nothing is read in any other phase. -/
theorem unread_phase {phase : PublishPhase} (was : before.phase = phase) (other : phase ≠ .reading)
    (event : PublishEvent) (seen : List Reading) :
    seen ++ (before.reading event).toList = seen :=
  unread (fun _ _ same => other (was.symm.trans same)) seen

/-- An early effect goes on or returns its error, with nothing handed over. -/
theorem Framed.tryEarly {seen : List Reading} (none : before.sent.reverse = [])
    (unread : seen.map Reading.command = []) (result : Outcome) {next : PublishPhase}
    (early : next = .preparing ∨ next = .launching ∨ next = .greeting) :
    Framed seen (before.tryOutcome result next) := by
  -- Nothing has been sent or read before the loop begins.
  cases result with
  | ok _ =>
    rcases early with rfl | rfl | rfl
    · exact ⟨none, unread⟩
    · exact ⟨none, unread⟩
    · exact ⟨none, unread⟩
  | error error => exact .inl ⟨by simp, unread, .inl none⟩

/-- Every effect while the bridge runs keeps the frame. -/
theorem Framed.runBridge {seen : List Reading} (framed : Framed seen before) {bridge : Bridge}
    {input : LoopInput} (running : before.bridge = some bridge)
    (taken : before.runBridge bridge input = some after) :
    Framed (seen ++ (before.reading (.main input)).toList) after := by
  -- The cases follow the branches, each named by its phase.
  unfold Framed at framed
  unfold PublishLoop.runBridge at taken
  split at taken
  · rename_i result was
    rw [was] at framed
    rw [unread_phase was (by simp)]
    obtain ⟨none, noneRead⟩ := framed
    cases taken
    cases result with
    | ok _ =>
      show (ScoutTwist.zero :: before.sent).reverse = ScoutTwist.zero :: seen.map Reading.command
      rw [List.reverse_cons, none, noneRead]
      rfl
    | error error =>
      refine .inl ⟨by simp, noneRead, .inr ?_⟩
      show (ScoutTwist.zero :: before.sent).reverse = [ScoutTwist.zero]
      rw [List.reverse_cons, none]
      rfl
  · rename_i isOk was
    rw [was] at framed
    rw [unread_phase was (by simp)]
    cases taken
    cases bridge.running && isOk
    · exact framed
    · exact framed
  · -- The command that is read is the next one to be handed over.
    rename_i now was
    rw [was] at framed
    cases taken
    have read : before.reading (.main (.clock now)) = some ⟨now, bridge⟩ := by
      simp [reading, was, running]
    rw [read]
    show before.sent.reverse ++ [_] = ScoutTwist.zero :: (seen ++ [_]).map Reading.command
    rw [List.map_append, ← List.cons_append]
    exact congrArg (· ++ [_]) framed
  · rename_i command result was
    rw [was] at framed
    rw [unread_phase was (by simp)]
    have handed : (command :: before.sent).reverse =
        ScoutTwist.zero :: seen.map Reading.command := by
      rw [List.reverse_cons]
      exact framed
    cases result with
    | ok _ =>
      cases taken
      exact handed
    | error error =>
      cases taken
      exact handed
  · rename_i was
    rw [was] at framed
    rw [unread_phase was (by simp)]
    cases taken
    exact framed
  · rename_i sendError was
    rw [was] at framed
    rw [unread_phase was (by simp)]
    cases taken
    exact framed
  · -- The final stop closes the frame.
    rename_i sendError result was
    rw [was] at framed
    rw [unread_phase was (by simp)]
    cases taken
    show (ScoutTwist.zero :: before.sent).reverse = _ ++ [ScoutTwist.zero]
    rw [List.reverse_cons]
    exact congrArg (· ++ [ScoutTwist.zero]) framed
  · rename_i result was
    rw [unread_phase was (by simp)]
    split at taken
    · rw [was] at framed
      cases taken
      exact .inr framed
    · obtain ⟨later, _, rfl⟩ := Option.map_eq_some_iff.mp taken
      exact framed
  · cases taken

/-- Every step keeps what has been handed over framed. -/
theorem Framed.step {seen : List Reading} (framed : Framed seen before) {event : PublishEvent}
    (taken : before.step args parse event = some after) :
    Framed (seen ++ (before.reading event).toList) after := by
  -- Only the loop itself reads the register or hands over anything.
  cases event with
  | interrupt =>
    rw [unread fun _ same => by cases same]
    cases taken
    exact framed
  | threads event =>
    rw [unread fun _ same => by cases same]
    unfold PublishLoop.step runThreads at taken
    dsimp only at taken
    split at taken
    · cases taken
    · cases taken
    · obtain ⟨bridge, _, taken⟩ := Option.bind_eq_some_iff.mp taken
      obtain ⟨later, _, rfl⟩ := Option.map_eq_some_iff.mp taken
      exact framed
  | main input =>
    unfold PublishLoop.step integrationBridge at taken
    dsimp only at taken
    split at taken
    · rename_i was
      rw [unread_phase was (by simp)]
      rw [Framed, was] at framed
      cases taken
      exact Framed.tryEarly framed.1 framed.2 _ (.inl rfl)
    · rename_i result was
      rw [unread_phase was (by simp)]
      rw [Framed, was] at framed
      cases taken
      exact Framed.tryEarly framed.1 framed.2 _ (.inr (.inl rfl))
    · rename_i now was
      rw [unread_phase was (by simp)]
      rw [Framed, was] at framed
      cases taken
      exact framed
    · rename_i error was
      rw [unread_phase was (by simp)]
      rw [Framed, was] at framed
      cases taken
      exact .inl ⟨by simp, framed.2, .inl framed.1⟩
    · rename_i result was
      rw [unread_phase was (by simp)]
      rw [Framed, was] at framed
      obtain ⟨period, _, rfl⟩ := Option.map_eq_some_iff.mp taken
      exact Framed.tryEarly framed.1 framed.2 _ (.inr (.inr rfl))
    · obtain ⟨bridge, running, taken⟩ := Option.bind_eq_some_iff.mp taken
      exact Framed.runBridge framed running taken

/-- The bridge that is run gives an account of its owner. -/
def Accounts (args : BridgeArgs) (parse : Bytes → Except String ControlRequest)
    (loop : PublishLoop) : Prop :=
  ∀ bridge, loop.bridge = some bridge → Bridge.Accounted (args.config parse) bridge

/-- Clearing the running flag keeps the account. -/
theorem Accounts.stopRunning (accounts : Accounts args parse before) :
    Accounts args parse before.stopRunning := by
  -- Asking the bridge to stop changes none of its accounts.
  intro bridge running
  obtain ⟨earlier, was, rfl⟩ := Option.map_eq_some_iff.mp running
  have accounted := accounts earlier was
  exact ⟨{ accounted.owned with }, accounted.latest, accounted.armed⟩

/-- Every effect while the bridge runs keeps the account. -/
theorem Accounts.runBridge (accounts : Accounts args parse before) {bridge : Bridge}
    {input : LoopInput} (running : before.bridge = some bridge)
    (taken : before.runBridge bridge input = some after) : Accounts args parse after := by
  -- Most effects leave the bridge alone.
  have still {loop : PublishLoop} (same : loop.bridge = before.bridge) :
      Accounts args parse loop := by
    intro bridge running
    exact accounts bridge (same ▸ running)
  have tried (result : Outcome) (next : PublishPhase) (loop : PublishLoop) :
      (loop.tryOutcome result next).bridge = loop.bridge := by
    cases result <;> rfl
  unfold PublishLoop.runBridge at taken
  split at taken
  · cases taken
    exact still (tried _ _ _)
  · cases taken
    exact still rfl
  · cases taken
    rename_i now _
    intro other same
    cases same
    exact (accounts bridge running).read now
  · split at taken <;> cases taken <;> exact still rfl
  · cases taken
    exact still rfl
  · cases taken
    exact accounts.stopRunning
  · cases taken
    exact still rfl
  · split at taken
    · cases taken
      exact still rfl
    · obtain ⟨later, stepped, rfl⟩ := Option.map_eq_some_iff.mp taken
      intro other same
      cases same
      have shut : bridge.step (args.config parse) .shutdown = some later := stepped
      exact (accounts bridge running).step shut
  · cases taken

/-- Every step keeps the account. -/
theorem Accounts.step (accounts : Accounts args parse before) {event : PublishEvent}
    (taken : before.step args parse event = some after) : Accounts args parse after := by
  -- The other threads take steps of the bridge.
  cases event with
  | interrupt =>
    cases taken
    exact accounts.stopRunning
  | threads event =>
    unfold PublishLoop.step runThreads at taken
    dsimp only at taken
    split at taken
    · cases taken
    · cases taken
    · obtain ⟨bridge, running, taken⟩ := Option.bind_eq_some_iff.mp taken
      obtain ⟨later, stepped, rfl⟩ := Option.map_eq_some_iff.mp taken
      intro other same
      cases same
      exact (accounts bridge running).step stepped
  | main input =>
    unfold PublishLoop.step integrationBridge at taken
    dsimp only at taken
    have tried (result : Outcome) (next : PublishPhase) :
        Accounts args parse (before.tryOutcome result next) := by
      cases result <;> exact accounts
    split at taken
    · cases taken
      exact tried _ _
    · cases taken
      exact tried _ _
    · cases taken
      intro other same
      cases same
      exact Bridge.accounted_launched _ _
    · cases taken
      exact accounts
    · obtain ⟨period, _, rfl⟩ := Option.map_eq_some_iff.mp taken
      exact tried _ _
    · obtain ⟨bridge, running, taken⟩ := Option.bind_eq_some_iff.mp taken
      exact accounts.runBridge running taken

/-- Every reading of a run gives zero or a command that is justified. -/
theorem readings_justified {events : List PublishEvent} {loop : PublishLoop}
    (ran : Machine.run (step args parse) start events = some loop) {reading : Reading}
    (member : reading ∈ readings args parse events) (moving : reading.command ≠ ScoutTwist.zero) :
    reading.bridge.JustifiedAt (args.config parse) reading.now reading.command := by
  -- It was made in a state that gave an account.
  obtain ⟨first, event, rest, state, _, reached, seen⟩ := Machine.mem_observations ran member
  have accounts : Accounts args parse state :=
    Machine.run_invariant (fun _ => True) (Accounts args parse)
      (fun _ _ _ _ accounts taken => Accounts.step accounts taken) (fun _ _ => trivial)
      (fun _ running => by cases running) reached
  unfold PublishLoop.reading at seen
  split at seen
  · obtain ⟨bridge, running, rfl⟩ := Option.map_eq_some_iff.mp seen
    exact (accounts bridge running).justifiedAt moving
  · cases seen

end PublishLoop

/-- How many readings a phase still makes once the bridge is not to run any more. -/
def PublishPhase.pending : PublishPhase → Nat
  | .reading => 1
  | _ => 0

namespace PublishLoop

variable {args : BridgeArgs} {parse : Bytes → Except String ControlRequest}
  {before after : PublishLoop}

/-- The interrupt handler has run, and the bridge is not to run any more. -/
structure Interrupted (loop : PublishLoop) : Prop where
  told : loop.interrupted = true
  stopped : ∀ bridge, loop.bridge = some bridge → bridge.running = false

/-- Clearing the running flag does what an interrupt does. -/
theorem interrupted_stopRunning (loop : PublishLoop) : loop.stopRunning.Interrupted where
  -- The bridge that was running has been asked to stop.
  told := rfl
  stopped bridge running := by
    obtain ⟨earlier, _, rfl⟩ := Option.map_eq_some_iff.mp running
    rfl

/-- A reading is made in the phase for it only. -/
theorem reading_le_pending (loop : PublishLoop) (event : PublishEvent) :
    (loop.reading event).isSome.toNat ≤ loop.phase.pending := by
  -- A command is read in one phase only.
  unfold reading
  split
  · rename_i phase
    rw [phase]
    exact Bool.toNat_le _
  · exact Nat.zero_le _

/-- After an interrupt, an early effect stays interrupted and leads to no reading. -/
theorem Interrupted.tryOutcome {loop : PublishLoop} (interrupted : loop.Interrupted)
    (result : Outcome) {next : PublishPhase} (none : next.pending = 0) :
    (loop.tryOutcome result next).Interrupted ∧
      (loop.tryOutcome result next).phase.pending = 0 := by
  -- Neither outcome makes a reading pending.
  cases result with
  | ok _ => exact ⟨⟨interrupted.told, interrupted.stopped⟩, none⟩
  | error error => exact ⟨⟨interrupted.told, interrupted.stopped⟩, rfl⟩

/-- After an interrupt, no effect while the bridge runs leads to a reading. -/
theorem Interrupted.runBridge (interrupted : before.Interrupted) {bridge : Bridge}
    {input : LoopInput} (running : before.bridge = some bridge)
    (taken : before.runBridge bridge input = some after) :
    after.Interrupted ∧ after.phase.pending = 0 := by
  -- Without the running flag the test leads to the end of the loop.
  have stopped := interrupted.stopped bridge running
  have kept {phase : PublishPhase} {sent : List (ScoutTwist F64)} (none : phase.pending = 0) :
      PublishLoop.Interrupted { before with phase, sent } ∧ phase.pending = 0 :=
    ⟨⟨interrupted.told, interrupted.stopped⟩, none⟩
  unfold PublishLoop.runBridge at taken
  split at taken
  · cases taken
    have greeted : (before.send ScoutTwist.zero).Interrupted :=
      ⟨interrupted.told, interrupted.stopped⟩
    exact greeted.tryOutcome _ rfl
  · cases taken
    rw [stopped]
    exact kept rfl
  · cases taken
    refine ⟨⟨interrupted.told, fun other same => ?_⟩, rfl⟩
    cases same
    exact stopped
  · split at taken
    · cases taken
      exact kept rfl
    · cases taken
      exact kept rfl
  · cases taken
    exact kept rfl
  · cases taken
    have again := interrupted_stopRunning before
    exact ⟨⟨again.told, again.stopped⟩, rfl⟩
  · cases taken
    exact kept rfl
  · rename_i result was
    split at taken
    · cases taken
      exact kept rfl
    · obtain ⟨later, stepped, rfl⟩ := Option.map_eq_some_iff.mp taken
      refine ⟨⟨interrupted.told, fun other same => ?_⟩, congrArg PublishPhase.pending was⟩
      cases same
      exact (Bridge.shutdown_steps ⟨fun _ => .error "", 0⟩ stepped).running stopped
  · cases taken

/-- After an interrupt, no effect of the loop leads to a reading. -/
theorem Interrupted.effect (interrupted : before.Interrupted) {input : LoopInput}
    (taken : before.integrationBridge args input = some after) :
    after.Interrupted ∧ after.phase.pending = 0 := by
  -- A bridge that is launched after an interrupt is not to run.
  unfold integrationBridge at taken
  split at taken
  · cases taken
    exact interrupted.tryOutcome _ rfl
  · cases taken
    exact interrupted.tryOutcome _ rfl
  · cases taken
    refine ⟨⟨interrupted.told, fun bridge same => ?_⟩, rfl⟩
    cases same
    simp [interrupted.told]
  · cases taken
    exact ⟨⟨interrupted.told, interrupted.stopped⟩, rfl⟩
  · obtain ⟨period, _, rfl⟩ := Option.map_eq_some_iff.mp taken
    exact interrupted.tryOutcome _ rfl
  · obtain ⟨bridge, running, taken⟩ := Option.bind_eq_some_iff.mp taken
    exact interrupted.runBridge running taken

/-- After an interrupt, every step stays interrupted and pays for the reading it makes. -/
theorem Interrupted.step (interrupted : before.Interrupted) {event : PublishEvent}
    (taken : before.step args parse event = some after) :
    after.Interrupted ∧
      (before.reading event).isSome.toNat + after.phase.pending ≤ before.phase.pending := by
  -- The other threads neither read nor move the loop.
  cases event with
  | interrupt =>
    cases taken
    rw [reading_none fun _ same => by cases same]
    exact ⟨interrupted_stopRunning _, Nat.le_of_eq (Nat.zero_add _)⟩
  | threads event =>
    rw [reading_none fun _ same => by cases same]
    unfold PublishLoop.step runThreads at taken
    dsimp only at taken
    split at taken
    · cases taken
    · cases taken
    · obtain ⟨bridge, running, taken⟩ := Option.bind_eq_some_iff.mp taken
      obtain ⟨later, stepped, rfl⟩ := Option.map_eq_some_iff.mp taken
      refine ⟨⟨interrupted.told, fun other same => ?_⟩, Nat.le_of_eq (Nat.zero_add _)⟩
      cases same
      exact (Bridge.step_steps stepped).running (interrupted.stopped bridge running)
  | main input =>
    obtain ⟨still, none⟩ := interrupted.effect taken
    refine ⟨still, ?_⟩
    rw [none]
    exact before.reading_le_pending _

/-- After an interrupt the register is read once more at most. -/
theorem readings_interrupted {first rest : List PublishEvent} {loop : PublishLoop}
    (ran : Machine.run (step args parse) start (first ++ .interrupt :: rest) = some loop) :
    (readings args parse (first ++ .interrupt :: rest)).length ≤
      (readings args parse first).length + 1 := by
  -- The phase at the interrupt says whether a reading is still to come.
  obtain ⟨middle, reached, onwards⟩ := Machine.run_append.mp ran
  unfold readings
  rw [Machine.observations_append reached, List.length_append]
  refine Nat.add_le_add_left ?_ _
  obtain ⟨told, taken, later⟩ := Machine.run_cons.mp onwards
  have pending : told.phase.pending ≤ 1 := by
    unfold PublishPhase.pending
    split <;> decide
  refine Nat.le_trans ?_ pending
  rw [Machine.observations_cons taken, reading_none fun _ same => by cases same]
  exact Machine.length_observations_le Interrupted (fun state => state.phase.pending)
    (fun _ _ _ interrupted taken => (interrupted.step taken).1)
    (fun _ _ _ interrupted taken => (interrupted.step taken).2)
    (by cases taken; exact interrupted_stopRunning _) later

/-- What the bridge's loop hands over is a stop, then what it has read from the register, one
command for each reading, and a stop at last. Every command it reads is zero or an accepted velocity
of the present owner within its lifetime, and an interrupt leaves one reading at most. -/
theorem bridge_hands_over_readings {events : List PublishEvent} {loop : PublishLoop}
    (ran : Machine.run (step args parse) start events = some loop) :
    loop.phase.Frames loop.sent.reverse ((readings args parse events).map Reading.command) ∧
    (∀ reading ∈ readings args parse events, reading.command ≠ ScoutTwist.zero →
      reading.bridge.JustifiedAt (args.config parse) reading.now reading.command) ∧
    ∀ first rest, events = first ++ .interrupt :: rest →
      (readings args parse events).length ≤ (readings args parse first).length + 1 := by
  -- What is sent and what is read grow together along the run.
  have framed : Framed (readings args parse events) loop :=
    Machine.run_explains Framed (fun _ _ _ _ framed taken => Framed.step framed taken)
      framed_start ran
  refine ⟨framed, fun reading member moving => readings_justified ran member moving, ?_⟩
  rintro first rest rfl
  exact readings_interrupted ran

/-- Twenty commands a second, each for a second at most. -/
def twentyHertz : BridgeArgs where
  rateHz := Scalar.ofRat 20
  maxCommandTimeoutMs := 1000

/-- The bridge is set up, and a client has a slow advance accepted. -/
def preparingRun : List PublishEvent :=
  [.main .proceed, .main (.outcome (.ok ())), .main (.clock 0), .main (.outcome (.ok ())),
    .main (.outcome (.ok ()))] ++ Bridge.armingRun.map .threads ++ [.main (.alive true)]

/-- An interrupt right before a reading does not take that reading back. -/
def readingRun : List PublishEvent :=
  [.main (.clock 0), .main (.outcome (.ok ()))]

/-- The slow advance is read and handed over once, also if the interrupt has come by then. -/
theorem bridge_hands_over_readings_slowAdvance :
    ∃ loop, ∃ reading ∈ readings twentyHertz Bridge.slowAdvance.parse
        (preparingRun ++ .interrupt :: readingRun),
      Machine.run (step twentyHertz Bridge.slowAdvance.parse) start
        (preparingRun ++ .interrupt :: readingRun) = some loop ∧
      reading.bridge.JustifiedAt (twentyHertz.config Bridge.slowAdvance.parse) reading.now
        reading.command ∧
      (readings twentyHertz Bridge.slowAdvance.parse
        (preparingRun ++ .interrupt :: readingRun)).length ≤
          (readings twentyHertz Bridge.slowAdvance.parse preparingRun).length + 1 := by
  -- The run is evaluated, and the theorem is applied to the state it ends in.
  have ends : (Machine.run (step twentyHertz Bridge.slowAdvance.parse) start
      (preparingRun ++ .interrupt :: readingRun)).isSome = true := by decide +kernel
  have reads : ((readings twentyHertz Bridge.slowAdvance.parse
      (preparingRun ++ .interrupt :: readingRun)).any fun reading =>
        reading.command != ScoutTwist.zero) = true := by decide +kernel
  obtain ⟨loop, ran⟩ := Option.isSome_iff_exists.mp ends
  obtain ⟨reading, member, moving⟩ := List.any_eq_true.mp reads
  obtain ⟨_, justified, bounded⟩ := bridge_hands_over_readings ran
  exact ⟨loop, reading, member, ran, justified reading member (bne_iff_ne.mp moving),
    bounded _ _ rfl⟩

end PublishLoop
end Scout
