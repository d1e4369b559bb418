import Scout.Bridge.AtRest

/-! A command outlives neither its deadline nor its owner. -/

namespace Scout

/-- The connection admitted last. -/
def presentOwner : List Happening → Option Connection
  | [] => none
  | .admitted connection :: _ => some connection
  | _ :: older => presentOwner older

namespace Happening

/-- An admission changes the owner. -/
def admits : Happening → Bool
  | .admitted _ => true
  | _ => false

/-- A later admission, accepted velocity or accepted stop overrides an earlier velocity. -/
def overrides : Happening → Bool
  | .admitted _ => true
  | .handled _ what _ => what.accepted && what.request != .ping
  | _ => false

/-- An accepted velocity arms the register. -/
def arms : Happening → Bool
  | .handled _ { request := .velocity _ _ _ _, accepted := true } _ => true
  | _ => false

/-- Every admission overrides. -/
theorem admits_of_not_overrides {happening : Happening} (harmless : happening.overrides = false) :
    happening.admits = false := by
  -- The two tests agree on admissions.
  cases happening with
  | admitted connection => simp [overrides] at harmless
  | arrived connection => rfl
  | refused connection => rfl
  | handled connection what at_ => rfl

end Happening

/-- Happenings other than admissions do not change the present owner. -/
theorem presentOwner_append {newer older : List Happening}
    (closed : ∀ happening ∈ newer, happening.admits = false) :
    presentOwner (newer ++ older) = presentOwner older := by
  -- The newer happenings are passed over one by one.
  induction newer with
  | nil => rfl
  | cons happening rest ih =>
    have later := ih fun other member => closed other (by simp [member])
    have here := closed happening (by simp)
    cases happening with
    | admitted connection => simp [Happening.admits] at here
    | arrived connection => exact later
    | refused connection => exact later
    | handled connection what at_ => exact later

/-- An accepted velocity of the then owner that nothing has overridden since. -/
structure InForce (history newer older : List Happening) (connection : Connection)
    (vx vy vtheta : F64) (timeoutMs : Nat) (since : Instant) : Prop where
  split : history = newer ++ .handled connection
    { request := .velocity vx vy vtheta timeoutMs, accepted := true } since :: older
  harmless : ∀ happening ∈ newer, happening.overrides = false
  owner : presentOwner older = some connection

/-- The owner of a velocity in force is the present owner. -/
theorem InForce.present {history newer older : List Happening} {connection : Connection}
    {vx vy vtheta : F64} {timeoutMs : Nat} {since : Instant}
    (force : InForce history newer older connection vx vy vtheta timeoutMs since) :
    presentOwner history = some connection := by
  -- No admission is among the newer happenings.
  rw [force.split, presentOwner_append fun happening member =>
    Happening.admits_of_not_overrides (force.harmless happening member)]
  exact force.owner

namespace Bridge

/-- A live worker belongs to the connection admitted last. -/
def Latest (bridge : Bridge) : Prop :=
  ∀ connection, bridge.Live connection → presentOwner bridge.history = some connection

/-- A set deadline belongs to a velocity of the present owner that is still in force. -/
def Armed (config : ControlConfig) (bridge : Bridge) : Prop :=
  ∀ deadline, bridge.motion.value.deadline = some deadline →
    ∃ connection vx vy vtheta timeoutMs since newer older,
      InForce bridge.history newer older connection vx vy vtheta timeoutMs since ∧
      VelocityAccepted vx vy vtheta timeoutMs config.maximumTimeout bridge.motion.value.command ∧
      deadline = since + Duration.fromMillis timeoutMs ∧ since ≤ bridge.clock

/-- No worker is alive when the listener thread starts. -/
theorem latest_start (clock : Instant) : (Bridge.start clock).Latest := by
  -- No worker has been hired.
  rintro connection ⟨worker, works, _⟩
  simp [Bridge.start] at works

/-- Nothing is armed when the listener thread starts. -/
theorem armed_start (config : ControlConfig) (clock : Instant) :
    (Bridge.start clock).Armed config := by
  -- The register has no deadline.
  intro deadline set
  simp [Bridge.start, MotionState.default] at set

/-- Recording a handled request adds at most that request to the history. -/
theorem recordHandled_history (bridge : Bridge) (connection : Connection)
    (handled : Option Handled) :
    (bridge.recordHandled connection handled).history =
      (handled.map fun what => Happening.handled connection what bridge.clock).toList ++
        bridge.history := by
  -- Nothing is added when nothing was handled.
  cases handled <;> rfl

variable {config : ControlConfig} {before after : Bridge} {event : BridgeEvent}

/-- Every step keeps live workers with the connection admitted last. -/
theorem Latest.step (latest : before.Latest) (owned : before.Owned)
    (taken : Steps config before event after) : after.Latest := by
  -- Only an admission changes the present owner, and nobody else is alive then.
  intro other alive
  cases taken with
  | tick _ => exact latest other alive
  | signal => exact latest other alive
  | connect => exact latest other alive
  | listen _ _ => exact latest other alive
  | accept _ _ => exact latest other alive
  | reap _ _ _ => exact latest other alive
  | free _ _ => exact latest other alive
  | refuse _ _ _ => exact latest other alive
  | reject _ _ => exact latest other alive
  | clear _ => exact latest other alive
  | @welcome newcomer was =>
    -- The newcomer is admitted last, and whoever else is alive keeps the bridge busy.
    rcases live_setWorker alive with ⟨rfl, _⟩ | ⟨_, alive⟩
    · rfl
    · exact absurd was ((owned.owner_busy alive).1 newcomer).2
  | spawnFailed _ => exact latest other alive
  | joinOwner _ _ _ => exact latest other alive
  | joinNobody _ _ => exact latest other alive
  | serve works served =>
    -- A handled request admits nobody.
    rw [recordHandled_history, presentOwner_append (by simp [Happening.admits])]
    unfold Live at alive
    rw [recordHandled_workers] at alive
    rcases live_setWorker alive with ⟨rfl, _⟩ | ⟨_, alive⟩
    · exact latest other ⟨_, works, by simp⟩
    · exact latest other alive
  | finalStop works =>
    rcases live_setWorker alive with ⟨rfl, _⟩ | ⟨_, alive⟩
    · exact latest other ⟨_, works, by simp⟩
    · exact latest other alive
  | finish _ =>
    -- A thread that has ended is not alive.
    rcases live_setWorker alive with ⟨_, ended⟩ | ⟨_, alive⟩
    · exact absurd rfl ended
    · exact latest other alive
  | panic _ _ =>
    rcases live_setWorker alive with ⟨_, ended⟩ | ⟨_, alive⟩
    · exact absurd rfl ended
    · exact latest other alive
  | currentCommand _ => exact latest other alive
  | clearRunning _ => exact latest other alive
  | clearMotion _ => exact latest other alive
  | joinControl _ _ => exact latest other alive
  | joinCamera _ => exact latest other alive

/-- Time and harmless happenings keep a velocity in force. -/
theorem Armed.mono (armed : before.Armed config) (newer : List Happening)
    (kept : after.motion.value.deadline = none ∨ after.motion.value = before.motion.value)
    (harmless : ∀ happening ∈ newer, happening.overrides = false)
    (grown : after.history = newer ++ before.history) (later : before.clock ≤ after.clock) :
    after.Armed config := by
  -- The register is unchanged, and the newer happenings are harmless on both sides.
  intro deadline set
  rcases kept with clear | same
  · simp [clear] at set
  · rw [same] at set ⊢
    obtain ⟨connection, vx, vy, vtheta, timeoutMs, since, between, older, force, accepted, due,
      started⟩ := armed deadline set
    refine ⟨connection, vx, vy, vtheta, timeoutMs, since, newer ++ between, older, ?_, accepted,
      due, Nat.le_trans started later⟩
    exact {
      split := by rw [grown, force.split, List.append_assoc]
      harmless := by
        intro happening member
        rcases List.mem_append.mp member with member | member
        · exact harmless happening member
        · exact force.harmless happening member
      owner := force.owner }

/-- A stopped register has no deadline. -/
theorem stopMotion_deadline {motion : Mutex MotionState} (free : motion.poisoned = false) :
    (stopMotion motion).value.deadline = none := by
  -- Stopping gives the default state.
  rw [stopMotion_value free]
  rfl

/-- Reading the command keeps the register or clears its deadline. -/
theorem currentCommand_kept (motion : Mutex MotionState) (now : Instant) :
    (currentCommand motion now).2.value.deadline = none ∨
      (currentCommand motion now).2.value = motion.value := by
  -- The two branches of the register, behind a lock that may be refused.
  unfold currentCommand Mutex.lock MotionState.current
  split
  · rename_i state found
    split at found
    · cases found
    · rw [← Option.some.inj found]
      split
      · exact .inr rfl
      · exact .inl rfl
  · exact .inr rfl

/-- Handling a request arms the register with that request or keeps what is in force. -/
theorem Armed.handle (armed : before.Armed config) {connection : Connection}
    {handled : Option Handled} (owner : presentOwner before.history = some connection)
    (written : RegisterWrite config.maximumTimeout before.clock before.motion handled
      after.motion)
    (same : after.clock = before.clock)
    (grown : after.history =
      (handled.map fun what => Happening.handled connection what before.clock).toList ++
        before.history) :
    after.Armed config := by
  -- The cases follow what the request did to the register.
  generalize register : after.motion = motion at written
  cases written with
  | @velocity vx vy vtheta timeoutMs command accepted =>
    -- The deadline is the one this request has set, and the request is the latest happening.
    intro deadline set
    simp only [register, Mutex.write, Option.some.injEq] at set
    refine ⟨connection, vx, vy, vtheta, timeoutMs, before.clock, [], before.history, ?_, ?_,
      set.symm, same ▸ Nat.le_refl _⟩
    · exact { split := grown, harmless := by simp, owner := owner }
    · simpa [register, Mutex.write] using accepted
  | stop =>
    intro deadline set
    simp [register, Mutex.write, MotionState.stop] at set
  | ping =>
    -- Pings and refused requests are harmless.
    refine armed.mono _ (.inr (congrArg _ register)) ?_ grown (Nat.le_of_eq same.symm)
    simp [Happening.overrides]
  | refused request =>
    refine armed.mono _ (.inr (congrArg _ register)) ?_ grown (Nat.le_of_eq same.symm)
    simp [Happening.overrides]
  | none =>
    refine armed.mono [] (.inr (congrArg _ register)) ?_ grown
      (Nat.le_of_eq same.symm)
    simp

/-- Every step keeps the account of what is in force. -/
theorem Armed.step (armed : before.Armed config) (owned : before.Owned) (latest : before.Latest)
    (taken : Steps config before event after) : after.Armed config := by
  -- Only a handled velocity arms the register, and only then does a new account begin.
  have quiet : ∀ happening ∈ ([] : List Happening), happening.overrides = false := by simp
  have stopped := stopMotion_deadline owned.unpoisoned
  cases taken with
  | tick elapsed => exact armed.mono _ (.inr rfl) quiet rfl (Nat.le_add_right _ _)
  | signal => exact armed
  | connect =>
    exact armed.mono [_] (.inr rfl) (by simp [Happening.overrides]) rfl (Nat.le_refl _)
  | listen _ _ => exact armed
  | accept _ _ => exact armed
  | reap _ _ _ => exact armed
  | free _ _ => exact armed
  | refuse _ _ _ =>
    exact armed.mono [_] (.inr rfl) (by simp [Happening.overrides]) rfl (Nat.le_refl _)
  | reject _ _ => exact armed
  | clear _ => exact armed.mono _ (.inl stopped) quiet rfl (Nat.le_refl _)
  | @welcome newcomer was =>
    -- The register is clear at the moment of admission.
    intro deadline set
    have clear := owned.cleared newcomer was
    simp [clear, MotionState.default] at set
  | spawnFailed _ => exact armed
  | joinOwner _ _ _ => exact armed
  | joinNobody _ _ => exact armed
  | @serve connection input serve effect works served =>
    -- The worker belongs to the present owner.
    have written := serveControlClient_write owned.unpoisoned served
    exact armed.handle (latest connection ⟨_, works, by simp⟩) (by simpa using written) (by simp)
      (by rw [recordHandled_history]; rfl)
  | finalStop _ => exact armed.mono _ (.inl stopped) quiet rfl (Nat.le_refl _)
  | finish _ => exact armed
  | panic _ _ => exact armed
  | currentCommand _ => exact armed.mono _ (currentCommand_kept _ _) quiet rfl (Nat.le_refl _)
  | clearRunning _ => exact armed
  | clearMotion _ => exact armed.mono _ (.inl stopped) quiet rfl (Nat.le_refl _)
  | joinControl _ _ => exact armed
  | joinCamera _ => exact armed

/-- Every state a run reaches accounts for its owner and for what is in force. -/
structure Accounted (config : ControlConfig) (bridge : Bridge) : Prop where
  owned : bridge.Owned
  latest : bridge.Latest
  armed : bridge.Armed config

/-- The account is kept along every run. -/
theorem accounted_run {clock : Instant} {events : List BridgeEvent} {bridge : Bridge}
    (ran : Machine.run (Bridge.step config) (Bridge.start clock) events = some bridge) :
    Accounted config bridge := by
  -- The three parts hold at the start, and each step keeps them together.
  refine Machine.run_invariant (fun _ => True) (Accounted config)
    (fun state event next _ holds taken => ?_)
    (fun _ _ => trivial) ⟨owned_start clock, latest_start clock, armed_start config clock⟩ ran
  have steps := step_steps taken
  exact {
    owned := holds.owned.step steps
    latest := holds.latest.step holds.owned steps
    armed := holds.armed.step holds.owned holds.latest steps }

/-- How many velocities have been accepted so far. -/
def armings (bridge : Bridge) : Nat :=
  bridge.history.countP Happening.arms

/-- A step accepts a velocity, or it keeps the register or clears its deadline. -/
theorem Steps.arms_or_kept (owned : before.Owned) (taken : Steps config before event after) :
    before.armings < after.armings ∨
      (after.armings = before.armings ∧
        (after.motion.value.deadline = none ∨ after.motion.value = before.motion.value)) := by
  -- Only a handled request can count, and only a velocity among them does.
  have stopped := stopMotion_deadline owned.unpoisoned
  cases taken with
  | tick _ => exact .inr ⟨rfl, .inr rfl⟩
  | signal => exact .inr ⟨rfl, .inr rfl⟩
  | connect => exact .inr ⟨by simp [armings, Happening.arms], .inr rfl⟩
  | listen _ _ => exact .inr ⟨rfl, .inr rfl⟩
  | accept _ _ => exact .inr ⟨rfl, .inr rfl⟩
  | reap _ _ _ => exact .inr ⟨rfl, .inr rfl⟩
  | free _ _ => exact .inr ⟨rfl, .inr rfl⟩
  | refuse _ _ _ => exact .inr ⟨by simp [armings, Happening.arms], .inr rfl⟩
  | reject _ _ => exact .inr ⟨rfl, .inr rfl⟩
  | clear _ => exact .inr ⟨rfl, .inl stopped⟩
  | welcome _ => exact .inr ⟨by simp [armings, Happening.arms], .inr rfl⟩
  | spawnFailed _ => exact .inr ⟨rfl, .inr rfl⟩
  | joinOwner _ _ _ => exact .inr ⟨rfl, .inr rfl⟩
  | joinNobody _ _ => exact .inr ⟨rfl, .inr rfl⟩
  | @serve connection input serve effect works served =>
    have written := serveControlClient_write owned.unpoisoned served
    unfold armings
    rw [recordHandled_history, List.countP_append]
    simp only [recordHandled_motion, setWorker_motion, setWorker_history]
    -- The history grows by what was handled, if anything was.
    cases handled : effect.handled with
    | none =>
      rw [handled] at written
      generalize effect.motion = motion at written
      cases written
      exact .inr ⟨by simp, .inr rfl⟩
    | some what =>
      rw [handled] at written
      generalize effect.motion = motion at written
      cases written with
      | velocity accepted => exact .inl (by simp [Happening.arms])
      | stop => exact .inr ⟨by simp [Happening.arms], .inl rfl⟩
      | ping => exact .inr ⟨by simp [Happening.arms], .inr rfl⟩
      | refused request => exact .inr ⟨by simp [Happening.arms], .inr rfl⟩
  | finalStop _ => exact .inr ⟨rfl, .inl stopped⟩
  | finish _ => exact .inr ⟨rfl, .inr rfl⟩
  | panic _ _ => exact .inr ⟨rfl, .inr rfl⟩
  | currentCommand _ => exact .inr ⟨rfl, currentCommand_kept _ _⟩
  | clearRunning _ => exact .inr ⟨rfl, .inr rfl⟩
  | clearMotion _ => exact .inr ⟨rfl, .inl stopped⟩
  | joinControl _ _ => exact .inr ⟨rfl, .inr rfl⟩
  | joinCamera _ => exact .inr ⟨rfl, .inr rfl⟩

/-- Later states have accepted at least as much, and without more nothing sets a deadline. -/
structure Lapses (first second : Bridge) : Prop where
  counted : first.armings ≤ second.armings
  unset : second.armings = first.armings → first.motion.value.deadline = none →
    second.motion.value.deadline = none

/-- Lapsing composes. -/
theorem Lapses.trans {first second third : Bridge} (here : first.Lapses second)
    (there : second.Lapses third) : first.Lapses third where
  counted := Nat.le_trans here.counted there.counted
  unset same clear := by
    -- Equal counts at the ends pin the count in the middle.
    have middle : second.armings = first.armings :=
      Nat.le_antisymm (same ▸ there.counted) here.counted
    exact there.unset (same.trans middle.symm) (here.unset middle clear)

/-- A register without a deadline stays so until another velocity is accepted. -/
theorem lapses_run {events : List BridgeEvent} (owned : before.Owned)
    (ran : Machine.run (Bridge.step config) before events = some after) :
    before.Lapses after := by
  -- Each step either counts or keeps the register without a deadline.
  refine Machine.run_relates (fun _ => True) Owned Lapses
    (fun state => ⟨Nat.le_refl _, fun _ clear => clear⟩)
    (fun _ _ _ here there => here.trans there)
    (fun _ _ _ _ owned taken => owned.step (step_steps taken))
    (fun first event second _ owned taken => ?_) (fun _ _ => trivial) owned ran
  rcases (step_steps taken).arms_or_kept owned with counted | ⟨same, kept⟩
  · exact ⟨Nat.le_of_lt counted, fun equal => absurd equal (Nat.ne_of_gt counted)⟩
  · refine ⟨Nat.le_of_eq same.symm, fun _ clear => ?_⟩
    rcases kept with unset | unchanged
    · exact unset
    · rw [unchanged, clear]

end Bridge

/-- Reading a register with an open deadline gives its command and leaves it. -/
theorem currentCommand_open {motion : Mutex MotionState} {now deadline : Instant}
    (free : motion.poisoned = false) (set : motion.value.deadline = some deadline)
    (early : now < deadline) : currentCommand motion now = (motion.value.command, motion) := by
  -- The deadline lies ahead, so the state is not stopped.
  simp [currentCommand, lock_eq_some free, MotionState.current, set, early, Mutex.write]

/-- Reading a register without an open deadline gives zero and clears it. -/
theorem currentCommand_lapsed {motion : Mutex MotionState} {now : Instant}
    (free : motion.poisoned = false)
    (late : ∀ deadline, motion.value.deadline = some deadline → deadline ≤ now) :
    currentCommand motion now = (ScoutTwist.zero, motion.write motion.value.stop) := by
  -- No deadline, or one that has passed: both take the stopping branch.
  cases set : motion.value.deadline with
  | none => simp [currentCommand, lock_eq_some free, MotionState.current, set]
  | some deadline =>
    have passed := Nat.not_lt.mpr (late deadline set)
    simp [currentCommand, lock_eq_some free, MotionState.current, set, passed]

namespace Bridge

/-- An accepted velocity of the present owner that is in force at the clock reading of a state. -/
def Justified (config : ControlConfig) (bridge : Bridge) (command : ScoutTwist F64) : Prop :=
  ∃ connection vx vy vtheta timeoutMs since newer older,
    presentOwner bridge.history = some connection ∧
    InForce bridge.history newer older connection vx vy vtheta timeoutMs since ∧
    VelocityAccepted vx vy vtheta timeoutMs config.maximumTimeout command ∧
    since ≤ bridge.clock ∧ bridge.clock < since + Duration.fromMillis timeoutMs

/-- A command other than zero is justified. -/
theorem Accounted.justified {bridge : Bridge} (accounted : Accounted config bridge)
    (moving : (Scout.currentCommand bridge.motion bridge.clock).1 ≠ ScoutTwist.zero) :
    Justified config bridge (Scout.currentCommand bridge.motion bridge.clock).1 := by
  -- Zero comes back unless there is a deadline ahead of the clock.
  have free := accounted.owned.unpoisoned
  -- There must be a deadline, and it must lie ahead.
  have ahead : ∃ deadline, bridge.motion.value.deadline = some deadline ∧
      bridge.clock < deadline := by
    by_contra none
    refine moving (congrArg Prod.fst (currentCommand_lapsed free fun deadline set => ?_))
    exact Nat.not_lt.mp fun early => none ⟨deadline, set, early⟩
  obtain ⟨deadline, set, early⟩ := ahead
  obtain ⟨connection, vx, vy, vtheta, timeoutMs, since, newer, older, force, accepted, due,
    started⟩ := accounted.armed deadline set
  rw [currentCommand_open free set early]
  exact ⟨connection, vx, vy, vtheta, timeoutMs, since, newer, older, force.present, force,
    accepted, started, due ▸ early⟩

/-- Without panics, a command other than zero has an owner that may still write. -/
theorem Accounted.canWrite {bridge : Bridge} (accounted : Accounted config bridge)
    (rest : bridge.AtRest)
    (moving : (Scout.currentCommand bridge.motion bridge.clock).1 ≠ ScoutTwist.zero) :
    ∃ connection, presentOwner bridge.history = some connection ∧ bridge.CanWrite connection := by
  -- With nobody left to write, the register would be clear and zero would come back.
  by_contra none
  have idle : ∀ connection, ¬ bridge.CanWrite connection := by
    intro connection writes
    exact none ⟨connection, accounted.latest connection writes.live, writes⟩
  refine moving (congrArg Prod.fst (currentCommand_lapsed accounted.owned.unpoisoned ?_))
  intro deadline set
  simp [rest idle, MotionState.default] at set

/-- A command other than zero is one accepted velocity of the present owner within its lifetime,
and once a deadline has been seen to pass, zero is returned until another velocity is accepted. -/
theorem deadman_safety {clock : Instant} {events : List BridgeEvent} {bridge : Bridge}
    (ran : Machine.run (Bridge.step config) (Bridge.start clock) events = some bridge) :
    ((Scout.currentCommand bridge.motion bridge.clock).1 ≠ ScoutTwist.zero →
      Justified config bridge (Scout.currentCommand bridge.motion bridge.clock).1 ∧
      ((∀ event ∈ events, isPanic event = false) →
        ∃ connection, presentOwner bridge.history = some connection ∧
          bridge.CanWrite connection)) ∧
    (∀ deadline, bridge.motion.value.deadline = some deadline → deadline ≤ bridge.clock →
      (Scout.currentCommand bridge.motion bridge.clock).1 = ScoutTwist.zero ∧
      ∀ read later further, Bridge.step config bridge .currentCommand = some read →
        Machine.run (Bridge.step config) read further = some later →
        later.armings = read.armings →
        (Scout.currentCommand later.motion later.clock).1 = ScoutTwist.zero) := by
  -- The first half reads the account, and the second follows the lapsed register onwards.
  have accounted := accounted_run ran
  have free := accounted.owned.unpoisoned
  constructor
  · intro moving
    refine ⟨accounted.justified moving, fun orderly => ?_⟩
    exact accounted.canWrite (atRest_run orderly ran) moving
  · intro deadline set passed
    have late : ∀ other, bridge.motion.value.deadline = some other → other ≤ bridge.clock := by
      intro other same
      rw [set, Option.some.injEq] at same
      exact same ▸ passed
    refine ⟨congrArg Prod.fst (currentCommand_lapsed free late), ?_⟩
    intro read later further taken onwards same
    -- The reading has cleared the register, which stays clear until a velocity is accepted.
    have owned := accounted.owned.step (step_steps taken)
    have unset : read.motion.value.deadline = none := by
      simp only [Bridge.step] at taken
      split at taken
      · rw [← Option.some.inj taken, currentCommand_lapsed free late]
        rfl
      · cases taken
    have still := (lapses_run owned onwards).unset same unset
    have laterOwned := (accounted_run
      (Machine.run_append.mpr ⟨bridge, ran, Machine.run_cons.mpr ⟨read, taken, onwards⟩⟩)).owned
    refine congrArg Prod.fst (currentCommand_lapsed laterOwned.unpoisoned ?_)
    intro other found
    simp [still] at found

/-- A bridge on which every line asks for the same slow advance over a fifth of a second. -/
def slowAdvance : ControlConfig where
  parse _ := .ok (.velocity (Scalar.ofRat (1 / 10)) Scalar.zero Scalar.zero 200)
  maximumTimeout := Duration.fromSecs 1

/-- The first client is admitted and has one line handled. -/
def armingRun : List BridgeEvent :=
  [.connect, .listener .proceed, .listener .accepted, .listener .proceed, .listener .proceed,
    .listener (.io true), .worker 0 (.io true), .worker 0 (.io true), .worker 0 (.io true),
    .worker 0 .proceed, .worker 0 (.read (.data [newline])), .worker 0 .proceed]

/-- The advance is in force after its line, and lapses for good when its time has passed. -/
theorem deadman_safety_slowAdvance :
    ∃ moving lapsed read, Machine.run (Bridge.step slowAdvance) (Bridge.start 0) armingRun =
        some moving ∧
      Justified slowAdvance moving (Scout.currentCommand moving.motion moving.clock).1 ∧
      Machine.run (Bridge.step slowAdvance) (Bridge.start 0)
        (armingRun ++ [.tick (Duration.fromMillis 200)]) = some lapsed ∧
      Bridge.step slowAdvance lapsed .currentCommand = some read ∧
      ∀ further later, Machine.run (Bridge.step slowAdvance) read further = some later →
        later.armings = read.armings →
        (Scout.currentCommand later.motion later.clock).1 = ScoutTwist.zero := by
  -- Both runs are evaluated, and the theorem is applied to the states they end in.
  have arms : ((Machine.run (Bridge.step slowAdvance) (Bridge.start 0) armingRun).any fun moving =>
      (Scout.currentCommand moving.motion moving.clock).1 != ScoutTwist.zero) = true := by
    decide +kernel
  have lapses : ((Machine.run (Bridge.step slowAdvance) (Bridge.start 0)
      (armingRun ++ [.tick (Duration.fromMillis 200)])).any fun lapsed =>
      (Bridge.step slowAdvance lapsed .currentCommand).isSome &&
        lapsed.motion.value.deadline.any (· ≤ lapsed.clock)) = true := by
    decide +kernel
  obtain ⟨moving, ran, nonzero⟩ := (Option.any_eq_true _ _).mp arms
  obtain ⟨lapsed, ended, read⟩ := (Option.any_eq_true _ _).mp lapses
  obtain ⟨enabled, passed⟩ := Bool.and_eq_true_iff.mp read
  obtain ⟨read, taken⟩ := Option.isSome_iff_exists.mp enabled
  obtain ⟨deadline, set, passed⟩ := (Option.any_eq_true _ _).mp passed
  have justified := ((deadman_safety ran).1 (bne_iff_ne.mp nonzero)).1
  have later := ((deadman_safety ended).2 deadline set (of_decide_eq_true passed)).2
  exact ⟨moving, lapsed, read, ran, justified, ended, taken,
    fun further after ran same => later read after further taken ran same⟩

end Bridge
end Scout
