import Scout.Machine.Run
import Scout.Motion.Loop

/-! Sending one velocity for a bounded time, as drive and move do. -/

namespace Scout

/-- How long to wait before the next command: a period, but not beyond the deadline. -/
def nextMotionWait (period : Duration) (now deadline : Instant) : Option Duration :=
  ((Duration.since deadline now).filter fun remaining => remaining ≠ 0).map fun remaining =>
    min period remaining

/-- What is sent, for how long, and how often. -/
structure MotionRequest where
  velocity : Velocity F64
  duration : Duration
  rateHz : F64

namespace MotionRequest

/-- The request of a drive command. -/
def drive (forward lateral yaw : F64) (durationMs : Nat) (rateHz : F64) : MotionRequest where
  velocity := Velocity.new forward lateral yaw
  duration := Duration.fromMillis durationMs
  rateHz := rateHz

/-- The request of a move command, or its error, where none stands for a panic. -/
def moveVelocity (vx vy vtheta seconds rateHz : F64) : Option (Except String MotionRequest) :=
  if !seconds.isFinite ∨ seconds ≤ Scalar.zero ∨ Scalar.ofRat 60 < seconds then
    some (.error "--seconds must be finite, greater than zero, and no more than 60")
  else
    (Duration.fromSecsF64 seconds).map fun duration =>
      .ok { velocity := Velocity.new vx vy vtheta, duration, rateHz }

/-- The command of a request whose arguments pass their checks. -/
def command (request : MotionRequest) : Except String (ScoutTwist F64) :=
  if request.duration = 0 then .error "motion duration must be greater than zero"
  else if Duration.fromSecs 60 < request.duration then
    .error "motion duration may not exceed 60 seconds in this safety-oriented CLI"
  else if !request.rateHz.isFinite ∨ ¬ (Scalar.one ≤ request.rateHz ∧
      request.rateHz ≤ Scalar.ofRat 100) then
    .error "--rate-hz must be finite and between 1 and 100"
  else if request.velocity.eqv Velocity.default then
    .error "motion command cannot be [0, 0, 0] (for example: moorebot-scout move 0.1 0 0)"
  else (request.velocity.toScoutTwist MotionLimits.default).mapError MotionError.display

end MotionRequest

/-- The command to repeat, the time between two of them, and when to stop. -/
structure MotionPlan where
  command : ScoutTwist F64
  period : Duration
  deadline : Instant

/-- Where sending a velocity stands between two of its effects. -/
inductive SendVelocityPhase where
  | checking
  /-- The robot, the interrupt handler and the motor controller are being set up. -/
  | preparing (command : ScoutTwist F64)
  | starting (command : ScoutTwist F64)
  | testing (plan : MotionPlan)
  /-- The command is handed over, after this reading of the clock. -/
  | sending (plan : MotionPlan) (reading : Instant)
  | waiting (plan : MotionPlan)
  | parked (plan : MotionPlan)
  | stopping (sendError : Option String)
  | returned (result : Outcome)

/-- What is recorded about sending a velocity. -/
inductive MotionHappening where
  | started (now : Instant)
  /-- A command is handed over, in an iteration with this reading of the clock. -/
  | sent (twist : ScoutTwist F64) (reading : Option Instant)
  /-- A wait is asked for at a reading of the clock. -/
  | waited (now : Instant) (wait : Duration)

/-- The running flag, the position, and the record, the latest first. -/
structure SendVelocity where
  running : Bool
  phase : SendVelocityPhase
  history : List MotionHappening

/-- One step of the loop, or an interrupt. -/
inductive SendVelocityEvent where
  | interrupt
  | main (input : LoopInput)

/-- The commands that have been handed over, the latest first. -/
def sentTwists (history : List MotionHappening) : List (ScoutTwist F64) :=
  history.filterMap fun
    | .sent twist _ => some twist
    | _ => none

namespace SendVelocity

/-- Nothing has been done. -/
def start : SendVelocity where
  running := true
  phase := .checking
  history := []

/-- Move to another phase. -/
def goto (loop : SendVelocity) (phase : SendVelocityPhase) : SendVelocity :=
  { loop with phase }

/-- Add to the record. -/
def record (loop : SendVelocity) (happening : MotionHappening) : SendVelocity :=
  { loop with history := happening :: loop.history }

/-- One effect of the function that sends a velocity. -/
def sendVelocity (request : MotionRequest) (loop : SendVelocity) (input : LoopInput) :
    Option SendVelocity :=
  match loop.phase, input with
  | .checking, .proceed =>
    match request.command with
    | .ok command => some (loop.goto (.preparing command))
    | .error error => some (loop.goto (.returned (.error error)))
  | .preparing command, .outcome result =>
    match result with
    | .ok () => some (loop.goto (.starting command))
    | .error error => some (loop.goto (.returned (.error error)))
  -- The deadline is fixed once, before the loop.
  | .starting command, .clock now =>
    (Duration.fromSecsF64 (Scalar.one / request.rateHz)).map fun period =>
      (loop.record (.started now)).goto
        (.testing { command, period, deadline := now + request.duration })
  | .testing plan, .clock now =>
    -- The clock is read anew in every iteration.
    if loop.running ∧ now < plan.deadline then some (loop.goto (.sending plan now))
    else some (loop.goto (.stopping none))
  | .sending plan reading, .outcome result =>
    -- Also a command that fails to be sent may have been received.
    let handed := loop.record (.sent plan.command (some reading))
    match result with
    | .ok () => some (handed.goto (.waiting plan))
    | .error error => some (handed.goto (.stopping (some error)))
  | .waiting plan, .clock now =>
    match nextMotionWait plan.period now plan.deadline with
    | some wait => some ((loop.record (.waited now wait)).goto (.parked plan))
    -- No time is left to wait for.
    | none => some (loop.goto (.stopping none))
  | .parked plan, .proceed => some (loop.goto (.testing plan))
  -- The stop is sent however the loop was left.
  | .stopping sendError, .outcome result =>
    some ((loop.record (.sent ScoutTwist.zero none)).goto
      (.returned (loopResult sendError result)))
  | _, _ => none

/-- One step of the loop, or the interrupt handler clearing the running flag. -/
def step (request : MotionRequest) (loop : SendVelocity) :
    SendVelocityEvent → Option SendVelocity
  | .interrupt => some { loop with running := false }
  | .main input => sendVelocity request loop input

end SendVelocity

/-- Every wait ends at the deadline or before it. -/
theorem nextMotionWait_le {period : Duration} {now deadline : Instant} {wait : Duration}
    (asked : nextMotionWait period now deadline = some wait) : now + wait ≤ deadline := by
  -- The wait is at most what is left.
  obtain ⟨remaining, left, rfl⟩ := Option.map_eq_some_iff.mp asked
  obtain ⟨left, _⟩ := Option.filter_eq_some_iff.mp left
  unfold Duration.since at left
  split at left
  · -- The deadline lies ahead, and the wait is cut off there.
    rename_i ahead
    cases left
    have shorter := Nat.min_le_right period (deadline - now)
    exact (Nat.add_le_add_left shorter now).trans (Nat.add_sub_cancel' ahead).le
  · cases left

/-- The command of a request that passes its checks is safe. -/
theorem MotionRequest.command_safe {request : MotionRequest} {command : ScoutTwist F64}
    (passed : request.command = .ok command) : command.Safe := by
  -- Each check that fails is an error, and the last step is the clamped mapping.
  unfold MotionRequest.command at passed
  split at passed
  · cases passed
  · split at passed
    · cases passed
    · split at passed
      · cases passed
      · split at passed
        · cases passed
        · cases mapped : request.velocity.toScoutTwist MotionLimits.default with
          | error problem =>
            rw [mapped] at passed
            cases passed
          | ok twist =>
            rw [mapped] at passed
            cases passed
            exact toScoutTwist_safe mapped

namespace SendVelocityPhase

/-- No command has been handed over in this phase. -/
def Early : SendVelocityPhase → Prop
  | .checking => True
  | .preparing _ => True
  | .starting _ => True
  | _ => False

/-- The function has returned. -/
def Returned : SendVelocityPhase → Prop
  | .returned _ => True
  | _ => False

end SendVelocityPhase

/-- A recorded event respects a deadline. -/
def MotionHappening.Timely (deadline : Instant) : MotionHappening → Prop
  | .started _ => False
  | .sent _ (some reading) => reading < deadline
  | .sent twist none => twist = ScoutTwist.zero
  | .waited now wait => now + wait ≤ deadline

/-- A record begins with the start, and everything after it respects the deadline. -/
def KeepsDeadline (duration : Duration) (deadline : Instant) (history : List MotionHappening) :
    Prop :=
  ∃ start newer, history = newer ++ [.started start] ∧ start + duration = deadline ∧
    ∀ happening ∈ newer, happening.Timely deadline

/-- One more timely event keeps the deadline. -/
theorem KeepsDeadline.cons {duration : Duration} {deadline : Instant}
    {history : List MotionHappening} (keeps : KeepsDeadline duration deadline history)
    {happening : MotionHappening} (timely : happening.Timely deadline) :
    KeepsDeadline duration deadline (happening :: history) := by
  -- The start stays at the far end.
  obtain ⟨start, newer, rfl, same, all⟩ := keeps
  exact ⟨start, happening :: newer, rfl, same, List.forall_mem_cons.mpr ⟨timely, all⟩⟩

namespace SendVelocity

/-- What the phase and the record agree on. -/
def Sound (request : MotionRequest) (history : List MotionHappening) : SendVelocityPhase → Prop
  | .checking => history = []
  | .preparing command => history = [] ∧ command.Safe
  | .starting command => history = [] ∧ command.Safe
  | .testing plan => KeepsDeadline request.duration plan.deadline history ∧ plan.command.Safe
  | .sending plan reading => (KeepsDeadline request.duration plan.deadline history ∧
      plan.command.Safe) ∧ reading < plan.deadline
  | .waiting plan => KeepsDeadline request.duration plan.deadline history ∧ plan.command.Safe
  | .parked plan => KeepsDeadline request.duration plan.deadline history ∧ plan.command.Safe
  | .stopping _ => ∃ deadline, KeepsDeadline request.duration deadline history
  | .returned _ => history = [] ∨ ∃ deadline, KeepsDeadline request.duration deadline history

/-- The record is sound, and its commands are governed. -/
structure Orderly (request : MotionRequest) (loop : SendVelocity) : Prop where
  sound : Sound request loop.history loop.phase
  governed : Governed (sentTwists loop.history) loop.phase.Early loop.phase.Returned

/-- In every phase the record respects the deadline that its start has set. -/
theorem Orderly.keepsDeadline {request : MotionRequest} {loop : SendVelocity}
    (orderly : Orderly request loop) : loop.history = [] ∨ ∃ start newer,
      loop.history = newer ++ [.started start] ∧
        ∀ happening ∈ newer, happening.Timely (start + request.duration) := by
  -- Before the start nothing is recorded, and afterwards the phase knows the deadline.
  have sound := orderly.sound
  have named : ∀ deadline, KeepsDeadline request.duration deadline loop.history →
      loop.history = [] ∨ ∃ start newer, loop.history = newer ++ [.started start] ∧
        ∀ happening ∈ newer, happening.Timely (start + request.duration) := by
    intro deadline ⟨start, newer, split, same, timely⟩
    -- The record names its start, from which the deadline follows.
    exact .inr ⟨start, newer, split, same ▸ timely⟩
  cases was : loop.phase with
  | checking =>
    rw [was] at sound
    exact .inl sound
  | preparing command =>
    rw [was] at sound
    exact .inl sound.1
  | starting command =>
    rw [was] at sound
    exact .inl sound.1
  | testing plan =>
    rw [was] at sound
    exact named _ sound.1
  | sending plan reading =>
    rw [was] at sound
    exact named _ sound.1.1
  | waiting plan =>
    rw [was] at sound
    exact named _ sound.1
  | parked plan =>
    rw [was] at sound
    exact named _ sound.1
  | stopping sendError =>
    rw [was] at sound
    obtain ⟨deadline, keeps⟩ := sound
    exact named deadline keeps
  | returned result =>
    rw [was] at sound
    rcases sound with empty | ⟨deadline, keeps⟩
    · exact .inl empty
    · exact named deadline keeps

/-- Nothing has been recorded at the beginning. -/
theorem orderly_start (request : MotionRequest) : Orderly request start where
  sound := rfl
  governed := governed_nil

/-- Every step of the loop keeps it orderly. -/
theorem Orderly.step {request : MotionRequest} {before after : SendVelocity}
    {event : SendVelocityEvent} (orderly : Orderly request before)
    (taken : before.step request event = some after) : Orderly request after := by
  -- The cases follow the phases: each passes its facts on to the next one.
  obtain ⟨sound, governed⟩ := orderly
  cases event with
  | interrupt =>
    -- Only the running flag changes.
    cases taken
    exact ⟨sound, governed⟩
  | main input =>
    obtain ⟨running, phase, history⟩ := before
    simp only [SendVelocity.step, sendVelocity] at taken
    cases phase with
    | checking =>
      cases input with
      | proceed =>
        simp only at taken
        -- The command is safe if the arguments pass their checks.
        cases passed : request.command with
        | ok command =>
          rw [passed] at taken
          cases taken
          exact ⟨⟨sound, MotionRequest.command_safe passed⟩,
            governed.goto (fun _ => trivial) (fun now => now.elim)⟩
        | error error =>
          rw [passed] at taken
          cases taken
          exact ⟨.inl sound, governed.quit trivial id⟩
      | _ => cases taken
    | preparing command =>
      cases input with
      | outcome result =>
        cases result with
        | ok _ =>
          cases taken
          exact ⟨sound, governed.goto (fun _ => trivial) (fun now => now.elim)⟩
        | error error =>
          cases taken
          exact ⟨.inl sound.1, governed.quit trivial id⟩
      | _ => cases taken
    | starting command =>
      cases input with
      | clock now =>
        obtain ⟨period, _, rfl⟩ := Option.map_eq_some_iff.mp taken
        -- The record begins here, and with it the deadline.
        obtain ⟨rfl, safe⟩ := sound
        exact ⟨⟨⟨now, [], rfl, rfl, fun _ member => absurd member List.not_mem_nil⟩, safe⟩,
          governed.onward id id⟩
      | _ => cases taken
    | testing plan =>
      cases input with
      | clock now =>
        simp only at taken
        -- A command is sent only before the deadline.
        by_cases goes : running = true ∧ now < plan.deadline
        · rw [if_pos goes] at taken
          cases taken
          exact ⟨⟨sound, goes.2⟩, governed.onward id id⟩
        · rw [if_neg goes] at taken
          cases taken
          exact ⟨⟨_, sound.1⟩, governed.onward id id⟩
      | _ => cases taken
    | sending plan reading =>
      cases input with
      | outcome result =>
        -- The command was decided on before the deadline.
        obtain ⟨⟨keeps, safe⟩, early⟩ := sound
        have timely : MotionHappening.Timely plan.deadline (.sent plan.command (some reading)) :=
          early
        have kept := keeps.cons timely
        cases result with
        | ok _ =>
          cases taken
          exact ⟨⟨kept, safe⟩, governed.send safe id id⟩
        | error error =>
          cases taken
          exact ⟨⟨_, kept⟩, governed.send safe id id⟩
      | _ => cases taken
    | waiting plan =>
      cases input with
      | clock now =>
        simp only at taken
        -- The wait ends by the deadline.
        cases asked : nextMotionWait plan.period now plan.deadline with
        | some wait =>
          rw [asked] at taken
          cases taken
          exact ⟨⟨sound.1.cons (nextMotionWait_le asked), sound.2⟩, governed.onward id id⟩
        | none =>
          rw [asked] at taken
          cases taken
          exact ⟨⟨_, sound.1⟩, governed.onward id id⟩
      | _ => cases taken
    | parked plan =>
      cases input with
      | proceed =>
        cases taken
        exact ⟨sound, governed.onward id id⟩
      | _ => cases taken
    | stopping sendError =>
      cases input with
      | outcome result =>
        cases taken
        -- Only the stop may be recorded at any time.
        obtain ⟨deadline, keeps⟩ := sound
        exact ⟨.inr ⟨deadline, keeps.cons rfl⟩, governed.halt (fun now => now.elim)⟩
      | _ => cases taken
    | returned result => cases input <;> cases taken

/-- Whatever happens, sending a velocity stays orderly. -/
theorem orderly_run {request : MotionRequest} {events : List SendVelocityEvent}
    {loop : SendVelocity} (ran : Machine.run (step request) start events = some loop) :
    Orderly request loop := by
  -- The loop is orderly at the start, and every step keeps it so.
  refine Machine.run_invariant (fun _ => True) (Orderly request) ?_ (fun _ _ => trivial)
    (orderly_start request) ran
  intro before event after _ orderly taken
  exact orderly.step taken

end SendVelocity
end Scout
