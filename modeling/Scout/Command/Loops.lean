import Scout.Command.Custody

/-! The loops that move the robot, driven step by step inside a command. -/

namespace Scout

/-- A list of commands has stayed the same, or one command has been put in front of it. -/
def Grows (before after : List (ScoutTwist F64)) : Prop :=
  after = before ∨ ∃ twist, after = twist :: before

namespace SendVelocity

/-- One step of sending a velocity hands over one command at most. -/
theorem step_grows {request : MotionRequest} {before after : SendVelocity}
    {event : SendVelocityEvent} (taken : before.step request event = some after) :
    Grows (sentTwists before.history) (sentTwists after.history) := by
  -- The cases follow the branches of the function.
  cases event with
  | interrupt =>
    cases taken
    exact .inl rfl
  | main input =>
    unfold step sendVelocity at taken
    dsimp only at taken
    split at taken
    · split at taken <;> cases taken <;> exact .inl rfl
    · split at taken <;> cases taken <;> exact .inl rfl
    · obtain ⟨period, _, rfl⟩ := Option.map_eq_some_iff.mp taken
      exact .inl rfl
    · split at taken <;> cases taken <;> exact .inl rfl
    · split at taken <;> cases taken <;> exact .inr ⟨_, rfl⟩
    · split at taken <;> cases taken <;> exact .inl rfl
    · cases taken
      exact .inl rfl
    · cases taken
      exact .inr ⟨_, rfl⟩
    · cases taken

end SendVelocity

namespace Teleop

variable {args : TeleopArgs} {before after : Teleop}

/-- Acting on a key hands over no command by itself. -/
theorem handle_sent (loop : Teleop) (period : Duration) (key : KeyEvent) (now : Instant) :
    (loop.handle args period key now).sent = loop.sent := by
  -- The cases are those of the action.
  unfold handle
  rcases loop.control.handleKey key now with ⟨action, control⟩
  cases action <;> rfl

/-- Making a command does not hand it over yet. -/
theorem publish_sent (loop : Teleop) (now : Instant) :
    (loop.publish args now).sent = loop.sent := by
  -- Whether the command is due and can be made, nothing is handed over.
  unfold publish
  split
  · dsimp only
    split <;> rfl
  · rfl

/-- One step of teleoperation hands over one command at most. -/
theorem step_grows {event : TeleopEvent} (taken : before.step args event = some after) :
    Grows before.sent after.sent := by
  -- The cases follow the branches of the function.
  cases event with
  | interrupt =>
    cases taken
    exact .inl rfl
  | main input =>
    unfold step teleop at taken
    dsimp only at taken
    split at taken
    · split at taken <;> cases taken <;> exact .inl rfl
    · split at taken <;> cases taken <;> exact .inl rfl
    · split at taken <;> cases taken <;> exact .inl rfl
    · cases taken
      exact .inl rfl
    · cases taken
      exact .inr ⟨_, sent_continue _ _ _⟩
    · cases taken
      exact .inl rfl
    · obtain ⟨period, _, rfl⟩ := Option.map_eq_some_iff.mp taken
      exact .inl rfl
    · cases taken
      exact .inl (sent_continue _ _ _)
    · cases taken
      exact .inl (sent_continue _ _ _)
    · cases taken
      exact .inl (handle_sent _ _ _ _)
    · cases taken
      exact .inr ⟨_, sent_continue _ _ _⟩
    · cases taken
      exact .inl (sent_continue _ _ _)
    · cases taken
      exact .inl rfl
    · cases taken
      exact .inl (sent_continue _ _ _)
    · cases taken
      exact .inl rfl
    · cases taken
      exact .inl (publish_sent _ _)
    · split at taken
      · obtain ⟨period, _, rfl⟩ := Option.map_eq_some_iff.mp taken
        exact .inr ⟨_, rfl⟩
      · cases taken
        exact .inr ⟨_, rfl⟩
    · cases taken
      exact .inr ⟨_, rfl⟩
    · cases taken

end Teleop

namespace PublishLoop

variable {args : BridgeArgs} {before after : PublishLoop}

/-- Going on hands over nothing. -/
theorem tryOutcome_sent (loop : PublishLoop) (result : Outcome) (next : PublishPhase) :
    (loop.tryOutcome result next).sent = loop.sent := by
  cases result <;> rfl

/-- One effect while the bridge runs hands over one command at most. -/
theorem runBridge_grows {bridge : Bridge} {input : LoopInput}
    (taken : before.runBridge bridge input = some after) : Grows before.sent after.sent := by
  -- The cases follow the branches of the function.
  unfold runBridge at taken
  split at taken
  · cases taken
    exact .inr ⟨_, tryOutcome_sent _ _ _⟩
  · cases taken
    exact .inl rfl
  · cases taken
    exact .inl rfl
  · split at taken <;> cases taken <;> exact .inr ⟨_, rfl⟩
  · cases taken
    exact .inl rfl
  · cases taken
    exact .inl rfl
  · cases taken
    exact .inr ⟨_, rfl⟩
  · split at taken
    · cases taken
      exact .inl rfl
    · obtain ⟨later, _, rfl⟩ := Option.map_eq_some_iff.mp taken
      exact .inl rfl
  · cases taken

/-- One step of the publish loop hands over one command at most. -/
theorem step_grows {parse : Bytes → Except String ControlRequest} {event : PublishEvent}
    (taken : before.step args parse event = some after) : Grows before.sent after.sent := by
  -- Other threads hand over nothing.
  cases event with
  | interrupt =>
    cases taken
    exact .inl rfl
  | threads event =>
    unfold step runThreads at taken
    dsimp only at taken
    split at taken
    · cases taken
    · cases taken
    · obtain ⟨bridge, _, taken⟩ := Option.bind_eq_some_iff.mp taken
      obtain ⟨later, _, rfl⟩ := Option.map_eq_some_iff.mp taken
      exact .inl rfl
  | main input =>
    unfold step integrationBridge at taken
    dsimp only at taken
    split at taken
    · cases taken
      exact .inl (tryOutcome_sent _ _ _)
    · cases taken
      exact .inl (tryOutcome_sent _ _ _)
    · cases taken
      exact .inl rfl
    · cases taken
      exact .inl rfl
    · obtain ⟨period, _, rfl⟩ := Option.map_eq_some_iff.mp taken
      exact .inl (tryOutcome_sent _ _ _)
    · obtain ⟨bridge, _, taken⟩ := Option.bind_eq_some_iff.mp taken
      exact runBridge_grows taken

end PublishLoop
namespace Command

open Machine Dialogue

/-- A loop that hands over commands, as a machine that is driven from its start. -/
structure MotorLoop where
  State : Type
  Input : Type
  step : State → Input → Option State
  start : State
  /-- The commands that have been handed over, the latest first. -/
  sent : State → List (ScoutTwist F64)
  event : Input → LoopEvent
  input : LoopEvent → Option Input
  /-- One step hands over one command at most. -/
  grows : ∀ {before after : State} {input : Input}, step before input = some after →
    Grows (sent before) (sent after)

/-- The loop of drive and move. -/
def velocityLoop (request : MotionRequest) : MotorLoop where
  State := SendVelocity
  Input := SendVelocityEvent
  step := SendVelocity.step request
  start := SendVelocity.start
  sent loop := sentTwists loop.history
  event := .velocity
  input
    | .velocity event => some event
    | _ => none
  grows := SendVelocity.step_grows

/-- The loop of teleoperation. -/
def teleopLoop (args : TeleopArgs) : MotorLoop where
  State := Teleop
  Input := TeleopEvent
  step := Teleop.step args
  start := Teleop.start
  sent := Teleop.sent
  event := .teleop
  input
    | .teleop event => some event
    | _ => none
  grows := Teleop.step_grows

/-- The loop of the bridge. -/
def publishLoop (args : BridgeArgs) (parse : Bytes → Except String ControlRequest) :
    MotorLoop where
  State := PublishLoop
  Input := PublishEvent
  step := PublishLoop.step args parse
  start := PublishLoop.start
  sent := PublishLoop.sent
  event := .publish
  input
    | .publish event => some event
    | _ => none
  grows := PublishLoop.step_grows

namespace MotorLoop

variable (loop : MotorLoop)

/-- Drive a loop until it has come as far as it should. -/
def drive {ε : Type} (finished : loop.State → Bool) (state : loop.State) :
    CommandM ε loop.State :=
  Dialogue.drive loop.step
    (fun answer =>
      match answer with
      | .loop event => loop.input event
      | _ => none)
    (fun before input after =>
      .looped (loop.event input) (handedOver (loop.sent before) (loop.sent after)))
    finished state

/-- A loop can be in a state. -/
def Reached (state : loop.State) : Prop :=
  ∃ inputs, run loop.step loop.start inputs = some state

/-- A state that has been reached may be gone on from. -/
theorem Reached.step {loop : MotorLoop} {state next : loop.State} {input : loop.Input}
    (reached : loop.Reached state) (taken : loop.step state input = some next) :
    loop.Reached next := by
  obtain ⟨inputs, ran⟩ := reached
  exact ⟨inputs ++ [input], run_append.mpr ⟨state, ran, by simp [run, taken]⟩⟩

end MotorLoop

/-- The last command that was handed over is no stop. -/
def movingAfter (sent : List (ScoutTwist F64)) : Bool :=
  sent.head?.any fun twist => decide (twist ≠ ScoutTwist.zero)

/-- Where a list of commands has grown, its first one has been handed over. -/
theorem handedOver_of_grows {before after : List (ScoutTwist F64)} (grows : Grows before after) :
    handedOver before after = none ∧ after = before ∨
      ∃ twist, handedOver before after = some twist ∧ after = twist :: before := by
  -- The lengths tell the cases apart.
  rcases grows with rfl | ⟨twist, rfl⟩
  · exact .inl ⟨by simp [handedOver], rfl⟩
  · exact .inr ⟨twist, by simp [handedOver], rfl⟩

/-- Once a loop has ended in a stop, the robot does not move. -/
theorem movingAfter_of_endsInStop {sent : List (ScoutTwist F64)} (ends : EndsInStop sent) :
    movingAfter sent = false := by
  -- A command that comes last is a stop.
  cases sent with
  | nil => rfl
  | cons twist rest =>
    by_cases still : twist = ScoutTwist.zero
    · simp [movingAfter, still]
    · have last := ends ⟨twist, List.mem_cons_self, still⟩
      exact absurd (Option.some.inj last) still

/-- A loop stands in a state it can be in, with the publisher that is held having been heard. -/
def MotorLoop.Stands (loop : MotorLoop) (held : List Holding) (state : loop.State)
    (place : Custody) : Prop :=
  place = ⟨held, true, movingAfter (loop.sent state)⟩ ∧ loop.Reached state

/-- While a loop is driven, the robot moves if the last command was no stop. -/
theorem MotorLoop.leads_drive {ε : Type} (loop : MotorLoop) {finished : loop.State → Bool}
    {held : List Holding} (published : .publisher cmdVel ∈ held) {state : loop.State}
    (reached : loop.Reached state) {Failed : ε → Custody → Prop} :
    Leads ⟨held, true, movingAfter (loop.sent state)⟩ (loop.drive finished state : CommandM ε _)
      (fun next place => loop.Stands held next place ∧ finished next = true) Failed := by
  -- Each step is allowed, as the publisher that is held has been heard.
  have driven : Follows Custody.rule (loop.Stands held state)
      (loop.drive finished state : CommandM ε _)
      (fun next place => loop.Stands held next place ∧ finished next = true) Failed := by
    refine tracks_drive ?_ state
    rintro state input next place _ ⟨rfl, was⟩ taken
    rcases handedOver_of_grows (loop.grows taken) with ⟨none, same⟩ | ⟨twist, handed, more⟩
    · exact ⟨_, along_one (by rw [none]; rfl), by rw [same], was.step taken⟩
    · have moved : Custody.rule ⟨held, true, movingAfter (loop.sent state)⟩
          (.looped (loop.event input) (some twist)) =
            some ⟨held, true, decide (twist ≠ ScoutTwist.zero)⟩ := if_pos ⟨published, rfl⟩
      exact ⟨_, along_one (by rw [handed]; exact moved), by simp [more, movingAfter],
        was.step taken⟩
  exact driven.mono (fun place same => ⟨same, reached⟩) (fun _ _ settled => settled)
    fun _ _ settled => settled

end Command
end Scout
