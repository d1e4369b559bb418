import Scout.Bridge.PublishLoop
import Scout.Motion.SendVelocity
import Scout.Teleop.Session

/-! Every loop that moves the robot stays within the limits and ends in a stop. -/

namespace Scout

/-- Whatever happens to them, all three loops command safe motion and stop the robot last. -/
theorem loops_end_in_stop :
    (∀ (request : MotionRequest) (events : List SendVelocityEvent) (loop : SendVelocity),
      Machine.run (SendVelocity.step request) SendVelocity.start events = some loop →
        (∀ twist ∈ sentTwists loop.history, twist.Safe) ∧
        (loop.phase.Returned → EndsInStop (sentTwists loop.history)) ∧
        -- Every command and every wait is in time for the deadline that the start has set.
        (loop.history = [] ∨ ∃ start newer, loop.history = newer ++ [.started start] ∧
          ∀ happening ∈ newer, happening.Timely (start + request.duration))) ∧
    (∀ (args : TeleopArgs) (events : List TeleopEvent) (loop : Teleop),
      Machine.run (Teleop.step args) Teleop.start events = some loop →
        (∀ twist ∈ loop.sent, twist.Safe) ∧ (loop.phase.Returned → EndsInStop loop.sent)) ∧
    (∀ (args : BridgeArgs) (parse : Bytes → Except String ControlRequest)
      (events : List PublishEvent) (loop : PublishLoop),
      Machine.run (PublishLoop.step args parse) PublishLoop.start events = some loop →
        (∀ twist ∈ loop.sent, twist.Safe) ∧ (loop.phase.Final → EndsInStop loop.sent)) := by
  -- Each loop's invariant gives its part.
  refine ⟨fun request events loop ran => ?_, fun args events loop ran => ?_,
    fun args parse events loop ran => ?_⟩
  · have orderly := SendVelocity.orderly_run ran
    exact ⟨orderly.governed.safe, orderly.governed.stopped, orderly.keepsDeadline⟩
  · have orderly := Teleop.orderly_run ran
    exact ⟨orderly.governed.safe, orderly.governed.stopped⟩
  · have orderly := PublishLoop.orderly_run ran
    exact ⟨orderly.governed.safe, orderly.governed.stopped⟩

/-- The test whether the function has returned. -/
def SendVelocityPhase.isReturned : SendVelocityPhase → Bool
  | .returned _ => true
  | _ => false

/-- A request to drive forward slowly for a second. -/
def slowDrive : MotionRequest :=
  .drive (Scalar.ofRat (1 / 10)) Scalar.zero Scalar.zero 1000 (Scalar.ofRat 20)

/-- A run that is interrupted during its first wait. -/
def interruptedRun : List SendVelocityEvent :=
  [.main .proceed, .main (.outcome (.ok ())), .main (.clock 0), .main (.clock 10),
    .main (.outcome (.ok ())), .main (.clock 20), .interrupt, .main .proceed, .main (.clock 30),
    .main (.outcome (.error "publisher closed"))]

/-- In that run the command is handed over once and the stop after it. -/
theorem loops_end_in_stop_interruptedRun :
    ∃ loop, Machine.run (SendVelocity.step slowDrive) SendVelocity.start interruptedRun =
        some loop ∧
      (sentTwists loop.history).length = 2 ∧
      (∃ twist ∈ sentTwists loop.history, twist ≠ ScoutTwist.zero) ∧
      (∀ twist ∈ sentTwists loop.history, twist.Safe) ∧
      (sentTwists loop.history).head? = some ScoutTwist.zero := by
  -- The run is enabled and returns after handing over two commands.
  have played : (Machine.run (SendVelocity.step slowDrive) SendVelocity.start interruptedRun).any
      (fun loop => (sentTwists loop.history).length = 2 ∧
        (sentTwists loop.history).any (fun twist => twist ≠ ScoutTwist.zero) ∧
        loop.phase.isReturned) = true := by
    decide +kernel
  obtain ⟨loop, ran, facts⟩ := (Option.any_eq_true _ _).mp played
  obtain ⟨length, moving, ending⟩ := of_decide_eq_true facts
  obtain ⟨twist, member, different⟩ := List.any_eq_true.mp moving
  have moved : ∃ twist ∈ sentTwists loop.history, twist ≠ ScoutTwist.zero :=
    ⟨twist, member, of_decide_eq_true different⟩
  obtain ⟨safe, stopped, _⟩ := loops_end_in_stop.1 slowDrive interruptedRun loop ran
  have returned : loop.phase.Returned := by
    cases was : loop.phase with
    | returned result => trivial
    | _ =>
      rw [was] at ending
      cases ending
  exact ⟨loop, ran, length, moved, safe, stopped returned moved⟩

end Scout
