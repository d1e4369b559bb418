import Scout.Motion.Bounds
import Scout.Number.Duration

/-! What the loops that hand commands to the motor controller have in common. -/

namespace Scout

/-- How an effect ends: with nothing to report, or with the text of an error. -/
abbrev Outcome := Except String Unit

/-- What the environment answers to a loop's next effect. -/
inductive LoopInput where
  /-- The loop takes a step of its own, or a wait ends. -/
  | proceed
  /-- An effect succeeds or fails. -/
  | outcome (result : Outcome)
  /-- The clock is read. -/
  | clock (now : Instant)
  /-- The connection to the robot is asked about. -/
  | alive (isOk : Bool)

/-- What a loop returns: its own error comes before that of the final stop. -/
def loopResult (failure : Option String) (stop : Outcome) : Outcome :=
  match failure with
  | some error => .error error
  | none => stop

/-- Only stops have been handed over. -/
def OnlyStops (sent : List (ScoutTwist F64)) : Prop :=
  ∀ twist ∈ sent, twist = ScoutTwist.zero

/-- If any other command than a stop has been handed over, then a stop was the last one. -/
def EndsInStop (sent : List (ScoutTwist F64)) : Prop :=
  (∃ twist ∈ sent, twist ≠ ScoutTwist.zero) → sent.head? = some ScoutTwist.zero

/-- A loop that has returned has ended in a stop, and one that has not started is at rest. -/
structure Governed (sent : List (ScoutTwist F64)) (early returned : Prop) : Prop where
  safe : ∀ twist ∈ sent, twist.Safe
  still : early → OnlyStops sent
  stopped : returned → EndsInStop sent

variable {sent : List (ScoutTwist F64)} {early returned early' returned' : Prop}

/-- Where only stops have been handed over, nothing else came last. -/
theorem OnlyStops.endsInStop (still : OnlyStops sent) : EndsInStop sent := by
  -- There is no other command to begin with.
  intro ⟨twist, member, moving⟩
  exact absurd (still twist member) moving

/-- Nothing has been handed over at the beginning. -/
theorem governed_nil : Governed [] early returned where
  -- Nothing has been sent.
  safe _ member := absurd member List.not_mem_nil
  still _ _ member := absurd member List.not_mem_nil
  stopped _ := OnlyStops.endsInStop fun _ member => absurd member List.not_mem_nil

/-- A step that hands over nothing may go on, or return what an early loop returns. -/
theorem Governed.goto (governed : Governed sent early returned) (earlier : early' → early)
    (ending : returned' → returned ∨ early) : Governed sent early' returned' where
  -- Nothing more is sent.
  safe := governed.safe
  still now := governed.still (earlier now)
  stopped now := (ending now).elim governed.stopped fun was => (governed.still was).endsInStop

/-- A loop that is neither at rest nor over may go on without handing anything over. -/
theorem Governed.onward (governed : Governed sent early returned) (late : ¬ early')
    (going : ¬ returned') : Governed sent early' returned' :=
  governed.goto (fun now => absurd now late) fun now => absurd now going

/-- A loop that has not started may return at once. -/
theorem Governed.quit (governed : Governed sent early returned) (was : early)
    (late : ¬ early') : Governed sent early' returned' :=
  governed.goto (fun now => absurd now late) fun _ => .inr was

/-- A safe command may be handed over while the loop goes on. -/
theorem Governed.send (governed : Governed sent early returned) {twist : ScoutTwist F64}
    (safe : twist.Safe) (late : ¬ early') (going : ¬ returned') :
    Governed (twist :: sent) early' returned' where
  -- A command is sent only while the robot may move.
  safe := List.forall_mem_cons.mpr ⟨safe, governed.safe⟩
  still now := absurd now late
  stopped now := absurd now going

/-- A stop may be handed over at any time, before anything else too. -/
theorem Governed.halt (governed : Governed sent early returned) (earlier : early' → early) :
    Governed (ScoutTwist.zero :: sent) early' returned' where
  -- A stop is always allowed, and it is the last command then.
  safe := List.forall_mem_cons.mpr ⟨zero_safe, governed.safe⟩
  still now := List.forall_mem_cons.mpr ⟨rfl, governed.still (earlier now)⟩
  stopped _ _ := rfl

end Scout
