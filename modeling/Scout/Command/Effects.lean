import Scout.Bridge.PublishLoop
import Scout.Machine.Follow
import Scout.Motion.SendVelocity
import Scout.Teleop.Session
import Scout.Wifi.Candidates

/-! What a command asks of this computer and of ROS, and what it holds meanwhile. -/

namespace Scout.Command

open Machine Dialogue

/-- What a command takes and has to give back. -/
inductive Holding where
  /-- ROS is initialised. -/
  | session
  | publisher (topic : String)
  | subscriber (topic : String)
  | rawMode
  | keyboardFlags
  | listener (purpose : String)
  | thread (name : String)
  deriving DecidableEq

/-- A name and the nodes that are registered for it. -/
structure Registration where
  name : String
  connections : List String
  deriving DecidableEq

/-- What the master reports about all nodes. -/
structure RosState where
  publishers : List Registration
  subscribers : List Registration
  services : List Registration

/-- One step of one of the loops that move the robot. -/
inductive LoopEvent where
  | velocity (event : SendVelocityEvent)
  | teleop (event : TeleopEvent)
  | publish (event : PublishEvent)

/-- One answer of the surroundings of a command. -/
inductive CommandAnswer where
  | done (result : Outcome)
  | time (now : Instant)
  /-- A question is answered with yes or no. -/
  | flag (value : Bool)
  | count (subscribers : Nat)
  | state (result : Except String RosState)
  | system (answer : Wifi.SystemAnswer)
  | routed (result : Except Wifi.ErrorKind Wifi.IpAddr)
  | loop (event : LoopEvent)

/-- Something that a command does, with what is answered. -/
inductive CommandEvent where
  | limited (maximumMessageBytes maximumHeaderBytes : Nat)
  | network (event : Wifi.NetworkEvent)
  | routed (bindAddress : Wifi.IpAddr) (destination : Wifi.SocketAddr)
      (result : Except Wifi.ErrorKind Wifi.IpAddr)
  | aliased (host address : Text) (result : Outcome)
  | setVar (name : String) (value : Text)
  | removeVar (name : String)
  | initialised (nodeName : Text) (captureSigint : Bool) (result : Outcome)
  | clock (now : Instant)
  | alive (isOk : Bool)
  | slept (duration : Duration)
  /-- Another call that may fail and takes nothing. -/
  | called (result : Outcome)
  | taken (holding : Holding) (result : Outcome)
  | given (holding : Holding)
  | bound (purpose : String) (address : Wifi.SocketAddr) (result : Outcome)
  /-- A thread is started, which gets a listener of its own. -/
  | spawned (name purpose : String) (result : Outcome)
  | supported (keyboard : Bool)
  | counted (topic : String) (subscribers : Nat)
  | asked (result : Except String RosState)
  /-- A loop takes a step, which may hand over a command. -/
  | looped (event : LoopEvent) (twist : Option (ScoutTwist F64))

/-- A command, which fails with the text of an error. -/
abbrev CommandM (ε α : Type) := Dialogue (Ledger CommandAnswer CommandEvent) ε α

variable {ε : Type}

/-- How many answers are still to come. -/
def answersLeft (ledger : Ledger CommandAnswer CommandEvent) : Nat := ledger.script.length

/-- Make a call that succeeds without a value. -/
def askDone (event : Outcome → CommandEvent) : CommandM String Unit :=
  ask fun _ answer =>
    match answer with
    | .done result => some (event result, result)
    | _ => none

/-- Ask a question that is answered with yes or no. -/
def askFlag (event : Bool → CommandEvent) : CommandM ε Bool :=
  ask fun _ answer =>
    match answer with
    | .flag value => some (event value, .ok value)
    | _ => none

/-- Read the monotonic clock. -/
def instantNow : CommandM ε Instant :=
  ask fun _ answer =>
    match answer with
    | .time now => some (.clock now, .ok now)
    | _ => none

/-- Sleep for a time. -/
def sleep (duration : Duration) : CommandM ε Unit := note (.slept duration)

/-- Make a call that may fail and takes nothing. -/
def call : CommandM String Unit := askDone .called

/-- Whether ROS has not been asked to shut down. -/
def isOk : CommandM ε Bool := askFlag .alive

/-- Take something that has to be given back. -/
def take (holding : Holding) : CommandM String Unit := askDone (.taken holding)

/-- Give something back. -/
def giveBack (holding : Holding) : CommandM ε Unit := note (.given holding)

/-- Run a part of a command that talks to the network only. -/
def network {α : Type} (program : Wifi.NetworkM ε α) : CommandM ε α :=
  program.embed (fun | .system answer => some answer | _ => none) .network

/-- The command that a step of a loop has handed over, given those before and after it. -/
def handedOver (before after : List (ScoutTwist F64)) : Option (ScoutTwist F64) :=
  if before.length < after.length then after.head? else none

section Answers

variable {α : Type}

/-- A question that is answered with yes or no leaves the answer behind. -/
theorem answered_askFlag {event : Bool → CommandEvent}
    {Related : List CommandEvent → Reply ε Bool → Prop} (unanswered : Related [] .waiting)
    (answered : ∀ value, Related [event value] (.returned value)) :
    Leaves Related (askFlag event : CommandM ε Bool) := by
  -- No other answer fits.
  refine leaves_answered unanswered fun _ answer _ _ found => ?_
  cases answer with
  | flag value =>
    cases found
    exact answered value
  | _ => cases found

/-- Reading the clock leaves the reading behind. -/
theorem answered_instantNow {Related : List CommandEvent → Reply ε Instant → Prop}
    (unanswered : Related [] .waiting)
    (answered : ∀ now, Related [.clock now] (.returned now)) :
    Leaves Related (instantNow : CommandM ε Instant) := by
  -- No other answer fits.
  refine leaves_answered unanswered fun _ answer _ _ found => ?_
  cases answer with
  | time now =>
    cases found
    exact answered now
  | _ => cases found

/-- A call leaves its result behind. -/
theorem answered_askDone {event : Outcome → CommandEvent}
    {Related : List CommandEvent → Reply String Unit → Prop} (unanswered : Related [] .waiting)
    (answered : ∀ result, Related [event result] (.ofResult result)) :
    Leaves Related (askDone event) := by
  -- No other answer fits.
  refine leaves_answered unanswered fun _ answer _ _ found => ?_
  cases answer with
  | done outcome =>
    cases found
    exact answered _
  | _ => cases found

end Answers

end Scout.Command
