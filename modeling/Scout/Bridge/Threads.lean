import Scout.Bridge.Serve
import Mathlib.Logic.Function.Basic

/-! The threads around the command register: listener, control workers, and the bridge's user. -/

namespace Scout

/-- A connection to the control port, numbered by arrival. -/
abbrev Connection := Nat

/-- Where the thread of a control worker stands. -/
inductive WorkerStage where
  /-- Inside its connection's function, or back from it with the final stop to come. -/
  | running
  /-- The final stop is done and the thread is about to end. -/
  | stopped
  /-- The thread has ended, which is what a finished join handle reports. -/
  | finished
  deriving DecidableEq

/-- One control worker. -/
structure Worker where
  serve : Serve
  stage : WorkerStage

/-- Where the control listener stands between two of its effects. -/
inductive ListenerPhase where
  | testing
  | accepting
  | checking (connection : Connection)
  | rejecting (connection : Connection)
  | stopping (connection : Connection)
  | spawning (connection : Connection)
  | joining
  | finished
  deriving DecidableEq

/-- How far the bridge's user has come with shutting it down. -/
inductive MainPhase where
  | using
  | stopping
  | joiningControl
  | joiningCamera
  | returned
  deriving DecidableEq

/-- What is recorded about a run. -/
inductive Happening where
  | arrived (connection : Connection)
  | admitted (connection : Connection)
  | refused (connection : Connection)
  | handled (connection : Connection) (what : Handled) (at_ : Instant)
  deriving DecidableEq

/-- The threads, what they share, and the history of the run, newest first. -/
structure Bridge where
  clock : Instant
  running : Bool
  motion : Mutex MotionState
  listener : ListenerPhase
  owner : Option Connection
  workers : Connection → Option Worker
  backlog : List Connection
  nextConnection : Connection
  received : Connection → List Json
  main : MainPhase
  history : List Happening

/-- The state in which the listener thread has just been started. -/
def Bridge.start (clock : Instant) : Bridge where
  clock := clock
  running := true
  motion := { value := MotionState.default }
  listener := .testing
  owner := none
  workers _ := none
  backlog := []
  nextConnection := 0
  received _ := []
  main := .using
  history := []

/-- What the environment answers to the listener's next effect. -/
inductive ListenerInput where
  | proceed
  | accepted
  | noConnection
  | io (succeeded : Bool)
  deriving DecidableEq

/-- One step of one thread or of the environment. -/
inductive BridgeEvent where
  /-- Time passes. -/
  | tick (elapsed : Duration)
  /-- The interrupt handler clears the running flag. -/
  | signal
  /-- A client connects to the control port. -/
  | connect
  /-- The listener takes its next step. -/
  | listener (input : ListenerInput)
  /-- A control worker takes its next step. -/
  | worker (connection : Connection) (input : ServeInput)
  /-- A control worker panics outside the lock and ends without its final stop. -/
  | panic (connection : Connection)
  /-- The publisher asks for the command in force. -/
  | currentCommand
  /-- The user takes the next step of shutting the bridge down. -/
  | shutdown
  deriving DecidableEq

namespace Bridge

/-- Whether a worker's thread has ended. -/
def isFinished (bridge : Bridge) (connection : Connection) : Bool :=
  match bridge.workers connection with
  | some worker => worker.stage == .finished
  | none => true

/-- Replace one worker. -/
def setWorker (bridge : Bridge) (connection : Connection) (worker : Worker) : Bridge :=
  { bridge with workers := Function.update bridge.workers connection (some worker) }

/-- Add to the history. -/
def record (bridge : Bridge) (happening : Happening) : Bridge :=
  { bridge with history := happening :: bridge.history }

/-- Add a handled request to the history, with the time it was handled at. -/
def recordHandled (bridge : Bridge) (connection : Connection) : Option Handled → Bridge
  | some what => bridge.record (.handled connection what bridge.clock)
  | none => bridge

/-- One effect of the control listener. -/
def runControlListener (bridge : Bridge) (input : ListenerInput) : Option Bridge :=
  match bridge.listener, input with
  | .testing, .proceed =>
    some { bridge with listener := if bridge.running then .accepting else .joining }
  | .accepting, .accepted =>
    match bridge.backlog with
    | connection :: rest => some { bridge with backlog := rest, listener := .checking connection }
    | [] => none
  -- Nothing to accept, or a failed accept: sleep and test again.
  | .accepting, .noConnection => some { bridge with listener := .testing }
  | .checking connection, .proceed =>
    -- A finished owner is joined, which returns at once.
    match bridge.owner with
    | some owner =>
      if bridge.isFinished owner then
        some { bridge with owner := none, listener := .stopping connection }
      else
        some ({ bridge with listener := .rejecting connection }.record (.refused connection))
    | none => some { bridge with listener := .stopping connection }
  | .rejecting connection, .io succeeded =>
    some { bridge with
      listener := .testing
      received :=
        if succeeded then
          Function.update bridge.received connection
            (bridge.received connection ++ [busyResponse])
        else bridge.received }
  | .stopping connection, .proceed =>
    some { bridge with motion := stopMotion bridge.motion, listener := .spawning connection }
  | .spawning connection, .io succeeded =>
    -- A failed spawn drops the stream and leaves the bridge without an owner.
    if succeeded then
      some ((({ bridge with owner := some connection, listener := .testing }.setWorker connection
        { serve := Serve.start, stage := .running })).record (.admitted connection))
    else some { bridge with owner := none, listener := .testing }
  | .joining, .proceed =>
    match bridge.owner with
    | some owner =>
      -- The join blocks until the worker's thread has ended.
      if bridge.isFinished owner then some { bridge with owner := none, listener := .finished }
      else none
    | none => some { bridge with listener := .finished }
  | _, _ => none

/-- One effect of a control worker's thread. -/
def runControlClient (config : ControlConfig) (bridge : Bridge) (connection : Connection)
    (input : ServeInput) : Option Bridge :=
  match bridge.workers connection with
  | some { serve, stage := .running } =>
    match serve.phase, input with
    -- Whatever the function returned, the register is stopped.
    | .returned _, .proceed =>
      some ({ bridge with motion := stopMotion bridge.motion }.setWorker connection
        { serve, stage := .stopped })
    | _, _ =>
      match serveControlClient config bridge.running bridge.clock bridge.motion serve input with
      | some effect =>
        let written := Function.update bridge.received connection effect.serve.written
        some (({ bridge with motion := effect.motion, received := written }.setWorker connection
          { serve := effect.serve, stage := .running }).recordHandled connection effect.handled)
      | none => none
  | some { serve, stage := .stopped } =>
    if input = .proceed then some (bridge.setWorker connection { serve, stage := .finished })
    else none
  | _ => none

/-- The next step of shutting the bridge down. -/
def shutdown (bridge : Bridge) : Option Bridge :=
  match bridge.main with
  | .using => some { bridge with running := false, main := .stopping }
  | .stopping =>
    some { bridge with motion := stopMotion bridge.motion, main := .joiningControl }
  | .joiningControl =>
    -- The join blocks until the listener thread has ended.
    if bridge.listener = .finished then some { bridge with main := .joiningCamera } else none
  | .joiningCamera => some { bridge with main := .returned }
  | .returned => none

/-- One step of the whole bridge. -/
def step (config : ControlConfig) (bridge : Bridge) : BridgeEvent → Option Bridge
  | .tick elapsed => some { bridge with clock := bridge.clock + elapsed }
  | .signal => some { bridge with running := false }
  | .connect =>
    some ({ bridge with
      backlog := bridge.backlog ++ [bridge.nextConnection]
      nextConnection := bridge.nextConnection + 1 }.record (.arrived bridge.nextConnection))
  | .listener input => bridge.runControlListener input
  | .worker connection input => runControlClient config bridge connection input
  | .panic connection =>
    match bridge.workers connection with
    | some { serve, stage } =>
      if stage = .finished then none
      else some (bridge.setWorker connection { serve, stage := .finished })
    | none => none
  -- The publisher holds the bridge only until it starts to shut it down.
  | .currentCommand =>
    if bridge.main = .using then
      some { bridge with motion := (Scout.currentCommand bridge.motion bridge.clock).2 }
    else none
  | .shutdown => bridge.shutdown

end Bridge
end Scout
