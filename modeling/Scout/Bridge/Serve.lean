import Scout.Bridge.MotionState
import Scout.Stream.Endian
import Scout.Stream.Lines

/-! The control worker, one effect at a time. -/

namespace Scout

/-- The longest control line, newline included. -/
def maxControlLineBytes : Nat := 4 * 1024

/-- The size of the buffer one read fills. -/
def controlReadBytes : Nat := 1024

/-- The line feed that ends a control line. -/
def newline : UInt8 := 10

/-- What the control connections of one bridge share. -/
structure ControlConfig where
  /-- The request parser applied to a complete line, newline included. -/
  parse : Bytes → Except String ControlRequest
  /-- The longest command lifetime a client may ask for. -/
  maximumTimeout : Duration

/-- What one read of a socket reports, with no data at the end of the stream. -/
inductive ReadOutcome where
  | data (bytes : Bytes)
  | wouldBlock
  | timedOut
  | failed
  deriving DecidableEq

/-- Why the worker's function has returned. -/
inductive Ending where
  | endOfStream
  | overlong
  | shutDown
  | failure
  deriving DecidableEq

/-- Where the worker stands between two of its effects. -/
inductive ServePhase where
  | configuring
  | greeting
  | cloning
  | testing
  | reading
  | draining
  | responding (response : Json)
  | refusing (message : String)
  | returned (ending : Ending)

/-- The local state of one control worker, with what it has read, parsed and written so far. -/
structure Serve where
  phase : ServePhase
  pending : Bytes
  consumed : Bytes
  parsed : List Bytes
  written : List Json

/-- A worker that has just been handed its connection. -/
def Serve.start : Serve where
  phase := .configuring
  pending := []
  consumed := []
  parsed := []
  written := []

/-- What the environment answers to the worker's next effect. -/
inductive ServeInput where
  /-- The worker takes a step of its own. -/
  | proceed
  /-- Socket options, the clone of the stream, or one response line succeed or fail. -/
  | io (succeeded : Bool)
  /-- A read of the connection ends. -/
  | read (outcome : ReadOutcome)
  deriving DecidableEq

/-- A request the worker has handled, and whether it was accepted. -/
structure Handled where
  request : ControlRequest
  accepted : Bool
  deriving DecidableEq

/-- The worker, the shared register and the request handled after one effect. -/
structure ServeEffect where
  serve : Serve
  motion : Mutex MotionState
  handled : Option Handled

/-- Whether a response reports success. -/
def Json.isOk (response : Json) : Bool :=
  match response.get "ok" with
  | some (.bool value) => value
  | _ => false

namespace Serve

/-- Move to another phase. -/
def goto (serve : Serve) (phase : ServePhase) : Serve :=
  { serve with phase }

/-- Append one response line to what the connection has received. -/
def write (serve : Serve) (response : Json) : Serve :=
  { serve with written := serve.written ++ [response] }

/-- What follows a nonempty read: an overlong buffer without a newline ends the connection. -/
def receive (serve : Serve) (bytes : Bytes) : Serve :=
  let pending := serve.pending ++ bytes
  let filled := { serve with pending, consumed := serve.consumed ++ bytes }
  -- Without a newline the buffer would grow for as long as the client sends.
  if maxControlLineBytes < pending.length ∧ newline ∉ pending then
    filled.goto (.refusing "control message is too long or is missing a newline")
  else filled.goto .draining

/-- Take the next complete line out of the buffer, answer it, or end the pass. -/
def drain (config : ControlConfig) (now : Instant) (motion : Mutex MotionState) (serve : Serve) :
    ServeEffect :=
  match Stream.takeLine newline serve.pending with
  | some (line, rest) =>
    let drained := { serve with pending := rest }
    -- A complete line may be too long as well, if its newline came with the last read.
    if maxControlLineBytes < line.length then
      { serve := drained.goto (.refusing "control message is too long"), motion, handled := none }
    else
      let parsed := { drained with parsed := serve.parsed ++ [line] }
      match config.parse line with
      | .ok request =>
        let answer := handleRequest request motion config.maximumTimeout now
        { serve := parsed.goto (.responding answer.1)
          motion := answer.2
          handled := some { request, accepted := answer.1.isOk } }
      | .error problem =>
        { serve := parsed.goto (.responding (errorResponse (s!"invalid request: {problem}")))
          motion
          handled := none }
  | none =>
    -- The pass over complete lines is over, and the rest is checked once more.
    if maxControlLineBytes < serve.pending.length then
      { serve := serve.goto (.refusing "control message is too long"), motion, handled := none }
    else { serve := serve.goto .testing, motion, handled := none }

end Serve

/-- An effect that leaves the shared register alone. -/
def ServeEffect.quiet (motion : Mutex MotionState) (serve : Serve) : ServeEffect where
  serve := serve
  motion := motion
  handled := none

/-- One effect of the control worker, if the environment's answer fits its phase. -/
def serveControlClient (config : ControlConfig) (running : Bool) (now : Instant)
    (motion : Mutex MotionState) (serve : Serve) (input : ServeInput) : Option ServeEffect :=
  match serve.phase, input with
  | .configuring, .io succeeded =>
    some (.quiet motion (serve.goto (if succeeded then .greeting else .returned .failure)))
  | .greeting, .io true =>
    some (.quiet motion ((serve.write (helloResponse config.maximumTimeout)).goto .cloning))
  | .greeting, .io false => some (.quiet motion (serve.goto (.returned .failure)))
  | .cloning, .io succeeded =>
    some (.quiet motion (serve.goto (if succeeded then .testing else .returned .failure)))
  | .testing, .proceed =>
    some (.quiet motion (serve.goto (if running then .reading else .returned .shutDown)))
  | .reading, .read (.data []) => some (.quiet motion (serve.goto (.returned .endOfStream)))
  | .reading, .read (.data bytes) =>
    -- A read cannot report more than its buffer has room for.
    if bytes.length ≤ controlReadBytes then some (.quiet motion (serve.receive bytes)) else none
  | .reading, .read .wouldBlock => some (.quiet motion (serve.goto .testing))
  | .reading, .read .timedOut => some (.quiet motion (serve.goto .testing))
  | .reading, .read .failed => some (.quiet motion (serve.goto (.returned .failure)))
  | .draining, .proceed => some (serve.drain config now motion)
  | .responding response, .io true =>
    some (.quiet motion ((serve.write response).goto .draining))
  | .responding _, .io false => some (.quiet motion (serve.goto (.returned .failure)))
  | .refusing message, .io true =>
    some (.quiet motion ((serve.write (errorResponse message)).goto (.returned .overlong)))
  | .refusing _, .io false => some (.quiet motion (serve.goto (.returned .failure)))
  | _, _ => none

end Scout
