import Scout.Bridge.Serve
import Scout.Stream.Endian

/-! The latest camera frame and the worker that sends it, one effect at a time. -/

namespace Scout

/-- The newest frame and how many frames have been stored, wrapping around. -/
structure LatestFrame where
  generation : UInt64
  jpeg : Option Bytes
  deriving DecidableEq

/-- No frame has been stored. -/
def LatestFrame.default : LatestFrame where
  generation := 0
  jpeg := none

/-- Store a frame as the newest one. -/
def FrameSink.publish (frame : Mutex LatestFrame) (jpeg : Bytes) : Mutex LatestFrame :=
  match frame.lock with
  | some state => frame.write { generation := state.generation + 1, jpeg := some jpeg }
  | none => frame

/-- What is sent for one frame: its length in four bytes, then its bytes. -/
def cameraRecord (jpeg : Bytes) : Bytes :=
  Stream.bigEndian 4 jpeg.length ++ jpeg

/-- Where a camera worker stands between two of its effects. -/
inductive CameraPhase where
  | configuring
  | testing
  | reading
  | waiting
  /-- The buffers that are still to be written. -/
  | sending (buffers : List Bytes)
  | returned
  deriving DecidableEq

/-- The local state of one camera worker, with everything it has written. -/
structure CameraServe where
  phase : CameraPhase
  seenGeneration : UInt64
  written : Bytes
  deriving DecidableEq

/-- A worker that has just been handed its connection. -/
def CameraServe.start : CameraServe where
  phase := .configuring
  seenGeneration := 0
  written := []

/-- What the environment answers to the worker's next effect. -/
inductive CameraInput where
  /-- The worker takes a step of its own. -/
  | proceed
  /-- Socket options or a write succeed or fail. -/
  | io (succeeded : Bool)
  /-- A read of one byte ends. -/
  | read (outcome : ReadOutcome)
  /-- The connection takes some of the bytes offered to it. -/
  | wrote (count : Nat)
  deriving DecidableEq

/-- What a worker's effect means for its client's requests. -/
inductive CameraDeed where
  | requested
  | answered (jpeg : Bytes)
  | dropped
  deriving DecidableEq

/-- The worker and what it has done about a request after one effect. -/
structure CameraEffect where
  serve : CameraServe
  deed : Option CameraDeed

/-- The byte by which a client asks for a frame. -/
def cameraRequest : UInt8 := 1

namespace CameraServe

/-- Move to another phase. -/
def goto (serve : CameraServe) (phase : CameraPhase) : CameraEffect where
  serve := { serve with phase }
  deed := none

/-- Look at the shared frame with the lock held: wait on, give up, or answer with a new frame. -/
def take (running : Bool) (frame : Mutex LatestFrame) (serve : CameraServe) : CameraEffect :=
  match frame.lock with
  | none => serve.goto .returned
  | some state =>
    -- The wait ends with a timeout or a notification, and the condition is tested again.
    if state.generation = serve.seenGeneration ∧ running then serve.goto .waiting
    else if !running then serve.goto .returned
    else
      match state.jpeg with
      -- Without a frame the request is forgotten, and the generation is not marked as seen.
      | none => { serve.goto .testing with deed := some .dropped }
      | some jpeg =>
        let seen := { serve with seenGeneration := state.generation }
        -- The length must fit the four bytes that announce it.
        if jpeg.length < 2 ^ 32 then
          { seen.goto (.sending [Stream.bigEndian 4 jpeg.length, jpeg]) with
            deed := some (.answered jpeg) }
        else seen.goto .returned

/-- Read one byte, and take it as a request if it is the right one. -/
def receive (serve : CameraServe) : ReadOutcome → Option CameraEffect
  | .data [] => some (serve.goto .returned)
  | .data (byte :: rest) =>
    -- The buffer has room for one byte only.
    if rest ≠ [] then none
    else if byte = cameraRequest then some { serve.goto .waiting with deed := some .requested }
    else some (serve.goto .returned)
  -- A read that times out is tried again after a look at the running flag.
  | .wouldBlock => some (serve.goto .testing)
  | .timedOut => some (serve.goto .testing)
  | .failed => some (serve.goto .returned)

/-- Write the buffers that are left, some bytes at a time. -/
def send (serve : CameraServe) : List Bytes → CameraInput → Option CameraEffect
  | [], .proceed => some (serve.goto .testing)
  | [] :: rest, .proceed => some (serve.goto (.sending rest))
  | buffer :: rest, .wrote count =>
    -- A write of all bytes goes on with what the connection has not taken.
    if 0 < count ∧ count ≤ buffer.length then
      some ({ serve with written := serve.written ++ buffer.take count }.goto
        (.sending (buffer.drop count :: rest)))
    else none
  | _ :: _, .io false => some (serve.goto .returned)
  | _, _ => none

end CameraServe

/-- One effect of a camera worker, if the environment's answer fits its phase. -/
def serveCameraClient (running : Bool) (frame : Mutex LatestFrame) (serve : CameraServe)
    (input : CameraInput) : Option CameraEffect :=
  match serve.phase, input with
  | .configuring, .io succeeded =>
    some (serve.goto (if succeeded then .testing else .returned))
  | .testing, .proceed => some (serve.goto (if running then .reading else .returned))
  | .reading, .read outcome => serve.receive outcome
  | .waiting, .proceed => some (serve.take running frame)
  | .sending buffers, input => serve.send buffers input
  | _, _ => none

end Scout
