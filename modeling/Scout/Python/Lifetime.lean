import Scout.Camera.Client
import Scout.Camera.Serve
import Scout.Machine.Contract
import Scout.Python.Client

/-! The Python client from its construction to its end, with the exceptions of its calls. -/

namespace Scout.Python

open Machine Dialogue

/-- What a call raises. -/
inductive Raised where
  /-- An error of the client's own. -/
  | client (error : ClientError)
  /-- An error of the operating system, such as a timeout. -/
  | os (reason : String)
  /-- Any other exception. -/
  | other (reason : String)
  deriving DecidableEq

/-- The language with the exceptions that the client does not expect from it. -/
structure Interpreter extends PythonRuntime where
  /-- The exception that ends the decoding of a line, if it is not one for an invalid line. -/
  interrupts : Bytes → Option String

/-- The attributes of a client. -/
structure Attributes where
  /-- The longest command lifetime, once the greeting has been read. -/
  maxCommandTimeout : Option F64
  /-- Whether the control socket is open. -/
  control : Bool
  /-- Whether the reader of the control socket is open. -/
  reader : Bool
  /-- Whether there is a camera socket, which is open then. -/
  camera : Bool
  closed : Bool
  deriving DecidableEq

/-- What comes of connecting or of sending. -/
inductive Attempt where
  | done
  /-- Some bytes may have been sent. -/
  | raised (exception : Raised) (count : Nat)
  deriving DecidableEq

/-- The client, what it has sent, and what is still to come of its calls to the system. -/
structure Session where
  client : Attributes
  /-- What has been sent on the control connection. -/
  sent : Bytes
  /-- What has been sent on camera connections. -/
  asked : Bytes
  attempts : List Attempt
  /-- The lines that are read from the control connection. -/
  lines : List (Except Raised Bytes)
  /-- What is received on camera connections. -/
  chunks : List (Except Raised Bytes)
  deriving DecidableEq

/-- A program of the client. -/
abbrev PythonM := Dialogue Session Raised

/-- The line that is read from a stream that ends behind the given bytes. -/
def readline (stream : Bytes) : Bytes :=
  match Stream.takeLine newline stream with
  | some (line, _) => line.take (maxControlLineBytes + 1)
  | none => stream.take (maxControlLineBytes + 1)

/-- The client whose control socket has just been connected. -/
def Session.start (greeting : Except Raised Bytes) (attempts : List Attempt)
    (lines chunks : List (Except Raised Bytes)) : Session where
  client :=
    { maxCommandTimeout := none
      control := true
      reader := true
      camera := false
      closed := false }
  sent := []
  asked := []
  attempts := attempts
  lines := greeting.map readline :: lines
  chunks := chunks

/-- Fail with an error of the client's own. -/
def raise {α : Type} (message : String) : PythonM α := fail (.client (.bridge message))

/-- Connect or send, with what is done then, and with what may have been done otherwise. -/
def attempt (done : Session → Session) (partly : Nat → Session → Session) : PythonM Unit :=
  fun session =>
    match session.attempts with
    | [] => (.waiting, session)
    | .done :: attempts => (.returned (), done { session with attempts })
    | .raised exception count :: attempts =>
      (.failed exception, partly count { session with attempts })

/-- Read the next line from the control connection. -/
def readLine : PythonM Bytes := fun session =>
  match session.lines with
  | [] => (.waiting, session)
  | .ok line :: lines => (.returned line, { session with lines })
  | .error exception :: lines => (.failed exception, { session with lines })

/-- Receive some bytes on the camera connection. -/
def receive (most : Nat) : PythonM Bytes := fun session =>
  match session.chunks with
  | [] => (.waiting, session)
  | .ok chunk :: chunks => (.returned (chunk.take most), { session with chunks })
  | .error exception :: chunks => (.failed exception, { session with chunks })

/-- Note what has been sent on the control connection. -/
def Session.send (session : Session) (bytes : Bytes) : Session :=
  { session with sent := session.sent ++ bytes }

/-- Note what has been sent on the camera connection. -/
def Session.ask (session : Session) (bytes : Bytes) : Session :=
  { session with asked := session.asked ++ bytes }

/-- Note whether there is a camera socket. -/
def Session.setCamera (session : Session) (camera : Bool) : Session :=
  { session with client := { session.client with camera } }

/-- Note the longest command lifetime. -/
def Session.setMaxCommandTimeout (session : Session) (limit : F64) : Session :=
  { session with client := { session.client with maxCommandTimeout := some limit } }

/-- The client is closed, and all its sockets are. -/
def Session.release (session : Session) : Session :=
  { session with
    client :=
      { session.client with closed := true, camera := false, reader := false, control := false } }

/-- Whether a decoded value equals an integer, to which true and false are equal as well. -/
def equalsInt (number : Int) : Option Json → Bool
  | some (.int value) => value == number
  | some (.float value) => Scalar.eqv value (Scalar.ofRat number)
  | some (.bool value) => (if value then 1 else 0) == number
  | _ => false

/-- Whether a decoded value is a given text. -/
def equalsText (text : String) : Option Json → Bool
  | some (.text value) => value == text
  | _ => false

section Calls

variable (interpreter : Interpreter)

/-- Decode a response line. -/
def decodeResponse (line : Bytes) : Except Raised Json :=
  match interpreter.interrupts line with
  | some reason => .error (.other reason)
  | none => (ScoutClient.readResponse interpreter.toPythonRuntime line).mapError .client

/-- The longest command lifetime in seconds that a greeting announces. -/
def announced (hello : Json) : Except Raised F64 :=
  if !equalsText "hello" (hello.get "type") || !equalsInt 1 (hello.get "protocol") then
    .error (.client (.bridge (s!"unsupported bridge greeting: {interpreter.repr hello}")))
  else
    match (hello.get "max_command_timeout_ms").bind interpreter.float with
    | none => .error (.client (.bridge "invalid command timeout in bridge greeting"))
    | some milliseconds =>
      let commandTimeout := milliseconds / Scalar.ofRat 1000
      if !commandTimeout.isFinite || decide (commandTimeout ≤ Scalar.zero) then
        .error (.client (.bridge "invalid command timeout in bridge greeting"))
      else .ok commandTimeout

/-- What a call makes of a response line. -/
def answer (line : Bytes) (call : ControlCall) : Except Raised ControlReturn :=
  match interpreter.interrupts line with
  | some reason => .error (.other reason)
  | none => (call.answer interpreter.toPythonRuntime line).mapError .client

/-- The request line of a call, unless its arguments are refused or the client is closed. -/
def requestLine (client : Attributes) (call : ControlCall) : Except Raised Bytes :=
  -- No lifetime of a velocity is accepted before the greeting has been read.
  let limit := client.maxCommandTimeout.getD Scalar.zero
  (call.request interpreter.toPythonRuntime limit >>=
    ScoutClient.encodeRequest interpreter.toPythonRuntime client.closed).mapError .client

/-- A call that sends a request on the control connection and reads its response. -/
def request (call : ControlCall) : PythonM ControlReturn := do
  let session ← current
  let encoded ← ofExcept (requestLine interpreter session.client call)
  attempt (fun session => session.send encoded) fun count session => session.send (encoded.take count)
  let line ← readLine
  ofExcept (answer interpreter line call)

/-- Whether an exception does not keep the client from being closed. -/
def Raised.suppressed : Raised → Bool
  | .client (.bridge _) => true
  | .os _ => true
  | _ => false

/-- Go on after a request to stop that has failed in one of the expected ways. -/
def stopFailed (exception : Raised) : PythonM Unit :=
  if exception.suppressed then return () else fail exception

/-- Stop the robot. -/
def stop : PythonM Unit := do
  let _ ← request interpreter .stop
  return ()

/-- Stop the robot if possible and close both sockets. -/
def close (stopping : Bool) : PythonM Unit := do
  let session ← current
  if session.client.closed then return ()
  else if stopping then
    handle (stop interpreter) stopFailed
    update Session.release
  else update Session.release

/-- Read the greeting. -/
def greet : PythonM Unit := do
  let line ← readLine
  let hello ← ofExcept (decodeResponse interpreter line)
  let limit ← ofExcept (announced interpreter hello)
  update fun session => session.setMaxCommandTimeout limit

/-- Close a client that has no valid greeting, without a request to stop. -/
def greetFailed (exception : Raised) : PythonM Unit := do
  close interpreter false
  fail exception

/-- The constructor, once the control socket has been connected. -/
def construct : PythonM Unit := handle (greet interpreter) (greetFailed interpreter)

/-- Receive more bytes until there are so many. -/
def receiveExactRound (length : Nat) (received : Bytes) : PythonM (Bytes ⊕ Bytes) :=
  if received.length < length then do
    let chunk ← receive (length - received.length)
    if chunk = [] then raise "bridge closed the camera connection"
    else return .inl (received ++ chunk)
  else return .inr received

/-- Receive so many bytes. -/
def receiveExact (length : Nat) : PythonM Bytes :=
  repeatUntil (fun session => session.chunks.length) (receiveExactRound length) []

/-- Connect to the camera port unless there is a connection. -/
def connectCamera : PythonM Unit := do
  let session ← current
  if session.client.camera then return ()
  else attempt (fun session => session.setCamera true) fun _ session => session

/-- Request a frame and receive it. -/
def requestJpeg : PythonM Bytes := do
  connectCamera
  attempt (fun session => session.ask [cameraRequest]) fun count session =>
    session.ask ([cameraRequest].take count)
  let header ← receiveExact 4
  let length := pythonReader.decodeLength header
  if !pythonReader.acceptsLength length then
    raise (s!"invalid JPEG length from bridge: {length}")
  else
    let jpeg ← receiveExact length
    if !pythonReader.acceptsJpeg jpeg then raise "bridge returned data without JPEG markers"
    else return jpeg

/-- Drop the camera connection after a failure. -/
def requestJpegFailed (exception : Raised) : PythonM Bytes := do
  update fun session => session.setCamera false
  fail exception

/-- Read the newest frame. -/
def readJpeg : PythonM Bytes := do
  let session ← current
  if session.client.closed then raise "client is closed"
  else handle requestJpeg requestJpegFailed

/-- The calls of a program that uses the client. -/
inductive Call where
  | control (call : ControlCall)
  | readJpeg
  | close
  deriving DecidableEq

/-- What a call returns. -/
inductive Result where
  | control (value : ControlReturn)
  | jpeg (bytes : Bytes)
  | closed
  deriving DecidableEq

/-- Make a call. -/
def perform : Call → PythonM Result
  | .control call => do
    let value ← request interpreter call
    return .control value
  | .readJpeg => do
    let bytes ← readJpeg
    return .jpeg bytes
  | .close => do
    close interpreter true
    return .closed

/-- The client after a call that is over. -/
def step (session : Session) (call : Call) : Option Session :=
  match perform interpreter call session with
  | (.waiting, _) => none
  | (_, after) => some after

end Calls
end Scout.Python
