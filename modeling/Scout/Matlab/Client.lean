import Scout.Bridge.Serve
import Scout.Camera.Client
import Scout.Machine.Contract

/-! The MATLAB client, and the bridge at the other end of its connections. -/

namespace Scout.Matlab

open Machine Dialogue

/-- An exception with its identifier. -/
structure MException where
  identifier : String
  message : String
  deriving DecidableEq

/-- An exception of the language itself, which never has the identifier of a bridge error. -/
structure Foreign where
  cause : MException
  foreign : cause.identifier ≠ "MoorebotScout:Bridge"

/-- What a decoded value is compared with. -/
inductive Literal where
  | logical (value : Bool)
  | char (text : String)
  | double (number : Nat)
  deriving DecidableEq

/-- The functions of the language that the client uses. -/
structure Runtime (Value : Type) where
  jsonencode : Json → Bytes
  /-- A line feed inside of a text is escaped. -/
  oneLine : ∀ request, newline ∉ jsonencode request
  /-- A decoded line, or the message of the exception. -/
  jsondecode : Bytes → Except String Value
  isstruct : Value → Bool
  isscalar : Value → Bool
  /-- A field of a scalar struct, if it has this field. -/
  getfield : Value → String → Option Value
  isequal : Value → Literal → Bool
  /-- The number that a value is, if it is a numeric scalar. -/
  numeric : Value → Option F64
  /-- All elements of a value as numbers. -/
  double : Value → Except Foreign (List F64)
  string : Value → Except Foreign String
  /-- Whether a value, as a string, is another one than a given text. -/
  differs : Value → String → Except Foreign Bool
  /-- A number with three significant digits. -/
  general : F64 → String
  mustBeFinite : Foreign
  mustBePositive : Foreign
  nonExistentField : Foreign

/-- What the constructor accepts. -/
structure Arguments where
  host : String
  controlPort : Nat
  timeout : F64
  portPositive : 0 < controlPort
  timeoutFinite : timeout.isFinite
  timeoutPositive : Scalar.zero < timeout

/-- The properties of the client. -/
structure MoorebotScout where
  maxCommandTimeout : F64
  host : String
  controlPort : Nat
  timeout : F64
  /-- Whether there is a control connection. -/
  control : Bool
  /-- Whether there is a camera connection. -/
  camera : Bool
  controlBuffer : Bytes
  handshakeComplete : Bool
  closed : Bool

/-- What the bridge sends, and how much of it. -/
structure BridgeReplies where
  /-- The greeting, and after it the reply to each request line, as far as it is sent. -/
  reply : Nat → Bytes
  /-- A reply is one line. -/
  single : ∀ number, newline ∉ (reply number).dropLast
  /-- The frame for each request to the camera. -/
  frame : Nat → Bytes
  /-- The length of a frame fits into four bytes. -/
  short : ∀ number, (frame number).length < 2 ^ 32
  /-- How many bytes of a frame and its length are sent. -/
  sent : Nat → Nat

/-- The length of a frame and the frame, as far as they are sent. -/
def BridgeReplies.message (bridge : BridgeReplies) (number : Nat) : Bytes :=
  (Stream.bigEndian 4 (bridge.frame number).length ++ bridge.frame number).take
    (bridge.sent number)

/-- A look at the clock and then at the bytes that are available on the control connection. -/
inductive Poll where
  /-- So many further bytes have arrived. -/
  | looked (elapsed : F64) (arriving : Nat)
  | raised (elapsed : F64) (error : Foreign)

/-- What comes of connecting or of writing. -/
inductive Attempt where
  | done
  /-- Some bytes may have been written. -/
  | raised (error : Foreign) (count : Nat)

/-- What comes of reading from the camera connection. -/
inductive Reading where
  /-- So many bytes have arrived in time. -/
  | bytes (count : Nat)
  | raised (error : Foreign)

/-- The client and its connections, with what is still to come of its calls to the language. -/
structure Session where
  client : MoorebotScout
  /-- What has been written to the control connection. -/
  written : Bytes
  /-- What has arrived on the control connection and has not been read. -/
  available : Bytes
  /-- What has been sent on the control connection and has not arrived. -/
  underway : Bytes
  /-- The requests to the camera. -/
  requested : Nat
  /-- What has been sent on the camera connection and has not been read. -/
  frames : Bytes
  polls : List Poll
  attempts : List Attempt
  readings : List Reading

/-- A client that is being constructed. -/
def Session.start (arguments : Arguments) (polls : List Poll) (attempts : List Attempt)
    (readings : List Reading) : Session where
  client :=
    { maxCommandTimeout := Scalar.one
      host := arguments.host
      controlPort := arguments.controlPort
      timeout := arguments.timeout
      control := false
      camera := false
      controlBuffer := []
      handshakeComplete := false
      closed := false }
  written := []
  available := []
  underway := []
  requested := 0
  frames := []
  polls := polls
  attempts := attempts
  readings := readings

/-- The number of request lines in what has been written. -/
def requestLines (written : Bytes) : Nat := written.count newline

/-- Bytes are written, and the bridge replies to each line that they complete. -/
def Session.handOver (bridge : BridgeReplies) (session : Session) (bytes : Bytes) : Session :=
  let replies := (List.range (requestLines bytes)).map fun number =>
    bridge.reply (requestLines session.written + number + 1)
  { session with
    written := session.written ++ bytes
    underway := session.underway ++ replies.flatten }

/-- The bridge answers a request to the camera. -/
def Session.handCamera (bridge : BridgeReplies) (session : Session) : Session :=
  { session with
    requested := session.requested + 1
    frames := session.frames ++ bridge.message session.requested }

/-- A program of the client. -/
abbrev ScoutM := Dialogue Session MException

/-- Connect or write, with what is done then, and with what may have been done otherwise. -/
def attempt (done : Session → Session) (partly : Nat → Session → Session) : ScoutM Unit :=
  fun session =>
    match session.attempts with
    | [] => (.waiting, session)
    | .done :: attempts => (.returned (), done { session with attempts })
    | .raised error count :: attempts =>
      (.failed error.cause, partly count { session with attempts })

/-- Take the next look at the clock and at the control connection. -/
def look : ScoutM Poll := fun session =>
  match session.polls with
  | [] => (.waiting, session)
  | poll :: polls => (.returned poll, { session with polls })

/-- The bytes that are available after a look. -/
def arrive (arriving : Nat) : ScoutM Unit :=
  update fun session =>
    { session with
      available := session.available ++ session.underway.take arriving
      underway := session.underway.drop arriving }

/-- Read available bytes into the control buffer. -/
def readControl (count : Nat) : ScoutM Unit :=
  update fun session =>
    { session with
      client :=
        { session.client with
          controlBuffer := session.client.controlBuffer ++ session.available.take count }
      available := session.available.drop count }

/-- Read from the camera connection, in time or not. -/
def readCamera (count : Nat) : ScoutM Bytes := fun session =>
  match session.readings with
  | [] => (.waiting, session)
  | .bytes most :: readings =>
    (.returned (session.frames.take (min most count)),
      { session with readings, frames := session.frames.drop (min most count) })
  | .raised error :: readings => (.failed error.cause, { session with readings })

/-- Close both connections. -/
def closeSockets : ScoutM Unit :=
  update fun session =>
    { session with
      client :=
        { session.client with
          closed := true
          handshakeComplete := false
          camera := false
          control := false
          controlBuffer := [] } }

/-- Fail unless there is a control connection. -/
def assertOpen : ScoutM Unit := do
  let session ← current
  if session.client.closed ∨ ¬ session.client.control then
    fail ⟨"MoorebotScout:Closed", "The Scout client is closed."⟩
  else return ()

/-- The longest control line. -/
def maximum : Nat := 4096

/-- What is said when a line has not arrived in time. -/
def lateLine (client : MoorebotScout) : MException :=
  if client.handshakeComplete then
    ⟨"MoorebotScout:Connection", "The bridge did not return a control response. "
      ++ "The connection has been closed; check the bridge terminal before reconnecting."⟩
  else
    ⟨"MoorebotScout:Connection", s!"No bridge greeting from {client.host}:{client.controlPort}. "
      ++ "Check the Rust terminal says "
      ++ "'Integration bridge ready', use the commands port (normally 43000), "
      ++ "and close any other MATLAB or Python Scout client before reconnecting."⟩

/-- Read what is available at a look, unless it is too late. -/
def readAvailable (client : MoorebotScout) : Poll → ScoutM (Unit ⊕ Bytes)
  | .raised elapsed error =>
    if client.timeout ≤ elapsed then fail (lateLine client) else fail error.cause
  | .looked elapsed arriving =>
    if client.timeout ≤ elapsed then fail (lateLine client)
    else do
      arrive arriving
      let session ← current
      if 0 < session.available.length then
        readControl (min session.available.length (maximum - client.controlBuffer.length))
        return .inl ()
      -- Where nothing is available there is a pause.
      else return .inl ()

/-- One round of the loop that reads a control line. -/
def readControlRound (_ : Unit) : ScoutM (Unit ⊕ Bytes) := do
  let session ← current
  let buffer := session.client.controlBuffer
  match Stream.takeLine newline buffer with
  | some (line, rest) =>
    update fun session => { session with client := { session.client with controlBuffer := rest } }
    return .inr line.dropLast
  | none =>
    if maximum ≤ buffer.length then
      fail ⟨"MoorebotScout:Protocol", "The bridge control response exceeds 4096 bytes."⟩
    else
      let poll ← look
      readAvailable session.client poll

/-- Read the next control line, without the line feed at its end. -/
def readControlLine : ScoutM Bytes :=
  repeatUntil (fun session => session.polls.length) readControlRound ()

/-- Read so many bytes from the camera connection, behind those that have been read. -/
def readExactRound (count : Nat) (bytes : Bytes) : ScoutM (Bytes ⊕ Bytes) :=
  if bytes.length < count then do
    let chunk ← readCamera (count - bytes.length)
    if chunk = [] then
      fail ⟨"MoorebotScout:Connection", "Timed out while reading camera data."⟩
    else return .inl (bytes ++ chunk)
  else return .inr bytes

/-- Read so many bytes from the camera connection. -/
def readExact (count : Nat) : ScoutM Bytes :=
  repeatUntil (fun session => session.readings.length) (readExactRound count) []

section Calls

variable {Value : Type} (runtime : Runtime Value) (bridge : BridgeReplies)

/-- Whether a response is a single record. -/
def isRecord (response : Value) : Bool := runtime.isstruct response && runtime.isscalar response

/-- Whether a record has a field with a given value. -/
def fieldEquals (response : Value) (name : String) (value : Literal) : Bool :=
  (runtime.getfield response name).any fun field => runtime.isequal field value

/-- The message of a rejection. -/
def rejection (response : Value) : Except Foreign String :=
  let usual := "The bridge rejected the request."
  if isRecord runtime response then
    match runtime.getfield response "message" with
    | some message => runtime.string message
    | none => .ok usual
  else .ok usual

/-- Decode a control line. -/
def decodeResponse (line : Bytes) : Except MException Value :=
  match runtime.jsondecode line with
  | .error message =>
    .error ⟨"MoorebotScout:Protocol", s!"The bridge returned invalid JSON: {message}"⟩
  | .ok response =>
    if isRecord runtime response && fieldEquals runtime response "ok" (.logical true) then
      .ok response
    else
      match rejection runtime response with
      | .error error => .error error.cause
      | .ok message =>
        if isRecord runtime response && fieldEquals runtime response "code" (.char "busy") then
          .error ⟨"MoorebotScout:Busy", message⟩
        else .error ⟨"MoorebotScout:Bridge", message⟩

/-- Read and decode the next control line. -/
def readResponse : ScoutM Value := do
  let line ← readControlLine
  ofExcept (decodeResponse runtime line)

/-- Write a line to the control connection. -/
def writeline (line : Bytes) : ScoutM Unit :=
  attempt (fun session => session.handOver bridge (line ++ [newline]))
    fun count session => session.handOver bridge ((line ++ [newline]).take count)

/-- What is done when a request fails: only a reported error leaves the connection open. -/
def requestFailed (cause : MException) : ScoutM Value :=
  if cause.identifier ≠ "MoorebotScout:Bridge" then do
    closeSockets
    fail cause
  else fail cause

/-- Send a request and read its response. -/
def request (message : Json) : ScoutM Value := do
  assertOpen
  handle (do
    writeline bridge (runtime.jsonencode message)
    readResponse runtime) requestFailed

/-- The longest command timeout that a greeting announces, in milliseconds. -/
def announced (hello : Value) : Option F64 :=
  if fieldEquals runtime hello "type" (.char "hello") &&
      fieldEquals runtime hello "protocol" (.double 1) then
    (runtime.getfield hello "max_command_timeout_ms").bind fun field =>
      (runtime.numeric field).filter fun limit =>
        limit.isFinite && !decide (limit ≤ Scalar.zero)
  else none

/-- Connect to the control port. -/
def connectControl : ScoutM Unit :=
  attempt (fun session =>
    { session with
      client := { session.client with control := true }
      underway := bridge.reply 0 }) fun _ session => session

/-- Connect and read the greeting. -/
def greet : ScoutM Unit := do
  connectControl bridge
  let hello ← readResponse runtime
  match announced runtime hello with
  | none =>
    fail ⟨"MoorebotScout:Protocol", "The local process returned an unsupported bridge greeting."⟩
  | some limit =>
    update fun session =>
      { session with
        client :=
          { session.client with
            maxCommandTimeout := limit / Scalar.ofRat 1000
            handshakeComplete := true } }

/-- Construct the client. -/
def construct : ScoutM Unit :=
  handle (greet runtime bridge) fun cause => do
    closeSockets
    fail cause

/-- A number rounded to the nearest integer, away from zero if there are two. -/
def round (number : F64) : F64 :=
  if number.isFinite then F64.rounded number.negative (|number.value| + 1 / 2).floor else number

/-- The lifetime of a command in milliseconds, at least one. -/
def timeoutMs (timeout : F64) : F64 :=
  let rounded := round (timeout * Scalar.ofRat 1000)
  if Scalar.one < rounded then rounded else Scalar.one

/-- Whether the type of a response is another one than expected. -/
def mistyped (response : Value) (expected : String) : Except Foreign Bool :=
  match runtime.getfield response "type" with
  | none => .ok true
  | some type => runtime.differs type expected

/-- Fail unless a response has the expected type. -/
def expectType (response : Value) (expected problem : String) : Except MException Unit :=
  match mistyped runtime response expected with
  | .error error => .error error.cause
  | .ok true => .error ⟨"MoorebotScout:Protocol", problem⟩
  | .ok false => .ok ()

/-- The velocity that a response reports as applied. -/
def appliedVelocity (response : Value) : Except MException (List F64) :=
  match runtime.getfield response "applied" with
  | none => .error runtime.nonExistentField.cause
  | some field =>
    match runtime.double field with
    | .error error => .error error.cause
    | .ok applied =>
      if applied.length ≠ 3 then
        .error ⟨"MoorebotScout:Protocol", "The bridge returned an invalid velocity response."⟩
      else .ok applied

/-- The request to drive for some time. -/
def velocityRequest (vx vy vtheta timeout : F64) : Json :=
  .object [("type", .text "velocity"), ("vx", .float vx), ("vy", .float vy),
    ("vtheta", .float vtheta), ("timeout_ms", .float (timeoutMs timeout))]

/-- The request to stop. -/
def stopRequest : Json := .object [("type", .text "stop")]

/-- The request to answer. -/
def pingRequest : Json := .object [("type", .text "ping")]

/-- Fail unless a response is one to a request to stop. -/
def stopped (response : Value) : Except MException Unit :=
  expectType runtime response "stop" "The bridge returned an invalid stop response."

/-- Fail unless a response is one to a request to answer. -/
def ponged (response : Value) : Except MException Unit :=
  expectType runtime response "pong" "The bridge returned an invalid ping response."

/-- Send a velocity, and return the one that is applied. -/
def setVelocity (vx vy vtheta timeout : F64) : ScoutM (List F64) := do
  if ¬ (vx.isFinite && vy.isFinite && vtheta.isFinite && timeout.isFinite) then
    fail runtime.mustBeFinite.cause
  else if ¬ Scalar.zero < timeout then fail runtime.mustBePositive.cause
  else
    let session ← current
    if session.client.maxCommandTimeout < timeout then
      fail ⟨"MoorebotScout:Timeout", (s!"Command timeout may not exceed "
        ++ s!"{runtime.general session.client.maxCommandTimeout} seconds.")⟩
    else
      let response ← request runtime bridge (velocityRequest vx vy vtheta timeout)
      ofExcept (appliedVelocity runtime response)

/-- Stop, unless there is nothing to stop with. -/
def stop : ScoutM Unit := do
  let session ← current
  if session.client.closed ∨ ¬ session.client.handshakeComplete ∨ ¬ session.client.control then
    return ()
  else
    let response ← request runtime bridge stopRequest
    ofExcept (stopped runtime response)

/-- Check that the bridge is responsive. -/
def ping : ScoutM Unit := do
  let response ← request runtime bridge pingRequest
  ofExcept (ponged runtime response)

/-- Connect to the camera port unless there is a connection. -/
def connectCamera : ScoutM Unit := do
  let session ← current
  if session.client.camera then return ()
  else
    attempt (fun session =>
      { session with client := { session.client with camera := true }, frames := [] })
      fun _ session => session

/-- Request a frame and read it. -/
def requestJpeg : ScoutM Bytes := do
  connectCamera
  attempt (fun session => session.handCamera bridge) fun count session =>
    if 0 < count then session.handCamera bridge else session
  let header ← readExact 4
  let length := matlabReader.decodeLength header
  if !matlabReader.acceptsLength length then
    fail ⟨"MoorebotScout:Protocol", s!"The bridge returned an invalid JPEG length: {length}."⟩
  else
    let jpeg ← readExact length
    if !matlabReader.acceptsJpeg jpeg then
      fail ⟨"MoorebotScout:Protocol", "The bridge returned data without JPEG markers."⟩
    else return jpeg

/-- Request the newest frame. -/
def readJpeg : ScoutM Bytes := do
  assertOpen
  handle (requestJpeg bridge) fun cause => do
    update fun session => { session with client := { session.client with camera := false } }
    fail cause

/-- Stop and close the connections. -/
def delete : ScoutM Unit := do
  let session ← current
  if session.client.closed then return ()
  else if session.client.handshakeComplete then
    handle (stop runtime bridge) fun _ => return ()
    closeSockets
  else closeSockets

/-- The calls of a program that uses the client. -/
inductive Call where
  | setVelocity (vx vy vtheta timeout : F64)
  | stop
  | ping
  | readJpeg
  | delete
  deriving DecidableEq

/-- What a call returns. -/
inductive Result where
  | done
  | applied (velocity : List F64)
  | jpeg (bytes : Bytes)
  deriving DecidableEq

/-- Make a call. -/
def perform : Call → ScoutM Result
  | .setVelocity vx vy vtheta timeout => do
    let velocity ← setVelocity runtime bridge vx vy vtheta timeout
    return .applied velocity
  | .stop => do
    stop runtime bridge
    return .done
  | .ping => do
    ping runtime bridge
    return .done
  | .readJpeg => do
    let bytes ← readJpeg bridge
    return .jpeg bytes
  | .delete => do
    delete runtime bridge
    return .done

/-- The client after its construction is over. -/
def constructed (arguments : Arguments) (polls : List Poll) (attempts : List Attempt)
    (readings : List Reading) : Option Session :=
  match construct runtime bridge (.start arguments polls attempts readings) with
  | (.waiting, _) => none
  | (_, after) => some after

/-- The client after a call that is over. -/
def step (session : Session) (call : Call) : Option Session :=
  match perform runtime bridge call session with
  | (.waiting, _) => none
  | (_, after) => some after

end Calls
end Scout.Matlab
