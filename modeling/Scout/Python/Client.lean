import Scout.Bridge.Serve

/-! The control calls of the Python client and the reply stream they read. -/

namespace Scout

/-- The built-in conversions of the language the client is written in. -/
structure PythonRuntime where
  dumps : Json → Bytes
  loads : Bytes → Option Json
  /-- The float of a decoded value, if it has one. -/
  float : Json → Option F64
  str : Json → String
  repr : Json → String
  /-- A float in the short general format. -/
  general : F64 → String

/-- Why a call raises. -/
inductive ClientError where
  /-- A bridge error. -/
  | bridge (message : String)
  /-- A value error. -/
  | value (message : String)
  /-- A decoded value that is no float. -/
  | conversion
  /-- An exception from the wait for the reply. -/
  | interrupted
  deriving DecidableEq

/-- The control calls with their arguments. -/
inductive ControlCall where
  | ping
  | setVelocity (vx vy vtheta timeout : F64)
  | stop
  deriving DecidableEq

/-- What a call returns. -/
inductive ControlReturn where
  | done
  | applied (vx vy vtheta : F64)
  deriving DecidableEq

/-- The exact milliseconds of a request, rounded half to even and at least one. -/
def timeoutMillis (timeout : F64) : Nat :=
  let exact := (timeout * Scalar.ofRat 1000).value
  max 1 (F64.roundHalfEven exact.num.natAbs exact.den)

namespace ScoutClient

/-- Decode one response line. -/
def readResponse (runtime : PythonRuntime) (line : Bytes) : Except ClientError Json :=
  if line = [] then .error (.bridge "bridge closed the control connection")
  -- A line without its newline was cut off, by the limit or by the end of the stream.
  else if maxControlLineBytes < line.length ∨ line.getLast? ≠ some newline then
    .error (.bridge "invalid control response from bridge")
  else
    match runtime.loads line with
    | none => .error (.bridge "bridge returned invalid JSON")
    | some (.object fields) =>
      let response := Json.object fields
      if !response.isOk then
        let message := (response.get "message").map runtime.str
        .error (.bridge (message.getD "bridge reported an error"))
      else .ok response
    | some _ => .error (.bridge "bridge returned a non-object JSON response")

/-- Encode one request line. -/
def encodeRequest (runtime : PythonRuntime) (closed : Bool) (request : Json) :
    Except ClientError Bytes :=
  if closed then .error (.bridge "client is closed")
  else
    let encoded := runtime.dumps request ++ [newline]
    if maxControlLineBytes < encoded.length then .error (.value "control request is too large")
    else .ok encoded

end ScoutClient

namespace ControlCall

/-- The request a call sends once its arguments have been checked. -/
def request (runtime : PythonRuntime) (maxCommandTimeout : F64) :
    ControlCall → Except ClientError Json
  | .ping => .ok (.object [("type", .text "ping")])
  | .stop => .ok (.object [("type", .text "stop")])
  | .setVelocity vx vy vtheta timeout =>
    if !(vx.isFinite && vy.isFinite && vtheta.isFinite && timeout.isFinite) then
      .error (.value "velocity and timeout values must be finite")
    -- The largest timeout is the one that the bridge has announced.
    else if timeout ≤ Scalar.zero ∨ maxCommandTimeout < timeout then
      .error (.value (s!"timeout must be greater than zero and no more than "
        ++ s!"{runtime.general maxCommandTimeout} seconds"))
    else
      .ok (.object [("type", .text "velocity"), ("vx", .float vx), ("vy", .float vy),
        ("vtheta", .float vtheta), ("timeout_ms", .int (timeoutMillis timeout))])

/-- What a call makes of an accepted response. -/
def interpret (runtime : PythonRuntime) (response : Json) :
    ControlCall → Except ClientError ControlReturn
  | .ping =>
    match response.get "type" with
    | some (.text "pong") => .ok .done
    | _ => .error (.bridge (s!"unexpected ping response: {runtime.repr response}"))
  | .stop =>
    match response.get "type" with
    | some (.text "stop") => .ok .done
    | _ => .error (.bridge (s!"unexpected stop response: {runtime.repr response}"))
  | .setVelocity _ _ _ _ =>
    match response.get "applied" with
    | some (.array [vx, vy, vtheta]) =>
      match runtime.float vx, runtime.float vy, runtime.float vtheta with
      | some vx, some vy, some vtheta => .ok (.applied vx vy vtheta)
      | _, _, _ => .error .conversion
    | _ => .error (.bridge (s!"invalid velocity response: {runtime.repr response}"))

/-- What a call makes of a response line. -/
def answer (runtime : PythonRuntime) (line : Bytes) (call : ControlCall) :
    Except ClientError ControlReturn := do
  let response ← ScoutClient.readResponse runtime line
  -- The caller checks again what the reader has checked.
  if !response.isOk then
    let message := (response.get "message").map runtime.str
    throw (.bridge (message.getD "bridge rejected request"))
  call.interpret runtime response

end ControlCall

/-- A response on its way: the number of its request and the bytes that are left of it. -/
structure ReplyLine where
  request : Nat
  bytes : Bytes
  deriving DecidableEq

/-- How the wait of a call for its reply ends. -/
inductive Wait where
  /-- A line is read. -/
  | completed
  /-- An exception is raised after so many bytes of the line have been taken. -/
  | interrupted (taken : Nat)
  deriving DecidableEq

/-- A call that has sent its request, with the request its response line belongs to. -/
structure FinishedCall where
  call : ControlCall
  number : Nat
  source : Option Nat
  result : Except ClientError ControlReturn

/-- A client, the lines on their way to it, and its finished calls, the latest first. -/
structure ControlSession where
  closed : Bool
  maxCommandTimeout : F64
  incoming : List ReplyLine
  /-- The bridge's response to each request line, in the order of the requests. -/
  replies : List Bytes
  calls : List FinishedCall

/-- One call: its arguments, the bridge's response to its request, and the end of its wait. -/
structure ControlEvent where
  call : ControlCall
  reply : Bytes
  wait : Wait
  deriving DecidableEq

/-- Take bytes from the line that comes next. -/
def takeBytes (count : Nat) : List ReplyLine → List ReplyLine
  | [] => []
  | line :: rest =>
    if line.bytes.length ≤ count then rest
    else { line with bytes := line.bytes.drop count } :: rest

namespace ControlSession

/-- A client that has read the greeting. -/
def start (closed : Bool) (maxCommandTimeout : F64) : ControlSession where
  closed := closed
  maxCommandTimeout := maxCommandTimeout
  incoming := []
  replies := []
  calls := []

/-- Wait for the next line, at most one byte longer than a control line may be. -/
def readline (session : ControlSession) : Option (ReplyLine × List ReplyLine) :=
  session.incoming.head?.map fun line =>
    ({ line with bytes := line.bytes.take (maxControlLineBytes + 1) },
      takeBytes (maxControlLineBytes + 1) session.incoming)

/-- Send the request of a call, to which the bridge answers with one line. -/
def send (session : ControlSession) (reply : Bytes) : ControlSession :=
  { session with
    incoming := session.incoming ++ [{ request := session.replies.length, bytes := reply }]
    replies := session.replies ++ [reply] }

/-- Note a finished call. -/
def finish (session : ControlSession) (call : FinishedCall) : ControlSession :=
  { session with calls := call :: session.calls }

/-- Wait for the response to the request that has been sent last. -/
def await (runtime : PythonRuntime) (session : ControlSession) (call : ControlCall)
    (number : Nat) : Wait → Option ControlSession
  | .completed =>
    session.readline.map fun (line, incoming) =>
      { session with incoming }.finish
        { call, number, source := some line.request, result := call.answer runtime line.bytes }
  | .interrupted taken =>
    some ({ session with incoming := takeBytes taken session.incoming }.finish
      { call, number, source := none, result := .error .interrupted })

/-- One call, under the lock that keeps all other calls away. -/
def step (runtime : PythonRuntime) (session : ControlSession) (event : ControlEvent) :
    Option ControlSession :=
  match event.call.request runtime session.maxCommandTimeout >>=
      ScoutClient.encodeRequest runtime session.closed with
  -- A call that raises before it sends anything leaves no trace.
  | .error _ => some session
  | .ok _ =>
    if Stream.takeLine newline event.reply = some (event.reply, []) then
      (session.send event.reply).await runtime event.call session.replies.length event.wait
    else none

end ControlSession
end Scout
