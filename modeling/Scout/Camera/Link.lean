import Scout.Camera.Client
import Scout.Camera.Threads

/-! A client reading images from the camera side of the bridge, with the bytes between them. -/

namespace Scout

/-- A finished call: its connection, the number of its request on it, and its result. -/
structure CameraCall where
  connection : Option Connection
  request : Nat
  result : ReadJpegResult
  deriving DecidableEq

/-- The bridge, one client of it, and the calls that have ended, the latest first. -/
structure CameraLink (Control : Type) where
  server : CameraServer
  client : CameraClient Control
  /-- How many request bytes are under way on each connection the client has opened. -/
  underWay : Connection → Option Nat
  calls : List CameraCall

/-- One step of the bridge, of the client, or of the network between them. -/
inductive CameraLinkEvent where
  /-- The camera topic delivers a message. -/
  | message (message : Bytes)
  /-- The bridge or another client of it takes a step. -/
  | server (event : CameraEvent)
  | call
  | connect
  | send
  /-- Some bytes that were written for the client arrive. -/
  | receive (count : Nat)
  /-- The stream ends. -/
  | close
  /-- An operation of the client fails or is interrupted. -/
  | fail
  deriving DecidableEq

/-- Everything that has been written on a connection. -/
def CameraServer.writtenOn (server : CameraServer) (connection : Connection) : Bytes :=
  match server.workers connection with
  | some worker => worker.serve.written
  | none => []

namespace CameraLink

variable {Control : Type}

/-- The bridge and a client have just been started. -/
def start (closed : Bool) (control : Option Control) : CameraLink Control where
  server := CameraServer.start
  client := CameraClient.start closed control
  underWay _ := none
  calls := []

/-- One effect of the client, whose result is noted when a call ends. -/
def runClient (language : ClientLanguage) (link : CameraLink Control) (input : ReadJpegInput) :
    Option (CameraLink Control) :=
  (link.client.readJpeg language input).map fun (client, result) =>
    let ended := result.map fun result => {
      connection := link.client.camera.map CameraSocket.connection
      request := (link.client.camera.map CameraSocket.asked).getD 0
      result }
    { link with client, calls := ended.toList ++ link.calls }

/-- Read request bytes of the client from the network, which delivers only what was sent. -/
def deliver (link : CameraLink Control) (connection : Connection) (bytes : Bytes) :
    Option (CameraLink Control) :=
  match link.underWay connection, bytes with
  | none, _ => some link
  | some _, [] => some link
  | some (count + 1), [byte] =>
    if byte = cameraRequest then
      some { link with underWay := Function.update link.underWay connection (some count) }
    else none
  | some _, _ => none

/-- One step of the bridge or of another client of it. -/
def runServer (link : CameraLink Control) (event : CameraEvent) : Option (CameraLink Control) :=
  match link.server.step event with
  | none => none
  | some server =>
    match event with
    -- Frames come from the camera topic only.
    | .publish _ => none
    | .worker connection (.read (.data bytes)) => { link with server }.deliver connection bytes
    | _ => some { link with server }

/-- One step of everything. -/
def step (language : ClientLanguage) (link : CameraLink Control) :
    CameraLinkEvent → Option (CameraLink Control)
  | .message message =>
    match ScoutFrame.forwarded message with
    | some jpeg => (link.server.step (.publish jpeg)).map fun server => { link with server }
    | none => some link
  | .server event => link.runServer event
  | .call => link.runClient language .call
  | .connect =>
    (link.server.step .connect).bind fun server =>
      let connection := link.server.nextConnection
      let underWay := Function.update link.underWay connection (some 0)
      { link with server, underWay }.runClient language (.connected connection)
  | .send =>
    link.client.camera.bind fun socket =>
      let count := (link.underWay socket.connection).map (· + 1)
      let underWay := Function.update link.underWay socket.connection count
      { link with underWay }.runClient language .sent
  | .receive count =>
    link.client.camera.bind fun socket =>
      let waiting := (link.server.writtenOn socket.connection).drop socket.received.length
      if 0 < count ∧ count ≤ waiting.length then
        link.runClient language (.received (waiting.take count))
      else none
  | .close => link.runClient language (.received [])
  | .fail => link.runClient language .failed

end CameraLink
end Scout
