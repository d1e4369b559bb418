import Scout.Bridge.Threads
import Scout.Codec.Frame

/-! Reading one image from the camera port, in both client libraries. -/

namespace Scout

/-- The languages that have a client library. -/
inductive ClientLanguage where
  | python
  | matlab
  deriving DecidableEq

/-- The longest image a client accepts. -/
def maxJpegBytes : Nat := 16 * 1024 * 1024

/-- What a client does with the two parts of a response. -/
structure JpegReader where
  decodeLength : Bytes → Nat
  acceptsLength : Nat → Bool
  acceptsJpeg : Bytes → Bool

/-- The reader of the Python client. -/
def pythonReader : JpegReader where
  decodeLength header := Stream.ofBigEndian header
  acceptsLength length := !(length == 0 || decide (maxJpegBytes < length))
  acceptsJpeg jpeg := !(!ScoutFrame.startMarker.isPrefixOf jpeg ||
    !ScoutFrame.endMarker.isSuffixOf jpeg)

/-- The reader of the MATLAB client, whose sums of doubles are exact. -/
def matlabReader : JpegReader where
  decodeLength header := (header.getD 0 0).toNat * 16777216 + (header.getD 1 0).toNat * 65536 +
    (header.getD 2 0).toNat * 256 + (header.getD 3 0).toNat
  acceptsLength length := !(decide (length < 1) || decide (maxJpegBytes < length))
  acceptsJpeg jpeg := !(decide (jpeg.length < 4) || jpeg.take 2 != ScoutFrame.startMarker ||
    jpeg.drop (jpeg.length - 2) != ScoutFrame.endMarker)

/-- The reader of a language's client. -/
def ClientLanguage.reader : ClientLanguage → JpegReader
  | .python => pythonReader
  | .matlab => matlabReader

/-- An open camera connection, how often a frame was asked for, and what has been received. -/
structure CameraSocket where
  connection : Connection
  asked : Nat
  received : Bytes
  deriving DecidableEq

/-- Where a client stands in a call that reads an image. -/
inductive ReadJpegPhase where
  /-- No call is running. -/
  | idle
  | connecting
  | asking
  | header (received : Bytes)
  | payload (length : Nat) (received : Bytes)
  deriving DecidableEq

/-- How a call ends. -/
inductive ReadJpegResult where
  | returned (jpeg : Bytes)
  /-- The client had been closed. -/
  | closed
  /-- The length or the markers are not accepted. -/
  | refused
  /-- An operation failed, the stream ended, or the call was interrupted. -/
  | failed
  deriving DecidableEq

/-- What happens next to a client. -/
inductive ReadJpegInput where
  | call
  | connected (connection : Connection)
  | sent
  /-- Some bytes arrive, and none at the end of the stream. -/
  | received (chunk : Bytes)
  | failed
  deriving DecidableEq

/-- A client with its control connection and, once needed, a camera connection. -/
structure CameraClient (Control : Type) where
  closed : Bool
  control : Option Control
  camera : Option CameraSocket
  phase : ReadJpegPhase

namespace CameraClient

variable {Control : Type}

/-- A client that has not read any image. -/
def start (closed : Bool) (control : Option Control) : CameraClient Control where
  closed := closed
  control := control
  camera := none
  phase := .idle

/-- Whether a client lets a call begin. -/
def isOpen (client : CameraClient Control) : ClientLanguage → Bool
  | .python => !client.closed
  | .matlab => !(client.closed || client.control.isNone)

/-- End a call with an error: the camera connection is dropped. -/
def fail (client : CameraClient Control) (result : ReadJpegResult) :
    CameraClient Control × Option ReadJpegResult :=
  ({ client with camera := none, phase := .idle }, some result)

/-- Continue a call in another phase. -/
def goto (client : CameraClient Control) (phase : ReadJpegPhase) :
    CameraClient Control × Option ReadJpegResult :=
  ({ client with phase }, none)

/-- Note what has been received on the camera connection. -/
def receive (client : CameraClient Control) (chunk : Bytes) : CameraClient Control :=
  { client with
    camera := client.camera.map fun socket =>
      { socket with received := socket.received ++ chunk } }

/-- Note that a request byte has been sent on the camera connection. -/
def ask (client : CameraClient Control) : CameraClient Control :=
  { client with camera := client.camera.map fun socket => { socket with asked := socket.asked + 1 } }

/-- Go on with the header of a response, and with its length once the header is complete. -/
def receiveHeader (reader : JpegReader) (client : CameraClient Control) (header : Bytes) :
    CameraClient Control × Option ReadJpegResult :=
  if header.length < 4 then client.goto (.header header)
  else
    let length := reader.decodeLength header
    if reader.acceptsLength length then client.goto (.payload length []) else client.fail .refused

/-- Go on with the image of a response, and check its markers once it is complete. -/
def receivePayload (reader : JpegReader) (client : CameraClient Control) (length : Nat)
    (jpeg : Bytes) : CameraClient Control × Option ReadJpegResult :=
  if jpeg.length < length then client.goto (.payload length jpeg)
  else if reader.acceptsJpeg jpeg then ({ client with phase := .idle }, some (.returned jpeg))
  else client.fail .refused

/-- One effect of a call, if the environment's answer fits its phase, and the call's result. -/
def readJpeg (language : ClientLanguage) (client : CameraClient Control) (input : ReadJpegInput) :
    Option (CameraClient Control × Option ReadJpegResult) :=
  match client.phase, input with
  | .idle, .call =>
    if client.isOpen language then
      some (client.goto (if client.camera.isNone then .connecting else .asking))
    else some (client, some .closed)
  | .connecting, .connected connection =>
    let camera := some { connection, asked := 0, received := [] }
    some ({ client with camera }.goto .asking)
  | .asking, .sent => some (client.ask.goto (.header []))
  -- The end of the stream is an error of the client's own.
  | .header _, .received [] => some (client.fail .failed)
  | .header received, .received chunk =>
    if received.length + chunk.length ≤ 4 then
      some ((client.receive chunk).receiveHeader language.reader (received ++ chunk))
    else none
  | .payload _ _, .received [] => some (client.fail .failed)
  | .payload length received, .received chunk =>
    if received.length + chunk.length ≤ length then
      some ((client.receive chunk).receivePayload language.reader length (received ++ chunk))
    else none
  | .idle, .failed => none
  | _, .failed => some (client.fail .failed)
  | _, _ => none

end CameraClient
end Scout
