import Scout.Wifi.Network

/-! Length-prefixed frames, and the header that both sides of a service connection exchange. -/

namespace Scout.Wifi

open Machine Dialogue

/-- The name of the service that changes the robot's network. -/
def wifiSwitchSsidKey : Text := "/WiFiNode/switch_wifi_ssidkey".toList

/-- The type of that service. -/
def serviceType : Text := "roller_eye/wifi_switch_ssid_key".toList

/-- The checksum of that type. -/
def serviceMd5 : Text := "879dd501d4c8e7d6703c458f6fc7737c".toList

/-- The longest header of a service that is accepted. -/
def maxServiceHeader : Nat := 64 * 1024

/-- The longest text of a service's failure that is accepted. -/
def maxServiceError : Nat := 1024

/-- Read a frame of limited length, where a way to fill a buffer is given. -/
def readFrame {σ : Type} (readExact : Nat → Dialogue σ ErrorKind Bytes) (limit : Nat) :
    Dialogue σ WifiProvisioningError Bytes := do
  let header ← (readExact 4).mapError transportError
  let length := Stream.ofLittleEndian header
  -- The length is checked before room is made for the bytes.
  if limit < length then fail (.protocol "ROS service frame exceeds limit")
  else (readExact length).mapError transportError

/-- Write a frame, where a way to write bytes is given. -/
def writeFrame {σ : Type} (writeAll : Bytes → Dialogue σ ErrorKind Unit) (body : Bytes) :
    Dialogue σ ErrorKind Unit := do
  writeAll (Stream.littleEndian 4 body.length)
  writeAll body

/-- A frame as it is appended to a buffer in memory. -/
def frame (body : Bytes) : Bytes :=
  Stream.littleEndian 4 body.length ++ body

/-- Fill a buffer from a slice of bytes, which is used up when it is too short. -/
def sliceReadExact (length : Nat) : Dialogue Bytes ErrorKind Bytes := fun cursor =>
  if cursor.length < length then (.failed .unexpectedEof, [])
  else (.returned (cursor.take length), cursor.drop length)

/-- The fields that introduce this client to a service. -/
def headerFields (caller : Text) : List Text :=
  ["callerid=".toList ++ caller, "service=".toList ++ wifiSwitchSsidKey,
    "md5sum=".toList ++ serviceMd5, "type=".toList ++ serviceType, "persistent=0".toList]

/-- The header that introduces this client to a service. -/
def requestHeader (caller : Text) : Bytes :=
  (headerFields caller).flatMap fun field => frame field.utf8

/-- Add a field to those that were read, unless it is not one or its name is taken. -/
def insertField (fields : List (Text × Text)) (field : Bytes) :
    Except WifiProvisioningError (List (Text × Text)) :=
  match Text.ofUtf8 field with
  | none => .error (.protocol "invalid ROS service header encoding")
  | some text =>
    match text.splitOnce '=' with
    | none => .error (.protocol "invalid ROS service header field")
    | some (name, value) =>
      -- A name must not come twice, whichever value would count.
      if (fields.lookup name).isSome then
        .error (.protocol "duplicate ROS service header field")
      else .ok ((name, value) :: fields)

/-- One round of reading the fields of a header. -/
def fieldRound (fields : List (Text × Text)) :
    Dialogue Bytes WifiProvisioningError (List (Text × Text) ⊕ List (Text × Text)) := do
  let cursor ← current
  -- The fields fill the body exactly.
  if cursor.isEmpty then return .inr fields
  else if 128 ≤ fields.length then fail (.protocol "too many ROS service header fields")
  else do
    let field ← readFrame sliceReadExact maxServiceHeader
    let fields ← ofExcept (insertField fields field)
    return .inl fields

/-- The fields of a header. -/
def readFields : Dialogue Bytes WifiProvisioningError (List (Text × Text)) :=
  repeatUntil List.length fieldRound []

/-- Check that the fields come from the service that is meant. -/
def checkFields (fields : List (Text × Text)) : Except WifiProvisioningError Unit :=
  if (fields.lookup "error".toList).isSome then .error .serviceFailed
  else if fields.lookup "md5sum".toList ≠ some serviceMd5 then
    .error (.protocol "Scout Wi-Fi service schema does not match the supported firmware")
  -- The type may be left out, unlike the checksum.
  else if (fields.lookup "type".toList).any fun value => value ≠ serviceType then
    .error (.protocol "Scout Wi-Fi service type does not match the supported firmware")
  else .ok ()

/-- Introduce this client to a service and check what the service answers. -/
def handshake (connection : Connection) (caller : Text) :
    NetworkM WifiProvisioningError Unit := do
  (writeFrame connection.writeAll (requestHeader caller)).mapError transportError
  let body ← readFrame connection.readExact maxServiceHeader
  let fields ← within body readFields
  ofExcept (checkFields fields)

end Scout.Wifi
