import Scout.Stream.Text

/-! The credentials of a router, and what may come of sending them to the robot. -/

namespace Scout.Wifi

/-- A byte that the firmware can quote safely. -/
def safeFirmwareByte (byte : UInt8) : Bool :=
  (32 ≤ byte && byte ≤ 126) && !(byte == 39 || byte == 34 || byte == 92)

/-- Why a pair of texts is not accepted as credentials. -/
structure WifiValidationError where
  message : String
  deriving DecidableEq

/-- The name and the passphrase of a network, both of a form that the firmware can store. -/
structure WifiCredentials where
  ssid : Text
  password : Text
  ssidLength : 1 ≤ ssid.utf8.length ∧ ssid.utf8.length ≤ 32
  passwordLength : 8 ≤ password.utf8.length ∧ password.utf8.length ≤ 63
  ssidSafe : ssid.utf8.all safeFirmwareByte = true
  passwordSafe : password.utf8.all safeFirmwareByte = true

/-- Append the length of a text and its bytes. -/
def writeString (buffer : Bytes) (text : Text) : Bytes :=
  buffer ++ Stream.littleEndian 4 text.utf8.length ++ text.utf8

namespace WifiCredentials

/-- Accept a name and a passphrase, or say what is wrong with them. -/
def new (ssid password : Text) : Except WifiValidationError WifiCredentials :=
  -- Both lengths are checked before any of the bytes.
  if ssidLength : 1 ≤ ssid.utf8.length ∧ ssid.utf8.length ≤ 32 then
    if passwordLength : 8 ≤ password.utf8.length ∧ password.utf8.length ≤ 63 then
      if ssidSafe : ssid.utf8.all safeFirmwareByte = true then
        if passwordSafe : password.utf8.all safeFirmwareByte = true then
          .ok { ssid, password, ssidLength, passwordLength, ssidSafe, passwordSafe }
        else .error ⟨"Wi-Fi passphrase must use printable ASCII without quotes or backslashes"⟩
      else .error ⟨"SSID must use printable ASCII without quotes or backslashes"⟩
    else .error ⟨"Wi-Fi passphrase must contain 8–63 bytes"⟩
  else .error ⟨"SSID must contain 1–32 bytes"⟩

/-- The body of the service request. -/
def encodeRequest (credentials : WifiCredentials) : Bytes :=
  -- The mode comes first, and one stands for a station.
  writeString (writeString [1] credentials.ssid) credentials.password

end WifiCredentials

/-- The kinds of failure the operating system reports, as far as they are told apart. -/
inductive ErrorKind where
  | timedOut
  | wouldBlock
  | interrupted
  | unexpectedEof
  | writeZero
  | notFound
  | other
  /-- One of the kinds that nothing here asks for. -/
  | unlisted (code : Nat)
  deriving DecidableEq

/-- What may be known after the credentials were sent. -/
inductive WifiProvisioningResult where
  | accepted
  | deliveryUncertain
  deriving DecidableEq

/-- Why the credentials were not sent, or not taken over. -/
inductive WifiProvisioningError where
  | invalidConfiguration (message : String)
  | timeout
  | transport (kind : ErrorKind)
  | protocol (message : String)
  | serviceUnavailable
  | serviceFailed
  | rejected (status : Int8)
  deriving DecidableEq

end Scout.Wifi
