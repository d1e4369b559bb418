import Scout.Codec.BatteryLayout
import Scout.Codec.Frame
import Scout.Codec.SensorLayout
import Scout.Stream.Delivery
import Scout.Wifi.Credentials

/-! Messages are received up to a limit, which no message that can be decoded exceeds. -/

namespace Scout

open Scout.Stream

/-- The longest message of the camera that is received. -/
def maxMediaMessageBytes : Nat := maxFrameDataBytes + 1024

/-- The longest message of a standard sensor that is received. -/
def maxSensorMessageBytes : Nat := maxFrameIdBytes + 4096

/-- The longest message of the battery that is received. -/
def maxBatteryMessageBytes : Nat := 4 + maxBatteryStatusValues * 4

/-- Why a message is not received. -/
inductive MessageError where
  | read (kind : Wifi.ErrorKind)
  | invalidData (description : String)
  deriving DecidableEq

/-- What the reads of a message's body find. -/
abbrev BodyDelivery := Delivery Wifi.ErrorKind UInt8

/-- An interrupted read is tried again. -/
def retried (kind : Wifi.ErrorKind) : Bool := kind == .interrupted

/-- A message of any type that is not longer than a limit. -/
structure BoundedRawMessage (maximumMessageBytes : Nat) where
  bytes : Bytes
  bounded : bytes.length ≤ maximumMessageBytes

namespace BoundedRawMessage

variable {maximumMessageBytes : Nat}

/-- How many bytes are asked for: one more than the limit, which tells longer messages apart. -/
def readLimit (maximumMessageBytes : Nat) : Nat :=
  min (maximumMessageBytes + 1) (2 ^ 64 - 1)

/-- Receive a message. -/
def decode (reader : BodyDelivery) :
    Except MessageError (BoundedRawMessage maximumMessageBytes) :=
  let (failed, bytes) := readToEnd retried (readLimit maximumMessageBytes) reader
  match failed with
  | some kind => .error (.read kind)
  | none =>
    if bounded : bytes.length ≤ maximumMessageBytes then .ok { bytes, bounded }
    else .error (.invalidData "ROS message exceeds the configured byte limit")

/-- The bytes that receiving a message has read. -/
def consumed (maximumMessageBytes : Nat) (reader : BodyDelivery) : Bytes :=
  (readToEnd retried (readLimit maximumMessageBytes) reader).2

end BoundedRawMessage

/-- A subscription: the type of its messages, how they are decoded, and how long they may be. -/
structure Subscription where
  Value : Type
  decodeRos : Bytes → Except DecodeError Value
  maximumMessageBytes : Nat

namespace Subscription

/-- The subscription to a camera. -/
def media : Subscription where
  Value := ScoutFrame
  decodeRos := ScoutFrame.decodeRos
  maximumMessageBytes := maxMediaMessageBytes

/-- The subscription to the inertial sensor. -/
def imu : Subscription where
  Value := ImuSample
  decodeRos := ImuSample.decodeRos
  maximumMessageBytes := maxSensorMessageBytes

/-- The subscription to the range sensor. -/
def tof : Subscription where
  Value := RangeSample
  decodeRos := RangeSample.decodeRos
  maximumMessageBytes := maxSensorMessageBytes

/-- The subscription to the light sensor. -/
def light : Subscription where
  Value := IlluminanceSample
  decodeRos := IlluminanceSample.decodeRos
  maximumMessageBytes := maxSensorMessageBytes

/-- The subscription to the battery. -/
def battery : Subscription where
  Value := BatteryStatus
  decodeRos := BatteryStatus.decodeRos
  maximumMessageBytes := maxBatteryMessageBytes

/-- What a subscription makes of a message: one that is not received or decoded is passed over. -/
def receive (subscription : Subscription) (reader : BodyDelivery) : Option subscription.Value :=
  match (BoundedRawMessage.decode reader :
      Except MessageError (BoundedRawMessage subscription.maximumMessageBytes)) with
  | .error _ => none
  | .ok message => (subscription.decodeRos message.bytes).toOption

end Subscription

/-- The commands of the program that subscribe to anything. -/
inductive SubscribingCommand where
  | teleop
  | monitor
  | cameraBridge
  | integrationBridge
  deriving DecidableEq

namespace SubscribingCommand

/-- What a command subscribes to. -/
def subscriptions : SubscribingCommand → List Subscription
  | teleop => [.media]
  | monitor => [.imu, .tof, .light, .battery]
  | cameraBridge => [.media]
  | integrationBridge => [.media]

/-- The limit of all messages that a command sets up the transport with. -/
def maximumMessageBytes : SubscribingCommand → Nat
  | teleop => maxMediaMessageBytes
  | monitor => maxSensorMessageBytes
  | cameraBridge => maxMediaMessageBytes
  | integrationBridge => maxMediaMessageBytes

end SubscribingCommand
end Scout
