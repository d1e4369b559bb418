import Scout.Codec.Fields

/-! The messages of the inertial, range and light sensors, each decoded from exactly its layout. -/

namespace Scout

open Scout.Stream Cursor Decoder

/-- The longest identifier of a frame of reference that is accepted. -/
def maxFrameIdBytes : Nat := 4 * 1024

/-- A time as the robot's clock gives it. -/
structure RosTime where
  seconds : UInt32
  nanoseconds : UInt32
  deriving DecidableEq

/-- What every sensor message begins with. -/
structure RosHeader where
  sequence : UInt32
  stamp : RosTime
  frameId : Text
  deriving DecidableEq

/-- A vector in space. -/
structure Vector3 where
  x : F64
  y : F64
  z : F64
  deriving DecidableEq

/-- An orientation in space. -/
structure Quaternion where
  x : F64
  y : F64
  z : F64
  w : F64
  deriving DecidableEq

/-- One message of the inertial sensor. -/
@[ext] structure ImuSample where
  header : RosHeader
  orientation : Quaternion
  orientationCovariance : Vector F64 9
  angularVelocity : Vector3
  angularVelocityCovariance : Vector F64 9
  linearAcceleration : Vector3
  linearAccelerationCovariance : Vector F64 9
  deriving DecidableEq

/-- One message of a range sensor. -/
@[ext] structure RangeSample where
  header : RosHeader
  radiationType : UInt8
  fieldOfViewRad : F32
  minRangeM : F32
  maxRangeM : F32
  rangeM : F32
  deriving DecidableEq

/-- One message of the light sensor. -/
@[ext] structure IlluminanceSample where
  header : RosHeader
  illuminance : F64
  variance : F64
  deriving DecidableEq

/-- Read what every sensor message begins with. -/
def decodeHeader : Decode RosHeader := do
  let sequence ← readU32
  let seconds ← readU32
  let nanoseconds ← readU32
  let frameId ← readStringLimited maxFrameIdBytes
  return { sequence, stamp := { seconds, nanoseconds }, frameId }

/-- Read the components of a vector. -/
def decodeVector3 : Decode Vector3 := do
  let x ← readF64
  let y ← readF64
  let z ← readF64
  return { x, y, z }

/-- Read the components of an orientation. -/
def decodeQuaternion : Decode Quaternion := do
  let x ← readF64
  let y ← readF64
  let z ← readF64
  let w ← readF64
  return { x, y, z, w }

/-- Read a covariance matrix, row by row. -/
def decodeCovariance : Decode (Vector F64 9) := readEach readF64 9

namespace ImuSample

/-- Read the fields of a message in their order. -/
def decode : Decode ImuSample := do
  let header ← decodeHeader
  let orientation ← decodeQuaternion
  let orientationCovariance ← decodeCovariance
  let angularVelocity ← decodeVector3
  let angularVelocityCovariance ← decodeCovariance
  let linearAcceleration ← decodeVector3
  let linearAccelerationCovariance ← decodeCovariance
  finish
  return {
    header, orientation, orientationCovariance, angularVelocity, angularVelocityCovariance
    linearAcceleration, linearAccelerationCovariance }

/-- Decode a message of the inertial sensor. -/
def decodeRos (input : Bytes) : Except DecodeError ImuSample := decoded (decode (new input))

end ImuSample

namespace RangeSample

/-- Read the fields of a message in their order. -/
def decode : Decode RangeSample := do
  let header ← decodeHeader
  let radiationType ← readU8
  let fieldOfViewRad ← readF32
  let minRangeM ← readF32
  let maxRangeM ← readF32
  let rangeM ← readF32
  finish
  return { header, radiationType, fieldOfViewRad, minRangeM, maxRangeM, rangeM }

/-- Decode a message of a range sensor. -/
def decodeRos (input : Bytes) : Except DecodeError RangeSample := decoded (decode (new input))

end RangeSample

namespace IlluminanceSample

/-- Read the fields of a message in their order. -/
def decode : Decode IlluminanceSample := do
  let header ← decodeHeader
  let illuminance ← readF64
  let variance ← readF64
  finish
  return { header, illuminance, variance }

/-- Decode a message of the light sensor. -/
def decodeRos (input : Bytes) : Except DecodeError IlluminanceSample :=
  decoded (decode (new input))

end IlluminanceSample

end Scout
