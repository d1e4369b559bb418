import Scout.Codec.Fields

/-! The status of the battery, as a vector of integers. -/

namespace Scout

open Scout.Stream Decoder

/-- The most integers that the status of the battery may have. -/
def maxBatteryStatusValues : Nat := 64

/-- What the battery is doing. -/
inductive BatteryState where
  | charging
  | discharging
  | full
  | unknown (value : Int32)
  deriving DecidableEq

namespace BatteryState

/-- The meaning of the first integer of a status. -/
def ofInt32 (value : Int32) : BatteryState :=
  if value = 0 then .charging
  else if value = 1 then .discharging
  else if value = 2 then .full
  else .unknown value

/-- The integer with a given meaning. -/
def toInt32 : BatteryState → Int32
  | charging => 0
  | discharging => 1
  | full => 2
  | unknown value => value

/-- A state is named by its number only if it has no other name. -/
def Named (state : BatteryState) : Prop :=
  ∀ value, state = .unknown value → value ≠ 0 ∧ value ≠ 1 ∧ value ≠ 2

end BatteryState

/-- One status of the battery. -/
structure BatteryStatus where
  state : BatteryState
  percentage : UInt8
  externallyPowered : Bool
  raw : List Int32
  deriving DecidableEq

/-- The byte with a given value, if there is one. -/
def u8OfI32 (value : Int32) : Option UInt8 :=
  if 0 ≤ value.toInt ∧ value.toInt < 256 then some (UInt8.ofNat value.toInt.toNat) else none

/-- Check that so many bytes are left. -/
def Decoder.require (requiredBytes : Nat) : Decode Unit := do
  let decoder ← get
  if decoder.remaining < requiredBytes then
    throw (.unexpectedEnd requiredBytes decoder.remaining)

namespace BatteryStatus

/-- The error of a status that is too short to be one. -/
def tooShort : DecodeError := .invalidValue "battery status must have at least three values"

/-- The error of a percentage that is none. -/
def notPercentage : DecodeError := .invalidValue "battery percentage must be between 0 and 100"

/-- What at least three integers say about the battery. -/
def ofRaw {length : Nat} (raw : Vector Int32 length) (enough : 3 ≤ length) :
    Except DecodeError BatteryStatus :=
  match (u8OfI32 raw[1]).filter (· ≤ 100) with
  | none => .error notPercentage
  | some percentage => .ok {
      state := BatteryState.ofInt32 raw[0]
      percentage
      externallyPowered := raw[2] != 0
      raw := raw.toList }

/-- Read the number of the integers, then these, and say what they mean. -/
def decode : Decode BatteryStatus := do
  let rawLength ← readU32
  let length := rawLength.toNat
  if maxBatteryStatusValues < length then throw (.invalidLength rawLength)
  else if short : length < 3 then throw tooShort
  else do
    -- All bytes of the integers must be there before the first of them is read.
    require (length * 4)
    let raw ← readEach readI32 length
    finish
    -- With three integers at least, none of the three that are looked at is missing.
    ofExcept (ofRaw raw (Nat.not_lt.mp short))

/-- Decode a message of the battery. -/
def decodeRos (input : Bytes) : Except DecodeError BatteryStatus := decoded (decode (new input))

end BatteryStatus
end Scout
