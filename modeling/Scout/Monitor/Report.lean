import Scout.Codec.Battery
import Scout.Codec.Sensors
import Scout.Machine.Latest
import Scout.Number.Rounding

/-! What is known of the robot's sensors, and what is reported of it. -/

namespace Scout

/-- Whether a finite number has no fractional part. -/
def F64.isIntegral (number : F64) : Bool := number.value.den = 1

/-- The two channels of the light sensor, if a reading packs them. -/
def IlluminanceSample.packedChannels (sample : IlluminanceSample) : Option (UInt16 × UInt16) :=
  if !sample.illuminance.isFinite ∨ sample.illuminance < Scalar.zero ∨
      Scalar.ofRat (2 ^ 32 - 1) < sample.illuminance ∨ !sample.illuminance.isIntegral then none
  else
    let packed := sample.illuminance.value.num.toNat
    some (UInt16.ofNat (packed / 2 ^ 16), UInt16.ofNat packed)

/-- Two halves of a number are known exactly if the number is. -/
theorem halves_eq_iff {packed : Nat} (small : packed < 2 ^ 32) {first second : UInt16} :
    (UInt16.ofNat (packed / 2 ^ 16), UInt16.ofNat packed) = (first, second) ↔
      packed = first.toNat * 2 ^ 16 + second.toNat := by
  -- The two halves are the quotient and the remainder.
  have high := first.toNat_lt
  have low := second.toNat_lt
  rw [Prod.mk.injEq, ← UInt16.toNat_inj, ← UInt16.toNat_inj, UInt16.toNat_ofNat',
    UInt16.toNat_ofNat']
  omega

/-- The channels of a reading are the halves of the number that it is. -/
theorem IlluminanceSample.packedChannels_eq_some {sample : IlluminanceSample}
    {first second : UInt16} :
    sample.packedChannels = some (first, second) ↔ sample.illuminance.isFinite = true ∧
      sample.illuminance.value = (first.toNat * 2 ^ 16 + second.toNat : Nat) := by
  -- The bounds of the test are numbers themselves.
  have ends : (Scalar.zero : F64).isFinite = true ∧ (Scalar.zero : F64).value = 0 ∧
      (Scalar.ofRat (2 ^ 32 - 1) : F64).isFinite = true ∧
      (Scalar.ofRat (2 ^ 32 - 1) : F64).value = 2 ^ 32 - 1 := by
    decide +kernel
  obtain ⟨zeroFinite, zero, mostFinite, most⟩ := ends
  have high := first.toNat_lt
  have low := second.toNat_lt
  unfold packedChannels
  generalize sample.illuminance = number
  have below (finite : number.isFinite = true) :
      number < Scalar.zero ↔ number.value < 0 := by
    rw [F64.lt_iff finite zeroFinite, ← not_le, ← F64.value_le_iff, zero, not_le]
  have above (finite : number.isFinite = true) :
      Scalar.ofRat (2 ^ 32 - 1) < number ↔ 2 ^ 32 - 1 < number.value := by
    rw [F64.lt_iff mostFinite finite, ← not_le, ← F64.value_le_iff, most, not_le]
  by_cases finite : number.isFinite = true
  · simp only [below finite, above finite, F64.isIntegral, finite, Bool.not_true,
      Bool.false_eq_true, false_or, true_and, Bool.not_eq_true', decide_eq_false_iff_not]
    generalize number.value = value
    by_cases refused : value < 0 ∨ 2 ^ 32 - 1 < value ∨ ¬ value.den = 1
    · -- A number of thirty-two bits is not refused.
      rw [if_pos refused]
      refine iff_of_false (fun same => by cases same) fun same => ?_
      rw [same] at refused
      rcases refused with negative | large | fraction
      · exact absurd negative (not_lt.mpr (Nat.cast_nonneg _))
      · have bounded : first.toNat * 2 ^ 16 + second.toNat ≤ 2 ^ 32 - 1 := by omega
        have cast : ((first.toNat * 2 ^ 16 + second.toNat : Nat) : ℚ) ≤ (2 ^ 32 - 1 : Nat) :=
          Nat.cast_le.mpr bounded
        norm_num at cast large
        linarith
      · exact fraction (Rat.den_natCast _)
    · rw [if_neg refused]
      simp only [not_or, not_lt, not_not] at refused
      obtain ⟨nonneg, small, integral⟩ := refused
      -- The number is its numerator, which is not negative.
      obtain ⟨packed, same⟩ := Int.eq_ofNat_of_zero_le (Rat.num_nonneg.mpr nonneg)
      have whole : value = (packed : ℚ) := by
        rw [← Rat.coe_int_num_of_den_eq_one integral, same]
        rfl
      have fits : packed < 2 ^ 32 := by
        rw [whole] at small
        have cast : (packed : ℚ) < ((2 ^ 32 : Nat) : ℚ) := by
          norm_num at small ⊢
          linarith
        exact Nat.cast_lt.mp cast
      have natural : value.num.toNat = packed := by
        rw [same]
        rfl
      rw [Option.some.injEq, natural, halves_eq_iff fits, whole, Nat.cast_inj]
  · have refused : number.isFinite = false := by simpa using finite
    rw [if_pos (.inl (by rw [refused]; rfl)), refused]
    exact iff_of_false (fun same => by cases same) fun both => Bool.false_ne_true both.1

/-- The topics that are monitored, in the order in which they are subscribed to. -/
inductive SensorTopic where
  | imu
  | tof
  | light
  | battery
  deriving DecidableEq

/-- The last reading of each sensor. -/
structure SensorSnapshot where
  imu : Option ImuSample := none
  tof : Option RangeSample := none
  light : Option IlluminanceSample := none
  battery : Option BatteryStatus := none

/-- One line of a report, with the values that are written in it. -/
inductive ReportLine where
  | imu (linearAcceleration angularVelocity : Vector3)
  | tof (rangeM : F32)
  | channels (illuminance : F64) (first second : UInt16)
  | light (illuminance : F64)
  | battery (percentage : UInt8) (state : BatteryState) (externallyPowered : Bool)
  /-- No sensor has been heard of. -/
  | waiting
  deriving DecidableEq

namespace SensorSnapshot

/-- Keep the value of a message that can be decoded. -/
def receive (snapshot : SensorSnapshot) (topic : SensorTopic) (bytes : Bytes) : SensorSnapshot :=
  match topic with
  | .imu =>
    match ImuSample.decodeRos bytes with
    | .ok value => { snapshot with imu := some value }
    | .error _ => snapshot
  | .tof =>
    match RangeSample.decodeRos bytes with
    | .ok value => { snapshot with tof := some value }
    | .error _ => snapshot
  | .light =>
    match IlluminanceSample.decodeRos bytes with
    | .ok value => { snapshot with light := some value }
    | .error _ => snapshot
  | .battery =>
    match BatteryStatus.decodeRos bytes with
    | .ok value => { snapshot with battery := some value }
    | .error _ => snapshot

/-- The line about the light, with its channels if there are any. -/
def lightLine (light : IlluminanceSample) : ReportLine :=
  match light.packedChannels with
  | some (first, second) => .channels light.illuminance first second
  | none => .light light.illuminance

/-- The lines that are written about the readings. -/
def report (snapshot : SensorSnapshot) : List ReportLine :=
  (snapshot.imu.map fun imu => ReportLine.imu imu.linearAcceleration imu.angularVelocity).toList ++
    (snapshot.tof.map fun tof => ReportLine.tof tof.rangeM).toList ++
    (snapshot.light.map lightLine).toList ++
    (snapshot.battery.map fun battery =>
      ReportLine.battery battery.percentage battery.state battery.externallyPowered).toList ++
    if snapshot.imu.isNone ∧ snapshot.tof.isNone ∧ snapshot.light.isNone ∧
      snapshot.battery.isNone then [.waiting] else []

end SensorSnapshot

/-- A message of one of the topics. -/
structure SensorMessage where
  topic : SensorTopic
  bytes : Bytes

namespace SensorMessage

/-- What a message is decoded as, if it is one of the given topic. -/
def read {Sample : Type} (topic : SensorTopic) (decodeRos : Bytes → Except DecodeError Sample)
    (message : SensorMessage) : Option Sample :=
  if message.topic = topic then (decodeRos message.bytes).toOption else none

end SensorMessage

open Machine SensorMessage

/-- The last reading of each sensor that some messages give. -/
def SensorSnapshot.ofMessages (messages : List SensorMessage) : SensorSnapshot where
  imu := latest (read .imu ImuSample.decodeRos) messages
  tof := latest (read .tof RangeSample.decodeRos) messages
  light := latest (read .light IlluminanceSample.decodeRos) messages
  battery := latest (read .battery BatteryStatus.decodeRos) messages

/-- Receiving one more message gives the last readings of all of them. -/
theorem SensorSnapshot.receive_ofMessages (messages : List SensorMessage)
    (message : SensorMessage) :
    (ofMessages messages).receive message.topic message.bytes =
      ofMessages (messages ++ [message]) := by
  -- A message refreshes the reading of its own topic, if it can be decoded.
  obtain ⟨topic, bytes⟩ := message
  unfold ofMessages
  simp only [latest_concat, refresh, SensorMessage.read]
  cases topic with
  | imu =>
    simp only [receive]
    cases ImuSample.decodeRos bytes <;> rfl
  | tof =>
    simp only [receive]
    cases RangeSample.decodeRos bytes <;> rfl
  | light =>
    simp only [receive]
    cases IlluminanceSample.decodeRos bytes <;> rfl
  | battery =>
    simp only [receive]
    cases BatteryStatus.decodeRos bytes <;> rfl

/-- Whether a message can be decoded as one of its topic. -/
def SensorMessage.decodes (message : SensorMessage) : Bool :=
  match message.topic with
  | .imu => (ImuSample.decodeRos message.bytes).isOk
  | .tof => (RangeSample.decodeRos message.bytes).isOk
  | .light => (IlluminanceSample.decodeRos message.bytes).isOk
  | .battery => (BatteryStatus.decodeRos message.bytes).isOk

/-- Only a report without readings says that it waits. -/
theorem SensorSnapshot.waiting_mem {snapshot : SensorSnapshot} :
    .waiting ∈ snapshot.report ↔ snapshot.imu = none ∧ snapshot.tof = none ∧
      snapshot.light = none ∧ snapshot.battery = none := by
  -- The lines about readings are other lines.
  have light (sample : IlluminanceSample) : lightLine sample ≠ .waiting := by
    unfold lightLine
    split <;> nofun
  obtain ⟨imu, tof, light_, battery⟩ := snapshot
  cases imu <;> cases tof <;> cases light_ <;> cases battery <;>
    simp [report, (light _).symm]

/-- A report says that it waits exactly as long as no message can be decoded. -/
theorem SensorSnapshot.waiting_mem_report (messages : List SensorMessage) :
    .waiting ∈ (ofMessages messages).report ↔ ∀ message ∈ messages, message.decodes = false := by
  -- Every message is one of the four topics.
  have unread {Sample : Type} (result : Except DecodeError Sample) :
      result.toOption = none ↔ result.isOk = false := by
    cases result <;> simp [Except.toOption, Except.isOk, Except.toBool]
  rw [waiting_mem]
  unfold ofMessages
  simp only [latest_eq_none, SensorMessage.read]
  constructor
  · rintro ⟨imu, tof, light, battery⟩ message member
    have read := And.intro (imu message member) (And.intro (tof message member)
      (And.intro (light message member) (battery message member)))
    unfold SensorMessage.decodes
    cases topic : message.topic <;> simp only [topic, if_true, unread] at read
    · exact read.1
    · exact read.2.1
    · exact read.2.2.1
    · exact read.2.2.2
  · intro all
    have topics (topic : SensorTopic) {Sample : Type} (decode : Bytes → Except DecodeError Sample)
        (same : ∀ message ∈ messages, message.topic = topic →
          (decode message.bytes).isOk = message.decodes) :
        ∀ message ∈ messages,
          (if message.topic = topic then (decode message.bytes).toOption else none) = none := by
      intro message member
      split
      · rename_i own
        rw [unread, same message member own]
        exact all message member
      · rfl
    refine ⟨topics .imu _ ?_, topics .tof _ ?_, topics .light _ ?_, topics .battery _ ?_⟩ <;>
      exact fun message _ own => by simp only [SensorMessage.decodes, own]

end Scout
