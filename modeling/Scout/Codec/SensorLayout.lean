import Scout.Codec.Sensors

/-! Each sensor message is decoded from exactly its layout, and from no two different ones alike. -/

namespace Scout

open Scout.Stream Cursor Decoder

namespace RosHeader

/-- The bytes of a header, field after field. -/
def layout (header : RosHeader) : Bytes :=
  u32ToLeBytes header.sequence ++ u32ToLeBytes header.stamp.seconds ++
    u32ToLeBytes header.stamp.nanoseconds ++ lengthPrefixed header.frameId.utf8

/-- A header whose identifier is not too long. -/
def Limited (header : RosHeader) : Prop := header.frameId.utf8.length ≤ maxFrameIdBytes

/-- The length of the identifier that a message announces. -/
def frameIdLength (message : Bytes) : Nat := ofLittleEndian ((message.drop 12).take 4)

end RosHeader

namespace Vector3

/-- The bytes of a vector, component after component. -/
def layout (vector : Vector3) : Bytes :=
  f64ToLeBytes vector.x ++ f64ToLeBytes vector.y ++ f64ToLeBytes vector.z

end Vector3

namespace Quaternion

/-- The bytes of an orientation, component after component. -/
def layout (quaternion : Quaternion) : Bytes :=
  f64ToLeBytes quaternion.x ++ f64ToLeBytes quaternion.y ++ f64ToLeBytes quaternion.z ++
    f64ToLeBytes quaternion.w

end Quaternion

/-- The bytes of some numbers, one after another. -/
def numbersLayout {count : Nat} (numbers : Vector F64 count) : Bytes :=
  numbers.toList.flatMap f64ToLeBytes

/-- The bytes of a message of the inertial sensor, field after field. -/
def ImuSample.layout (sample : ImuSample) : Bytes :=
  sample.header.layout ++ sample.orientation.layout ++ numbersLayout sample.orientationCovariance ++
    sample.angularVelocity.layout ++ numbersLayout sample.angularVelocityCovariance ++
    sample.linearAcceleration.layout ++ numbersLayout sample.linearAccelerationCovariance

/-- The bytes of a message of a range sensor, field after field. -/
def RangeSample.layout (sample : RangeSample) : Bytes :=
  sample.header.layout ++ [sample.radiationType] ++ f32ToLeBytes sample.fieldOfViewRad ++
    f32ToLeBytes sample.minRangeM ++ f32ToLeBytes sample.maxRangeM ++ f32ToLeBytes sample.rangeM

/-- The bytes of a message of the light sensor, field after field. -/
def IlluminanceSample.layout (sample : IlluminanceSample) : Bytes :=
  sample.header.layout ++ f64ToLeBytes sample.illuminance ++ f64ToLeBytes sample.variance

/-- Headers with a limited identifier are accepted. -/
theorem reads_decodeHeader : Reads false decodeHeader RosHeader.Limited RosHeader.layout := by
  -- The fields are read in the order in which they are laid out.
  unfold decodeHeader
  refine Reads.whole (Reads.field (fun header : RosHeader => header.sequence) reads_readU32 fun _ =>
    Reads.field (fun header : RosHeader => header.stamp.seconds) reads_readU32 fun _ =>
    Reads.field (fun header : RosHeader => header.stamp.nanoseconds) reads_readU32 fun _ =>
    Reads.field RosHeader.frameId (reads_readStringLimited maxFrameIdBytes) fun _ =>
    reads_done fun header => ?_) (fun header => ?_) fun header _ => by simp [RosHeader.layout]
  · -- A header is determined by its four numbers and texts.
    obtain ⟨sequence, ⟨seconds, nanoseconds⟩, frameId⟩ := header
    simp [and_assoc]
  · have small (limited : header.Limited) : header.frameId.utf8.length < 2 ^ 32 := by
      have bound : header.frameId.utf8.length ≤ 4 * 1024 := limited
      omega
    simp only [true_and, and_true]
    exact ⟨fun valid => valid.1, fun limited => ⟨limited, small limited⟩⟩

/-- Every vector is accepted. -/
theorem reads_decodeVector3 : Reads false decodeVector3 (fun _ => True) Vector3.layout := by
  -- The components are read in the order in which they are laid out.
  unfold decodeVector3
  refine Reads.whole (Reads.field Vector3.x reads_readF64 fun _ =>
    Reads.field Vector3.y reads_readF64 fun _ => Reads.field Vector3.z reads_readF64 fun _ =>
    reads_done fun vector => ?_) (fun vector => by simp) fun vector _ => by simp [Vector3.layout]
  obtain ⟨x, y, z⟩ := vector
  simp [and_assoc]

/-- Every orientation is accepted. -/
theorem reads_decodeQuaternion :
    Reads false decodeQuaternion (fun _ => True) Quaternion.layout := by
  -- The components are read in the order in which they are laid out.
  unfold decodeQuaternion
  refine Reads.whole (Reads.field Quaternion.x reads_readF64 fun _ =>
    Reads.field Quaternion.y reads_readF64 fun _ => Reads.field Quaternion.z reads_readF64 fun _ =>
    Reads.field Quaternion.w reads_readF64 fun _ => reads_done fun quaternion => ?_)
    (fun quaternion => by simp) fun quaternion _ => by simp [Quaternion.layout]
  obtain ⟨x, y, z, w⟩ := quaternion
  simp [and_assoc]

/-- Every covariance matrix is accepted. -/
theorem reads_decodeCovariance :
    Reads false decodeCovariance (fun _ => True) numbersLayout := by
  -- Every single number is accepted.
  unfold decodeCovariance
  exact (reads_readEach reads_readF64 9).congr (fun _ => by simp) fun _ _ => rfl

/-- Messages of the inertial sensor are accepted if their header is. -/
theorem ImuSample.reads_decode :
    Reads true decode (fun sample => sample.header.Limited) layout := by
  -- The fields are read in the order in which they are laid out.
  unfold decode
  refine Reads.whole (Reads.field header reads_decodeHeader fun _ =>
    Reads.field orientation reads_decodeQuaternion fun _ =>
    Reads.field orientationCovariance reads_decodeCovariance fun _ =>
    Reads.field angularVelocity reads_decodeVector3 fun _ =>
    Reads.field angularVelocityCovariance reads_decodeCovariance fun _ =>
    Reads.field linearAcceleration reads_decodeVector3 fun _ =>
    Reads.field linearAccelerationCovariance reads_decodeCovariance fun _ =>
    reads_finish fun sample => ?_) (fun sample => ?_) fun sample _ => by simp [layout]
  · -- A message is determined by its seven fields.
    rw [ImuSample.ext_iff]
    simp [and_assoc]
  · simp

/-- Messages of a range sensor are accepted if their header is. -/
theorem RangeSample.reads_decode :
    Reads true decode (fun sample => sample.header.Limited) layout := by
  -- The fields are read in the order in which they are laid out.
  unfold decode
  refine Reads.whole (Reads.field header reads_decodeHeader fun _ =>
    Reads.field radiationType reads_readU8 fun _ =>
    Reads.field fieldOfViewRad reads_readF32 fun _ => Reads.field minRangeM reads_readF32 fun _ =>
    Reads.field maxRangeM reads_readF32 fun _ => Reads.field rangeM reads_readF32 fun _ =>
    reads_finish fun sample => ?_) (fun sample => ?_) fun sample _ => by simp [layout]
  · -- A message is determined by its six fields.
    rw [RangeSample.ext_iff]
    simp [and_assoc]
  · simp

/-- Messages of the light sensor are accepted if their header is. -/
theorem IlluminanceSample.reads_decode :
    Reads true decode (fun sample => sample.header.Limited) layout := by
  -- The fields are read in the order in which they are laid out.
  unfold decode
  refine Reads.whole (Reads.field header reads_decodeHeader fun _ =>
    Reads.field illuminance reads_readF64 fun _ => Reads.field variance reads_readF64 fun _ =>
    reads_finish fun sample => ?_) (fun sample => ?_) fun sample _ => by simp [layout]
  · -- A message is determined by its three fields.
    rw [IlluminanceSample.ext_iff]
    simp [and_assoc]
  · simp

/-- A kind of message is decoded from exactly its layouts, with a header that is not too long. -/
structure DecodesExactly {Sample : Type} (decodeRos : Bytes → Except DecodeError Sample)
    (header : Sample → RosHeader) (layout : Sample → Bytes) : Prop where
  accepts : ∀ message sample,
    decodeRos message = .ok sample ↔ (header sample).Limited ∧ message = layout sample
  restores : ∀ sample, decodeRos (layout sample) = .ok sample ↔ (header sample).Limited
  separates : ∀ first second sample,
    decodeRos first = .ok sample ∧ decodeRos second = .ok sample → first = second
  refuses : ∀ message, 16 ≤ message.length → maxFrameIdBytes < RosHeader.frameIdLength message →
    decodeRos message = .error (.invalidLength (UInt32.ofNat (RosHeader.frameIdLength message)))

/-- A header whose identifier is announced as too long is refused before its bytes are read. -/
theorem errorOf_decodeHeader {message : Bytes} (long : 16 ≤ message.length)
    (overlong : maxFrameIdBytes < RosHeader.frameIdLength message) :
    errorOf (decodeHeader (new message)) =
      some (.invalidLength (UInt32.ofNat (RosHeader.frameIdLength message))) := by
  -- The three numbers before the identifier fit.
  have numbers : skip (skip (skip (new message) 4) 4) 4 = skip (new message) 12 := by
    rw [skip_skip, skip_skip]
  have counted : 4 ≤ (rest (skip (new message) 12)).length := by
    rw [rest_skip, rest_new, List.length_drop]
    omega
  have identifier : errorOf (readStringLimited maxFrameIdBytes
      (skip (skip (skip (new message) 4) 4) 4)) =
        some (.invalidLength (UInt32.ofNat (RosHeader.frameIdLength message))) := by
    rw [numbers]
    exact errorOf_first (errorOf_overlong counted overlong)
  unfold decodeHeader
  refine (fixed_readU32.errorOf_bind fun _ _ _ => fixed_readU32.errorOf_bind fun _ _ _ =>
    fixed_readU32.errorOf_bind fun _ _ _ => errorOf_first identifier).trans ?_
  simp only [skip_skip, rest_skip, rest_new, List.length_drop, Nat.reduceAdd]
  rw [if_neg (by omega), if_neg (by omega), if_neg (by omega)]

/-- A kind of message is decoded exactly if its reads accept exactly its layouts. -/
theorem decodesExactly_of_reads {Sample : Type} {next : RosHeader → Decode Sample}
    {header : Sample → RosHeader} {layout : Sample → Bytes}
    (reads : Reads true (decodeHeader >>= next) (fun sample => (header sample).Limited) layout) :
    DecodesExactly (fun message => decoded ((decodeHeader >>= next) (new message))) header
      layout := by
  have accepts (message : Bytes) (sample : Sample) :
      decoded ((decodeHeader >>= next) (new message)) = .ok sample ↔
        (header sample).Limited ∧ message = layout sample := by
    rw [← decoded_iff reads, decoded_ok]
  refine ⟨accepts, fun sample => ?_, fun first second sample both => ?_,
    fun message long overlong => ?_⟩
  · exact (accepts _ _).trans (and_iff_left rfl)
  · -- Both messages are the layout of the value.
    rw [accepts, accepts] at both
    rw [both.1.2, both.2.2]
  · have refused : errorOf ((decodeHeader >>= next) (new message)) = _ :=
      errorOf_first (errorOf_decodeHeader long overlong)
    exact decoded_error.mpr refused

/-- Every sensor message is decoded from exactly its layout. -/
theorem sensors_decode_exactly :
    DecodesExactly ImuSample.decodeRos ImuSample.header ImuSample.layout ∧
      DecodesExactly RangeSample.decodeRos RangeSample.header RangeSample.layout ∧
      DecodesExactly IlluminanceSample.decodeRos IlluminanceSample.header
        IlluminanceSample.layout :=
  ⟨decodesExactly_of_reads ImuSample.reads_decode, decodesExactly_of_reads RangeSample.reads_decode,
    decodesExactly_of_reads IlluminanceSample.reads_decode⟩

end Scout
