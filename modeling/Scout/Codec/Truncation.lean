import Scout.Codec.BatteryLayout
import Scout.Codec.Frame
import Scout.Codec.SensorLayout
import Scout.Stream.Truncation

/-! Every decoder notices what is cut from an accepted message or added to it. -/

namespace Scout

open Scout.Stream Cursor Decoder

namespace Decoder

/-- A byte that is cut off is lacking. -/
theorem steady_readU8 : Steady DecodeError.unexpectedEnd readU8 :=
  fixed_readU8.steady reads_readU8 fun _ _ => rfl

/-- A signed byte that is cut off is lacking. -/
theorem steady_readI8 : Steady DecodeError.unexpectedEnd readI8 :=
  fixed_readI8.steady reads_readI8 fun value _ => i8ToLeBytes_length value

/-- Bytes of an unsigned number that are cut off are lacking. -/
theorem steady_readU32 : Steady DecodeError.unexpectedEnd readU32 :=
  fixed_readU32.steady reads_readU32 fun value _ => u32ToLeBytes_length value

/-- Bytes of a signed number that are cut off are lacking. -/
theorem steady_readI32 : Steady DecodeError.unexpectedEnd readI32 :=
  fixed_readI32.steady reads_readI32 fun value _ => i32ToLeBytes_length value

/-- Bytes of a longer number that are cut off are lacking. -/
theorem steady_readU64 : Steady DecodeError.unexpectedEnd readU64 :=
  fixed_readU64.steady reads_readU64 fun value _ => u64ToLeBytes_length value

/-- Bytes of a binary32 number that are cut off are lacking. -/
theorem steady_readF32 : Steady DecodeError.unexpectedEnd readF32 :=
  Fixed.steady (fixed_number fun number => F32.mk (UInt32.ofNat number)) reads_readF32
    fun value _ => f32ToLeBytes_length value

/-- Bytes of a binary64 number that are cut off are lacking. -/
theorem steady_readF64 : Steady DecodeError.unexpectedEnd readF64 :=
  Fixed.steady (fixed_number fun number => F64.ofBits (UInt64.ofNat number)) reads_readF64
    fun value _ => f64ToLeBytes_length value

/-- Bytes that are cut off are lacking. -/
theorem steady_take (length : Nat) : Steady DecodeError.unexpectedEnd (take length) :=
  (fixed_take length).steady (reads_take length) fun _ same => same

/-- A string of limited length is cut in its length or in its bytes. -/
theorem steady_readVecLimited (maximumLength : Nat) :
    Steady DecodeError.unexpectedEnd (readVecLimited maximumLength) := by
  -- A length that has passed the limit once does so again.
  apply steady_readU32.bind
  intro rawLength
  split
  · exact steady_throw.bind fun _ => steady_take _
  · exact steady_take _

/-- A text is cut like the bytes it is stored as. -/
theorem steady_readStringLimited (maximumLength : Nat) :
    Steady DecodeError.unexpectedEnd (readStringLimited maximumLength) := by
  -- Bytes that were a text once are the same text again.
  apply (steady_readVecLimited maximumLength).bind
  intro bytes
  split
  · exact steady_pure
  · exact steady_throw

/-- The end of a message is followed by nothing, and what is added to it is counted. -/
theorem complete_finish {α : Type} {next : Unit → Decode α} :
    Complete DecodeError.unexpectedEnd DecodeError.trailingBytes (finish >>= next) := by
  -- Only the empty rest is accepted, and that has no shorter front.
  intro place value after found
  obtain ⟨_, _, finished, _⟩ := bind_ok.mp found
  obtain ⟨ended, _⟩ := finish_ok.mp finished
  rw [ended]
  refine ⟨fun other early strict => absurd (List.prefix_nil.mp early) strict, ?_⟩
  intro other extra some_ more
  rw [List.nil_append] at more
  rw [errorOf_finish_bind, more, if_neg fun none => some_ (List.length_eq_zero_iff.mp none)]

/-- Integers are cut where the check before the loop counts the bytes that are left. -/
theorem steady_values (length : Nat) :
    Steady DecodeError.unexpectedEnd
      (do require (length * 4); readEach readI32 length) := by
  intro place raw after found
  obtain ⟨_, _, required, read⟩ := bind_ok.mp found
  obtain ⟨enough, rfl⟩ := require_ok.mp required
  have passed := BatteryStatus.readValues_passes.mp read
  have size : (raw.toList.flatMap i32ToLeBytes).length = length * 4 := by
    rw [BatteryStatus.flatMap_length, Vector.length_toList]
  refine ⟨_, passed, fun other front => ?_, fun other cut strict => ?_⟩
  · have passes : require (length * 4) other = .ok () other :=
      require_ok.mpr ⟨size ▸ front.length_le, rfl⟩
    rw [bind_found passes]
    exact BatteryStatus.readValues_passes.mpr ⟨front, rfl⟩
  · -- Fewer bytes are left than all integers take.
    have fewer : (rest other).length < length * 4 := by
      rw [← size]
      exact Nat.lt_of_le_of_ne cut.length_le fun same => strict (cut.eq_of_length same)
    refine ⟨length * 4, (rest other).length, fewer, ?_⟩
    apply errorOf_first
    exact errorOf_lacking fewer

end Decoder

/-- Every field of a header notices a cut. -/
theorem steady_decodeHeader : Steady DecodeError.unexpectedEnd decodeHeader :=
  steady_readU32.bind fun _ => steady_readU32.bind fun _ => steady_readU32.bind fun _ =>
    (steady_readStringLimited maxFrameIdBytes).bind fun _ => steady_pure

/-- Every component of a vector notices a cut. -/
theorem steady_decodeVector3 : Steady DecodeError.unexpectedEnd decodeVector3 :=
  steady_readF64.bind fun _ => steady_readF64.bind fun _ => steady_readF64.bind fun _ => steady_pure

/-- Every component of an orientation notices a cut. -/
theorem steady_decodeQuaternion : Steady DecodeError.unexpectedEnd decodeQuaternion :=
  steady_readF64.bind fun _ => steady_readF64.bind fun _ => steady_readF64.bind fun _ =>
    steady_readF64.bind fun _ => steady_pure

/-- Every number of a covariance matrix notices a cut. -/
theorem steady_decodeCovariance : Steady DecodeError.unexpectedEnd decodeCovariance := by
  -- The numbers are read one after another.
  rw [decodeCovariance]
  exact steady_readF64.readEach 9

/-- A kind of message, whose decoder ends exactly where its messages do. -/
abbrev CompleteDecoder {α : Type} (decode : Decode α) : Prop :=
  Complete DecodeError.unexpectedEnd DecodeError.trailingBytes decode

/-- A media frame is decoded to its end. -/
theorem ScoutFrame.complete_decode : CompleteDecoder ScoutFrame.decode := by
  -- The fields are read one after another, and then the end is checked.
  refine steady_readU32.complete fun _ => steady_readU64.complete fun _ =>
    steady_readU32.complete fun _ => Steady.complete ?_ fun _ => steady_readU32.complete fun _ =>
    steady_readI32.complete fun _ => steady_readI32.complete fun _ =>
    steady_readI32.complete fun _ => steady_readI32.complete fun _ =>
    (steady_readVecLimited maxFrameDataBytes).complete fun _ => complete_finish
  rw [map_eq_pure_bind]
  exact steady_readI8.bind fun _ => steady_pure

/-- A message of the inertial sensor is decoded to its end. -/
theorem ImuSample.complete_decode : CompleteDecoder ImuSample.decode :=
  -- The fields are followed in the order in which they are read.
  steady_decodeHeader.complete fun _ => steady_decodeQuaternion.complete fun _ =>
    steady_decodeCovariance.complete fun _ => steady_decodeVector3.complete fun _ =>
    steady_decodeCovariance.complete fun _ => steady_decodeVector3.complete fun _ =>
    steady_decodeCovariance.complete fun _ => complete_finish

/-- A message of a range sensor is decoded to its end. -/
theorem RangeSample.complete_decode : CompleteDecoder RangeSample.decode :=
  -- The fields are followed in the order in which they are read.
  steady_decodeHeader.complete fun _ => steady_readU8.complete fun _ =>
    steady_readF32.complete fun _ => steady_readF32.complete fun _ =>
    steady_readF32.complete fun _ => steady_readF32.complete fun _ => complete_finish

/-- A message of the light sensor is decoded to its end. -/
theorem IlluminanceSample.complete_decode : CompleteDecoder IlluminanceSample.decode :=
  steady_decodeHeader.complete fun _ => steady_readF64.complete fun _ =>
    steady_readF64.complete fun _ => complete_finish

/-- A status of the battery is decoded to its end. -/
theorem BatteryStatus.complete_decode : CompleteDecoder BatteryStatus.decode := by
  -- A number that has passed the checks once does so again.
  apply steady_readU32.complete
  intro rawLength
  dsimp only
  split
  · exact complete_throw
  · split
    · exact complete_throw
    · rw [← bind_assoc]
      exact (steady_values _).complete fun _ => complete_finish

/-- A kind of message of which every accepted one is recognised when it is cut or extended. -/
structure RecognisesCuts {α : Type} (decodeRos : Bytes → Except DecodeError α) : Prop where
  truncated : ∀ message value, decodeRos message = .ok value →
    ∀ cut, cut <+: message → cut ≠ message →
      ∃ needed remaining, decodeRos cut = .error (.unexpectedEnd needed remaining) ∧
        remaining < needed
  extended : ∀ message value, decodeRos message = .ok value →
    ∀ extra, extra ≠ [] → decodeRos (message ++ extra) = .error (.trailingBytes extra.length)
  separate : ∀ first second value other, decodeRos first = .ok value →
    decodeRos second = .ok other → first <+: second → first = second

/-- A decoder that ends where its messages do recognises what is cut or added. -/
theorem recognisesCuts_of_complete {α : Type} {decode : Decode α}
    (complete : CompleteDecoder decode) :
    RecognisesCuts fun message => decoded (decode (new message)) := by
  have truncated : ∀ message value, decoded (decode (new message)) = .ok value →
      ∀ cut, cut <+: message → cut ≠ message →
        ∃ needed remaining, decoded (decode (new cut)) = .error (.unexpectedEnd needed remaining) ∧
          remaining < needed := by
    intro message value accepted cut early strict
    obtain ⟨after, found⟩ := decoded_ok.mp accepted
    obtain ⟨needed, remaining, fewer, failed⟩ := (complete _ _ _ found).1 (new cut) early strict
    exact ⟨needed, remaining, decoded_error.mpr failed, fewer⟩
  refine ⟨truncated, ?_, ?_⟩
  · intro message value accepted extra some_
    obtain ⟨after, found⟩ := decoded_ok.mp accepted
    exact decoded_error.mpr ((complete _ _ _ found).2 (new (message ++ extra)) extra some_ rfl)
  · -- A strict prefix of an accepted message is not accepted itself.
    intro first second value other accepted accepts early
    by_contra strict
    obtain ⟨needed, remaining, refused, _⟩ := truncated second other accepts first early strict
    rw [accepted] at refused
    cases refused

/-- All five decoders recognise what is cut from an accepted message or added to it. -/
theorem decoders_recognise_cuts :
    RecognisesCuts ScoutFrame.decodeRos ∧ RecognisesCuts ImuSample.decodeRos ∧
      RecognisesCuts RangeSample.decodeRos ∧ RecognisesCuts IlluminanceSample.decodeRos ∧
      RecognisesCuts BatteryStatus.decodeRos :=
  -- Each decoder reads one field after another.
  ⟨ScoutFrame.decodeRos_eq ▸ recognisesCuts_of_complete ScoutFrame.complete_decode,
    recognisesCuts_of_complete ImuSample.complete_decode,
    recognisesCuts_of_complete RangeSample.complete_decode,
    recognisesCuts_of_complete IlluminanceSample.complete_decode,
    recognisesCuts_of_complete BatteryStatus.complete_decode⟩

end Scout
