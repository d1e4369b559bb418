import Scout.Codec.Fields

/-! The media frames of the robot and which of them the bridge passes on. -/

namespace Scout

/-- The longest payload of a media frame that is accepted. -/
def maxFrameDataBytes : Nat := 16 * 1024 * 1024

/-- What the payload of a media frame is. -/
inductive StreamType where
  | h264
  | jpeg
  | aac
  | unknown (value : Int8)
  deriving DecidableEq

/-- The meaning of the type byte of a frame. -/
def StreamType.ofInt8 (value : Int8) : StreamType :=
  if value = 0 then .h264
  else if value = 1 then .jpeg
  else if value = 2 then .aac
  else .unknown value

/-- The type byte of a frame with a given meaning. -/
def StreamType.toInt8 : StreamType → Int8
  | h264 => 0
  | jpeg => 1
  | aac => 2
  | unknown value => value

/-- A type is named by its number only if it has no other name. -/
def StreamType.Named (streamType : StreamType) : Prop :=
  ∀ value, streamType = .unknown value → value ≠ 0 ∧ value ≠ 1 ∧ value ≠ 2

/-- The type of a byte has that byte. -/
theorem StreamType.toInt8_ofInt8 (value : Int8) : (ofInt8 value).toInt8 = value := by
  -- Three bytes have names of their own.
  unfold ofInt8
  by_cases zero : value = 0
  · rw [if_pos zero, zero]
    rfl
  · by_cases one : value = 1
    · rw [if_neg zero, if_pos one, one]
      rfl
    · by_cases two : value = 2
      · rw [if_neg zero, if_neg one, if_pos two, two]
        rfl
      · rw [if_neg zero, if_neg one, if_neg two]
        rfl

/-- Exactly the properly named types are those of their bytes. -/
theorem StreamType.ofInt8_toInt8 (streamType : StreamType) :
    ofInt8 streamType.toInt8 = streamType ↔ streamType.Named := by
  -- Only a numbered type can be named improperly.
  cases streamType with
  | unknown value =>
    simp only [toInt8, ofInt8, Named, unknown.injEq, forall_eq']
    by_cases zero : value = 0
    · simp [zero]
    · by_cases one : value = 1
      · simp [one]
      · by_cases two : value = 2 <;> simp [zero, one, two]
  | _ => simp [toInt8, ofInt8, Named]

open Scout.Stream Decoder in
/-- Every type byte is accepted, and read as the type with its proper name. -/
theorem reads_streamType :
    Reads false (StreamType.ofInt8 <$> readI8) StreamType.Named
      fun streamType => i8ToLeBytes streamType.toInt8 := by
  -- A type is read back from its byte exactly if it is properly named.
  rw [map_eq_pure_bind]
  refine (reads_readI8.map StreamType.ofInt8 StreamType.toInt8 fun value _ =>
    StreamType.toInt8_ofInt8 value).congr (fun streamType => ?_) fun _ _ => rfl
  rw [true_and, StreamType.ofInt8_toInt8]

/-- One media frame. -/
structure ScoutFrame where
  sequence : UInt32
  timestampMs : UInt64
  session : UInt32
  streamType : StreamType
  originalSequence : UInt32
  parameters : Vector Int32 4
  data : Bytes
  deriving DecidableEq

namespace ScoutFrame

/-- The two bytes every JPEG image starts with. -/
def startMarker : Bytes := [0xff, 0xd8]

/-- The two bytes every JPEG image ends with. -/
def endMarker : Bytes := [0xff, 0xd9]

open Decoder in
/-- Read the fields of a frame in their order. -/
def decode : Decode ScoutFrame := do
  let sequence ← readU32
  let timestampMs ← readU64
  let session ← readU32
  let streamType ← StreamType.ofInt8 <$> readI8
  let originalSequence ← readU32
  let first ← readI32
  let second ← readI32
  let third ← readI32
  let fourth ← readI32
  let data ← readVecLimited maxFrameDataBytes
  finish
  return {
    sequence, timestampMs, session, streamType, originalSequence
    parameters := #v[first, second, third, fourth]
    data }

/-- Decode a message as a frame. -/
def decodeRos (input : Bytes) : Except DecodeError ScoutFrame :=
  match decode (Decoder.new input) with
  | .ok frame _ => .ok frame
  | .error error _ => .error error

/-- Whether the payload starts and ends as a JPEG image does. -/
def hasJpegMarkers (frame : ScoutFrame) : Bool :=
  startMarker.isPrefixOf frame.data && endMarker.isSuffixOf frame.data

/-- The image in a message of the camera topic, if the bridge passes it on. -/
def forwarded (message : Bytes) : Option Bytes :=
  match decodeRos message with
  | .ok frame =>
    if frame.streamType = .jpeg ∧ frame.hasJpegMarkers then some frame.data else none
  | .error _ => none

section Layout

open Scout.Stream Decoder

/-- The bytes of a frame, field after field. -/
def layout (frame : ScoutFrame) : Bytes :=
  u32ToLeBytes frame.sequence ++ u64ToLeBytes frame.timestampMs ++ u32ToLeBytes frame.session ++
    i8ToLeBytes frame.streamType.toInt8 ++ u32ToLeBytes frame.originalSequence ++
    i32ToLeBytes frame.parameters[0] ++ i32ToLeBytes frame.parameters[1] ++
    i32ToLeBytes frame.parameters[2] ++ i32ToLeBytes frame.parameters[3] ++
    lengthPrefixed frame.data

/-- A frame whose type is properly named, and whose payload is not too long. -/
structure WellFormed (frame : ScoutFrame) : Prop where
  named : frame.streamType.Named
  limited : frame.data.length ≤ maxFrameDataBytes

/-- Decoding accepts exactly the well-formed frames. -/
theorem reads_decode : Reads true decode WellFormed layout := by
  -- The fields are read in the order in which they are laid out.
  refine Reads.whole (Reads.field sequence reads_readU32 fun _ =>
    Reads.field timestampMs reads_readU64 fun _ => Reads.field session reads_readU32 fun _ =>
    Reads.field streamType reads_streamType fun _ =>
    Reads.field originalSequence reads_readU32 fun _ =>
    Reads.field (fun frame : ScoutFrame => frame.parameters[0]) reads_readI32 fun _ =>
    Reads.field (fun frame : ScoutFrame => frame.parameters[1]) reads_readI32 fun _ =>
    Reads.field (fun frame : ScoutFrame => frame.parameters[2]) reads_readI32 fun _ =>
    Reads.field (fun frame : ScoutFrame => frame.parameters[3]) reads_readI32 fun _ =>
    Reads.field data (reads_readVecLimited maxFrameDataBytes) fun _ =>
    reads_finish fun frame => ?_) ?_ ?_
  · -- A frame is determined by its ten fields.
    constructor
    · intro known
      obtain ⟨⟨⟨⟨⟨⟨⟨⟨⟨⟨_, rfl⟩, rfl⟩, rfl⟩, rfl⟩, rfl⟩, rfl⟩, rfl⟩, rfl⟩, rfl⟩, rfl⟩ := known
      have listed : frame.parameters = #v[frame.parameters[0], frame.parameters[1],
          frame.parameters[2], frame.parameters[3]] := by
        apply Vector.ext
        intro index within
        match index, within with
        | 0, _ | 1, _ | 2, _ | 3, _ => rfl
      rw [← listed]
    · intro same
      subst same
      exact ⟨⟨⟨⟨⟨⟨⟨⟨⟨⟨trivial, rfl⟩, rfl⟩, rfl⟩, rfl⟩, rfl⟩, rfl⟩, rfl⟩, rfl⟩, rfl⟩, rfl⟩
  · intro frame
    constructor
    · intro valid
      exact ⟨valid.2.2.2.1, valid.2.2.2.2.2.2.2.2.2.1.1⟩
    · intro valid
      have limited : frame.data.length ≤ 2 ^ 24 := valid.limited
      exact ⟨trivial, trivial, trivial, valid.named, trivial, trivial, trivial, trivial, trivial,
        ⟨valid.limited, by omega⟩, trivial⟩
  · intro frame _
    simp [layout]

end Layout

/-- Frames are decoded like all other messages. -/
theorem decodeRos_eq : decodeRos = fun message => Decoder.decoded (decode (Decoder.new message)) := by
  -- The cases are those of the result.
  funext message
  rw [decodeRos]
  cases decode (Decoder.new message) with
  | ok frame after => rfl
  | error error after => rfl

/-- A message is decoded exactly if it is the layout of a well-formed frame. -/
theorem decodeRos_eq_ok {message : Bytes} {frame : ScoutFrame} :
    decodeRos message = .ok frame ↔ frame.WellFormed ∧ message = frame.layout := by
  -- The whole message lies between the first read and the end.
  rw [decodeRos_eq, Decoder.decoded_ok]
  exact Decoder.decoded_iff reads_decode

/-- A decoded payload has at most the allowed length. -/
theorem length_of_decodeRos {message : Bytes} {frame : ScoutFrame}
    (decoded : decodeRos message = .ok frame) : frame.data.length ≤ maxFrameDataBytes :=
  (decodeRos_eq_ok.mp decoded).1.limited

/-- What the bridge knows about every image it passes on. -/
structure Image (jpeg : Bytes) : Prop where
  short : jpeg.length ≤ maxFrameDataBytes
  starts : startMarker <+: jpeg
  ends : endMarker <:+ jpeg

/-- Every image that is passed on is short enough and has both markers. -/
theorem image_of_forwarded {message jpeg : Bytes} (passed : forwarded message = some jpeg) :
    Image jpeg := by
  -- The length was checked by the decoder, and the markers by the filter.
  unfold forwarded at passed
  split at passed
  · rename_i frame decoded
    by_cases passes : frame.streamType = .jpeg ∧ frame.hasJpegMarkers
    · rw [if_pos passes] at passed
      cases passed
      have markers := passes.2
      rw [hasJpegMarkers, Bool.and_eq_true] at markers
      exact ⟨length_of_decodeRos decoded, List.isPrefixOf_iff_prefix.mp markers.1,
        List.isSuffixOf_iff_suffix.mp markers.2⟩
    · rw [if_neg passes] at passed
      cases passed
  · cases passed

/-- The two markers cannot overlap, so every image has at least four bytes. -/
theorem Image.long {jpeg : Bytes} (image : Image jpeg) : 4 ≤ jpeg.length := by
  -- In a shorter string the second byte would be the end of one marker and part of the other.
  obtain ⟨rest, begins⟩ := image.starts
  have ends := image.ends
  rw [← begins] at ends ⊢
  match rest, ends with
  | [], ends => exact absurd ends (by decide)
  | [byte], ends =>
    have last := List.suffix_cons_iff.mp ends
    simp [endMarker, List.suffix_cons_iff] at last
  | _ :: _ :: rest, _ => simp [startMarker]

end ScoutFrame
end Scout
