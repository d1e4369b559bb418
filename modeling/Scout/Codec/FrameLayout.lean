import Scout.Codec.Frame

/-! A media frame is decoded from exactly its layout, and every other message is refused for a reason. -/

namespace Scout.ScoutFrame

open Scout.Stream Cursor Decoder

/-- The widths of the fields before the payload, in their order. -/
def fieldWidths : List Nat := [4, 8, 4, 1, 4, 4, 4, 4, 4, 4]

/-- The refusal of the first field that does not fit into so many bytes. -/
def firstUnfit : List Nat → Nat → Option DecodeError
  | [], _ => none
  | width :: widths, left =>
    if left < width then some (.unexpectedEnd width left) else firstUnfit widths (left - width)

/-- The length of the payload that a message announces. -/
def payloadLength (message : Bytes) : Nat :=
  ofLittleEndian ((message.drop 37).take 4)

/-- Why a message is not a frame, if it is not. -/
def rejection (message : Bytes) : Option DecodeError :=
  if message.length < 41 then firstUnfit fieldWidths message.length
  -- The announced length is judged before any of the payload's bytes is looked for.
  else if maxFrameDataBytes < payloadLength message then
    some (.invalidLength (UInt32.ofNat (payloadLength message)))
  else if message.length - 41 < payloadLength message then
    some (.unexpectedEnd (payloadLength message) (message.length - 41))
  else if payloadLength message < message.length - 41 then
    some (.trailingBytes (message.length - 41 - payloadLength message))
  else none

/-- The type of a frame is missing only at the end. -/
theorem fixed_streamType :
    Fixed 1 (DecodeError.unexpectedEnd 1) (StreamType.ofInt8 <$> readI8) := by
  -- It is converted from one byte.
  rw [map_eq_pure_bind]
  exact fixed_readI8.map StreamType.ofInt8

/-- Decoding fails as the first field that does not fit says, and then as the payload does. -/
theorem errorOf_decode (message : Bytes) :
    errorOf (decode (new message)) = rejection message := by
  -- Every field before the payload has a fixed width, and the payload is read after its length.
  unfold decode
  refine (fixed_readU32.errorOf_bind fun _ _ _ => fixed_readU64.errorOf_bind fun _ _ _ =>
    fixed_readU32.errorOf_bind fun _ _ _ => fixed_streamType.errorOf_bind fun _ _ _ =>
    fixed_readU32.errorOf_bind fun _ _ _ => fixed_readI32.errorOf_bind fun _ _ _ =>
    fixed_readI32.errorOf_bind fun _ _ _ => fixed_readI32.errorOf_bind fun _ _ _ =>
    fixed_readI32.errorOf_bind fun _ _ _ =>
    errorOf_readVecLimited fun _ => errorOf_finish).trans ?_
  simp only [skip_skip, rest_skip, rest_new, List.length_drop, Nat.reduceAdd]
  unfold rejection
  by_cases short : message.length < 41
  · have unfit : message.length - 37 < 4 := by omega
    simp only [if_pos short, if_pos unfit, firstUnfit, fieldWidths, Nat.sub_sub, Nat.reduceAdd]
  · -- The fixed part fits, so only the comparisons about the payload are left.
    have fits (offset width : Nat) (within : offset + width ≤ 41) :
        ¬ message.length - offset < width := by omega
    have first : ¬ message.length < 4 := by omega
    rw [if_neg short, if_neg first, if_neg (fits 4 8 (by decide)), if_neg (fits 12 4 (by decide)),
      if_neg (fits 16 1 (by decide)), if_neg (fits 17 4 (by decide)),
      if_neg (fits 21 4 (by decide)), if_neg (fits 25 4 (by decide)),
      if_neg (fits 29 4 (by decide)), if_neg (fits 33 4 (by decide)),
      if_neg (fits 37 4 (by decide))]
    have behind : message.length - (37 + (4 + payloadLength message)) =
        message.length - 41 - payloadLength message := by omega
    show (if maxFrameDataBytes < payloadLength message then _ else
      if message.length - 41 < payloadLength message then _ else
        if message.length - (37 + (4 + payloadLength message)) = 0 then _ else
          some (DecodeError.trailingBytes
            (message.length - (37 + (4 + payloadLength message))))) = _
    rw [behind]
    by_cases more : payloadLength message < message.length - 41
    · have left : ¬ message.length - 41 - payloadLength message = 0 := by omega
      rw [if_neg left, if_pos more]
      rfl
    · have nothing : message.length - 41 - payloadLength message = 0 := by omega
      rw [if_pos nothing, if_neg more]
      rfl

/-- A message is decoded if it is the layout of a frame, and refused for its reason otherwise. -/
theorem decodeRos_exact (message : Bytes) :
    (∀ frame : ScoutFrame,
      decodeRos message = .ok frame ↔ frame.WellFormed ∧ message = frame.layout) ∧
    (∀ frame : ScoutFrame, decodeRos frame.layout = .ok frame ↔ frame.WellFormed) ∧
    (∀ error, decodeRos message = .error error ↔ rejection message = some error) := by
  -- A frame is read as it is laid out, and every other message is rejected.
  refine ⟨fun frame => decodeRos_eq_ok, fun frame => ?_, fun error => ?_⟩
  · rw [decodeRos_eq_ok]
    exact and_iff_left rfl
  · rw [← errorOf_decode, decodeRos_eq]
    exact decoded_error

end Scout.ScoutFrame
