import Scout.Codec.Fields

/-! Whatever is read of a message in whatever order, the decoder stays within the message. -/

namespace Scout

open Scout.Stream Cursor

/-- A read of a decoder, with the limit of those that read a length first. -/
inductive Read where
  | u8
  | i8
  | u32
  | i32
  | u64
  | f32
  | f64
  | vec (maximumLength : Nat)
  | string (maximumLength : Nat)

namespace Read

/-- What a read returns. -/
def Value : Read → Type
  | .u8 => UInt8
  | .i8 => Int8
  | .u32 => UInt32
  | .i32 => Int32
  | .u64 => UInt64
  | .f32 => F32
  | .f64 => F64
  | .vec _ => Bytes
  | .string _ => Text

/-- Perform a read. -/
def perform : (read : Read) → Decode read.Value
  | .u8 => Decoder.readU8
  | .i8 => Decoder.readI8
  | .u32 => Decoder.readU32
  | .i32 => Decoder.readI32
  | .u64 => Decoder.readU64
  | .f32 => Decoder.readF32
  | .f64 => Decoder.readF64
  | .vec maximumLength => Decoder.readVecLimited maximumLength
  | .string maximumLength => Decoder.readStringLimited maximumLength

/-- The bytes of a value, without their length. -/
def bytes : (read : Read) → read.Value → Bytes
  | .u8, value => [value]
  | .i8, value => i8ToLeBytes value
  | .u32, value => u32ToLeBytes value
  | .i32, value => i32ToLeBytes value
  | .u64, value => u64ToLeBytes value
  | .f32, value => f32ToLeBytes value
  | .f64, value => f64ToLeBytes value
  | .vec _, value => value
  | .string _, text => text.utf8

/-- The limit of a read that reads a length first. -/
def limit : Read → Option Nat
  | .vec maximumLength => some maximumLength
  | .string maximumLength => some maximumLength
  | _ => none

/-- How many bytes the length in front of a value takes. -/
def headLength (read : Read) : Nat :=
  if read.limit.isSome then 4 else 0

/-- The bytes of a value, with their length where it is read first. -/
def layout (read : Read) (value : read.Value) : Bytes :=
  if read.limit.isSome then lengthPrefixed (read.bytes value) else read.bytes value

/-- Where the decoder is after a read, whether it has failed or not. -/
def after (read : Read) (decoder : Decoder) : Decoder :=
  match read.perform decoder with
  | .ok _ decoder => decoder
  | .error _ decoder => decoder

end Read

namespace Decoder

/-- The bytes from one offset up to another. -/
def between (input : Bytes) (start stop : Nat) : Bytes :=
  (input.take stop).drop start

/-- Where the decoder is after a sequence of reads, which goes on after failures. -/
def readAll (decoder : Decoder) (reads : List Read) : Decoder :=
  reads.foldl (fun decoder read => read.after decoder) decoder

/-- The same place, with other bytes behind the length that is read next. -/
def withPayload (decoder : Decoder) (payload : Bytes) : Decoder :=
  { decoder with input := decoder.input.take (decoder.offset + 4) ++ payload }

/-- What each read of a sequence has passed. -/
def passedBy (decoder : Decoder) : List Read → List Bytes
  | [] => []
  | read :: reads =>
    let next := read.after decoder
    between decoder.input decoder.offset next.offset :: next.passedBy reads

section Exact

/-- The difference of two sizes, unless it would be negative. -/
def exactSub (first second : Nat) : Option Nat :=
  if second ≤ first then some (first - second) else none

/-- The sum of two sizes, unless it would be larger than a size may be. -/
def exactAdd (largest first second : Nat) : Option Nat :=
  if first + second ≤ largest then some (first + second) else none

/-- The bytes of a range, unless it is not within the message. -/
def exactSlice (input : Bytes) (start stop : Nat) : Option Bytes :=
  if start ≤ stop ∧ stop ≤ input.length then some (between input start stop) else none

/-- How many bytes are left, unless the subtraction underflows. -/
def exactRemaining (decoder : Decoder) : Option Nat :=
  exactSub decoder.input.length decoder.offset

/-- Read so many bytes, unless an operation underflows, overflows or is out of range. -/
def exactTake (length : Nat) (decoder : Decoder) :
    Option (EStateM.Result DecodeError Decoder Bytes) := do
  let remaining ← exactSub decoder.input.length decoder.offset
  if remaining < length then
    return .error (.unexpectedEnd length remaining) decoder
  -- A sum up to the length of the message is a size, as that length is.
  let stop ← exactAdd decoder.input.length decoder.offset length
  let bytes ← exactSlice decoder.input decoder.offset stop
  return .ok bytes { decoder with offset := stop }

/-- Check that nothing is left, unless the subtraction underflows. -/
def exactFinish (decoder : Decoder) : Option (EStateM.Result DecodeError Decoder Unit) := do
  let trailing ← exactSub decoder.input.length decoder.offset
  return if trailing = 0 then .ok () decoder else .error (.trailingBytes trailing) decoder

end Exact

section Laws

variable {before after : Decoder}

/-- With its own bytes behind the length a message is as it was. -/
theorem withPayload_self (decoder : Decoder) :
    decoder.withPayload (decoder.input.drop (decoder.offset + 4)) = decoder := by
  rw [withPayload, List.take_append_drop]

/-- The bytes of a range are so many of those behind its start. -/
theorem between_add (input : Bytes) (start count : Nat) :
    between input start (start + count) = (input.drop start).take count := by
  rw [between, List.drop_take, Nat.add_sub_cancel_left]

/-- A range is made up of its parts. -/
theorem between_append (input : Bytes) {start middle stop : Nat} (first : start ≤ middle)
    (second : middle ≤ stop) :
    between input start middle ++ between input middle stop = between input start stop := by
  -- The two parts lie next to each other.
  obtain ⟨count, rfl⟩ := Nat.exists_eq_add_of_le first
  obtain ⟨more, rfl⟩ := Nat.exists_eq_add_of_le second
  rw [between_add, between_add, Nat.add_assoc, between_add, List.take_add, List.drop_drop]

/-- What has been passed is the range between the two places. -/
theorem between_of_passes {symbols : Bytes} (passes : Passes symbols before after) :
    between before.input before.offset after.offset = symbols := by
  -- The symbols are the front of what was left.
  obtain ⟨front, rfl⟩ := passes
  show between before.input before.offset (before.offset + symbols.length) = symbols
  rw [between_add]
  exact (List.prefix_iff_eq_take.mp front).symm

/-- Within the message no operation underflows, overflows or is out of range. -/
theorem exactTake_eq (inside : before.offset ≤ before.input.length) (length : Nat) :
    before.exactTake length = some (take length before) := by
  -- The guard of the definition is what keeps the range within the message.
  unfold exactTake take remaining
  rw [exactSub, if_pos inside, Option.bind_eq_bind, Option.bind_some]
  by_cases short : before.input.length - before.offset < length
  · rw [if_pos short, if_pos short]
    rfl
  · -- What is taken ends within the message.
    have enough : before.offset + length ≤ before.input.length := by omega
    have range : before.offset ≤ before.offset + length ∧
        before.offset + length ≤ before.input.length := ⟨by omega, enough⟩
    rw [if_neg short, if_neg short, exactAdd, if_pos enough, Option.bind_eq_bind, Option.bind_some,
      exactSlice, if_pos range, between_add]
    rfl

/-- Within the message the check of the end does not underflow. -/
theorem exactFinish_eq (inside : before.offset ≤ before.input.length) :
    before.exactFinish = some (finish before) := by
  -- The only difference is the one that counts what is left.
  unfold exactFinish finish remaining
  rw [exactSub, if_pos inside]
  rfl

/-- A place further on in the same message, and within it if the first place is. -/
structure Forward (before after : Decoder) : Prop where
  same : after.input = before.input
  moved : before.offset ≤ after.offset
  inside : before.offset ≤ before.input.length → after.offset ≤ before.input.length

/-- To stay is to go forward by nothing. -/
theorem Forward.refl (decoder : Decoder) : Forward decoder decoder :=
  ⟨rfl, Nat.le_refl _, id⟩

/-- What is further on from a place further on is further on. -/
theorem Forward.trans {middle : Decoder} (first : Forward before middle)
    (second : Forward middle after) : Forward before after where
  -- The two moves add up.
  same := second.same.trans first.same
  moved := first.moved.trans second.moved
  inside within := by
    have bound := second.inside (by rw [first.same]; exact first.inside within)
    rwa [first.same] at bound

/-- What is passed lies forward. -/
theorem Forward.of_passes {symbols : Bytes} (passes : Passes symbols before after) :
    Forward before after := by
  -- What is passed lies before the end of the input.
  obtain ⟨front, rfl⟩ := passes
  refine ⟨rfl, Nat.le_add_right _ _, fun inside => ?_⟩
  have bound : symbols.length ≤ (before.input.drop before.offset).length := front.length_le
  rw [List.length_drop] at bound
  show before.offset + symbols.length ≤ before.input.length
  omega

end Laws

end Decoder

namespace Read

open Decoder

variable {read : Read} {before after : Decoder}

/-- Where a read may be when it fails. -/
inductive Failed (read : Read) (before : Decoder) : DecodeError → Decoder → Prop where
  | atStart (error : DecodeError) : Failed read before error before
  | behindLength (error : DecodeError) {after : Decoder} (limited : read.limit.isSome)
      (rawLength : UInt32) (passes : Passes (u32ToLeBytes rawLength) before after) :
      Failed read before error after
  | behindBytes {after : Decoder} (limited : read.limit.isSome) (bytes : Bytes)
      (passes : Passes (lengthPrefixed bytes) before after) :
      Failed read before .invalidUtf8 after

/-- Bytes are not taken at all if they are not there. -/
theorem take_error {length : Nat} {error : DecodeError}
    (failed : take length before = .error error after) : after = before := by
  -- The guard fails before anything is moved.
  unfold take at failed
  split at failed
  · exact (EStateM.Result.error.inj failed).2.symm
  · cases failed

/-- A value that is made of bytes is not read at all if they are not there. -/
theorem map_error {α β : Type} {first : Decode β} {make : β → α} {error : DecodeError}
    (failed : (do let value ← first; return make value : Decode α) before = .error error after) :
    first before = .error error after := by
  -- Making the value of the bytes does not fail.
  cases bind_error.mp failed with
  | inl short => exact short
  | inr made =>
    obtain ⟨_, _, _, impossible⟩ := made
    cases impossible

/-- A read of a length and so many bytes fails where the length begins or where it ends. -/
theorem readVecLimited_error {maximumLength : Nat} {error : DecodeError}
    (failed : readVecLimited maximumLength before = .error error after) :
    after = before ∨ ∃ rawLength, Passes (u32ToLeBytes rawLength) before after := by
  -- Either the length is lacking, or it has been read.
  cases bind_error.mp failed with
  | inl short => exact .inl (take_error (map_error short))
  | inr announced =>
    obtain ⟨rawLength, middle, found, failed⟩ := announced
    have passes := ((reads_readU32 _ _ _).mp found).2.1
    refine .inr ⟨rawLength, ?_⟩
    -- The limit is checked, and the bytes are taken, behind the length.
    split at failed
    · cases bind_error.mp failed with
      | inl thrown =>
        cases thrown
        exact passes
      | inr ignored =>
        obtain ⟨_, _, impossible, _⟩ := ignored
        cases impossible
    · rw [take_error failed]
      exact passes

/-- A bounded read may be there when its length and bytes cannot be read. -/
theorem failed_of_readVecLimited {maximumLength : Nat} {error : DecodeError}
    (limited : read.limit.isSome = true)
    (failed : readVecLimited maximumLength before = .error error after) :
    Failed read before error after := by
  -- The failure comes at the length or behind it.
  cases readVecLimited_error failed with
  | inl stayed =>
    rw [stayed]
    exact .atStart error
  | inr behind =>
    obtain ⟨rawLength, passes⟩ := behind
    exact .behindLength error limited rawLength passes

/-- A read fails where it starts, behind the length, or where bytes turn out to be no text. -/
theorem failed_of_error {error : DecodeError} (failed : read.perform before = .error error after) :
    Failed read before error after := by
  -- Everything but the conversion to a text fails where bytes are taken.
  cases read with
  | u8 | u32 | i32 | u64 | f32 | f64 =>
    rw [take_error (map_error failed)]
    exact .atStart error
  | i8 =>
    rw [take_error (map_error (map_error failed))]
    exact .atStart error
  | vec maximumLength => exact failed_of_readVecLimited rfl failed
  | string maximumLength =>
    cases bind_error.mp failed with
    | inl failed => exact failed_of_readVecLimited rfl failed
    | inr converted =>
      obtain ⟨bytes, middle, found, converted⟩ := converted
      have passes := ((reads_readVecLimited _ _ _ _).mp found).2.1
      cases text : Text.ofUtf8 bytes with
      | some text' =>
        rw [text] at converted
        cases converted
      | none =>
        rw [text] at converted
        cases converted
        exact .behindBytes rfl bytes passes

/-- A read succeeds behind the bytes of the value it returns, within its limit. -/
theorem passes_of_ok {value : read.Value} (done : read.perform before = .ok value after) :
    Passes (read.layout value) before after ∧
      ∀ maximumLength ∈ read.limit,
        (read.bytes value).length ≤ maximumLength ∧ (read.bytes value).length < 2 ^ 32 := by
  -- Each read accepts the layout of its values, and only bounded ones refuse some.
  cases read with
  | u8 => exact ⟨((reads_readU8 _ _ _).mp done).2.1, nofun⟩
  | i8 => exact ⟨((reads_readI8 _ _ _).mp done).2.1, nofun⟩
  | u32 => exact ⟨((reads_readU32 _ _ _).mp done).2.1, nofun⟩
  | i32 => exact ⟨((reads_readI32 _ _ _).mp done).2.1, nofun⟩
  | u64 => exact ⟨((reads_readU64 _ _ _).mp done).2.1, nofun⟩
  | f32 => exact ⟨((reads_readF32 _ _ _).mp done).2.1, nofun⟩
  | f64 => exact ⟨((reads_readF64 _ _ _).mp done).2.1, nofun⟩
  | vec maximumLength =>
    obtain ⟨fits, passes, _⟩ := (reads_readVecLimited _ _ _ _).mp done
    refine ⟨passes, fun limit same => ?_⟩
    cases same
    exact fits
  | string maximumLength =>
    obtain ⟨fits, passes, _⟩ := (reads_readStringLimited _ _ _ _).mp done
    refine ⟨passes, fun limit same => ?_⟩
    cases same
    exact fits

/-- Every read goes forward in the same message. -/
theorem forward_after (read : Read) (before : Decoder) : Forward before (read.after before) := by
  -- A read that fails has passed a length, a length with its bytes, or nothing.
  unfold Read.after
  cases result : read.perform before with
  | ok value after => exact .of_passes (passes_of_ok result).1
  | error error after =>
    cases failed_of_error result with
    | atStart => exact .refl before
    | behindLength _ _ _ passes => exact .of_passes passes
    | behindBytes _ _ passes => exact .of_passes passes

/-- A value with a length in front is read behind its length. -/
theorem parts_of_ok {value : read.Value} (done : read.perform before = .ok value after)
    (limited : read.limit.isSome = true) :
    ∃ middle, Passes (u32ToLeBytes (UInt32.ofNat (read.bytes value).length)) before middle ∧
      middle.input = before.input ∧ middle.offset = before.offset + 4 ∧
      Passes (read.bytes value) middle after := by
  -- The length of a length is four.
  obtain ⟨passes, _⟩ := passes_of_ok done
  rw [layout, if_pos limited, lengthPrefixed, passes_append] at passes
  obtain ⟨middle, head, tail⟩ := passes
  obtain ⟨front, rfl⟩ := head
  refine ⟨_, ⟨front, rfl⟩, rfl, ?_, tail⟩
  show before.offset + _ = before.offset + 4
  rw [u32ToLeBytes_length]

/-- A read returns the bytes up to where it ends, from where it starts or behind the length. -/
theorem bytes_eq_between {value : read.Value} (done : read.perform before = .ok value after) :
    before.offset + read.headLength ≤ after.offset ∧
      read.bytes value = between before.input (before.offset + read.headLength) after.offset := by
  -- A read without a limit has nothing in front of its value.
  by_cases limited : read.limit.isSome = true
  · obtain ⟨middle, _, same, place, passes⟩ := parts_of_ok done limited
    rw [headLength, if_pos limited, ← place, ← same]
    exact ⟨(Forward.of_passes passes).moved, (between_of_passes passes).symm⟩
  · obtain ⟨passes, _⟩ := passes_of_ok done
    rw [layout, if_neg limited] at passes
    rw [headLength, if_neg limited]
    exact ⟨(Forward.of_passes passes).moved, (between_of_passes passes).symm⟩

/-- A bounded read returns as many bytes as announced, within its limit and the message. -/
theorem announced_of_ok {value : read.Value} {maximumLength : Nat}
    (limited : maximumLength ∈ read.limit) (done : read.perform before = .ok value after) :
    between before.input before.offset (before.offset + 4) =
        u32ToLeBytes (UInt32.ofNat (read.bytes value).length) ∧
      (read.bytes value).length ≤ maximumLength ∧ (read.bytes value).length < 2 ^ 32 ∧
      (read.bytes value).length ≤ before.input.length - (before.offset + 4) := by
  -- The bytes are the front of what is left behind their length.
  obtain ⟨_, fits⟩ := passes_of_ok done
  obtain ⟨middle, head, same, place, tail⟩ :=
    parts_of_ok done (Option.isSome_of_mem limited)
  have present : (read.bytes value).length ≤ (middle.input.drop middle.offset).length :=
    tail.1.length_le
  rw [List.length_drop, same, place] at present
  refine ⟨?_, (fits _ limited).1, (fits _ limited).2, present⟩
  rw [← place]
  exact between_of_passes head

/-- The length in front of other bytes is the same. -/
theorem readU32_withPayload {rawLength : UInt32}
    (announced : between before.input before.offset (before.offset + 4) = u32ToLeBytes rawLength)
    (payload : Bytes) :
    Decoder.readU32 (before.withPayload payload) =
      .ok rawLength (skip (before.withPayload payload) 4) := by
  -- All four bytes are within what is kept of the message.
  have four := congrArg List.length announced
  rw [between, List.length_drop, u32ToLeBytes_length] at four
  have behind : rest (before.withPayload payload) = u32ToLeBytes rawLength ++ payload := by
    show (before.input.take (before.offset + 4) ++ payload).drop before.offset = _
    rw [List.drop_append_of_le_length (by omega), ← announced, between]
  refine (reads_readU32 _ _ _).mpr ⟨trivial, ⟨?_, ?_⟩, nofun⟩
  · rw [behind]
    exact List.prefix_append _ _
  · rw [u32ToLeBytes_length]

/-- A length beyond the limit is refused, whatever follows it. -/
theorem refused_of_over {maximumLength : Nat} {rawLength : UInt32}
    (limited : maximumLength ∈ read.limit)
    (announced : between before.input before.offset (before.offset + 4) = u32ToLeBytes rawLength)
    (beyond : maximumLength < rawLength.toNat) (payload : Bytes) :
    read.perform (before.withPayload payload) =
      .error (.invalidLength rawLength) (skip (before.withPayload payload) 4) := by
  -- The length is compared with the limit as soon as it has been read.
  have length : Decoder.readU32 (before.withPayload payload) =
      .ok rawLength (skip (before.withPayload payload) 4) :=
    readU32_withPayload announced payload
  have bytes : Decoder.readVecLimited maximumLength (before.withPayload payload) =
      .error (.invalidLength rawLength) (skip (before.withPayload payload) 4) := by
    unfold Decoder.readVecLimited
    rw [bind_found length, if_pos beyond]
    exact bind_error.mpr (.inl rfl)
  -- Only bounded reads have a limit, and a text is made of bytes that have been read.
  cases read with
  | vec limit =>
    cases limited
    exact bytes
  | string limit =>
    cases limited
    exact bind_error.mpr (.inl bytes)
  | _ => cases limited

end Read

namespace Decoder

/-- What holds of a read wherever the decoder is, within the message or by what it returns. -/
structure Sound (read : Read) (before : Decoder) : Prop where
  exactRemaining : before.exactRemaining = some before.remaining
  exactTake : ∀ length, before.exactTake length = some (take length before)
  exactFinish : before.exactFinish = some (finish before)
  forward : before.offset ≤ (read.after before).offset
  returned : ∀ value after, read.perform before = .ok value after →
    before.offset + read.headLength ≤ after.offset ∧
      read.bytes value = between before.input (before.offset + read.headLength) after.offset
  announced : ∀ maximumLength ∈ read.limit, ∀ value after, read.perform before = .ok value after →
    between before.input before.offset (before.offset + 4) =
        u32ToLeBytes (UInt32.ofNat (read.bytes value).length) ∧
      (read.bytes value).length ≤ maximumLength ∧ (read.bytes value).length < 2 ^ 32 ∧
      (read.bytes value).length ≤ before.input.length - (before.offset + 4)
  unmoved : read.limit = none → ∀ error after, read.perform before = .error error after →
    after = before
  lengthOnly : ∀ error after, read.perform before = .error error after → error ≠ .invalidUtf8 →
    after.offset ≤ before.offset + 4
  refused : ∀ maximumLength ∈ read.limit, ∀ rawLength : UInt32,
    between before.input before.offset (before.offset + 4) = u32ToLeBytes rawLength →
    maximumLength < rawLength.toNat →
      read.perform before =
          .error (.invalidLength rawLength) { before with offset := before.offset + 4 } ∧
        ∀ payload, read.perform (before.withPayload payload) =
          .error (.invalidLength rawLength)
            { before.withPayload payload with offset := before.offset + 4 }

/-- Every read is sound within the message. -/
theorem sound_of_inside (read : Read) {before : Decoder}
    (inside : before.offset ≤ before.input.length) : Sound read before where
  exactRemaining := if_pos inside
  exactTake := exactTake_eq inside
  exactFinish := exactFinish_eq inside
  forward := (read.forward_after before).moved
  returned _ _ done := Read.bytes_eq_between done
  announced _ limited _ _ done := Read.announced_of_ok limited done
  unmoved fixed error after failed := by
    -- Only reads with a limit fail behind a length.
    cases Read.failed_of_error failed with
    | atStart => rfl
    | behindLength _ limited => rw [fixed] at limited; cases limited
    | behindBytes limited => rw [fixed] at limited; cases limited
  lengthOnly error after failed decodable := by
    cases Read.failed_of_error failed with
    | atStart => exact Nat.le_add_right _ _
    | behindLength _ _ rawLength passes =>
      rw [passes.2]
      show before.offset + (u32ToLeBytes rawLength).length ≤ before.offset + 4
      rw [u32ToLeBytes_length]
    | behindBytes => exact absurd rfl decodable
  refused _ limited _ announced beyond := by
    have own := Read.refused_of_over limited announced beyond (before.input.drop (before.offset + 4))
    rw [withPayload_self] at own
    exact ⟨own, Read.refused_of_over limited announced beyond⟩

section Runs

/-- A sequence of reads goes forward in the same message. -/
theorem forward_readAll (before : Decoder) (reads : List Read) :
    Forward before (before.readAll reads) := by
  -- The induction is on the reads.
  induction reads generalizing before with
  | nil => exact .refl before
  | cons read reads ih => exact (read.forward_after before).trans (ih (read.after before))

/-- What the reads of a sequence have passed makes up what the sequence has passed. -/
theorem flatten_passedBy (before : Decoder) (reads : List Read) :
    (before.passedBy reads).flatten =
      between before.input before.offset (before.readAll reads).offset := by
  -- The first read passes its own bytes, and the others go on where it has ended.
  induction reads generalizing before with
  | nil =>
    have nothing := between_add before.input before.offset 0
    exact nothing.symm
  | cons read reads ih =>
    have first := read.forward_after before
    have others := forward_readAll (read.after before) reads
    rw [passedBy, List.flatten_cons, ih, first.same]
    exact between_append before.input first.moved others.moved

/-- Any sequence of reads of any message stays within it and passes its bytes one after another,
and every read that follows is sound. -/
theorem reads_are_sound (input : Bytes) (reads : List Read) :
    ((new input).readAll reads).input = input ∧
      ((new input).readAll reads).offset ≤ input.length ∧
      ((new input).passedBy reads).flatten = input.take ((new input).readAll reads).offset ∧
      ∀ read, Sound read ((new input).readAll reads) := by
  -- The first place is within the message, and so are all further on.
  have forward := forward_readAll (new input) reads
  have inside : ((new input).readAll reads).offset ≤ input.length :=
    forward.inside (Nat.zero_le _)
  refine ⟨forward.same, inside, ?_, fun read => sound_of_inside read ?_⟩
  · rw [flatten_passedBy]
    exact List.drop_zero
  · rw [forward.same]
    exact inside

end Runs

end Decoder
end Scout
