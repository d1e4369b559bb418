import Scout.Codec.Decoder

/-! What each read of a message accepts, and how it fails. -/

namespace Scout

open Scout.Stream

instance : Cursor Decoder UInt8 where
  rest decoder := decoder.input.drop decoder.offset
  skip decoder count := { decoder with offset := decoder.offset + count }
  rest_skip decoder count := by simp [List.drop_drop]
  skip_skip decoder first second := by simp [Nat.add_assoc]
  skip_zero decoder := rfl

namespace Decoder

open Cursor

/-- What remains is counted by its length. -/
theorem remaining_eq (decoder : Decoder) : decoder.remaining = (rest decoder).length :=
  List.length_drop.symm

/-- Everything is left before the first read. -/
@[simp] theorem rest_new (input : Bytes) : rest (new input) = input := rfl

/-- Taking bytes accepts exactly the strings of the given length. -/
theorem reads_take (length : Nat) :
    Reads false (take length) (fun bytes => bytes.length = length) fun bytes => bytes := by
  -- The bytes that are taken are the front of what is left.
  intro before bytes after
  rw [take, remaining_eq]
  constructor
  · intro taken
    by_cases short : (rest before).length < length
    · rw [if_pos short] at taken
      cases taken
    · rw [if_neg short] at taken
      cases taken
      have full : ((rest before).take length).length = length := by
        rw [List.length_take]
        omega
      refine ⟨full, ⟨List.take_prefix _ _, ?_⟩, nofun⟩
      show skip before length = skip before ((rest before).take length).length
      rw [full]
  · rintro ⟨rfl, ⟨front, rfl⟩, _⟩
    have enough : ¬ (rest before).length < bytes.length := Nat.not_lt.mpr front.length_le
    rw [if_neg enough]
    congr 1
    exact (List.prefix_iff_eq_take.mp front).symm

/-- Taking bytes fails exactly if too few are left. -/
theorem fixed_take (length : Nat) : Fixed length (DecodeError.unexpectedEnd length) (take length) where
  lacking decoder few := by
    -- The guard of the definition holds.
    rw [take, remaining_eq, if_pos few]
    rfl
  enough decoder many := by
    -- The guard of the definition fails.
    rw [take, remaining_eq, if_neg (Nat.not_lt.mpr many)]
    exact ⟨_, rfl⟩

section Numbers

variable {α : Type} {width : Nat}

/-- A number of some width accepts any bytes, and is laid out least significant byte first. -/
theorem reads_number (ofNat : Nat → α) (toNat : α → Nat)
    (small : ∀ value, toNat value < 256 ^ width)
    (back : ∀ value, ofNat (toNat value) = value)
    (kept : ∀ number, number < 256 ^ width → toNat (ofNat number) = number) :
    Reads false (do let bytes ← take width; return ofNat (ofLittleEndian bytes))
      (fun _ => True) fun value => littleEndian width (toNat value) := by
  -- The bytes of the number that bytes denote are those bytes.
  refine ((reads_take width).map (fun bytes => ofNat (ofLittleEndian bytes))
    (fun value => littleEndian width (toNat value)) ?_).congr ?_ fun _ _ => rfl
  · rintro bytes rfl
    rw [kept _ (ofLittleEndian_lt bytes), littleEndian_ofLittleEndian]
  · intro value
    simp [ofLittleEndian_littleEndian (small value), back]

/-- A number of some width fails exactly if too few bytes are left. -/
theorem fixed_number (ofNat : Nat → α) :
    Fixed width (DecodeError.unexpectedEnd width)
      (do let bytes ← take width; return ofNat (ofLittleEndian bytes)) :=
  (fixed_take width).map _

end Numbers

/-- Every byte is accepted. -/
theorem reads_readU8 : Reads false readU8 (fun _ => True) fun value => [value] := by
  -- A single byte is laid out as itself.
  refine (reads_number UInt8.ofNat UInt8.toNat UInt8.toNat_lt (fun _ => UInt8.ofNat_toNat)
    fun _ small => UInt8.toNat_ofNat_of_lt' small).congr (fun _ => Iff.rfl) ?_
  intro value _
  simp [littleEndian]

/-- Every byte is accepted as a signed number. -/
theorem reads_readI8 : Reads false readI8 (fun _ => True) i8ToLeBytes :=
  (reads_readU8.map UInt8.toInt8 Int8.toUInt8 fun _ _ => rfl).congr (fun _ => by simp) fun _ _ => rfl

/-- Every four bytes are accepted as an unsigned number. -/
theorem reads_readU32 : Reads false readU32 (fun _ => True) u32ToLeBytes :=
  reads_number UInt32.ofNat UInt32.toNat UInt32.toNat_lt (fun _ => UInt32.ofNat_toNat)
    fun _ small => UInt32.toNat_ofNat_of_lt' small

/-- Every four bytes are accepted as a signed number. -/
theorem reads_readI32 : Reads false readI32 (fun _ => True) i32ToLeBytes := by
  -- The sign is read from the highest bit of an unsigned number.
  apply reads_number (fun number => (UInt32.ofNat number).toInt32) fun value => value.toUInt32.toNat
  · exact fun value => value.toUInt32.toNat_lt
  · intro value
    simp
  · exact fun _ small => UInt32.toNat_ofNat_of_lt' small

/-- Every eight bytes are accepted as an unsigned number. -/
theorem reads_readU64 : Reads false readU64 (fun _ => True) u64ToLeBytes :=
  reads_number UInt64.ofNat UInt64.toNat UInt64.toNat_lt (fun _ => UInt64.ofNat_toNat)
    fun _ small => UInt64.toNat_ofNat_of_lt' small

/-- Every four bytes are accepted as a binary32 number. -/
theorem reads_readF32 : Reads false readF32 (fun _ => True) f32ToLeBytes := by
  -- The number is its stored integer.
  apply reads_number (fun number => F32.mk (UInt32.ofNat number)) fun value => value.bits.toNat
  · exact fun value => value.bits.toNat_lt
  · intro value
    simp
  · exact fun _ small => UInt32.toNat_ofNat_of_lt' small

/-- Every eight bytes are accepted as a binary64 number. -/
theorem reads_readF64 : Reads false readF64 (fun _ => True) f64ToLeBytes := by
  -- The number and its stored integer determine each other.
  apply reads_number (fun number => F64.ofBits (UInt64.ofNat number))
    fun value => value.toBits.toNat
  · exact fun value => value.toBits.toNat_lt
  · intro value
    simp
  · intro number small
    rw [F64.toBits_ofBits]
    exact UInt64.toNat_ofNat_of_lt' small

/-- As many bytes as were announced are accepted, unless that is beyond the limit. -/
theorem reads_announced (maximumLength : Nat) (rawLength : UInt32) :
    Reads false
      (if maximumLength < rawLength.toNat then do
        let _ ← (throw (.invalidLength rawLength) : Decode PUnit)
        take rawLength.toNat
      else take rawLength.toNat)
      (fun bytes => (True ∧ UInt32.ofNat bytes.length = rawLength) ∧
        (bytes.length ≤ maximumLength ∧ bytes.length < 2 ^ 32))
      fun bytes => bytes := by
  have announced (bytes : Bytes) (fits : bytes.length < 2 ^ 32) :
      UInt32.ofNat bytes.length = rawLength ↔ bytes.length = rawLength.toNat := by
    rw [← UInt32.toNat_inj, UInt32.toNat_ofNat_of_lt' fits]
  by_cases large : maximumLength < rawLength.toNat
  · -- No string is both within the limit and as long as announced.
    rw [if_pos large]
    intro before bytes after
    constructor
    · intro read
      obtain ⟨_, _, thrown, _⟩ := bind_ok.mp read
      cases thrown
    · intro accepted
      obtain ⟨⟨⟨_, same⟩, limited, fits⟩, _⟩ := accepted
      have length := (announced bytes fits).mp same
      omega
  · -- The limit and the width hold by themselves.
    rw [if_neg large]
    refine (reads_take rawLength.toNat).congr (fun bytes => ?_) fun _ _ => rfl
    have width := rawLength.toNat_lt
    constructor
    · intro length
      exact ⟨⟨trivial, (announced bytes (by omega)).mpr length⟩, by omega, by omega⟩
    · intro valid
      exact (announced bytes valid.2.2).mp valid.1.2

/-- A string of limited length is accepted after its length. -/
theorem reads_readVecLimited (maximumLength : Nat) :
    Reads false (readVecLimited maximumLength)
      (fun bytes => bytes.length ≤ maximumLength ∧ bytes.length < 2 ^ 32) lengthPrefixed := by
  -- The length that was read is compared with the limit and then taken.
  refine Reads.whole (Reads.field (fun bytes : Bytes => UInt32.ofNat bytes.length) reads_readU32
    (reads_announced maximumLength)) (fun bytes => ?_) fun _ _ => rfl
  exact iff_of_eq (true_and _)

/-- A text is accepted after the length of its bytes. -/
theorem reads_readStringLimited (maximumLength : Nat) :
    Reads false (readStringLimited maximumLength)
      (fun text => text.utf8.length ≤ maximumLength ∧ text.utf8.length < 2 ^ 32)
      fun text => lengthPrefixed text.utf8 := by
  -- Only the bytes of a text are turned into it.
  intro before text after
  constructor
  · intro read
    obtain ⟨bytes, between, found, converted⟩ := bind_ok.mp read
    obtain ⟨valid, passed⟩ := (reads_readVecLimited _ _ _ _).mp found
    cases decoded : Text.ofUtf8 bytes with
    | none =>
      rw [decoded] at converted
      cases converted
    | some result =>
      rw [decoded] at converted
      obtain ⟨rfl, rfl⟩ := pure_ok.mp converted
      obtain rfl := Text.ofUtf8_eq_some.mp decoded
      exact ⟨valid, passed⟩
  · intro accepted
    refine bind_ok.mpr ⟨text.utf8, after, (reads_readVecLimited _ _ _ _).mpr accepted, ?_⟩
    rw [Text.ofUtf8_eq_some.mpr rfl]
    rfl

/-- A check of the end passes exactly there, and stays where it is. -/
theorem finish_ok {before after : Decoder} :
    finish before = .ok () after ↔ rest before = [] ∧ after = before := by
  -- Nothing is left exactly if the remaining length is zero.
  rw [finish, remaining_eq]
  by_cases ended : (rest before).length = 0
  · rw [if_pos ended]
    simp [List.length_eq_zero_iff.mp ended, eq_comm]
  · rw [if_neg ended]
    refine iff_of_false (fun same => by cases same) fun passed => ended ?_
    rw [passed.1]
    rfl

/-- A message whose fields are all known may end there. -/
theorem reads_finish {α : Type} {Known : α → Prop} {value : α}
    (determined : ∀ other, Known other ↔ other = value) :
    Reads true (do finish; return value) (fun other => Known other ∧ True) fun _ => [] := by
  -- The check of the end stays in place.
  intro before other after
  simp only [bind_ok, pure_ok, determined, passes_nil]
  constructor
  · intro read
    obtain ⟨_, _, finished, rfl, rfl⟩ := read
    obtain ⟨ended, rfl⟩ := finish_ok.mp finished
    exact ⟨⟨rfl, trivial⟩, rfl, fun _ => ended⟩
  · intro accepted
    obtain ⟨⟨rfl, _⟩, rfl, last⟩ := accepted
    exact ⟨(), _, finish_ok.mpr ⟨last trivial, rfl⟩, rfl, rfl⟩

/-- A whole message is read exactly if it is the layout of a valid value. -/
theorem decoded_iff {α : Type} {read : Decode α} {Valid : α → Prop} {layout : α → Bytes}
    (reads : Reads true read Valid layout) {input : Bytes} {value : α} :
    (∃ after, read (new input) = .ok value after) ↔ Valid value ∧ input = layout value := by
  -- The layout is a prefix of the message with nothing behind it.
  constructor
  · intro found
    obtain ⟨after, found⟩ := found
    obtain ⟨valid, ⟨⟨behind, whole⟩, rfl⟩, ended⟩ := (reads _ _ _).mp found
    have empty := ended rfl
    rw [rest_skip, ← whole, List.drop_left] at empty
    rw [empty, List.append_nil] at whole
    exact ⟨valid, whole.symm⟩
  · intro laid
    obtain ⟨valid, rfl⟩ := laid
    refine ⟨_, (reads _ _ _).mpr ⟨valid, ⟨List.prefix_rfl, rfl⟩, fun _ => ?_⟩⟩
    rw [rest_skip, rest_new, List.drop_length]

/-- A message is decoded if its reads succeed. -/
theorem decoded_ok {α : Type} {result : EStateM.Result DecodeError Decoder α} {value : α} :
    decoded result = .ok value ↔ ∃ after, result = .ok value after := by
  -- The cases are those of the result.
  cases result with
  | ok found after => simp [decoded]
  | error error after => simp [decoded]

/-- A message is refused as its reads fail. -/
theorem decoded_error {α : Type} {result : EStateM.Result DecodeError Decoder α}
    {error : DecodeError} : decoded result = .error error ↔ errorOf result = some error := by
  -- The cases are those of the result.
  cases result with
  | ok found after => simp [decoded, errorOf]
  | error cause after => simp [decoded, errorOf]

/-- A byte is missing only at the end. -/
theorem fixed_readU8 : Fixed 1 (DecodeError.unexpectedEnd 1) readU8 :=
  fixed_number UInt8.ofNat

/-- A signed byte is missing only at the end. -/
theorem fixed_readI8 : Fixed 1 (DecodeError.unexpectedEnd 1) readI8 :=
  fixed_readU8.map UInt8.toInt8

/-- Four bytes are missing only if fewer are left. -/
theorem fixed_readU32 : Fixed 4 (DecodeError.unexpectedEnd 4) readU32 :=
  fixed_number UInt32.ofNat

/-- Four bytes are missing only if fewer are left. -/
theorem fixed_readI32 : Fixed 4 (DecodeError.unexpectedEnd 4) readI32 :=
  fixed_number fun number => (UInt32.ofNat number).toInt32

/-- Eight bytes are missing only if fewer are left. -/
theorem fixed_readU64 : Fixed 8 (DecodeError.unexpectedEnd 8) readU64 :=
  fixed_number UInt64.ofNat

/-- The length that stands at the front of some bytes. -/
def announcedLength (bytes : Bytes) : Nat :=
  ofLittleEndian (bytes.take 4)

/-- The number that was read from the front is the one that stands there. -/
theorem announcedLength_of_readU32 {place after : Decoder} {value : UInt32}
    (found : readU32 place = .ok value after) : announcedLength (rest place) = value.toNat := by
  -- The four bytes of the number are the first ones that are left.
  obtain ⟨_, ⟨⟨behind, whole⟩, _⟩, _⟩ := (reads_readU32 _ _ _).mp found
  have front : (rest place).take 4 = u32ToLeBytes value := by
    rw [← whole]
    exact List.take_left' (u32ToLeBytes_length value)
  rw [announcedLength, front]
  exact ofLittleEndian_littleEndian value.toNat_lt

/-- A string that is announced as too long is refused, whatever follows its length. -/
theorem errorOf_overlong {maximumLength : Nat} {place : Decoder} (counted : 4 ≤ (rest place).length)
    (overlong : maximumLength < announcedLength (rest place)) :
    errorOf (readVecLimited maximumLength place) =
      some (.invalidLength (UInt32.ofNat (announcedLength (rest place)))) := by
  -- The announced length is read, and then compared with the limit.
  unfold readVecLimited
  refine (fixed_readU32.errorOf_bind fun _ rawLength found => ?_).trans
    (if_neg (Nat.not_lt.mpr counted))
  rw [announcedLength_of_readU32 found] at overlong ⊢
  rw [if_pos overlong, UInt32.ofNat_toNat]
  exact errorOf_first rfl

/-- A string of limited length fails where its length does not fit, or it is too long or short. -/
theorem errorOf_readVecLimited {α : Type} {maximumLength : Nat} {next : Bytes → Decode α}
    {place : Decoder} {problem : Option DecodeError}
    (continued : ∀ bytes, errorOf (next bytes (skip place (4 + announcedLength (rest place)))) =
      problem) :
    errorOf ((readVecLimited maximumLength >>= next) place) =
      if (rest place).length < 4 then some (.unexpectedEnd 4 (rest place).length)
      else if maximumLength < announcedLength (rest place) then
        some (.invalidLength (UInt32.ofNat (announcedLength (rest place))))
      else if (rest place).length - 4 < announcedLength (rest place) then
        some (.unexpectedEnd (announcedLength (rest place)) ((rest place).length - 4))
      else problem := by
  -- The length is read first, then compared with the limit, and then the bytes are taken.
  by_cases few : (rest place).length < 4
  · rw [if_pos few]
    exact errorOf_first (errorOf_first (fixed_readU32.lacking place few))
  rw [if_neg few]
  by_cases overlong : maximumLength < announcedLength (rest place)
  · rw [if_pos overlong]
    exact errorOf_first (errorOf_overlong (Nat.not_lt.mp few) overlong)
  rw [if_neg overlong]
  unfold readVecLimited
  rw [bind_assoc]
  refine (fixed_readU32.errorOf_bind fun _ rawLength found => ?_).trans (if_neg few)
  have left : (rest (skip place 4)).length = (rest place).length - 4 := by
    rw [rest_skip, List.length_drop]
  rw [announcedLength_of_readU32 found] at overlong continued ⊢
  rw [if_neg overlong, ← left]
  apply (fixed_take rawLength.toNat).errorOf_bind
  intro _ bytes _
  rw [skip_skip]
  exact continued bytes

/-- At the end of a message, bytes that are left over are a failure, whatever comes after. -/
theorem errorOf_finish_bind {α : Type} {next : Unit → Decode α} {place : Decoder} :
    errorOf ((finish >>= next) place) =
      if (rest place).length = 0 then errorOf (next () place)
      else some (.trailingBytes (rest place).length) := by
  -- The check either passes and stays where it is, or it fails.
  by_cases ended : (rest place).length = 0
  · have passed : finish place = .ok () place := by rw [finish, remaining_eq, if_pos ended]
    rw [bind_found passed, if_pos ended]
  · rw [if_neg ended]
    apply errorOf_first
    rw [finish, remaining_eq, if_neg ended]
    rfl

/-- At the end of a message, bytes that are left over are the only failure. -/
theorem errorOf_finish {α : Type} {value : α} {place : Decoder} :
    errorOf ((do finish; return value : Decode α) place) =
      if (rest place).length = 0 then none else some (.trailingBytes (rest place).length) :=
  errorOf_finish_bind

end Decoder
end Scout
