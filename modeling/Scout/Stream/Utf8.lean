import Scout.Stream.Text

/-! A text is read back from its bytes, and only from them. -/

namespace Scout.Text

/-- The bytes of a text are those of its first character and then those of the others. -/
theorem utf8_cons (char : Char) (text : Text) :
    utf8 (char :: text) = String.utf8EncodeChar char ++ utf8 text :=
  List.flatMap_cons

/-- The bytes of two texts one after another are those of the whole. -/
@[simp] theorem utf8_append (first second : Text) :
    utf8 (first ++ second) = utf8 first ++ utf8 second :=
  List.flatMap_append

section Reading

variable {missing code least : Nat} {bytes : Bytes} {text : Text}

/-- Without an unfinished character, a byte below the limit is a character by itself. -/
theorem ofUtf8From_single {byte : UInt8} (small : byte.toNat < 0x80) :
    ofUtf8From 0 code least (byte :: bytes) =
      (ofUtf8From 0 0 0 bytes).map (Char.ofNat byte.toNat :: ·) := by
  -- The first branch is taken.
  simp [ofUtf8From, small]

/-- The first byte of two brings five bits. -/
theorem ofUtf8From_two {byte : UInt8} (from_ : 0xc0 ≤ byte.toNat) (below : byte.toNat < 0xe0) :
    ofUtf8From 0 code least (byte :: bytes) = ofUtf8From 1 (byte.toNat % 32) 0x80 bytes := by
  -- The tests before this one fail.
  have large : ¬ byte.toNat < 0x80 := by omega
  simp [ofUtf8From, large, from_, below]

/-- The first byte of three brings four bits. -/
theorem ofUtf8From_three {byte : UInt8} (from_ : 0xe0 ≤ byte.toNat)
    (below : byte.toNat < 0xf0) :
    ofUtf8From 0 code least (byte :: bytes) = ofUtf8From 2 (byte.toNat % 16) 0x800 bytes := by
  -- The tests before this one fail.
  have large : ¬ byte.toNat < 0x80 := by omega
  have notTwo : ¬ byte.toNat < 0xe0 := by omega
  simp [ofUtf8From, large, notTwo, from_, below]

/-- The first byte of four brings three bits. -/
theorem ofUtf8From_four {byte : UInt8} (from_ : 0xf0 ≤ byte.toNat)
    (below : byte.toNat < 0xf8) :
    ofUtf8From 0 code least (byte :: bytes) = ofUtf8From 3 (byte.toNat % 8) 0x10000 bytes := by
  -- The tests before this one fail.
  have large : ¬ byte.toNat < 0x80 := by omega
  have notTwo : ¬ byte.toNat < 0xe0 := by omega
  have notThree : ¬ byte.toNat < 0xf0 := by omega
  simp [ofUtf8From, large, notTwo, notThree, from_, below]

/-- Inside a character, a byte that is not its last is added to the code. -/
theorem ofUtf8From_more {byte : UInt8} (more : 1 < missing) (continues : byte.toNat / 64 = 2) :
    ofUtf8From missing code least (byte :: bytes) =
      ofUtf8From (missing - 1) (code * 64 + byte.toNat % 64) least bytes := by
  -- Some bytes are missing, and after this one there are still some.
  have unfinished : missing ≠ 0 := by omega
  simp [ofUtf8From, unfinished, continues, more]

/-- The last byte of a character completes its code. -/
theorem ofUtf8From_last {byte : UInt8} (continues : byte.toNat / 64 = 2)
    (long : least ≤ code * 64 + byte.toNat % 64)
    (valid : (code * 64 + byte.toNat % 64).isValidChar) :
    ofUtf8From 1 code least (byte :: bytes) =
      (ofUtf8From 0 0 0 bytes).map (Char.ofNat (code * 64 + byte.toNat % 64) :: ·) := by
  -- Nothing is missing afterwards.
  simp [ofUtf8From, continues, long, valid]

/-- A reader inside a character finds a byte that continues it. -/
theorem more_of_ofUtf8From (more : 1 < missing)
    (found : ofUtf8From missing code least bytes = some text) :
    ∃ byte rest, bytes = byte :: rest ∧ byte.toNat / 64 = 2 ∧
      ofUtf8From (missing - 1) (code * 64 + byte.toNat % 64) least rest = some text := by
  -- The text cannot end here, and no other byte is accepted.
  have unfinished : missing ≠ 0 := by omega
  cases bytes with
  | nil => simp [ofUtf8From, unfinished] at found
  | cons byte rest =>
    by_cases continues : byte.toNat / 64 = 2
    · rw [ofUtf8From_more more continues] at found
      exact ⟨byte, rest, rfl, continues, found⟩
    · simp [ofUtf8From, unfinished, continues] at found

/-- A reader that lacks one byte finds it, and then the rest of the text. -/
theorem last_of_ofUtf8From (found : ofUtf8From 1 code least bytes = some text) :
    ∃ byte rest tail, bytes = byte :: rest ∧ byte.toNat / 64 = 2 ∧
      least ≤ code * 64 + byte.toNat % 64 ∧ (code * 64 + byte.toNat % 64).isValidChar ∧
      ofUtf8From 0 0 0 rest = some tail ∧
      text = Char.ofNat (code * 64 + byte.toNat % 64) :: tail := by
  -- The text cannot end here, and the completed code is checked.
  cases bytes with
  | nil => simp [ofUtf8From] at found
  | cons byte rest =>
    by_cases continues : byte.toNat / 64 = 2
    · by_cases checked : least ≤ code * 64 + byte.toNat % 64 ∧
          (code * 64 + byte.toNat % 64).isValidChar
      · rw [ofUtf8From_last continues checked.1 checked.2, Option.map_eq_some_iff] at found
        obtain ⟨tail, read, rfl⟩ := found
        exact ⟨byte, rest, tail, rfl, continues, checked.1, checked.2, read, rfl⟩
      · simp [ofUtf8From, continues, checked] at found
    · simp [ofUtf8From, continues] at found

end Reading

/-- The bytes of the character with a given code. -/
def encodeCode (code : Nat) : Bytes :=
  if code ≤ 0x7f then [UInt8.ofNat code]
  else if code ≤ 0x7ff then
    [UInt8.ofNat (code / 64 % 0x20 + 0xc0), UInt8.ofNat (code % 0x40 + 0x80)]
  else if code ≤ 0xffff then
    [UInt8.ofNat (code / 4096 % 0x10 + 0xe0), UInt8.ofNat (code / 64 % 0x40 + 0x80),
      UInt8.ofNat (code % 0x40 + 0x80)]
  else
    [UInt8.ofNat (code / 262144 % 0x08 + 0xf0), UInt8.ofNat (code / 4096 % 0x40 + 0x80),
      UInt8.ofNat (code / 64 % 0x40 + 0x80), UInt8.ofNat (code % 0x40 + 0x80)]

/-- A number below the limit is the value of the byte made of it. -/
theorem toNat_byte (value : Nat) (small : value < 256) : (UInt8.ofNat value).toNat = value := by
  -- Nothing is cut off.
  rw [UInt8.toNat_ofNat']
  exact Nat.mod_eq_of_lt small

/-- A byte is made of its value. -/
theorem byte_of_toNat {value : Nat} (byte : UInt8) (same : value = byte.toNat) :
    UInt8.ofNat value = byte := by
  -- The value is taken apart and put together again.
  rw [same, UInt8.ofNat_toNat]

/-- A character is read back from its bytes, whatever follows them. -/
theorem ofUtf8From_utf8EncodeChar (char : Char) (bytes : Bytes) :
    ofUtf8From 0 0 0 (String.utf8EncodeChar char ++ bytes) =
      (ofUtf8From 0 0 0 bytes).map (char :: ·) := by
  -- The length of the encoding is decided by the code, and its bytes hold the bits of it.
  have valid : char.toNat.isValidChar := char.valid
  have same : Char.ofNat char.toNat = char := Char.ofNat_toNat char
  have encoded : String.utf8EncodeChar char = encodeCode char.toNat := rfl
  rw [encoded]
  generalize char.toNat = code at valid same
  subst same
  have bound : code < 0x110000 := by
    rcases valid with low | high
    · omega
    · exact high.2
  unfold encodeCode
  by_cases one : code ≤ 0x7f
  · have byte := toNat_byte (code) (by omega)
    rw [if_pos one, List.singleton_append, ofUtf8From_single (by omega), byte]
  rw [if_neg one]
  by_cases two : code ≤ 0x7ff
  · have first := toNat_byte (code / 64 % 0x20 + 0xc0) (by omega)
    have second := toNat_byte (code % 0x40 + 0x80) (by omega)
    have whole : (code / 64 % 0x20 + 0xc0) % 32 * 64 + (code % 0x40 + 0x80) % 64 = code := by
      omega
    rw [if_pos two, List.cons_append, List.cons_append, List.nil_append,
      ofUtf8From_two (by omega) (by omega), first,
      ofUtf8From_last (by omega) (by omega) (by rwa [second, whole]), second, whole]
  rw [if_neg two]
  by_cases three : code ≤ 0xffff
  · have first := toNat_byte (code / 4096 % 0x10 + 0xe0) (by omega)
    have second := toNat_byte (code / 64 % 0x40 + 0x80) (by omega)
    have third := toNat_byte (code % 0x40 + 0x80) (by omega)
    have whole : ((code / 4096 % 0x10 + 0xe0) % 16 * 64 + (code / 64 % 0x40 + 0x80) % 64) * 64 +
        (code % 0x40 + 0x80) % 64 = code := by
      omega
    rw [if_pos three, List.cons_append, List.cons_append, List.cons_append, List.nil_append,
      ofUtf8From_three (by omega) (by omega), first,
      ofUtf8From_more (by decide) (by omega), second,
      ofUtf8From_last (by omega) (by omega) (by rwa [third, whole]), third, whole]
  rw [if_neg three]
  have first := toNat_byte (code / 262144 % 0x08 + 0xf0) (by omega)
  have second := toNat_byte (code / 4096 % 0x40 + 0x80) (by omega)
  have third := toNat_byte (code / 64 % 0x40 + 0x80) (by omega)
  have fourth := toNat_byte (code % 0x40 + 0x80) (by omega)
  have whole : (((code / 262144 % 0x08 + 0xf0) % 8 * 64 + (code / 4096 % 0x40 + 0x80) % 64) * 64 +
      (code / 64 % 0x40 + 0x80) % 64) * 64 + (code % 0x40 + 0x80) % 64 = code := by
    omega
  rw [List.cons_append, List.cons_append, List.cons_append, List.cons_append, List.nil_append,
    ofUtf8From_four (by omega) (by omega), first,
    ofUtf8From_more (by decide) (by omega), second,
    ofUtf8From_more (by decide) (by omega), third,
    ofUtf8From_last (by omega) (by omega) (by rwa [fourth, whole]), fourth, whole]

/-- The bytes of a character that is given by its code. -/
theorem utf8EncodeChar_ofNat {code : Nat} (valid : code.isValidChar) :
    String.utf8EncodeChar (Char.ofNat code) = encodeCode code := by
  -- The code of that character is the given one.
  show encodeCode (Char.ofNat code).toNat = encodeCode code
  rw [Char.ofNat, dif_pos valid]
  rfl

section Encoding

variable {lead second third fourth : UInt8}

/-- A code that two bytes hold, and not one, has these two bytes. -/
theorem encodeCode_two (start : 0xc0 ≤ lead.toNat ∧ lead.toNat < 0xe0)
    (continues : second.toNat / 64 = 2) (long : 0x80 ≤ lead.toNat % 32 * 64 + second.toNat % 64) :
    encodeCode (lead.toNat % 32 * 64 + second.toNat % 64) = [lead, second] := by
  -- Each byte is put together from the bits that were taken out of it.
  rw [encodeCode, if_neg (by omega), if_pos (by omega), byte_of_toNat lead (by omega),
    byte_of_toNat second (by omega)]

/-- A code that three bytes hold, and not two, has these three bytes. -/
theorem encodeCode_three (start : 0xe0 ≤ lead.toNat ∧ lead.toNat < 0xf0)
    (continues : second.toNat / 64 = 2) (ends : third.toNat / 64 = 2)
    (long : 0x800 ≤ (lead.toNat % 16 * 64 + second.toNat % 64) * 64 + third.toNat % 64) :
    encodeCode ((lead.toNat % 16 * 64 + second.toNat % 64) * 64 + third.toNat % 64) =
      [lead, second, third] := by
  -- Each byte is put together from the bits that were taken out of it.
  rw [encodeCode, if_neg (by omega), if_neg (by omega), if_pos (by omega),
    byte_of_toNat lead (by omega), byte_of_toNat second (by omega),
    byte_of_toNat third (by omega)]

/-- A code that four bytes hold, and not three, has these four bytes. -/
theorem encodeCode_four (start : 0xf0 ≤ lead.toNat ∧ lead.toNat < 0xf8)
    (continues : second.toNat / 64 = 2) (goes : third.toNat / 64 = 2)
    (ends : fourth.toNat / 64 = 2)
    (long : 0x10000 ≤ ((lead.toNat % 8 * 64 + second.toNat % 64) * 64 + third.toNat % 64) * 64 +
      fourth.toNat % 64) :
    encodeCode (((lead.toNat % 8 * 64 + second.toNat % 64) * 64 + third.toNat % 64) * 64 +
      fourth.toNat % 64) = [lead, second, third, fourth] := by
  -- Each byte is put together from the bits that were taken out of it.
  rw [encodeCode, if_neg (by omega), if_neg (by omega), if_neg (by omega),
    byte_of_toNat lead (by omega), byte_of_toNat second (by omega),
    byte_of_toNat third (by omega), byte_of_toNat fourth (by omega)]

end Encoding

/-- Whatever is read from bytes has exactly these bytes. -/
theorem utf8_of_ofUtf8From {bytes : Bytes} {text : Text}
    (found : ofUtf8From 0 0 0 bytes = some text) : utf8 text = bytes := by
  -- The induction is on the number of bytes, of which each character takes at least one.
  induction size : bytes.length using Nat.strongRecOn generalizing bytes text with
  | _ size ih =>
    cases bytes with
    | nil =>
      cases found
      rfl
    | cons lead rest =>
      rw [List.length_cons] at size
      -- The first byte says how many bytes the character has.
      by_cases one : lead.toNat < 0x80
      · rw [ofUtf8From_single one, Option.map_eq_some_iff] at found
        obtain ⟨tail, read, rfl⟩ := found
        have same := ih rest.length (by omega) read rfl
        have valid : lead.toNat.isValidChar := .inl (by omega)
        have small : lead.toNat ≤ 0x7f := by omega
        rw [utf8_cons, utf8EncodeChar_ofNat valid, same, encodeCode, if_pos small,
          UInt8.ofNat_toNat, List.singleton_append]
      by_cases two : 0xc0 ≤ lead.toNat ∧ lead.toNat < 0xe0
      · rw [ofUtf8From_two two.1 two.2] at found
        obtain ⟨second, rest, tail, rfl, continues, long, valid, read, rfl⟩ :=
          last_of_ofUtf8From found
        have same := ih rest.length (by simp at size; omega) read rfl
        rw [utf8_cons, utf8EncodeChar_ofNat valid, same, encodeCode_two two continues long]
        rfl
      by_cases three : 0xe0 ≤ lead.toNat ∧ lead.toNat < 0xf0
      · rw [ofUtf8From_three three.1 three.2] at found
        obtain ⟨second, rest, rfl, continues, found⟩ := more_of_ofUtf8From (by decide) found
        obtain ⟨third, rest, tail, rfl, ends, long, valid, read, rfl⟩ := last_of_ofUtf8From found
        have same := ih rest.length (by simp at size; omega) read rfl
        rw [utf8_cons, utf8EncodeChar_ofNat valid, same,
          encodeCode_three three continues ends long]
        rfl
      by_cases four : 0xf0 ≤ lead.toNat ∧ lead.toNat < 0xf8
      · rw [ofUtf8From_four four.1 four.2] at found
        obtain ⟨second, rest, rfl, continues, found⟩ := more_of_ofUtf8From (by decide) found
        obtain ⟨third, rest, rfl, goes, found⟩ := more_of_ofUtf8From (by decide) found
        obtain ⟨fourth, rest, tail, rfl, ends, long, valid, read, rfl⟩ := last_of_ofUtf8From found
        have same := ih rest.length (by simp at size; omega) read rfl
        rw [utf8_cons, utf8EncodeChar_ofNat valid, same,
          encodeCode_four four continues goes ends long]
        rfl
      · -- No other byte begins a character.
        simp [ofUtf8From, one, two, three, four] at found

/-- A text is read from bytes exactly if they are its bytes. -/
theorem ofUtf8_eq_some {bytes : Bytes} {text : Text} :
    ofUtf8 bytes = some text ↔ utf8 text = bytes := by
  -- One direction is shown for all bytes, the other one character after another.
  refine ⟨utf8_of_ofUtf8From, ?_⟩
  rintro rfl
  induction text with
  | nil => rfl
  | cons char rest ih =>
    rw [ofUtf8] at ih ⊢
    rw [utf8_cons, ofUtf8From_utf8EncodeChar, ih, Option.map_some]

/-- Different texts have different bytes. -/
theorem utf8_injective {first second : Text} (same : utf8 first = utf8 second) :
    first = second := by
  -- Both are read from the same bytes.
  have one := ofUtf8_eq_some.mpr same
  have other := ofUtf8_eq_some.mpr (rfl : utf8 second = utf8 second)
  rw [other] at one
  exact (Option.some.inj one).symm

/-- A character whose bytes all have their highest bit clear is a single byte. -/
theorem utf8EncodeChar_of_small {char : Char}
    (small : ∀ byte ∈ String.utf8EncodeChar char, byte.toNat < 0x80) :
    char.toNat < 0x80 ∧ String.utf8EncodeChar char = [UInt8.ofNat char.toNat] := by
  -- Every longer encoding begins with a byte whose highest bit is set.
  have encoded : String.utf8EncodeChar char = encodeCode char.toNat := rfl
  rw [encoded] at small ⊢
  generalize char.toNat = code at small
  unfold encodeCode at small ⊢
  by_cases one : code ≤ 0x7f
  · rw [if_pos one]
    exact ⟨by omega, rfl⟩
  · rw [if_neg one] at small
    by_cases two : code ≤ 0x7ff
    · rw [if_pos two] at small
      have first := small _ List.mem_cons_self
      rw [toNat_byte _ (by omega)] at first
      omega
    · rw [if_neg two] at small
      by_cases three : code ≤ 0xffff
      · rw [if_pos three] at small
        have first := small _ List.mem_cons_self
        rw [toNat_byte _ (by omega)] at first
        omega
      · rw [if_neg three] at small
        have first := small _ List.mem_cons_self
        rw [toNat_byte _ (by omega)] at first
        omega

/-- What holds of all bytes of a text, none of which has its highest bit set, holds of its codes. -/
theorem forall_of_utf8 {text : Text} {Allowed : Nat → Prop}
    (allowed : ∀ byte ∈ text.utf8, Allowed byte.toNat)
    (small : ∀ value, Allowed value → value < 0x80) : ∀ char ∈ text, Allowed char.toNat := by
  -- The bytes of each character are among those of the text.
  intro char member
  have bytes : ∀ byte ∈ String.utf8EncodeChar char, Allowed byte.toNat := fun byte inside =>
    allowed byte (List.mem_flatMap.mpr ⟨char, member, inside⟩)
  obtain ⟨below, single⟩ := utf8EncodeChar_of_small fun byte inside =>
    small _ (bytes byte inside)
  have only := bytes (UInt8.ofNat char.toNat) (by simp [single])
  rwa [toNat_byte _ (by omega)] at only

/-- A character of seven bits is stored as one byte. -/
theorem utf8EncodeChar_ascii {char : Char} (small : char.toNat < 0x80) :
    String.utf8EncodeChar char = [UInt8.ofNat char.toNat] := by
  -- It is the byte with its code.
  show encodeCode char.toNat = [UInt8.ofNat char.toNat]
  rw [encodeCode, if_pos (by omega)]

/-- A property of seven-bit codes holds of all bytes of a text exactly if it holds of its codes. -/
theorem forall_utf8_iff {text : Text} {Allowed : Nat → Prop}
    (small : ∀ value, Allowed value → value < 0x80) :
    (∀ byte ∈ text.utf8, Allowed byte.toNat) ↔ ∀ char ∈ text, Allowed char.toNat := by
  refine ⟨fun allowed => forall_of_utf8 allowed small, fun allowed byte member => ?_⟩
  -- Each byte is the only one of its character.
  obtain ⟨char, inside, part⟩ := List.mem_flatMap.mp member
  have below := small _ (allowed char inside)
  rw [utf8EncodeChar_ascii below, List.mem_singleton] at part
  rw [part, toNat_byte _ (by omega)]
  exact allowed char inside

/-- A text of seven-bit characters is stored as one byte each. -/
theorem utf8_of_small {text : Text} (small : ∀ char ∈ text, char.toNat < 0x80) :
    text.utf8 = text.map fun char => UInt8.ofNat char.toNat := by
  -- The induction is on the characters.
  induction text with
  | nil => rfl
  | cons char rest ih =>
    obtain ⟨first, others⟩ := List.forall_mem_cons.mp small
    rw [utf8_cons, utf8EncodeChar_ascii first, ih others]
    rfl

end Scout.Text
