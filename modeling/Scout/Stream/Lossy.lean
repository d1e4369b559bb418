import Mathlib.Data.List.Forall2
import Scout.Stream.Case
import Scout.Stream.Utf8

/-! Text that is read from any bytes, with marks in place of what is no part of a text. -/

namespace Scout.Text

/-- The mark in place of bytes that are no part of a text. -/
def replacement : Char := Char.ofNat 0xfffd

/-- A character that has been begun, and between which bounds its next byte must be. -/
structure Unfinished where
  missing : Nat
  code : Nat
  low : Nat
  high : Nat

namespace Unfinished

/-- What a lead byte begins, if it begins anything. -/
def begin (byte : Nat) : Option Unfinished :=
  if 0xc2 ≤ byte ∧ byte ≤ 0xdf then
    some { missing := 1, code := byte % 32, low := 0x80, high := 0xbf }
  -- The first byte behind these leads must not make a code that is short, or no character's.
  else if byte = 0xe0 then some { missing := 2, code := 0, low := 0xa0, high := 0xbf }
  else if byte = 0xed then some { missing := 2, code := 13, low := 0x80, high := 0x9f }
  else if 0xe1 ≤ byte ∧ byte ≤ 0xef then
    some { missing := 2, code := byte % 16, low := 0x80, high := 0xbf }
  else if byte = 0xf0 then some { missing := 3, code := 0, low := 0x90, high := 0xbf }
  else if byte = 0xf4 then some { missing := 3, code := 4, low := 0x80, high := 0x8f }
  else if 0xf1 ≤ byte ∧ byte ≤ 0xf3 then
    some { missing := 3, code := byte % 8, low := 0x80, high := 0xbf }
  else none

/-- What is left to read of a character behind its next byte, if this byte is one of it. -/
def take (unfinished : Unfinished) (byte : Nat) : Option Unfinished :=
  if unfinished.low ≤ byte ∧ byte ≤ unfinished.high then
    some { missing := unfinished.missing - 1, code := unfinished.code * 64 + byte % 64,
           low := 0x80, high := 0xbf }
  else none

end Unfinished

/-- The text that is left to read behind the beginning of a character, if there is one. -/
def ofUtf8LossyFrom (pending : Option Unfinished) : Bytes → Text
  | [] => if pending.isSome then [replacement] else []
  | byte :: rest =>
    match pending.bind fun unfinished => unfinished.take byte.toNat with
    | some next =>
      if next.missing = 0 then Char.ofNat next.code :: ofUtf8LossyFrom none rest
      else ofUtf8LossyFrom (some next) rest
    | none =>
      -- What cannot be finished is marked, and the byte after it is looked at again.
      (if pending.isSome then [replacement] else []) ++
        if byte.toNat < 0x80 then Char.ofNat byte.toNat :: ofUtf8LossyFrom none rest
        else
          match Unfinished.begin byte.toNat with
          | some lead => ofUtf8LossyFrom (some lead) rest
          | none => replacement :: ofUtf8LossyFrom none rest

/-- The text that is stored as the given bytes, with marks where they are not valid. -/
def ofUtf8Lossy (bytes : Bytes) : Text :=
  ofUtf8LossyFrom none bytes

section Reading

variable {unfinished lead next : Unfinished} {byte : UInt8} {bytes : Bytes}

/-- Between characters, a byte below the limit is a character by itself. -/
theorem ofUtf8LossyFrom_single (small : byte.toNat < 0x80) :
    ofUtf8LossyFrom none (byte :: bytes) =
      Char.ofNat byte.toNat :: ofUtf8LossyFrom none bytes := by
  simp [ofUtf8LossyFrom, small]

/-- Between characters, a lead byte begins a character. -/
theorem ofUtf8LossyFrom_lead (large : 0x80 ≤ byte.toNat)
    (begun : Unfinished.begin byte.toNat = some lead) :
    ofUtf8LossyFrom none (byte :: bytes) = ofUtf8LossyFrom (some lead) bytes := by
  simp [ofUtf8LossyFrom, Nat.not_lt.mpr large, begun]

/-- Inside a character, a byte of it leaves less to read. -/
theorem ofUtf8LossyFrom_more (taken : unfinished.take byte.toNat = some next)
    (more : next.missing ≠ 0) :
    ofUtf8LossyFrom (some unfinished) (byte :: bytes) = ofUtf8LossyFrom (some next) bytes := by
  simp [ofUtf8LossyFrom, taken, more]

/-- The last byte of a character finishes it. -/
theorem ofUtf8LossyFrom_last (taken : unfinished.take byte.toNat = some next)
    (done : next.missing = 0) :
    ofUtf8LossyFrom (some unfinished) (byte :: bytes) =
      Char.ofNat next.code :: ofUtf8LossyFrom none bytes := by
  simp [ofUtf8LossyFrom, taken, done]

/-- A byte that is not of the character is read behind a mark in its place. -/
theorem ofUtf8LossyFrom_stray (stray : unfinished.take byte.toNat = none) :
    ofUtf8LossyFrom (some unfinished) (byte :: bytes) =
      replacement :: ofUtf8LossyFrom none (byte :: bytes) := by
  simp [ofUtf8LossyFrom, stray]

end Reading

section Valid

/-- A byte that may continue any character leaves less of it to read. -/
theorem Unfinished.take_plain {missing code byte : Nat} (continues : byte / 64 = 2) :
    take { missing, code, low := 0x80, high := 0xbf } byte =
      some { missing := missing - 1, code := code * 64 + byte % 64, low := 0x80, high := 0xbf } := by
  rw [take, if_pos (by dsimp only; omega)]

variable {lead second : Nat}

/-- The lead of two bytes brings five bits. -/
theorem Unfinished.begin_two (start : 0xc2 ≤ lead ∧ lead ≤ 0xdf) :
    begin lead = some { missing := 1, code := lead % 32, low := 0x80, high := 0xbf } := by
  rw [begin, if_pos start]

/-- The first two of three bytes bring ten bits, unless the code is short or a surrogate's. -/
theorem Unfinished.begin_three (start : 0xe0 ≤ lead ∧ lead ≤ 0xef) (continues : second / 64 = 2)
    (long : 0x20 ≤ lead % 16 * 64 + second % 64)
    (fit : lead % 16 * 64 + second % 64 < 0x360 ∨ 0x380 ≤ lead % 16 * 64 + second % 64) :
    ((begin lead).bind fun unfinished => unfinished.take second) =
      some { missing := 1, code := lead % 16 * 64 + second % 64, low := 0x80, high := 0xbf } := by
  -- The second byte is within the bounds of its lead.
  rw [begin, if_neg (by omega)]
  by_cases short : lead = 0xe0
  · subst short
    rw [if_pos rfl, Option.bind_some, take, if_pos (by dsimp only; omega)]
    rfl
  rw [if_neg short]
  by_cases surrogate : lead = 0xed
  · subst surrogate
    rw [if_pos rfl, Option.bind_some, take, if_pos (by dsimp only; omega)]
    rfl
  rw [if_neg surrogate, if_pos (by omega), Option.bind_some, take_plain continues]

/-- The first two of four bytes bring nine bits, unless the code is short or too large. -/
theorem Unfinished.begin_four (start : 0xf0 ≤ lead ∧ lead ≤ 0xf4) (continues : second / 64 = 2)
    (long : 0x10 ≤ lead % 8 * 64 + second % 64) (fit : lead % 8 * 64 + second % 64 < 0x110) :
    ((begin lead).bind fun unfinished => unfinished.take second) =
      some { missing := 2, code := lead % 8 * 64 + second % 64, low := 0x80, high := 0xbf } := by
  -- The second byte is within the bounds of its lead.
  rw [begin, if_neg (by omega), if_neg (by omega), if_neg (by omega), if_neg (by omega)]
  by_cases short : lead = 0xf0
  · subst short
    rw [if_pos rfl, Option.bind_some, take, if_pos (by dsimp only; omega)]
    rfl
  rw [if_neg short]
  by_cases last : lead = 0xf4
  · subst last
    rw [if_pos rfl, Option.bind_some, take, if_pos (by dsimp only; omega)]
    rfl
  rw [if_neg last, if_pos (by omega), Option.bind_some, take_plain continues]

/-- Two bytes that begin a character leave the rest of it to read. -/
theorem ofUtf8LossyFrom_opening {next : Unfinished} {first second : UInt8} {bytes : Bytes}
    (large : 0x80 ≤ first.toNat) (more : next.missing ≠ 0)
    (begun : ((Unfinished.begin first.toNat).bind fun unfinished =>
      unfinished.take second.toNat) = some next) :
    ofUtf8LossyFrom none (first :: second :: bytes) = ofUtf8LossyFrom (some next) bytes := by
  obtain ⟨lead, found, taken⟩ := Option.bind_eq_some_iff.mp begun
  rw [ofUtf8LossyFrom_lead large found, ofUtf8LossyFrom_more taken more]

/-- A character is read from its bytes, whatever follows them. -/
theorem ofUtf8LossyFrom_utf8EncodeChar (char : Char) (bytes : Bytes) :
    ofUtf8LossyFrom none (String.utf8EncodeChar char ++ bytes) =
      char :: ofUtf8LossyFrom none bytes := by
  -- The length of the encoding is decided by the code, and its bytes hold the bits of it.
  have valid : char.toNat.isValidChar := char.valid
  have same : Char.ofNat char.toNat = char := Char.ofNat_toNat char
  have encoded : String.utf8EncodeChar char = encodeCode char.toNat := rfl
  rw [encoded]
  generalize char.toNat = code at valid same
  subst same
  have bound : code < 0x110000 := by
    rcases valid with low | high
    · omega
    · exact high.2
  unfold encodeCode
  by_cases one : code ≤ 0x7f
  · have byte := toNat_byte code (by omega)
    rw [if_pos one, List.singleton_append, ofUtf8LossyFrom_single (by omega), byte]
  rw [if_neg one]
  by_cases two : code ≤ 0x7ff
  · have first := toNat_byte (code / 64 % 0x20 + 0xc0) (by omega)
    have second := toNat_byte (code % 0x40 + 0x80) (by omega)
    have whole : (code / 64 % 0x20 + 0xc0) % 32 * 64 + (code % 0x40 + 0x80) % 64 = code := by
      omega
    rw [if_pos two, List.cons_append, List.cons_append, List.nil_append,
      ofUtf8LossyFrom_lead (by omega) (Unfinished.begin_two (by omega)),
      ofUtf8LossyFrom_last (Unfinished.take_plain (by omega)) rfl, first, second]
    dsimp only
    rw [whole]
  rw [if_neg two]
  by_cases three : code ≤ 0xffff
  · have first := toNat_byte (code / 4096 % 0x10 + 0xe0) (by omega)
    have second := toNat_byte (code / 64 % 0x40 + 0x80) (by omega)
    have third := toNat_byte (code % 0x40 + 0x80) (by omega)
    have front : (code / 4096 % 0x10 + 0xe0) % 16 * 64 + (code / 64 % 0x40 + 0x80) % 64 =
        code / 64 := by
      omega
    have whole : code / 64 * 64 + (code % 0x40 + 0x80) % 64 = code := by omega
    have fit : code / 64 < 0x360 ∨ 0x380 ≤ code / 64 := by
      rcases valid with low | high
      · omega
      · omega
    have begun := @Unfinished.begin_three (code / 4096 % 0x10 + 0xe0) (code / 64 % 0x40 + 0x80)
      (by omega) (by omega) (by omega) (by omega)
    rw [front, ← first, ← second] at begun
    rw [if_pos three, List.cons_append, List.cons_append, List.cons_append, List.nil_append,
      ofUtf8LossyFrom_opening (by omega) (by simp) begun,
      ofUtf8LossyFrom_last (Unfinished.take_plain (by omega)) rfl, third]
    dsimp only
    rw [whole]
  rw [if_neg three]
  have first := toNat_byte (code / 262144 % 0x08 + 0xf0) (by omega)
  have second := toNat_byte (code / 4096 % 0x40 + 0x80) (by omega)
  have third := toNat_byte (code / 64 % 0x40 + 0x80) (by omega)
  have fourth := toNat_byte (code % 0x40 + 0x80) (by omega)
  have front : (code / 262144 % 0x08 + 0xf0) % 8 * 64 + (code / 4096 % 0x40 + 0x80) % 64 =
      code / 4096 := by
    omega
  have whole : (code / 4096 * 64 + (code / 64 % 0x40 + 0x80) % 64) * 64 +
      (code % 0x40 + 0x80) % 64 = code := by
    omega
  have begun := @Unfinished.begin_four (code / 262144 % 0x08 + 0xf0) (code / 4096 % 0x40 + 0x80)
    (by omega) (by omega) (by omega) (by omega)
  rw [front, ← first, ← second] at begun
  rw [List.cons_append, List.cons_append, List.cons_append, List.cons_append, List.nil_append,
    ofUtf8LossyFrom_opening (by omega) (by simp) begun,
    ofUtf8LossyFrom_more (Unfinished.take_plain (by omega)) (by simp),
    ofUtf8LossyFrom_last (Unfinished.take_plain (by omega)) rfl, third, fourth]
  dsimp only
  rw [whole]

/-- A text is read from its bytes. -/
theorem ofUtf8Lossy_utf8 (text : Text) : ofUtf8Lossy text.utf8 = text := by
  -- One character is read after another.
  induction text with
  | nil => rfl
  | cons char rest ih =>
    rw [ofUtf8Lossy] at ih ⊢
    rw [utf8_cons, ofUtf8LossyFrom_utf8EncodeChar, ih]

end Valid

namespace Unfinished

/-- The least code that a character which has been begun may have. -/
def least (unfinished : Unfinished) : Nat :=
  (unfinished.code * 64 + unfinished.low % 64) * 64 ^ (unfinished.missing - 1)

/-- The number past the codes that a character which has been begun may have. -/
def past (unfinished : Unfinished) : Nat :=
  (unfinished.code * 64 + unfinished.high % 64 + 1) * 64 ^ (unfinished.missing - 1)

/-- Whatever a character that has been begun becomes is more than a byte, and it is valid. -/
structure Sound (unfinished : Unfinished) : Prop where
  missing : 1 ≤ unfinished.missing ∧ unfinished.missing ≤ 3
  bounds : 0x80 ≤ unfinished.low ∧ unfinished.low ≤ unfinished.high ∧ unfinished.high ≤ 0xbf
  large : 0x80 ≤ unfinished.least
  valid : unfinished.past ≤ 0xd800 ∨ 0xe000 ≤ unfinished.least ∧ unfinished.past ≤ 0x110000

variable {unfinished next : Unfinished} {byte : Nat}

/-- What a lead byte begins is sound. -/
theorem sound_begin (begun : begin byte = some next) : next.Sound := by
  -- Each kind of lead byte leaves its own range of codes.
  unfold begin at begun
  split at begun
  · cases begun
    exact ⟨by simp, by simp, by simp [least]; omega, by simp [least, past]; omega⟩
  split at begun
  · cases begun
    exact ⟨by simp, by simp, by simp [least], by simp [least, past]⟩
  split at begun
  · cases begun
    exact ⟨by simp, by simp, by simp [least], by simp [least, past]⟩
  split at begun
  · cases begun
    exact ⟨by simp, by simp, by simp [least]; omega, by simp [least, past]; omega⟩
  split at begun
  · cases begun
    exact ⟨by simp, by simp, by simp [least], by simp [least, past]⟩
  split at begun
  · cases begun
    exact ⟨by simp, by simp, by simp [least], by simp [least, past]⟩
  split at begun
  · cases begun
    exact ⟨by simp, by simp, by simp [least]; omega, by simp [least, past]; omega⟩
  · cases begun

/-- One more byte narrows the range of the codes, or it decides the code. -/
theorem Sound.narrow (sound : unfinished.Sound) (taken : unfinished.take byte = some next) :
    next.missing + 1 = unfinished.missing ∧ (next.missing ≠ 0 →
      next.low = 0x80 ∧ next.high = 0xbf ∧ unfinished.least ≤ next.least ∧
        next.past ≤ unfinished.past) ∧
      (next.missing = 0 → unfinished.least ≤ next.code ∧ next.code < unfinished.past) := by
  -- There are at most three bytes missing.
  obtain ⟨missing, code, low, high⟩ := unfinished
  obtain ⟨⟨some_, most⟩, bounds, _, _⟩ := sound
  dsimp only at some_ most bounds
  unfold take at taken
  split at taken
  next within =>
    cases taken
    dsimp only [least, past] at within ⊢
    have above : low % 64 ≤ byte % 64 := by omega
    have below : byte % 64 ≤ high % 64 := by omega
    generalize low % 64 = first at above
    generalize byte % 64 = middle at above below
    generalize high % 64 = last at below
    have count : missing = 1 ∨ missing = 2 ∨ missing = 3 := by omega
    rcases count with rfl | rfl | rfl
    · exact ⟨rfl, fun more => absurd rfl more, fun _ => by simp; omega⟩
    · exact ⟨rfl, fun _ => ⟨rfl, rfl, by simp; omega, by simp; omega⟩, fun done => by cases done⟩
    · exact ⟨rfl, fun _ => ⟨rfl, rfl, by simp; omega, by simp; omega⟩, fun done => by cases done⟩
  next => cases taken

/-- One more byte keeps a character sound, or finishes it as a valid one. -/
theorem Sound.take (sound : unfinished.Sound) (taken : unfinished.take byte = some next) :
    next.missing ≠ 0 ∧ next.Sound ∨
      next.missing = 0 ∧ 0x80 ≤ next.code ∧ next.code.isValidChar := by
  obtain ⟨fewer, more, done⟩ := sound.narrow taken
  have most := sound.missing
  by_cases finished : next.missing = 0
  · -- The code is one of the range.
    obtain ⟨from_, below⟩ := done finished
    refine .inr ⟨finished, sound.large.trans from_, ?_⟩
    exact sound.valid.imp (fun low => below.trans_le low)
      fun high => ⟨Nat.lt_of_succ_le (high.1.trans from_), below.trans_le high.2⟩
  · obtain ⟨low, high, from_, below⟩ := more finished
    refine .inl ⟨finished, by omega, by simp [low, high], sound.large.trans from_, ?_⟩
    exact sound.valid.imp below.trans fun high => ⟨high.1.trans from_, below.trans high.2⟩

end Unfinished

/-- A character stands for some bytes, and for a single one if it is no more than that byte. -/
def Shows (chunk : Bytes) (char : Char) : Prop :=
  chunk ≠ [] ∧ (char.toNat < 0x80 → ∃ byte, chunk = [byte] ∧ byte.toNat = char.toNat)

/-- A character has the valid code that it is made of. -/
theorem toNat_char {code : Nat} (valid : code.isValidChar) : (Char.ofNat code).toNat = code := by
  rw [Char.ofNat, dif_pos valid]
  rfl

/-- A character of more than a byte stands for any bytes. -/
theorem shows_large {chunk : Bytes} {code : Nat} (some_ : chunk ≠ []) (large : 0x80 ≤ code)
    (valid : code.isValidChar) : Shows chunk (Char.ofNat code) := by
  have same := toNat_char valid
  exact ⟨some_, fun small => by omega⟩

/-- The mark stands for any bytes. -/
theorem shows_replacement {chunk : Bytes} (some_ : chunk ≠ []) : Shows chunk replacement :=
  shows_large some_ (by decide) (by decide)

/-- A byte below the limit stands for itself. -/
theorem shows_small {byte : UInt8} (small : byte.toNat < 0x80) :
    Shows [byte] (Char.ofNat byte.toNat) := by
  have valid : byte.toNat.isValidChar := .inl (by omega)
  exact ⟨List.cons_ne_nil _ _, fun _ => ⟨byte, rfl, (toNat_char valid).symm⟩⟩

/-- Behind the bytes of a character that has been begun, every character stands for some bytes. -/
theorem shown_ofUtf8LossyFrom (bytes : Bytes) :
    ∀ (pending : Option Unfinished) (held : Bytes), (pending = none → held = []) →
      (∀ unfinished, pending = some unfinished → unfinished.Sound ∧ held ≠ []) →
      ∃ chunks, held ++ bytes = chunks.flatten ∧
        List.Forall₂ Shows chunks (ofUtf8LossyFrom pending bytes) := by
  -- The induction is on the bytes, and a byte that is looked at again is one of them still.
  induction bytes with
  | nil =>
    intro pending held idle begun
    cases pending with
    | none => exact ⟨[], by simp [idle rfl], .nil⟩
    | some unfinished =>
      exact ⟨[held], by simp, .cons (shows_replacement (begun unfinished rfl).2) .nil⟩
  | cons byte rest ih =>
    have fresh : ∃ chunks, byte :: rest = chunks.flatten ∧
        List.Forall₂ Shows chunks (ofUtf8LossyFrom none (byte :: rest)) := by
      by_cases small : byte.toNat < 0x80
      · obtain ⟨chunks, whole, shown⟩ := ih none [] (fun _ => rfl) (by simp)
        refine ⟨[byte] :: chunks, by simp [← whole], ?_⟩
        rw [ofUtf8LossyFrom_single small]
        exact .cons (shows_small small) shown
      cases begun : Unfinished.begin byte.toNat with
      | some lead =>
        obtain ⟨chunks, whole, shown⟩ := ih (some lead) [byte] (by simp) fun unfinished same => by
          cases same
          exact ⟨Unfinished.sound_begin begun, List.cons_ne_nil _ _⟩
        rw [ofUtf8LossyFrom_lead (Nat.not_lt.mp small) begun]
        exact ⟨chunks, whole, shown⟩
      | none =>
        obtain ⟨chunks, whole, shown⟩ := ih none [] (fun _ => rfl) (by simp)
        refine ⟨[byte] :: chunks, by simp [← whole], ?_⟩
        have marked : ofUtf8LossyFrom none (byte :: rest) =
            replacement :: ofUtf8LossyFrom none rest := by
          simp [ofUtf8LossyFrom, small, begun]
        rw [marked]
        exact .cons (shows_replacement (List.cons_ne_nil _ _)) shown
    intro pending held idle begun
    cases pending with
    | none =>
      rw [idle rfl]
      exact fresh
    | some unfinished =>
      obtain ⟨sound, some_⟩ := begun unfinished rfl
      cases taken : unfinished.take byte.toNat with
      | none =>
        obtain ⟨chunks, whole, shown⟩ := fresh
        refine ⟨held :: chunks, by simp [← whole], ?_⟩
        rw [ofUtf8LossyFrom_stray taken]
        exact .cons (shows_replacement some_) shown
      | some next =>
        have longer : held ++ [byte] ≠ [] := by simp
        rcases sound.take taken with ⟨more, still⟩ | ⟨done, large, valid⟩
        · obtain ⟨chunks, whole, shown⟩ := ih (some next) (held ++ [byte]) (by simp)
            fun other same => by
              cases same
              exact ⟨still, longer⟩
          rw [ofUtf8LossyFrom_more taken more]
          exact ⟨chunks, by rw [← whole, List.append_assoc]; rfl, shown⟩
        · obtain ⟨chunks, whole, shown⟩ := ih none [] (fun _ => rfl) (by simp)
          refine ⟨(held ++ [byte]) :: chunks, by simp [← whole], ?_⟩
          rw [ofUtf8LossyFrom_last taken done]
          exact .cons (shows_large longer large valid) shown

/-- Every character of what is read stands for some of the bytes, in their order. -/
theorem shown_ofUtf8Lossy (bytes : Bytes) :
    ∃ chunks, bytes = chunks.flatten ∧ List.Forall₂ Shows chunks (ofUtf8Lossy bytes) := by
  -- Nothing has been begun.
  obtain ⟨chunks, whole, shown⟩ := shown_ofUtf8LossyFrom bytes none [] (fun _ => rfl) (by simp)
  exact ⟨chunks, whole, shown⟩

/-- Bytes as the characters that they are by themselves. -/
def ofAscii (bytes : Bytes) : Text :=
  bytes.map fun byte => Char.ofNat byte.toNat

/-- Characters of no more than a byte are the bytes that they stand for. -/
theorem ofAscii_flatten {chunks : List Bytes} {text : Text}
    (shown : List.Forall₂ Shows chunks text) (small : ∀ char ∈ text, char.toNat < 0x80) :
    ofAscii chunks.flatten = text := by
  -- The induction is on the characters.
  induction shown with
  | nil => rfl
  | cons first _ ih =>
    rw [List.forall_mem_cons] at small
    obtain ⟨byte, rfl, same⟩ := first.2 small.1
    have others := ih small.2
    rw [ofAscii] at others ⊢
    rw [List.flatten_cons, List.singleton_append, List.map_cons, others, same, Char.ofNat_toNat]

/-- A word of ASCII characters that is read is written in the bytes, up to the case of letters. -/
theorem written_of_lossy {bytes : Bytes} {word : Text} (ascii : ∀ char ∈ word, char.toNat < 0x80)
    (within : word <:+: (ofUtf8Lossy bytes).toAsciiLowercase) :
    ∃ part, part <:+: bytes ∧ (ofAscii part).toAsciiLowercase = word := by
  obtain ⟨chunks, rfl, shown⟩ := shown_ofUtf8Lossy bytes
  obtain ⟨before, after, split⟩ := within
  -- The characters of the word are followed back to the text, and from there to the bytes.
  obtain ⟨front, last, text, first, behind⟩ := List.map_eq_append_iff.mp split.symm
  obtain ⟨lead, middle, rfl, leading, lowered⟩ := List.map_eq_append_iff.mp first
  rw [text] at shown
  have exact_ := List.forall₂_drop_append _ _ _ (List.forall₂_take_append _ _ _ shown)
  refine ⟨((chunks.take (lead ++ middle).length).drop lead.length).flatten, ?_, ?_⟩
  · have inside := (List.drop_suffix lead.length (chunks.take _)).isInfix.trans
      (List.take_prefix (lead ++ middle).length chunks).isInfix
    obtain ⟨earlier, later, whole⟩ := inside
    refine ⟨earlier.flatten, later.flatten, ?_⟩
    rw [← List.flatten_append, ← List.flatten_append, whole]
  · rw [ofAscii_flatten exact_ fun char member => ?_]
    · exact lowered
    · have small := ascii char.toLower (lowered ▸ List.mem_map_of_mem member)
      have moved := toNat_toLower char
      omega

end Scout.Text
