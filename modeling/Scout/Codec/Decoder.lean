import Scout.Codec.Encoder
import Scout.Stream.Format

/-! Reading little-endian fields from the front of a message, one after another. -/

namespace Scout

/-- Why the bytes of a message cannot be decoded. -/
inductive DecodeError where
  | unexpectedEnd (needed remaining : Nat)
  | invalidLength (length : UInt32)
  | invalidUtf8
  | invalidValue (description : String)
  | trailingBytes (count : Nat)
  deriving DecidableEq, Repr

/-- A message and how many of its bytes have been read. -/
structure Decoder where
  input : Bytes
  offset : Nat
  deriving DecidableEq

/-- A read that may fail and may move the offset either way. -/
abbrev Decode := EStateM DecodeError Decoder

namespace Decoder

/-- Nothing has been read yet. -/
def new (input : Bytes) : Decoder where
  input := input
  offset := 0

/-- How many bytes are left. -/
def remaining (decoder : Decoder) : Nat :=
  decoder.input.length - decoder.offset

/-- Read so many bytes. -/
def take (length : Nat) : Decode Bytes := fun decoder =>
  if decoder.remaining < length then .error (.unexpectedEnd length decoder.remaining) decoder
  else .ok ((decoder.input.drop decoder.offset).take length)
    { decoder with offset := decoder.offset + length }

/-- Read one byte. -/
def readU8 : Decode UInt8 := do
  let bytes ← take 1
  return UInt8.ofNat (Stream.ofLittleEndian bytes)

/-- Read one byte as a signed number. -/
def readI8 : Decode Int8 := do
  let byte ← readU8
  return byte.toInt8

/-- Read four bytes. -/
def readU32 : Decode UInt32 := do
  let bytes ← take 4
  return UInt32.ofNat (Stream.ofLittleEndian bytes)

/-- Read four bytes as a signed number. -/
def readI32 : Decode Int32 := do
  let bytes ← take 4
  return (UInt32.ofNat (Stream.ofLittleEndian bytes)).toInt32

/-- Read eight bytes. -/
def readU64 : Decode UInt64 := do
  let bytes ← take 8
  return UInt64.ofNat (Stream.ofLittleEndian bytes)

/-- Read a binary32 number. -/
def readF32 : Decode F32 := do
  let bytes ← take 4
  return ⟨UInt32.ofNat (Stream.ofLittleEndian bytes)⟩

/-- Read a binary64 number. -/
def readF64 : Decode F64 := do
  let bytes ← take 8
  return F64.ofBits (UInt64.ofNat (Stream.ofLittleEndian bytes))

/-- Read a length and then so many bytes, at most a given number. -/
def readVecLimited (maximumLength : Nat) : Decode Bytes := do
  let rawLength ← readU32
  if maximumLength < rawLength.toNat then throw (.invalidLength rawLength)
  take rawLength.toNat

/-- Read a text that is stored after its length, which is limited. -/
def readStringLimited (maximumLength : Nat) : Decode Text := do
  let bytes ← readVecLimited maximumLength
  match Text.ofUtf8 bytes with
  | some text => return text
  | none => throw .invalidUtf8

/-- Check that nothing is left. -/
def finish : Decode Unit := fun decoder =>
  if decoder.remaining = 0 then .ok () decoder
  else .error (.trailingBytes decoder.remaining) decoder

/-- What a sequence of reads makes of a message. -/
def decoded {α : Type} : EStateM.Result DecodeError Decoder α → Except DecodeError α
  | .ok value _ => .ok value
  | .error error _ => .error error

end Decoder
end Scout
