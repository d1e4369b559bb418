import Scout.Number.Bits
import Scout.Stream.Utf8

/-! The little-endian bytes of numbers, texts and byte strings, and how they are appended. -/

namespace Scout

open Scout.Stream

/-- The bytes of an unsigned number of thirty-two bits. -/
def u32ToLeBytes (value : UInt32) : Bytes := littleEndian 4 value.toNat

/-- The bytes of an unsigned number of sixty-four bits. -/
def u64ToLeBytes (value : UInt64) : Bytes := littleEndian 8 value.toNat

/-- The byte of a signed number of eight bits. -/
def i8ToLeBytes (value : Int8) : Bytes := [value.toUInt8]

/-- The bytes of a signed number of thirty-two bits. -/
def i32ToLeBytes (value : Int32) : Bytes := u32ToLeBytes value.toUInt32

/-- The bytes of a binary32 number. -/
def f32ToLeBytes (value : F32) : Bytes := u32ToLeBytes value.bits

/-- The bytes of a binary64 number. -/
def f64ToLeBytes (value : F64) : Bytes := u64ToLeBytes value.toBits

/-- Append a number of thirty-two bits. -/
def writeU32 (output : Bytes) (value : UInt32) : Bytes :=
  output ++ u32ToLeBytes value

/-- Append a binary64 number. -/
def writeF64 (output : Bytes) (value : F64) : Bytes :=
  output ++ f64ToLeBytes value

/-- Append a text after its length, of which only thirty-two bits are kept. -/
def writeString (output : Bytes) (value : Text) : Bytes :=
  writeU32 output (UInt32.ofNat value.utf8.length) ++ value.utf8

/-- Append bytes after their number, of which only thirty-two bits are kept. -/
def writeBytes (output value : Bytes) : Bytes :=
  writeU32 output (UInt32.ofNat value.length) ++ value

/-- Bytes after their number. -/
def lengthPrefixed (value : Bytes) : Bytes :=
  u32ToLeBytes (UInt32.ofNat value.length) ++ value

/-- A number of thirty-two bits takes four bytes. -/
@[simp] theorem u32ToLeBytes_length (value : UInt32) : (u32ToLeBytes value).length = 4 :=
  littleEndian_length 4 _

/-- A number of sixty-four bits takes eight bytes. -/
@[simp] theorem u64ToLeBytes_length (value : UInt64) : (u64ToLeBytes value).length = 8 :=
  littleEndian_length 8 _

/-- A number of eight bits takes one byte. -/
@[simp] theorem i8ToLeBytes_length (value : Int8) : (i8ToLeBytes value).length = 1 := rfl

/-- A signed number of thirty-two bits takes four bytes. -/
@[simp] theorem i32ToLeBytes_length (value : Int32) : (i32ToLeBytes value).length = 4 :=
  littleEndian_length 4 _

/-- A binary32 number takes four bytes. -/
@[simp] theorem f32ToLeBytes_length (value : F32) : (f32ToLeBytes value).length = 4 :=
  littleEndian_length 4 _

/-- A binary64 number takes eight bytes. -/
@[simp] theorem f64ToLeBytes_length (value : F64) : (f64ToLeBytes value).length = 8 :=
  littleEndian_length 8 _

end Scout
