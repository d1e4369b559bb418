import Mathlib.Algebra.Group.Nat.Defs
import Mathlib.Data.List.Basic

/-! Numbers of a fixed width as bytes, in both orders. -/

namespace Scout

/-- A string of bytes. -/
abbrev Bytes := List UInt8

namespace Stream

/-- The lowest bytes of a number, the least significant first. -/
def littleEndian : Nat → Nat → Bytes
  | 0, _ => []
  | width + 1, value => UInt8.ofNat value :: littleEndian width (value / 256)

/-- The number whose bytes are given, the least significant first. -/
def ofLittleEndian : Bytes → Nat
  | [] => 0
  | byte :: rest => byte.toNat + 256 * ofLittleEndian rest

/-- The lowest bytes of a number, the most significant first. -/
def bigEndian (width value : Nat) : Bytes :=
  (littleEndian width value).reverse

/-- The number whose bytes are given, the most significant first. -/
def ofBigEndian (bytes : Bytes) : Nat :=
  ofLittleEndian bytes.reverse

/-- A number of a given width has that many bytes. -/
@[simp] theorem littleEndian_length (width value : Nat) :
    (littleEndian width value).length = width := by
  -- Each recursion adds one byte.
  induction width generalizing value with
  | zero => rfl
  | succ width ih => simp [littleEndian, ih]

/-- A number of a given width has that many bytes. -/
@[simp] theorem bigEndian_length (width value : Nat) : (bigEndian width value).length = width := by
  -- Reversing keeps the length.
  simp [bigEndian]

/-- A number that fits its width is read back from its bytes. -/
theorem ofLittleEndian_littleEndian {width value : Nat} (fits : value < 256 ^ width) :
    ofLittleEndian (littleEndian width value) = value := by
  -- The lowest byte is split off on both sides.
  induction width generalizing value with
  | zero =>
    have zero : value = 0 := by simpa using fits
    simp [littleEndian, ofLittleEndian, zero]
  | succ width ih =>
    have smaller : value / 256 < 256 ^ width := by
      rw [Nat.div_lt_iff_lt_mul (by decide), ← Nat.pow_succ]
      exact fits
    rw [littleEndian, ofLittleEndian, ih smaller, UInt8.toNat_ofNat']
    exact Nat.mod_add_div value 256

/-- A number that fits its width is read back from its bytes. -/
theorem ofBigEndian_bigEndian {width value : Nat} (fits : value < 256 ^ width) :
    ofBigEndian (bigEndian width value) = value := by
  -- Reversing twice gives the other order back.
  rw [ofBigEndian, bigEndian, List.reverse_reverse, ofLittleEndian_littleEndian fits]

/-- Bytes denote a number of their width. -/
theorem ofLittleEndian_lt (bytes : Bytes) : ofLittleEndian bytes < 256 ^ bytes.length := by
  -- Each byte is one digit.
  induction bytes with
  | nil => decide
  | cons byte rest ih =>
    have small := byte.toNat_lt
    rw [ofLittleEndian, List.length_cons, Nat.pow_succ]
    omega

/-- Bytes are those of the number they denote. -/
theorem littleEndian_ofLittleEndian (bytes : Bytes) :
    littleEndian bytes.length (ofLittleEndian bytes) = bytes := by
  -- The lowest byte is split off on both sides.
  induction bytes with
  | nil => rfl
  | cons byte rest ih =>
    have small := byte.toNat_lt
    have quotient : (byte.toNat + 256 * ofLittleEndian rest) / 256 = ofLittleEndian rest := by
      omega
    have lowest : UInt8.ofNat (byte.toNat + 256 * ofLittleEndian rest) = byte := by
      apply UInt8.toNat_inj.mp
      rw [UInt8.toNat_ofNat']
      omega
    rw [List.length_cons, littleEndian, ofLittleEndian, quotient, lowest, ih]

end Stream
end Scout
