import Scout.Stream.TextParts
import Scout.Wifi.Address

/-! How the standard library writes internet addresses. -/

namespace Scout.Wifi.IpAddr

/-- Whether an address always means this computer itself. -/
def isLoopback : IpAddr → Bool
  | .v4 bits => bits.toNat / 2 ^ 24 = 127
  | .v6 bits => bits = 1

/-- Whether an address stands for all addresses of a computer. -/
def isUnspecified : IpAddr → Bool
  | .v4 bits => bits = 0
  | .v6 bits => bits = 0

/-- So many digits of a number to a base, the most significant first. -/
def digitsOf (base : Nat) : Nat → Nat → List Nat
  | 0, _ => []
  | count + 1, number => digitsOf base count (number / base) ++ [number % base]

/-- A number in hexadecimal digits. -/
def lowerHex (number : Nat) : Text := Nat.toDigits 16 number

/-- Numbers in decimal digits, with dots between them. -/
def dotted (octets : List Nat) : Text :=
  ['.'].intercalate (octets.map fun octet => (toString octet).toList)

/-- Groups in hexadecimal digits, with colons between them. -/
def fmtSubslice (groups : List Nat) : Text :=
  [':'].intercalate (groups.map lowerHex)

/-- Where a run of zeros starts, and how long it is. -/
structure Span where
  start : Nat
  len : Nat

/-- The first of the longest runs of zeros, given the runs that have been found before an index. -/
def longestZeros (longest current : Span) (index : Nat) : List Nat → Span
  | [] => longest
  | group :: rest =>
    if group = 0 then
      let grown : Span := ⟨if current.len = 0 then index else current.start, current.len + 1⟩
      longestZeros (if longest.len < grown.len then grown else longest) grown (index + 1) rest
    else longestZeros longest ⟨0, 0⟩ (index + 1) rest

/-- The text of the groups of an address of the newer version. -/
def displayGroups (groups : List Nat) : Text :=
  let zeroes := longestZeros ⟨0, 0⟩ ⟨0, 0⟩ 0 groups
  -- A single group of zeros is written like any other.
  if 1 < zeroes.len then
    fmtSubslice (groups.take zeroes.start) ++ [':', ':'] ++
      fmtSubslice (groups.drop (zeroes.start + zeroes.len))
  else fmtSubslice groups

/-- The text of an address. -/
def display : IpAddr → Text
  | .v4 bits => dotted (digitsOf 256 4 bits.toNat)
  | .v6 bits =>
    -- An address that embeds one of the older version shows it as such.
    if bits.toNat / 2 ^ 32 = 0xffff then
      "::ffff:".toList ++ dotted (digitsOf 256 4 (bits.toNat % 2 ^ 32))
    else displayGroups (digitsOf 65536 8 bits.toNat)

example : (parse "2001:db8::1:0:0:1".toList).map display = some "2001:db8::1:0:0:1".toList := by
  decide +kernel

end Scout.Wifi.IpAddr
