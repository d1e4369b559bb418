import Scout.Stream.Text
import Mathlib.Data.List.Sort

/-! Internet addresses, and how the standard library reads them. -/

namespace Scout.Wifi

/-- The address of a host. -/
inductive IpAddr where
  | v4 (bits : UInt32)
  | v6 (bits : BitVec 128)
  deriving DecidableEq

/-- The address of a host and a port on it. -/
structure SocketAddr where
  ip : IpAddr
  port : UInt16
  deriving DecidableEq

/-- Whether an address is of the older version. -/
def SocketAddr.isIpv4 (address : SocketAddr) : Bool :=
  match address.ip with
  | .v4 _ => true
  | .v6 _ => false

/-- A stable sort that puts the addresses of the older version first. -/
def sortIpv4First (addresses : List SocketAddr) : List SocketAddr :=
  addresses.insertionSort fun first second => (!first.isIpv4) ≤ (!second.isIpv4)

namespace IpAddr

/-- Read a value from the front of a text, and say what is left of it. -/
abbrev Reader (α : Type) := Text → Option (α × Text)

/-- Read one given character. -/
def readGivenChar (expected : Char) : Text → Option Text
  | [] => none
  | char :: rest => if char = expected then some rest else none

/-- Read a value that is preceded by a separator unless it is the first. -/
def readSeparator {α : Type} (separator : Char) (index : Nat) (inner : Reader α) : Reader α :=
  fun text => if 0 < index then (readGivenChar separator text).bind inner else inner text

/-- Read all digits at the front, if there are neither too many nor a forbidden zero. -/
def readNumber (radix maxDigits bound : Nat) (allowZeroPrefix : Bool) : Reader Nat := fun text =>
  let digits := text.takeWhile fun char => (Text.toDigit radix char).isSome
  if digits.isEmpty ∨ maxDigits < digits.length then none
  else if !allowZeroPrefix ∧ digits.head? = some '0' ∧ 1 < digits.length then none
  else
    ((Text.digitsFrom radix 0 digits).filter (· < bound)).map fun value =>
      (value, text.drop digits.length)

/-- Read four octets with dots between them. -/
def readOctets : Reader (List Nat) := fun text =>
  (List.range 4).foldlM (fun (octets, rest) index => do
    let (octet, rest) ← readSeparator '.' index (readNumber 10 3 256 false) rest
    return (octets ++ [octet], rest)) ([], text)

/-- Read groups of hexadecimal digits, and perhaps an embedded older address at the end. -/
def readGroups (limit : Nat) : Nat → List Nat → Text → List Nat × Bool × Text
  | 0, groups, text => (groups, false, text)
  | left + 1, groups, text =>
    let index := groups.length
    let embedded := if index + 1 < limit then readSeparator ':' index readOctets text else none
    match embedded with
    | some (octets, rest) =>
      let word := fun index => octets.getD index 0 * 256 + octets.getD (index + 1) 0
      (groups ++ [word 0, word 2], true, rest)
    | none =>
      match readSeparator ':' index (readNumber 16 4 65536 true) text with
      | some (group, rest) => readGroups limit left (groups ++ [group]) rest
      | none => (groups, false, text)

/-- The number whose digits are given, the most significant first. -/
def ofDigits (base : Nat) (digits : List Nat) : Nat :=
  digits.foldl (fun value digit => value * base + digit) 0

/-- Read an address of the older version. -/
def readV4 : Reader IpAddr := fun text =>
  (readOctets text).map fun (octets, rest) => (.v4 (UInt32.ofNat (ofDigits 256 octets)), rest)

/-- Read an address of the newer version. -/
def readV6 : Reader IpAddr := fun text => do
  let address := fun groups => IpAddr.v6 (BitVec.ofNat 128 (ofDigits 65536 groups))
  let (head, embedded, rest) := readGroups 8 8 [] text
  if head.length = 8 then return (address head, rest)
  -- An embedded address may only end the whole.
  if embedded then none
  let rest ← readGivenChar ':' rest
  let rest ← readGivenChar ':' rest
  -- The two colons stand for at least one group of zeros.
  let limit := 8 - (head.length + 1)
  let (tail, _, rest) := readGroups limit limit [] rest
  return (address (head ++ List.replicate (8 - head.length - tail.length) 0 ++ tail), rest)

/-- What a reader finds in a text, if it reads all of it. -/
def parseWith (reader : Reader IpAddr) (text : Text) : Option IpAddr :=
  (reader text).bind fun (address, rest) => if rest.isEmpty then some address else none

/-- The address of the newer version that a text denotes. -/
def parseV6 (text : Text) : Option IpAddr :=
  parseWith readV6 text

/-- The address of either version that a text denotes. -/
def parse (text : Text) : Option IpAddr :=
  parseWith (fun text => (readV4 text).or (readV6 text)) text

end IpAddr
end Scout.Wifi
