import Mathlib.Data.List.Basic
import Scout.Stream.Endian

/-! Text as characters: its bytes, its parts, and the numbers written in it. -/

namespace Scout

/-- A text, as its characters. -/
abbrev Text := List Char

namespace Text

/-- The bytes a text is stored as. -/
def utf8 (text : Text) : Bytes :=
  text.flatMap String.utf8EncodeChar

/-- The text that is left to read when so many bytes of a character are missing. -/
def ofUtf8From (missing code least : Nat) : Bytes → Option Text
  | [] => if missing = 0 then some [] else none
  | byte :: rest =>
    let value := byte.toNat
    if missing = 0 then
      if value < 0x80 then (ofUtf8From 0 0 0 rest).map (Char.ofNat value :: ·)
      -- The lead byte says how many follow, and which codes would have been shorter.
      else if 0xc0 ≤ value ∧ value < 0xe0 then ofUtf8From 1 (value % 32) 0x80 rest
      else if 0xe0 ≤ value ∧ value < 0xf0 then ofUtf8From 2 (value % 16) 0x800 rest
      else if 0xf0 ≤ value ∧ value < 0xf8 then ofUtf8From 3 (value % 8) 0x10000 rest
      else none
    else if value / 64 = 2 then
      let code := code * 64 + value % 64
      if 1 < missing then ofUtf8From (missing - 1) code least rest
      else if least ≤ code ∧ code.isValidChar then
        (ofUtf8From 0 0 0 rest).map (Char.ofNat code :: ·)
      else none
    else none

/-- The text that is stored as the given bytes, if they are valid. -/
def ofUtf8 (bytes : Bytes) : Option Text :=
  ofUtf8From 0 0 0 bytes

/-- What follows a prefix, if the text begins with it. -/
def stripPrefix (text first : Text) : Option Text :=
  if first.isPrefixOf text then some (text.drop first.length) else none

/-- What precedes and what follows the first occurrence of a character. -/
def splitOnce (separator : Char) : Text → Option (Text × Text)
  | [] => none
  | char :: rest =>
    if char = separator then some ([], rest)
    else (splitOnce separator rest).map fun parts => (char :: parts.1, parts.2)

/-- What precedes and what follows the last occurrence of a character. -/
def rsplitOnce (separator : Char) (text : Text) : Option (Text × Text) :=
  (splitOnce separator text.reverse).map fun parts => (parts.2.reverse, parts.1.reverse)

/-- The parts between the occurrences of a pattern, the first of which has been begun. -/
def splitFrom (pattern opened : Text) : Text → List Text
  | [] => [opened]
  | char :: rest =>
    let grown := opened ++ [char]
    if pattern.isSuffixOf grown then
      grown.take (grown.length - pattern.length) :: splitFrom pattern [] rest
    else splitFrom pattern grown rest

/-- The parts between the occurrences of a pattern. -/
def split (text pattern : Text) : List Text :=
  splitFrom pattern [] text

/-- Whether a character is white space. -/
def isWhitespace (char : Char) : Bool :=
  let code := char.toNat
  (9 ≤ code && code ≤ 13) || code == 0x20 || code == 0x85 || code == 0xa0 || code == 0x1680 ||
    (0x2000 ≤ code && code ≤ 0x200a) || code == 0x2028 || code == 0x2029 || code == 0x202f ||
    code == 0x205f || code == 0x3000

/-- The words of a text. -/
def splitWhitespace (text : Text) : List Text :=
  (text.splitOnP isWhitespace).filter fun word => !word.isEmpty

/-- A text without the white space at its ends. -/
def trim (text : Text) : Text :=
  ((text.dropWhile isWhitespace).reverse.dropWhile isWhitespace).reverse

/-- Whether two texts differ at most in the case of their ASCII letters. -/
def eqIgnoreAsciiCase (first second : Text) : Bool :=
  first.map Char.toLower == second.map Char.toLower

/-- The digit a character stands for in a radix. -/
def toDigit (radix : Nat) (char : Char) : Option Nat :=
  let code := char.toNat
  let digit :=
    if 48 ≤ code ∧ code ≤ 57 then code - 48
    else if 97 ≤ code ∧ code ≤ 122 then code - 87
    else if 65 ≤ code ∧ code ≤ 90 then code - 55
    else radix
  if digit < radix then some digit else none

/-- The number a string of digits denotes, when a number is already given. -/
def digitsFrom (radix : Nat) : Nat → Text → Option Nat
  | value, [] => some value
  | value, char :: rest =>
    (toDigit radix char).bind fun digit => digitsFrom radix (value * radix + digit) rest

/-- The number a nonempty string of decimal digits denotes. -/
def parseDigits (text : Text) : Option Nat :=
  if text.isEmpty then none else digitsFrom 10 0 text

/-- The unsigned number of a given width that is written, with or without a plus sign. -/
def parseUnsigned (bits : Nat) (text : Text) : Option Nat :=
  (parseDigits (if text.head? = some '+' then text.tail else text)).filter (· < 2 ^ bits)

/-- The signed number of a given width that is written. -/
def parseSigned (bits : Nat) (text : Text) : Option Int :=
  if text.head? = some '-' then
    ((parseDigits text.tail).filter (· ≤ 2 ^ (bits - 1))).map fun value => -(value : Int)
  else (parseUnsigned (bits - 1) text).map Int.ofNat

end Text
end Scout
