import Mathlib.Data.List.Sort
import Scout.Bridge.Json
import Scout.Stream.Text

/-! JSON values as bytes, in the compact form in which the bridge writes them. -/

namespace Scout

/-- How the numbers that are no integers are printed. -/
structure FloatFormat where
  print : F64 → Bytes
  /-- A sign, seventeen digits with a point, and an exponent of three digits fit. -/
  short : ∀ number, (print number).length ≤ 24

namespace Json

/-- A text that needs no escapes, as bytes. -/
def ascii (text : String) : Bytes :=
  Text.utf8 text.toList

/-- A character inside of quotes. -/
def escapeChar (char : Char) : Bytes :=
  if char = '\"' then ascii "\\\""
  else if char = '\\' then ascii "\\\\"
  else if char.toNat = 0x08 then ascii "\\b"
  else if char.toNat = 0x09 then ascii "\\t"
  else if char.toNat = 0x0a then ascii "\\n"
  else if char.toNat = 0x0c then ascii "\\f"
  else if char.toNat = 0x0d then ascii "\\r"
  -- The other control characters are written as their numbers.
  else if char.toNat < 0x20 then
    ascii "\\u00" ++ Text.utf8 [(char.toNat / 16).digitChar, (char.toNat % 16).digitChar]
  else String.utf8EncodeChar char

/-- The characters of a text inside of quotes. -/
def escape (text : Text) : Bytes :=
  text.flatMap escapeChar

/-- A text in quotes. -/
def quote (text : Text) : Bytes :=
  ascii "\"" ++ escape text ++ ascii "\""

/-- One field of an object, with its printed value. -/
def printField (field : String × Bytes) : Bytes :=
  quote field.1.toList ++ ascii ":" ++ field.2

mutual

/-- The bytes of a value. -/
def print (format : FloatFormat) : Json → Bytes
  | .null => ascii "null"
  | .bool value => ascii (if value then "true" else "false")
  | .int value => ascii (toString value)
  -- Numbers that are not finite have no notation.
  | .float value => if value.isFinite then format.print value else ascii "null"
  | .text value => quote value.toList
  | .array items => ascii "[" ++ (ascii ",").intercalate (printItems format items) ++ ascii "]"
  -- An object keeps its fields in the order of their names.
  | .object fields =>
    let sorted := (printFields format fields).insertionSort fun first second => first.1 ≤ second.1
    ascii "\x7b" ++ (ascii ",").intercalate (sorted.map printField) ++ ascii "\x7d"

/-- The bytes of each item. -/
def printItems (format : FloatFormat) : List Json → List Bytes
  | [] => []
  | item :: rest => print format item :: printItems format rest

/-- The names with the bytes of each value. -/
def printFields (format : FloatFormat) : List (String × Json) → List (String × Bytes)
  | [] => []
  | field :: rest => (field.1, print format field.2) :: printFields format rest

end

section Length

variable {format : FloatFormat}

/-- The parts of a joined text are as long together as it is without the separators. -/
theorem length_intercalate (separator : Bytes) (parts : List Bytes) :
    (separator.intercalate parts).length =
      (parts.map List.length).sum + (parts.length - 1) * separator.length := by
  -- The induction is on the parts, with a separator before each one but the first.
  induction parts with
  | nil => simp
  | cons first others ih =>
    cases others with
    | nil => simp
    | cons second rest =>
      rw [List.intercalate_cons_cons, List.length_append, List.length_append, ih]
      simp only [List.map_cons, List.sum_cons, List.length_cons, Nat.add_sub_cancel, Nat.succ_mul]
      omega

/-- The items of an array are as long together as it is without its punctuation. -/
theorem length_array (items : List Json) :
    (print format (.array items)).length =
      ((printItems format items).map List.length).sum + ((printItems format items).length - 1) + 2 := by
  -- Between the brackets the items are separated by commas.
  rw [print]
  simp only [List.length_append, length_intercalate]
  show 1 + (_ + _ * 1) + 1 = _
  omega

/-- The order of the fields does not matter for the length of an object. -/
theorem length_object (fields : List (String × Json)) :
    (print format (.object fields)).length =
      ((printFields format fields).map fun field => (printField field).length).sum +
        ((printFields format fields).length - 1) + 2 := by
  -- The order of the fields does not change how long they are together.
  have sorted := (List.perm_insertionSort (fun first second : String × Bytes => first.1 ≤ second.1)
    (printFields format fields)).map fun field => (printField field).length
  rw [print]
  simp only [List.length_append, length_intercalate, List.map_map, List.length_map,
    List.length_insertionSort, Function.comp_def, sorted.sum_nat]
  show 1 + (_ + _ * 1) + 1 = _
  omega

end Length

end Json
end Scout
