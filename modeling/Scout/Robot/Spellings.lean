import Scout.Robot.Known
import Scout.Stream.Tokens
import Scout.Stream.Utf8

/-! How an identifier may be written, and what the two lookups find of it. -/

namespace Scout

open Text Tokens

/-- One way of writing an identifier, and the character between its pairs of digits. -/
structure Spelling where
  pattern : Text
  separator : Option Char

/-- The ways of writing the identifier of a robot. -/
def KnownScout.spellings (scout : KnownScout) : List Spelling :=
  [⟨scout.colon, some ':'⟩, ⟨scout.hyphen, some '-'⟩, ⟨scout.compact, none⟩, ⟨scout.ssid, none⟩]

/-- What separates the tokens among which an address without separators is looked for. -/
def notHex (character : Char) : Bool := !isHex character

/-- A robot is found by its separated address, by a whole token, or by its network name. -/
theorem foundIn_iff {scout : KnownScout} {text : Text} :
    scout.foundIn text = true ↔
      scout.colon <:+: text ∨ scout.hyphen <:+: text ∨ Stands notHex text scout.compact ∨
        scout.ssid <:+: text := by
  -- The tokens are what stands between characters that are no digits.
  have tokens : ((text.splitOnP fun character => !isHex character).any
      fun token => token == scout.compact) = true ↔ Stands notHex text scout.compact := by
    rw [← mem_splitOnP, List.any_eq_true]
    constructor
    · intro found
      obtain ⟨token, member, same⟩ := found
      rw [← eq_of_beq same]
      exact member
    · exact fun member => ⟨_, member, beq_self_eq_true _⟩
  simp only [KnownScout.foundIn, Text.containsText, Bool.or_eq_true, decide_eq_true_eq, tokens,
    or_assoc]

/-- A robot that is found has one of its spellings in the text. -/
theorem infix_of_foundIn {scout : KnownScout} {text : Text} (found : scout.foundIn text = true) :
    ∃ spelling ∈ scout.spellings, spelling.pattern <:+: text := by
  -- A token is in the text like the other spellings.
  obtain colon | hyphen | token | ssid := foundIn_iff.mp found
  · exact ⟨⟨scout.colon, some ':'⟩, by simp [KnownScout.spellings], colon⟩
  · exact ⟨⟨scout.hyphen, some '-'⟩, by simp [KnownScout.spellings], hyphen⟩
  · obtain ⟨_, before, after, written, _, _⟩ := token
    exact ⟨⟨scout.compact, none⟩, by simp [KnownScout.spellings], before, after, written.symm⟩
  · exact ⟨⟨scout.ssid, none⟩, by simp [KnownScout.spellings], ssid⟩

/-- A spelling with no digits around it makes its robot found. -/
theorem foundIn_of_spelling {scout : KnownScout} {spelling : Spelling} {before after : Text}
    (spelled : spelling ∈ scout.spellings) (closes : Closes notHex before)
    (opens : Opens notHex after) :
    scout.foundIn (before ++ spelling.pattern ++ after) = true := by
  -- Only the address without separators needs what is around it.
  have inside : spelling.pattern <:+: before ++ spelling.pattern ++ after := ⟨before, after, rfl⟩
  rw [foundIn_iff]
  simp only [KnownScout.spellings, List.mem_cons, List.not_mem_nil, or_false] at spelled
  obtain rfl | rfl | rfl | rfl := spelled
  · exact .inl inside
  · exact .inr (.inl inside)
  · have digits : ∀ char ∈ scout.compact, notHex char = false := fun char member => by
      rw [notHex, (List.mem_filter.mp member).2]
      rfl
    exact .inr (.inr (.inl ⟨digits, before, after, rfl, closes, opens⟩))
  · exact .inr (.inr (.inr inside))

/-- A character is a digit in either case of its letter. -/
theorem isHex_toLower (char : Char) : isHex char.toLower = isHex char := by
  -- The capitals that are digits are moved to the small letters that are.
  have moved := toNat_toLower char
  rw [Bool.eq_iff_iff]
  simp only [isHex, isAsciiHexdigit, Bool.or_eq_true, Bool.and_eq_true, decide_eq_true_eq]
  omega

section Separated

/-- Digits in pairs, with a separator between them. -/
def separated (separator : Char) : Text → Text
  | first :: second :: rest =>
    if rest.isEmpty then [first, second]
    else first :: second :: separator :: separated separator rest
  | short => short

/-- Pairs of digits with separators are what their digits are separated into. -/
theorem separated_compactMac {separator : Char} (foreign : isHex separator = false)
    {pairs : Nat} {value : Text} (size : value.length = 3 * pairs + 2)
    (separators : ∀ index, index % 3 = 2 → index < value.length → value[index]? = some separator)
    (digits : ∀ index char, index % 3 ≠ 2 → value[index]? = some char → isHex char = true) :
    separated separator (compactMac value) = value := by
  -- The induction is on the pairs behind the first one.
  induction pairs generalizing value with
  | zero =>
    obtain ⟨first, second, rfl⟩ := List.length_eq_two.mp size
    have one := digits 0 first (by decide) rfl
    have two := digits 1 second (by decide) rfl
    simp [compactMac, one, two, separated]
  | succ pairs ih =>
    obtain ⟨first, value, rfl⟩ := List.exists_of_length_succ value size
    rw [List.length_cons] at size
    obtain ⟨second, value, rfl⟩ := List.exists_of_length_succ value (Nat.succ.inj size)
    rw [List.length_cons] at size
    obtain ⟨third, rest, rfl⟩ := List.exists_of_length_succ value (Nat.succ.inj (Nat.succ.inj size))
    rw [List.length_cons] at size
    have one := digits 0 first (by decide) rfl
    have two := digits 1 second (by decide) rfl
    have three := separators 2 (by decide) (by simp)
    obtain rfl : third = separator := by simpa using three
    -- The places behind the first separator are three further in the whole.
    have others : separated third (compactMac rest) = rest := by
      refine ih (by omega) ?_ ?_
      · intro index kind within
        exact separators (index + 3) (by omega) (by simpa using within)
      · intro index char kind known
        exact digits (index + 3) char (by omega) (by simpa using known)
    have some_ : (compactMac rest).isEmpty = false := by
      rw [List.isEmpty_eq_false_iff]
      intro empty
      rw [empty] at others
      have shortest : rest = [] := others.symm
      rw [shortest, List.length_nil] at size
      omega
    have digitsOnly : compactMac (first :: second :: third :: rest) =
        first :: second :: compactMac rest := by
      simp [compactMac, one, two, foreign]
    rw [digitsOnly, separated, some_, if_neg Bool.false_ne_true, others]

/-- An address that is written with one separator throughout. -/
structure Paired (value : Text) (separator : UInt8) : Prop where
  size : value.utf8.length = 17
  separators : ∀ index ∈ separatorIndices, value.utf8.getD index 0 = separator
  digits : ∀ entry ∈ value.utf8.zipIdx, placed entry = true

/-- A full address is read without separators, or with colons or hyphens throughout. -/
theorem normalizeMac_cases {value mac : Text} (found : normalizeMac value = some mac) :
    value = mac ∨ ∃ separator : UInt8,
      (separator.toNat = ':'.toNat ∨ separator.toNat = '-'.toNat) ∧ Paired value separator ∧
        compactMac value = mac := by
  -- The branches are those of the definition, of which two return something.
  unfold normalizeMac at found
  dsimp only at found
  split_ifs at found with whole size separator uneven stray
  · exact .inl (Option.some.inj found)
  · rw [List.any_eq_true] at uneven stray
    refine .inr ⟨value.utf8.getD 2 0, by omega, ⟨by omega, ?_, ?_⟩, Option.some.inj found⟩
    · intro index member
      by_contra different
      exact uneven ⟨index, member, by simpa using different⟩
    · intro entry member
      by_contra bad
      exact stray ⟨entry, member, by simpa using bad⟩

/-- Every third place of a full address is one of a separator. -/
theorem mem_separatorIndices {index : Nat} (within : index < 17) :
    index ∈ separatorIndices ↔ index % 3 = 2 := by
  -- There are seventeen places.
  have all : ∀ index : Fin 17, index.val ∈ separatorIndices ↔ index.val % 3 = 2 := by decide
  exact all ⟨index, within⟩

/-- The characters of an address with separators are its bytes. -/
theorem Paired.map {value : Text} {separator : UInt8} (paired : Paired value separator)
    (small : separator.toNat < 0x80) :
    (∀ char ∈ value, char.toNat < 0x80) ∧
      value.utf8 = value.map fun char => UInt8.ofNat char.toNat := by
  -- Each byte is a digit or the separator, neither of which has its highest bit set.
  have kinds : ∀ byte ∈ value.utf8,
      isAsciiHexdigit byte.toNat = true ∨ byte.toNat = separator.toNat := by
    intro byte member
    obtain ⟨index, known⟩ := List.mem_iff_getElem?.mp member
    have entry := paired.digits (byte, index) (List.mem_zipIdx_iff_getElem?.mpr known)
    rw [placed, Bool.or_eq_true, List.contains_iff_mem] at entry
    cases entry with
    | inl place =>
      have same := paired.separators index place
      rw [List.getD_eq_getElem?_getD, known] at same
      exact .inr (congrArg UInt8.toNat same)
    | inr digit => exact .inl digit
  have seven : ∀ code, isAsciiHexdigit code = true ∨ code = separator.toNat → code < 0x80 := by
    intro code kind
    simp only [isAsciiHexdigit, Bool.or_eq_true, Bool.and_eq_true, decide_eq_true_eq] at kind
    omega
  have smalls : ∀ char ∈ value, char.toNat < 0x80 := fun char member =>
    seven _ (@forall_of_utf8 value (fun code => isAsciiHexdigit code = true ∨
      code = separator.toNat) kinds seven char member)
  exact ⟨smalls, utf8_of_small smalls⟩

/-- An address that is written with separators is what its digits are separated into. -/
theorem Paired.separated_compactMac {value : Text} {separator : UInt8} {marker : Char}
    (paired : Paired value separator) (same : separator.toNat = marker.toNat)
    (small : marker.toNat < 0x80) (foreign : isHex marker = false) :
    separated marker (compactMac value) = value := by
  -- What is known of the bytes is known of the characters.
  obtain ⟨smalls, bytes⟩ := paired.map (by omega)
  have size : value.length = 3 * 5 + 2 := by
    have stored := paired.size
    rwa [bytes, List.length_map] at stored
  refine Scout.separated_compactMac foreign size ?_ ?_
  · intro index kind within
    have place := paired.separators index ((mem_separatorIndices (by omega)).mpr kind)
    have known := List.getElem?_eq_getElem within
    have here := smalls _ (List.getElem_mem within)
    rw [bytes, List.getD_eq_getElem?_getD, List.getElem?_map, known, Option.map_some,
      Option.getD_some] at place
    have code := congrArg UInt8.toNat place
    rw [toNat_byte _ (by omega), same] at code
    rw [known, Char.toNat_inj.mp code]
  · intro index char kind known
    have here := smalls char (List.mem_of_getElem? known)
    have within := (List.getElem?_eq_some_iff.mp known).1
    have entry := paired.digits (UInt8.ofNat char.toNat, index) (by
      rw [List.mem_zipIdx_iff_getElem?, bytes, List.getElem?_map, known, Option.map_some])
    rw [placed, Bool.or_eq_true, List.contains_iff_mem] at entry
    cases entry with
    | inl place => exact absurd ((mem_separatorIndices (by omega)).mp place) kind
    | inr digit => rwa [toNat_byte _ (by omega)] at digit

/-- The digits of a full address give the address back, with the separators it had. -/
theorem normalizeMac_eq_some {value mac : Text} (found : normalizeMac value = some mac) :
    value = mac ∨ value = separated ':' mac ∨ value = separated '-' mac := by
  -- Neither a colon nor a hyphen is a digit.
  cases normalizeMac_cases found with
  | inl same => exact .inl same
  | inr paired =>
    obtain ⟨separator, marker, paired, rfl⟩ := paired
    cases marker with
    | inl colon =>
      exact .inr (.inl (paired.separated_compactMac colon (by decide) (by decide)).symm)
    | inr hyphen =>
      exact .inr (.inr (paired.separated_compactMac hyphen (by decide) (by decide)).symm)

end Separated

end Scout
