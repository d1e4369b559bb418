import Mathlib.Data.List.Nodup
import Scout.Robot.Spellings
import Scout.Stream.TextParts

/-! What an identifier names is found also where it stands in a text. -/

namespace Scout

open Text Tokens

/-- What the addresses of the table have in common. -/
structure KnownScout.Regular (scout : KnownScout) : Prop where
  colons : scout.colon = separated ':' scout.compact
  hyphens : scout.hyphen = separated '-' scout.compact
  hyphenDigits : compactMac scout.hyphen = scout.compact
  size : scout.compact.length = 12
  plain : '_' ∉ scout.colon ∧ '_' ∉ scout.hyphen ∧ '_' ∉ scout.compact
  dense : ∀ spelling ∈ scout.spellings, ∀ char ∈ spelling.pattern, isWhitespace char = false

/-- All entries of the table are regular. -/
theorem regular_of_mem {scout : KnownScout} (known : scout ∈ knownScouts) : scout.Regular := by
  -- There are sixteen of them.
  have facts : ∀ scout ∈ knownScouts,
      scout.colon = separated ':' scout.compact ∧ scout.hyphen = separated '-' scout.compact ∧
        compactMac scout.hyphen = scout.compact ∧ scout.compact.length = 12 ∧
        ('_' ∉ scout.colon ∧ '_' ∉ scout.hyphen ∧ '_' ∉ scout.compact) ∧
        ∀ spelling ∈ scout.spellings, (spelling.pattern.any isWhitespace) = false := by
    decide +kernel
  obtain ⟨colons, hyphens, hyphenDigits, size, plain, dense⟩ := facts scout known
  refine ⟨colons, hyphens, hyphenDigits, size, plain, fun spelling spelled char member => ?_⟩
  exact Bool.eq_false_iff.mpr (List.any_eq_false.mp (dense spelling spelled) char member)

/-- The last six digits of the addresses. -/
def KnownScout.suffix (scout : KnownScout) : Text :=
  scout.compact.drop (scout.compact.length - 6)

/-- A network name ends with the last six digits of the address. -/
theorem ssid_eq (scout : KnownScout) : scout.ssid = "robot_scout_".toList ++ scout.suffix :=
  rfl

/-- No two robots share the last six digits of their addresses. -/
theorem eq_of_suffix {scout other : KnownScout} (known : scout ∈ knownScouts)
    (knownOther : other ∈ knownScouts) (same : other.suffix = scout.suffix) : other = scout := by
  -- The table has sixteen suffixes, no two of them alike.
  have distinct : (knownScouts.map KnownScout.suffix).Nodup := by decide +kernel
  exact List.inj_on_of_nodup_map distinct knownOther known same

/-- Text that is stored as digits only has as many characters as bytes. -/
theorem length_of_hexBytes {text : Text} {size : Nat}
    (fits : text.utf8.length = size ∧ ∀ byte ∈ text.utf8, isAsciiHexdigit byte.toNat = true) :
    text.length = size := by
  -- A digit is stored as one byte.
  obtain ⟨size, digits⟩ := fits
  have small : ∀ code, isAsciiHexdigit code = true → code < 0x80 := by
    intro code digit
    simp only [isAsciiHexdigit, Bool.or_eq_true, Bool.and_eq_true, decide_eq_true_eq] at digit
    omega
  have chars := @forall_of_utf8 text (fun code => isAsciiHexdigit code = true) digits small
  rw [← size, utf8_of_small fun char member => small _ (chars char member), List.length_map]

/-- What a full address or a network name names is spelled by it. -/
theorem spelled_of_knownScout {identifier : Text} {scout : KnownScout}
    (found : knownScout identifier = some scout) :
    scout ∈ knownScouts ∧
      ∃ spelling ∈ scout.spellings, identifier.trim.toAsciiLowercase = spelling.pattern := by
  -- Either the digits of an address are compared, or the end of a network name.
  unfold knownScout at found
  dsimp only at found
  split at found
  next mac full =>
    have known := List.mem_of_find?_eq_some found
    have same : scout.compact = mac := by simpa using List.find?_some found
    have regular := regular_of_mem known
    refine ⟨known, ?_⟩
    rw [← same] at full
    -- The address is written without separators, with colons or with hyphens.
    cases normalizeMac_eq_some full with
    | inl compact => exact ⟨⟨scout.compact, none⟩, by simp [KnownScout.spellings], compact⟩
    | inr separate =>
      cases separate with
      | inl colons =>
        exact ⟨⟨scout.colon, some ':'⟩, by simp [KnownScout.spellings],
          colons.trans regular.colons.symm⟩
      | inr hyphens =>
        exact ⟨⟨scout.hyphen, some '-'⟩, by simp [KnownScout.spellings],
          hyphens.trans regular.hyphens.symm⟩
  next partial_ =>
    obtain ⟨suffix, stripped, found⟩ := Option.bind_eq_some_iff.mp found
    split_ifs at found with unfit
    have known := List.mem_of_find?_eq_some found
    have last := List.find?_some found
    have ends : suffix <:+ scout.compact := List.isSuffixOf_iff_suffix.mp last
    refine ⟨known, ⟨scout.ssid, none⟩, by simp [KnownScout.spellings], ?_⟩
    -- Six bytes that are digits are six characters.
    have six : suffix.length = 6 := length_of_hexBytes (by simpa using unfit)
    rw [stripPrefix_eq_some.mp stripped, List.suffix_iff_eq_drop.mp ends, six]
    rfl

/-- A spelling has all digits of the address, or it is the network name. -/
theorem digits_of_spelling {scout : KnownScout} {spelling : Spelling}
    (known : scout ∈ knownScouts) (spelled : spelling ∈ scout.spellings) :
    compactMac spelling.pattern = scout.compact ∧ '_' ∉ spelling.pattern ∨
      spelling.pattern = scout.ssid := by
  -- The cases are the four spellings.
  have regular := regular_of_mem known
  obtain ⟨colons, hyphens, compacts⟩ := regular.plain
  simp only [KnownScout.spellings, List.mem_cons, List.not_mem_nil, or_false] at spelled
  obtain rfl | rfl | rfl | rfl := spelled
  · exact .inl ⟨rfl, colons⟩
  · exact .inl ⟨regular.hyphenDigits, hyphens⟩
  · have again : compactMac scout.compact = scout.compact := by
      rw [KnownScout.compact, compactMac, compactMac, List.filter_filter]
      simp
    exact .inl ⟨again, compacts⟩
  · exact .inr rfl

/-- The last six digits of an address are six. -/
theorem length_suffix {scout : KnownScout} (known : scout ∈ knownScouts) :
    scout.suffix.length = 6 := by
  rw [KnownScout.suffix, List.length_drop, (regular_of_mem known).size]

/-- A network name has fewer digits than an address. -/
theorem length_compactMac_ssid {scout : KnownScout} (known : scout ∈ knownScouts) :
    (compactMac scout.ssid).length = 8 := by
  have all : ∀ scout ∈ knownScouts, (compactMac scout.ssid).length = 8 := by decide +kernel
  exact all scout known

/-- No spelling of a robot is part of a spelling of another one. -/
theorem eq_of_spelling_within {scout other : KnownScout} {spelling foreign : Spelling}
    (known : scout ∈ knownScouts) (knownOther : other ∈ knownScouts)
    (spelled : spelling ∈ scout.spellings) (spelledOther : foreign ∈ other.spellings)
    (within : foreign.pattern <:+: spelling.pattern) : other = scout := by
  -- What is part of a spelling has part of its digits.
  have regular := regular_of_mem known
  have regularOther := regular_of_mem knownOther
  have digits : compactMac foreign.pattern <:+: compactMac spelling.pattern := within.filter isHex
  cases digits_of_spelling knownOther spelledOther with
  | inl full =>
    rw [full.1] at digits
    cases digits_of_spelling known spelled with
    | inl own =>
      -- Two addresses of which one is part of the other are the same.
      rw [own.1] at digits
      have same := digits.eq_of_length (regularOther.size.trans regular.size.symm)
      exact eq_of_suffix known knownOther (by rw [KnownScout.suffix, KnownScout.suffix, same])
    | inr own =>
      -- A network name has too few digits for an address.
      have short := digits.length_le
      rw [own, length_compactMac_ssid known, regularOther.size] at short
      omega
  | inr named =>
    rw [named] at within
    have underscore : '_' ∈ other.ssid := List.mem_append_left _ (by decide)
    cases digits_of_spelling known spelled with
    | inl own => exact absurd (within.subset underscore) own.2
    | inr own =>
      rw [own] at within
      rw [ssid_eq, ssid_eq] at within
      have same := within.eq_of_length (by
        rw [List.length_append, List.length_append, length_suffix known,
          length_suffix knownOther])
      exact eq_of_suffix known knownOther (List.append_cancel_left same)

/-- No spelling is empty. -/
theorem pattern_ne_nil {scout : KnownScout} {spelling : Spelling} (known : scout ∈ knownScouts)
    (spelled : spelling ∈ scout.spellings) : spelling.pattern ≠ [] := by
  -- An address has twelve digits, and a network name still six of them.
  intro empty
  cases digits_of_spelling known spelled with
  | inl full =>
    have size := (regular_of_mem known).size
    rw [← full.1, empty] at size
    exact absurd size (by decide)
  | inr named =>
    rw [empty, ssid_eq] at named
    have size := length_suffix known
    rw [(List.append_eq_nil_iff.mp named.symm).2] at size
    exact absurd size (by decide)

section Around

variable {before after : Text}

/-- A text ends with no digit in either case of its letters. -/
theorem closes_toAsciiLowercase (closes : Closes notHex before) :
    Closes notHex before.toAsciiLowercase := by
  -- The case of a letter does not matter to what a digit is.
  intro last ends
  rw [toAsciiLowercase, List.getLast?_map] at ends
  obtain ⟨capital, found, rfl⟩ := Option.map_eq_some_iff.mp ends
  rw [notHex, isHex_toLower]
  exact closes capital found

/-- A text begins with no digit in either case of its letters. -/
theorem opens_toAsciiLowercase (opens : Opens notHex after) :
    Opens notHex after.toAsciiLowercase := by
  -- The case of a letter does not matter to what a digit is.
  intro first begins
  rw [toAsciiLowercase, List.head?_map] at begins
  obtain ⟨capital, found, rfl⟩ := Option.map_eq_some_iff.mp begins
  rw [notHex, isHex_toLower]
  exact opens capital found

/-- A robot is found where it is spelled without digits around it, and no other is spelled. -/
theorem knownScoutInText_of_spelling {scout : KnownScout} {spelling : Spelling} {text : Text}
    (known : scout ∈ knownScouts) (spelled : spelling ∈ scout.spellings)
    (written : text.toAsciiLowercase = before ++ spelling.pattern ++ after)
    (closes : Closes notHex before) (opens : Opens notHex after)
    (alone : ∀ other ∈ knownScouts, other ≠ scout → ∀ foreign ∈ other.spellings,
      ¬ foreign.pattern <:+: text.toAsciiLowercase) :
    knownScoutInText text = some scout := by
  -- It is the only entry of the table that is found.
  refine find?_eq_some_of_unique known ?_ ?_
  · rw [written]
    exact foundIn_of_spelling spelled closes opens
  · intro other knownOther found
    by_contra different
    obtain ⟨foreign, spelledOther, within⟩ := infix_of_foundIn found
    exact alone other knownOther different foreign spelledOther within

end Around

/-- White space is no digit. -/
theorem notHex_of_isWhitespace {char : Char} (space : isWhitespace char = true) :
    notHex char = true := by
  -- The codes of the two classes do not meet.
  rw [notHex, Bool.not_eq_true', Bool.eq_false_iff]
  simp only [isWhitespace, isHex, isAsciiHexdigit, Bool.or_eq_true, Bool.and_eq_true,
    decide_eq_true_eq, beq_iff_eq, ne_eq] at space ⊢
  omega

/-- The white space in front of an identifier ends with no digit. -/
theorem closes_leadingSpace (identifier : Text) : Closes notHex identifier.leadingSpace :=
  fun last ends => notHex_of_isWhitespace
    (space_of_mem_leadingSpace identifier last (List.mem_of_getLast? ends))

/-- The white space behind an identifier begins with no digit. -/
theorem opens_trailingSpace (identifier : Text) : Opens notHex identifier.trailingSpace :=
  fun first begins => notHex_of_isWhitespace
    (space_of_mem_trailingSpace identifier first (List.mem_of_mem_head? begins))

/-- An identifier names the same robot alone and in a text that spells no other robot. -/
theorem lookups_agree {identifier : Text} {scout : KnownScout}
    (found : knownScout identifier = some scout) :
    knownScoutInText identifier = some scout ∧
      ∀ before after : Text,
        Closes notHex (before ++ identifier.leadingSpace) →
        Opens notHex (identifier.trailingSpace ++ after) →
        (∀ other ∈ knownScouts, other ≠ scout → ∀ foreign ∈ other.spellings,
          ¬ foreign.pattern <:+: (before ++ identifier ++ after).toAsciiLowercase) →
        knownScoutInText (before ++ identifier ++ after) = some scout := by
  -- Within its white space the identifier is a spelling of the robot.
  obtain ⟨known, spelling, spelled, core⟩ := spelled_of_knownScout found
  have some_ : identifier.trim ≠ [] := by
    intro empty
    rw [empty] at core
    exact pattern_ne_nil known spelled core.symm
  have written (before after : Text) : (before ++ identifier ++ after).toAsciiLowercase =
      (before ++ identifier.leadingSpace).toAsciiLowercase ++ spelling.pattern ++
        (identifier.trailingSpace ++ after).toAsciiLowercase := by
    have parts : before ++ identifier ++ after =
        before ++ identifier.leadingSpace ++ identifier.trim ++
          (identifier.trailingSpace ++ after) := by
      calc before ++ identifier ++ after
          = before ++ (identifier.leadingSpace ++ identifier.trim ++ identifier.trailingSpace) ++
              after := by rw [space_trim_space some_]
        _ = _ := by simp only [List.append_assoc]
    rw [← core, parts, toAsciiLowercase, List.map_append, List.map_append]
    rfl
  have inText (before after : Text) (closes : Closes notHex (before ++ identifier.leadingSpace))
      (opens : Opens notHex (identifier.trailingSpace ++ after)) :=
    knownScoutInText_of_spelling known spelled (written before after)
      (closes_toAsciiLowercase closes) (opens_toAsciiLowercase opens)
  refine ⟨?_, inText⟩
  -- Alone, the identifier has nothing but white space around it, which is in no spelling.
  have here := inText [] [] (closes_leadingSpace identifier) (by
    rw [List.append_nil]
    exact opens_trailingSpace identifier)
  rw [List.nil_append, List.append_nil] at here
  refine here fun other knownOther different foreign spelledOther within => ?_
  have whole := written [] []
  rw [List.nil_append, List.append_nil, List.nil_append, List.append_nil] at whole
  rw [whole] at within
  have dense := (regular_of_mem knownOther).dense foreign spelledOther
  have own : foreign.pattern <:+: spelling.pattern :=
    infix_of_infix_between (pattern_ne_nil knownOther spelledOther)
      (absent_of_space (space_of_mem_leadingSpace identifier) dense)
      (absent_of_space (space_of_mem_trailingSpace identifier) dense) within
  exact different (eq_of_spelling_within known knownOther spelled spelledOther own)

/-- The network name of a robot among other names, with capitals and white space around it. -/
theorem lookups_agree_scan :
    knownScoutInText " robot_scout_EB0CF6\n".toList =
        some { name := "Kíli", macAddress := "d4:9c:dd:eb:0c:f6" } ∧
      knownScoutInText ("SSID 2:".toList ++ " robot_scout_EB0CF6\n".toList ++ "SSID 3: de".toList) =
        some { name := "Kíli", macAddress := "d4:9c:dd:eb:0c:f6" } := by
  -- There is a blank before the name, and a line feed behind it.
  obtain ⟨alone, inText⟩ := lookups_agree (show knownScout " robot_scout_EB0CF6\n".toList =
    some { name := "Kíli", macAddress := "d4:9c:dd:eb:0c:f6" } by decide +kernel)
  refine ⟨alone, inText _ _ ?_ ?_ (by decide +kernel)⟩
  · exact closes_of_getLast? (show _ = some ' ' by decide +kernel) (by decide)
  · exact opens_of_head? (show _ = some '\n' by decide +kernel) (by decide)

end Scout
