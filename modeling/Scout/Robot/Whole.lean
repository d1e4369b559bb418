import Scout.Robot.Spellings

/-! Which robots stand in a text as whole identifiers, and which only in longer ones. -/

namespace Scout

open Text Tokens

/-- Nothing before and after a spelling makes it a part of a longer identifier. -/
structure Spelling.Apart (spelling : Spelling) (before after : Text) : Prop where
  front : Closes notHex before
  back : Opens notHex after
  frontPair : ∀ separator ∈ spelling.separator, ∀ first second, isHex first = true →
    isHex second = true → ¬ [first, second, separator] <:+ before
  backPair : ∀ separator ∈ spelling.separator, ∀ first second, isHex first = true →
    isHex second = true → ¬ [separator, first, second] <+: after

namespace KnownScout

/-- A spelling of the robot is a whole identifier in the text. -/
def OccursWhole (scout : KnownScout) (text : Text) : Prop :=
  ∃ spelling ∈ scout.spellings, ∃ before after,
    text.toAsciiLowercase = before ++ spelling.pattern ++ after ∧ spelling.Apart before after

/-- The robot is spelled within longer identifiers, and nowhere as a whole one. -/
structure OnlyInPart (scout : KnownScout) (text : Text) : Prop where
  part : ∃ pattern ∈ [scout.colon, scout.hyphen, scout.ssid], pattern <:+: text.toAsciiLowercase
  notWhole : ¬ scout.OccursWhole text

end KnownScout

/-- A token is a whole identifier. -/
theorem occursWhole_of_stands {scout : KnownScout} {text : Text}
    (stands : Stands notHex text.toAsciiLowercase scout.compact) : scout.OccursWhole text := by
  -- Without a separator only the digits around it matter.
  obtain ⟨_, before, after, written, closes, opens⟩ := stands
  exact ⟨⟨scout.compact, none⟩, by simp [KnownScout.spellings], before, after, written,
    closes, opens, nofun, nofun⟩

/-- A robot is found exactly if it stands in the text as a whole or only in part. -/
theorem foundIn_iff_whole_or_part {scout : KnownScout} {text : Text} :
    scout.foundIn text.toAsciiLowercase = true ↔
      scout.OccursWhole text ∨ scout.OnlyInPart text := by
  -- Three spellings are looked for anywhere, and the fourth only as a token.
  constructor
  · intro found
    by_cases whole : scout.OccursWhole text
    · exact .inl whole
    · -- The tokens are whole, so another spelling has been found.
      refine .inr ⟨?_, whole⟩
      obtain colon | hyphen | token | ssid := foundIn_iff.mp found
      · exact ⟨scout.colon, by simp, colon⟩
      · exact ⟨scout.hyphen, by simp, hyphen⟩
      · exact absurd (occursWhole_of_stands token) whole
      · exact ⟨scout.ssid, by simp, ssid⟩
  · intro occurs
    cases occurs with
    | inl whole =>
      obtain ⟨spelling, spelled, before, after, written, apart⟩ := whole
      rw [written]
      exact foundIn_of_spelling spelled apart.front apart.back
    | inr part =>
      obtain ⟨pattern, kind, within⟩ := part.part
      simp only [List.mem_cons, List.not_mem_nil, or_false] at kind
      rw [foundIn_iff]
      obtain rfl | rfl | rfl := kind
      · exact .inl within
      · exact .inr (.inl within)
      · exact .inr (.inr (.inr within))

/-- What is found in a text stands in it as a whole, exactly if each robot that stands in it only
in part comes behind one in the table that stands in it as a whole. -/
theorem names_whole_iff (text : Text) :
    (∀ scout, knownScoutInText text = some scout → scout.OccursWhole text) ↔
      ∀ before scout after, knownScouts = before ++ scout :: after → scout.OnlyInPart text →
        ∃ earlier ∈ before, earlier.OccursWhole text := by
  -- The table is searched from its beginning, and the first robot found is named.
  constructor
  · intro whole before scout after table part
    have here : scout.foundIn text.toAsciiLowercase = true :=
      foundIn_iff_whole_or_part.mpr (.inr part)
    have search : knownScoutInText text =
        (before.find? fun scout => scout.foundIn text.toAsciiLowercase).or (some scout) := by
      have own : (scout :: after).find? (fun scout => scout.foundIn text.toAsciiLowercase) =
          some scout := List.find?_cons_of_pos here
      rw [knownScoutInText, table, List.find?_append, own]
    -- Whatever is found first is not behind the robot, and not the robot itself.
    cases first : before.find? fun scout => scout.foundIn text.toAsciiLowercase with
    | some earlier =>
      rw [first, Option.some_or] at search
      exact ⟨earlier, List.mem_of_find?_eq_some first, whole earlier search⟩
    | none =>
      rw [first, Option.none_or] at search
      exact absurd (whole scout search) part.notWhole
  · intro order scout named
    obtain ⟨found, before, after, table, passed⟩ := List.find?_eq_some_iff_append.mp named
    cases foundIn_iff_whole_or_part.mp found with
    | inl whole => exact whole
    | inr part =>
      -- A robot further up would have been found instead.
      obtain ⟨earlier, member, whole⟩ := order before scout after table part
      have missed := passed earlier member
      rw [foundIn_iff_whole_or_part.mpr (.inl whole)] at missed
      cases missed

/-- The address of a robot with a further pair of digits. -/
def longerAddress : Text := "d4:9c:dd:eb:0c:f6:00".toList

/-- A longer address names a robot, though nothing in it is a whole identifier. -/
theorem longer_address_names_robot :
    ¬ ∀ (text : Text) (scout : KnownScout),
      knownScoutInText text = some scout → scout.OccursWhole text := by
  -- The robot of the address is named.
  intro claim
  have named : knownScoutInText longerAddress =
      some { name := "Kíli", macAddress := "d4:9c:dd:eb:0c:f6" } := by decide +kernel
  obtain ⟨spelling, spelled, before, after, written, apart⟩ := claim _ _ named
  -- Only the spelling with colons is in the text, and only at its beginning.
  have places : ∀ spelling ∈ KnownScout.spellings
      { name := "Kíli", macAddress := "d4:9c:dd:eb:0c:f6" }, ∀ start < 21,
      spelling.pattern <+: longerAddress.toAsciiLowercase.drop start →
        start = 0 ∧ spelling.separator = some ':' ∧
          longerAddress.toAsciiLowercase.drop spelling.pattern.length = [':', '0', '0'] := by
    decide +kernel
  have size : longerAddress.toAsciiLowercase.length = 20 := by decide +kernel
  generalize longerAddress.toAsciiLowercase = text at written places size
  subst written
  rw [List.length_append, List.length_append] at size
  have begins : spelling.pattern <+:
      (before ++ spelling.pattern ++ after).drop before.length := by
    rw [List.append_assoc, List.drop_left]
    exact List.prefix_append _ _
  obtain ⟨start, colon, rest⟩ := places spelling spelled before.length (by omega) begins
  rw [List.eq_nil_of_length_eq_zero start, List.nil_append, List.drop_left] at rest
  -- What follows is the separator with two more digits.
  refine apart.backPair ':' colon '0' '0' (by decide) (by decide) ?_
  rw [rest]

end Scout
