import Scout.Stream.Numerals
import Scout.Wifi.AddressDisplay
import Scout.Wifi.AddressText

/-! The text of an address is read back as that address. -/

namespace Scout.Wifi.IpAddr

section Positions

/-- There are as many digits as have been asked for. -/
theorem length_digitsOf (base count number : Nat) : (digitsOf base count number).length = count := by
  -- The induction is on the number of digits.
  induction count generalizing number with
  | zero => rfl
  | succ count ih => rw [digitsOf, List.length_append, ih, List.length_singleton]

/-- Every digit is smaller than the base. -/
theorem digitsOf_lt {base count number : Nat} (positive : 0 < base) :
    ∀ digit ∈ digitsOf base count number, digit < base := by
  -- The induction is on the number of digits, the last of which is a remainder.
  induction count generalizing number with
  | zero => exact List.forall_mem_nil _
  | succ count ih =>
    rw [digitsOf]
    exact List.forall_mem_append.mpr
      ⟨ih, List.forall_mem_singleton.mpr (Nat.mod_lt _ positive)⟩

/-- One more digit is added behind those before it. -/
theorem ofDigits_append (base : Nat) (digits : List Nat) (digit : Nat) :
    ofDigits base (digits ++ [digit]) = ofDigits base digits * base + digit := by
  rw [ofDigits, List.foldl_append]
  rfl

/-- A number that has no more digits than asked for is denoted by them. -/
theorem ofDigits_digitsOf {base count number : Nat} (fits : number < base ^ count) :
    ofDigits base (digitsOf base count number) = number := by
  -- The induction is on the number of digits, the last of which is the remainder.
  induction count generalizing number with
  | zero =>
    rw [pow_zero, Nat.lt_one_iff] at fits
    rw [fits]
    rfl
  | succ count ih =>
    have quotient : number / base < base ^ count :=
      Nat.div_lt_of_lt_mul (by rwa [pow_succ, Nat.mul_comm] at fits)
    rw [digitsOf, ofDigits_append, ih quotient, Nat.mul_comm, Nat.div_add_mod]

end Positions

section Numbers

variable {rest : Text}

/-- What follows a number does not begin with a digit. -/
def Ends (radix : Nat) (rest : Text) : Prop :=
  ∀ char ∈ rest.head?, Text.toDigit radix char = none

/-- A number is read back from its digits, up to the end of them. -/
theorem readNumber_toDigits {radix maxDigits bound number : Nat} {allowZeroPrefix : Bool}
    (base : 1 < radix) (most : radix ≤ 16) (some_ : 0 < maxDigits)
    (fits : number < radix ^ maxDigits) (bounded : number < bound) (ends : Ends radix rest) :
    readNumber radix maxDigits bound allowZeroPrefix (Nat.toDigits radix number ++ rest) =
      some (number, rest) := by
  -- The digits at the front are those of the number.
  have front : (Nat.toDigits radix number ++ rest).takeWhile
      (fun char => (Text.toDigit radix char).isSome) = Nat.toDigits radix number := by
    rw [List.takeWhile_append_of_pos fun char member =>
      Text.isSome_toDigit_of_mem_toDigits base most member]
    cases rest with
    | nil => exact List.append_nil _
    | cons char others =>
      have none := ends char rfl
      rw [List.takeWhile_cons_of_neg (by simp [none]), List.append_nil]
  have length : (Nat.toDigits radix number).length ≤ maxDigits :=
    (Nat.length_toDigits_le_iff base some_).mpr fits
  have empty : (Nat.toDigits radix number).isEmpty = false := by
    rw [List.isEmpty_eq_false_iff]
    exact Nat.toDigits_ne_nil
  -- A leading zero is that of the number zero, which has no other digit.
  have lead : ¬ ((!allowZeroPrefix) = true ∧ (Nat.toDigits radix number).head? = some '0' ∧
      1 < (Nat.toDigits radix number).length) := by
    rintro ⟨_, zero, more⟩
    have single := Text.toDigits_head base most zero
    rw [single, Nat.toDigits_zero] at more
    exact absurd more (by decide)
  unfold readNumber
  dsimp only
  rw [front, empty, if_neg (by simpa using length), if_neg lead,
    Text.digitsFrom_toDigits_radix base most, Option.filter_some, if_pos (by simpa using bounded),
    Option.map_some, List.drop_left]

/-- Nothing is read where there is no digit. -/
theorem readNumber_none {radix maxDigits bound : Nat} {allowZeroPrefix : Bool}
    (ends : Ends radix rest) : readNumber radix maxDigits bound allowZeroPrefix rest = none := by
  -- No digit comes first.
  have front : rest.takeWhile (fun char => (Text.toDigit radix char).isSome) = [] := by
    cases rest with
    | nil => rfl
    | cons char others => exact List.takeWhile_cons_of_neg (by simp [ends char rfl])
  unfold readNumber
  dsimp only
  rw [front]
  rfl

/-- A character that is no digit ends a number. -/
theorem ends_cons {radix : Nat} {char : Char} (none : Text.toDigit radix char = none) :
    Ends radix (char :: rest) := by
  -- The first character is known.
  intro other same
  cases same
  exact none

/-- The end of a text ends a number. -/
theorem ends_nil (radix : Nat) : Ends radix [] := by
  intro other same
  cases same

end Numbers

section Octets

/-- Four octets are read back from their text. -/
theorem readOctets_dotted {first second third fourth : Nat} {rest : Text} (ends : Ends 10 rest)
    (bounded : ∀ octet ∈ [first, second, third, fourth], octet < 256) :
    readOctets (dotted [first, second, third, fourth] ++ rest) =
      some ([first, second, third, fourth], rest) := by
  -- Each octet is ended by a dot, or by what follows all of them.
  have read {octet : Nat} (member : octet ∈ [first, second, third, fourth]) {more : Text}
      (ended : Ends 10 more) :
      readNumber 10 3 256 false (Nat.toDigits 10 octet ++ more) = some (octet, more) := by
    have small := bounded octet member
    exact readNumber_toDigits (by decide) (by decide) (by decide) (by omega) small ended
  have dot (more : Text) : Ends 10 ('.' :: more) := ends_cons (by decide)
  have places : List.range 4 = [0, 1, 2, 3] := by decide
  unfold readOctets dotted
  rw [places]
  simp only [List.map_cons, List.map_nil, List.intercalate_cons_cons, List.intercalate_singleton,
    List.append_assoc, List.cons_append, List.nil_append]
  simp [readSeparator, readGivenChar, read, dot, ends]

/-- Where there is no decimal digit there are no four octets. -/
theorem readOctets_none_of_ends {text : Text} (ends : Ends 10 text) : readOctets text = none := by
  -- The first octet is missing.
  have places : List.range 4 = [0, 1, 2, 3] := by decide
  have missing : readSeparator '.' 0 (readNumber 10 3 256 false) text = none := readNumber_none ends
  unfold readOctets
  rw [places, List.foldlM_cons]
  dsimp only
  rw [missing]
  rfl

/-- Without a dot there are no four octets. -/
theorem readOctets_none {text : Text} (dotless : '.' ∉ text) : readOctets text = none := by
  -- The second octet follows a dot.
  cases found : readOctets text with
  | none => rfl
  | some result =>
    have places : List.range 4 = [0, 1, 2, 3] := by decide
    unfold readOctets at found
    rw [places, List.foldlM_cons] at found
    obtain ⟨state, step, others⟩ := Option.bind_eq_some_iff.mp found
    obtain ⟨read, octet, same⟩ := Option.bind_eq_some_iff.mp step
    cases same
    rw [List.foldlM_cons] at others
    obtain ⟨later, step, _⟩ := Option.bind_eq_some_iff.mp others
    obtain ⟨next, separated, _⟩ := Option.bind_eq_some_iff.mp step
    have decimal := consumes_readNumber
      (fun char decimal => .inl (toDigit_isSome_of_decimal decimal)) 3 256 false
    obtain ⟨used, whole, _⟩ := decimal _ _ _ octet
    obtain ⟨middle, dot, _⟩ := Option.bind_eq_some_iff.mp separated
    refine absurd ?_ dotless
    rw [whole]
    cases behind : read.2 with
    | nil =>
      rw [behind] at dot
      cases dot
    | cons char more =>
      rw [behind, readGivenChar] at dot
      by_cases same : char = '.'
      · rw [same]
        simp
      · rw [if_neg same] at dot
        cases dot

end Octets

section Groups

/-- No number is read behind a colon. -/
def Stop (rest : Text) : Prop :=
  Ends 16 rest ∧ (readGivenChar ':' rest).bind (readNumber 16 4 65536 true) = none

/-- The end of a text ends the groups. -/
theorem stop_nil : Stop [] := ⟨ends_nil 16, rfl⟩

/-- Two colons end the groups. -/
theorem stop_colons (rest : Text) : Stop (':' :: ':' :: rest) := by
  -- After the first colon there is another one, and no digit.
  refine ⟨ends_cons (by decide), ?_⟩
  rw [readGivenChar, if_pos rfl, Option.bind_some]
  exact readNumber_none (ends_cons (by decide))

/-- Groups with a colon in front of each. -/
def colonGroups (groups : List Nat) : Text :=
  groups.flatMap fun group => ':' :: lowerHex group

/-- The first group of several has no colon in front. -/
theorem fmtSubslice_cons (group : Nat) (groups : List Nat) :
    fmtSubslice (group :: groups) = lowerHex group ++ colonGroups groups := by
  -- The induction is on the groups behind the first one.
  unfold fmtSubslice colonGroups
  induction groups generalizing group with
  | nil => simp
  | cons next others ih =>
    rw [List.map_cons, List.map_cons, List.intercalate_cons_cons, ← List.map_cons, ih next]
    simp

/-- Behind a group there is a colon or what ends the groups. -/
theorem ends_colonGroups (groups : List Nat) {rest : Text} (stop : Stop rest) :
    Ends 16 (colonGroups groups ++ rest) := by
  -- The groups begin with a colon.
  cases groups with
  | nil => exact stop.1
  | cons group others => exact ends_cons (by decide)

/-- A group is read back from its digits. -/
theorem readNumber_lowerHex {group : Nat} {rest : Text} (bounded : group < 65536)
    (ends : Ends 16 rest) :
    readNumber 16 4 65536 true (lowerHex group ++ rest) = some (group, rest) :=
  readNumber_toDigits (by decide) (by decide) (by decide) (by omega) bounded ends

/-- Groups without a dot behind them embed no older address. -/
theorem readSeparator_none {index : Nat} {text : Text} (dotless : '.' ∉ text) :
    readSeparator ':' index readOctets text = none := by
  -- An address of the older version would have a dot.
  unfold readSeparator
  split
  · cases text with
    | nil => rfl
    | cons char rest =>
      rw [readGivenChar]
      split
      · exact readOctets_none fun member => dotless (List.mem_cons_of_mem _ member)
      · rfl
  · exact readOctets_none dotless

/-- One more group is read if there is a number where it should be. -/
theorem readGroups_step {limit left group : Nat} {groups : List Nat} {text rest : Text}
    (unembedded : readSeparator ':' groups.length readOctets text = none)
    (found : readSeparator ':' groups.length (readNumber 16 4 65536 true) text =
      some (group, rest)) :
    readGroups limit (left + 1) groups text = readGroups limit left (groups ++ [group]) rest := by
  -- The group is read after the embedded address was not.
  rw [readGroups, unembedded, ite_self]
  dsimp only
  rw [found]

/-- No more groups are read if there is no number where one should be. -/
theorem readGroups_stop {limit left : Nat} {groups : List Nat} {text : Text}
    (unembedded : readSeparator ':' groups.length readOctets text = none)
    (none : readSeparator ':' groups.length (readNumber 16 4 65536 true) text = none) :
    readGroups limit left groups text = (groups, false, text) := by
  -- Neither an embedded address nor a group is read.
  cases left with
  | zero => rfl
  | succ left =>
    rw [readGroups, unembedded, ite_self]
    dsimp only
    rw [none]

/-- Groups with colons in front are read behind those before them. -/
theorem readGroups_colonGroups {limit left : Nat} {read groups : List Nat} {rest : Text}
    (enough : groups.length ≤ left) (later : 0 < read.length)
    (bounded : ∀ group ∈ groups, group < 65536) (dotless : '.' ∉ colonGroups groups ++ rest)
    (stop : Stop rest) :
    readGroups limit left read (colonGroups groups ++ rest) = (read ++ groups, false, rest) := by
  -- The induction is on the groups that are still to be read.
  induction groups generalizing left read with
  | nil =>
    have none : readSeparator ':' read.length (readNumber 16 4 65536 true) rest = none := by
      rw [readSeparator, if_pos later]
      exact stop.2
    rw [List.append_nil]
    exact readGroups_stop (readSeparator_none dotless) none
  | cons group others ih =>
    obtain ⟨small, smaller⟩ := List.forall_mem_cons.mp bounded
    cases left with
    | zero => exact absurd enough (by simp)
    | succ left =>
      have text : colonGroups (group :: others) ++ rest =
          ':' :: (lowerHex group ++ (colonGroups others ++ rest)) := by
        simp [colonGroups]
      rw [text] at dotless ⊢
      have found : readSeparator ':' read.length (readNumber 16 4 65536 true)
          (':' :: (lowerHex group ++ (colonGroups others ++ rest))) =
            some (group, colonGroups others ++ rest) := by
        rw [readSeparator, if_pos later, readGivenChar, if_pos rfl, Option.bind_some]
        exact readNumber_lowerHex small (ends_colonGroups others stop)
      rw [readGroups_step (readSeparator_none dotless) found, ih (Nat.le_of_succ_le_succ enough) (by simp) smaller
        (fun member => dotless (by simp [member])), List.append_assoc, List.singleton_append]

/-- Groups are read back from their text. -/
theorem readGroups_fmtSubslice (limit left : Nat) (groups : List Nat) (rest : Text)
    (enough : groups.length ≤ left) (bounded : ∀ group ∈ groups, group < 65536)
    (dotless : '.' ∉ fmtSubslice groups ++ rest) (stop : Stop rest) :
    readGroups limit left [] (fmtSubslice groups ++ rest) = (groups, false, rest) := by
  -- The first group comes without a colon, and the others have one each.
  cases groups with
  | nil => exact readGroups_stop (readSeparator_none dotless) (readNumber_none stop.1)
  | cons group others =>
    obtain ⟨small, smaller⟩ := List.forall_mem_cons.mp bounded
    cases left with
    | zero => exact absurd enough (by simp)
    | succ left =>
      rw [fmtSubslice_cons, List.append_assoc] at dotless ⊢
      have found : readSeparator ':' ([] : List Nat).length (readNumber 16 4 65536 true)
          (lowerHex group ++ (colonGroups others ++ rest)) =
            some (group, colonGroups others ++ rest) :=
        readNumber_lowerHex small (ends_colonGroups others stop)
      rw [readGroups_step (readSeparator_none dotless) found]
      exact readGroups_colonGroups (Nat.le_of_succ_le_succ enough) Nat.one_pos smaller
        (fun member => dotless (by simp [member])) stop

/-- There is no dot among groups. -/
theorem dotless_fmtSubslice (groups : List Nat) : '.' ∉ fmtSubslice groups := by
  -- It is neither a digit nor a colon.
  have hex (group : Nat) : '.' ∉ lowerHex group := by
    intro member
    have digit := Text.isSome_toDigit_of_mem_toDigits (by decide) (by decide) member
    exact absurd digit (by decide)
  cases groups with
  | nil => exact List.not_mem_nil
  | cons group others =>
    rw [fmtSubslice_cons]
    simp [colonGroups, hex]

end Groups

section Zeros

/-- A run of zeros among groups. -/
structure Span.Zeros (span : Span) (groups : List Nat) : Prop where
  inside : span.start + span.len ≤ groups.length
  zero : ∀ index, span.start ≤ index → index < span.start + span.len → groups[index]? = some 0

/-- A run of zeros stays one when there are more groups. -/
theorem Span.Zeros.append {span : Span} {before : List Nat} (zeros : span.Zeros before)
    (more : List Nat) : span.Zeros (before ++ more) where
  -- The span lies within the groups before.
  inside := by
    rw [List.length_append]
    exact Nat.le_add_right_of_le zeros.inside
  zero index low high := by
    rw [List.getElem?_append_left (Nat.lt_of_lt_of_le high zeros.inside)]
    exact zeros.zero index low high

/-- The run of zeros that the groups so far end in, if there is one. -/
def Span.Running (current : Span) (before : List Nat) : Prop :=
  current.len ≠ 0 → current.Zeros before ∧ current.start + current.len = before.length

/-- A run of zeros at the end grows by one more zero. -/
theorem Span.Running.grow {current : Span} {before : List Nat} (running : current.Running before) :
    (Span.mk (if current.len = 0 then before.length else current.start)
      (current.len + 1)).Zeros (before ++ [0]) := by
  -- A run that has not begun begins with this zero.
  have last : (before ++ [0])[before.length]? = some 0 := by simp
  by_cases fresh : current.len = 0
  · rw [if_pos fresh, fresh]
    refine ⟨by simp, fun index low high => ?_⟩
    rw [Nat.le_antisymm (Nat.lt_succ_iff.mp high) low]
    exact last
  · obtain ⟨zeros, ending⟩ := running fresh
    rw [if_neg fresh]
    refine ⟨by simp [← ending, Nat.add_assoc], fun index low high => ?_⟩
    rcases Nat.lt_or_ge index before.length with inner | outer
    · exact (zeros.append [0]).zero index low (by rw [ending]; exact inner)
    · have same : index = before.length := by
        simp only at high
        omega
      rw [same]
      exact last

/-- The longest run of zeros is one. -/
theorem longestZeros_zeros {longest current : Span} {before groups : List Nat}
    (earlier : longest.Zeros before) (running : current.Running before) :
    (longestZeros longest current before.length groups).Zeros (before ++ groups) := by
  -- The induction is on the groups that are still to be looked at.
  induction groups generalizing longest current before with
  | nil =>
    rw [List.append_nil]
    exact earlier
  | cons group others ih =>
    have step : before ++ group :: others = (before ++ [group]) ++ others := by simp
    have length : before.length + 1 = (before ++ [group]).length := by simp
    rw [longestZeros, step, length]
    by_cases zero : group = 0
    · subst zero
      have grown := running.grow
      have whole (some_ : current.len + 1 ≠ 0) :
          (if current.len = 0 then before.length else current.start) + (current.len + 1) =
            (before ++ [0]).length := by
        rw [List.length_append, List.length_singleton]
        by_cases fresh : current.len = 0
        · rw [if_pos fresh, fresh]
        · rw [if_neg fresh, ← (running fresh).2, Nat.add_assoc]
      rw [if_pos rfl]
      dsimp only
      refine ih ?_ fun some_ => ⟨grown, whole some_⟩
      split
      · exact grown
      · exact earlier.append [0]
    · rw [if_neg zero]
      exact ih (earlier.append [group]) fun some_ => absurd rfl some_

/-- Groups consist of those before a run of zeros, the zeros, and those behind them. -/
theorem Span.Zeros.split {span : Span} {groups : List Nat} (zeros : span.Zeros groups) :
    groups = groups.take span.start ++ List.replicate span.len 0 ++
      groups.drop (span.start + span.len) := by
  -- The three parts are compared place by place.
  have inside := zeros.inside
  have first : (groups.take span.start).length = span.start := by
    rw [List.length_take, Nat.min_eq_left (by omega)]
  apply List.ext_getElem?
  intro index
  rw [List.append_assoc]
  rcases Nat.lt_or_ge index span.start with before | behind
  · rw [List.getElem?_append_left (by omega), List.getElem?_take_of_lt before]
  rw [List.getElem?_append_right (by omega), first]
  rcases Nat.lt_or_ge index (span.start + span.len) with within | after
  · rw [List.getElem?_append_left (by rw [List.length_replicate]; omega),
      List.getElem?_replicate_of_lt (by omega), zeros.zero index behind within]
  · rw [List.getElem?_append_right (by rw [List.length_replicate]; omega), List.length_replicate,
      List.getElem?_drop]
    congr 1
    omega

end Zeros

section Addresses

/-- Groups are read back from their text, in which the longest run of zeros is left out. -/
theorem readV6_displayGroups {groups : List Nat} (eight : groups.length = 8)
    (bounded : ∀ group ∈ groups, group < 65536) :
    readV6 (displayGroups groups) =
      some (.v6 (BitVec.ofNat 128 (ofDigits 65536 groups)), []) := by
  -- The zeros that are left out are those between the other groups.
  have none : (Span.mk 0 0).Zeros [] := ⟨Nat.le_refl 0, fun index _ high => absurd high (by simp)⟩
  have zeros : (longestZeros ⟨0, 0⟩ ⟨0, 0⟩ 0 groups).Zeros groups :=
    longestZeros_zeros none fun some_ => absurd rfl some_
  unfold displayGroups
  generalize longestZeros ⟨0, 0⟩ ⟨0, 0⟩ 0 groups = span at zeros
  dsimp only
  by_cases several : 1 < span.len
  · rw [if_pos several]
    have inside := zeros.inside
    have front : (groups.take span.start).length = span.start := by
      rw [List.length_take, Nat.min_eq_left (by omega)]
    have back : (groups.drop (span.start + span.len)).length =
        8 - (span.start + span.len) := by
      rw [List.length_drop, eight]
    have first := readGroups_fmtSubslice 8 8 (groups.take span.start)
      (':' :: ':' :: fmtSubslice (groups.drop (span.start + span.len)))
      (by omega) (fun group member => bounded group (List.mem_of_mem_take member))
      (by simp [dotless_fmtSubslice]) (stop_colons _)
    have second := readGroups_fmtSubslice (8 - (span.start + 1)) (8 - (span.start + 1))
      (groups.drop (span.start + span.len)) []
      (by omega) (fun group member => bounded group (List.mem_of_mem_drop member))
      (by simp [dotless_fmtSubslice]) stop_nil
    have between : 8 - span.start - (8 - (span.start + span.len)) = span.len := by omega
    rw [List.append_nil] at second
    unfold readV6
    rw [List.append_assoc, List.cons_append, List.cons_append, List.nil_append, first]
    simp only [front, readGivenChar, if_true, Option.bind_eq_bind, Option.bind_some, second, back,
      between, Bool.false_eq_true, if_false]
    rw [if_neg (by omega), ← zeros.split]
    rfl
  · rw [if_neg several]
    have whole := readGroups_fmtSubslice 8 8 groups [] (by omega) bounded
      (by simp [dotless_fmtSubslice]) stop_nil
    rw [List.append_nil] at whole
    unfold readV6
    rw [whole]
    simp [eight]

/-- An embedded address of the older version is read back from its text. -/
theorem readV6_mapped {first second third fourth : Nat}
    (bounded : ∀ octet ∈ [first, second, third, fourth], octet < 256) :
    readV6 ("::ffff:".toList ++ dotted [first, second, third, fourth]) =
      some (.v6 (BitVec.ofNat 128 (ofDigits 65536
        [0, 0, 0, 0, 0, 0xffff, first * 256 + second, third * 256 + fourth])), []) := by
  -- No group comes before the two colons, and one between them and the octets.
  have octets := readOctets_dotted (ends_nil 10) bounded
  rw [List.append_nil] at octets
  have text : "::ffff:".toList ++ dotted [first, second, third, fourth] =
      ':' :: ':' :: (Nat.toDigits 16 0xffff ++ ':' :: dotted [first, second, third, fourth]) := by
    rfl
  have unread (rest : Text) : readNumber 16 4 65536 true (':' :: rest) = none :=
    readNumber_none (ends_cons (by decide))
  have read (rest : Text) : readNumber 16 4 65536 true (Nat.toDigits 16 0xffff ++ ':' :: rest) =
      some (0xffff, ':' :: rest) := readNumber_lowerHex (by decide) (ends_cons (by decide))
  have colons (rest : Text) : readGroups 8 8 [] (':' :: rest) = ([], false, ':' :: rest) :=
    readGroups_stop (readOctets_none_of_ends (ends_cons (by decide))) (unread rest)
  have letters (rest : Text) : Ends 10 (Nat.toDigits 16 0xffff ++ ':' :: rest) :=
    ends_cons (by decide)
  have group (rest : Text) : readGroups 7 7 [] (Nat.toDigits 16 0xffff ++ ':' :: rest) =
      readGroups 7 6 [0xffff] (':' :: rest) :=
    readGroups_step (readOctets_none_of_ends (letters rest)) (read rest)
  rw [text]
  generalize dotted [first, second, third, fourth] = address at octets
  have embedded : readGroups 7 6 [0xffff] (':' :: address) =
      ([0xffff, first * 256 + second, third * 256 + fourth], true, []) := by
    rw [readGroups]
    simp [readSeparator, readGivenChar, octets]
  unfold readV6
  rw [colons]
  simp only [readGivenChar, if_true, Option.bind_eq_bind, Option.bind_some, List.length_nil,
    Bool.false_eq_true, if_false, Nat.zero_add, Nat.reduceSub, group, embedded]
  rfl

/-- The octets of a number are its digits to the base of their size. -/
theorem digitsOf_octets (number : Nat) : digitsOf 256 4 number =
    [number / 256 / 256 / 256 % 256, number / 256 / 256 % 256, number / 256 % 256, number % 256] :=
  rfl

/-- Behind the mark of an embedded address, two octets make a group. -/
theorem ofDigits_mapped {number first second third fourth : Nat}
    (mapped : number / 2 ^ 32 = 0xffff)
    (embedded : ofDigits 256 [first, second, third, fourth] = number % 2 ^ 32) :
    ofDigits 65536 [0, 0, 0, 0, 0, 0xffff, first * 256 + second, third * 256 + fourth] =
      number := by
  -- The embedded address makes the two last groups.
  rw [← Nat.div_add_mod number (2 ^ 32), mapped, ← embedded]
  simp only [ofDigits, List.foldl_cons, List.foldl_nil]
  omega

/-- The text of every address is read back as that address. -/
theorem parse_display (ip : IpAddr) : parse ip.display = some ip := by
  -- An address of the newer version is not taken for one of the older.
  have bounded (number : Nat) : ∀ octet ∈ digitsOf 256 4 number, octet < 256 :=
    digitsOf_lt (by decide)
  cases ip with
  | v4 bits =>
    have octets : readOctets (dotted (digitsOf 256 4 bits.toNat)) =
        some (digitsOf 256 4 bits.toNat, []) := by
      have whole := readOctets_dotted (ends_nil 10) (bounded bits.toNat)
      rwa [List.append_nil] at whole
    have number : ofDigits 256 (digitsOf 256 4 bits.toNat) = bits.toNat :=
      ofDigits_digitsOf (Nat.lt_of_lt_of_eq bits.toNat_lt (by decide))
    unfold parse parseWith readV4
    rw [display]
    dsimp only
    rw [octets]
    simp [number]
  | v6 bits =>
    have whole (groups : List Nat) (number : ofDigits 65536 groups = bits.toNat) (text : Text)
        (newer : readOctets text = none)
        (read : readV6 text = some (.v6 (BitVec.ofNat 128 (ofDigits 65536 groups)), [])) :
        parse text = some (.v6 bits) := by
      unfold parse parseWith readV4
      dsimp only
      rw [newer, Option.map_none, Option.none_or, read, number]
      simp
    rw [display]
    split
    · rename_i mapped
      have embedded : ofDigits 256 (digitsOf 256 4 (bits.toNat % 2 ^ 32)) = bits.toNat % 2 ^ 32 :=
        ofDigits_digitsOf (Nat.lt_of_lt_of_eq (Nat.mod_lt _ (by decide)) (by decide))
      have small := bounded (bits.toNat % 2 ^ 32)
      rw [digitsOf_octets] at embedded small ⊢
      exact whole _ (ofDigits_mapped mapped embedded) _
        (readOctets_none_of_ends (ends_cons (by decide))) (readV6_mapped small)
    · have number : ofDigits 65536 (digitsOf 65536 8 bits.toNat) = bits.toNat :=
        ofDigits_digitsOf (Nat.lt_of_lt_of_eq bits.isLt (by decide))
      refine whole _ number _ (readOctets_none ?_)
        (readV6_displayGroups (length_digitsOf _ _ _) (digitsOf_lt (by decide)))
      unfold displayGroups
      dsimp only
      split
      · simp [dotless_fmtSubslice]
      · exact dotless_fmtSubslice _

end Addresses

end Scout.Wifi.IpAddr
