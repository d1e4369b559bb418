import Scout.Stream.Text

/-! Where a text is taken apart, and that its parts make up the text. -/

namespace Scout.Text

section Once

variable {separator : Char} {text before after : Text}

/-- What follows a prefix is what is left of the text behind it. -/
theorem stripPrefix_eq_some {first rest : Text} :
    stripPrefix text first = some rest ↔ text = first ++ rest := by
  -- Either the text begins so, or nothing is left.
  unfold stripPrefix
  by_cases begins : first.isPrefixOf text = true
  · rw [if_pos begins]
    obtain ⟨behind, rfl⟩ := List.isPrefixOf_iff_prefix.mp begins
    simp
  · rw [if_neg begins]
    refine iff_of_false nofun fun same => begins ?_
    rw [same]
    exact List.isPrefixOf_iff_prefix.mpr (List.prefix_append first rest)

/-- A text is split once around the first occurrence of the separator. -/
theorem splitOnce_eq_some :
    splitOnce separator text = some (before, after) ↔
      text = before ++ separator :: after ∧ separator ∉ before := by
  -- The induction passes the characters before the separator one by one.
  induction text generalizing before with
  | nil => simp [splitOnce]
  | cons char rest ih =>
    rw [splitOnce]
    by_cases here : char = separator
    · subst here
      rw [if_pos rfl]
      cases before with
      | nil => simp [eq_comm]
      | cons first others =>
        refine iff_of_false (by simp) fun both => both.2 ?_
        rw [(List.cons.inj both.1).1]
        exact List.mem_cons_self
    · rw [if_neg here]
      cases before with
      | nil =>
        refine iff_of_false (by simp) fun both => here (List.cons.inj both.1).1
      | cons first others =>
        simp only [Option.map_eq_some_iff, Prod.exists, Prod.mk.injEq, List.cons.injEq,
          List.cons_append, List.mem_cons, not_or]
        constructor
        · intro found
          obtain ⟨start, tail, split, ⟨same, rfl⟩, rfl⟩ := found
          obtain ⟨whole, absent⟩ := ih.mp split
          exact ⟨⟨same, whole⟩, fun equal => here (same.trans equal.symm), absent⟩
        · intro both
          obtain ⟨⟨same, whole⟩, _, absent⟩ := both
          exact ⟨others, after, ih.mpr ⟨whole, absent⟩, ⟨same, rfl⟩, rfl⟩

/-- A text is not split without the separator. -/
theorem splitOnce_eq_none : splitOnce separator text = none ↔ separator ∉ text := by
  -- The first character is the separator, or it is passed.
  induction text with
  | nil => simp [splitOnce]
  | cons char rest ih =>
    rw [splitOnce]
    by_cases here : char = separator
    · simp [here]
    · rw [if_neg here, Option.map_eq_none_iff, ih, List.mem_cons, not_or]
      exact (and_iff_right (Ne.symm here)).symm

/-- A text is split once around the last occurrence of the separator. -/
theorem rsplitOnce_eq_some :
    rsplitOnce separator text = some (before, after) ↔
      text = before ++ separator :: after ∧ separator ∉ after := by
  -- The last occurrence is the first one from behind.
  simp only [rsplitOnce, Option.map_eq_some_iff, Prod.exists, splitOnce_eq_some, Prod.mk.injEq]
  constructor
  · intro found
    obtain ⟨start, tail, ⟨whole, absent⟩, rfl, rfl⟩ := found
    refine ⟨?_, by simpa using absent⟩
    have turned := congrArg List.reverse whole
    simpa using turned
  · intro both
    obtain ⟨rfl, absent⟩ := both
    exact ⟨after.reverse, before.reverse, ⟨by simp, by simpa using absent⟩, by simp, by simp⟩

end Once

section Split

variable {pattern opened part rest : Text}

/-- A text in which the pattern is not completed is added to the part that has been begun. -/
theorem splitFrom_skip
    (open_ : ∀ count, count ≤ part.length → ¬ pattern <:+ opened ++ part.take count) :
    splitFrom pattern opened (part ++ rest) = splitFrom pattern (opened ++ part) rest := by
  -- The induction is on the text that is added.
  induction part generalizing opened with
  | nil => rw [List.append_nil, List.nil_append]
  | cons char others ih =>
    have incomplete : ¬ pattern.isSuffixOf (opened ++ [char]) = true := fun suffix =>
      open_ 1 (by simp) (by simpa using List.isSuffixOf_iff_suffix.mp suffix)
    rw [List.cons_append, splitFrom, if_neg incomplete, ih, List.append_assoc,
      List.singleton_append]
    intro count within
    have longer := open_ (count + 1) (by simpa using within)
    rwa [List.take_succ_cons, ← List.singleton_append, ← List.append_assoc] at longer

/-- Nothing that ends before the pattern does has the pattern at its end. -/
theorem not_suffix_of_disjoint (disjoint : ∀ char ∈ pattern, char ∉ part) {begun : Text}
    (short : begun.length < pattern.length) : ¬ pattern <:+ part ++ begun := by
  -- The pattern would begin within the part.
  intro suffix
  obtain ⟨front, whole⟩ := suffix
  cases pattern with
  | nil => simp at short
  | cons first others =>
    have lengths := congrArg List.length whole
    simp only [List.length_append, List.length_cons] at lengths short
    have place : (part ++ begun)[front.length]? = some first := by
      rw [← whole]
      simp
    rw [List.getElem?_append_left (by omega)] at place
    exact disjoint first List.mem_cons_self (List.mem_of_getElem? place)

/-- In a part and less than the pattern after it, the pattern is never completed. -/
theorem splitFrom_incomplete (disjoint : ∀ char ∈ pattern, char ∉ part) {begun : Text}
    (short : begun.length < pattern.length) :
    splitFrom pattern [] (part ++ begun ++ rest) = splitFrom pattern (part ++ begun) rest := by
  -- Whatever has been read, it ends with less than the pattern.
  rw [splitFrom_skip, List.nil_append]
  intro count _
  rw [List.nil_append, List.take_append]
  apply not_suffix_of_disjoint
  · exact fun char inside member => disjoint char inside (List.mem_of_mem_take member)
  · rw [List.length_take]
    omega

/-- A part is split off where the pattern first occurs. -/
theorem split_append (nonempty : pattern ≠ []) (disjoint : ∀ char ∈ pattern, char ∉ part) :
    split (part ++ pattern ++ rest) pattern = part :: split rest pattern := by
  obtain ⟨most, last, whole⟩ := List.eq_nil_or_concat pattern |>.resolve_left nonempty
  rw [List.concat_eq_append] at whole
  subst whole
  -- Only the last character of the pattern completes it.
  have spelled : part ++ (most ++ [last]) ++ rest = part ++ most ++ last :: rest := by simp
  have complete : (most ++ [last]).isSuffixOf (part ++ most ++ [last]) = true := by
    rw [List.isSuffixOf_iff_suffix, List.append_assoc]
    exact List.suffix_append part _
  have before : (part ++ most ++ [last]).take
      ((part ++ most ++ [last]).length - (most ++ [last]).length) = part := by
    have lengths : (part ++ most ++ [last]).length - (most ++ [last]).length = part.length := by
      simp only [List.length_append]
      omega
    rw [lengths, List.append_assoc, List.take_left]
  unfold split
  rw [spelled, splitFrom_incomplete disjoint (by simp), splitFrom, if_pos complete, before]

/-- A text without the characters of the pattern is its only part. -/
theorem split_of_disjoint (nonempty : pattern ≠ []) (disjoint : ∀ char ∈ pattern, char ∉ part) :
    split part pattern = [part] := by
  -- The end of the text is reached in the first part.
  have reached := @splitFrom_incomplete _ _ [] disjoint [] (List.length_pos_iff.mpr nonempty)
  rw [List.append_nil, List.append_nil] at reached
  rw [split, reached, splitFrom]

/-- Parts that are joined by the pattern are found again. -/
theorem split_intercalate (nonempty : pattern ≠ []) {parts : List Text} (some_ : parts ≠ [])
    (disjoint : ∀ part ∈ parts, ∀ char ∈ pattern, char ∉ part) :
    split (pattern.intercalate parts) pattern = parts := by
  -- One part after another is split off.
  induction parts with
  | nil => exact absurd rfl some_
  | cons first others ih =>
    have firstDisjoint := disjoint first List.mem_cons_self
    cases others with
    | nil =>
      rw [List.intercalate_singleton]
      exact split_of_disjoint nonempty firstDisjoint
    | cons second rest =>
      rw [List.intercalate_cons_cons, split_append nonempty firstDisjoint,
        ih (by simp) fun part member => disjoint part (List.mem_cons_of_mem _ member)]

end Split

section Decimal

/-- Digits are read after those before them. -/
theorem digitsFrom_append (radix value : Nat) (first second : Text) :
    digitsFrom radix value (first ++ second) =
      (digitsFrom radix value first).bind fun read => digitsFrom radix read second := by
  -- The induction is on the digits that are read first.
  induction first generalizing value with
  | nil => rfl
  | cons char rest ih =>
    rw [List.cons_append, digitsFrom, digitsFrom]
    cases toDigit radix char with
    | none => rfl
    | some digit => exact ih _

/-- A decimal digit stands for its number. -/
theorem toDigit_digitChar {digit : Nat} (small : digit < 10) :
    toDigit 10 digit.digitChar = some digit := by
  -- There are ten of them.
  have all : ∀ digit : Fin 10, toDigit 10 digit.val.digitChar = some digit.val := by decide
  exact all ⟨digit, small⟩

/-- The decimal digits of a number denote it. -/
theorem digitsFrom_toDigits (number : Nat) :
    digitsFrom 10 0 (Nat.toDigits 10 number) = some number := by
  -- The induction is on the number, whose last digit is its remainder.
  induction number using Nat.strongRecOn with
  | _ number ih =>
    rw [Nat.toDigits_eq_if (by decide)]
    by_cases small : number < 10
    · rw [if_pos small, digitsFrom, toDigit_digitChar small]
      simp [digitsFrom]
    · have smaller : number / 10 < number := by omega
      rw [if_neg small, digitsFrom_append, ih _ smaller, Option.bind_some, digitsFrom,
        toDigit_digitChar (Nat.mod_lt _ (by decide))]
      simp only [Option.bind_some, digitsFrom]
      congr 1
      omega

/-- A number is read back from its text. -/
theorem parseDigits_toString (number : Nat) :
    parseDigits (toString number).toList = some number := by
  -- The text has at least one digit.
  have digits : (toString number).toList = Nat.toDigits 10 number := by
    rw [Nat.toString_eq_ofList_toDigits, String.toList_ofList]
  have some_ : (Nat.toDigits 10 number).isEmpty = false := by
    rw [List.isEmpty_eq_false_iff]
    exact Nat.toDigits_ne_nil
  rw [parseDigits, digits, some_, if_neg Bool.false_ne_true]
  exact digitsFrom_toDigits number

/-- The text of a number has nothing but digits. -/
theorem isDigit_of_mem_toString {number : Nat} {char : Char}
    (member : char ∈ (toString number).toList) : char.isDigit = true := by
  -- All its characters are decimal digits.
  rw [Nat.toString_eq_ofList_toDigits, String.toList_ofList] at member
  exact Nat.isDigit_of_mem_toDigits (by decide) (by decide) member

/-- The number that decimal digits denote behind a number that is already given. -/
def decimalFrom (value : Nat) (digits : Text) : Nat :=
  digits.foldl (fun value digit => value * 10 + (digit.toNat - 48)) value

/-- A character is a decimal digit exactly if it stands for one. -/
theorem toDigit_ten {char : Char} {digit : Nat} :
    toDigit 10 char = some digit ↔ char.isDigit = true ∧ digit = char.toNat - 48 := by
  -- Both look at the code of the character, and letters stand for more than nine.
  have code : char.isDigit = true ↔ 48 ≤ char.toNat ∧ char.toNat ≤ 57 := by
    simp only [Char.isDigit, Bool.and_eq_true, decide_eq_true_eq]
    rfl
  rw [code]
  unfold toDigit
  dsimp only
  split_ifs <;> simp only [Option.some.injEq, false_iff, not_and] <;> omega

/-- A text is read to its end exactly if it consists of digits, and as the number they denote. -/
theorem digitsFrom_eq_some {digits : Text} {value number : Nat} :
    digitsFrom 10 value digits = some number ↔
      (∀ digit ∈ digits, digit.isDigit = true) ∧ number = decimalFrom value digits := by
  -- The induction is on the digits, the first of which is added to the number so far.
  induction digits generalizing value with
  | nil =>
    rw [digitsFrom, Option.some.injEq]
    exact ⟨fun same => ⟨List.forall_mem_nil _, same.symm⟩, fun both => both.2.symm⟩
  | cons digit digits ih =>
    rw [digitsFrom, Option.bind_eq_some_iff, List.forall_mem_cons]
    constructor
    · intro found
      obtain ⟨first, known, rest⟩ := found
      obtain ⟨kind, rfl⟩ := toDigit_ten.mp known
      obtain ⟨kinds, same⟩ := ih.mp rest
      exact ⟨⟨kind, kinds⟩, same⟩
    · intro found
      obtain ⟨⟨kind, kinds⟩, same⟩ := found
      exact ⟨_, toDigit_ten.mpr ⟨kind, rfl⟩, ih.mpr ⟨kinds, same⟩⟩

/-- Digits that denote a number. -/
structure Decimal (digits : Text) (number : Nat) : Prop where
  some : digits ≠ []
  kinds : ∀ digit ∈ digits, digit.isDigit = true
  denotes : number = decimalFrom 0 digits

/-- A number is read from its digits, and from nothing else. -/
theorem parseDigits_eq_some {digits : Text} {number : Nat} :
    parseDigits digits = some number ↔ Decimal digits number := by
  -- Without any digits there is no number.
  unfold parseDigits
  by_cases empty : digits.isEmpty = true
  · rw [if_pos empty]
    exact iff_of_false (fun same => by cases same) fun decimal =>
      decimal.some (List.isEmpty_iff.mp empty)
  · rw [if_neg empty, digitsFrom_eq_some]
    constructor
    · exact fun both => ⟨fun none => empty (List.isEmpty_iff.mpr none), both.1, both.2⟩
    · exact fun decimal => ⟨decimal.kinds, decimal.denotes⟩

/-- Digits behind a plus sign, or without one. -/
def Signed (text : Text) (number : Nat) : Prop :=
  ∃ digits, (text = digits ∨ text = '+' :: digits) ∧ Decimal digits number

/-- An unsigned number is read from digits that fit its width, with or without a plus sign. -/
theorem parseUnsigned_eq_some {bits : Nat} {text : Text} {number : Nat} :
    parseUnsigned bits text = some number ↔ Signed text number ∧ number < 2 ^ bits := by
  unfold parseUnsigned
  rw [Option.filter_eq_some_iff, parseDigits_eq_some, decide_eq_true_eq]
  refine and_congr_left fun _ => ?_
  -- No digit is a plus sign, so at most one reading is possible.
  cases text with
  | nil =>
    rw [if_neg (by simp)]
    constructor
    · exact fun decimal => ⟨[], .inl rfl, decimal⟩
    · intro signed
      obtain ⟨digits, rfl | same, decimal⟩ := signed
      · exact decimal
      · cases same
  | cons first rest =>
    by_cases plus : first = '+'
    · subst plus
      rw [if_pos List.head?_cons, List.tail_cons]
      constructor
      · exact fun decimal => ⟨rest, .inr rfl, decimal⟩
      · intro signed
        obtain ⟨digits, rfl | same, decimal⟩ := signed
        · exact absurd (decimal.kinds '+' List.mem_cons_self) (by decide)
        · cases same
          exact decimal
    · rw [if_neg (by simpa using plus)]
      constructor
      · exact fun decimal => ⟨_, .inl rfl, decimal⟩
      · intro signed
        obtain ⟨digits, rfl | same, decimal⟩ := signed
        · exact decimal
        · cases same
          exact absurd rfl plus

end Decimal
end Scout.Text
