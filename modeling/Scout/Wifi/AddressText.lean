import Mathlib.Data.List.TakeWhile
import Scout.Wifi.Address

/-! Which characters the text of an address of the newer version is made of. -/

namespace Scout.Wifi.IpAddr

/-- A hexadecimal digit, a colon or a dot. -/
def IsAddressChar (char : Char) : Prop :=
  (Text.toDigit 16 char).isSome = true ∨ char = ':' ∨ char = '.'

instance : DecidablePred IsAddressChar := fun char =>
  inferInstanceAs (Decidable ((Text.toDigit 16 char).isSome = true ∨ char = ':' ∨ char = '.'))

/-- What is left of a text behind characters of addresses. -/
def LeftOf (text rest : Text) : Prop :=
  ∃ used, text = used ++ rest ∧ ∀ char ∈ used, IsAddressChar char

/-- A reader takes nothing but characters of addresses from the front of a text. -/
def Consumes {α : Type} (reader : Reader α) : Prop :=
  ∀ text value rest, reader text = some (value, rest) → LeftOf text rest

section Characters

variable {text middle rest : Text}

/-- Nothing needs to be taken. -/
theorem LeftOf.refl (text : Text) : LeftOf text text :=
  ⟨[], rfl, List.forall_mem_nil _⟩

/-- More may be taken from what is left. -/
theorem LeftOf.trans (first : LeftOf text middle) (second : LeftOf middle rest) :
    LeftOf text rest := by
  -- What is taken stands one after the other.
  obtain ⟨used, rfl, kinds⟩ := first
  obtain ⟨more, rfl, others⟩ := second
  exact ⟨used ++ more, by rw [List.append_assoc], List.forall_mem_append.mpr ⟨kinds, others⟩⟩

/-- Where all is taken, a text consists of characters of addresses. -/
theorem LeftOf.all (whole : LeftOf text []) : ∀ char ∈ text, IsAddressChar char := by
  obtain ⟨used, rfl, kinds⟩ := whole
  rwa [List.append_nil]

/-- A decimal digit is a hexadecimal digit. -/
theorem toDigit_isSome_of_decimal {char : Char} (decimal : (Text.toDigit 10 char).isSome = true) :
    (Text.toDigit 16 char).isSome = true := by
  -- The digit is smaller than ten, so it is smaller than sixteen.
  unfold Text.toDigit at decimal ⊢
  dsimp only at decimal ⊢
  split_ifs at decimal ⊢ <;> first | rfl | omega

/-- A given character is taken if it is one of addresses. -/
theorem leftOf_readGivenChar {expected : Char} (kind : IsAddressChar expected)
    (found : readGivenChar expected text = some rest) : LeftOf text rest := by
  -- The character that is read belongs to an address.
  cases text with
  | nil => cases found
  | cons char others =>
    rw [readGivenChar] at found
    by_cases same : char = expected
    · rw [if_pos same] at found
      cases found
      exact ⟨[char], rfl, List.forall_mem_singleton.mpr (same ▸ kind)⟩
    · rw [if_neg same] at found
      cases found

/-- The colon is a character of addresses. -/
theorem isAddressChar_colon : IsAddressChar ':' := .inr (.inl rfl)

/-- The dot is a character of addresses. -/
theorem isAddressChar_dot : IsAddressChar '.' := .inr (.inr rfl)

end Characters

section Readers

variable {α : Type}

/-- A separator is taken with what follows it. -/
theorem consumes_readSeparator {separator : Char} (kind : IsAddressChar separator) (index : Nat)
    {inner : Reader α} (consumes : Consumes inner) :
    Consumes (readSeparator separator index inner) := by
  -- The first value has none in front.
  intro text value rest found
  unfold readSeparator at found
  by_cases later : 0 < index
  · rw [if_pos later] at found
    obtain ⟨middle, separated, read⟩ := Option.bind_eq_some_iff.mp found
    exact (leftOf_readGivenChar kind separated).trans (consumes middle value rest read)
  · rw [if_neg later] at found
    exact consumes text value rest found

/-- A number is taken with all its digits. -/
theorem consumes_readNumber {radix : Nat}
    (digits : ∀ char, (Text.toDigit radix char).isSome = true → IsAddressChar char)
    (maxDigits bound : Nat) (allowZeroPrefix : Bool) :
    Consumes (readNumber radix maxDigits bound allowZeroPrefix) := by
  -- The digits are those at the front.
  intro text value rest found
  unfold readNumber at found
  dsimp only at found
  split at found
  · cases found
  split at found
  · cases found
  obtain ⟨number, _, same⟩ := Option.map_eq_some_iff.mp found
  cases same
  refine ⟨text.takeWhile fun char => (Text.toDigit radix char).isSome, ?_, fun char member => ?_⟩
  · exact (List.prefix_iff_eq_append.mp (List.takeWhile_prefix _)).symm
  · have taken := List.mem_takeWhile_imp (p := fun char => (Text.toDigit radix char).isSome) member
    exact digits char taken

/-- Octets are taken one after another. -/
theorem consumes_readOctets : Consumes readOctets := by
  -- The induction is on the places of the octets.
  have general : ∀ (places : List Nat) (octets result : List Nat) (text rest : Text),
      places.foldlM (fun (state : List Nat × Text) index => do
        let read ← readSeparator '.' index (readNumber 10 3 256 false) state.2
        return (state.1 ++ [read.1], read.2)) (octets, text) = some (result, rest) →
      LeftOf text rest := by
    intro places
    induction places with
    | nil =>
      intro octets result text rest found
      cases found
      exact LeftOf.refl _
    | cons place places ih =>
      intro octets result text rest found
      rw [List.foldlM_cons] at found
      obtain ⟨state, step, others⟩ := Option.bind_eq_some_iff.mp found
      obtain ⟨read, octet, same⟩ := Option.bind_eq_some_iff.mp step
      cases same
      have decimal := consumes_readNumber
        (fun char decimal => .inl (toDigit_isSome_of_decimal decimal)) 3 256 false
      have first := consumes_readSeparator isAddressChar_dot place decimal _ read.1 read.2 octet
      exact first.trans (ih _ _ _ _ others)
  exact fun text value rest found => general _ _ _ _ _ found

/-- Groups are taken one after another, and perhaps octets behind them. -/
theorem leftOf_readGroups (limit left : Nat) (groups : List Nat) (text : Text) :
    LeftOf text (readGroups limit left groups text).2.2 := by
  -- The induction is on the number of groups that may follow.
  induction left generalizing groups text with
  | zero => exact LeftOf.refl _
  | succ left ih =>
    unfold readGroups
    dsimp only
    split
    · rename_i octets rest found
      split at found
      · exact consumes_readSeparator isAddressChar_colon _ consumes_readOctets _ _ _ found
      · cases found
    · split
      · rename_i group rest found
        have hexadecimal := consumes_readNumber (fun char digit => .inl digit) 4 65536 true
        have first := consumes_readSeparator isAddressChar_colon _ hexadecimal _ _ _ found
        exact first.trans (ih _ rest)
      · exact LeftOf.refl _

/-- An address is taken with its groups and the colons between them. -/
theorem consumes_readV6 : Consumes readV6 := by
  intro text value rest found
  have head := leftOf_readGroups 8 8 [] text
  unfold readV6 at found
  dsimp only at found
  split at found
  · cases found
    exact head
  split at found
  · cases found
  -- Behind two colons there may be more groups.
  obtain ⟨middle, first, found⟩ := Option.bind_eq_some_iff.mp found
  obtain ⟨behind, second, found⟩ := Option.bind_eq_some_iff.mp found
  cases found
  exact (head.trans (leftOf_readGivenChar isAddressChar_colon first)).trans
    ((leftOf_readGivenChar isAddressChar_colon second).trans (leftOf_readGroups _ _ _ _))

/-- The text of an address has nothing but hexadecimal digits, colons and dots. -/
theorem isAddressChar_of_parseV6 {text : Text} (address : (parseV6 text).isSome = true) :
    ∀ char ∈ text, IsAddressChar char := by
  -- The reader leaves nothing.
  obtain ⟨ip, found⟩ := Option.isSome_iff_exists.mp address
  obtain ⟨read, taken, whole⟩ := Option.bind_eq_some_iff.mp found
  obtain ⟨value, rest⟩ := read
  cases rest with
  | nil => exact (consumes_readV6 text value [] taken).all
  | cons char others => cases whole

end Readers

end Scout.Wifi.IpAddr
