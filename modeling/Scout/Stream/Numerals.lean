import Scout.Stream.TextParts

/-! Numbers written to any base whose digits are decimal digits and letters. -/

namespace Scout.Text

/-- A character that stands for a digit to base sixteen does so to every base above the digit. -/
theorem toDigit_of_sixteen {radix digit : Nat} {char : Char}
    (sixteen : toDigit 16 char = some digit) (small : digit < radix) :
    toDigit radix char = some digit := by
  -- Which digit it is does not depend on the base.
  unfold toDigit at sixteen ⊢
  dsimp only at sixteen ⊢
  split_ifs at sixteen ⊢ <;> simp only [Option.some.injEq] at sixteen ⊢ <;> omega

/-- A digit is read back from its character. -/
theorem toDigit_digitChar_of_lt {radix digit : Nat} (most : radix ≤ 16) (small : digit < radix) :
    toDigit radix digit.digitChar = some digit := by
  -- There are sixteen of them.
  have all : ∀ digit : Fin 16, toDigit 16 digit.val.digitChar = some digit.val := by decide
  exact toDigit_of_sixteen (all ⟨digit, by omega⟩) small

section Radix

variable {radix : Nat} (base : 1 < radix) (most : radix ≤ 16)
include base most

/-- The digits of a number denote it. -/
theorem digitsFrom_toDigits_radix (number : Nat) :
    digitsFrom radix 0 (Nat.toDigits radix number) = some number := by
  -- The induction is on the number, whose last digit is its remainder.
  induction number using Nat.strongRecOn with
  | _ number ih =>
    rw [Nat.toDigits_eq_if base]
    by_cases small : number < radix
    · rw [if_pos small, digitsFrom, toDigit_digitChar_of_lt most small]
      simp [digitsFrom]
    · have smaller : number / radix < number := Nat.div_lt_self (by omega) base
      rw [if_neg small, digitsFrom_append, ih _ smaller, Option.bind_some, digitsFrom,
        toDigit_digitChar_of_lt most (Nat.mod_lt _ (by omega)), Option.bind_some, digitsFrom,
        Nat.mul_comm, Nat.div_add_mod]

/-- A number is written in digits only. -/
theorem isSome_toDigit_of_mem_toDigits {number : Nat} {char : Char}
    (member : char ∈ Nat.toDigits radix number) : (toDigit radix char).isSome = true := by
  -- Reading the digits would fail at any other character.
  have whole := digitsFrom_toDigits_radix base most number
  obtain ⟨first, rest, same⟩ := List.append_of_mem member
  rw [same, digitsFrom_append] at whole
  obtain ⟨value, _, onwards⟩ := Option.bind_eq_some_iff.mp whole
  obtain ⟨digit, found, _⟩ := Option.bind_eq_some_iff.mp onwards
  rw [found]
  rfl

/-- Only zero is written with a leading zero. -/
theorem toDigits_head {number : Nat} (zero : (Nat.toDigits radix number).head? = some '0') :
    number = 0 := by
  -- The first digit is that of the quotients.
  induction number using Nat.strongRecOn with
  | _ number ih =>
    rw [Nat.toDigits_eq_if base] at zero
    by_cases small : number < radix
    · rw [if_pos small, List.head?_cons, Option.some.injEq] at zero
      have digit := toDigit_digitChar_of_lt most small
      have none : toDigit radix '0' = some 0 := toDigit_of_sixteen (by decide) (by omega)
      rw [zero, none] at digit
      exact (Option.some.inj digit).symm
    · rw [if_neg small, List.head?_append_of_ne_nil _ Nat.toDigits_ne_nil] at zero
      have smaller : number / radix < number := Nat.div_lt_self (by omega) base
      have quotient := ih _ smaller zero
      rcases Nat.div_eq_zero_iff.mp quotient with none | less
      · omega
      · omega

end Radix

end Scout.Text
