import Mathlib.Data.List.Infix
import Mathlib.Data.List.TakeWhile
import Scout.Stream.Text

/-! The case of letters, and the white space around a text. -/

namespace Scout.Text

/-- A text with its ASCII capitals as small letters. -/
def toAsciiLowercase (text : Text) : Text :=
  text.map Char.toLower

/-- Whether a text has a pattern somewhere in it. -/
def containsText (text pattern : Text) : Bool :=
  decide (pattern <:+: text)

/-- Whether a character or a byte with this code is a hexadecimal digit. -/
def isAsciiHexdigit (code : Nat) : Bool :=
  (48 ≤ code && code ≤ 57) || (65 ≤ code && code ≤ 70) || (97 ≤ code && code ≤ 102)

/-- The white space in front of a text. -/
def leadingSpace (text : Text) : Text :=
  text.takeWhile isWhitespace

/-- The white space behind a text. -/
def trailingSpace (text : Text) : Text :=
  (text.reverse.takeWhile isWhitespace).reverse

/-- Only capitals are moved to small letters, all by the same distance. -/
theorem toNat_toLower (char : Char) :
    char.toLower.toNat = char.toNat ∧ ¬ (65 ≤ char.toNat ∧ char.toNat ≤ 90) ∨
      char.toLower.toNat = char.toNat + 32 ∧ 65 ≤ char.toNat ∧ char.toNat ≤ 90 := by
  -- The distance does not leave the range of codes.
  unfold Char.toLower
  split
  next capital =>
    obtain ⟨above, below⟩ := capital
    have low : 65 ≤ char.toNat := above
    have high : char.toNat ≤ 90 := below
    have moved : (char.val + 32).toNat = char.val.toNat + 32 := by
      rw [UInt32.toNat_add]
      exact Nat.mod_eq_of_lt (by change char.toNat + 32 < 4294967296; omega)
    exact .inr ⟨moved, low, high⟩
  next other =>
    exact .inl ⟨rfl, other⟩

/-- White space has no case. -/
theorem isWhitespace_toLower (char : Char) : isWhitespace char.toLower = isWhitespace char := by
  -- No letter is white space.
  have moved := toNat_toLower char
  rw [Bool.eq_iff_iff]
  simp only [isWhitespace, Bool.or_eq_true, Bool.and_eq_true, decide_eq_true_eq, beq_iff_eq]
  omega

/-- A text that is not all white space is what is left of it between its white space. -/
theorem space_trim_space {text : Text} (some_ : text.trim ≠ []) :
    text.leadingSpace ++ text.trim ++ text.trailingSpace = text := by
  -- Without the space in front there is the same space behind.
  have split : text.leadingSpace ++ text.dropWhile isWhitespace = text :=
    List.takeWhile_append_dropWhile
  have behind : text.trailingSpace =
      ((text.dropWhile isWhitespace).reverse.takeWhile isWhitespace).reverse := by
    have turned : text.reverse =
        (text.dropWhile isWhitespace).reverse ++ text.leadingSpace.reverse := by
      rw [← List.reverse_append, split]
    rw [trailingSpace, turned, List.takeWhile_append, if_neg]
    intro whole
    refine some_ ?_
    rw [trim, List.reverse_eq_nil_iff, List.dropWhile_eq_nil_iff]
    exact List.takeWhile_eq_self_iff.mp ((List.takeWhile_prefix _).eq_of_length whole)
  rw [List.append_assoc, behind, trim, ← List.reverse_append, List.takeWhile_append_dropWhile,
    List.reverse_reverse, split]

/-- The space in front of a text is white. -/
theorem space_of_mem_leadingSpace (text : Text) :
    ∀ char ∈ text.leadingSpace, isWhitespace char = true :=
  fun _ member => List.mem_takeWhile_imp member

/-- The space behind a text is white. -/
theorem space_of_mem_trailingSpace (text : Text) :
    ∀ char ∈ text.trailingSpace, isWhitespace char = true :=
  fun _ member => List.mem_takeWhile_imp (List.mem_reverse.mp member)

/-- White space is in no pattern without it, also in small letters. -/
theorem absent_of_space {text pattern : Text} (space : ∀ char ∈ text, isWhitespace char = true)
    (dense : ∀ char ∈ pattern, isWhitespace char = false) :
    ∀ char ∈ text.toAsciiLowercase, char ∉ pattern := by
  -- What is white in small letters was white before.
  intro char member inside
  obtain ⟨capital, source, rfl⟩ := List.mem_map.mp member
  have white := dense _ inside
  rw [isWhitespace_toLower, space capital source] at white
  cases white

end Scout.Text
