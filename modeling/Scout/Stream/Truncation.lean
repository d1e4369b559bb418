import Scout.Stream.Format

/-! Reads that recognise a cut: they need no more than they read, and say so where it is missing. -/

namespace Scout.Stream

open Cursor

variable {ε σ τ α β : Type} [Cursor σ τ]

/-- A read fails because fewer symbols were left than it needed. -/
def Lacks (short : Nat → Nat → ε) (result : EStateM.Result ε σ α) : Prop :=
  ∃ needed remaining, remaining < needed ∧ errorOf result = some (short needed remaining)

/-- Where a read succeeds it depends on the symbols it passes only, and it lacks any that are cut. -/
def Steady (short : Nat → Nat → ε) (read : EStateM ε σ α) : Prop :=
  ∀ place value after, read place = .ok value after → ∃ symbols : List τ,
    Passes symbols place after ∧
    (∀ other : σ, symbols <+: rest other → read other = .ok value (skip other symbols.length)) ∧
    ∀ other : σ, rest other <+: symbols → rest other ≠ symbols → Lacks short (read other)

/-- Where a read of a whole message succeeds, it notices symbols that are cut or added. -/
def Complete (short : Nat → Nat → ε) (trailing : Nat → ε) (read : EStateM ε σ α) : Prop :=
  ∀ place value after, read place = .ok value after →
    (∀ other : σ, rest other <+: rest place → rest other ≠ rest place → Lacks short (read other)) ∧
    ∀ (other : σ) (extra : List τ), extra ≠ [] → rest other = rest place ++ extra →
      errorOf (read other) = some (trailing extra.length)

variable {short : Nat → Nat → ε} {trailing : Nat → ε}

/-- What is lacking in the first part of a sequence is lacking in the sequence. -/
theorem Lacks.bind {first : EStateM ε σ β} {next : β → EStateM ε σ α} {place : σ}
    (lacks : Lacks short (first place)) : Lacks short ((first >>= next) place) := by
  -- The second part is not reached.
  obtain ⟨needed, remaining, fewer, failed⟩ := lacks
  exact ⟨needed, remaining, fewer, errorOf_first failed⟩

/-- A string that is shorter than the first of two parts is cut in that part. -/
theorem cut_cases {cut first second : List τ} (front : cut <+: first ++ second)
    (strict : cut ≠ first ++ second) :
    (cut <+: first ∧ cut ≠ first) ∨ ∃ tail, cut = first ++ tail ∧ tail <+: second ∧ tail ≠ second := by
  rcases List.prefix_or_prefix_of_prefix front (List.prefix_append first second) with before | behind
  · by_cases same : cut = first
    · -- The whole first part is there, and nothing of the second.
      refine .inr ⟨[], by rw [same, List.append_nil], List.nil_prefix, fun empty => strict ?_⟩
      rw [same, ← empty, List.append_nil]
    · exact .inl ⟨before, same⟩
  · obtain ⟨tail, rfl⟩ := behind
    exact .inr ⟨tail, rfl, (List.prefix_append_right_inj first).mp front,
      fun same => strict (by rw [same])⟩

section Rules

variable {first : EStateM ε σ β} {next : β → EStateM ε σ α}

/-- A value that is returned needs no symbols. -/
theorem steady_pure {value : α} : Steady short (pure value : EStateM ε σ α) := by
  -- Nothing is read.
  intro place result after found
  obtain ⟨rfl, rfl⟩ := pure_ok.mp found
  refine ⟨[], passes_nil.mpr rfl, fun other _ => ?_, fun other front strict => ?_⟩
  · rw [List.length_nil, skip_zero]
    rfl
  · exact absurd (List.prefix_nil.mp front) strict

/-- A read that always fails is never followed by a cut message. -/
theorem steady_throw {error : ε} : Steady short (throw error : EStateM ε σ α) := by
  intro place value after found
  cases found

/-- A read with a format is steady if it lacks what is cut from its layouts. -/
theorem Reads.steady {read : EStateM ε σ α} {Valid : α → Prop} {layout : α → List τ}
    (reads : Reads false read Valid layout)
    (lacking : ∀ value, Valid value → ∀ place : σ, rest place <+: layout value →
      rest place ≠ layout value → Lacks short (read place)) : Steady short read := by
  -- The symbols are those of the value's layout.
  intro place value after found
  obtain ⟨valid, passed, _⟩ := (reads _ _ _).mp found
  refine ⟨layout value, passed, fun other front => ?_, lacking value valid⟩
  exact (reads _ _ _).mpr ⟨valid, ⟨front, rfl⟩, by simp⟩

/-- A read of fixed width lacks whatever is cut from it. -/
theorem Fixed.steady {read : EStateM ε σ α} {Valid : α → Prop} {layout : α → List τ} {width : Nat}
    (fixed : Fixed width (short width) read) (reads : Reads false read Valid layout)
    (wide : ∀ value, Valid value → (layout value).length = width) : Steady short read := by
  -- Fewer symbols are left than the width.
  refine reads.steady fun value valid place front strict => ?_
  have fewer : (rest place).length < width := by
    rw [← wide value valid]
    refine Nat.lt_of_le_of_ne front.length_le fun same => strict (front.eq_of_length same)
  exact ⟨width, (rest place).length, fewer, fixed.lacking place fewer⟩

/-- A sequence of steady reads is steady. -/
theorem Steady.bind (steady : Steady short first) (continued : ∀ value, Steady short (next value)) :
    Steady short (first >>= next) := by
  -- The symbols of the two parts follow one another.
  intro place result after found
  obtain ⟨value, middle, begun, ended⟩ := bind_ok.mp found
  obtain ⟨front, passed, same, lacking⟩ := steady _ _ _ begun
  obtain ⟨back, passes, same', lacking'⟩ := continued value _ _ _ ended
  refine ⟨front ++ back, passes_append.mpr ⟨middle, passed, passes⟩, ?_, ?_⟩
  · intro other whole
    rw [bind_found (same other ((List.prefix_append _ _).trans whole))]
    rw [same' _ ?_, skip_skip, List.length_append]
    obtain ⟨tail, whole⟩ := whole
    rw [rest_skip, ← whole, List.append_assoc, List.drop_left]
    exact List.prefix_append _ _
  · intro other cut strict
    rcases cut_cases cut strict with ⟨early, shorter⟩ | ⟨tail, split, late, shorter⟩
    · exact (lacking other early shorter).bind
    · rw [bind_found (same other (split ▸ List.prefix_append _ _))]
      have left : rest (skip other front.length) = tail := by
        rw [rest_skip, split, List.drop_left]
      exact lacking' _ (left ▸ late) (left ▸ shorter)

/-- A whole message may begin with a steady read. -/
theorem Steady.complete (steady : Steady short first)
    (continued : ∀ value, Complete short trailing (next value)) :
    Complete short trailing (first >>= next) := by
  intro place result after found
  obtain ⟨value, middle, begun, ended⟩ := bind_ok.mp found
  obtain ⟨front, ⟨⟨back, whole⟩, rfl⟩, same, lacking⟩ := steady _ _ _ begun
  have left : rest (skip place front.length) = back := by rw [rest_skip, ← whole, List.drop_left]
  obtain ⟨cut, extended⟩ := continued value _ _ _ ended
  rw [left] at cut extended
  refine ⟨fun other early strict => ?_, fun other extra some_ more => ?_⟩
  · -- The cut is in the first part or behind it.
    rw [← whole] at early strict
    rcases cut_cases early strict with ⟨early, shorter⟩ | ⟨tail, split, late, shorter⟩
    · exact (lacking other early shorter).bind
    · rw [bind_found (same other (split ▸ List.prefix_append _ _))]
      have remains : rest (skip other front.length) = tail := by
        rw [rest_skip, split, List.drop_left]
      exact cut _ (remains ▸ late) (remains ▸ shorter)
  · -- The first part is read as before, and what is added stands behind the rest.
    rw [← whole, List.append_assoc] at more
    rw [bind_found (same other (more ▸ List.prefix_append _ _))]
    refine extended _ extra some_ ?_
    rw [rest_skip, more, List.drop_left]

/-- A read of a whole message that always fails accepts no message that could be cut. -/
theorem complete_throw {error : ε} : Complete short trailing (throw error : EStateM ε σ α) := by
  intro place value after found
  cases found

/-- So many values are read steadily if each of them is. -/
theorem Steady.readEach {read : EStateM ε σ α} (steady : Steady short read) (count : Nat) :
    Steady short (readEach read count) := by
  -- The induction is on the count.
  induction count with
  | zero => exact steady_pure
  | succ count ih => exact ih.bind fun values => steady.bind fun value => steady_pure

end Rules
end Scout.Stream
