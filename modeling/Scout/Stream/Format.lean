import Mathlib.Data.List.Basic

/-! Formats: which values a sequence of reads accepts, and how each of them is laid out. -/

namespace Scout.Stream

/-- A place in a string of symbols, from which reading moves forward. -/
class Cursor (σ : Type) (τ : outParam Type) where
  /-- What is still to be read. -/
  rest : σ → List τ
  /-- The place after so many symbols. -/
  skip : σ → Nat → σ
  rest_skip : ∀ place count, rest (skip place count) = (rest place).drop count
  skip_skip : ∀ place first second, skip (skip place first) second = skip place (first + second)
  skip_zero : ∀ place, skip place 0 = place

open Cursor

variable {ε σ τ α β : Type}

section Sequences

variable {before after : σ}

/-- A sequence of two reads succeeds exactly if both do. -/
theorem bind_ok {first : EStateM ε σ β} {next : β → EStateM ε σ α} {result : α} :
    (first >>= next) before = .ok result after ↔
      ∃ value between, first before = .ok value between ∧ next value between = .ok result after := by
  -- The first read either fails, and so does the sequence, or hands its value on.
  show EStateM.bind first next before = _ ↔ _
  unfold EStateM.bind
  cases first before with
  | ok value between => simp
  | error error between => simp

/-- A sequence fails where its first read does, or where the next one does after it. -/
theorem bind_error {first : EStateM ε σ β} {next : β → EStateM ε σ α} {problem : ε} :
    (first >>= next) before = .error problem after ↔
      first before = .error problem after ∨
        ∃ value between, first before = .ok value between ∧
          next value between = .error problem after := by
  -- The first read either fails, and so does the sequence, or hands its value on.
  show EStateM.bind first next before = _ ↔ _
  unfold EStateM.bind
  cases first before with
  | ok value between => simp
  | error error between => simp

/-- A sequence goes on from where its first read has succeeded. -/
theorem bind_found {first : EStateM ε σ β} {next : β → EStateM ε σ α} {value : β} {between : σ}
    (found : first before = .ok value between) : (first >>= next) before = next value between := by
  -- The first read hands its value on.
  show EStateM.bind first next before = _
  unfold EStateM.bind
  rw [found]

/-- A read that returns a value at once stays where it is. -/
theorem pure_ok {value result : α} :
    (pure value : EStateM ε σ α) before = .ok result after ↔ value = result ∧ before = after := by
  -- Both sides compare the two components.
  show EStateM.Result.ok value before = _ ↔ _
  rw [EStateM.Result.ok.injEq]

end Sequences

variable [Cursor σ τ] {before after : σ}

/-- Between two places there is exactly a given string of symbols. -/
def Passes (symbols : List τ) (before after : σ) : Prop :=
  symbols <+: rest before ∧ after = skip before symbols.length

/-- Nothing lies between a place and itself only. -/
theorem passes_nil : Passes ([] : List τ) before after ↔ after = before := by
  -- Moving by nothing stays in place.
  simp [Passes, skip_zero]

/-- Two strings lie between two places if the first reaches a place where the second begins. -/
theorem passes_append {first second : List τ} :
    Passes (first ++ second) before after ↔
      ∃ middle, Passes first before middle ∧ Passes second middle after := by
  -- The place in the middle is the one after the first string.
  constructor
  · rintro ⟨⟨rest', whole⟩, rfl⟩
    rw [List.append_assoc] at whole
    refine ⟨skip before first.length, ⟨⟨_, whole⟩, rfl⟩, ?_, ?_⟩
    · rw [rest_skip, ← whole, List.drop_left]
      exact List.prefix_append _ _
    · rw [skip_skip, List.length_append]
  · rintro ⟨middle, ⟨⟨rest', whole⟩, rfl⟩, front, rfl⟩
    rw [rest_skip, ← whole, List.drop_left] at front
    refine ⟨?_, by rw [skip_skip, List.length_append]⟩
    rw [← whole]
    exact (List.prefix_append_right_inj first).mpr front

/-- A read succeeds exactly on the layouts of valid values, the final one only at the end. -/
def Reads (final : Bool) (read : EStateM ε σ α) (Valid : α → Prop) (layout : α → List τ) : Prop :=
  ∀ before value after, read before = .ok value after ↔
    Valid value ∧ Passes (layout value) before after ∧ (final = true → rest after = [])

section Rules

variable {final : Bool} {read : EStateM ε σ α} {Valid : α → Prop} {layout : α → List τ}

/-- A format may be described in other words. -/
theorem Reads.congr {Valid' : α → Prop} {layout' : α → List τ}
    (reads : Reads final read Valid layout) (valid : ∀ value, Valid value ↔ Valid' value)
    (same : ∀ value, Valid' value → layout value = layout' value) :
    Reads final read Valid' layout' := by
  -- Only valid values have to be laid out alike.
  intro before value after
  rw [reads, valid value]
  refine and_congr_right fun holds => ?_
  rw [same value holds]

/-- A value that nothing is known about is described by the fields that are still to be read. -/
theorem Reads.whole {Rest Valid' : α → Prop} {layout' : α → List τ}
    (reads : Reads final read (fun value => True ∧ Rest value) layout)
    (valid : ∀ value, Rest value ↔ Valid' value)
    (same : ∀ value, Valid' value → layout value = layout' value) :
    Reads final read Valid' layout' :=
  reads.congr (fun value => (iff_of_eq (true_and _)).trans (valid value)) same

/-- A value all of whose fields are known is returned without reading on. -/
theorem reads_done {Known : α → Prop} {value : α} (determined : ∀ other, Known other ↔ other = value) :
    Reads false (pure value : EStateM ε σ α) (fun other => Known other ∧ True) fun _ => [] := by
  -- The place does not change.
  intro before other after
  simp only [pure_ok, determined, passes_nil]
  constructor
  · rintro ⟨rfl, rfl⟩
    exact ⟨⟨rfl, trivial⟩, rfl, nofun⟩
  · rintro ⟨⟨rfl, _⟩, rfl, _⟩
    exact ⟨rfl, rfl⟩

/-- A conversion that can be undone carries a format over. -/
theorem Reads.map {Own : β → Prop} {own : β → List τ} {first : EStateM ε σ β}
    (reads : Reads final first Own own) (convert : β → α) (undo : α → β)
    (undone : ∀ value, Own value → undo (convert value) = value) :
    Reads final (do let value ← first; return convert value)
      (fun value => Own (undo value) ∧ convert (undo value) = value)
      (fun value => own (undo value)) := by
  -- The value that was read is the one the conversion is undone to.
  intro before value after
  rw [bind_ok]
  constructor
  · rintro ⟨source, between, found, ends⟩
    obtain ⟨rfl, rfl⟩ := pure_ok.mp ends
    obtain ⟨valid, passed⟩ := (reads _ _ _).mp found
    have same := undone source valid
    exact ⟨⟨same.symm ▸ valid, congrArg convert same⟩, by dsimp only; rwa [same]⟩
  · rintro ⟨⟨valid, same⟩, passed⟩
    exact ⟨undo value, after, (reads _ _ _).mpr ⟨valid, passed⟩, pure_ok.mpr ⟨same, rfl⟩⟩

/-- A read that comes first contributes the part of the result that determines its own value. -/
theorem Reads.field {Known Rest : α → Prop} {Own : β → Prop} {own : β → List τ}
    {first : EStateM ε σ β} {next : β → EStateM ε σ α} (part : α → β)
    (firstReads : Reads false first Own own)
    (nextReads : ∀ value, Reads final (next value)
      (fun result => (Known result ∧ part result = value) ∧ Rest result) layout) :
    Reads final (first >>= next) (fun result => Known result ∧ Own (part result) ∧ Rest result)
      (fun result => own (part result) ++ layout result) := by
  -- The two layouts follow one another.
  intro before result after
  rw [bind_ok]
  constructor
  · rintro ⟨value, between, found, continued⟩
    obtain ⟨valid, passed, _⟩ := (firstReads _ _ _).mp found
    obtain ⟨⟨⟨known, rfl⟩, others⟩, passes, last⟩ := (nextReads _ _ _ _).mp continued
    exact ⟨⟨known, valid, others⟩, passes_append.mpr ⟨between, passed, passes⟩, last⟩
  · rintro ⟨⟨known, valid, others⟩, passes, last⟩
    obtain ⟨between, passed, passes⟩ := passes_append.mp passes
    exact ⟨part result, between, (firstReads _ _ _).mpr ⟨valid, passed, nofun⟩,
      (nextReads _ _ _ _).mpr ⟨⟨⟨known, rfl⟩, others⟩, passes, last⟩⟩

end Rules

/-- Why a read has failed, if it has. -/
def errorOf : EStateM.Result ε σ α → Option ε
  | .ok _ _ => none
  | .error error _ => some error

/-- A read of so many symbols, which fails only if they run out and reports how many are left. -/
structure Fixed (width : Nat) (short : Nat → ε) (read : EStateM ε σ α) : Prop where
  lacking : ∀ place : σ, (rest place).length < width →
    errorOf (read place) = some (short (rest place).length)
  enough : ∀ place : σ, width ≤ (rest place).length →
    ∃ value, read place = .ok value (skip place width)

section Failures

variable {width : Nat} {short : Nat → ε} {first : EStateM ε σ β} {next : β → EStateM ε σ α}

/-- A sequence fails as its first part does. -/
theorem errorOf_first {place : σ} {problem : ε} (failed : errorOf (first place) = some problem) :
    errorOf ((first >>= next) place) = some problem := by
  -- The second part is not reached.
  show errorOf (EStateM.bind first next place) = _
  unfold EStateM.bind
  cases found : first place with
  | ok value after => simp [found, errorOf] at failed
  | error error after => rwa [found] at failed

/-- Converting what was read changes neither the width nor the report. -/
theorem Fixed.map (fixed : Fixed width short first) (convert : β → α) :
    Fixed width short (do let value ← first; return convert value) where
  lacking place few := by
    -- The conversion is not reached.
    exact errorOf_first (fixed.lacking place few)
  enough place many := by
    -- The conversion stays in place.
    obtain ⟨value, found⟩ := fixed.enough place many
    refine ⟨convert value, ?_⟩
    rw [bind_ok]
    exact ⟨value, _, found, rfl⟩

/-- After a read of fixed width a sequence fails as its second part does there. -/
theorem Fixed.errorOf_bind (fixed : Fixed width short first) {place : σ} {problem : Option ε}
    (continued : width ≤ (rest place).length → ∀ value, first place = .ok value (skip place width) →
      errorOf (next value (skip place width)) = problem) :
    errorOf ((first >>= next) place) =
      if (rest place).length < width then some (short (rest place).length) else problem := by
  -- Either the first part fails, or it moves on by its width.
  by_cases few : (rest place).length < width
  · rw [if_pos few, errorOf_first (fixed.lacking place few)]
  · obtain ⟨value, found⟩ := fixed.enough place (Nat.not_lt.mp few)
    rw [if_neg few, bind_found found]
    exact continued (Nat.not_lt.mp few) value found

end Failures

section Repetition

/-- Read so many values one after another. -/
def readEach (read : EStateM ε σ α) : (count : Nat) → EStateM ε σ (Vector α count)
  | 0 => return #v[]
  | count + 1 => do
    let values ← readEach read count
    let value ← read
    return values.push value

/-- So many values are accepted as often as each of them is. -/
theorem reads_readEach {read : EStateM ε σ α} {Own : α → Prop} {own : α → List τ}
    (reads : Reads false read Own own) (count : Nat) :
    Reads false (readEach read count) (fun values => ∀ value ∈ values.toList, Own value)
      fun values => values.toList.flatMap own := by
  -- The induction is on the count, and the value read last stands at the end.
  induction count with
  | zero =>
    refine Reads.whole (reads_done fun values => ?_) (fun values => ?_) fun values _ => ?_
    · exact iff_of_true trivial Vector.eq_empty
    all_goals
      have empty : values = #v[] := Vector.eq_empty
      subst empty
      simp
  | succ count ih =>
    rw [readEach]
    have split (values : Vector α (count + 1)) :
        values.toList = values.pop.toList ++ [values.back] := by
      rw [← Vector.toList_push, Vector.push_pop_back]
    refine Reads.whole (Reads.field Vector.pop ih fun _ => Reads.field Vector.back reads
      fun _ => reads_done fun values => ?_) (fun values => ?_) fun values _ => ?_
    · constructor
      · intro known
        obtain ⟨⟨_, rfl⟩, rfl⟩ := known
        exact (Vector.push_pop_back values).symm
      · intro same
        subst same
        exact ⟨⟨trivial, Vector.pop_push⟩,
          Vector.back_eq_of_push_eq (Vector.push_pop_back _)⟩
    · rw [split, List.forall_mem_append, List.forall_mem_singleton, and_true]
    · rw [split, List.flatMap_append, List.flatMap_singleton, List.append_nil]

/-- Where enough symbols are left, values of a fixed width can be read. -/
theorem Fixed.readEach {width : Nat} {short : Nat → ε} {read : EStateM ε σ α}
    (fixed : Fixed width short read) {count : Nat} {place : σ}
    (enough : width * count ≤ (rest place).length) :
    ∃ values, readEach read count place = .ok values (skip place (width * count)) := by
  -- Each value moves on by its width.
  induction count with
  | zero => exact ⟨#v[], by rw [Nat.mul_zero, skip_zero]; rfl⟩
  | succ count ih =>
    rw [Nat.mul_succ] at enough ⊢
    obtain ⟨values, found⟩ := ih (by omega)
    obtain ⟨value, last⟩ := fixed.enough (skip place (width * count)) (by
      rw [rest_skip, List.length_drop]
      omega)
    refine ⟨values.push value, ?_⟩
    rw [skip_skip] at last
    rw [Stream.readEach, bind_ok]
    exact ⟨values, _, found, bind_ok.mpr ⟨value, _, last, rfl⟩⟩

end Repetition
end Scout.Stream
