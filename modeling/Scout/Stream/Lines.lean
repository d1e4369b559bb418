import Mathlib.Data.List.Basic

/-! Cutting a stream into delimited lines of bounded length. -/

namespace Scout.Stream

variable {α : Type} [DecidableEq α]

/-- The first line of a buffer, delimiter included, and what follows it. -/
def takeLine (delimiter : α) : List α → Option (List α × List α)
  | [] => none
  | symbol :: rest =>
    if symbol = delimiter then some ([symbol], rest)
    else (takeLine delimiter rest).map fun parts => (symbol :: parts.1, parts.2)

/-- A line is a body without the delimiter, closed by the delimiter. -/
def IsLine (delimiter : α) (line : List α) : Prop :=
  ∃ body, line = body ++ [delimiter] ∧ delimiter ∉ body

/-- No line can be taken exactly when the delimiter does not occur. -/
theorem takeLine_none {delimiter : α} {buffer : List α} :
    takeLine delimiter buffer = none ↔ delimiter ∉ buffer := by
  -- The search walks the buffer until the first delimiter.
  induction buffer with
  | nil => simp [takeLine]
  | cons symbol rest ih =>
    by_cases same : symbol = delimiter
    · simp [takeLine, same]
    · simp [takeLine, same, ih, Ne.symm same]

/-- Taking a line splits the buffer after its first delimiter. -/
theorem takeLine_some {delimiter : α} {buffer line rest : List α}
    (taken : takeLine delimiter buffer = some (line, rest)) :
    buffer = line ++ rest ∧ IsLine delimiter line := by
  -- Symbols before the delimiter are moved to the line one at a time.
  induction buffer generalizing line with
  | nil => simp [takeLine] at taken
  | cons symbol others ih =>
    by_cases same : symbol = delimiter
    · simp only [takeLine, same, if_true, Option.some.injEq, Prod.mk.injEq] at taken
      obtain ⟨rfl, rfl⟩ := taken
      exact ⟨by simp [same], [], rfl, by simp⟩
    · simp only [takeLine, same, if_false, Option.map_eq_some_iff] at taken
      obtain ⟨⟨head, tail⟩, found, equal⟩ := taken
      simp only [Prod.mk.injEq] at equal
      obtain ⟨rfl, rfl⟩ := equal
      obtain ⟨split, body, closed, free⟩ := ih found
      refine ⟨by simp [split], symbol :: body, by simp [closed], ?_⟩
      simp [free, Ne.symm same]

/-- What a bounded line reader finds in a stream. -/
structure Frames (α : Type) where
  /-- The complete lines, in order. -/
  lines : List (List α)
  /-- The unterminated rest, or nothing when an overlong line stops the reader. -/
  tail : Option (List α)

/-- Read symbol by symbol, giving up when a symbol would make the open line overlong. -/
def framesFrom (limit : Nat) (delimiter : α) : List α → List α → Frames α
  | opened, [] => { lines := [], tail := some opened }
  | opened, symbol :: rest =>
    if limit ≤ opened.length then { lines := [], tail := none }
    else if symbol = delimiter then
      let after := framesFrom limit delimiter [] rest
      { after with lines := (opened ++ [symbol]) :: after.lines }
    else framesFrom limit delimiter (opened ++ [symbol]) rest

/-- The lines of a whole stream. -/
def frames (limit : Nat) (delimiter : α) (stream : List α) : Frames α :=
  framesFrom limit delimiter [] stream

/-- Every line the reader reports is a line of bounded length. -/
def Bounded (limit : Nat) (delimiter : α) (lines : List (List α)) : Prop :=
  ∀ line ∈ lines, IsLine delimiter line ∧ line.length ≤ limit

section Reading

variable {limit : Nat} {delimiter : α}

/-- Symbols other than the delimiter accumulate in the open line while it has room. -/
theorem framesFrom_append (opened : List α) {part : List α} (rest : List α) (free : delimiter ∉ part)
    (room : opened.length + part.length ≤ limit) :
    framesFrom limit delimiter opened (part ++ rest) =
      framesFrom limit delimiter (opened ++ part) rest := by
  -- Each symbol of the part moves into the open line.
  induction part generalizing opened with
  | nil => simp
  | cons symbol others ih =>
    simp only [List.mem_cons, not_or] at free
    simp only [List.length_cons] at room
    rw [List.cons_append, framesFrom, if_neg (by omega), if_neg (Ne.symm free.1),
      ih _ free.2 (by simp; omega)]
    simp

/-- A line of bounded length is reported and the reader starts afresh. -/
theorem framesFrom_line (opened : List α) {line rest : List α}
    (closed : IsLine delimiter (opened ++ line)) (nonempty : line ≠ [])
    (room : (opened ++ line).length ≤ limit) :
    framesFrom limit delimiter opened (line ++ rest) =
      { lines := (opened ++ line) :: (framesFrom limit delimiter [] rest).lines
        tail := (framesFrom limit delimiter [] rest).tail } := by
  -- All but the last symbol accumulate, and the last one is the delimiter.
  obtain ⟨body, last⟩ : ∃ body, line = body ++ [delimiter] := by
    obtain ⟨whole, equal, _⟩ := closed
    refine ⟨line.dropLast, ?_⟩
    have final : (opened ++ line).getLast (by simp [nonempty]) = delimiter := by
      simp [equal]
    rw [List.getLast_append_of_ne_nil _ nonempty] at final
    rw [← final, List.dropLast_append_getLast]
  subst last
  have bodyFree : delimiter ∉ body := by
    obtain ⟨whole, equal, wholeFree⟩ := closed
    rw [← List.append_assoc] at equal
    have same := (List.append_inj' equal rfl).1
    intro member
    exact wholeFree (same ▸ List.mem_append_right _ member)
  simp only [List.length_append, List.length_singleton] at room
  rw [List.append_assoc, framesFrom_append _ _ bodyFree (by omega), List.singleton_append, framesFrom,
    if_neg (by simp; omega), if_pos rfl]
  simp

/-- More than the limit without a delimiter stops the reader. -/
theorem framesFrom_overlong {part rest : List α} (free : delimiter ∉ part.take limit)
    (long : limit < part.length) :
    framesFrom limit delimiter [] (part ++ rest) = { lines := [], tail := none } := by
  -- The first symbols fill the line to its limit, and the next one is refused.
  have split : part = part.take limit ++ part.drop limit := (List.take_append_drop ..).symm
  have filled : (part.take limit).length = limit := by simp; omega
  obtain ⟨symbol, others, more⟩ : ∃ symbol others, part.drop limit = symbol :: others := by
    cases dropped : part.drop limit with
    | nil =>
      have := congrArg List.length dropped
      simp at this
      omega
    | cons symbol others => exact ⟨symbol, others, rfl⟩
  rw [split, more, List.append_assoc, framesFrom_append _ _ free (by simp [filled]), List.nil_append,
    List.cons_append, framesFrom, if_pos (by omega)]

/-- Complete lines of bounded length are reported before whatever the rest contains. -/
theorem frames_lines {lines : List (List α)} (bounded : Bounded limit delimiter lines)
    (rest : List α) :
    frames limit delimiter (lines.flatten ++ rest) =
      { lines := lines ++ (frames limit delimiter rest).lines
        tail := (frames limit delimiter rest).tail } := by
  -- The lines are taken one by one from the front.
  induction lines with
  | nil => simp
  | cons line others ih =>
    obtain ⟨closed, short⟩ := bounded line (by simp)
    have nonempty : line ≠ [] := by
      rintro rfl
      obtain ⟨body, equal, _⟩ := closed
      simp at equal
    have later := ih (fun other member => bounded other (by simp [member]))
    simp only [List.flatten_cons, List.append_assoc, frames] at later ⊢
    rw [framesFrom_line [] (by simpa using closed) nonempty (by simpa using short),
      later]
    simp

/-- A short rest without a delimiter is the unterminated tail. -/
theorem frames_tail {rest : List α} (free : delimiter ∉ rest) (short : rest.length ≤ limit) :
    frames limit delimiter rest = { lines := [], tail := some rest } := by
  -- All symbols accumulate and the stream ends.
  have whole := framesFrom_append [] [] free (by simpa using short)
  simpa [frames, framesFrom] using whole

/-- What is left behind the reported lines: a short tail, or the beginning of an overlong line. -/
def Leaves (limit : Nat) (delimiter : α) (rest : List α) : Option (List α) → Prop
  | some tail => rest = tail ∧ delimiter ∉ tail ∧ tail.length ≤ limit
  | none => limit < rest.length ∧ delimiter ∉ rest.take limit

/-- Reading on from an open line reports bounded lines that make up the text but for its rest. -/
theorem framesFrom_spec (opened stream : List α) (free : delimiter ∉ opened)
    (short : opened.length ≤ limit) :
    Bounded limit delimiter (framesFrom limit delimiter opened stream).lines ∧
      ∃ rest, opened ++ stream = (framesFrom limit delimiter opened stream).lines.flatten ++ rest ∧
        Leaves limit delimiter rest (framesFrom limit delimiter opened stream).tail := by
  -- The stream is read symbol by symbol, each of the three branches keeping the account.
  induction stream generalizing opened with
  | nil => exact ⟨by simp [framesFrom, Bounded], opened, by simp [framesFrom], rfl, free, short⟩
  | cons symbol others ih =>
    by_cases full : limit ≤ opened.length
    · have exact_ : opened.length = limit := Nat.le_antisymm short full
      rw [framesFrom, if_pos full]
      refine ⟨by simp [Bounded], opened ++ symbol :: others, by simp, by simp; omega, ?_⟩
      rwa [← exact_, List.take_left]
    · by_cases same : symbol = delimiter
      · obtain ⟨bounded, rest, split, left⟩ := ih [] (by simp) (by simp)
        rw [framesFrom, if_neg full, if_pos same]
        refine ⟨?_, rest, ?_, left⟩
        · intro line member
          rcases List.mem_cons.mp member with rfl | member
          · exact ⟨⟨opened, by rw [same], free⟩, by simp; omega⟩
          · exact bounded line member
        · rw [List.nil_append] at split
          simp only [List.flatten_cons, List.append_assoc, List.cons_append, List.nil_append]
          rw [← split]
      · rw [framesFrom, if_neg full, if_neg same]
        have grown := ih (opened ++ [symbol])
          (by simp [free, Ne.symm same]) (by simp; omega)
        simpa using grown

/-- The lines of a stream are bounded and make it up but for its rest. -/
theorem frames_spec (limit : Nat) (delimiter : α) (stream : List α) :
    Bounded limit delimiter (frames limit delimiter stream).lines ∧
      ∃ rest, stream = (frames limit delimiter stream).lines.flatten ++ rest ∧
        Leaves limit delimiter rest (frames limit delimiter stream).tail :=
  framesFrom_spec [] stream (by simp) (by simp)

end Reading
end Scout.Stream
