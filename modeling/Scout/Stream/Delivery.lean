import Mathlib.Data.List.Basic

/-! Streams that arrive in pieces, and reading them to their end or to a limit. -/

namespace Scout.Stream

/-- What the next reads of a stream find: symbols that have arrived, or an error, and then the end. -/
abbrev Delivery (ε τ : Type) := List (Except ε (List τ))

variable {ε τ : Type}

/-- Read to the end, but at most so many symbols, with the error that ended it and what was read. -/
def readToEnd (again : ε → Bool) : (limit : Nat) → Delivery ε τ → Option ε × List τ
  | _, [] => (none, [])
  | limit, .error error :: later =>
    -- Behind the limit nothing is asked for any more.
    if limit = 0 then (none, [])
    else if again error then readToEnd again limit later
    else (some error, [])
  | limit, .ok symbols :: later =>
    if limit = 0 then (none, [])
    -- No symbols are the end of the stream.
    else if symbols.isEmpty then (none, [])
    else
      let behind := readToEnd again (limit - symbols.length) later
      (behind.1, symbols.take limit ++ behind.2)

/-- A stream arrives in pieces, between which only errors lie after which reading goes on. -/
inductive Delivers (again : ε → Bool) : Delivery ε τ → List τ → Prop
  | finished : Delivers again [] []
  | interrupted {error : ε} {later : Delivery ε τ} {stream : List τ} (retried : again error = true)
      (behind : Delivers again later stream) : Delivers again (.error error :: later) stream
  | arrived {symbols : List τ} {later : Delivery ε τ} {stream : List τ} (some_ : symbols ≠ [])
      (behind : Delivers again later stream) :
      Delivers again (.ok symbols :: later) (symbols ++ stream)

variable {again : ε → Bool}

/-- Behind its limit a reader finds nothing. -/
theorem readToEnd_zero (delivery : Delivery ε τ) : readToEnd again 0 delivery = (none, []) := by
  -- The limit is looked at before anything is asked for.
  match delivery with
  | [] => rfl
  | .error _ :: _ => rfl
  | .ok _ :: _ => rfl

/-- No more is read than the limit allows, whatever arrives. -/
theorem readToEnd_length_le (limit : Nat) (delivery : Delivery ε τ) :
    (readToEnd again limit delivery).2.length ≤ limit := by
  -- Each piece uses up its part of the limit.
  induction delivery generalizing limit with
  | nil => exact Nat.zero_le _
  | cons piece later ih =>
    cases piece with
    | error error =>
      rw [readToEnd]
      split
      · exact Nat.zero_le _
      split
      · exact ih limit
      · exact Nat.zero_le _
    | ok symbols =>
      rw [readToEnd]
      split
      · exact Nat.zero_le _
      split
      · exact Nat.zero_le _
      · have behind := ih (limit - symbols.length)
        simp only [List.length_append, List.length_take]
        omega

/-- However a stream is cut into pieces, its first symbols are read. -/
theorem Delivers.readToEnd {delivery : Delivery ε τ} {stream : List τ}
    (delivers : Delivers again delivery stream) (limit : Nat) :
    readToEnd again limit delivery = (none, stream.take limit) := by
  -- The induction is on the pieces.
  induction delivers generalizing limit with
  | finished => simp [Stream.readToEnd]
  | interrupted retried behind ih =>
    by_cases full : limit = 0
    · rw [full, readToEnd_zero, List.take_zero]
    · rw [Stream.readToEnd, if_neg full, if_pos retried, ih]
  | @arrived symbols later stream some_ behind ih =>
    by_cases full : limit = 0
    · rw [full, readToEnd_zero, List.take_zero]
    · have nonempty : ¬ symbols.isEmpty = true := fun none => some_ (List.isEmpty_iff.mp none)
      rw [Stream.readToEnd, if_neg full, if_neg nonempty, ih, List.take_append]

end Scout.Stream
