import Scout.Machine.Dialogue

/-! What a program promises of its reply and of the state it ends in. -/

namespace Scout.Machine

namespace Dialogue

variable {σ ε δ α β : Type}

/-- Change the state. -/
def update (change : σ → σ) : Dialogue σ ε Unit := fun state => (.returned (), change state)

/-- Go on with a handler where a program fails. -/
def handle (program : Dialogue σ ε α) (handler : ε → Dialogue σ δ α) : Dialogue σ δ α :=
  fun state =>
    match program state with
    | (.returned value, state) => (.returned value, state)
    | (.failed error, state) => handler error state
    | (.waiting, state) => (.waiting, state)

/-- A sequence goes on in the changed state. -/
theorem update_bind {change : σ → σ} {next : Unit → Dialogue σ ε α} {state : σ} :
    (update change >>= next) state = next () (change state) := rfl

/-- A sequence goes on with the state. -/
theorem current_bind {next : σ → Dialogue σ ε α} {state : σ} :
    (current >>= next) state = next state state := rfl

/-- A calculation that has not failed is its result. -/
theorem ofExcept_ok {result : Except ε α} {value : α} {state : σ} (ok : result = .ok value) :
    ofExcept result state = (.returned value, state) := by
  rw [ok]
  rfl

/-- A calculation that has failed is its error. -/
theorem ofExcept_error {result : Except ε α} {cause : ε} {state : σ} (failed : result = .error cause) :
    (ofExcept result : Dialogue σ ε α) state = (.failed cause, state) := by
  rw [failed]
  rfl

/-- A calculation that returns leaves the state as it is. -/
theorem ofExcept_returned {result : Except ε α} {value : α} {state after : σ}
    (ran : ofExcept result state = (.returned value, after)) : after = state := by
  -- The cases are those of the result.
  cases result with
  | ok value =>
    cases ran
    rfl
  | error cause => cases ran

/-- Nothing is handled where a program returns. -/
theorem handle_returned {program : Dialogue σ ε α} {handler : ε → Dialogue σ δ α} {value : α}
    {state after : σ} (ran : program state = (.returned value, after)) :
    program.handle handler state = (.returned value, after) := by
  rw [handle, ran]

/-- The handler goes on from where a program fails. -/
theorem handle_failed {program : Dialogue σ ε α} {handler : ε → Dialogue σ δ α} {cause : ε}
    {state after : σ} (ran : program state = (.failed cause, after)) :
    program.handle handler state = handler cause after := by
  rw [handle, ran]

/-- The reply of a program, and the state it ends in, are related in a given way. -/
def Ensures (state : σ) (program : Dialogue σ ε α) (After : Reply ε α → σ → Prop) : Prop :=
  After (program state).1 (program state).2

section Rules

variable {state : σ} {program : Dialogue σ ε α} {After Weaker : Reply ε α → σ → Prop}

/-- A program may promise less. -/
theorem Ensures.mono (ensures : Ensures state program After)
    (weaker : ∀ reply after, After reply after → Weaker reply after) :
    Ensures state program Weaker :=
  weaker _ _ ensures

/-- A program promises what another one does that runs alike. -/
theorem Ensures.congr {other : Dialogue σ ε α} (ensures : Ensures state other After)
    (same : program state = other state) : Ensures state program After := by
  -- Only the run from this state matters.
  unfold Ensures
  rw [same]
  exact ensures

/-- A calculation returns or fails without any change. -/
theorem ensures_ofExcept {result : Except ε α}
    (ok : ∀ value, result = .ok value → After (.returned value) state)
    (error : ∀ cause, result = .error cause → After (.failed cause) state) :
    Ensures state (ofExcept result) After := by
  -- The cases are those of the result.
  cases result with
  | ok value => exact ok value rfl
  | error cause => exact error cause rfl

/-- Where the first part of a sequence returns, the sequence promises what its second part does. -/
theorem Ensures.after {first : Dialogue σ ε β} {next : β → Dialogue σ ε α} {value : β} {after : σ}
    (ran : first state = (.returned value, after)) (ensures : Ensures after (next value) After) :
    Ensures state (first >>= next) After := by
  -- The first part returns.
  unfold Ensures
  rw [bind_returned ran]
  exact ensures

/-- A sequence promises what its second part does from where the first part returns. -/
theorem Ensures.bind {first : Dialogue σ ε β} {next : β → Dialogue σ ε α}
    {Middle : Reply ε β → σ → Prop} (ensures : Ensures state first Middle)
    (stopped : ∀ error after, Middle (.failed error) after → After (.failed error) after)
    (stuck : ∀ after, Middle .waiting after → After .waiting after)
    (continued : ∀ value after, Middle (.returned value) after → Ensures after (next value) After) :
    Ensures state (first >>= next) After := by
  -- The cases are those of the first part's reply.
  unfold Ensures at ensures ⊢
  match ran : first state with
  | (.returned value, after) =>
    rw [ran] at ensures
    rw [bind_returned ran]
    exact continued value after ensures
  | (.failed error, after) =>
    rw [ran] at ensures
    rw [bind_failed ran]
    exact stopped error after ensures
  | (.waiting, after) =>
    rw [ran] at ensures
    rw [bind_waiting ran]
    exact stuck after ensures

/-- A handled program promises what its handler does from where the program fails. -/
theorem Ensures.handle {handler : ε → Dialogue σ δ α} {Middle : Reply ε α → σ → Prop}
    {After : Reply δ α → σ → Prop} (ensures : Ensures state program Middle)
    (returned : ∀ value after, Middle (.returned value) after → After (.returned value) after)
    (stuck : ∀ after, Middle .waiting after → After .waiting after)
    (handled : ∀ error after, Middle (.failed error) after →
      Ensures after (handler error) After) :
    Ensures state (program.handle handler) After := by
  -- The cases are those of the program's reply.
  unfold Ensures at ensures ⊢
  unfold Dialogue.handle
  match ran : program state with
  | (.returned value, after) =>
    rw [ran] at ensures
    exact returned value after ensures
  | (.failed error, after) =>
    rw [ran] at ensures
    exact handled error after ensures
  | (.waiting, after) =>
    rw [ran] at ensures
    exact stuck after ensures

/-- What one round of a loop promises: its invariant, unless it is the last one. -/
def Continues (Invariant : β → σ → Prop) (After : Reply ε α → σ → Prop) :
    Reply ε (β ⊕ α) → σ → Prop
  | .returned (.inl next), state => Invariant next state
  | .returned (.inr value), state => After (.returned value) state
  | .failed error, state => After (.failed error) state
  | .waiting, state => After .waiting state

/-- A loop promises what its rounds do if they keep its invariant and make the state smaller. -/
theorem ensures_repeatUntil {size : σ → Nat} {body : β → Dialogue σ ε (β ⊕ α)}
    {Invariant : β → σ → Prop}
    (round : ∀ place state, Invariant place state → Ensures state (body place)
      (Continues (fun next after => Invariant next after ∧ size after < size state) After))
    {place : β} (holds : Invariant place state) :
    Ensures state (repeatUntil size body place) After := by
  -- The rounds are counted down, and there are more of them than the state is large.
  have general : ∀ count place state, size state < count → Invariant place state →
      Ensures state (rounds body count place) After := by
    intro count
    induction count with
    | zero => exact fun place state fits => absurd fits (Nat.not_lt_zero _)
    | succ count ih =>
      intro place state fits holds
      have promised := round place state holds
      rw [rounds]
      refine promised.bind (fun error after failed => failed) (fun after waits => waits)
        fun result after continues => ?_
      cases result with
      | inl next =>
        exact ih next after (Nat.lt_of_lt_of_le continues.2 (Nat.le_of_lt_succ fits)) continues.1
      | inr value => exact continues
  exact general _ place state (Nat.lt_succ_self _) holds

end Rules

/-- From a state, a program is not left waiting. -/
def Ends (state : σ) (program : Dialogue σ ε α) : Prop :=
  (program state).1 ≠ .waiting

section Ending

variable {state : σ} {program : Dialogue σ ε α}

/-- A program that returns a value ends. -/
theorem ends_pure {value : α} : Ends state (pure value : Dialogue σ ε α) :=
  fun waits => by cases waits

/-- A program that fails ends. -/
theorem ends_fail {error : ε} : Ends state (fail error : Dialogue σ ε α) :=
  fun waits => by cases waits

/-- A calculation ends. -/
theorem ends_ofExcept {result : Except ε α} : Ends state (ofExcept result) := by
  -- It either returns or fails.
  cases result with
  | ok value => exact ends_pure
  | error cause => exact ends_fail

/-- A sequence ends if its first part does, and its second part from where the first returns. -/
theorem Ends.bind {first : Dialogue σ ε β} {next : β → Dialogue σ ε α} (ends : Ends state first)
    (later : ∀ value after, first state = (.returned value, after) → Ends after (next value)) :
    Ends state (first >>= next) := by
  -- The cases are those of the first part's reply.
  unfold Ends at ends ⊢
  match ran : first state with
  | (.returned value, after) =>
    rw [bind_returned ran]
    exact later value after ran
  | (.failed error, after) =>
    rw [bind_failed ran]
    exact fun waits => by cases waits
  | (.waiting, after) =>
    rw [ran] at ends
    exact absurd rfl ends

/-- A handled program ends if it does so itself, and its handler from where it fails. -/
theorem Ends.handle {handler : ε → Dialogue σ δ α} (ends : Ends state program)
    (later : ∀ error after, program state = (.failed error, after) → Ends after (handler error)) :
    Ends state (program.handle handler) := by
  -- The cases are those of the program's reply.
  unfold Ends at ends ⊢
  match ran : program state with
  | (.returned value, after) =>
    rw [handle_returned ran]
    exact fun waits => by cases waits
  | (.failed error, after) =>
    rw [handle_failed ran]
    exact later error after ran
  | (.waiting, after) =>
    rw [ran] at ends
    exact absurd rfl ends

end Ending
end Dialogue
end Scout.Machine
