import Mathlib.Data.List.Basic

/-! Programs that ask their surroundings one question after another, and what they leave behind. -/

namespace Scout.Machine

/-- How a program stands: it is over, it has failed, or it waits for an answer. -/
inductive Reply (ε α : Type) where
  | returned (value : α)
  | failed (error : ε)
  | waiting
  deriving DecidableEq

/-- The reply that a result is. -/
def Reply.ofResult {ε α : Type} : Except ε α → Reply ε α
  | .ok value => .returned value
  | .error error => .failed error

/-- A program over a state that can fail or be left waiting. -/
def Dialogue (σ ε α : Type) := σ → Reply ε α × σ

namespace Dialogue

variable {σ τ ε δ α β γ : Type}

instance : Monad (Dialogue σ ε) where
  pure value := fun state => (.returned value, state)
  bind first next := fun state =>
    match first state with
    | (.returned value, state) => next value state
    | (.failed error, state) => (.failed error, state)
    | (.waiting, state) => (.waiting, state)

/-- A program that is followed by nothing is the program itself. -/
theorem bind_pure_eq (program : Dialogue σ ε α) : (program >>= fun value => pure value) = program := by
  -- The cases are those of the program's reply.
  funext state
  simp only [Bind.bind, Pure.pure]
  match program state with
  | (.returned _, _) => rfl
  | (.failed _, _) => rfl
  | (.waiting, _) => rfl

/-- Sequences may be put together in either order. -/
theorem bind_assoc_eq (program : Dialogue σ ε α) (first : α → Dialogue σ ε β)
    (second : β → Dialogue σ ε γ) :
    program >>= first >>= second = program >>= fun value => first value >>= second := by
  -- The cases are those of the program's reply.
  funext state
  simp only [Bind.bind]
  match program state with
  | (.returned _, _) => rfl
  | (.failed _, _) => rfl
  | (.waiting, _) => rfl

instance : LawfulMonad (Dialogue σ ε) :=
  LawfulMonad.mk' _ bind_pure_eq (fun _ _ => rfl) bind_assoc_eq

section Sequences

variable {first : Dialogue σ ε β} {next : β → Dialogue σ ε α} {state after : σ}

/-- A sequence goes on where its first part has returned. -/
theorem bind_returned {value : β} (ran : first state = (.returned value, after)) :
    (first >>= next) state = next value after := by
  -- The reply of the first part decides.
  simp only [Bind.bind, ran]

/-- A sequence fails where its first part does. -/
theorem bind_failed {error : ε} (ran : first state = (.failed error, after)) :
    (first >>= next) state = (.failed error, after) := by
  -- The reply of the first part decides.
  simp only [Bind.bind, ran]

/-- A sequence waits where its first part does. -/
theorem bind_waiting (ran : first state = (.waiting, after)) :
    (first >>= next) state = (.waiting, after) := by
  -- The reply of the first part decides.
  simp only [Bind.bind, ran]

end Sequences

/-- Give up with an error. -/
def fail (error : ε) : Dialogue σ ε α := fun state => (.failed error, state)

/-- Wait for an answer that does not come. -/
def wait : Dialogue σ ε α := fun state => (.waiting, state)

/-- The state itself. -/
def current : Dialogue σ ε σ := fun state => (.returned state, state)

/-- The result of a calculation that may have failed. -/
def ofExcept : Except ε α → Dialogue σ ε α
  | .ok value => pure value
  | .error error => fail error

/-- Report every error as another one. -/
def mapError (convert : ε → δ) (program : Dialogue σ ε α) : Dialogue σ δ α := fun state =>
  match program state with
  | (.returned value, state) => (.returned value, state)
  | (.failed error, state) => (.failed (convert error), state)
  | (.waiting, state) => (.waiting, state)

/-- Turn an error into a value. -/
def attempt (program : Dialogue σ ε α) : Dialogue σ δ (Except ε α) := fun state =>
  match program state with
  | (.returned value, state) => (.returned (.ok value), state)
  | (.failed error, state) => (.returned (.error error), state)
  | (.waiting, state) => (.waiting, state)

section Errors

variable {program : Dialogue σ ε α} {state : σ}

/-- Changing the errors of a program keeps the state it ends in. -/
theorem mapError_state {convert : ε → δ} :
    (program.mapError convert state).2 = (program state).2 := by
  -- The cases are those of the program's reply.
  unfold mapError
  cases program state with
  | mk reply after => cases reply <;> rfl

/-- Changing the errors of a program keeps whether it waits. -/
theorem mapError_waiting {convert : ε → δ} :
    (program.mapError convert state).1 = .waiting ↔ (program state).1 = .waiting := by
  -- The cases are those of the program's reply.
  unfold mapError
  cases program state with
  | mk reply after => cases reply <;> simp

/-- Catching the error of a program keeps the state it ends in. -/
theorem attempt_state :
    ((program.attempt : Dialogue σ δ (Except ε α)) state).2 = (program state).2 := by
  -- The cases are those of the program's reply.
  unfold attempt
  cases program state with
  | mk reply after => cases reply <;> rfl

/-- Catching the error of a program keeps whether it waits. -/
theorem attempt_waiting :
    ((program.attempt : Dialogue σ δ (Except ε α)) state).1 = .waiting ↔
      (program state).1 = .waiting := by
  -- The cases are those of the program's reply.
  unfold attempt
  cases program state with
  | mk reply after => cases reply <;> simp

end Errors

/-- Run a program on a state of its own. -/
def within (inner : τ) (program : Dialogue τ ε α) : Dialogue σ ε α := fun state =>
  ((program inner).1, state)

/-- Repeat a body until it says that it is done, for so many rounds at most. -/
def rounds (body : β → Dialogue σ ε (β ⊕ α)) : Nat → β → Dialogue σ ε α
  | 0, _ => wait
  | count + 1, place => do
    match ← body place with
    | .inl next => rounds body count next
    | .inr value => return value

/-- Repeat a body whose every round that is not the last makes the state smaller. -/
def repeatUntil (size : σ → Nat) (body : β → Dialogue σ ε (β ⊕ α)) (place : β) :
    Dialogue σ ε α := fun state =>
  rounds body (size state + 1) place state

section Loops

variable {size : σ → Nat} {body : β → Dialogue σ ε (β ⊕ α)}

/-- Enough rounds are as good as more. -/
theorem rounds_enough
    (shrinks : ∀ place state next after, body place state = (.returned (.inl next), after) →
      size after < size state)
    {few many : Nat} {place : β} {state : σ} (fewEnough : size state < few)
    (manyEnough : size state < many) :
    rounds body few place state = rounds body many place state := by
  -- Every round that is not the last makes the state smaller, so both counts last.
  induction few generalizing many place state with
  | zero => exact absurd fewEnough (Nat.not_lt_zero _)
  | succ few ih =>
    obtain ⟨many, rfl⟩ := Nat.exists_eq_succ_of_ne_zero (Nat.ne_zero_of_lt manyEnough)
    simp only [rounds, bind]
    match taken : body place state with
    | (.returned (.inr _), _) => rfl
    | (.failed _, _) => rfl
    | (.waiting, _) => rfl
    | (.returned (.inl next), after) =>
      have smaller := shrinks place state next after taken
      exact ih (by omega) (by omega)

/-- A loop runs its body once and then goes on as the body says. -/
theorem repeatUntil_eq
    (shrinks : ∀ place state next after, body place state = (.returned (.inl next), after) →
      size after < size state) (place : β) :
    repeatUntil size body place = do
      match ← body place with
      | .inl next => repeatUntil size body next
      | .inr value => return value := by
  -- After one round the count that is left is still enough.
  funext state
  simp only [repeatUntil, rounds, bind]
  match taken : body place state with
  | (.returned (.inr _), _) => rfl
  | (.failed _, _) => rfl
  | (.waiting, _) => rfl
  | (.returned (.inl next), after) =>
    have smaller := shrinks place state next after taken
    exact rounds_enough shrinks smaller (Nat.lt_succ_self _)

end Loops
end Dialogue

/-- The answers that are still to come, and what has happened so far. -/
structure Ledger (Answer Event : Type) where
  script : List Answer
  log : List Event

namespace Dialogue

variable {Answer Event ε δ α β : Type}

/-- Take the next answer, if it fits the question, and note what happens. -/
def ask (question : List Event → Answer → Option (Event × Except ε α)) :
    Dialogue (Ledger Answer Event) ε α := fun ledger =>
  match ledger.script with
  | [] => (.waiting, ledger)
  | answer :: script =>
    match question ledger.log answer with
    | none => (.waiting, ledger)
    | some (event, .ok value) => (.returned value, ⟨script, ledger.log ++ [event]⟩)
    | some (event, .error error) => (.failed error, ⟨script, ledger.log ++ [event]⟩)

/-- Note an event that needs no answer. -/
def note (event : Event) : Dialogue (Ledger Answer Event) ε Unit := fun ledger =>
  (.returned (), { ledger with log := ledger.log ++ [event] })

/-- A program's reply and the events it adds to the log are related in a given way. -/
def Leaves (Related : List Event → Reply ε α → Prop)
    (program : Dialogue (Ledger Answer Event) ε α) : Prop :=
  ∀ ledger, ∃ events, (program ledger).2.log = ledger.log ++ events ∧
    Related events (program ledger).1

section Laws

variable {Related Weaker : List Event → Reply ε α → Prop}
  {program : Dialogue (Ledger Answer Event) ε α}

/-- What is left behind may be described less exactly. -/
theorem Leaves.mono (left : Leaves Related program)
    (weaker : ∀ events reply, Related events reply → Weaker events reply) :
    Leaves Weaker program := by
  -- The same events are described.
  intro ledger
  obtain ⟨events, added, related⟩ := left ledger
  exact ⟨events, added, weaker _ _ related⟩

/-- Two descriptions of what is left behind hold of the same events. -/
theorem Leaves.and {Other : List Event → Reply ε α → Prop} (left : Leaves Related program)
    (right : Leaves Other program) :
    Leaves (fun events reply => Related events reply ∧ Other events reply) program := by
  -- The log grows by only one list of events.
  intro ledger
  obtain ⟨events, added, related⟩ := left ledger
  obtain ⟨others, grown, described⟩ := right ledger
  have same : events = others := List.append_cancel_left (added.symm.trans grown)
  exact ⟨events, added, related, same ▸ described⟩

/-- A program that does nothing leaves nothing behind. -/
theorem leaves_pure {value : α} (related : Related [] (.returned value)) :
    Leaves Related (pure value : Dialogue (Ledger Answer Event) ε α) := by
  -- The log is as it was.
  intro ledger
  exact ⟨[], (List.append_nil _).symm, related⟩

/-- A program that fails at once leaves nothing behind. -/
theorem leaves_fail {error : ε} (related : Related [] (.failed error)) :
    Leaves Related (fail error : Dialogue (Ledger Answer Event) ε α) := by
  -- The log is as it was.
  intro ledger
  exact ⟨[], (List.append_nil _).symm, related⟩

/-- A calculation leaves nothing behind. -/
theorem leaves_ofExcept {result : Except ε α}
    (ok : ∀ value, result = .ok value → Related [] (.returned value))
    (error : ∀ cause, result = .error cause → Related [] (.failed cause)) :
    Leaves Related (ofExcept result : Dialogue (Ledger Answer Event) ε α) := by
  -- It either returns or fails.
  cases result with
  | ok value => exact leaves_pure (ok value rfl)
  | error cause => exact leaves_fail (error cause rfl)

/-- A program that waits leaves nothing behind. -/
theorem leaves_wait (related : Related [] .waiting) :
    Leaves Related (wait : Dialogue (Ledger Answer Event) ε α) := by
  -- The log is as it was.
  intro ledger
  exact ⟨[], (List.append_nil _).symm, related⟩

/-- A question leaves its event behind, or nothing while it waits. -/
theorem leaves_ask {question : List Event → Answer → Option (Event × Except ε α)}
    (unanswered : Related [] .waiting)
    (answered : ∀ log answer event value, question log answer = some (event, .ok value) →
      Related [event] (.returned value))
    (refused : ∀ log answer event error, question log answer = some (event, .error error) →
      Related [event] (.failed error)) :
    Leaves Related (ask question) := by
  -- The cases are those of the next answer.
  intro ledger
  unfold ask
  cases ledger.script with
  | nil => exact ⟨[], (List.append_nil _).symm, unanswered⟩
  | cons answer script =>
    dsimp only
    match found : question ledger.log answer with
    | none => exact ⟨[], (List.append_nil _).symm, unanswered⟩
    | some (event, .ok value) => exact ⟨[event], rfl, answered _ _ _ _ found⟩
    | some (event, .error error) => exact ⟨[event], rfl, refused _ _ _ _ found⟩

/-- A question leaves its event behind with the result of the answer, or nothing. -/
theorem leaves_answered {question : List Event → Answer → Option (Event × Except ε α)}
    (unanswered : Related [] .waiting)
    (answered : ∀ log answer event result, question log answer = some (event, result) →
      Related [event] (.ofResult result)) : Leaves Related (ask question) :=
  leaves_ask unanswered (fun _ _ _ _ found => answered _ _ _ _ found)
    fun _ _ _ _ found => answered _ _ _ _ found

/-- A sequence leaves behind what its parts do, and only the first part if that is not over. -/
theorem Leaves.bind {Middle : List Event → Reply ε β → Prop}
    {first : Dialogue (Ledger Answer Event) ε β}
    {next : β → Dialogue (Ledger Answer Event) ε α} (firstLeaves : Leaves Middle first)
    (stopped : ∀ events error, Middle events (.failed error) → Related events (.failed error))
    (stuck : ∀ events, Middle events .waiting → Related events .waiting)
    (continued : ∀ events value, Middle events (.returned value) →
      Leaves (fun more reply => Related (events ++ more) reply) (next value)) :
    Leaves Related (first >>= next) := by
  -- The cases are those of the first part's reply.
  intro ledger
  obtain ⟨events, added, related⟩ := firstLeaves ledger
  match replied : first ledger with
  | (.failed error, after) =>
    rw [replied] at added related
    rw [bind_failed replied]
    exact ⟨events, added, stopped _ _ related⟩
  | (.waiting, after) =>
    rw [replied] at added related
    rw [bind_waiting replied]
    exact ⟨events, added, stuck _ related⟩
  | (.returned value, after) =>
    rw [replied] at added related
    rw [bind_returned replied]
    -- The events of the second part are added to those of the first.
    obtain ⟨more, grown, final⟩ := continued _ _ related after
    exact ⟨events ++ more, by rw [grown, added, List.append_assoc], final⟩

/-- A description of a program whose errors are changed. -/
def Converted (convert : ε → δ) (Related : List Event → Reply ε α → Prop)
    (events : List Event) : Reply δ α → Prop
  | .returned value => Related events (.returned value)
  | .failed error => ∃ cause, error = convert cause ∧ Related events (.failed cause)
  | .waiting => Related events .waiting

/-- Changing the errors of a program changes nothing else. -/
theorem Leaves.mapError (left : Leaves Related program) (convert : ε → δ) :
    Leaves (Converted convert Related) (program.mapError convert) := by
  -- The cases are those of the program's reply.
  intro ledger
  obtain ⟨events, added, related⟩ := left ledger
  refine ⟨events, by rw [mapError_state, added], ?_⟩
  unfold Dialogue.mapError
  match replied : program ledger with
  | (.failed error, _) => exact ⟨error, rfl, by rwa [replied] at related⟩
  | (.waiting, _) => rwa [replied] at related
  | (.returned _, _) => rwa [replied] at related

/-- A description of a program whose error is caught. -/
def Caught (Related : List Event → Reply ε α → Prop) (events : List Event) :
    Reply δ (Except ε α) → Prop
  | .returned (.ok value) => Related events (.returned value)
  | .returned (.error error) => Related events (.failed error)
  | .failed _ => False
  | .waiting => Related events .waiting

/-- Catching the error of a program changes nothing else. -/
theorem Leaves.attempt (left : Leaves Related program) :
    Leaves (Caught Related : List Event → Reply δ (Except ε α) → Prop) program.attempt := by
  -- The cases are those of the program's reply.
  intro ledger
  obtain ⟨events, added, related⟩ := left ledger
  refine ⟨events, by rw [attempt_state, added], ?_⟩
  unfold Dialogue.attempt
  match replied : program ledger with
  | (.failed _, _) => rwa [replied] at related
  | (.waiting, _) => rwa [replied] at related
  | (.returned _, _) => rwa [replied] at related

/-- A description of one round that lets the rounds after it complete a description. -/
def Round (Related : β → List Event → Reply ε α → Prop) (place : β) (events : List Event) :
    Reply ε (β ⊕ α) → Prop
  | .returned (.inl next) => ∀ more reply, Related next more reply →
      Related place (events ++ more) reply
  | .returned (.inr value) => Related place events (.returned value)
  | .failed error => Related place events (.failed error)
  | .waiting => Related place events .waiting

/-- What every round of a loop keeps describes the whole loop. -/
theorem leaves_repeatUntil {size : Ledger Answer Event → Nat}
    {body : β → Dialogue (Ledger Answer Event) ε (β ⊕ α)}
    (shrinks : ∀ place state next after, body place state = (.returned (.inl next), after) →
      size after < size state)
    (Related : β → List Event → Reply ε α → Prop)
    (round : ∀ place, Leaves (Round Related place) (body place))
    (place : β) : Leaves (Related place) (repeatUntil size body place) := by
  -- The induction is on the size of the state, which every round but the last makes smaller.
  intro ledger
  induction bounded : size ledger using Nat.strongRecOn generalizing place ledger with
  | _ bound ih =>
    obtain ⟨events, added, related⟩ := round place ledger
    rw [repeatUntil_eq shrinks place]
    match replied : body place ledger with
    | (.failed error, after) =>
      rw [replied] at added related
      rw [bind_failed replied]
      exact ⟨events, added, related⟩
    | (.waiting, after) =>
      rw [replied] at added related
      rw [bind_waiting replied]
      exact ⟨events, added, related⟩
    | (.returned (.inr value), after) =>
      rw [replied] at added related
      rw [bind_returned replied]
      exact ⟨events, added, related⟩
    | (.returned (.inl next), after) =>
      rw [replied] at added related
      rw [bind_returned replied]
      -- The state that is left is smaller, so the rest of the loop is described already.
      have smaller := shrinks place ledger next after replied
      obtain ⟨more, grown, rest⟩ := ih (size after) (bounded ▸ smaller) next after rfl
      exact ⟨events ++ more, by rw [grown, added, List.append_assoc], related _ _ rest⟩

end Laws

/-- Whatever a program returns is of a given kind. -/
def Returns (Fits : α → Prop) (program : Dialogue σ ε α) : Prop :=
  ∀ state value, (program state).1 = .returned value → Fits value

section Returning

variable {Fits : α → Prop} {first : Dialogue σ ε β} {next : β → Dialogue σ ε α}

/-- A sequence returns what its second part returns. -/
theorem Returns.after (returns : ∀ value, Returns Fits (next value)) :
    Returns Fits (first >>= next) := by
  -- The cases are those of the first part's reply.
  intro state value returned
  match ran : first state with
  | (.returned middle, after) =>
    rw [bind_returned ran] at returned
    exact returns middle after value returned
  | (.failed error, after) =>
    rw [bind_failed ran] at returned
    cases returned
  | (.waiting, after) =>
    rw [bind_waiting ran] at returned
    cases returned

/-- A value of the kind may be returned. -/
theorem returns_pure {value : α} (fits : Fits value) :
    Returns Fits (Pure.pure value : Dialogue σ ε α) := by
  -- The value is returned at once.
  intro state other returned
  cases returned
  exact fits

/-- A program that fails returns nothing. -/
theorem returns_fail {error : ε} : Returns Fits (fail error : Dialogue σ ε α) := by
  intro state value returned
  cases returned

end Returning

/-- A property of logs that holds of nothing, and of two logs one after the other. -/
structure Composable (Holds : List Event → Prop) : Prop where
  nil : Holds []
  append : ∀ {first second}, Holds first → Holds second → Holds (first ++ second)

/-- Whatever a program adds to the log has a given property. -/
def Upholds (Holds : List Event → Prop) (program : Dialogue (Ledger Answer Event) ε α) : Prop :=
  Leaves (fun events _ => Holds events) program

section Upholding

variable {Holds : List Event → Prop} {program : Dialogue (Ledger Answer Event) ε α}

/-- A program that returns a value adds nothing. -/
theorem Composable.pure (composable : Composable Holds) {value : α} :
    Upholds Holds (Pure.pure value : Dialogue (Ledger Answer Event) ε α) :=
  leaves_pure composable.nil

/-- A program that fails adds nothing. -/
theorem Composable.fail (composable : Composable Holds) {error : ε} :
    Upholds Holds (Dialogue.fail error : Dialogue (Ledger Answer Event) ε α) :=
  leaves_fail composable.nil

/-- A calculation adds nothing. -/
theorem Composable.ofExcept (composable : Composable Holds) {result : Except ε α} :
    Upholds Holds (Dialogue.ofExcept result : Dialogue (Ledger Answer Event) ε α) :=
  leaves_ofExcept (fun _ _ => composable.nil) fun _ _ => composable.nil

/-- A program on a state of its own adds nothing. -/
theorem Composable.within (composable : Composable Holds) {inner : β} {program : Dialogue β ε α} :
    Upholds Holds (Dialogue.within inner program : Dialogue (Ledger Answer Event) ε α) :=
  fun _ => ⟨[], (List.append_nil _).symm, composable.nil⟩

/-- A sequence keeps what its parts keep. -/
theorem Composable.bind (composable : Composable Holds)
    {first : Dialogue (Ledger Answer Event) ε β} {next : β → Dialogue (Ledger Answer Event) ε α}
    (firstUpholds : Upholds Holds first) (nextUpholds : ∀ value, Upholds Holds (next value)) :
    Upholds Holds (first >>= next) := by
  -- The logs of both parts stand one after the other.
  refine Leaves.bind firstUpholds (fun _ _ holds => holds) (fun _ holds => holds) ?_
  intro events value holds
  exact (nextUpholds value).mono fun more _ others => composable.append holds others

/-- A sequence keeps what its parts keep, behind what was there before. -/
theorem Composable.behind (composable : Composable Holds) {prior : List Event}
    {first : Dialogue (Ledger Answer Event) ε β} {next : β → Dialogue (Ledger Answer Event) ε α}
    (firstUpholds : Upholds (fun events => Holds (prior ++ events)) first)
    (nextUpholds : ∀ value, Upholds Holds (next value)) :
    Upholds (fun events => Holds (prior ++ events)) (first >>= next) := by
  -- What was there before stands in front of the first part.
  refine Leaves.bind firstUpholds (fun _ _ holds => holds) (fun _ holds => holds) ?_
  intro events value holds
  refine (nextUpholds value).mono fun more _ others => ?_
  show Holds (prior ++ (events ++ more))
  rw [← List.append_assoc]
  exact composable.append holds others

/-- The second part of a sequence need only keep a property for values that the first returns. -/
theorem Composable.bindFor (composable : Composable Holds) {Fits : β → Prop}
    {first : Dialogue (Ledger Answer Event) ε β} {next : β → Dialogue (Ledger Answer Event) ε α}
    (firstUpholds : Upholds Holds first) (returns : Returns Fits first)
    (nextUpholds : ∀ value, Fits value → Upholds Holds (next value)) :
    Upholds Holds (first >>= next) := by
  -- The second part is only reached with such a value.
  have both : Leaves (fun events reply => Holds events ∧
      ∀ value, reply = .returned value → Fits value) first := by
    intro ledger
    obtain ⟨events, added, holds⟩ := firstUpholds ledger
    exact ⟨events, added, holds, returns ledger⟩
  refine Leaves.bind both (fun _ _ left => left.1) (fun _ left => left.1) ?_
  intro events value left
  exact (nextUpholds value (left.2 value rfl)).mono fun more _ others =>
    composable.append left.1 others

/-- A loop keeps what its rounds keep. -/
theorem Composable.repeatUntil (composable : Composable Holds)
    {size : Ledger Answer Event → Nat} {body : β → Dialogue (Ledger Answer Event) ε (β ⊕ α)}
    (round : ∀ place, Upholds Holds (body place)) (place : β) :
    Upholds Holds (Dialogue.repeatUntil size body place) := by
  -- The rounds are counted down, and each adds a log with the property.
  have general : ∀ count place, Upholds Holds (rounds body count place) := by
    intro count
    induction count with
    | zero =>
      intro place
      exact leaves_wait composable.nil
    | succ count ih =>
      intro place
      apply composable.bind (round place)
      intro result
      cases result with
      | inl next => exact ih next
      | inr value => exact composable.pure
  intro ledger
  exact general _ place ledger

/-- Changing the errors of a program keeps what it upholds. -/
theorem Upholds.mapError (upholds : Upholds Holds program) (convert : ε → δ) :
    Upholds Holds (program.mapError convert) := by
  -- The log is the same.
  refine (Leaves.mapError upholds convert).mono fun events reply related => ?_
  match reply, related with
  | .returned _, holds => exact holds
  | .failed _, ⟨_, _, holds⟩ => exact holds
  | .waiting, holds => exact holds

/-- Catching the error of a program keeps what it upholds. -/
theorem Upholds.attempt (upholds : Upholds Holds program) :
    Upholds Holds (program.attempt : Dialogue (Ledger Answer Event) δ (Except ε α)) := by
  -- The log is the same.
  refine (Leaves.attempt upholds).mono fun events reply related => ?_
  match reply, related with
  | .returned (.ok _), holds => exact holds
  | .returned (.error _), holds => exact holds
  | .waiting, holds => exact holds

end Upholding

/-- Every event a program adds to the log is of a given kind. -/
def Emits (Kind : Event → Prop) (program : Dialogue (Ledger Answer Event) ε α) : Prop :=
  Leaves (fun events _ => ∀ event ∈ events, Kind event) program

section Emitting

variable {Kind : Event → Prop} {program : Dialogue (Ledger Answer Event) ε α}

/-- Two logs whose events are all of a kind make up such a log. -/
theorem composable_forall : Composable fun events => ∀ event ∈ events, Kind event where
  nil := List.forall_mem_nil _
  append first second := List.forall_mem_append.mpr ⟨first, second⟩

/-- A program that returns a value emits nothing. -/
theorem emits_pure {value : α} :
    Emits Kind (pure value : Dialogue (Ledger Answer Event) ε α) :=
  composable_forall.pure

/-- A program that fails emits nothing. -/
theorem emits_fail {error : ε} :
    Emits Kind (fail error : Dialogue (Ledger Answer Event) ε α) :=
  composable_forall.fail

/-- A calculation emits nothing. -/
theorem emits_ofExcept {result : Except ε α} :
    Emits Kind (ofExcept result : Dialogue (Ledger Answer Event) ε α) :=
  composable_forall.ofExcept

/-- A program on a state of its own emits nothing. -/
theorem emits_within {inner : β} {program : Dialogue β ε α} :
    Emits Kind (within inner program : Dialogue (Ledger Answer Event) ε α) :=
  composable_forall.within

/-- A sequence emits what its parts emit. -/
theorem Emits.bind {first : Dialogue (Ledger Answer Event) ε β}
    {next : β → Dialogue (Ledger Answer Event) ε α} (firstEmits : Emits Kind first)
    (nextEmits : ∀ value, Emits Kind (next value)) : Emits Kind (first >>= next) :=
  composable_forall.bind firstEmits nextEmits

/-- A beginning whose events do not matter may be left out of a description. -/
theorem Leaves.after {Related : List Event → Reply ε α → Prop}
    {first : Dialogue (Ledger Answer Event) ε β}
    {next : β → Dialogue (Ledger Answer Event) ε α} (quiet : Emits Kind first)
    (ignores : ∀ events more reply, (∀ event ∈ events, Kind event) → Related more reply →
      Related (events ++ more) reply)
    (failing : ∀ error, Related [] (.failed error)) (unanswered : Related [] .waiting)
    (rest : ∀ value, Leaves Related (next value)) : Leaves Related (first >>= next) := by
  -- A beginning that does not return is followed by nothing.
  refine Leaves.bind quiet (fun events error kinds => ?_) (fun events kinds => ?_) ?_
  · exact List.append_nil events ▸ ignores events [] _ kinds (failing error)
  · exact List.append_nil events ▸ ignores events [] _ kinds unanswered
  · intro events value kinds
    exact (rest value).mono fun more reply related => ignores events more reply kinds related

/-- A calculation at the beginning may be assumed to succeed where failing is fine. -/
theorem Leaves.calculated {Related : List Event → Reply ε α → Prop} {result : Except ε β}
    {next : β → Dialogue (Ledger Answer Event) ε α}
    (failing : ∀ error, Related [] (.failed error))
    (rest : ∀ value, result = .ok value → Leaves Related (next value)) :
    Leaves Related (ofExcept result >>= next) := by
  -- A calculation leaves nothing behind.
  cases found : result with
  | ok value => exact rest value found
  | error error =>
    intro ledger
    exact ⟨[], (List.append_nil _).symm, failing error⟩

/-- Changing the errors of a program keeps what it emits. -/
theorem Emits.mapError (emits : Emits Kind program) (convert : ε → δ) :
    Emits Kind (program.mapError convert) :=
  Upholds.mapError emits convert

/-- Catching the error of a program keeps what it emits. -/
theorem Emits.attempt (emits : Emits Kind program) :
    Emits Kind (program.attempt : Dialogue (Ledger Answer Event) δ (Except ε α)) :=
  Upholds.attempt emits

/-- A question leaves one event at most, and it is of the kind that is emitted. -/
theorem Emits.single {question : List Event → Answer → Option (Event × Except ε α)}
    (emits : Emits Kind (ask question)) :
    Upholds (fun events => events = [] ∨ ∃ event, events = [event] ∧ Kind event)
      (ask question) := by
  -- The event is the one that is added to the log.
  intro ledger
  obtain ⟨events, added, kinds⟩ := emits ledger
  refine ⟨events, added, ?_⟩
  have short : (ask question ledger).2.log = ledger.log ∨
      ∃ event, (ask question ledger).2.log = ledger.log ++ [event] := by
    unfold ask
    cases ledger.script with
    | nil => exact .inl rfl
    | cons answer script =>
      dsimp only
      split
      · exact .inl rfl
      · exact .inr ⟨_, rfl⟩
      · exact .inr ⟨_, rfl⟩
  rw [added] at short
  rcases short with none | ⟨event, one⟩
  · exact .inl (List.append_right_eq_self.mp none)
  · have single := List.append_cancel_left one
    exact .inr ⟨event, single, kinds event (by simp [single])⟩

/-- A loop emits what its rounds emit. -/
theorem emits_repeatUntil {size : Ledger Answer Event → Nat}
    {body : β → Dialogue (Ledger Answer Event) ε (β ⊕ α)} (round : ∀ place, Emits Kind (body place))
    (place : β) : Emits Kind (repeatUntil size body place) :=
  composable_forall.repeatUntil round place

end Emitting

/-- A program fails only after an event of a given kind. -/
def FailsAfter (Cause : Event → Prop) (program : Dialogue (Ledger Answer Event) ε α) : Prop :=
  Leaves (fun events reply => ∀ error, reply = .failed error → ∃ event ∈ events, Cause event)
    program

section Failing

variable {Cause : Event → Prop} {program : Dialogue (Ledger Answer Event) ε α}

/-- A program that returns a value does not fail. -/
theorem failsAfter_pure {value : α} :
    FailsAfter Cause (pure value : Dialogue (Ledger Answer Event) ε α) :=
  leaves_pure fun _ fails => by cases fails

/-- A sequence fails only where one of its parts does. -/
theorem FailsAfter.bind {first : Dialogue (Ledger Answer Event) ε β}
    {next : β → Dialogue (Ledger Answer Event) ε α} (firstFails : FailsAfter Cause first)
    (nextFails : ∀ value, FailsAfter Cause (next value)) : FailsAfter Cause (first >>= next) := by
  -- The events of the first part are among those of both.
  refine Leaves.bind firstFails (fun _ error causes _ _ => causes error rfl)
    (fun _ _ _ fails => by cases fails) ?_
  intro events value _
  refine (nextFails value).mono fun more reply causes error fails => ?_
  obtain ⟨event, member, cause⟩ := causes error fails
  exact ⟨event, List.mem_append_right _ member, cause⟩

/-- Changing the errors of a program keeps after what it fails. -/
theorem FailsAfter.mapError (fails : FailsAfter Cause program) (convert : ε → δ) :
    FailsAfter Cause (program.mapError convert) := by
  -- The error was another one, but there was one.
  refine (Leaves.mapError fails convert).mono fun events reply related => ?_
  intro error failed
  subst failed
  obtain ⟨cause, _, causes⟩ := related
  exact causes cause rfl

/-- A loop fails only where one of its rounds does. -/
theorem failsAfter_repeatUntil {size : Ledger Answer Event → Nat}
    {body : β → Dialogue (Ledger Answer Event) ε (β ⊕ α)}
    (shrinks : ∀ place state next after, body place state = (.returned (.inl next), after) →
      size after < size state)
    (round : ∀ place, FailsAfter Cause (body place)) (place : β) :
    FailsAfter Cause (repeatUntil size body place) := by
  -- The events of a round are followed by those of the rounds after it.
  refine leaves_repeatUntil shrinks (fun _ events reply =>
    ∀ error, reply = .failed error → ∃ event ∈ events, Cause event) (fun place => ?_) place
  refine (round place).mono fun events reply causes => ?_
  cases reply with
  | returned result =>
    cases result with
    | inl next =>
      intro more reply rest error fails
      obtain ⟨event, member, cause⟩ := rest error fails
      exact ⟨event, List.mem_append_right _ member, cause⟩
    | inr value => exact fun _ fails => by cases fails
  | failed error => exact fun _ _ => causes error rfl
  | waiting => exact fun _ fails => by cases fails

end Failing

/-- Unless it waits, a program takes at least so many answers. -/
def Takes (least : Nat) (program : Dialogue (Ledger Answer Event) ε α) : Prop :=
  ∀ ledger, (program ledger).1 ≠ .waiting →
    (program ledger).2.script.length + least ≤ ledger.script.length

section Taking

variable {least : Nat} {program : Dialogue (Ledger Answer Event) ε α}

/-- A program that takes some answers takes none at the least. -/
theorem Takes.none (takes : Takes least program) : Takes 0 program :=
  fun ledger answered => Nat.le_of_add_right_le (takes ledger answered)

/-- Where a program that takes an answer does not wait, fewer answers are left. -/
theorem Takes.shrinks (takes : Takes 1 program) {ledger after : Ledger Answer Event}
    {reply : Reply ε α} (ran : program ledger = (reply, after)) (answered : reply ≠ .waiting) :
    after.script.length < ledger.script.length := by
  -- One answer is gone.
  have taken := takes ledger (by rw [ran]; exact answered)
  rw [ran] at taken
  exact taken

/-- A program that returns a value takes no answers. -/
theorem takes_pure {value : α} : Takes 0 (pure value : Dialogue (Ledger Answer Event) ε α) :=
  fun _ _ => Nat.le_refl _

/-- A program that fails takes no answers. -/
theorem takes_fail {error : ε} : Takes 0 (fail error : Dialogue (Ledger Answer Event) ε α) :=
  fun _ _ => Nat.le_refl _

/-- A question takes one answer. -/
theorem takes_ask {question : List Event → Answer → Option (Event × Except ε α)} :
    Takes 1 (ask question) := by
  -- Without a fitting answer it waits.
  intro ledger answered
  unfold ask at answered ⊢
  cases scripted : ledger.script with
  | nil => simp [scripted] at answered
  | cons answer script =>
    simp only [scripted] at answered ⊢
    match found : question ledger.log answer with
    | none => simp [found] at answered
    | some (_, .ok _) => simp
    | some (_, .error _) => simp

/-- A sequence takes the answers that its first part takes. -/
theorem Takes.bind {first : Dialogue (Ledger Answer Event) ε β}
    {next : β → Dialogue (Ledger Answer Event) ε α} (firstTakes : Takes least first)
    (nextTakes : ∀ value, Takes 0 (next value)) : Takes least (first >>= next) := by
  -- The second part does not give answers back.
  intro ledger answered
  have taken := firstTakes ledger
  match replied : first ledger with
  | (.failed _, after) =>
    rw [replied] at taken
    rw [bind_failed replied]
    exact taken (by simp)
  | (.waiting, after) =>
    rw [bind_waiting replied] at answered
    exact absurd rfl answered
  | (.returned value, after) =>
    rw [replied] at taken
    rw [bind_returned replied] at answered ⊢
    have later := nextTakes value after answered
    have sooner := taken (by simp)
    dsimp only at sooner ⊢
    omega

/-- Rounds give no answers back. -/
theorem takes_rounds {body : β → Dialogue (Ledger Answer Event) ε (β ⊕ α)}
    (round : ∀ place, Takes 0 (body place)) (count : Nat) (place : β) :
    Takes 0 (rounds body count place) := by
  -- The rounds are counted down.
  induction count generalizing place with
  | zero => exact fun _ answered => absurd rfl answered
  | succ count ih =>
    apply (round place).bind
    intro result
    cases result with
    | inl next => exact ih next
    | inr value => exact takes_pure

/-- A loop takes the answers that its first round takes. -/
theorem Takes.repeatUntil {size : Ledger Answer Event → Nat}
    {body : β → Dialogue (Ledger Answer Event) ε (β ⊕ α)} {place : β}
    (first : Takes least (body place)) (round : ∀ place, Takes 0 (body place)) :
    Takes least (Dialogue.repeatUntil size body place) := by
  -- There is always a first round.
  intro ledger
  have whole : Takes least (rounds body (size ledger + 1) place) := by
    apply first.bind
    intro result
    cases result with
    | inl next => exact takes_rounds round (size ledger) next
    | inr value => exact takes_pure
  exact whole ledger

/-- Changing the errors of a program keeps how many answers it takes. -/
theorem Takes.mapError (takes : Takes least program) (convert : ε → δ) :
    Takes least (program.mapError convert) := by
  -- Only the error differs.
  intro ledger answered
  rw [mapError_state]
  exact takes ledger fun waits => answered (mapError_waiting.mpr waits)

/-- Catching the error of a program keeps how many answers it takes. -/
theorem Takes.attempt (takes : Takes least program) :
    Takes least (program.attempt : Dialogue (Ledger Answer Event) δ (Except ε α)) := by
  -- Only the error differs.
  intro ledger answered
  rw [attempt_state]
  exact takes ledger fun waits => answered (attempt_waiting.mpr waits)

end Taking
end Dialogue
end Scout.Machine
