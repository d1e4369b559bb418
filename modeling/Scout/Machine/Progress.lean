import Scout.Machine.Dialogue

/-! Programs that come to an end in surroundings that answer every question. -/

namespace Scout.Machine.Dialogue

variable {Answer Event ε δ α β : Type} {May : List Event → Event → Prop}

/-- Each of some events may come after those before it. -/
def Conforms (May : List Event → Event → Prop) : List Event → List Event → Prop
  | _, [] => True
  | before, event :: more => May before event ∧ Conforms May (before ++ [event]) more

/-- Events may come one after another if the second part may come after the first one. -/
theorem Conforms.append {before first second : List Event} (begun : Conforms May before first)
    (ended : Conforms May (before ++ first) second) : Conforms May before (first ++ second) := by
  -- What comes before the second part is built up by the first one.
  induction first generalizing before with
  | nil => rwa [List.append_nil] at ended
  | cons event first ih =>
    refine ⟨begun.1, ih begun.2 ?_⟩
    rwa [List.append_assoc, List.singleton_append]

/--
After some events, a program comes to an end with answers that the surroundings may give.

It takes just these answers, whatever comes behind them.
-/
def Concludes (May : List Event → Event → Prop) (before : List Event)
    (program : Dialogue (Ledger Answer Event) ε α) (Related : List Event → Reply ε α → Prop) :
    Prop :=
  ∃ script more reply, reply ≠ .waiting ∧ Conforms May before more ∧ Related more reply ∧
    ∀ rest, program ⟨script ++ rest, before⟩ = (reply, ⟨rest, before ++ more⟩)

section Concluding

variable {before : List Event} {program : Dialogue (Ledger Answer Event) ε α}
  {Related Weaker : List Event → Reply ε α → Prop}

/-- The end of a program may be described less exactly. -/
theorem Concludes.mono (concludes : Concludes May before program Related)
    (weaker : ∀ more reply, Related more reply → Weaker more reply) :
    Concludes May before program Weaker := by
  -- The answers are the same.
  obtain ⟨script, more, reply, ended, conforms, related, ran⟩ := concludes
  exact ⟨script, more, reply, ended, conforms, weaker _ _ related, ran⟩

/-- A program that comes to an end does not wait. -/
theorem Concludes.ended (concludes : Concludes May before program Related)
    (weaker : ∀ more reply, reply ≠ .waiting → Related more reply → Weaker more reply) :
    Concludes May before program Weaker := by
  -- The answers are the same.
  obtain ⟨script, more, reply, ended, conforms, related, ran⟩ := concludes
  exact ⟨script, more, reply, ended, conforms, weaker _ _ ended related, ran⟩

/-- What a program leaves behind in all surroundings, it leaves behind in these. -/
theorem Concludes.leaves (concludes : Concludes May before program Related)
    (left : Leaves Weaker program) :
    Concludes May before program fun more reply =>
      Conforms May before more ∧ Related more reply ∧ Weaker more reply := by
  -- Both describe the same run.
  obtain ⟨script, more, reply, ended, conforms, related, ran⟩ := concludes
  obtain ⟨events, added, weaker⟩ := left ⟨script ++ [], before⟩
  rw [ran] at added weaker
  cases List.append_cancel_left added
  exact ⟨script, more, reply, ended, conforms, ⟨conforms, related, weaker⟩, ran⟩

/-- A program that returns a value comes to an end. -/
theorem concludes_pure {value : α} (related : Related [] (.returned value)) :
    Concludes May before (pure value : Dialogue (Ledger Answer Event) ε α) Related :=
  -- No answer is needed.
  ⟨[], [], _, fun same => (by cases same), trivial, related, fun _ => by
    rw [List.append_nil]
    rfl⟩

/-- A program that fails comes to an end. -/
theorem concludes_fail {error : ε} (related : Related [] (.failed error)) :
    Concludes May before (fail error : Dialogue (Ledger Answer Event) ε α) Related :=
  -- No answer is needed.
  ⟨[], [], _, fun same => (by cases same), trivial, related, fun _ => by
    rw [List.append_nil]
    rfl⟩

/-- A calculation comes to an end. -/
theorem concludes_ofExcept {result : Except ε α} :
    Concludes May before (ofExcept result : Dialogue (Ledger Answer Event) ε α)
      fun _ _ => True := by
  -- It either returns or fails.
  cases result with
  | ok value => exact concludes_pure trivial
  | error error => exact concludes_fail trivial

/-- A program on a state of its own comes to an end if it does so there. -/
theorem concludes_within {σ : Type} {inner : σ} {program : Dialogue σ ε α}
    (ends : (program inner).1 ≠ .waiting) :
    Concludes May before (within inner program : Dialogue (Ledger Answer Event) ε α)
      fun _ _ => True :=
  -- No answer is needed.
  ⟨[], [], _, ends, trivial, trivial, fun _ => by
    rw [List.append_nil]
    rfl⟩

/-- A question comes to an end if there is an answer that may be given. -/
theorem concludes_ask {question : List Event → Answer → Option (Event × Except ε α)}
    (answer : Answer) {event : Event} {result : Except ε α}
    (answered : question before answer = some (event, result)) (may : May before event)
    (related : Related [event] (.ofResult result)) :
    Concludes May before (ask question) Related := by
  -- The answer is taken, and nothing behind it.
  refine ⟨[answer], [event], .ofResult result, ?_, ⟨may, trivial⟩, related, fun rest => ?_⟩
  · cases result <;> exact fun same => by cases same
  · simp only [ask, List.singleton_append, answered]
    cases result <;> rfl

/-- A sequence comes to an end if its parts do. -/
theorem Concludes.bind {Middle : List Event → Reply ε β → Prop}
    {first : Dialogue (Ledger Answer Event) ε β}
    {next : β → Dialogue (Ledger Answer Event) ε α}
    (begun : Concludes May before first Middle)
    (stopped : ∀ events error, Middle events (.failed error) → Related events (.failed error))
    (continued : ∀ events value, Middle events (.returned value) →
      Concludes May (before ++ events) (next value) fun more reply =>
        Related (events ++ more) reply) :
    Concludes May before (first >>= next) Related := by
  -- The answers for the second part are put behind those for the first one.
  obtain ⟨script, events, reply, ended, conforms, related, ran⟩ := begun
  cases reply with
  | waiting => exact absurd rfl ended
  | failed error =>
    exact ⟨script, events, .failed error, fun same => (by cases same), conforms,
      stopped _ _ related, fun rest => bind_failed (ran rest)⟩
  | returned value =>
    obtain ⟨others, more, last, finished, later, final, went⟩ := continued _ _ related
    refine ⟨script ++ others, events ++ more, last, finished, conforms.append later, final,
      fun rest => ?_⟩
    rw [List.append_assoc, bind_returned (ran _), went, List.append_assoc]

/-- A sequence comes to an end if its parts do, whatever comes of the first one. -/
theorem Concludes.after {first : Dialogue (Ledger Answer Event) ε β}
    {next : β → Dialogue (Ledger Answer Event) ε α}
    (begun : Concludes May before first fun _ _ => True)
    (continued : ∀ before value, Concludes May before (next value) fun _ _ => True) :
    Concludes May before (first >>= next) fun _ _ => True :=
  begun.bind (fun _ _ _ => trivial) fun _ value _ => continued _ value

/-- Changing the errors of a program keeps that it comes to an end. -/
theorem Concludes.mapError (concludes : Concludes May before program Related)
    (convert : ε → δ) :
    Concludes May before (program.mapError convert) (Converted convert Related) := by
  -- The answers are the same.
  obtain ⟨script, more, reply, ended, conforms, related, ran⟩ := concludes
  cases reply with
  | waiting => exact absurd rfl ended
  | returned value =>
    exact ⟨script, more, .returned value, fun same => (by cases same), conforms, related,
      fun rest => by rw [Dialogue.mapError, ran]⟩
  | failed error =>
    exact ⟨script, more, .failed (convert error), fun same => (by cases same), conforms,
      ⟨error, rfl, related⟩, fun rest => by rw [Dialogue.mapError, ran]⟩

/-- Changing the errors of a program keeps that it comes to any end. -/
theorem Concludes.converted (concludes : Concludes May before program fun _ _ => True)
    (convert : ε → δ) : Concludes May before (program.mapError convert) fun _ _ => True :=
  (concludes.mapError convert).mono fun _ _ _ => trivial

/-- Catching the error of a program keeps that it comes to an end. -/
theorem Concludes.attempt (concludes : Concludes May before program Related) :
    Concludes May before (program.attempt : Dialogue (Ledger Answer Event) δ (Except ε α))
      (Caught Related) := by
  -- The answers are the same.
  obtain ⟨script, more, reply, ended, conforms, related, ran⟩ := concludes
  cases reply with
  | waiting => exact absurd rfl ended
  | returned value =>
    exact ⟨script, more, .returned (.ok value), fun same => (by cases same), conforms, related,
      fun rest => by rw [Dialogue.attempt, ran]⟩
  | failed error =>
    exact ⟨script, more, .returned (.error error), fun same => (by cases same), conforms,
      related, fun rest => by rw [Dialogue.attempt, ran]⟩

end Concluding

/--
A loop comes to an end if each round does, and each but the last brings the end closer.

How close the end is may depend on all that has happened.
-/
theorem concludes_repeatUntil {size : Ledger Answer Event → Nat}
    {body : β → Dialogue (Ledger Answer Event) ε (β ⊕ α)}
    (shrinks : ∀ place state next after, body place state = (.returned (.inl next), after) →
      size after < size state)
    (Fits : β → Prop) (far : List Event → β → Nat)
    (round : ∀ before place, Fits place → Concludes May before (body place)
      fun more reply => ∀ next, reply = .returned (.inl next) →
        Fits next ∧ far (before ++ more) next < far before place)
    {before : List Event} {place : β} (fits : Fits place) :
    Concludes May before (repeatUntil size body place) fun _ _ => True := by
  -- The rounds are counted by how far the end is.
  have general : ∀ count before place, Fits place → far before place < count →
      Concludes May before (repeatUntil size body place) fun _ _ => True := by
    intro count
    induction count with
    | zero => exact fun _ _ _ none => absurd none (Nat.not_lt_zero _)
    | succ count ih =>
      intro before place fits near
      rw [repeatUntil_eq shrinks]
      refine (round before place fits).bind (fun _ _ _ => trivial) fun more result closer => ?_
      cases result with
      | inl next =>
        obtain ⟨still, less⟩ := closer next rfl
        exact ih _ _ still (by omega)
      | inr value => exact concludes_pure trivial
  exact general _ _ _ fits (Nat.lt_succ_self _)

end Scout.Machine.Dialogue
