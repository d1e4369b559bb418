import Scout.Machine.Dialogue

/-! Programs that cannot be told apart by what they return and by an outline of their logs. -/

namespace Scout.Machine

variable {Answer Event Outline ε δ α α' β β' : Type}

/-- Two replies are the same, up to the values that they return. -/
inductive Reply.Matches (Same : α → α' → Prop) : Reply ε α → Reply ε α' → Prop
  | returned {value : α} {other : α'} (same : Same value other) :
      Matches Same (.returned value) (.returned other)
  | failed (error : ε) : Matches Same (.failed error) (.failed error)
  | waiting : Matches Same .waiting .waiting

/-- Replies that match up to equality are the same. -/
theorem Reply.Matches.eq {first second : Reply ε α} (matched : Matches Eq first second) :
    first = second := by
  -- The cases are the replies that match.
  cases matched with
  | returned same => rw [same]
  | failed error => rfl
  | waiting => rfl

namespace Dialogue

/-- Two programs have come to the same point, as far as an outline of their logs shows. -/
structure InStep (outline : Event → Outline) (Same : α → α' → Prop)
    (first : Reply ε α × Ledger Answer Event) (second : Reply ε α' × Ledger Answer Event) :
    Prop where
  replies : Reply.Matches Same first.1 second.1
  scripts : first.2.script = second.2.script
  logs : first.2.log.map outline = second.2.log.map outline

/-- With the same answers, and logs of the same outline, two programs stay in step. -/
def Alike (outline : Event → Outline) (Same : α → α' → Prop)
    (first : Dialogue (Ledger Answer Event) ε α) (second : Dialogue (Ledger Answer Event) ε α') :
    Prop :=
  ∀ script log other, log.map outline = other.map outline →
    InStep outline Same (first ⟨script, log⟩) (second ⟨script, other⟩)

/-- Two questions fit the same answers, and what they leave behind has the same outline. -/
inductive Fits (outline : Event → Outline) (Same : α → α' → Prop) :
    Option (Event × Except ε α) → Option (Event × Except ε α') → Prop
  | unfit : Fits outline Same none none
  | answered {event other : Event} {value : α} {value' : α'}
      (outlines : outline event = outline other) (same : Same value value') :
      Fits outline Same (some (event, .ok value)) (some (other, .ok value'))
  | refused {event other : Event} (outlines : outline event = outline other) (error : ε) :
      Fits outline Same (some (event, .error error)) (some (other, .error error))

/-- The same result fits, whatever it is, if what is left behind has the same outline. -/
theorem fits_result {outline : Event → Outline} {event other : Event} {result : Except ε α}
    (outlines : outline event = outline other) :
    Fits outline Eq (some (event, result)) (some (other, result)) := by
  -- The cases are those of the result.
  cases result with
  | ok value => exact .answered outlines rfl
  | error error => exact .refused outlines error

section Rules

variable {outline : Event → Outline} {Same : α → α' → Prop} {Linked : β → β' → Prop}
  {first : Dialogue (Ledger Answer Event) ε α} {second : Dialogue (Ledger Answer Event) ε α'}

/-- Values of the relation are returned alike. -/
theorem alike_pure {value : α} {other : α'} (same : Same value other) :
    Alike outline Same (pure value : Dialogue (Ledger Answer Event) ε α) (pure other) :=
  fun _ _ _ logs => ⟨.returned same, rfl, logs⟩

/-- The same error is reported alike. -/
theorem alike_fail {error : ε} :
    Alike outline Same (fail error : Dialogue (Ledger Answer Event) ε α) (fail error) :=
  fun _ _ _ logs => ⟨.failed error, rfl, logs⟩

/-- The same calculation is alike. -/
theorem alike_ofExcept {result : Except ε α} :
    Alike outline Eq (ofExcept result : Dialogue (Ledger Answer Event) ε α) (ofExcept result) := by
  -- The cases are those of the result.
  cases result with
  | ok value => exact alike_pure rfl
  | error error => exact alike_fail

/-- Questions that fit the same answers are asked alike. -/
theorem alike_ask {question : List Event → Answer → Option (Event × Except ε α)}
    {question' : List Event → Answer → Option (Event × Except ε α')}
    (fits : ∀ log other answer, log.map outline = other.map outline →
      Fits outline Same (question log answer) (question' other answer)) :
    Alike outline Same (ask question) (ask question') := by
  -- The cases are those of the next answer and of what is made of it.
  intro script log other logs
  cases script with
  | nil => exact ⟨.waiting, rfl, logs⟩
  | cons answer script =>
    have fit := fits log other answer logs
    simp only [ask]
    generalize question log answer = left at fit
    generalize question' other answer = right at fit
    cases fit with
    | unfit => exact ⟨.waiting, rfl, logs⟩
    | answered outlines same => exact ⟨.returned same, rfl, by simp [logs, outlines]⟩
    | refused outlines error => exact ⟨.failed error, rfl, by simp [logs, outlines]⟩

/-- A question that does not look at the log is alike to itself. -/
theorem alike_same {question : Answer → Option (Event × Except ε α)} :
    Alike outline Eq (ask fun _ => question) (ask fun _ => question) := by
  -- It fits the same answers, and leaves the same behind.
  refine alike_ask fun _ _ answer _ => ?_
  cases question answer with
  | none => exact .unfit
  | some found => exact fits_result rfl

/-- Programs that return values of a narrower relation are alike. -/
theorem Alike.mono {Wider : α → α' → Prop} (alike : Alike outline Same first second)
    (wider : ∀ value other, Same value other → Wider value other) :
    Alike outline Wider first second := by
  -- Only the replies are compared in another way.
  intro script log other logs
  obtain ⟨replies, scripts, grown⟩ := alike script log other logs
  refine ⟨?_, scripts, grown⟩
  generalize (first ⟨script, log⟩).1 = left at replies
  generalize (second ⟨script, other⟩).1 = right at replies
  cases replies with
  | returned same => exact .returned (wider _ _ same)
  | failed error => exact .failed error
  | waiting => exact .waiting

/-- Sequences are alike if their parts are. -/
theorem Alike.bind {next : α → Dialogue (Ledger Answer Event) ε β}
    {next' : α' → Dialogue (Ledger Answer Event) ε β'} (alike : Alike outline Same first second)
    (nextAlike : ∀ value other, Same value other →
      Alike outline Linked (next value) (next' other)) :
    Alike outline Linked (first >>= next) (second >>= next') := by
  -- The cases are those of the two replies, which match.
  intro script log other logs
  have step := alike script log other logs
  cases left : first ⟨script, log⟩ with
  | mk reply after =>
    cases right : second ⟨script, other⟩ with
    | mk reply' after' =>
      rw [left, right] at step
      obtain ⟨replies, scripts, grown⟩ := step
      obtain ⟨script', log'⟩ := after
      obtain ⟨script'', other'⟩ := after'
      dsimp only at replies scripts grown
      subst scripts
      cases replies with
      | returned same =>
        rw [bind_returned left, bind_returned right]
        exact nextAlike _ _ same script' log' other' grown
      | failed error =>
        rw [bind_failed left, bind_failed right]
        exact ⟨.failed error, rfl, grown⟩
      | waiting =>
        rw [bind_waiting left, bind_waiting right]
        exact ⟨.waiting, rfl, grown⟩

/-- Sequences are alike if their first parts return the same, and their second parts are alike. -/
theorem Alike.follow {first second : Dialogue (Ledger Answer Event) ε α}
    {next : α → Dialogue (Ledger Answer Event) ε β}
    {next' : α → Dialogue (Ledger Answer Event) ε β'} (alike : Alike outline Eq first second)
    (nextAlike : ∀ value, Alike outline Linked (next value) (next' value)) :
    Alike outline Linked (first >>= next) (second >>= next') :=
  alike.bind fun value _ same => same ▸ nextAlike value

/-- Changing the errors of two programs in the same way keeps them alike. -/
theorem Alike.mapError (alike : Alike outline Same first second) (convert : ε → δ) :
    Alike outline Same (first.mapError convert) (second.mapError convert) := by
  -- Equal errors are converted equally.
  intro script log other logs
  obtain ⟨replies, scripts, grown⟩ := alike script log other logs
  unfold Dialogue.mapError
  generalize first ⟨script, log⟩ = left at *
  generalize second ⟨script, other⟩ = right at *
  obtain ⟨reply, after⟩ := left
  obtain ⟨reply', after'⟩ := right
  cases replies with
  | returned same => exact ⟨.returned same, scripts, grown⟩
  | failed error => exact ⟨.failed (convert error), scripts, grown⟩
  | waiting => exact ⟨.waiting, scripts, grown⟩

/-- Results are alike if they are the same error, or values of a relation. -/
inductive Results (Same : α → α' → Prop) : Except ε α → Except ε α' → Prop
  | ok {value : α} {other : α'} (same : Same value other) : Results Same (.ok value) (.ok other)
  | error (error : ε) : Results Same (.error error) (.error error)

/-- Catching the errors of two programs keeps them alike. -/
theorem Alike.attempt (alike : Alike outline Same first second) :
    Alike outline (Results Same) (first.attempt : Dialogue (Ledger Answer Event) δ (Except ε α))
      second.attempt := by
  -- Equal errors become equal results.
  intro script log other logs
  obtain ⟨replies, scripts, grown⟩ := alike script log other logs
  unfold Dialogue.attempt
  generalize first ⟨script, log⟩ = left at *
  generalize second ⟨script, other⟩ = right at *
  obtain ⟨reply, after⟩ := left
  obtain ⟨reply', after'⟩ := right
  cases replies with
  | returned same => exact ⟨.returned (.ok same), scripts, grown⟩
  | failed error => exact ⟨.returned (.error error), scripts, grown⟩
  | waiting => exact ⟨.waiting, scripts, grown⟩

/-- Catching the errors of two programs that return the same keeps them alike. -/
theorem Alike.caught {first second : Dialogue (Ledger Answer Event) ε α}
    (alike : Alike outline Eq first second) :
    Alike outline Eq (first.attempt : Dialogue (Ledger Answer Event) δ (Except ε α))
      second.attempt := by
  -- Results of equal values are equal.
  refine alike.attempt.mono fun result other same => ?_
  cases same with
  | ok same => rw [same]
  | error error => rfl

/-- Two rounds go on at linked places, or they are over with values of a relation. -/
inductive Rounds (Linked : β → β' → Prop) (Same : α → α' → Prop) : β ⊕ α → β' ⊕ α' → Prop
  | next {place : β} {place' : β'} (linked : Linked place place') :
      Rounds Linked Same (.inl place) (.inl place')
  | finished {value : α} {other : α'} (same : Same value other) :
      Rounds Linked Same (.inr value) (.inr other)

/-- Loops are alike if their rounds are, and if only the answers count for how long they go on. -/
theorem alike_repeatUntil {count : List Answer → Nat}
    {body : β → Dialogue (Ledger Answer Event) ε (β ⊕ α)}
    {body' : β' → Dialogue (Ledger Answer Event) ε (β' ⊕ α')}
    (round : ∀ place place', Linked place place' →
      Alike outline (Rounds Linked Same) (body place) (body' place'))
    {place : β} {place' : β'} (linked : Linked place place') :
    Alike outline Same (repeatUntil (fun ledger => count ledger.script) body place)
      (repeatUntil (fun ledger => count ledger.script) body' place') := by
  -- Both loops have the same number of rounds left.
  have general : ∀ rest place place', Linked place place' →
      Alike outline Same (rounds body rest place) (rounds body' rest place') := by
    intro rest
    induction rest with
    | zero => exact fun _ _ _ _ _ _ logs => ⟨.waiting, rfl, logs⟩
    | succ rest ih =>
      intro place place' linked
      refine (round place place' linked).bind fun result result' alike => ?_
      cases alike with
      | next linked => exact ih _ _ linked
      | finished same => exact alike_pure same
  intro script log other logs
  exact general _ place place' linked script log other logs

/-- Loops from the same place are alike if their rounds are. -/
theorem alike_repeatUntil_same {count : List Answer → Nat}
    {body body' : β → Dialogue (Ledger Answer Event) ε (β ⊕ α)}
    (round : ∀ place, Alike outline Eq (body place) (body' place)) (place : β) :
    Alike outline Eq (repeatUntil (fun ledger => count ledger.script) body place)
      (repeatUntil (fun ledger => count ledger.script) body' place) := by
  -- The two loops are at the same place in each round.
  have linked : ∀ place place', place = place' →
      Alike outline (Rounds Eq Eq) (body place) (body' place') := by
    rintro place _ rfl
    refine (round place).mono fun result other same => ?_
    subst same
    cases result with
    | inl next => exact .next rfl
    | inr value => exact .finished rfl
  exact alike_repeatUntil linked rfl

end Rules
end Dialogue
end Scout.Machine
