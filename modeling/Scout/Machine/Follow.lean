import Scout.Machine.Contract
import Scout.Machine.Run

/-! Programs that keep to a rule or mirror a machine, clean up however they end, and drive one. -/

namespace Scout.Machine.Dialogue

variable {Place σ Answer Event Input ε δ α β : Type}

/-- Run a cleanup, which cannot fail, once a program is done, however it ends. -/
def ensuring (program : Dialogue σ ε α) (cleanup : Dialogue σ Empty Unit) : Dialogue σ ε α := do
  let result ← program.attempt
  cleanup.mapError Empty.elim
  ofExcept result

/-- Run a cleanup, which cannot fail, only where a program fails. -/
def onFailure (program : Dialogue σ ε α) (cleanup : Dialogue σ Empty Unit) : Dialogue σ ε α :=
  program.handle fun error => do
    cleanup.mapError Empty.elim
    fail error

/-- What is known of a reply and of the place where it is given; nothing while it is awaited. -/
def Settles (Returned : α → Place → Prop) (Failed : ε → Place → Prop) :
    Reply ε α → Place → Prop
  | .returned value, place => Returned value place
  | .failed error, place => Failed error place
  | .waiting, _ => True

/-- How events lead from place to place: none of them stay, and two lists of them join. -/
class Route (route : Place → List Event → Place → Prop) : Prop where
  stay : ∀ place, route place [] place
  join : ∀ {first middle last : Place} {events more : List Event}, route first events middle →
    route middle more last → route first (events ++ more) last

/-- From every place with a property, what a program does leads on along a route. -/
def Tracks (route : Place → List Event → Place → Prop) (Before : Place → Prop)
    (program : Dialogue (Ledger Answer Event) ε α) (Returned : α → Place → Prop)
    (Failed : ε → Place → Prop) : Prop :=
  ∀ place, Before place → Leaves (fun events reply =>
    ∃ after, route place events after ∧ Settles Returned Failed reply after) program

/-- Events lead on if a rule allows each of them. -/
def Along (rule : Place → Event → Option Place) (place : Place) (events : List Event)
    (after : Place) : Prop :=
  run rule place events = some after

instance (rule : Place → Event → Option Place) : Route (Along rule) where
  stay _ := rfl
  join ran further := run_append.mpr ⟨_, ran, further⟩

/-- One event leads on if the rule allows it. -/
theorem along_one {rule : Place → Event → Option Place} {place after : Place} {event : Event}
    (taken : rule place event = some after) : Along rule place [event] after := by
  simp [Along, run, taken]

/-- From every place with a property, what a program does keeps to a rule and leads on. -/
abbrev Follows (rule : Place → Event → Option Place) (Before : Place → Prop)
    (program : Dialogue (Ledger Answer Event) ε α) (Returned : α → Place → Prop)
    (Failed : ε → Place → Prop) : Prop :=
  Tracks (Along rule) Before program Returned Failed

section Beginnings

variable {Related : List Event → Reply ε α → Prop}

end Beginnings

section Routes

variable {route : Place → List Event → Place → Prop} {Before Stronger : Place → Prop}
  {program : Dialogue (Ledger Answer Event) ε α} {Returned Weaker : α → Place → Prop}
  {Failed Excused : ε → Place → Prop}

/-- An event that needs no answer is one step. -/
theorem tracks_note {event : Event} {Returned : Unit → Place → Prop}
    (step : ∀ place, Before place → ∃ after, route place [event] after ∧ Returned () after) :
    Tracks route Before (note event : Dialogue (Ledger Answer Event) ε Unit) Returned Failed := by
  -- Nothing is answered.
  intro place holds ledger
  exact ⟨[event], rfl, step place holds⟩

/-- Changing the errors of a program does not change where it leads. -/
theorem Tracks.mapError {Cause : δ → Place → Prop} {convert : ε → δ}
    (tracks : Tracks route Before program Returned Failed)
    (failed : ∀ error place, Failed error place → Cause (convert error) place) :
    Tracks route Before (program.mapError convert) Returned Cause := by
  -- Only the error differs.
  intro place holds
  refine (Leaves.mapError (tracks place holds) convert).mono fun events reply related => ?_
  cases reply with
  | returned value => exact related
  | failed error =>
    obtain ⟨cause, rfl, after, ran, settled⟩ := related
    exact ⟨after, ran, failed cause after settled⟩
  | waiting => exact related

/-- What is known where a caught error is the value. -/
def Either (Returned : α → Place → Prop) (Failed : ε → Place → Prop) :
    Except ε α → Place → Prop
  | .ok value, place => Returned value place
  | .error error, place => Failed error place

/-- Catching the error of a program does not change where it leads. -/
theorem Tracks.attempt {Cause : δ → Place → Prop}
    (tracks : Tracks route Before program Returned Failed) :
    Tracks route Before program.attempt (Either Returned Failed) Cause := by
  -- The error is a value now.
  intro place holds
  refine (Leaves.attempt (tracks place holds)).mono fun events reply related => ?_
  cases reply with
  | returned result =>
    cases result with
    | ok value => exact related
    | error error => exact related
  | failed error => exact related.elim
  | waiting => exact related

variable [Route route]

/-- Before and after a program, the place may change without an event. -/
theorem Tracks.shift (tracks : Tracks route Before program Returned Failed)
    (before : ∀ place, Stronger place → ∃ middle, route place [] middle ∧ Before middle)
    (returned : ∀ value place, Returned value place →
      ∃ after, route place [] after ∧ Weaker value after)
    (failed : ∀ error place, Failed error place →
      ∃ after, route place [] after ∧ Excused error after) :
    Tracks route Stronger program Weaker Excused := by
  -- The events are the same.
  intro place stronger
  obtain ⟨start, led, holds⟩ := before place stronger
  refine (tracks start holds).mono fun events reply related => ?_
  obtain ⟨ending, ran, settled⟩ := related
  have whole : route place events ending := Route.join led ran
  cases reply with
  | returned value =>
    obtain ⟨after, further, weaker⟩ := returned value ending settled
    exact ⟨after, List.append_nil events ▸ Route.join whole further, weaker⟩
  | failed error =>
    obtain ⟨after, further, excused⟩ := failed error ending settled
    exact ⟨after, List.append_nil events ▸ Route.join whole further, excused⟩
  | waiting => exact ⟨ending, whole, trivial⟩

/-- A program may be asked less, and promise less. -/
theorem Tracks.mono (tracks : Tracks route Before program Returned Failed)
    (before : ∀ place, Stronger place → Before place)
    (returned : ∀ value place, Returned value place → Weaker value place)
    (failed : ∀ error place, Failed error place → Excused error place) :
    Tracks route Stronger program Weaker Excused :=
  -- No event is needed on either side.
  tracks.shift (fun place stronger => ⟨place, Route.stay place, before place stronger⟩)
    (fun value place settled => ⟨place, Route.stay place, returned value place settled⟩)
    fun error place settled => ⟨place, Route.stay place, failed error place settled⟩

/-- A program that returns a value stays where it is. -/
theorem tracks_pure {value : α} (returned : ∀ place, Before place → Returned value place) :
    Tracks route Before (pure value : Dialogue (Ledger Answer Event) ε α) Returned Failed :=
  fun place holds => leaves_pure ⟨place, Route.stay place, returned place holds⟩

/-- A program that fails stays where it is. -/
theorem tracks_fail {error : ε} (failed : ∀ place, Before place → Failed error place) :
    Tracks route Before (fail error : Dialogue (Ledger Answer Event) ε α) Returned Failed :=
  fun place holds => leaves_fail ⟨place, Route.stay place, failed place holds⟩

/-- A calculation stays where it is. -/
theorem tracks_ofExcept {result : Except ε α}
    (returned : ∀ value place, result = .ok value → Before place → Returned value place)
    (failed : ∀ error place, result = .error error → Before place → Failed error place) :
    Tracks route Before (ofExcept result : Dialogue (Ledger Answer Event) ε α) Returned Failed :=
  -- The place stays as it is.
  fun place holds => leaves_ofExcept
    (fun value ok => ⟨place, Route.stay place, returned value place ok holds⟩)
    fun error failure => ⟨place, Route.stay place, failed error place failure holds⟩

/-- A question is one step, whatever is answered. -/
theorem tracks_ask {question : List Event → Answer → Option (Event × Except ε α)}
    (step : ∀ place, Before place → ∀ log answer event result,
      question log answer = some (event, result) →
        ∃ after, route place [event] after ∧ Settles Returned Failed (.ofResult result) after) :
    Tracks route Before (ask question) Returned Failed := by
  -- There is no event while there is no answer.
  intro place holds
  exact leaves_answered ⟨place, Route.stay place, trivial⟩ (step place holds)

/-- A sequence leads on if its second part goes on from where its first part returns. -/
theorem Tracks.bind {Middle : β → Place → Prop} {first : Dialogue (Ledger Answer Event) ε β}
    {next : β → Dialogue (Ledger Answer Event) ε α}
    (firstTracks : Tracks route Before first Middle Failed)
    (nextTracks : ∀ value, Tracks route (Middle value) (next value) Returned Failed) :
    Tracks route Before (first >>= next) Returned Failed := by
  -- The events of the parts make up those of the whole.
  intro place holds
  refine Leaves.bind (firstTracks place holds) (fun _ _ related => related)
    (fun _ related => related) fun events value related => ?_
  obtain ⟨middle, ran, settled⟩ := related
  refine (nextTracks value middle settled).mono fun more reply later => ?_
  obtain ⟨after, further, ends⟩ := later
  exact ⟨after, Route.join ran further, ends⟩

/-- A cleanup follows a program wherever that ends. -/
theorem Tracks.ensuring {Middle : α → Place → Prop} {Broken : ε → Place → Prop}
    {cleanup : Dialogue (Ledger Answer Event) Empty Unit}
    (tracks : Tracks route Before program Middle Broken)
    (cleaned : ∀ result, Tracks route (Either Middle Broken result) cleanup
      (fun _ => Either Returned Failed result) fun _ _ => False) :
    Tracks route Before (program.ensuring cleanup) Returned Failed := by
  -- The cleanup runs with either result, which is then given.
  refine tracks.attempt.bind fun result => Tracks.bind
    ((cleaned result).mapError fun error _ _ => error.elim) fun _ => ?_
  apply tracks_ofExcept
  · rintro value place rfl settled
    exact settled
  · rintro error place rfl settled
    exact settled

/-- A program whose events lead nowhere stays where it is. -/
theorem Emits.tracks {Kind : Event → Prop} (emits : Emits Kind program)
    (still : ∀ place event, Kind event → route place [event] place) :
    Tracks route Before program (fun _ => Before) fun _ => Before := by
  -- No event leads away.
  intro place holds
  refine emits.mono fun events reply kinds => ⟨place, ?_, ?_⟩
  · induction events with
    | nil => exact Route.stay place
    | cons event rest ih =>
      obtain ⟨first, others⟩ := List.forall_mem_cons.mp kinds
      exact Route.join (still place event first) (ih others)
  · cases reply with
    | returned value => exact holds
    | failed error => exact holds
    | waiting => trivial

/-- A handler follows a program wherever that fails. -/
theorem Tracks.handle {Broken : δ → Place → Prop} {handler : ε → Dialogue (Ledger Answer Event) δ α}
    (tracks : Tracks route Before program Returned Failed)
    (handled : ∀ error, Tracks route (Failed error) (handler error) Returned Broken) :
    Tracks route Before (program.handle handler) Returned Broken := by
  -- The cases are those of the program's reply.
  intro place holds ledger
  obtain ⟨events, added, middle, ran, settled⟩ := tracks place holds ledger
  unfold Dialogue.handle
  match replied : program ledger with
  | (.returned value, after) =>
    rw [replied] at added settled
    exact ⟨events, added, middle, ran, settled⟩
  | (.waiting, after) =>
    rw [replied] at added
    exact ⟨events, added, middle, ran, trivial⟩
  | (.failed error, after) =>
    rw [replied] at added settled
    obtain ⟨more, grown, final, further, ends⟩ := handled error middle settled after
    refine ⟨events ++ more, ?_, final, Route.join ran further, ends⟩
    rw [grown, added, List.append_assoc]

/-- A cleanup follows a program only where that fails. -/
theorem Tracks.onFailure {Broken : ε → Place → Prop}
    {cleanup : Dialogue (Ledger Answer Event) Empty Unit}
    (tracks : Tracks route Before program Returned Failed)
    (cleaned : ∀ error, Tracks route (Failed error) cleanup (fun _ => Broken error)
      fun _ _ => False) :
    Tracks route Before (program.onFailure cleanup) Returned Broken :=
  -- The error is given after the cleanup.
  tracks.handle fun error =>
    ((cleaned error).mapError fun cause _ _ => cause.elim).bind fun _ =>
      tracks_fail fun _ settled => settled

/-- A loop leads on if each of its rounds does. -/
theorem tracks_repeatUntil {size : Ledger Answer Event → Nat}
    {body : β → Dialogue (Ledger Answer Event) ε (β ⊕ α)} {Invariant : β → Place → Prop}
    (round : ∀ state, Tracks route (Invariant state) (body state)
      (fun result => result.elim Invariant Returned) Failed) (state : β) :
    Tracks route (Invariant state) (repeatUntil size body state) Returned Failed := by
  -- The rounds are counted down, and each goes on from where the one before it leads.
  have general : ∀ count state,
      Tracks route (Invariant state) (rounds body count state) Returned Failed := by
    intro count
    induction count with
    | zero => exact fun state place _ => leaves_wait ⟨place, Route.stay place, trivial⟩
    | succ count ih =>
      intro state
      refine (round state).bind fun result => ?_
      cases result with
      | inl next => exact ih next
      | inr value => exact tracks_pure fun _ settled => settled
  intro place holds ledger
  exact general _ state place holds ledger

end Routes

section Emitting

variable {Kind : Event → Prop} {program : Dialogue (Ledger Answer Event) ε α}

/-- An event that needs no answer is all that is emitted. -/
theorem emits_note {event : Event} (kind : Kind event) :
    Emits Kind (note event : Dialogue (Ledger Answer Event) ε Unit) := by
  intro ledger
  exact ⟨[event], rfl, by simpa using kind⟩

/-- A program and its cleanup emit what each of them emits. -/
theorem Emits.onFailure {cleanup : Dialogue (Ledger Answer Event) Empty Unit}
    (emits : Emits Kind program) (cleaned : Emits Kind cleanup) :
    Emits Kind (program.onFailure cleanup) := by
  -- The cleanup comes only where the program fails.
  intro ledger
  obtain ⟨events, added, kinds⟩ := emits ledger
  unfold Dialogue.onFailure handle
  match replied : program ledger with
  | (.returned value, after) =>
    rw [replied] at added
    exact ⟨events, added, kinds⟩
  | (.waiting, after) =>
    rw [replied] at added
    exact ⟨events, added, kinds⟩
  | (.failed error, after) =>
    rw [replied] at added
    have refused : Emits Kind (fail error : Dialogue (Ledger Answer Event) ε α) := emits_fail
    obtain ⟨more, grown, others⟩ := (cleaned.mapError Empty.elim).bind (fun _ => refused) after
    refine ⟨events ++ more, ?_, List.forall_mem_append.mpr ⟨kinds, others⟩⟩
    rw [grown, added, List.append_assoc]

end Emitting

section Driving

variable (step : σ → Input → Option σ) (interpret : Answer → Option Input)
  (describe : σ → Input → σ → Event) (finished : σ → Bool)

/-- Take one step of a machine with the next answer. -/
def driveStep (state : σ) : Dialogue (Ledger Answer Event) ε σ :=
  ask fun _ answer =>
    (interpret answer).bind fun input =>
      (step state input).map fun next => (describe state input next, .ok next)

/-- One round of driving a machine. -/
def driveRound (state : σ) : Dialogue (Ledger Answer Event) ε (σ ⊕ σ) :=
  if finished state then pure (.inr state)
  else do
    let next ← driveStep step interpret describe state
    return .inl next

/-- Let the answers drive a machine until it has finished. -/
def drive (state : σ) : Dialogue (Ledger Answer Event) ε σ :=
  repeatUntil (fun ledger => ledger.script.length) (driveRound step interpret describe finished)
    state

variable {step interpret describe finished}

/-- Every round of driving a machine but the last takes an answer. -/
theorem driveRound_shrinks {state next : σ} {ledger after : Ledger Answer Event}
    (ran : driveRound (ε := ε) step interpret describe finished state ledger =
      (.returned (.inl next), after)) : after.script.length < ledger.script.length := by
  -- A machine that has not finished takes a step.
  have takes : Takes 1 (driveStep step interpret describe state >>= fun next =>
      (pure (.inl next) : Dialogue (Ledger Answer Event) ε (σ ⊕ σ))) :=
    takes_ask.bind fun _ => takes_pure
  unfold driveRound at ran
  split at ran
  · cases ran
  · exact takes.shrinks ran (by simp)

/-- The answers drive a machine step by step, and never too few times. -/
theorem drive_eq (state : σ) :
    (drive step interpret describe finished state : Dialogue (Ledger Answer Event) ε σ) =
      if finished state then pure state
      else driveStep step interpret describe state >>= drive step interpret describe finished := by
  -- As many rounds as there are answers are enough, since each of them takes one.
  unfold drive
  rw [repeatUntil_eq fun _ _ _ _ => driveRound_shrinks]
  unfold driveRound
  by_cases done : finished state = true
  · rw [if_pos done, if_pos done]
    rfl
  · rw [if_neg done, if_neg done]
    funext ledger
    simp only [bind]
    cases driveStep step interpret describe state ledger with
    | mk reply after => cases reply <;> rfl

/-- Driving a machine leads on if each of its steps does. -/
theorem tracks_drive {route : Place → List Event → Place → Prop} [Route route]
    {Invariant : σ → Place → Prop} {Failed : ε → Place → Prop}
    (stepped : ∀ state input next place, finished state = false → Invariant state place →
      step state input = some next →
        ∃ after, route place [describe state input next] after ∧ Invariant next after)
    (state : σ) : Tracks route (Invariant state)
      (drive step interpret describe finished state : Dialogue (Ledger Answer Event) ε σ)
      (fun next place => Invariant next place ∧ finished next = true) Failed := by
  -- The invariant leads from each round to the next one.
  apply tracks_repeatUntil
  intro state
  unfold driveRound
  by_cases done : finished state = true
  · rw [if_pos done]
    exact tracks_pure fun place holds => ⟨holds, done⟩
  · rw [if_neg done]
    have one : Tracks route (Invariant state)
        (driveStep step interpret describe state : Dialogue (Ledger Answer Event) ε σ)
        Invariant Failed := by
      refine tracks_ask fun place holds _ answer event result answered => ?_
      obtain ⟨input, _, found⟩ := Option.bind_eq_some_iff.mp answered
      obtain ⟨next, taken, same⟩ := Option.map_eq_some_iff.mp found
      cases same
      exact stepped state input next place (by simpa using done) holds taken
    exact one.bind fun next => tracks_pure fun _ holds => holds

end Driving

section Mirroring

variable {Out : Type} {step : σ → Input → Option σ} {out : σ → List Out} {seen : Event → Option Out}
  {state next : σ} {input : Input}

/-- Events show, in their order, what a machine puts out in a run from one state to another. -/
def Showing (step : σ → Input → Option σ) (out : σ → List Out) (seen : Event → Option Out)
    (state : σ) (events : List Event) (after : σ) : Prop :=
  ∃ inputs, run step state inputs = some after ∧
    out after = (events.filterMap seen).reverse ++ out state

instance (step : σ → Input → Option σ) (out : σ → List Out) (seen : Event → Option Out) :
    Route (Showing step out seen) where
  stay _ := ⟨[], rfl, rfl⟩
  join first second := by
    obtain ⟨inputs, ran, shown⟩ := first
    obtain ⟨more, further, grown⟩ := second
    exact ⟨inputs ++ more, run_append.mpr ⟨_, ran, further⟩, by simp [grown, shown]⟩

/-- A step that puts nothing out needs no event. -/
theorem showing_silent (taken : step state input = some next) (same : out next = out state) :
    Showing step out seen state [] next :=
  ⟨[input], by simp [run, taken], by simp [same]⟩

/-- An event that shows nothing needs no step. -/
theorem showing_still {event : Event} (hidden : seen event = none) :
    Showing step out seen state [event] state :=
  ⟨[], rfl, by simp [hidden]⟩

/-- An event may show what a step puts out. -/
theorem showing_step {event : Event} (taken : step state input = some next)
    (shown : out next = (seen event).toList ++ out state) :
    Showing step out seen state [event] next := by
  -- A single input explains the event.
  refine ⟨[input], by simp [run, taken], ?_⟩
  cases found : seen event with
  | none => simpa [found] using shown
  | some value => simpa [found] using shown

/-- A cleanup that shows nothing changes nothing. -/
theorem Tracks.ensuring_still {route : Place → List Event → Place → Prop} [Route route]
    {Before : Place → Prop} {program : Dialogue (Ledger Answer Event) ε α}
    {Returned : α → Place → Prop} {Failed : ε → Place → Prop}
    {cleanup : Dialogue (Ledger Answer Event) Empty Unit} {Kind : Event → Prop}
    (tracks : Tracks route Before program Returned Failed) (emits : Emits Kind cleanup)
    (still : ∀ place event, Kind event → route place [event] place) :
    Tracks route Before (program.ensuring cleanup) Returned Failed :=
  -- Wherever the program ends, the cleanup ends there, too.
  tracks.ensuring fun _ => (emits.tracks still).mono (fun _ settled => settled)
    (fun _ _ settled => settled) fun error _ _ => error.elim

end Mirroring

section Embedding

variable {Inner InnerEvent : Type} (select : Answer → Option Inner) (wrap : InnerEvent → Event)

/-- Run a program that knows only some of the answers and notes events of its own. -/
def embed (program : Dialogue (Ledger Inner InnerEvent) ε α) :
    Dialogue (Ledger Answer Event) ε α := fun ledger =>
  let script := ((ledger.script.map select).takeWhile Option.isSome).filterMap id
  let ran := program ⟨script, []⟩
  -- The answers that the program has taken are gone, the others remain.
  (ran.1, ⟨ledger.script.drop (script.length - ran.2.script.length),
    ledger.log ++ ran.2.log.map wrap⟩)

/-- What a program leaves behind by itself, it leaves behind where it is embedded. -/
theorem Leaves.embed {Related : List InnerEvent → Reply ε α → Prop}
    {program : Dialogue (Ledger Inner InnerEvent) ε α} (left : Leaves Related program) :
    Leaves (fun events reply => ∃ inner, events = inner.map wrap ∧ Related inner reply)
      (program.embed select wrap) := by
  -- The program begins with an empty log of its own.
  intro ledger
  obtain ⟨inner, added, related⟩ :=
    left ⟨((ledger.script.map select).takeWhile Option.isSome).filterMap id, []⟩
  refine ⟨inner.map wrap, ?_, inner, rfl, related⟩
  simp only [Dialogue.embed, added, List.nil_append]

/-- An embedded program emits only its own events. -/
theorem emits_embed {Kind : Event → Prop} {program : Dialogue (Ledger Inner InnerEvent) ε α}
    (kinds : ∀ event, Kind (wrap event)) : Emits Kind (program.embed select wrap) := by
  -- Whatever the program's log is, all of it is wrapped.
  intro ledger
  refine ⟨_, rfl, fun event member => ?_⟩
  obtain ⟨inner, _, rfl⟩ := List.mem_map.mp member
  exact kinds inner

end Embedding
end Scout.Machine.Dialogue
