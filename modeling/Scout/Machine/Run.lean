import Mathlib.Data.List.Basic

/-! Finite runs of machines whose every step is chosen by an event. -/

namespace Scout.Machine

variable {State Event : Type}

/-- Take the events in order, with no result once an event is not enabled. -/
def run (step : State → Event → Option State) : State → List Event → Option State
  | state, [] => some state
  | state, event :: rest => (step state event).bind fun next => run step next rest

/-- A nonempty run takes its first step and runs on from there. -/
theorem run_cons {step : State → Event → Option State} {start finish : State} {event : Event}
    {rest : List Event} :
    run step start (event :: rest) = some finish ↔
      ∃ next, step start event = some next ∧ run step next rest = some finish := by
  -- A missing first step leaves no run at all.
  simp only [run, Option.bind_eq_some_iff]

/-- A run splits at every point of its event list. -/
theorem run_append {step : State → Event → Option State} {start finish : State}
    {first second : List Event} :
    run step start (first ++ second) = some finish ↔
      ∃ middle, run step start first = some middle ∧ run step middle second = some finish := by
  -- The first list is consumed one event at a time.
  induction first generalizing start with
  | nil => simp [run]
  | cons event rest ih =>
    simp only [List.cons_append, run_cons, ih]
    constructor
    · rintro ⟨next, taken, middle, reached, finished⟩
      exact ⟨middle, ⟨next, taken, reached⟩, finished⟩
    · rintro ⟨middle, ⟨next, taken, reached⟩, finished⟩
      exact ⟨next, taken, middle, reached, finished⟩

/-- What every admitted step preserves holds at the end of every run of admitted events. -/
theorem run_invariant {step : State → Event → Option State} (Admitted : Event → Prop)
    (Holds : State → Prop)
    (preserved : ∀ state event next, Admitted event → Holds state →
      step state event = some next → Holds next)
    {events : List Event} (admitted : ∀ event ∈ events, Admitted event) {start finish : State}
    (initially : Holds start) (ran : run step start events = some finish) : Holds finish := by
  -- The event list is consumed from the front, carrying the property along.
  induction events generalizing start with
  | nil =>
    simp only [run, Option.some.injEq] at ran
    exact ran ▸ initially
  | cons event rest ih =>
    obtain ⟨next, taken, ran⟩ := run_cons.mp ran
    have holds := preserved start event next (admitted event (by simp)) initially taken
    exact ih (fun other member => admitted other (by simp [member])) holds ran

/-- A reflexive and transitive relation kept by each step from good states spans whole runs. -/
theorem run_relates {step : State → Event → Option State} (Admitted : Event → Prop)
    (Holds : State → Prop) (Relates : State → State → Prop)
    (refl : ∀ state, Relates state state)
    (trans : ∀ first second third, Relates first second → Relates second third →
      Relates first third)
    (preserved : ∀ state event next, Admitted event → Holds state →
      step state event = some next → Holds next)
    (related : ∀ state event next, Admitted event → Holds state →
      step state event = some next → Relates state next)
    {events : List Event} (admitted : ∀ event ∈ events, Admitted event) {start finish : State}
    (initially : Holds start) (ran : run step start events = some finish) :
    Relates start finish := by
  -- Each step relates neighbouring states, and transitivity joins the links.
  induction events generalizing start with
  | nil =>
    simp only [run, Option.some.injEq] at ran
    exact ran ▸ refl start
  | cons event rest ih =>
    obtain ⟨next, taken, ran⟩ := run_cons.mp ran
    have here := admitted event (by simp)
    have holds := preserved start event next here initially taken
    exact trans _ _ _ (related start event next here initially taken)
      (ih (fun other member => admitted other (by simp [member])) holds ran)

/-- How many steps of a run are of a given kind, judged in the state before each of them. -/
def occurrences (step : State → Event → Option State) (kind : State → Event → Bool) :
    State → List Event → Nat
  | _, [] => 0
  | state, event :: rest => (kind state event).toNat +
    ((step state event).elim 0 fun next => occurrences step kind next rest)

/-- If each step is paid for by a potential, or wasted, the potential bounds the steps of a run. -/
theorem occurrences_le {step : State → Event → Option State} (Admitted : Event → Prop)
    (Holds : State → Prop) {kind waste : State → Event → Bool} (potential : State → Nat)
    (preserved : ∀ state event next, Admitted event → Holds state →
      step state event = some next → Holds next)
    (paid : ∀ state event next, Admitted event → Holds state → step state event = some next →
      (kind state event).toNat + potential next ≤ potential state + (waste state event).toNat)
    {events : List Event} (admitted : ∀ event ∈ events, Admitted event) {start finish : State}
    (initially : Holds start) (ran : run step start events = some finish) :
    occurrences step kind start events + potential finish ≤
      potential start + occurrences step waste start events := by
  -- The bounds of the steps add up, and the potentials between them cancel.
  induction events generalizing start with
  | nil =>
    simp only [run, Option.some.injEq] at ran
    subst ran
    simp [occurrences]
  | cons event rest ih =>
    obtain ⟨next, taken, ran⟩ := run_cons.mp ran
    have here := admitted event (by simp)
    have first := paid start event next here initially taken
    have others := ih (fun other member => admitted other (by simp [member]))
      (preserved start event next here initially taken) ran
    simp only [occurrences, taken, Option.elim_some]
    omega

/-- If each step changes an amount by what it brings and what it takes, so does a whole run. -/
theorem occurrences_balance {step : State → Event → Option State} (Admitted : Event → Prop)
    (Holds : State → Prop) {brings takes : State → Event → Bool} (amount : State → Nat)
    (preserved : ∀ state event next, Admitted event → Holds state →
      step state event = some next → Holds next)
    (balanced : ∀ state event next, Admitted event → Holds state → step state event = some next →
      amount next + (takes state event).toNat = amount state + (brings state event).toNat)
    {events : List Event} (admitted : ∀ event ∈ events, Admitted event) {start finish : State}
    (initially : Holds start) (ran : run step start events = some finish) :
    amount finish + occurrences step takes start events =
      amount start + occurrences step brings start events := by
  -- The amounts between the steps cancel.
  induction events generalizing start with
  | nil =>
    simp only [run, Option.some.injEq] at ran
    subst ran
    simp [occurrences]
  | cons event rest ih =>
    obtain ⟨next, taken, ran⟩ := run_cons.mp ran
    have here := admitted event (by simp)
    have first := balanced start event next here initially taken
    have others := ih (fun other member => admitted other (by simp [member]))
      (preserved start event next here initially taken) ran
    simp only [occurrences, taken, Option.elim_some]
    omega

end Scout.Machine
