import Scout.Machine.Run

/-! What is seen of a machine at the steps of its runs. -/

namespace Scout.Machine

variable {State Event Seen : Type} {step : State → Event → Option State}
  {see : State → Event → Option Seen}

/-- What is seen at the steps of a run, in their order. -/
def observations (step : State → Event → Option State) (see : State → Event → Option Seen) :
    State → List Event → List Seen
  | _, [] => []
  | state, event :: rest => (see state event).toList ++
    ((step state event).elim [] fun next => observations step see next rest)

/-- What is seen of a step is seen before all that is seen later. -/
theorem observations_cons {start next : State} {event : Event} {rest : List Event}
    (taken : step start event = some next) :
    observations step see start (event :: rest) =
      (see start event).toList ++ observations step see next rest := by
  simp [observations, taken]

/-- The observations of a run are those of its parts. -/
theorem observations_append {start middle : State} {first second : List Event}
    (ran : run step start first = some middle) :
    observations step see start (first ++ second) =
      observations step see start first ++ observations step see middle second := by
  -- The first list is consumed one event at a time.
  induction first generalizing start with
  | nil =>
    simp only [run, Option.some.injEq] at ran
    simp [observations, ran]
  | cons event rest ih =>
    obtain ⟨next, taken, ran⟩ := run_cons.mp ran
    rw [List.cons_append, observations_cons taken, observations_cons taken, ih ran,
      List.append_assoc]

/-- Whatever is seen is seen at some step of the run. -/
theorem mem_observations {start finish : State} {events : List Event} {seen : Seen}
    (ran : run step start events = some finish)
    (member : seen ∈ observations step see start events) :
    ∃ first event rest state, events = first ++ event :: rest ∧
      run step start first = some state ∧ see state event = some seen := by
  -- It is seen at the first step or later on.
  induction events generalizing start with
  | nil => cases member
  | cons event rest ih =>
    obtain ⟨next, taken, ran⟩ := run_cons.mp ran
    rw [observations_cons taken, List.mem_append, Option.mem_toList] at member
    rcases member with here | later
    · exact ⟨[], event, rest, start, rfl, rfl, here⟩
    · obtain ⟨first, other, last, state, rfl, reached, found⟩ := ih ran later
      exact ⟨event :: first, other, last, state, rfl, run_cons.mpr ⟨next, taken, reached⟩, found⟩

/-- If each step keeps what is seen so far in a relation to the state, so does a whole run. -/
theorem run_explains (Explains : List Seen → State → Prop)
    (preserved : ∀ seen state event next, Explains seen state → step state event = some next →
      Explains (seen ++ (see state event).toList) next)
    {events : List Event} {start finish : State} {earlier : List Seen}
    (initially : Explains earlier start) (ran : run step start events = some finish) :
    Explains (earlier ++ observations step see start events) finish := by
  -- What has been seen earlier grows by each step.
  induction events generalizing start earlier with
  | nil =>
    simp only [run, Option.some.injEq] at ran
    simpa [observations, ran] using initially
  | cons event rest ih =>
    obtain ⟨next, taken, ran⟩ := run_cons.mp ran
    rw [observations_cons taken, ← List.append_assoc]
    exact ih (preserved _ _ _ _ initially taken) ran

/-- If each step keeps the events so far in a relation to the state, so does a whole run. -/
theorem run_recounts (Recounts : List Event → State → Prop)
    (preserved : ∀ earlier state event next, Recounts earlier state →
      step state event = some next → Recounts (earlier ++ [event]) next)
    {events : List Event} {start finish : State} {earlier : List Event}
    (initially : Recounts earlier start) (ran : run step start events = some finish) :
    Recounts (earlier ++ events) finish := by
  -- The events so far grow by each step.
  induction events generalizing start earlier with
  | nil =>
    simp only [run, Option.some.injEq] at ran
    simpa [ran] using initially
  | cons event rest ih =>
    obtain ⟨next, taken, ran⟩ := run_cons.mp ran
    rw [List.append_cons]
    exact ih (preserved _ _ _ _ initially taken) ran

/-- If each step pays for what is seen at it by a potential, no run shows more than that. -/
theorem length_observations_le (Holds : State → Prop) (potential : State → Nat)
    (preserved : ∀ state event next, Holds state → step state event = some next → Holds next)
    (paid : ∀ state event next, Holds state → step state event = some next →
      (see state event).isSome.toNat + potential next ≤ potential state)
    {events : List Event} {start finish : State} (initially : Holds start)
    (ran : run step start events = some finish) :
    (observations step see start events).length ≤ potential start := by
  -- What is left of the potential pays for what is seen later.
  induction events generalizing start with
  | nil => exact Nat.zero_le _
  | cons event rest ih =>
    obtain ⟨next, taken, ran⟩ := run_cons.mp ran
    have here : (see start event).toList.length = (see start event).isSome.toNat := by
      cases see start event <;> rfl
    have first := paid start event next initially taken
    have later := ih (preserved start event next initially taken) ran
    rw [observations_cons taken, List.length_append, here]
    omega

end Scout.Machine
