import Scout.Machine.Observation
import Scout.Monitor.Report
import Scout.Motion.Loop

/-! The loop that reports on the sensors once a second, while their messages come in. -/

namespace Scout

/-- Where the monitor stands between two of its effects. -/
inductive MonitorPhase where
  /-- ROS is about to be started. -/
  | connecting
  | subscribing (left : List SensorTopic)
  | starting
  | testing (started : Instant)
  | timing (started : Instant)
  | sleeping (started since : Instant)
  | reporting (started : Instant)
  | closing
  | returned (result : Outcome)

/-- The monitor, the messages that have been handled, and its reports, both in their order. -/
structure Monitor where
  clock : Instant
  phase : MonitorPhase
  subscribed : List SensorTopic
  snapshot : SensorSnapshot
  messages : List SensorMessage
  reports : List (List ReportLine)

/-- A message that comes in, time that passes, or one step of the monitor itself. -/
inductive MonitorEvent where
  | message (message : SensorMessage)
  | tick (elapsed : Duration)
  | main (input : LoopInput)

namespace Monitor

/-- Nothing has been done. -/
def start (clock : Instant) : Monitor where
  clock := clock
  phase := .connecting
  subscribed := []
  snapshot := {}
  messages := []
  reports := []

/-- The topics in the order in which they are subscribed to. -/
def topics : List SensorTopic := [.imu, .tof, .light, .battery]

/-- Go to another phase. -/
def goto (loop : Monitor) (phase : MonitorPhase) : Monitor :=
  { loop with phase }

/-- Return, which ends all subscriptions. -/
def return_ (loop : Monitor) (result : Outcome) : Monitor :=
  { loop with subscribed := [], phase := .returned result }

/-- One effect of the monitor itself. -/
def monitor (seconds : Nat) (loop : Monitor) (input : LoopInput) : Option Monitor :=
  match loop.phase, input with
  | .connecting, .outcome (.ok ()) => some (loop.goto (.subscribing topics))
  | .connecting, .outcome (.error error) => some (loop.return_ (.error error))
  | .subscribing [], .proceed => some (loop.goto .starting)
  | .subscribing (topic :: left), .outcome (.ok ()) =>
    some ({ loop with subscribed := loop.subscribed ++ [topic] }.goto (.subscribing left))
  | .subscribing (_ :: _), .outcome (.error error) => some (loop.return_ (.error error))
  | .starting, .proceed => some (loop.goto (.testing loop.clock))
  | .testing started, .alive isOk =>
    -- Without a number of seconds the monitor goes on until it is interrupted.
    some (loop.goto (if !isOk then .closing
      else if seconds = 0 then .sleeping started loop.clock else .timing started))
  | .timing started, .proceed =>
    some (loop.goto (if loop.clock - started < Duration.fromSecs seconds then
      .sleeping started loop.clock else .closing))
  | .sleeping started since, .proceed =>
    -- A sleep takes a second at least.
    if since + Duration.fromSecs 1 ≤ loop.clock then some (loop.goto (.reporting started)) else none
  | .reporting started, .proceed =>
    -- The snapshot stays locked until the report is written.
    some ({ loop with reports := loop.reports ++ [loop.snapshot.report] }.goto (.testing started))
  | .closing, .proceed => some (loop.return_ (.ok ()))
  | _, _ => none

/-- One step of everything. -/
def step (seconds : Nat) (loop : Monitor) : MonitorEvent → Option Monitor
  | .message message =>
    -- Only a topic that is subscribed to is heard of.
    if message.topic ∈ loop.subscribed then
      some { loop with
        snapshot := loop.snapshot.receive message.topic message.bytes
        messages := loop.messages ++ [message] }
    else none
  | .tick elapsed => some { loop with clock := loop.clock + elapsed }
  | .main input => loop.monitor seconds input

/-- The messages that have been handled when a report is written. -/
def heard (loop : Monitor) (event : MonitorEvent) : Option (List SensorMessage) :=
  match loop.phase, event with
  | .reporting _, .main .proceed => some loop.messages
  | _, _ => none

variable {seconds : Nat} {before after : Monitor}

/-- What the monitor has seen and said, given what it had heard of at each report. -/
structure Truthful (heardOf : List (List SensorMessage)) (loop : Monitor) : Prop where
  snapshot : loop.snapshot = .ofMessages loop.messages
  reports : loop.reports = heardOf.map fun messages => (SensorSnapshot.ofMessages messages).report
  earlier : ∀ messages ∈ heardOf, messages <+: loop.messages

/-- Nothing has been heard or said at the beginning. -/
theorem truthful_start (clock : Instant) : Truthful [] (start clock) where
  -- Nothing has been received.
  snapshot := rfl
  reports := rfl
  earlier := List.forall_mem_nil _

/-- Only a report takes notice of what has been heard of. -/
theorem heard_none {event : MonitorEvent}
    (other : ∀ started, before.phase ≠ .reporting started) : before.heard event = none := by
  -- Messages are heard while a report is made.
  unfold heard
  split
  · rename_i started phase
    exact absurd phase (other started)
  · rfl

/-- What is heard and said stays the same where no report is written. -/
structure Silent (before after : Monitor) : Prop where
  other : ∀ started, before.phase ≠ .reporting started
  snapshot : after.snapshot = before.snapshot
  messages : after.messages = before.messages
  reports : after.reports = before.reports

/-- Going to another phase is silent. -/
theorem silent_goto {phase : MonitorPhase} (other : ∀ started, before.phase ≠ .reporting started) :
    Silent before (before.goto phase) :=
  -- Only the phase changes.
  ⟨other, rfl, rfl, rfl⟩

/-- Returning is silent. -/
theorem silent_return {result : Outcome} (other : ∀ started, before.phase ≠ .reporting started) :
    Silent before (before.return_ result) :=
  -- Only the phase changes.
  ⟨other, rfl, rfl, rfl⟩

/-- An effect of the monitor writes a report, or it is silent. -/
theorem monitor_cases {input : LoopInput} (taken : before.monitor seconds input = some after) :
    (∃ started, before.phase = .reporting started ∧ input = .proceed ∧
      after = { before with reports := before.reports ++ [before.snapshot.report] }.goto
        (.testing started)) ∨ Silent before after := by
  -- The cases follow the branches of the function.
  have silent {phase : MonitorPhase} (was : before.phase = phase)
      (other : ∀ started, phase ≠ .reporting started) :
      ∀ started, before.phase ≠ .reporting started :=
    fun started same => other started (was.symm.trans same)
  unfold monitor at taken
  split at taken <;> rename_i phase
  · exact .inr (Option.some.inj taken ▸ silent_goto (silent phase (by simp)))
  · exact .inr (Option.some.inj taken ▸ silent_return (silent phase (by simp)))
  · exact .inr (Option.some.inj taken ▸ silent_goto (silent phase (by simp)))
  · cases taken
    exact .inr ⟨silent phase (by simp), rfl, rfl, rfl⟩
  · exact .inr (Option.some.inj taken ▸ silent_return (silent phase (by simp)))
  · exact .inr (Option.some.inj taken ▸ silent_goto (silent phase (by simp)))
  · exact .inr (Option.some.inj taken ▸ silent_goto (silent phase (by simp)))
  · exact .inr (Option.some.inj taken ▸ silent_goto (silent phase (by simp)))
  · split at taken
    · exact .inr (Option.some.inj taken ▸ silent_goto (silent phase (by simp)))
    · cases taken
  · exact .inl ⟨_, phase, rfl, (Option.some.inj taken).symm⟩
  · exact .inr (Option.some.inj taken ▸ silent_return (silent phase (by simp)))
  · cases taken

/-- Every step keeps the account of what has been heard and said. -/
theorem Truthful.step {heardOf : List (List SensorMessage)} (truthful : Truthful heardOf before)
    {event : MonitorEvent} (taken : before.step seconds event = some after) :
    Truthful (heardOf ++ (before.heard event).toList) after := by
  have silent (none : before.heard event = none) (same : Truthful heardOf after) :
      Truthful (heardOf ++ (before.heard event).toList) after := by
    rw [none, Option.toList_none, List.append_nil]
    exact same
  cases event with
  | message message =>
    have none : before.heard (.message message) = none := by
      unfold heard
      split
      · rename_i same
        cases same
      · rfl
    unfold Monitor.step at taken
    dsimp only at taken
    split at taken
    · cases taken
      refine silent none ⟨?_, truthful.reports, fun messages member => ?_⟩
      · show before.snapshot.receive message.topic message.bytes = _
        rw [truthful.snapshot]
        exact SensorSnapshot.receive_ofMessages _ _
      · exact (truthful.earlier messages member).trans (List.prefix_append _ _)
    · cases taken
  | tick elapsed =>
    have none : before.heard (.tick elapsed) = none := by
      unfold heard
      split
      · rename_i same
        cases same
      · rfl
    cases taken
    exact silent none ⟨truthful.snapshot, truthful.reports, truthful.earlier⟩
  | main input =>
    rcases monitor_cases taken with ⟨started, phase, rfl, rfl⟩ | still
    · -- The report is that of the snapshot, and of the messages so far.
      have seen : before.heard (.main .proceed) = some before.messages := by
        simp [heard, phase]
      rw [seen]
      refine ⟨truthful.snapshot, ?_, ?_⟩
      · show before.reports ++ [before.snapshot.report] = _
        rw [truthful.reports, truthful.snapshot, List.map_append]
        rfl
      · exact List.forall_mem_append.mpr
          ⟨truthful.earlier, List.forall_mem_singleton.mpr (List.prefix_refl _)⟩
    · exact silent (heard_none still.other) {
        snapshot := by rw [still.snapshot, still.messages]; exact truthful.snapshot
        reports := still.reports.trans truthful.reports
        earlier := still.messages ▸ truthful.earlier }

/-- How many reports have been written by when, as far as the number of seconds is limited. -/
def Paced (seconds : Nat) (loop : Monitor) : Prop :=
  match loop.phase with
  | .testing started => started + Duration.fromSecs loop.reports.length ≤ loop.clock ∧
      (0 < seconds → loop.reports.length ≤ seconds)
  | .timing started => started + Duration.fromSecs loop.reports.length ≤ loop.clock ∧
      (0 < seconds → loop.reports.length ≤ seconds)
  | .sleeping started since => started + Duration.fromSecs loop.reports.length ≤ since ∧
      since ≤ loop.clock ∧ (0 < seconds → loop.reports.length < seconds)
  | .reporting started => started + Duration.fromSecs (loop.reports.length + 1) ≤ loop.clock ∧
      (0 < seconds → loop.reports.length < seconds)
  | .closing => 0 < seconds → loop.reports.length ≤ seconds
  | .returned _ => 0 < seconds → loop.reports.length ≤ seconds
  | _ => loop.reports = []

/-- After fewer seconds than there are in all, there are fewer of them. -/
theorem lt_of_fromSecs_lt {started clock count : Nat}
    (spent : started + Duration.fromSecs count ≤ clock)
    (time : clock - started < Duration.fromSecs seconds) : count < seconds := by
  -- Both durations are counted in the same unit.
  unfold Duration.fromSecs at spent time
  omega

/-- A second later one more second is over. -/
theorem fromSecs_succ_le {started since clock count : Nat}
    (spent : started + Duration.fromSecs count ≤ since)
    (slept : since + Duration.fromSecs 1 ≤ clock) :
    started + Duration.fromSecs (count + 1) ≤ clock := by
  -- A second more is counted once it has been slept.
  have more : Duration.fromSecs (count + 1) = Duration.fromSecs count + Duration.fromSecs 1 :=
    Nat.add_mul _ _ _
  rw [more]
  generalize Duration.fromSecs 1 = second at slept ⊢
  omega

/-- Every effect of the monitor keeps its pace. -/
theorem Paced.monitor (paced : Paced seconds before) {input : LoopInput}
    (taken : before.monitor seconds input = some after) : Paced seconds after := by
  -- The cases follow the branches, each with what is known in its phase.
  unfold Monitor.monitor at taken
  unfold Paced at paced
  split at taken
  · rename_i phase
    rw [phase] at paced
    cases taken
    exact paced
  · rename_i phase
    rw [phase] at paced
    cases taken
    exact fun _ => by simp [return_, paced]
  · rename_i phase
    rw [phase] at paced
    cases taken
    exact paced
  · rename_i phase
    rw [phase] at paced
    cases taken
    exact paced
  · rename_i phase
    rw [phase] at paced
    cases taken
    exact fun _ => by simp [return_, paced]
  · rename_i phase
    rw [phase] at paced
    cases taken
    simp [Paced, goto, paced, Duration.fromSecs]
  · rename_i started isOk phase
    rw [phase] at paced
    cases taken
    by_cases alive : isOk = true
    · by_cases unlimited : seconds = 0
      · simp only [alive, unlimited, Bool.not_true, Bool.false_eq_true, if_false, if_true]
        exact ⟨paced.1, Nat.le_refl _, fun some_ => absurd some_ (Nat.lt_irrefl 0)⟩
      · simpa [Paced, goto, alive, unlimited] using paced
    · simpa [Paced, goto, alive] using paced.2
  · rename_i started phase
    rw [phase] at paced
    cases taken
    by_cases time : before.clock - started < Duration.fromSecs seconds
    · -- As long as there is time left, there are reports left.
      rw [if_pos time]
      refine ⟨paced.1, Nat.le_refl _, fun _ => ?_⟩
      exact lt_of_fromSecs_lt paced.1 time
    · rw [if_neg time]
      exact paced.2
  · rename_i started since phase
    rw [phase] at paced
    split at taken
    · rename_i slept
      cases taken
      exact ⟨fromSecs_succ_le paced.1 slept, paced.2.2⟩
    · cases taken
  · rename_i started phase
    rw [phase] at paced
    cases taken
    have one : (before.reports ++ [before.snapshot.report]).length = before.reports.length + 1 :=
      List.length_append
    refine ⟨?_, fun limited => ?_⟩
    · show started + Duration.fromSecs (before.reports ++ [before.snapshot.report]).length ≤ _
      rw [one]
      exact paced.1
    · show (before.reports ++ [before.snapshot.report]).length ≤ seconds
      rw [one]
      exact paced.2 limited
  · rename_i phase
    rw [phase] at paced
    cases taken
    exact paced
  · cases taken

/-- Every step keeps the pace of the monitor. -/
theorem Paced.step (paced : Paced seconds before) {event : MonitorEvent}
    (taken : before.step seconds event = some after) : Paced seconds after := by
  -- Neither messages nor time move the monitor.
  cases event with
  | message message =>
    unfold Monitor.step at taken
    dsimp only at taken
    split at taken
    · cases taken
      exact paced
    · cases taken
  | tick elapsed =>
    cases taken
    unfold Paced at paced ⊢
    dsimp only
    split at paced
    · exact ⟨Nat.le_add_right_of_le paced.1, paced.2⟩
    · exact ⟨Nat.le_add_right_of_le paced.1, paced.2⟩
    · exact ⟨paced.1, Nat.le_add_right_of_le paced.2.1, paced.2.2⟩
    · exact ⟨Nat.le_add_right_of_le paced.1, paced.2⟩
    · exact paced
    · exact paced
    · exact paced
  | main input => exact paced.monitor taken

/-- With a number of seconds, there are no more reports than that. -/
theorem Paced.bounded (paced : Paced seconds before) (limited : 0 < seconds) :
    before.reports.length ≤ seconds := by
  -- In every phase the bound is known.
  unfold Paced at paced
  split at paced
  · exact paced.2 limited
  · exact paced.2 limited
  · exact Nat.le_of_lt (paced.2.2 limited)
  · exact Nat.le_of_lt (paced.2 limited)
  · exact paced limited
  · exact paced limited
  · simp [paced]

/-- A monitor that has returned is subscribed to nothing any more. -/
def Unsubscribed (loop : Monitor) : Prop :=
  ∀ result, loop.phase = .returned result → loop.subscribed = []

/-- Going to a phase of the loop is not returning. -/
theorem unsubscribed_goto {loop : Monitor} {phase : MonitorPhase}
    (going : ∀ result, phase ≠ .returned result) : Unsubscribed (loop.goto phase) :=
  -- The loop has not returned.
  fun result same => absurd same (going result)

/-- The subscriptions end when the monitor returns. -/
theorem Unsubscribed.step (unsubscribed : Unsubscribed before) {event : MonitorEvent}
    (taken : before.step seconds event = some after) : Unsubscribed after := by
  cases event with
  | message message =>
    unfold Monitor.step at taken
    dsimp only at taken
    split at taken
    · cases taken
      exact unsubscribed
    · cases taken
  | tick elapsed =>
    cases taken
    exact unsubscribed
  | main input =>
    -- The branches either go on or return.
    unfold Monitor.step monitor at taken
    dsimp only at taken
    split at taken
    · exact Option.some.inj taken ▸ unsubscribed_goto (by simp)
    · exact Option.some.inj taken ▸ fun _ _ => rfl
    · exact Option.some.inj taken ▸ unsubscribed_goto (by simp)
    · exact Option.some.inj taken ▸ unsubscribed_goto (by simp)
    · exact Option.some.inj taken ▸ fun _ _ => rfl
    · exact Option.some.inj taken ▸ unsubscribed_goto (by simp)
    · refine Option.some.inj taken ▸ unsubscribed_goto fun result => ?_
      split
      · simp
      · split <;> simp
    · refine Option.some.inj taken ▸ unsubscribed_goto fun result => ?_
      split <;> simp
    · split at taken
      · exact Option.some.inj taken ▸ unsubscribed_goto (by simp)
      · cases taken
    · exact Option.some.inj taken ▸ unsubscribed_goto (by simp)
    · exact Option.some.inj taken ▸ fun _ _ => rfl
    · cases taken

/-- The messages that have been handled at each of the reports of a run. -/
def heardAtReports (seconds : Nat) (clock : Instant) (events : List MonitorEvent) :
    List (List SensorMessage) :=
  Machine.observations (step seconds) heard (start clock) events

/-- Every report tells the last reading of each sensor that could be decoded by then, or that there
is none. At most one is made in each second asked for, and in the end nothing is subscribed to. -/
theorem monitor_reports_last_readings {clock : Instant} {events : List MonitorEvent}
    {loop : Monitor}
    (ran : Machine.run (step seconds) (start clock) events = some loop) :
    loop.reports = (heardAtReports seconds clock events).map
      (fun messages => (SensorSnapshot.ofMessages messages).report) ∧
    (∀ messages ∈ heardAtReports seconds clock events, messages <+: loop.messages ∧
      (.waiting ∈ (SensorSnapshot.ofMessages messages).report ↔
        ∀ message ∈ messages, message.decodes = false)) ∧
    (0 < seconds → loop.reports.length ≤ seconds) ∧
    ∀ result, loop.phase = .returned result → loop.subscribed = [] := by
  -- The account, the pace and the subscriptions are kept by each step.
  have truthful : Truthful (heardAtReports seconds clock events) loop :=
    Machine.run_explains Truthful (fun _ _ _ _ truthful taken => truthful.step taken)
      (truthful_start clock) ran
  have begun : Paced seconds (start clock) := rfl
  have paced : Paced seconds loop :=
    Machine.run_invariant (fun _ => True) (Paced seconds)
      (fun _ _ _ _ paced taken => Paced.step paced taken) (fun _ _ => trivial) begun ran
  have unsubscribed : Unsubscribed loop :=
    Machine.run_invariant (fun _ => True) Unsubscribed
      (fun _ _ _ _ unsubscribed taken => Unsubscribed.step unsubscribed taken)
      (fun _ _ => trivial) (fun _ same => by cases same) ran
  exact ⟨truthful.reports, fun messages member => ⟨truthful.earlier messages member,
    SensorSnapshot.waiting_mem_report messages⟩, paced.bounded, unsubscribed⟩

/-- A message about a battery that is half full and discharging. -/
def halfFull : SensorMessage where
  topic := .battery
  bytes := [3, 0, 0, 0, 1, 0, 0, 0, 50, 0, 0, 0, 0, 0, 0, 0]

/-- A monitor for one second hears of the battery between two tests. -/
def batteryRun : List MonitorEvent :=
  [.main (.outcome (.ok ())), .main (.outcome (.ok ())), .main (.outcome (.ok ())),
    .main (.outcome (.ok ())), .main (.outcome (.ok ())), .main .proceed, .main .proceed,
    .main (.alive true), .main .proceed, .message halfFull, .tick (Duration.fromSecs 1),
    .main .proceed, .main .proceed, .main (.alive true), .main .proceed, .main .proceed]

/-- It reports on the battery once, and returns without a subscription. -/
theorem monitor_reports_last_readings_battery :
    ∃ loop, Machine.run (step 1) (start 0) batteryRun = some loop ∧
      loop.reports = [[.battery 50 .discharging false]] ∧ loop.reports.length ≤ 1 ∧
      ∀ messages ∈ heardAtReports 1 0 batteryRun, messages <+: loop.messages := by
  -- The run is evaluated, and the theorem is applied to the state it ends in.
  have ends : ((Machine.run (step 1) (start 0) batteryRun).any fun loop =>
      loop.reports == [[.battery 50 .discharging false]]) = true := by decide +kernel
  obtain ⟨loop, ran, reports⟩ := (Option.any_eq_true _ _).mp ends
  obtain ⟨_, earlier, bounded, _⟩ := monitor_reports_last_readings ran
  exact ⟨loop, ran, beq_iff_eq.mp reports, bounded (by decide), fun messages member =>
    (earlier messages member).1⟩

end Monitor
end Scout
