import Scout.Command.Custody
import Scout.Machine.Pace

/-! Connecting to the motor controller: what is held, what has been seen, and how long it takes. -/

namespace Scout.Command

open Machine Dialogue Wifi

section Custody

variable {ε : Type} {topic : String} {held : List Holding} {moving : Bool}
  {Failed : ε → Custody → Prop}

/-- Asking for the subscribers of a publisher that is held tells whether there are any. -/
theorem leads_subscriberCount (published : .publisher topic ∈ held) :
    Leads ⟨held, false, moving⟩ (subscriberCount topic : CommandM ε Nat)
      (fun subscribers => (· = ⟨held, decide (0 < subscribers), moving⟩)) Failed := by
  -- The answer decides.
  rintro place rfl
  exact answered_subscriberCount ⟨_, rfl, trivial⟩ fun subscribers =>
    ⟨_, along_one (by simp [Custody.rule, published]), rfl⟩

/-- A round of waiting ends with a subscriber, or has not seen one. -/
theorem leads_waitRound (published : .publisher topic ∈ held) (deadline : Instant) :
    Leads ⟨held, false, moving⟩ (waitRound topic deadline : CommandM ε (Unit ⊕ Bool))
      (fun result => result.elim (fun _ => (· = ⟨held, false, moving⟩))
        fun found => (· = ⟨held, found, moving⟩)) Failed := by
  -- Every exit of the round is looked at.
  refine leads_bind (leads_askFlag fun _ _ => rfl) fun alive => ?_
  split
  · exact tracks_pure fun _ same => same
  refine leads_bind leads_instantNow fun now => ?_
  split
  · exact tracks_pure fun _ same => same
  refine leads_bind (leads_subscriberCount published) fun subscribers => ?_
  by_cases some_ : 0 < subscribers
  · rw [if_pos some_, decide_eq_true some_]
    exact tracks_pure fun _ same => same
  · rw [if_neg some_, decide_eq_false some_]
    exact leads_bind leads_sleep fun _ => tracks_pure fun _ same => same

/-- Waiting finds a subscriber, or has not seen one. -/
theorem leads_waitForASubscriber (published : .publisher topic ∈ held) (timeout : Duration) :
    Leads ⟨held, false, moving⟩ (waitForASubscriber topic timeout : CommandM ε Bool)
      (fun found => (· = ⟨held, found, moving⟩)) Failed := by
  -- The last look is as good as any other.
  refine leads_bind leads_instantNow fun now => ?_
  refine leads_bind (tracks_repeatUntil (fun _ => leads_waitRound published _) ()) fun found => ?_
  cases found with
  | true => exact tracks_pure fun _ same => same
  | false =>
    exact leads_bind (leads_subscriberCount published) fun subscribers =>
      tracks_pure fun _ same => same

end Custody

/-- Finding out why there is no connection leads nowhere. -/
theorem leads_motorConnectionError {ε : Type} {custody : Custody} {Failed : ε → Custody → Prop}
    (connection : ConnectionInfo) :
    Leads custody (motorConnectionError connection : CommandM ε String)
      (fun _ => (· = custody)) Failed := by
  -- Also a failure of the question is only a reason.
  have asked : Leads custody askState (fun _ => (· = custody)) fun _ => (· = custody) := by
    rintro place rfl
    refine answered_askState ⟨place, rfl, trivial⟩ fun result => ⟨place, rfl, ?_⟩
    cases result with
    | ok _ => rfl
    | error error => rfl
  refine Tracks.bind asked.attempt fun state => tracks_pure fun place settled => ?_
  cases state with
  | ok _ => exact settled
  | error error => exact settled

/-- After connecting a publisher with a subscriber is held, and after failing nothing more. -/
theorem leads_connectAttempts (connection : ConnectionInfo) {held : List Holding}
    (session : .session ∈ held) (free : .publisher cmdVel ∉ held) (attempts : List Nat) :
    Leads ⟨held, false, false⟩ (connectAttempts connection attempts)
      (fun _ => (· = ⟨.publisher cmdVel :: held, true, false⟩))
      fun _ => (· = ⟨held, false, false⟩) := by
  -- The induction is on the attempts that are left.
  have kept : Custody.keep ⟨held, false, false⟩ (.publisher cmdVel) =
      some ⟨.publisher cmdVel :: held, false, false⟩ := by
    simp [Custody.keep, session, free]
  have released : Custody.release ⟨.publisher cmdVel :: held, false, false⟩ (.publisher cmdVel) =
      some ⟨held, false, false⟩ := by
    simp [Custody.release, Custody.without]
  induction attempts with
  | nil =>
    exact leads_bind (leads_motorConnectionError connection) fun _ => tracks_fail fun _ same => same
  | cons attempt rest ih =>
    refine leads_bind (leads_take kept) fun _ => ?_
    refine leads_bind (leads_waitForASubscriber List.mem_cons_self _) fun found => ?_
    cases found with
    | true => exact tracks_pure fun _ same => same
    | false =>
      -- The publisher is given back before the next attempt takes one.
      refine leads_bind (leads_giveBack released) fun _ => ?_
      by_cases again : attempt < motorConnectionAttempts
      · rw [if_pos again]
        exact leads_bind leads_sleep fun _ => ih
      · rw [if_neg again]
        exact ih

/-- What a command's log tells about time. -/
def commandTiming : Timing CommandEvent where
  reading
    | .clock now => some now
    | _ => none
  pause
    | .slept duration => duration
    | _ => 0

namespace CommandEvent

/-- The subscribers of a publisher are counted. -/
def looks : CommandEvent → Bool
  | .counted _ _ => true
  | _ => false

/-- A publisher is registered, or its registration is refused. -/
def registers : CommandEvent → Bool
  | .taken (.publisher _) _ => true
  | _ => false

/-- What happens while a publisher is waited for. -/
def Awaits (topic : String) : CommandEvent → Prop
  | .alive _ => True
  | .clock _ => True
  | .slept _ => True
  | .counted name _ => name = topic
  | _ => False

/-- Nothing is registered while a publisher is waited for. -/
theorem Awaits.registers {topic : String} {event : CommandEvent} (awaits : event.Awaits topic) :
    event.registers = false := by
  -- Waiting registers nothing.
  cases event with
  | taken holding result => exact awaits.elim
  | _ => rfl

end CommandEvent

/-- No subscriber has been counted. -/
def Unseen (events : List CommandEvent) : Prop :=
  ∀ topic subscribers, .counted topic subscribers ∈ events → subscribers = 0

/-- The last that has happened is that a subscriber was counted. -/
def Seen (topic : String) (events : List CommandEvent) : Prop :=
  ∃ subscribers, 0 < subscribers ∧ events.getLast? = some (.counted topic subscribers)

/-- What has been seen at the end of the second part is seen at the end of both. -/
theorem Seen.append {topic : String} {second : List CommandEvent} (seen : Seen topic second)
    (first : List CommandEvent) : Seen topic (first ++ second) := by
  obtain ⟨subscribers, some_, last⟩ := seen
  exact ⟨subscribers, some_, by rw [List.getLast?_append, last, Option.some_or]⟩

/-- Two parts in which no subscriber was counted. -/
theorem Unseen.append {first second : List CommandEvent} (here : Unseen first)
    (behind : Unseen second) : Unseen (first ++ second) := by
  -- Each event is in one of the two parts.
  intro topic subscribers member
  rcases List.mem_append.mp member with member | member
  · exact here topic subscribers member
  · exact behind topic subscribers member

/-- The pause between two looks. -/
def lookPause : Duration := Duration.fromMillis 50

/-- What the looks for a subscriber before a deadline leave behind. -/
structure Looked {ε : Type} (topic : String) (deadline : Instant) (events : List CommandEvent)
    (reply : Reply ε Bool) : Prop where
  kinds : ∀ event ∈ events, event.Awaits topic
  seen : reply = .returned true → Seen topic events
  unseen : reply ≠ .returned true → Unseen events
  fits : commandTiming.Fits (·.countP CommandEvent.looks) lookPause deadline events
  unfailing : ∀ error, reply ≠ .failed error

section Waiting

variable {ε : Type} {topic : String} {deadline : Instant}

/-- What waiting for a subscriber leaves behind. -/
structure Waited {ε : Type} (topic : String) (timeout : Duration) (events : List CommandEvent)
    (reply : Reply ε Bool) : Prop where
  kinds : ∀ event ∈ events, event.Awaits topic
  seen : reply = .returned true → Seen topic events
  unseen : reply ≠ .returned true → Unseen events
  /-- Where time is told right, the looks fit into the time, and there is one more at the end. -/
  bounded : ∀ earliest, commandTiming.Paced earliest events →
    events.countP CommandEvent.looks * lookPause < timeout + 2 * lookPause
  unfailing : ∀ error, reply ≠ .failed error

/-- At most one look more after those before the deadline fits into the time. -/
theorem Looked.bounded {timeout : Duration} {now : Instant} {events last : List CommandEvent}
    {reply : Reply ε Bool} (looked : Looked topic (now + timeout) events reply)
    (few : last.countP CommandEvent.looks ≤ 1) (earliest : Instant)
    (paced : commandTiming.Paced earliest (.clock now :: (events ++ last))) :
    (CommandEvent.clock now :: (events ++ last)).countP CommandEvent.looks * lookPause <
      timeout + 2 * lookPause := by
  -- The deadline is as far away from the reading of the clock as the timeout says.
  have within : events.countP CommandEvent.looks * lookPause <
      now + timeout - now + lookPause := looked.fits now (Timing.paced_append.mp paced.2).1
  rw [Nat.add_sub_cancel_left] at within
  have counted : (CommandEvent.clock now :: (events ++ last)).countP CommandEvent.looks ≤
      events.countP CommandEvent.looks + 1 := by
    rw [List.countP_cons_of_neg (by simp [CommandEvent.looks]), List.countP_append]
    exact Nat.add_le_add_left few _
  have whole := Nat.mul_le_mul_right lookPause counted
  rw [Nat.add_mul, Nat.one_mul] at whole
  omega

end Waiting

/-- How often the subscribers are counted in one attempt at most. -/
def looksPerAttempt : Nat := 121

/-- What connecting to the motor controller leaves behind, given how many attempts there are. -/
structure Connected (connection : ConnectionInfo) (attempts : Nat) (events : List CommandEvent)
    (reply : Reply String Unit) : Prop where
  /-- A publisher is registered once in each attempt at most. -/
  registrations : events.countP CommandEvent.registers ≤ attempts
  /-- Where time is told right, there are so many looks in each attempt at most. -/
  bounded : ∀ earliest, commandTiming.Paced earliest events →
    events.countP CommandEvent.looks ≤ looksPerAttempt * attempts
  /-- A connection has been seen. -/
  returned : reply = .returned () → Seen cmdVel events
  /-- Either a registration is refused, or nothing was seen and the master's report explains it. -/
  failed : ∀ error, reply = .failed error →
    events.getLast? = some (.taken (.publisher cmdVel) (.error error)) ∨
      ∃ report, events.getLast? = some (.asked report) ∧
        error = motorConnectionText connection report ∧ Unseen events ∧
        events.countP CommandEvent.registers = attempts

section Connecting

variable {connection : ConnectionInfo}

/-- One attempt has been made without a subscriber being seen. -/
structure Attempted (events : List CommandEvent) : Prop where
  registered : events.countP CommandEvent.registers = 1
  bounded : ∀ earliest, commandTiming.Paced earliest events →
    events.countP CommandEvent.looks ≤ looksPerAttempt
  unseen : Unseen events

/-- Waiting for the motor controller takes so many looks at most. -/
theorem Waited.looks_le {ε : Type} {events : List CommandEvent} {reply : Reply ε Bool}
    (waited : Waited cmdVel motorConnectionWait events reply) {earliest : Instant}
    (paced : commandTiming.Paced earliest events) :
    events.countP CommandEvent.looks ≤ looksPerAttempt := by
  -- Six seconds are a hundred and twenty pauses.
  have within := waited.bounded earliest paced
  simp only [lookPause, motorConnectionWait, Duration.fromMillis, Duration.fromSecs] at within
  unfold looksPerAttempt
  omega

/-- A publisher that was waited for in vain makes an attempt. -/
theorem Waited.attempted {ε : Type} {events ending : List CommandEvent} {reply : Reply ε Bool}
    (waited : Waited cmdVel motorConnectionWait events reply) (unseen : Unseen events)
    (quiet : ∀ event ∈ ending, event.registers = false ∧ event.looks = false) :
    Attempted (.taken (.publisher cmdVel) (.ok ()) :: (events ++ ending)) where
  -- The registration comes first, and what follows the waiting is quiet.
  registered := by
    have none : events.countP CommandEvent.registers = 0 :=
      List.countP_eq_zero.mpr fun event member => by simp [(waited.kinds event member).registers]
    have still : ending.countP CommandEvent.registers = 0 :=
      List.countP_eq_zero.mpr fun event member => by simp [(quiet event member).1]
    simp [List.countP_cons, none, still, CommandEvent.registers]
  bounded earliest paced := by
    have still : ending.countP CommandEvent.looks = 0 :=
      List.countP_eq_zero.mpr fun event member => by simp [(quiet event member).2]
    have few := waited.looks_le (Timing.paced_append.mp paced.2).1
    simpa [List.countP_cons, still, CommandEvent.looks] using few
  unseen name count member := by
    simp only [List.mem_cons, List.mem_append, reduceCtorEq, false_or] at member
    rcases member with member | member
    · exact unseen name count member
    · exact absurd (quiet _ member).2 (by simp [CommandEvent.looks])

/-- After an attempt in vain the other attempts decide. -/
theorem Attempted.connected {attempts : Nat} {first more : List CommandEvent}
    {reply : Reply String Unit} (attempted : Attempted first)
    (later : Connected connection attempts more reply) :
    Connected connection (attempts + 1) (first ++ more) reply where
  -- The counts of the two parts add up.
  registrations := by
    have few := later.registrations
    rw [List.countP_append, attempted.registered]
    omega
  bounded earliest paced := by
    obtain ⟨here, behind⟩ := Timing.paced_append.mp paced
    have one := attempted.bounded earliest here
    have others := later.bounded _ behind
    rw [List.countP_append, Nat.mul_add]
    omega
  returned same := (later.returned same).append first
  failed error same := by
    rcases later.failed error same with last | ⟨report, last, text, unseen, count⟩
    · exact .inl (by rw [List.getLast?_append, last, Option.some_or])
    · refine .inr ⟨report, by rw [List.getLast?_append, last, Option.some_or], text,
        attempted.unseen.append unseen, ?_⟩
      rw [List.countP_append, attempted.registered, count, Nat.add_comm]

/-- The addresses of a session at home. -/
def homeConnection : ConnectionInfo where
  masterAddress := ⟨.v4 0x0a2a0001, 11311⟩
  advertiseAddress := .v4 0x0a2a0002

end Connecting

end Scout.Command
