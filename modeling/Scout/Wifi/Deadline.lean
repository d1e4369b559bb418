import Scout.Machine.Schedule
import Scout.Wifi.Delivery

/-! One deadline covers every call of the exchange that can block. -/

namespace Scout.Wifi

open Machine Dialogue NetworkM

/-- Whether a call waits for the network: for the resolver, for a connection, or for bytes. -/
def NetworkEvent.blocks : NetworkEvent → Bool
  | .resolved _ _ => true
  | .connected _ _ _ _ => true
  | .read _ _ _ => true
  | .write _ _ _ => true
  | _ => false

/-- A reading of the clock is the last thing but for calls that do not block. -/
def ReadLast (before : List NetworkEvent) (time : Instant) : Prop :=
  ∃ earlier between, before = earlier ++ .now time :: between ∧
    ∀ event ∈ between, event.blocks = false

/-- A limit was set to a timeout, and it was not set again since. -/
def LastSet (setting : Duration → Except ErrorKind Unit → NetworkEvent)
    (before : List NetworkEvent) (timeout : Duration) : Prop :=
  ∃ earlier between, before = earlier ++ setting timeout (.ok ()) :: between ∧
    ∀ other result, setting other result ∉ between

/-- The timeout that the operating system observes in a call, given the calls before. -/
def Limited (before : List NetworkEvent) : NetworkEvent → Duration → Prop
  | .resolved limit _, timeout => timeout = limit
  | .connected _ _ limit _, timeout => timeout = limit
  | .read stream _ _, timeout => LastSet (.setReadTimeout stream) before timeout
  | .write stream _ _, timeout => LastSet (.setWriteTimeout stream) before timeout
  | _, _ => False

/-- A call that blocks begins before the deadline, and for no longer than the time that is left. -/
def Governed (deadline : Instant) (before : List NetworkEvent) (event : NetworkEvent) : Prop :=
  event.blocks = true → ∃ time timeout, ReadLast before time ∧ Limited before event timeout ∧
    time < deadline ∧ 0 < timeout ∧ timeout ≤ deadline - time

/-- Every call of a log that blocks is governed by the deadline. -/
def Timely (deadline : Instant) (events : List NetworkEvent) : Prop :=
  ∀ before event after, events = before ++ event :: after → Governed deadline before event

section Logs

variable {deadline : Instant} {before earlier events : List NetworkEvent} {event : NetworkEvent}
  {timeout : Duration}

/-- Calls further back do not change what was set last. -/
theorem LastSet.extend {setting : Duration → Except ErrorKind Unit → NetworkEvent}
    (set_ : LastSet setting before timeout) : LastSet setting (earlier ++ before) timeout := by
  -- The setting is found in the same place, and nothing comes behind it.
  obtain ⟨front, between, same, kept⟩ := set_
  exact ⟨earlier ++ front, between, by simp [same], kept⟩

/-- Calls further back do not change the timeout. -/
theorem Limited.extend (limited : Limited before event timeout) :
    Limited (earlier ++ before) event timeout := by
  -- Only for reads and writes it depends on the calls before.
  cases event with
  | read _ _ _ => exact LastSet.extend limited
  | write _ _ _ => exact LastSet.extend limited
  | resolved _ _ => exact limited
  | connected _ _ _ _ => exact limited
  | _ => exact limited.elim

/-- Calls further back do not matter for whether a call is governed. -/
theorem Governed.extend (governed : Governed deadline before event) :
    Governed deadline (earlier ++ before) event := by
  -- The last reading and the timeout are the same.
  intro blocks
  obtain ⟨time, timeout, ⟨front, between, same, idle⟩, limited, bounds⟩ := governed blocks
  have last : ReadLast (earlier ++ before) time := ⟨earlier ++ front, between, by simp [same], idle⟩
  exact ⟨time, timeout, last, limited.extend, bounds⟩

/-- Timely logs make up timely logs. -/
theorem composable_timely : Composable (Timely deadline) where
  nil before event after whole := by simp at whole
  append {first second} firstTimely secondTimely := by
    -- A call stands in the first log, or in the second one behind the first.
    intro before event after whole
    rcases List.append_eq_append_iff.mp whole with ⟨middle, same, rest⟩ | ⟨middle, same, rest⟩
    · -- It stands in the second log.
      rw [same]
      exact (secondTimely middle event after rest).extend
    · -- It stands in the first log, unless that is over before it.
      cases middle with
      | nil =>
        rw [List.append_nil] at same
        rw [← same]
        exact (List.append_nil first) ▸ (secondTimely [] event after rest.symm).extend
      | cons head others =>
        obtain ⟨rfl, rfl⟩ := List.cons.inj rest
        exact firstTimely before event others same

/-- A log without calls that block is timely. -/
theorem timely_of_idle (idle : ∀ event ∈ events, event.blocks = false) :
    Timely deadline events := by
  -- There is nothing to be governed.
  intro before event after whole blocks
  have quiet := idle event (by simp [whole])
  rw [quiet] at blocks
  cases blocks

/-- A call that blocks is timely behind a reading of the clock and the setting of its limit. -/
theorem timely_of_limited {time : Instant} (idle : ∀ event ∈ events, event.blocks = false)
    (limited : Limited (.now time :: events) event timeout) (started : time < deadline)
    (positive : 0 < timeout) (enough : timeout ≤ deadline - time) :
    Timely deadline (.now time :: events ++ [event]) := by
  intro before other after whole blocks
  -- It is the last call of the log, and all others do not block.
  have quiet : ∀ event ∈ NetworkEvent.now time :: events, event.blocks = false :=
    List.forall_mem_cons.mpr ⟨rfl, idle⟩
  rcases List.eq_nil_or_concat after with rfl | ⟨front, last, rfl⟩
  · -- The call itself begins after the reading, with nothing but the setting between.
    obtain ⟨same, single⟩ := List.append_inj' whole rfl
    cases single
    rw [← same]
    exact ⟨time, timeout, ⟨[], events, rfl, idle⟩, limited, started, positive, enough⟩
  · -- Any other call is one of those that do not block.
    have split : NetworkEvent.now time :: events = before ++ other :: front := by
      have longer : NetworkEvent.now time :: events ++ [event] =
          (before ++ other :: front) ++ [last] := by simp [whole]
      exact (List.append_inj' longer rfl).1
    have idleOther := quiet other (by rw [split]; simp)
    rw [idleOther] at blocks
    cases blocks

end Logs

section Measuring

variable {deadline : Instant} {ε α : Type}

/-- A program keeps a log timely that ends with a reading of the clock. -/
abbrev UpholdsAfter (deadline time : Instant) (events : List NetworkEvent)
    (program : NetworkM ε α) : Prop :=
  Upholds (fun more => Timely deadline (.now time :: events ++ more)) program

/-- A program without calls that block keeps every log timely. -/
theorem upholds_of_idle {program : NetworkM ε α}
    (idle : Emits (fun event => event.blocks = false) program) :
    Upholds (Timely deadline) program :=
  Leaves.mono idle fun _ _ => timely_of_idle

/-- What measuring the time that is left leaves behind: an early reading, if it returns. -/
def Measured (deadline : Instant) (events : List NetworkEvent) (reply : Reply ε Duration) : Prop :=
  match reply with
  | .returned left => ∃ time, events = [.now time] ∧ time < deadline ∧ left = deadline - time
  | _ => ∀ event ∈ events, event.blocks = false

/-- Measuring the time that is left leaves an early reading behind, if it returns. -/
theorem measured_remaining : Leaves (Measured deadline) (remaining deadline) := by
  -- The clock is read once, and the reading is what is returned.
  refine Leaves.bind leaves_instantNow (fun _ _ none => none.elim) ?_ ?_
  · rintro events rfl
    exact List.forall_mem_nil _
  rintro events time rfl
  -- Some time is left exactly if the reading is before the deadline.
  by_cases early : time < deadline
  · simp only [filter_since_early early]
    apply leaves_pure
    exact ⟨time, rfl, early, rfl⟩
  · simp only [filter_since_late (Nat.le_of_not_lt early)]
    apply leaves_fail
    rw [List.append_nil]
    exact List.forall_mem_singleton.mpr rfl

/-- After measuring, the rest keeps a log timely that begins with an early reading. -/
theorem upholds_measured {program : NetworkM ε Duration} {next : Duration → NetworkM ε α}
    (measured : Leaves (Measured deadline) program)
    (goes : ∀ time, time < deadline → UpholdsAfter deadline time [] (next (deadline - time))) :
    Upholds (Timely deadline) (program >>= next) := by
  -- Without a reading before the deadline nothing follows.
  refine Leaves.bind measured (fun _ _ idle => timely_of_idle idle)
    (fun _ idle => timely_of_idle idle) ?_
  intro events left found
  obtain ⟨time, rfl, early, rfl⟩ := found
  exact goes time early

/-- Reporting the lack of time otherwise changes nothing. -/
theorem Measured.mapError {program : NetworkM WifiProvisioningError Duration}
    (measured : Leaves (Measured deadline) program) (convert : WifiProvisioningError → ε) :
    Leaves (Measured deadline) (program.mapError convert) := by
  -- The events are the same.
  refine (Leaves.mapError measured convert).mono fun events reply related => ?_
  match reply, related with
  | .returned _, left => exact left
  | .failed _, ⟨_, _, idle⟩ => exact idle
  | .waiting, idle => exact idle

/-- A question keeps a log timely if its call observes a timeout that ends in time. -/
theorem upholds_ask {question : List NetworkEvent → SystemAnswer →
      Option (NetworkEvent × Except ε α)} {time : Instant} {events : List NetworkEvent}
    {timeout : Duration} (idle : ∀ event ∈ events, event.blocks = false)
    (limited : Emits (fun event => Limited (.now time :: events) event timeout) (ask question))
    (started : time < deadline) (positive : 0 < timeout) (enough : timeout ≤ deadline - time) :
    UpholdsAfter deadline time events (ask question) := by
  -- There is one such call at most.
  refine Leaves.mono (Emits.single limited) fun more reply single => ?_
  rcases single with rfl | ⟨event, rfl, limit⟩
  · rw [List.append_nil]
    exact timely_of_idle (List.forall_mem_cons.mpr ⟨rfl, idle⟩)
  · exact timely_of_limited idle limit started positive enough

/-- Setting a limit is followed by a question on which it is observed. -/
theorem upholds_setting {setting : Duration → Except ErrorKind Unit → NetworkEvent}
    {next : Unit → NetworkM ErrorKind α} {time : Instant}
    (idle : ∀ timeout result, (setting timeout result).blocks = false) (left : Duration)
    (goes : UpholdsAfter deadline time [setting left (.ok ())] (next ())) :
    UpholdsAfter deadline time [] (askDone (setting left) >>= next) := by
  -- The setting does not block, and it is in force if it succeeds.
  have set_ : Leaves (fun events (reply : Reply ErrorKind Unit) =>
      (∀ event ∈ events, event.blocks = false) ∧
        ∀ value, reply = .returned value → events = [setting left (.ok ())])
      (askDone (setting left)) := by
    refine answered_askDone (by simp) fun result => ?_
    cases result with
    | ok _ => simp [idle, Reply.ofResult]
    | error kind => simp [idle, Reply.ofResult]
  have quiet : ∀ events : List NetworkEvent, (∀ event ∈ events, event.blocks = false) →
      Timely deadline ([.now time] ++ events) := fun events idle =>
    timely_of_idle (List.forall_mem_cons.mpr ⟨rfl, idle⟩)
  -- If setting the limit fails, nothing blocks.
  refine Leaves.bind set_ (fun events _ both => quiet events both.1)
    (fun events both => quiet events both.1) ?_
  intro events value both
  rw [both.2 value rfl]
  exact goes

end Measuring

section Programs

variable {deadline : Instant} {connection : Connection}

/-- A transfer before whose question its limit is set to the time that is left is timely. -/
theorem timely_transfer {α : Type} {setting : Duration → Except ErrorKind Unit → NetworkEvent}
    {question : List NetworkEvent → SystemAnswer → Option (NetworkEvent × Except ErrorKind α)}
    (idle : ∀ timeout result, (setting timeout result).blocks = false)
    (observes : ∀ before timeout, LastSet setting before timeout →
      Emits (fun event => Limited before event timeout) (ask question)) :
    Upholds (Timely deadline) (do
      let left ← (remaining deadline).mapError fun _ => ErrorKind.timedOut
      askDone (setting left)
      ask question) := by
  -- The time is measured first, and the limit is set to what is left.
  apply upholds_measured (Measured.mapError measured_remaining _)
  intro time early
  apply upholds_setting idle
  -- Nothing has been set since, and the time that is left is the timeout.
  have last : LastSet setting (.now time :: [setting (deadline - time) (.ok ())])
      (deadline - time) := ⟨[.now time], [], rfl, by simp⟩
  exact upholds_ask (List.forall_mem_singleton.mpr (idle _ _)) (observes _ _ last) early
    (Nat.sub_pos_of_lt early) (Nat.le_refl _)

/-- Reading some bytes is timely. -/
theorem timely_read (room : Nat) :
    Upholds (Timely connection.deadline) (connection.read room) :=
  timely_transfer (fun _ _ => rfl) fun _ _ last => emits_recv fun _ => last

/-- Writing some bytes is timely. -/
theorem timely_write (bytes : Bytes) :
    Upholds (Timely connection.deadline) (connection.write bytes) :=
  timely_transfer (fun _ _ => rfl) fun _ _ last => emits_send fun _ => last

/-- Filling a buffer is timely. -/
theorem timely_readExact (length : Nat) :
    Upholds (Timely connection.deadline) (connection.readExact length) := by
  -- Every round reads once at most.
  refine composable_timely.repeatUntil (fun filled => ?_) []
  unfold Connection.readRound
  split
  · exact composable_timely.pure
  · apply composable_timely.bind (timely_read _).attempt
    intro result
    repeat' split
    all_goals first | exact composable_timely.pure | exact composable_timely.fail

/-- Writing all bytes is timely. -/
theorem timely_writeAll (bytes : Bytes) :
    Upholds (Timely connection.deadline) (connection.writeAll bytes) := by
  -- Every round writes once at most.
  refine composable_timely.repeatUntil (fun rest => ?_) bytes
  unfold Connection.writeRound
  split
  · exact composable_timely.pure
  · apply composable_timely.bind (timely_write _).attempt
    intro result
    repeat' split
    all_goals first | exact composable_timely.pure | exact composable_timely.fail

/-- Reading a frame is timely. -/
theorem timely_readFrame (limit : Nat) :
    Upholds (Timely connection.deadline) (readFrame connection.readExact limit) := by
  -- The length comes first, and a frame that is too long is not read.
  apply composable_timely.bind ((timely_readExact 4).mapError _)
  intro header
  dsimp only
  split
  · exact composable_timely.fail
  · exact (timely_readExact _).mapError _

/-- Writing a frame is timely. -/
theorem timely_writeFrame (body : Bytes) :
    Upholds (Timely connection.deadline) (writeFrame connection.writeAll body) :=
  composable_timely.bind (timely_writeAll _) fun _ => timely_writeAll _

/-- Waiting for the resolver is timely. -/
theorem timely_resolve (endpoint : Endpoint) :
    Upholds (Timely deadline) (endpoint.resolve deadline) := by
  unfold Endpoint.resolve
  split
  · exact composable_timely.pure
  · -- Starting the thread does not wait for it.
    have starting : Emits (fun event => event.blocks = false)
        (spawnResolver endpoint.host endpoint.port) := emits_askDone fun _ => rfl
    apply composable_timely.bind ((upholds_of_idle starting).mapError _)
    intro _
    -- The thread is waited for as long as there is time.
    apply upholds_measured measured_remaining
    intro time early
    refine composable_timely.behind (upholds_ask (List.forall_mem_nil _)
      (emits_receiveResolved fun _ => rfl) early (Nat.sub_pos_of_lt early) (Nat.le_refl _)) ?_
    intro reply
    split
    all_goals first | exact composable_timely.pure | exact composable_timely.fail

/-- Trying addresses is timely. -/
theorem timely_connect (addresses : List SocketAddr) :
    Upholds (Timely deadline) (connect addresses deadline) := by
  -- The induction is on the addresses that are left to be tried.
  have general : ∀ (addresses : List SocketAddr) (last : WifiProvisioningError),
      Upholds (Timely deadline) (connectFrom deadline last addresses) := by
    intro addresses
    induction addresses with
    | nil => exact fun last => composable_timely.fail
    | cons address rest ih =>
      intro last
      apply upholds_measured measured_remaining
      intro time early
      have left : 0 < deadline - time := Nat.sub_pos_of_lt early
      have positive : 0 < min (deadline - time) (Duration.fromSecs 2) := lt_min left (by decide)
      -- No attempt takes longer than what is left, even if that is less than two seconds.
      have attempt : UpholdsAfter deadline time []
          (connectTimeout address (min (deadline - time) (Duration.fromSecs 2))) :=
        upholds_ask (List.forall_mem_nil _) (emits_connectTimeout fun _ _ => rfl) early positive
          (Nat.min_le_left _ _)
      refine composable_timely.behind attempt.attempt ?_
      intro result
      cases result with
      | ok stream => exact composable_timely.pure
      | error kind => exact ih _
  exact general _ _

/-- What is connected keeps the deadline. -/
theorem returns_connect (addresses : List SocketAddr) :
    Returns (fun connection => connection.deadline = deadline) (connect addresses deadline) := by
  -- The induction is on the addresses that are left to be tried.
  have general : ∀ (addresses : List SocketAddr) (last : WifiProvisioningError),
      Returns (fun connection => connection.deadline = deadline)
        (connectFrom deadline last addresses) := by
    intro addresses
    induction addresses with
    | nil => exact fun last => returns_fail
    | cons address rest ih =>
      intro last
      -- An attempt that fails leaves the deadline to the next one.
      apply Returns.after
      intro left
      apply Returns.after
      intro result
      cases result with
      | ok stream => exact returns_pure rfl
      | error kind => exact ih _
  exact general _ _

/-- Reading the master's answer is timely. -/
theorem timely_readHttpBody :
    Upholds (Timely connection.deadline) (readHttpBody connection) := by
  -- The header is read byte by byte, and then the body.
  apply composable_timely.bind
  · refine composable_timely.repeatUntil (fun header => ?_) []
    unfold headerRound
    split
    · exact composable_timely.pure
    · split
      · exact composable_timely.fail
      · apply composable_timely.bind ((timely_readExact 1).mapError _)
        intro byte
        exact composable_timely.pure
  · intro header
    apply composable_timely.bind composable_timely.ofExcept
    intro length
    exact (timely_readExact length).mapError _

/-- Asking the master is timely. -/
theorem timely_lookupService (parser : XmlParser) (master : Endpoint) (caller : Text) :
    Upholds (Timely deadline) (lookupService parser master caller deadline) := by
  -- The address is resolved and connected to, and everything else happens on the connection.
  apply composable_timely.bind (timely_resolve master)
  intro addresses
  refine composable_timely.bindFor (timely_connect addresses) (returns_connect addresses) ?_
  intro connection same
  subst same
  have asking : Emits (fun event => event.blocks = false) (NetworkM.peerAddr connection.stream) :=
    emits_peerAddr fun _ => rfl
  apply composable_timely.bind ((upholds_of_idle asking).mapError _)
  intro masterAddress
  apply composable_timely.bind ((timely_writeAll _).mapError _)
  intro _
  apply composable_timely.bind timely_readHttpBody
  intro body
  apply composable_timely.bind composable_timely.ofExcept
  intro uri
  exact composable_timely.pure

/-- The handshake is timely. -/
theorem timely_handshake (caller : Text) :
    Upholds (Timely connection.deadline) (handshake connection caller) := by
  -- The own header is written, and that of the service is read and checked in memory.
  apply composable_timely.bind ((timely_writeFrame _).mapError _)
  intro _
  apply composable_timely.bind (timely_readFrame _)
  intro body
  apply composable_timely.bind composable_timely.within
  intro fields
  exact composable_timely.ofExcept

/-- Reading the reply is timely. -/
theorem timely_readReply : Upholds (Timely connection.deadline) (readReply connection) := by
  -- After the first byte there may be a frame.
  apply composable_timely.bind (timely_readExact 1).attempt
  intro result
  split
  · exact composable_timely.pure
  · split
    · apply composable_timely.bind (timely_readFrame _).attempt
      intro reply
      exact composable_timely.ofExcept
    · split
      · apply composable_timely.bind (timely_readFrame _).attempt
        intro reply
        split
        · exact composable_timely.fail
        · exact composable_timely.pure
      · exact composable_timely.pure

/-- Sending the credentials is timely. -/
theorem timely_sendCredentials (credentials : WifiCredentials) :
    Upholds (Timely connection.deadline) (sendCredentials connection credentials) := by
  -- A write that fails ends the exchange, and otherwise the reply is read.
  apply composable_timely.bind (timely_writeFrame _).attempt
  intro result
  split
  · exact composable_timely.pure
  · exact timely_readReply

/-- Everything after the deadline has been fixed. -/
def exchange (parser : XmlParser) (config : Ros1Config) (credentials : WifiCredentials)
    (deadline : Instant) : NetworkM WifiProvisioningError WifiProvisioningResult := do
  let master ← ofExcept (Endpoint.parse config.masterUri "http://".toList true)
  let caller ← ofExcept (callerId config.nodeName)
  let (uri, masterAddress) ← lookupService parser master caller deadline
  let service ← ofExcept (Endpoint.parse uri "rosrpc://".toList false)
  let addresses ← serviceAddresses service masterAddress deadline
  let connection ← connect addresses deadline
  handshake connection caller
  note (.shaken connection.stream)
  sendCredentials connection credentials

/-- Joining a network fixes the deadline, and then it is the rest. -/
theorem provisionWifi_eq (parser : XmlParser) (config : Ros1Config)
    (credentials : WifiCredentials) (timeout : Duration) :
    provisionWifi parser config credentials timeout =
      if timeout < Duration.fromSecs 1 ∨ Duration.fromSecs 60 < timeout then
        fail (.invalidConfiguration "Wi-Fi setup timeout must be 1–60 seconds")
      else instantNow >>= fun now => exchange parser config credentials (now + timeout) := by
  -- The two differ only in where the program is cut in two.
  unfold provisionWifi establish
  split
  · rfl
  · simp only [bind_assoc, pure_bind]
    rfl

/-- Everything after the deadline has been fixed is timely. -/
theorem timely_exchange (parser : XmlParser) (config : Ros1Config)
    (credentials : WifiCredentials) :
    Upholds (Timely deadline) (exchange parser config credentials deadline) := by
  -- The master is asked for the service, which then gets its own connection.
  apply composable_timely.bind composable_timely.ofExcept
  intro master
  apply composable_timely.bind composable_timely.ofExcept
  intro caller
  apply composable_timely.bind (timely_lookupService parser master caller)
  intro found
  apply composable_timely.bind composable_timely.ofExcept
  intro service
  -- The service may have a host name of its own, which is resolved in the same time.
  have candidates : Upholds (Timely deadline) (serviceAddresses service found.2 deadline) := by
    unfold serviceAddresses
    split
    · exact composable_timely.pure
    · exact timely_resolve service
  apply composable_timely.bind candidates
  intro addresses
  refine composable_timely.bindFor (timely_connect addresses) (returns_connect addresses) ?_
  intro connection same
  subst same
  apply composable_timely.bind (timely_handshake caller)
  intro _
  -- The note about the handshake is no call.
  have noting : Upholds (Timely connection.deadline)
      (note (.shaken connection.stream) : NetworkM WifiProvisioningError Unit) :=
    fun ledger => ⟨[.shaken connection.stream], rfl,
      timely_of_idle (List.forall_mem_singleton.mpr rfl)⟩
  apply composable_timely.bind noting
  intro _
  exact timely_sendCredentials credentials

end Programs

section Time

/-- When the calls of a log begin and end, if readings are right and timeouts are observed. -/
structure Clock (events : List NetworkEvent) extends Schedule where
  truthful : ∀ place time, events[place]? = some (.now time) →
    start place ≤ time ∧ time ≤ finish place
  observed : ∀ place event timeout, events[place]? = some event →
    Limited (events.take place) event timeout → finish place ≤ start place + timeout

namespace Clock

variable {events : List NetworkEvent} (clock : Clock events)

/-- The time that all calls of the log that block take together. -/
def blocked : Duration :=
  clock.spent (fun place => events[place]?.any NetworkEvent.blocks) events.length

/-- Time only passes in calls that block. -/
structure Prompt : Prop where
  still : ∀ place event, events[place]? = some event → event.blocks = false →
    clock.finish place = clock.start place
  seamless : ∀ place, clock.start (place + 1) = clock.finish place

end Clock

variable {events rest : List NetworkEvent} {event : NetworkEvent} {place : Nat}
  {entry deadline : Instant} {timeout : Duration}

/-- A call of a timely log that blocks comes behind a reading of the clock. -/
theorem Timely.reading (timely : Timely deadline events) (found : events[place]? = some event)
    (blocks : event.blocks = true) :
    ∃ earlier time timeout, earlier < place ∧ events[earlier]? = some (.now time) ∧
      (∀ between, earlier ≤ between → between < place →
        events[between]?.any NetworkEvent.blocks = false) ∧
      Limited (events.take place) event timeout ∧ time < deadline ∧ 0 < timeout ∧
      timeout ≤ deadline - time := by
  -- The log is split at the call, and what is before it is split at the reading.
  obtain ⟨within, same⟩ := List.getElem?_eq_some_iff.mp found
  have whole : events = events.take place ++ event :: events.drop (place + 1) := by
    rw [← same, ← List.drop_eq_getElem_cons within, List.take_append_drop]
  obtain ⟨time, timeout, ⟨front, between, split, idle⟩, limited, bounds⟩ :=
    timely _ event _ whole blocks
  -- The positions of the log are those of its three parts.
  have sized : place = front.length + (between.length + 1) := by
    have length := congrArg List.length split
    rw [List.length_take_of_le (Nat.le_of_lt within), List.length_append, List.length_cons] at length
    exact length
  have prior : ∀ index, index < place → events[index]? = (front ++ .now time :: between)[index]? := by
    intro index below
    rw [← split, List.getElem?_take_of_lt below]
  refine ⟨front.length, time, timeout, by omega, ?_, ?_, limited, bounds⟩
  · rw [prior _ (by omega), List.getElem?_append_right (Nat.le_refl _), Nat.sub_self]
    rfl
  · intro index from_ below
    rw [prior index below, List.getElem?_append_right from_]
    cases behind : index - front.length with
    | zero => rfl
    | succ offset =>
      -- Behind the reading no call blocks.
      have inside : offset < between.length := by omega
      rw [List.getElem?_cons_succ, List.getElem?_eq_getElem inside]
      exact idle _ (List.getElem_mem inside)

/-- A reading behind the one at entry is not earlier. -/
theorem Clock.entry_le (clock : Clock (.now entry :: rest)) {time : Instant}
    (found : (NetworkEvent.now entry :: rest)[place]? = some (.now time)) : entry ≤ time := by
  -- The calls come one after the other.
  cases place with
  | zero =>
    cases found
    exact Nat.le_refl _
  | succ place =>
    -- Both readings lie within the time of their calls.
    have first := (clock.truthful 0 entry rfl).2
    have here := (clock.truthful (place + 1) time found).1
    have passed := @Schedule.finish_add_spent_le clock.toSchedule (fun _ => false) rfl place
    calc entry ≤ clock.finish 0 := first
      _ ≤ clock.start (place + 1) := Nat.le_trans (Nat.le_add_right _ _) passed
      _ ≤ time := here

/-- The calls of a timely log that block take the time that was left at entry, all together. -/
theorem Timely.blocked_le (timely : Timely (entry + timeout) (.now entry :: rest))
    (clock : Clock (.now entry :: rest)) : clock.blocked ≤ timeout := by
  -- The first reading may be late, but not later than its call ends.
  have begun := (clock.truthful 0 entry rfl).2
  have total : entry + clock.blocked ≤ entry + timeout := by
    apply Schedule.spent_le rfl begun (Nat.le_add_right _ _)
    intro place below waiting
    -- A call that blocks has its reading, and its timeout ends before the deadline.
    cases found : (NetworkEvent.now entry :: rest)[place]? with
    | none =>
      rw [found] at waiting
      cases waiting
    | some event =>
      rw [found] at waiting
      obtain ⟨earlier, time, limit, before, reading, idle, limited, early, _, enough⟩ :=
        timely.reading found waiting
      have observed := clock.observed place event limit found limited
      have truthful := clock.truthful earlier time reading
      have taken : clock.finish place - clock.start place ≤ entry + timeout - time :=
        Nat.le_trans (Nat.sub_le_of_le_add (Nat.add_comm _ limit ▸ observed)) enough
      refine ⟨earlier, time, before, idle, clock.entry_le reading, truthful.1, ?_⟩
      exact Nat.add_le_of_le_sub' (Nat.le_of_lt early) taken
  exact Nat.le_of_add_le_add_left total

/-- If time only passes in calls that block, none passes where there are no such calls. -/
theorem Clock.Prompt.start_eq {clock : Clock events} (prompt : clock.Prompt) {earlier : Nat}
    (below : earlier ≤ place) (within : place ≤ events.length)
    (idle : ∀ between, earlier ≤ between → between < place →
      events[between]?.any NetworkEvent.blocks = false) :
    clock.start place = clock.start earlier := by
  -- The induction is on the calls between the two.
  induction place, below using Nat.le_induction with
  | base => rfl
  | succ place below ih =>
    have quiet := idle place below (Nat.lt_succ_self place)
    have inside : place < events.length := within
    have here : events[place]? = some events[place] := List.getElem?_eq_getElem inside
    rw [here] at quiet
    have before := ih (Nat.le_of_succ_le within) fun between from_ less =>
      idle between from_ (Nat.lt_succ_of_lt less)
    rw [prompt.seamless, prompt.still place _ here quiet, before]

/-- If time only passes in calls that block, these begin before the deadline and end by then. -/
theorem Timely.prompt (timely : Timely deadline events) {clock : Clock events}
    (prompt : clock.Prompt) (found : events[place]? = some event) (blocks : event.blocks = true) :
    clock.start place < deadline ∧ clock.finish place ≤ deadline := by
  -- The call begins when the clock is read.
  obtain ⟨earlier, time, limit, before, reading, idle, limited, early, _, enough⟩ :=
    timely.reading found blocks
  obtain ⟨within, _⟩ := List.getElem?_eq_some_iff.mp found
  -- Nothing between the reading and the call takes any time.
  have moment := prompt.start_eq (Nat.le_of_lt before) (Nat.le_of_lt within) idle
  have still := prompt.still earlier _ reading rfl
  have truthful := clock.truthful earlier time reading
  have same : clock.start place = time :=
    moment.trans (Nat.le_antisymm truthful.1 (still ▸ truthful.2))
  have observed := clock.observed place event limit found limited
  rw [same] at observed ⊢
  refine ⟨early, Nat.le_trans observed ?_⟩
  have whole : time + (deadline - time) = deadline := Nat.add_sub_cancel' (Nat.le_of_lt early)
  exact whole ▸ Nat.add_le_add_left enough time

/-- One deadline covers a log: it is fixed at entry, and every call that blocks keeps to it. -/
structure OneDeadline (timeout : Duration) (entry : Instant) (events : List NetworkEvent) :
    Prop where
  requested : Duration.fromSecs 1 ≤ timeout ∧ timeout ≤ Duration.fromSecs 60
  /-- Each begins after an early reading of the clock, with at most the time left as timeout. -/
  governed : Timely (entry + timeout) events
  /-- All of them together take no longer than was requested. -/
  blocked : ∀ clock : Clock events, clock.blocked ≤ timeout
  /-- If time passes in them only, none begins at the deadline, and none ends after it. -/
  early : ∀ clock : Clock events, clock.Prompt → ∀ place event, events[place]? = some event →
    event.blocks = true → clock.start place < entry + timeout ∧ clock.finish place ≤ entry + timeout

/-- One deadline, fixed by the first reading of the clock, covers everything that is called. -/
theorem provisioning_keeps_deadline (parser : XmlParser) (config : Ros1Config)
    (credentials : WifiCredentials) (timeout : Duration) (script : List SystemAnswer) :
    (provisionWifi parser config credentials timeout ⟨script, []⟩).2.log = [] ∨
      ∃ entry rest,
        (provisionWifi parser config credentials timeout ⟨script, []⟩).2.log = .now entry :: rest ∧
        OneDeadline timeout entry (.now entry :: rest) := by
  rw [provisionWifi_eq]
  by_cases refused : timeout < Duration.fromSecs 1 ∨ Duration.fromSecs 60 < timeout
  · -- Nothing is called with another timeout.
    rw [if_pos refused]
    exact .inl rfl
  rw [if_neg refused]
  have requested : Duration.fromSecs 1 ≤ timeout ∧ timeout ≤ Duration.fromSecs 60 :=
    ⟨Nat.le_of_not_lt (not_or.mp refused).1, Nat.le_of_not_lt (not_or.mp refused).2⟩
  -- The clock is read first, if it answers at all.
  cases script with
  | nil => exact .inl rfl
  | cons answer script =>
    cases answer with
    | time entry =>
      right
      have begun : (instantNow : NetworkM WifiProvisioningError Instant)
          ⟨.time entry :: script, []⟩ = (.returned entry, ⟨script, [.now entry]⟩) := rfl
      obtain ⟨rest, added, timely⟩ := @timely_exchange (entry + timeout) parser config credentials
        ⟨script, [.now entry]⟩
      -- The first reading is not a call that blocks, and the rest is the exchange.
      have whole : Timely (entry + timeout) (.now entry :: rest) :=
        composable_timely.append (timely_of_idle (List.forall_mem_singleton.mpr rfl)) timely
      refine ⟨entry, rest, ?_, requested, whole, whole.blocked_le, ?_⟩
      · rw [bind_returned begun, added]
        rfl
      · intro clock prompt place event found blocks
        exact whole.prompt prompt found blocks
    | _ => exact .inl rfl

deriving instance DecidableEq for ResolverReply, NetworkEvent

/-- A run in which the only address of the master does not answer within a second. -/
def silentRun : Reply WifiProvisioningError WifiProvisioningResult × Network :=
  provisionWifi (fun _ => none) sampleConfig sampleCredentials (Duration.fromSecs 1)
    ⟨[.time 0, .time 0, .done (.error .timedOut)], []⟩

/-- The attempt to connect in that run, with the time that is left for it. -/
def silentAttempt (left : Duration) : NetworkEvent :=
  .connected 2 ⟨.v4 167772161, 11311⟩ left (.error .timedOut)

/-- A clock that stands still until the attempt, which takes as long as it may. -/
def silentClock (left : Duration) : Clock [.now 0, .now 0, silentAttempt left] where
  start place := if place < 3 then 0 else left
  finish place := if place < 2 then 0 else left
  forward place := by
    split
    · exact Nat.zero_le _
    · rename_i late
      rw [if_neg fun early => late (Nat.lt_succ_of_lt early)]
  ordered place := by
    split
    · exact Nat.zero_le _
    · rename_i late
      rw [if_neg fun early => late (Nat.lt_of_succ_lt_succ early)]
  truthful place time found := by
    match place with
    | 0 => cases found; exact ⟨Nat.le_refl _, Nat.le_refl _⟩
    | 1 => cases found; exact ⟨Nat.le_refl _, Nat.le_refl _⟩
    | 2 => cases found
    | place + 3 => cases found
  observed place event timeout found limited := by
    match place with
    | 0 => cases found; exact limited.elim
    | 1 => cases found; exact limited.elim
    | 2 =>
      cases found
      have same : timeout = left := limited
      exact same ▸ Nat.le_add_left _ _
    | place + 3 => cases found

/-- All of the time that is left is spent in the attempt. -/
theorem silentClock_blocked (left : Duration) : (silentClock left).blocked = left := by
  -- The two readings do not block.
  have kinds : (fun place => ([NetworkEvent.now 0, .now 0, silentAttempt left])[place]?.any
      NetworkEvent.blocks) 0 = false ∧ (fun place => ([NetworkEvent.now 0, .now 0,
      silentAttempt left])[place]?.any NetworkEvent.blocks) 1 = false := ⟨rfl, rfl⟩
  have length : ([NetworkEvent.now 0, .now 0, silentAttempt left]).length = 2 + 1 := rfl
  unfold Clock.blocked
  rw [length, Schedule.spent_succ, Schedule.spent_quiet kinds.2, Schedule.spent_quiet kinds.1]
  exact Nat.zero_add left

/-- The calls of that run. -/
theorem silentRun_log :
    silentRun.2.log = [.now 0, .now 0, silentAttempt (Duration.fromSecs 1)] := by
  decide +kernel

/-- In that run the whole second is spent in the attempt, and no more could be. -/
theorem provisioning_keeps_deadline_silent :
    silentRun.2.log = [.now 0, .now 0, silentAttempt (Duration.fromSecs 1)] ∧
      (silentClock (Duration.fromSecs 1)).blocked = Duration.fromSecs 1 ∧
      OneDeadline (Duration.fromSecs 1) 0 [.now 0, .now 0, silentAttempt (Duration.fromSecs 1)] := by
  refine ⟨silentRun_log, silentClock_blocked _, ?_⟩
  have log := silentRun_log
  have kept := provisioning_keeps_deadline (fun _ => none) sampleConfig sampleCredentials
    (Duration.fromSecs 1) [.time 0, .time 0, .done (.error .timedOut)]
  unfold silentRun at log
  rw [log] at kept
  -- The length of the second does not matter any more.
  generalize Duration.fromSecs 1 = second at kept ⊢
  rcases kept with none | ⟨entry, rest, same, kept⟩
  · cases none
  · cases same
    exact kept

end Time

end Scout.Wifi
