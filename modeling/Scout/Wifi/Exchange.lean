import Scout.Wifi.Provision

/-! What reading and writing on a connection leave behind, whatever the system answers. -/

namespace Scout.Wifi

open Machine Dialogue NetworkM

namespace NetworkEvent

/-- The bytes that an event hands to a socket. -/
def handed : NetworkEvent → Bytes
  | .write _ offered (.ok taken) => offered.take taken
  | _ => []

/-- The bytes that an event receives from a socket. -/
def received : NetworkEvent → Bytes
  | .read _ _ (.ok bytes) => bytes
  | _ => []

/-- The clock is read, or a given connection is read from. -/
def Reads (stream : TcpStream) : NetworkEvent → Prop
  | .now _ => True
  | .setReadTimeout used _ _ => used = stream
  | .read used _ _ => used = stream
  | _ => False

/-- The clock is read, or bytes of a given kind are offered to a given connection. -/
def Writes (stream : TcpStream) (Offered : Bytes → Prop) : NetworkEvent → Prop
  | .now _ => True
  | .setWriteTimeout used _ _ => used = stream
  | .write used offered _ => used = stream ∧ Offered offered
  | _ => False

/-- Offered bytes of one kind are also of a wider kind. -/
theorem Writes.mono {stream : TcpStream} {Narrow Wide : Bytes → Prop} {event : NetworkEvent}
    (writes : Writes stream Narrow event) (wider : ∀ bytes, Narrow bytes → Wide bytes) :
    Writes stream Wide event := by
  -- Only a write offers bytes.
  cases event with
  | write used offered result => exact ⟨writes.1, wider offered writes.2⟩
  | _ => exact writes

end NetworkEvent

open NetworkEvent

/-- All bytes that were handed to sockets. -/
def handedBytes (events : List NetworkEvent) : Bytes :=
  events.flatMap handed

/-- All bytes that were received from sockets. -/
def receivedBytes (events : List NetworkEvent) : Bytes :=
  events.flatMap received

/-- Bytes are handed over one event after another. -/
@[simp] theorem handedBytes_append (first second : List NetworkEvent) :
    handedBytes (first ++ second) = handedBytes first ++ handedBytes second :=
  List.flatMap_append

/-- Bytes are received one event after another. -/
@[simp] theorem receivedBytes_append (first second : List NetworkEvent) :
    receivedBytes (first ++ second) = receivedBytes first ++ receivedBytes second :=
  List.flatMap_append

/-- Reading hands nothing over. -/
theorem handedBytes_of_reads {stream : TcpStream} {events : List NetworkEvent}
    (reads : ∀ event ∈ events, Reads stream event) : handedBytes events = [] := by
  -- No event of the kind is a write.
  apply List.flatMap_eq_nil_iff.mpr
  intro event member
  have kind := reads event member
  cases event with
  | write _ _ _ => exact kind.elim
  | _ => rfl

/-- Writing receives nothing. -/
theorem receivedBytes_of_writes {stream : TcpStream} {Offered : Bytes → Prop}
    {events : List NetworkEvent} (writes : ∀ event ∈ events, Writes stream Offered event) :
    receivedBytes events = [] := by
  -- No event of the kind is a read.
  apply List.flatMap_eq_nil_iff.mpr
  intro event member
  have kind := writes event member
  cases event with
  | read _ _ _ => exact kind.elim
  | _ => rfl

section Answers

variable {ε : Type}

/-- Reading the clock leaves its reading behind. -/
theorem answered_instantNow {Related : List NetworkEvent → Reply ε Instant → Prop}
    (unanswered : Related [] .waiting)
    (answered : ∀ time, Related [.now time] (.returned time)) :
    Leaves Related (instantNow : NetworkM ε Instant) := by
  -- Only a reading of the clock fits.
  refine leaves_answered unanswered fun log answer event result found => ?_
  cases answer with
  | time now =>
    cases found
    exact answered now
  | _ => cases found

/-- A call without a value leaves that call behind. -/
theorem answered_askDone {Related : List NetworkEvent → Reply ErrorKind Unit → Prop}
    {event : Except ErrorKind Unit → NetworkEvent} (unanswered : Related [] .waiting)
    (answered : ∀ result, Related [event result] (.ofResult result)) :
    Leaves Related (askDone event) := by
  -- Only a result without a value fits.
  refine leaves_answered unanswered fun log answer event result found => ?_
  cases answer with
  | done got =>
    cases found
    exact answered _
  | _ => cases found

/-- Waiting for the resolver's thread leaves what it sends behind. -/
theorem answered_receiveResolved {Related : List NetworkEvent → Reply ε ResolverReply → Prop}
    {timeout : Duration} (unanswered : Related [] .waiting)
    (answered : ∀ reply, Related [.resolved timeout reply] (.returned reply)) :
    Leaves Related (receiveResolved timeout : NetworkM ε ResolverReply) := by
  -- Only a reply of the thread fits.
  refine leaves_answered unanswered fun log answer event result found => ?_
  cases answer with
  | resolved reply =>
    cases found
    exact answered reply
  | _ => cases found

/-- Connecting leaves that call behind. -/
theorem answered_connectTimeout {Related : List NetworkEvent → Reply ErrorKind TcpStream → Prop}
    {address : SocketAddr} {timeout : Duration} (unanswered : Related [] .waiting)
    (answered : ∀ stream result, Related [.connected stream address timeout result]
      (.ofResult (result.map fun _ => stream))) :
    Leaves Related (connectTimeout address timeout) := by
  -- Only a result without a value fits.
  refine leaves_answered unanswered fun log answer event result found => ?_
  cases answer with
  | done got =>
    cases found
    exact answered _ _
  | _ => cases found

/-- Asking for the other end of a connection leaves that call behind. -/
theorem answered_peerAddr {Related : List NetworkEvent → Reply ErrorKind SocketAddr → Prop}
    {stream : TcpStream} (unanswered : Related [] .waiting)
    (answered : ∀ result, Related [.peerAddr stream result] (.ofResult result)) :
    Leaves Related (peerAddr stream) := by
  -- Only an address fits.
  refine leaves_answered unanswered fun log answer event result found => ?_
  cases answer with
  | address got =>
    cases found
    exact answered _
  | _ => cases found

/-- Receiving leaves that call behind, with bytes that fit the room. -/
theorem answered_recv {Related : List NetworkEvent → Reply ErrorKind Bytes → Prop}
    {stream : TcpStream} {room : Nat} (unanswered : Related [] .waiting)
    (answered : ∀ result, (result.toOption.getD []).length ≤ room →
      Related [.read stream room result] (.ofResult result)) :
    Leaves Related (recv stream room) := by
  -- Only bytes that fit the room are an answer.
  refine leaves_answered unanswered fun log answer event result found => ?_
  cases answer with
  | bytes got =>
    by_cases fits : (got.toOption.getD []).length ≤ room
    · simp only [if_pos fits] at found
      cases found
      exact answered _ fits
    · simp [if_neg fits] at found
  | _ => cases found

/-- Sending leaves that call behind, which takes no more than it is offered. -/
theorem answered_send {Related : List NetworkEvent → Reply ErrorKind Nat → Prop}
    {stream : TcpStream} {offered : Bytes} (unanswered : Related [] .waiting)
    (answered : ∀ result, result.toOption.getD 0 ≤ offered.length →
      Related [.write stream offered result] (.ofResult result)) :
    Leaves Related (send stream offered) := by
  -- Only a number that does not exceed what was offered is an answer.
  refine leaves_answered unanswered fun log answer event result found => ?_
  cases answer with
  | count got =>
    by_cases fits : got.toOption.getD 0 ≤ offered.length
    · simp only [if_pos fits] at found
      cases found
      exact answered _ fits
    · simp [if_neg fits] at found
  | _ => cases found

end Answers

section Questions

variable {Kind : NetworkEvent → Prop} {ε : Type}

/-- Reading the clock emits its reading. -/
theorem emits_instantNow (now : ∀ time, Kind (.now time)) :
    Emits Kind (instantNow : NetworkM ε Instant) :=
  answered_instantNow (List.forall_mem_nil _) fun time => List.forall_mem_singleton.mpr (now time)

/-- What reading the clock leaves behind: its reading, which is returned. -/
def ClockLeft (events : List NetworkEvent) : Reply ε Instant → Prop
  | .returned time => events = [.now time]
  | .failed _ => False
  | .waiting => events = []

/-- Reading the clock leaves its reading behind, and does not fail. -/
theorem leaves_instantNow : Leaves ClockLeft (instantNow : NetworkM ε Instant) :=
  answered_instantNow rfl fun _ => rfl

/-- Before the deadline there is time left. -/
theorem filter_since_early {deadline time : Instant} (early : time < deadline) :
    (Duration.since deadline time).filter (fun left => left ≠ 0) = some (deadline - time) := by
  -- The difference is not zero.
  have rest : deadline - time ≠ 0 := Nat.sub_ne_zero_of_lt early
  simp [Duration.since, Nat.le_of_lt early, rest]

/-- From the deadline on there is no time left. -/
theorem filter_since_late {deadline time : Instant} (late : deadline ≤ time) :
    (Duration.since deadline time).filter (fun left => left ≠ 0) = none := by
  -- The difference is zero, or there is none.
  have empty : deadline - time = 0 := Nat.sub_eq_zero_of_le late
  unfold Duration.since
  split
  · simp [empty]
  · rfl

/-- Measuring the time that is left emits a reading of the clock. -/
theorem emits_remaining {deadline : Instant} (now : ∀ time, Kind (.now time)) :
    Emits Kind (remaining deadline) := by
  -- After the reading nothing else is asked.
  apply (emits_instantNow now).bind
  intro time
  split
  · exact emits_pure
  · exact emits_fail

/-- Measuring the time that is left takes an answer. -/
theorem takes_remaining {deadline : Instant} : Takes 1 (remaining deadline) := by
  -- It is the reading of the clock.
  apply takes_ask.bind
  intro now
  split
  · exact takes_pure
  · exact takes_fail

/-- A call that succeeds without a value emits that call. -/
theorem emits_askDone {event : Except ErrorKind Unit → NetworkEvent}
    (call : ∀ result, Kind (event result)) : Emits Kind (askDone event) :=
  answered_askDone (List.forall_mem_nil _) fun result => List.forall_mem_singleton.mpr (call result)

/-- A call that succeeds without a value takes an answer. -/
theorem takes_askDone {event : Except ErrorKind Unit → NetworkEvent} : Takes 1 (askDone event) :=
  takes_ask

/-- Waiting for the resolver's thread emits what it sends. -/
theorem emits_receiveResolved {timeout : Duration}
    (call : ∀ reply, Kind (.resolved timeout reply)) :
    Emits Kind (receiveResolved timeout : NetworkM ε ResolverReply) :=
  answered_receiveResolved (List.forall_mem_nil _) fun reply =>
    List.forall_mem_singleton.mpr (call reply)

/-- Connecting emits that call. -/
theorem emits_connectTimeout {address : SocketAddr} {timeout : Duration}
    (call : ∀ stream result, Kind (.connected stream address timeout result)) :
    Emits Kind (connectTimeout address timeout) :=
  answered_connectTimeout (List.forall_mem_nil _) fun stream result =>
    List.forall_mem_singleton.mpr (call stream result)

/-- Asking for the other end of a connection emits that call. -/
theorem emits_peerAddr {stream : TcpStream} (call : ∀ result, Kind (.peerAddr stream result)) :
    Emits Kind (peerAddr stream) :=
  answered_peerAddr (List.forall_mem_nil _) fun result => List.forall_mem_singleton.mpr (call result)

/-- Receiving emits that call. -/
theorem emits_recv {stream : TcpStream} {room : Nat}
    (call : ∀ result, Kind (.read stream room result)) : Emits Kind (recv stream room) :=
  answered_recv (List.forall_mem_nil _) fun result _ => List.forall_mem_singleton.mpr (call result)

/-- Sending emits that call. -/
theorem emits_send {stream : TcpStream} {offered : Bytes}
    (call : ∀ result, Kind (.write stream offered result)) : Emits Kind (send stream offered) :=
  answered_send (List.forall_mem_nil _) fun result _ => List.forall_mem_singleton.mpr (call result)

/-- Receiving leaves its event behind, whose bytes fit the room and are returned. -/
theorem leaves_recv {stream : TcpStream} {room : Nat} :
    Leaves (fun events reply =>
      (∀ event ∈ events, Reads stream event) ∧
      match reply with
      | .returned bytes => receivedBytes events = bytes ∧ bytes.length ≤ room
      | _ => receivedBytes events = []) (recv stream room) := by
  -- What is received is what is returned, and nothing if there is an error.
  refine answered_recv (by simp [receivedBytes]) fun result fits => ?_
  cases result with
  | ok bytes => exact ⟨by simp [Reads], by simp [receivedBytes, received], fits⟩
  | error kind => exact ⟨by simp [Reads], by simp [receivedBytes, received, Reply.ofResult]⟩

/-- Sending leaves its event behind, which takes as many of the offered bytes as is returned. -/
theorem leaves_send {stream : TcpStream} {offered : Bytes} {Offered : Bytes → Prop}
    (allowed : Offered offered) :
    Leaves (fun events reply =>
      (∀ event ∈ events, Writes stream Offered event) ∧
      match reply with
      | .returned taken => handedBytes events = offered.take taken ∧ taken ≤ offered.length
      | _ => handedBytes events = []) (send stream offered) := by
  -- What is taken is the front of what is offered, and nothing if there is an error.
  refine answered_send (by simp [handedBytes]) fun result fits => ?_
  cases result with
  | ok taken => exact ⟨by simp [Writes, allowed], by simp [handedBytes, handed], fits⟩
  | error kind => exact ⟨by simp [Writes, allowed], by simp [handedBytes, handed, Reply.ofResult]⟩

end Questions

section Reading

variable {connection : Connection}

/-- What a read leaves behind: reads of its connection, and the bytes it returns. -/
def ReadLeft (stream : TcpStream) (room : Nat) (events : List NetworkEvent)
    (reply : Reply ErrorKind Bytes) : Prop :=
  (∀ event ∈ events, Reads stream event) ∧
    match reply with
    | .returned bytes => receivedBytes events = bytes ∧ bytes.length ≤ room
    | _ => receivedBytes events = []

/-- Reads of a connection that bring nothing may come before. -/
theorem ReadLeft.ignores {stream : TcpStream} {room : Nat} {events more : List NetworkEvent}
    {reply : Reply ErrorKind Bytes}
    (quiet : ∀ event ∈ events, Reads stream event ∧ event.received = [])
    (left : ReadLeft stream room more reply) : ReadLeft stream room (events ++ more) reply := by
  -- Nothing is received before.
  have nothing : receivedBytes events = [] :=
    List.flatMap_eq_nil_iff.mpr fun event member => (quiet event member).2
  refine ⟨List.forall_mem_append.mpr ⟨fun event member => (quiet event member).1, left.1⟩, ?_⟩
  rw [receivedBytes_append, nothing, List.nil_append]
  exact left.2

/-- Reading leaves only reads of its connection behind, and returns the bytes it receives. -/
theorem leaves_read {room : Nat} :
    Leaves (ReadLeft connection.stream room) (connection.read room) := by
  -- Neither the clock nor the limit of the time brings any bytes.
  apply Leaves.after ((emits_remaining fun _ => ⟨trivial, rfl⟩).mapError _)
    (fun _ _ _ => ReadLeft.ignores) (fun _ => ⟨by simp, rfl⟩) ⟨by simp, rfl⟩
  intro left
  apply Leaves.after (emits_askDone fun _ => ⟨rfl, rfl⟩)
    (fun _ _ _ => ReadLeft.ignores) (fun _ => ⟨by simp, rfl⟩) ⟨by simp, rfl⟩
  intro _
  exact leaves_recv

/-- What filling a buffer leaves behind: as many bytes as it lacks if it returns, or fewer. -/
def FillLeft (stream : TcpStream) (length : Nat) (filled : Bytes) (events : List NetworkEvent)
    (reply : Reply ErrorKind Bytes) : Prop :=
  (∀ event ∈ events, Reads stream event) ∧ (filled.length ≤ length →
    match reply with
    | .returned bytes => bytes = filled ++ receivedBytes events ∧ bytes.length = length
    | _ => (filled ++ receivedBytes events).length < length)

/-- A buffer that is not full lacks bytes when the loop gives up or waits. -/
theorem FillLeft.short {stream : TcpStream} {length : Nat} {filled : Bytes}
    {events : List NetworkEvent} {reply : Reply ErrorKind Bytes}
    (reads : ∀ event ∈ events, Reads stream event) (nothing : receivedBytes events = [])
    (lacking : filled.length ≠ length) (unfinished : ∀ bytes, reply ≠ .returned bytes) :
    FillLeft stream length filled events reply := by
  -- Nothing has been added to what was there.
  refine ⟨reads, fun fits => ?_⟩
  have fewer : (filled ++ receivedBytes events).length < length := by
    rw [nothing, List.append_nil]
    omega
  cases reply with
  | returned bytes => exact absurd rfl (unfinished bytes)
  | failed _ => exact fewer
  | waiting => exact fewer

/-- Bytes that a round has received are added to those the next rounds receive. -/
theorem FillLeft.grow {stream : TcpStream} {length : Nat} {filled bytes : Bytes}
    {events more : List NetworkEvent} {reply : Reply ErrorKind Bytes}
    (reads : ∀ event ∈ events, Reads stream event) (got : receivedBytes events = bytes)
    (fits : bytes.length ≤ length - filled.length)
    (left : FillLeft stream length (filled ++ bytes) more reply) :
    FillLeft stream length filled (events ++ more) reply := by
  -- The bytes of the round stand between.
  refine ⟨List.forall_mem_append.mpr ⟨reads, left.1⟩, fun room => ?_⟩
  -- The bytes fit, so the next rounds fill what is still lacking.
  have rest := left.2 (by rw [List.length_append]; omega)
  rw [receivedBytes_append, got, ← List.append_assoc]
  exact rest

/-- A round of filling a buffer takes an answer if the buffer is not full. -/
theorem takes_readRound {length : Nat} {filled : Bytes} (lacking : filled.length ≠ length) :
    Takes 1 (connection.readRound length filled) := by
  -- The clock is read before every read.
  have reading : ∀ room, Takes 1 (connection.read room) := fun room =>
    (takes_remaining.mapError _).bind fun _ => takes_askDone.none.bind fun _ => takes_ask.none
  rw [Connection.readRound, if_neg lacking]
  apply (reading _).attempt.bind
  intro result
  repeat' split
  all_goals first | exact takes_pure | exact takes_fail

/-- Each round of filling a buffer but the last takes an answer. -/
theorem readRound_shrinks {length : Nat} (filled : Bytes) (network : Network) (next : Bytes)
    (after : Network)
    (ran : connection.readRound length filled network = (.returned (.inl next), after)) :
    answersLeft after < answersLeft network := by
  -- A full buffer ends the loop.
  by_cases full : filled.length = length
  · rw [Connection.readRound, if_pos full] at ran
    cases ran
  · exact (takes_readRound full).shrinks ran (by simp)

/-- Filling a buffer takes an answer if it has room for anything. -/
theorem takes_readExact {length : Nat} (room : length ≠ 0) :
    Takes 1 (connection.readExact length) := by
  -- Nothing has been read before the first round.
  have empty : ([] : Bytes).length ≠ length := room.symm
  refine (takes_readRound empty).repeatUntil fun filled => ?_
  by_cases full : filled.length = length
  · rw [Connection.readRound, if_pos full]
    exact takes_pure
  · exact (takes_readRound full).none

/-- A round of filling a buffer leaves behind what the rest of the loop is to continue. -/
theorem leaves_readRound {length : Nat} (filled : Bytes) :
    Leaves (Round (FillLeft connection.stream length) filled)
      (connection.readRound length filled) := by
  -- A full buffer ends the loop, and otherwise one read is attempted.
  by_cases full : filled.length = length
  · rw [Connection.readRound, if_pos full]
    exact leaves_pure ⟨by simp, fun _ => ⟨by simp [receivedBytes], full⟩⟩
  · rw [Connection.readRound, if_neg full]
    refine Leaves.bind leaves_read.attempt (fun _ _ caught => caught.elim) ?_ ?_
    · rintro events ⟨reads, nothing⟩
      -- The read is never answered.
      show FillLeft connection.stream length filled events .waiting
      exact FillLeft.short reads nothing full (by simp)
    · rintro events (kind | bytes) ⟨reads, got⟩
      · -- An interrupted read has brought nothing, and the loop goes on as before.
        by_cases again : kind = .interrupted
        · simp only [if_pos again]
          apply leaves_pure
          intro more reply left
          rw [List.append_nil]
          exact FillLeft.grow reads got (Nat.zero_le _) ((List.append_nil filled).symm ▸ left)
        · simp only [if_neg again]
          apply leaves_fail
          rw [List.append_nil]
          show FillLeft connection.stream length filled events (.failed kind)
          exact FillLeft.short reads got full (by simp)
      · obtain ⟨got, fits⟩ := got
        -- No bytes end the stream, and others are added to the buffer.
        cases bytes with
        | nil =>
          apply leaves_fail
          rw [List.append_nil]
          show FillLeft connection.stream length filled events (.failed .unexpectedEof)
          exact FillLeft.short reads got full (by simp)
        | cons byte rest =>
          apply leaves_pure
          intro more reply left
          rw [List.append_nil]
          exact FillLeft.grow reads got fits left

/-- Filling a buffer leaves only reads behind: as many bytes as it returns, or fewer. -/
theorem leaves_readExact (length : Nat) :
    Leaves (FillLeft connection.stream length []) (connection.readExact length) :=
  leaves_repeatUntil readRound_shrinks _ leaves_readRound []

end Reading

section Writing

variable {connection : Connection} {Offered : Bytes → Prop}

/-- What a write leaves behind: writes on its connection, and what these hand over. -/
def WriteLeft (stream : TcpStream) (Offered : Bytes → Prop) (offered : Bytes)
    (events : List NetworkEvent) (reply : Reply ErrorKind Nat) : Prop :=
  (∀ event ∈ events, Writes stream Offered event) ∧
    match reply with
    | .returned taken => handedBytes events = offered.take taken ∧ taken ≤ offered.length
    | _ => handedBytes events = []

/-- Calls on a connection that hand nothing over may come before. -/
theorem WriteLeft.ignores {stream : TcpStream} {offered : Bytes}
    {events more : List NetworkEvent} {reply : Reply ErrorKind Nat}
    (quiet : ∀ event ∈ events, Writes stream Offered event ∧ event.handed = [])
    (left : WriteLeft stream Offered offered more reply) :
    WriteLeft stream Offered offered (events ++ more) reply := by
  -- Nothing is handed over before.
  have nothing : handedBytes events = [] :=
    List.flatMap_eq_nil_iff.mpr fun event member => (quiet event member).2
  refine ⟨List.forall_mem_append.mpr ⟨fun event member => (quiet event member).1, left.1⟩, ?_⟩
  rw [handedBytes_append, nothing, List.nil_append]
  exact left.2

/-- Writing leaves only writes on its connection behind, and says what these hand over. -/
theorem leaves_write {offered : Bytes} (allowed : Offered offered) :
    Leaves (WriteLeft connection.stream Offered offered) (connection.write offered) := by
  -- Neither the clock nor the limit of the time hands anything over.
  apply Leaves.after ((emits_remaining fun _ => ⟨trivial, rfl⟩).mapError _)
    (fun _ _ _ => WriteLeft.ignores) (fun _ => ⟨by simp, rfl⟩) ⟨by simp, rfl⟩
  intro left
  apply Leaves.after (emits_askDone fun _ => ⟨rfl, rfl⟩)
    (fun _ _ _ => WriteLeft.ignores) (fun _ => ⟨by simp, rfl⟩) ⟨by simp, rfl⟩
  intro _
  exact leaves_send allowed

/-- What writing all bytes leaves behind: all of them if it returns, or only a part. -/
def DrainLeft (stream : TcpStream) (Offered : Bytes → Prop) (bytes : Bytes)
    (events : List NetworkEvent) (reply : Reply ErrorKind Unit) : Prop :=
  Offered bytes → (∀ event ∈ events, Writes stream Offered event) ∧
    handedBytes events <+: bytes ∧ (handedBytes events = bytes ↔ reply = .returned ())

/-- Nothing has been handed over when the loop gives up or waits. -/
theorem DrainLeft.short {stream : TcpStream} {bytes : Bytes} {events : List NetworkEvent}
    {reply : Reply ErrorKind Unit}
    (writes : Offered bytes → ∀ event ∈ events, Writes stream Offered event)
    (nothing : handedBytes events = []) (some : bytes ≠ [])
    (unfinished : reply ≠ .returned ()) : DrainLeft stream Offered bytes events reply := by
  -- Some bytes are left.
  intro allowed
  refine ⟨writes allowed, nothing ▸ List.nil_prefix, ?_⟩
  rw [nothing]
  exact iff_of_false some.symm unfinished

/-- Bytes that a round has handed over stand before those of the next rounds. -/
theorem DrainLeft.grow {stream : TcpStream} {bytes : Bytes} {taken : Nat}
    {events more : List NetworkEvent} {reply : Reply ErrorKind Unit}
    (closed : ∀ bytes count, Offered bytes → Offered (bytes.drop count))
    (writes : Offered bytes → ∀ event ∈ events, Writes stream Offered event)
    (handed : handedBytes events = bytes.take taken)
    (left : DrainLeft stream Offered (bytes.drop taken) more reply) :
    DrainLeft stream Offered bytes (events ++ more) reply := by
  -- What was taken and what was left make up all bytes.
  intro allowed
  obtain ⟨others, ⟨rest, part⟩, decided⟩ := left (closed bytes taken allowed)
  have whole := List.take_append_drop taken bytes
  refine ⟨List.forall_mem_append.mpr ⟨writes allowed, others⟩, ⟨rest, ?_⟩, ?_⟩
  · rw [handedBytes_append, handed, List.append_assoc, part, whole]
  · rw [← decided, handedBytes_append, handed]
    nth_rewrite 2 [← whole]
    exact List.append_right_inj _

/-- Each round of writing but the last takes an answer. -/
theorem writeRound_shrinks (bytes : Bytes) (network : Network) (next : Bytes) (after : Network)
    (ran : connection.writeRound bytes network = (.returned (.inl next), after)) :
    answersLeft after < answersLeft network := by
  -- The clock is read in every round that writes.
  by_cases done : bytes.isEmpty
  · rw [Connection.writeRound, if_pos done] at ran
    cases ran
  · have writing : Takes 1 (connection.write bytes) :=
      (takes_remaining.mapError _).bind fun _ => takes_askDone.none.bind fun _ => takes_ask.none
    have round : Takes 1 (connection.writeRound bytes) := by
      rw [Connection.writeRound, if_neg done]
      apply writing.attempt.bind
      intro result
      repeat' split
      all_goals first | exact takes_pure | exact takes_fail
    exact round.shrinks ran (by simp)

/-- A round of writing leaves behind what the rest of the loop is to continue. -/
theorem leaves_writeRound (closed : ∀ bytes count, Offered bytes → Offered (bytes.drop count))
    (bytes : Bytes) :
    Leaves (Round (DrainLeft connection.stream Offered) bytes) (connection.writeRound bytes) := by
  -- When no bytes are left the loop ends, and otherwise one write is attempted.
  by_cases done : bytes.isEmpty
  · rw [Connection.writeRound, if_pos done]
    have none := List.isEmpty_iff.mp done
    exact leaves_pure fun _ => ⟨by simp, by simp [handedBytes], by simp [handedBytes, none]⟩
  · rw [Connection.writeRound, if_neg done]
    -- What is offered are exactly the bytes that are left.
    have some : bytes ≠ [] := fun none => done (List.isEmpty_iff.mpr none)
    have written : Leaves (WriteLeft connection.stream (· = bytes) bytes)
      (connection.write bytes) := leaves_write rfl
    have widen : ∀ events : List NetworkEvent,
        (∀ event ∈ events, Writes connection.stream (· = bytes) event) → Offered bytes →
        ∀ event ∈ events, Writes connection.stream Offered event :=
      fun events writes allowed event member =>
        (writes event member).mono fun _ same => same ▸ allowed
    refine Leaves.bind written.attempt (fun _ _ caught => caught.elim) ?_ ?_
    · rintro events ⟨writes, nothing⟩
      show DrainLeft connection.stream Offered bytes events .waiting
      exact DrainLeft.short (widen events writes) nothing some (by simp)
    · rintro events (kind | taken) ⟨writes, given⟩
      · -- An interrupted write has taken nothing, and the loop goes on as before.
        by_cases again : kind = .interrupted
        · simp only [if_pos again]
          apply leaves_pure
          intro more reply left
          rw [List.append_nil]
          exact DrainLeft.grow closed (widen events writes) (given.trans List.take_zero.symm) left
        · simp only [if_neg again]
          apply leaves_fail
          rw [List.append_nil]
          show DrainLeft connection.stream Offered bytes events (.failed kind)
          exact DrainLeft.short (widen events writes) given some (by simp)
      · obtain ⟨given, fits⟩ := given
        -- A write that takes nothing ends the loop, and another one leaves less.
        cases taken with
        | zero =>
          apply leaves_fail
          rw [List.append_nil]
          show DrainLeft connection.stream Offered bytes events (.failed .writeZero)
          exact DrainLeft.short (widen events writes) given some (by simp)
        | succ taken =>
          apply leaves_pure
          intro more reply left
          rw [List.append_nil]
          exact DrainLeft.grow closed (widen events writes) given left

/-- Writing all bytes leaves only writes of them behind: all if it returns, or a part. -/
theorem leaves_writeAll (closed : ∀ bytes count, Offered bytes → Offered (bytes.drop count))
    (bytes : Bytes) :
    Leaves (DrainLeft connection.stream Offered bytes) (connection.writeAll bytes) :=
  leaves_repeatUntil writeRound_shrinks _ (leaves_writeRound closed) bytes

end Writing

section Connecting

variable {Kind : NetworkEvent → Prop}

/-- Resolving a host emits readings of the clock and what the resolver's thread does. -/
theorem emits_resolve {endpoint : Endpoint} {deadline : Instant} (now : ∀ time, Kind (.now time))
    (spawned : ∀ host port result, Kind (.spawned host port result))
    (resolved : ∀ timeout reply, Kind (.resolved timeout reply)) :
    Emits Kind (endpoint.resolve deadline) := by
  -- A number is its own address, and a name is given to the thread.
  unfold Endpoint.resolve
  split
  · exact emits_pure
  · apply ((emits_askDone fun _ => spawned _ _ _).mapError _).bind
    intro _
    apply (emits_remaining now).bind
    intro left
    apply (emits_receiveResolved fun _ => resolved _ _).bind
    intro reply
    split
    all_goals first | exact emits_pure | exact emits_fail

/-- Connecting emits readings of the clock and attempts. -/
theorem emits_connect {deadline : Instant} (now : ∀ time, Kind (.now time))
    (connected : ∀ stream address timeout result, Kind (.connected stream address timeout result))
    (addresses : List SocketAddr) : Emits Kind (connect addresses deadline) := by
  -- The addresses are tried in turn.
  have general : ∀ (addresses : List SocketAddr) (last : WifiProvisioningError),
      Emits Kind (connectFrom deadline last addresses) := by
    intro addresses
    induction addresses with
    | nil => exact fun last => emits_fail
    | cons address rest ih =>
      intro last
      apply (emits_remaining now).bind
      intro left
      apply (emits_connectTimeout fun _ _ => connected _ _ _ _).attempt.bind
      intro result
      cases result with
      | ok stream => exact emits_pure
      | error kind => exact ih _
  exact general _ _

/-- Filling a buffer emits reads of its connection. -/
theorem emits_readExact {connection : Connection}
    (reads : ∀ event, Reads connection.stream event → Kind event) (length : Nat) :
    Emits Kind (connection.readExact length) :=
  (leaves_readExact length).mono fun _ _ left event member => reads event (left.1 event member)

/-- Reading the master's answer emits reads of its connection. -/
theorem emits_readHttpBody {connection : Connection}
    (reads : ∀ event, Reads connection.stream event → Kind event) :
    Emits Kind (readHttpBody connection) := by
  -- The header is read byte by byte, and then the body.
  apply Emits.bind
  · refine emits_repeatUntil (fun header => ?_) []
    unfold headerRound
    split
    · exact emits_pure
    · split
      · exact emits_fail
      · apply ((emits_readExact reads 1).mapError _).bind
        intro byte
        exact emits_pure
  · intro header
    apply emits_ofExcept.bind
    intro length
    exact (emits_readExact reads length).mapError _

end Connecting

end Scout.Wifi
