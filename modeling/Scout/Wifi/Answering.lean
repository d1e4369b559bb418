import Scout.Machine.Progress
import Scout.Wifi.Troubles

/-! A system that answers every call comes to the end of every exchange on a connection. -/

namespace Scout.Wifi

open Machine Dialogue NetworkM

/-- A call on a connection is interrupted. -/
def NetworkEvent.interrupts : NetworkEvent → Bool
  | .setReadTimeout _ _ (.error .interrupted) => true
  | .setWriteTimeout _ _ (.error .interrupted) => true
  | .read _ _ (.error .interrupted) => true
  | .write _ _ (.error .interrupted) => true
  | _ => false

open NetworkEvent

/-- How many calls have been interrupted. -/
def interruptions (events : List NetworkEvent) : Nat :=
  events.countP interrupts

/-- A system that answers every call on a connection, given all that has happened before. -/
structure NetworkSystem where
  time : List NetworkEvent → Instant
  done : List NetworkEvent → Except ErrorKind Unit
  bytes : List NetworkEvent → Nat → Except ErrorKind Bytes
  count : List NetworkEvent → Bytes → Except ErrorKind Nat
  /-- No more bytes are received than there is room for. -/
  bytesFit : ∀ log room, ((bytes log room).toOption.getD []).length ≤ room
  /-- No more bytes are taken than are offered. -/
  countFits : ∀ log offered, (count log offered).toOption.getD 0 ≤ offered.length
  /-- So many calls are interrupted at most. -/
  patience : Nat
  patient : ∀ log, patience ≤ interruptions log → done log ≠ .error .interrupted ∧
    (∀ room, bytes log room ≠ .error .interrupted) ∧
    ∀ offered, count log offered ≠ .error .interrupted

/-- The calls that a connection makes, with the answers that the system gives. -/
def NetworkSystem.Answers (system : NetworkSystem) (log : List NetworkEvent) :
    NetworkEvent → Prop
  | .now time => time = system.time log
  | .setReadTimeout _ _ result => result = system.done log
  | .setWriteTimeout _ _ result => result = system.done log
  -- A connection asks for at least one byte, and it offers one at least.
  | .read _ room result => 0 < room ∧ result = system.bytes log room
  | .write _ offered result => offered ≠ [] ∧ result = system.count log offered
  | _ => False

section Patience

variable {system : NetworkSystem} {before more : List NetworkEvent}

/-- Interruptions are counted one event after another. -/
theorem interruptions_append (first second : List NetworkEvent) :
    interruptions (first ++ second) = interruptions first + interruptions second :=
  List.countP_append

/-- A system that interrupts a call has interrupted few calls before. -/
theorem interruptions_lt_of_interrupts {event : NetworkEvent}
    (answers : system.Answers before event) (interrupts : event.interrupts = true) :
    interruptions before < system.patience := by
  -- Afterwards no call is answered with an interruption.
  by_contra patient
  obtain ⟨done, bytes, count⟩ := system.patient before (Nat.le_of_not_lt patient)
  unfold NetworkEvent.interrupts at interrupts
  split at interrupts
  · exact done answers.symm
  · exact done answers.symm
  · exact bytes _ answers.2.symm
  · exact count _ answers.2.symm
  · cases interrupts

/-- Each interruption brings a system closer to its last one. -/
theorem patience_shrinks (conforms : Conforms system.Answers before more)
    (interrupted : ∃ event ∈ more, event.interrupts = true) :
    system.patience - interruptions (before ++ more) < system.patience - interruptions before := by
  -- The first event of the rest either interrupts, or one behind it does.
  have some : interruptions before < system.patience := by
    induction more generalizing before with
    | nil =>
      obtain ⟨_, member, _⟩ := interrupted
      cases member
    | cons event more ih =>
      obtain ⟨first, member, interrupts⟩ := interrupted
      rcases List.mem_cons.mp member with rfl | later
      · exact interruptions_lt_of_interrupts conforms.1 interrupts
      · have grown := ih conforms.2 ⟨first, later, interrupts⟩
        rw [interruptions_append] at grown
        omega
  have counted : 0 < interruptions more := List.countP_pos_iff.mpr interrupted
  rw [interruptions_append]
  omega

end Patience

/-- A reply that is an interruption has one behind it. -/
def Paused {α : Type} (events : List NetworkEvent) (reply : Reply ErrorKind α) : Prop :=
  reply = .failed .interrupted → ∃ event ∈ events, event.interrupts = true

section Calls

variable {system : NetworkSystem} {before : List NetworkEvent} {connection : Connection}

/-- The time that is left is measured. -/
theorem concludes_remaining {deadline : Instant} :
    Concludes system.Answers before (remaining deadline) fun _ _ => True := by
  -- The clock is read, and then there is time left or not.
  have clock : Concludes system.Answers before
      (instantNow : NetworkM WifiProvisioningError Instant) fun _ _ => True :=
    concludes_ask (.time (system.time before)) rfl rfl trivial
  refine clock.after fun _ now => ?_
  split
  · exact concludes_pure trivial
  · exact concludes_fail trivial

/-- A transfer before whose question its limit is set comes to an end. -/
theorem concludes_transfer {α : Type} {setting : Duration → Except ErrorKind Unit → NetworkEvent}
    {transfer : NetworkM ErrorKind α}
    (set : ∀ log timeout, system.Answers log (setting timeout (system.done log)))
    (paused : ∀ timeout, (setting timeout (.error .interrupted)).interrupts = true)
    (transferred : ∀ before, Concludes system.Answers before transfer Paused) :
    Concludes system.Answers before (do
      let left ← (remaining connection.deadline).mapError fun _ => ErrorKind.timedOut
      askDone (setting left)
      transfer) Paused := by
  -- A deadline that is reached is no interruption.
  refine (concludes_remaining.mapError _).bind (fun events error failed same => ?_)
    fun first left _ => ?_
  · obtain ⟨_, rfl, _⟩ := failed
    cases same
  have limited : Concludes system.Answers (before ++ first) (askDone (setting left)) Paused := by
    refine concludes_ask (.done (system.done (before ++ first))) rfl (set _ left) ?_
    intro same
    refine ⟨_, List.mem_singleton_self _, ?_⟩
    cases replied : system.done (before ++ first) with
    | ok value =>
      rw [replied] at same
      cases same
    | error kind =>
      rw [replied] at same
      cases same
      exact paused left
  -- What is interrupted later is among all events.
  have behind : ∀ (first : List NetworkEvent) {more : List NetworkEvent}
      {reply : Reply ErrorKind α}, Paused more reply → Paused (first ++ more) reply := by
    intro first more reply later same
    obtain ⟨event, member, interrupts⟩ := later same
    exact ⟨event, List.mem_append_right _ member, interrupts⟩
  refine limited.bind (fun events error waits => behind first fun same => ?_) fun second _ _ =>
    (transferred _).mono fun _ _ later => behind first (behind second later)
  cases same
  exact waits rfl

/-- A call that is answered has been interrupted only if its event says so. -/
theorem paused_answer {α : Type} {event : NetworkEvent} {result : Except ErrorKind α}
    (interrupts : result = .error .interrupted → event.interrupts = true) :
    Paused [event] (.ofResult result) := by
  -- A value is no interruption.
  intro same
  refine ⟨event, List.mem_singleton_self _, interrupts ?_⟩
  cases result with
  | ok value => cases same
  | error kind =>
    cases same
    rfl

/-- Reading some bytes comes to an end. -/
theorem concludes_read {room : Nat} (some : 0 < room) :
    Concludes system.Answers before (connection.read room) Paused := by
  -- The bytes fit the room, so they are an answer.
  refine concludes_transfer (fun _ _ => rfl) (fun _ => rfl) fun before => ?_
  refine concludes_ask (.bytes (system.bytes before room))
    (if_pos (system.bytesFit before room)) ⟨some, rfl⟩ ?_
  exact paused_answer fun same => by rw [same]; rfl

/-- Writing some bytes comes to an end. -/
theorem concludes_write {bytes : Bytes} (some : bytes ≠ []) :
    Concludes system.Answers before (connection.write bytes) Paused := by
  -- No more is taken than is offered, so the number is an answer.
  refine concludes_transfer (fun _ _ => rfl) (fun _ => rfl) fun before => ?_
  refine concludes_ask (.count (system.count before bytes))
    (if_pos (system.countFits before bytes)) ⟨some, rfl⟩ ?_
  exact paused_answer fun same => by rw [same]; rfl

/-- Filling a buffer comes to an end: each round brings bytes, or is one interruption less. -/
theorem concludes_readExact (length : Nat) :
    Concludes system.Answers before (connection.readExact length) fun _ _ => True := by
  -- What is far is what is lacking, and the interruptions that are still to come.
  refine concludes_repeatUntil readRound_shrinks (fun filled => filled.length ≤ length)
    (fun log filled => system.patience - interruptions log + (length - filled.length))
    (fun before filled fits => ?_) (Nat.zero_le _)
  by_cases full : filled.length = length
  · rw [Connection.readRound, if_pos full]
    exact concludes_pure fun _ same => by cases same
  rw [Connection.readRound, if_neg full]
  have lacking : 0 < length - filled.length := by omega
  refine ((concludes_read lacking).leaves leaves_read).attempt.bind (fun _ _ none => none.elim) ?_
  rintro events (kind | bytes) ⟨conforms, paused, _, left⟩
  · by_cases again : kind = .interrupted
    · simp only [if_pos again]
      refine concludes_pure fun next same => ?_
      cases same
      rw [List.append_nil]
      have closer := patience_shrinks conforms (paused (congrArg _ again))
      exact ⟨fits, by omega⟩
    · simp only [if_neg again]
      exact concludes_fail fun _ same => by cases same
  · cases bytes with
    | nil => exact concludes_fail fun _ same => by cases same
    | cons byte rest =>
      refine concludes_pure fun next same => ?_
      cases same
      rw [List.append_nil, interruptions_append]
      have few : (byte :: rest).length ≤ length - filled.length := left.2
      have some : 0 < (byte :: rest).length := Nat.succ_pos _
      have grown : (filled ++ byte :: rest).length = filled.length + (byte :: rest).length :=
        List.length_append
      exact ⟨by omega, by omega⟩

/-- Writing all bytes comes to an end: each round takes bytes, or is one interruption less. -/
theorem concludes_writeAll (bytes : Bytes) :
    Concludes system.Answers before (connection.writeAll bytes) fun _ _ => True := by
  -- What is far is what is left, and the interruptions that are still to come.
  refine concludes_repeatUntil writeRound_shrinks (fun _ => True)
    (fun log bytes => system.patience - interruptions log + bytes.length)
    (fun before bytes _ => ?_) trivial
  by_cases done : bytes.isEmpty
  · rw [Connection.writeRound, if_pos done]
    exact concludes_pure fun _ same => by cases same
  rw [Connection.writeRound, if_neg done]
  have some : bytes ≠ [] := fun none => done (List.isEmpty_iff.mpr none)
  have written : Leaves (WriteLeft connection.stream (fun _ => True) bytes)
    (connection.write bytes) := leaves_write trivial
  refine ((concludes_write some).leaves written).attempt.bind (fun _ _ none => none.elim) ?_
  rintro events (kind | taken) ⟨conforms, paused, _, left⟩
  · by_cases again : kind = .interrupted
    · simp only [if_pos again]
      refine concludes_pure fun next same => ?_
      cases same
      rw [List.append_nil]
      have closer := patience_shrinks conforms (paused (congrArg _ again))
      exact ⟨trivial, by omega⟩
    · simp only [if_neg again]
      exact concludes_fail fun _ same => by cases same
  · cases taken with
    | zero => exact concludes_fail fun _ same => by cases same
    | succ taken =>
      refine concludes_pure fun next same => ?_
      cases same
      rw [List.append_nil, interruptions_append, List.length_drop]
      have fits : taken + 1 ≤ bytes.length := left.2
      exact ⟨trivial, by omega⟩

/-- Reading a frame comes to an end. -/
theorem concludes_readFrame (limit : Nat) :
    Concludes system.Answers before (readFrame connection.readExact limit) fun _ _ => True := by
  -- The length is read, and then as many bytes, if it is not too long.
  refine ((concludes_readExact 4).converted _).after fun _ header => ?_
  dsimp only
  split
  · exact concludes_fail trivial
  · exact (concludes_readExact _).converted _

/-- Writing a frame comes to an end. -/
theorem concludes_writeFrame (body : Bytes) :
    Concludes system.Answers before (writeFrame connection.writeAll body) fun _ _ => True :=
  (concludes_writeAll _).after fun _ _ => concludes_writeAll _

end Calls

/-- Another side that sends a stream and then ends it. -/
structure Server where
  sent : Bytes
  /-- At most one byte more than this comes at a time. -/
  piece : List NetworkEvent → Nat
  clock : List NetworkEvent → Instant

/-- Everything that a server sends comes before the deadline. -/
def Server.Timely (server : Server) (deadline : Instant) : Prop :=
  ∀ log, server.clock log < deadline

/-- The system between a server and a connection on which so much has happened before. -/
def Server.system (server : Server) (start : Nat) : NetworkSystem where
  time := server.clock
  done _ := .ok ()
  -- What has been received since the start is not sent again.
  bytes log room :=
    .ok ((server.sent.drop (receivedBytes (log.drop start)).length).take
      (min room (server.piece log + 1)))
  count _ offered := .ok offered.length
  bytesFit _ _ := Nat.le_trans (List.length_take_le _ _) (Nat.min_le_left _ _)
  countFits _ _ := Nat.le_refl _
  patience := 0
  patient _ _ := ⟨by simp, by simp, by simp⟩

section Serving

variable {server : Server} {deadline : Instant} {before : List NetworkEvent}

/-- One event more goes on where the stream was, and only the end of the stream is troubling. -/
theorem served_step {seen : List NetworkEvent} {event : NetworkEvent}
    (timely : server.Timely deadline)
    (answers : (server.system before.length).Answers (before ++ seen) event)
    (part : receivedBytes seen <+: server.sent) :
    receivedBytes (seen ++ [event]) <+: server.sent ∧ (Troubles deadline event →
      receivedBytes seen = server.sent ∧ ∃ stream room, event = .read stream room (.ok [])) := by
  -- The cases are the calls on a connection, of which only a read receives anything.
  rw [receivedBytes_append]
  cases event with
  | now time =>
    cases answers
    exact ⟨by simpa [receivedBytes, received] using part,
      fun late => absurd (timely _) (Nat.not_lt.mpr late)⟩
  | setReadTimeout stream timeout result =>
    cases answers
    refine ⟨by simpa [receivedBytes, received] using part, fun troubles => ?_⟩
    obtain ⟨_, fails, _⟩ := troubles
    cases fails
  | setWriteTimeout stream timeout result =>
    cases answers
    refine ⟨by simpa [receivedBytes, received] using part, fun troubles => ?_⟩
    obtain ⟨_, fails, _⟩ := troubles
    cases fails
  | read stream room result =>
    obtain ⟨some, rfl⟩ := answers
    obtain ⟨rest, whole⟩ := part
    simp only [Server.system, List.drop_left, ← whole]
    refine ⟨?_, fun troubles => ?_⟩
    · simp only [receivedBytes, received, List.flatMap_cons, List.flatMap_nil, List.append_nil]
      exact (List.prefix_append_right_inj _).mpr (List.take_prefix _ _)
    · -- A read is empty only where nothing is left.
      rcases troubles with same | ⟨_, fails, _⟩
      · have none : rest = [] := by
          have taken := Except.ok.inj same
          rcases List.take_eq_nil_iff.mp taken with empty | empty
          · omega
          · exact empty
        subst none
        exact ⟨(List.append_nil _).symm, stream, room, by simp⟩
      · cases fails
  | write stream offered result =>
    obtain ⟨some, rfl⟩ := answers
    refine ⟨by simpa [receivedBytes, received] using part, fun troubles => ?_⟩
    rcases troubles with same | ⟨_, fails, _⟩
    · exact absurd (List.eq_nil_of_length_eq_zero (Except.ok.inj same)) some
    · cases fails
  | _ => exact answers.elim

/-- Further events go on where the stream was, and the first trouble is the end of the stream. -/
theorem served_run {seen more : List NetworkEvent} (timely : server.Timely deadline)
    (conforms : Conforms (server.system before.length).Answers (before ++ seen) more)
    (part : receivedBytes seen <+: server.sent) :
    receivedBytes (seen ++ more) <+: server.sent ∧ ∀ event ∈ more, Troubles deadline event →
      receivedBytes (seen ++ more) = server.sent ∧
        ∃ stream room, event = .read stream room (.ok []) := by
  -- The induction is on the events, with those that have been seen.
  induction more generalizing seen with
  | nil =>
    rw [List.append_nil]
    exact ⟨part, List.forall_mem_nil _⟩
  | cons event more ih =>
    obtain ⟨answers, later⟩ := conforms
    rw [List.append_assoc] at later
    obtain ⟨onwards, ending⟩ := served_step timely answers part
    obtain ⟨whole, ended⟩ := ih later onwards
    rw [List.append_assoc, List.singleton_append] at whole ended
    refine ⟨whole, fun other member troubles => ?_⟩
    rcases List.mem_cons.mp member with rfl | behind
    · -- Nothing can follow the whole stream.
      obtain ⟨all, empty⟩ := ending troubles
      refine ⟨?_, empty⟩
      rw [receivedBytes_append, all] at whole ⊢
      exact (whole.eq_of_length_le (by simp)).trans rfl
    · exact ended other behind troubles

/-- What is received from a server is the stream that it sends, in whatever pieces. -/
theorem streams_served {events : List NetworkEvent} (timely : server.Timely deadline)
    (conforms : Conforms (server.system before.length).Answers before events) :
    Streams deadline server.sent events := by
  -- Nothing has been received before the first event.
  have begun := @served_run server deadline before [] events timely
    (by rwa [List.append_nil]) List.nil_prefix
  exact ⟨begun.1, begun.2⟩

end Serving

/-- The answers to reads that bring some bytes each. -/
def readAnswers (chunks : List Bytes) : List SystemAnswer :=
  chunks.flatMap fun chunk => [.time 0, .done (.ok ()), .bytes (.ok chunk)]

/-- The answers to writes that take some bytes each. -/
def writeAnswers (counts : List Nat) : List SystemAnswer :=
  counts.flatMap fun count => [.time 0, .done (.ok ()), .count (.ok count)]

end Scout.Wifi
