import Scout.Wifi.Replies

/-! Reading and writing on a connection fail only when something keeps them from going on. -/

namespace Scout.Wifi

open Machine Dialogue NetworkM

/-- A call fails for good, so it is not tried again. -/
def Refused {α : Type} (result : Except ErrorKind α) : Prop :=
  ∃ kind, result = .error kind ∧ kind ≠ .interrupted

/-- The time is over, a call fails for good, or the other side gives or takes nothing more. -/
def NetworkEvent.Troubles (deadline : Instant) : NetworkEvent → Prop
  | .now time => deadline ≤ time
  | .setReadTimeout _ _ result => Refused result
  | .setWriteTimeout _ _ result => Refused result
  | .read _ _ result => result = .ok [] ∨ Refused result
  | .write _ _ result => result = .ok 0 ∨ Refused result
  | _ => False

open NetworkEvent

/-- A reply after which a transfer is not continued. -/
def Stops {α : Type} (nothing : α) : Reply ErrorKind α → Prop
  | .returned value => value = nothing
  | .failed kind => kind ≠ .interrupted
  | .waiting => False

/-- A transfer that is not continued has met with trouble. -/
def Hindered {α : Type} (deadline : Instant) (nothing : α) (events : List NetworkEvent)
    (reply : Reply ErrorKind α) : Prop :=
  Stops nothing reply → ∃ event ∈ events, Troubles deadline event

section Transfers

variable {α : Type} {deadline : Instant} {nothing : α}

/-- What comes before does not take trouble away. -/
theorem Hindered.behind {events more : List NetworkEvent} {reply : Reply ErrorKind α}
    (hindered : Hindered deadline nothing more reply) :
    Hindered deadline nothing (events ++ more) reply := by
  -- The event is still there.
  intro stops
  obtain ⟨event, member, troubles⟩ := hindered stops
  exact ⟨event, List.mem_append_right _ member, troubles⟩

/-- Time is missing only when the clock says so. -/
theorem failsAfter_remaining : FailsAfter (Troubles deadline) (remaining deadline) := by
  -- The reading is the event that is looked for.
  refine Leaves.bind leaves_instantNow (fun _ _ none => none.elim)
    (fun _ _ _ fails => by cases fails) ?_
  rintro events time rfl
  by_cases early : time < deadline
  · simp only [filter_since_early early]
    exact leaves_pure fun _ fails => by cases fails
  · simp only [filter_since_late (Nat.le_of_not_lt early)]
    apply leaves_fail
    intro _ _
    exact ⟨.now time, by simp, Nat.le_of_not_lt early⟩

/-- A transfer is answered with a stop only by an event that is trouble. -/
theorem hindered_answer {event : NetworkEvent} {result : Except ErrorKind α}
    (troubles : result = .ok nothing ∨ Refused result → Troubles deadline event) :
    Hindered deadline nothing [event] (.ofResult result) := by
  -- The cases are those of the result.
  intro stops
  refine ⟨event, List.mem_singleton_self event, troubles ?_⟩
  cases result with
  | ok value => exact .inl (congrArg Except.ok stops)
  | error kind => exact .inr ⟨kind, rfl, stops⟩

/-- A transfer before whose question its limit is set stops only because of trouble. -/
theorem hindered_transfer {setting : Duration → Except ErrorKind Unit → NetworkEvent}
    {transfer : NetworkM ErrorKind α}
    (set : ∀ timeout result, Refused result → Troubles deadline (setting timeout result))
    (transferred : Leaves (Hindered deadline nothing) transfer) :
    Leaves (Hindered deadline nothing) (do
      let left ← (remaining deadline).mapError fun _ => ErrorKind.timedOut
      askDone (setting left)
      transfer) := by
  -- Each of the three steps can stop the transfer.
  refine Leaves.bind (failsAfter_remaining.mapError _) (fun _ kind causes _ => causes kind rfl)
    (fun _ _ stops => stops.elim) ?_
  intro before left _
  have limited : Leaves (fun events (reply : Reply ErrorKind Unit) =>
      ∀ kind, reply = .failed kind → kind ≠ .interrupted →
        ∃ event ∈ events, Troubles deadline event) (askDone (setting left)) := by
    refine answered_askDone (fun _ fails => by cases fails) fun result kind same final => ?_
    cases result with
    | ok _ => cases same
    | error reported =>
      cases same
      exact ⟨_, List.mem_singleton_self _, set left _ ⟨kind, rfl, final⟩⟩
  refine Leaves.bind limited (fun events kind causes stops => ?_) (fun _ _ stops => stops.elim) ?_
  · obtain ⟨event, member, troubles⟩ := causes kind rfl stops
    exact ⟨event, List.mem_append_right _ member, troubles⟩
  · intro events _ _
    refine transferred.mono fun more reply hindered => ?_
    exact hindered.behind.behind

end Transfers

section Connections

variable {connection : Connection}

/-- Reading some bytes stops only because of trouble. -/
theorem hindered_read (room : Nat) :
    Leaves (Hindered connection.deadline []) (connection.read room) := by
  -- The bytes that are read, or the failure, are part of the event.
  refine hindered_transfer (fun _ _ refused => refused) ?_
  exact answered_recv (fun stops => stops.elim) fun result _ => hindered_answer id

/-- Writing some bytes stops only because of trouble. -/
theorem hindered_write (bytes : Bytes) :
    Leaves (Hindered connection.deadline 0) (connection.write bytes) := by
  -- The number of bytes that are taken, or the failure, is part of the event.
  refine hindered_transfer (fun _ _ refused => refused) ?_
  exact answered_send (fun stops => stops.elim) fun result _ => hindered_answer id

/-- Filling a buffer fails only because of trouble. -/
theorem failsAfter_readExact (length : Nat) :
    FailsAfter (Troubles connection.deadline) (connection.readExact length) := by
  -- Each round that does not go on has met with trouble.
  refine failsAfter_repeatUntil readRound_shrinks (fun filled => ?_) []
  by_cases full : filled.length = length
  · rw [Connection.readRound, if_pos full]
    exact failsAfter_pure
  rw [Connection.readRound, if_neg full]
  refine Leaves.bind (hindered_read _).attempt (fun _ _ caught => caught.elim)
    (fun _ _ _ fails => by cases fails) ?_
  rintro events (kind | bytes) hindered
  · by_cases again : kind = .interrupted
    · simp only [if_pos again]
      exact leaves_pure fun _ fails => by cases fails
    · simp only [if_neg again]
      apply leaves_fail
      rw [List.append_nil]
      exact fun _ _ => hindered again
  · cases bytes with
    | nil =>
      apply leaves_fail
      rw [List.append_nil]
      exact fun _ _ => hindered rfl
    | cons byte rest => exact leaves_pure fun _ fails => by cases fails

/-- Writing all bytes fails only because of trouble. -/
theorem failsAfter_writeAll (bytes : Bytes) :
    FailsAfter (Troubles connection.deadline) (connection.writeAll bytes) := by
  -- Each round that does not go on has met with trouble.
  refine failsAfter_repeatUntil writeRound_shrinks (fun bytes => ?_) bytes
  by_cases done : bytes.isEmpty
  · rw [Connection.writeRound, if_pos done]
    exact failsAfter_pure
  rw [Connection.writeRound, if_neg done]
  refine Leaves.bind (hindered_write _).attempt (fun _ _ caught => caught.elim)
    (fun _ _ _ fails => by cases fails) ?_
  rintro events (kind | taken) hindered
  · by_cases again : kind = .interrupted
    · simp only [if_pos again]
      exact leaves_pure fun _ fails => by cases fails
    · simp only [if_neg again]
      apply leaves_fail
      rw [List.append_nil]
      exact fun _ _ => hindered again
  · cases taken with
    | zero =>
      apply leaves_fail
      rw [List.append_nil]
      exact fun _ _ => hindered rfl
    | succ taken => exact leaves_pure fun _ fails => by cases fails

/-- Writing a frame fails only because of trouble. -/
theorem failsAfter_writeFrame (body : Bytes) :
    FailsAfter (Troubles connection.deadline) (writeFrame connection.writeAll body) :=
  (failsAfter_writeAll _).bind fun _ => failsAfter_writeAll _

end Connections

/-- What is received and what goes wrong agree with a stream that the other side sends and ends. -/
structure Streams (deadline : Instant) (sent : Bytes) (events : List NetworkEvent) : Prop where
  inOrder : receivedBytes events <+: sent
  untroubled : ∀ event ∈ events, Troubles deadline event →
    receivedBytes events = sent ∧ ∃ stream room, event = .read stream room (.ok [])

/-- Where a stream is received, the only trouble is its end. -/
theorem Streams.ended {deadline : Instant} {sent : Bytes} {events : List NetworkEvent}
    (streams : Streams deadline sent events)
    (troubled : ∃ event ∈ events, Troubles deadline event) : receivedBytes events = sent := by
  obtain ⟨event, member, troubles⟩ := troubled
  exact (streams.untroubled event member troubles).1

end Scout.Wifi
