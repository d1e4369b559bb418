import Scout.Matlab.Replies

/-! A call is not left waiting where the clock goes on and the calls to the language return. -/

namespace Scout.Matlab

open Machine Dialogue

/-- The looks at the clock go on until the time is over. -/
def Session.Watched (session : Session) : Prop :=
  ∃ poll ∈ session.polls, session.client.timeout ≤ poll.elapsed

/-- Every call to the language that a call of the client can make returns. -/
structure Session.Supplied (session : Session) : Prop where
  watched : session.Watched
  /-- A call connects to the camera and writes one request at most. -/
  attempts : 2 ≤ session.attempts.length
  /-- Each reading from the camera brings a byte at least, or it is the last one. -/
  readings : 4 + maxJpegBytes ≤ session.readings.length

section Control

variable {Value : Type} {runtime : Runtime Value} {bridge : BridgeReplies} {start : Session}

/-- Reading a response ends when the time is over. -/
theorem readResponse_ends_watched (bounded : start.client.controlBuffer.length ≤ maximum)
    (watched : start.Watched) : Ends start (readResponse runtime) := by
  -- A look that is late ends the reading of a line, and the line is then decoded.
  refine Ends.bind (fun waits => ?_) fun line after ran => ends_ofExcept
  have read := readControlLine_reads bounded
  unfold Ensures at read
  rw [waits] at read
  obtain ⟨poll, member, late⟩ := watched
  exact read.2.2 poll member late

/-- Connecting or writing ends if the call to the language returns. -/
theorem attempt_ends_supplied {done : Session → Session} {partly : Nat → Session → Session}
    (supplied : start.attempts ≠ []) : Ends start (attempt done partly) := by
  -- The next attempt is there.
  unfold Ends attempt
  cases queue : start.attempts with
  | nil => exact absurd queue supplied
  | cons first attempts => cases first <;> exact fun waits => by cases waits

/-- A request ends when the time is over. -/
theorem request_ends_supplied (bounded : start.client.controlBuffer.length ≤ maximum)
    (watched : start.Watched) (supplied : start.attempts ≠ []) (message : Json) :
    Ends start (request runtime bridge message) := by
  -- Only the writing and the reading can take time.
  have opened : Ensures start assertOpen fun reply after => reply ≠ .waiting ∧ after = start := by
    rw [Ensures, assertOpen, current_bind]
    split
    · exact ⟨fun waits => (by cases waits), rfl⟩
    · exact ⟨fun waits => (by cases waits), rfl⟩
  refine Ends.bind opened.1 fun value after ran => ?_
  have same : after = start := by
    have second := opened.2
    rwa [ran] at second
  subst same
  refine Ends.handle ?_ fun error after ran => ?_
  · refine Ends.bind (attempt_ends_supplied supplied) fun value middle ran => ?_
    have ends : AttemptEnds _ _ after (writeline bridge (runtime.jsonencode message) after) :=
      attempt_ends _ _ after
    rw [ran] at ends
    cases ends with
    | done attempts => exact readResponse_ends_watched bounded watched
  · unfold requestFailed
    split
    · exact Ends.bind (fun waits => by cases waits) fun _ _ _ => ends_fail
    · exact ends_fail

/-- Stopping ends when the time is over. -/
theorem stop_ends_supplied (bounded : start.client.controlBuffer.length ≤ maximum)
    (watched : start.Watched) (supplied : start.attempts ≠ []) :
    Ends start (stop runtime bridge) := by
  -- Either nothing is sent, or the request comes to an end.
  unfold Ends
  rw [stop, current_bind]
  split
  · exact ends_pure
  · exact Ends.bind (request_ends_supplied bounded watched supplied _) fun _ _ _ => ends_ofExcept

/-- Setting a velocity ends when the time is over. -/
theorem setVelocity_ends_supplied (bounded : start.client.controlBuffer.length ≤ maximum)
    (watched : start.Watched) (supplied : start.attempts ≠ []) (vx vy vtheta timeout : F64) :
    Ends start (setVelocity runtime bridge vx vy vtheta timeout) := by
  -- Some arguments are refused at once.
  unfold setVelocity
  split
  · exact ends_fail
  split
  · exact ends_fail
  unfold Ends
  rw [current_bind]
  split
  · exact ends_fail
  · exact Ends.bind (request_ends_supplied bounded watched supplied _) fun _ _ _ => ends_ofExcept

/-- Deleting a client ends when the time is over. -/
theorem delete_ends_supplied (bounded : start.client.controlBuffer.length ≤ maximum)
    (watched : start.Watched) (supplied : start.attempts ≠ []) :
    Ends start (delete runtime bridge) := by
  -- The cases are the branches of the destructor.
  unfold Ends
  rw [delete, current_bind]
  split
  · exact ends_pure
  split
  · refine Ends.bind ((stop_ends_supplied bounded watched supplied).handle
      fun _ _ _ => ends_pure) fun _ _ _ => fun waits => by cases waits
  · exact fun waits => by cases waits

/-- Constructing a client ends when the time is over. -/
theorem construct_ends_supplied {arguments : Arguments} {polls : List Poll}
    {attempts : List Attempt} {readings : List Reading}
    (watched : ∃ poll ∈ polls, arguments.timeout ≤ poll.elapsed) (supplied : attempts ≠ []) :
    Ends (.start arguments polls attempts readings) (construct runtime bridge) := by
  -- After a failure the connections are closed, which takes no time.
  refine Ends.handle ?_ fun error after ran =>
    Ends.bind (fun waits => by cases waits) fun _ _ _ => ends_fail
  refine Ends.bind (attempt_ends_supplied supplied) fun value middle ran => ?_
  have ends : AttemptEnds _ _ (Session.start arguments polls attempts readings)
    (connectControl bridge (Session.start arguments polls attempts readings)) := attempt_ends _ _ _
  rw [ran] at ends
  cases ends with
  | done left =>
    refine Ends.bind (readResponse_ends_watched (Nat.zero_le _) watched) fun hello after ran => ?_
    split
    · exact ends_fail
    · exact fun waits => by cases waits

end Control

section Camera

variable {bridge : BridgeReplies} {start session : Session} {count : Nat} {bytes : Bytes}

/-- How a reading from the camera connection ends: with one reading less, if there is one. -/
def ReadingUsed (start : Session) (count : Nat) : Reply MException Bytes → Session → Prop
  | .returned chunk, after =>
    chunk.length ≤ count ∧ start.readings.length = after.readings.length + 1
  | .failed _, _ => True
  | .waiting, _ => start.readings = []

/-- A reading from the camera connection uses one reading up. -/
theorem readCamera_uses (start : Session) (count : Nat) :
    Ensures start (readCamera count) (ReadingUsed start count) := by
  -- The cases are those of the next reading.
  unfold Ensures readCamera
  cases readings : start.readings with
  | nil => exact readings
  | cons reading readings' =>
    cases reading with
    | raised error => trivial
    | bytes most =>
      refine ⟨Nat.le_trans (List.length_take_le _ _) (Nat.min_le_right _ _), ?_⟩
      rw [readings, List.length_cons]

/-- While a buffer is being filled, no more readings have been used than there are bytes in it. -/
structure Filling (start : Session) (count : Nat) (bytes : Bytes) (session : Session) : Prop where
  short : bytes.length ≤ count
  used : start.readings.length ≤ session.readings.length + bytes.length

/-- How reading so many bytes ends where there are enough readings. -/
def EnoughRead (start : Session) (count : Nat) : Reply MException Bytes → Session → Prop
  | .returned _, after => start.readings.length ≤ after.readings.length + count
  | .failed _, _ => True
  | .waiting, _ => False

/-- Each round goes on filling the buffer, or it is over. -/
theorem readExactRound_fills (enough : count ≤ start.readings.length)
    (filling : Filling start count bytes session) :
    Ensures session (readExactRound count bytes)
      (Continues (fun bytes after => Filling start count bytes after ∧
        after.readings.length < session.readings.length) (EnoughRead start count)) := by
  obtain ⟨short, used⟩ := filling
  unfold readExactRound
  by_cases more : bytes.length < count
  · rw [if_pos more]
    refine (readCamera_uses session _).bind (fun _ _ _ => trivial) (fun after none => ?_)
      fun chunk after read => ?_
    · -- There would be too few readings for the bytes that are lacking.
      have empty : session.readings = [] := none
      rw [empty, List.length_nil] at used
      show False
      omega
    · obtain ⟨few, fewer⟩ := read
      by_cases none : chunk = []
      · rw [if_pos none]
        trivial
      · rw [if_neg none]
        have some := List.length_pos_of_ne_nil none
        have grown : (bytes ++ chunk).length = bytes.length + chunk.length := List.length_append
        have less : after.readings.length < session.readings.length := by omega
        have still : start.readings.length ≤ after.readings.length + (bytes ++ chunk).length := by
          omega
        exact ⟨⟨by omega, still⟩, less⟩
  · rw [if_neg more]
    exact Nat.le_trans used (Nat.add_le_add_left short _)

/-- So many readings bring so many bytes, or the first one that brings none is the last. -/
theorem readExact_enough (enough : count ≤ start.readings.length) :
    Ensures start (readExact count) (EnoughRead start count) := by
  -- The loop begins with all of the readings left.
  have filling : Filling start count [] start := ⟨Nat.zero_le _, Nat.le_add_right _ _⟩
  exact ensures_repeatUntil (fun place session => readExactRound_fills enough) filling

/-- With enough readings, reading so many bytes ends. -/
theorem readExact_ends (enough : count ≤ start.readings.length) :
    Ends start (readExact count) := by
  -- Waiting is excluded by what the loop has left.
  intro waits
  have read := readExact_enough enough
  unfold Ensures at read
  rwa [waits] at read

/-- Reading so many bytes has used as many readings, or fewer. -/
theorem readExact_leaves {after : Session} (enough : count ≤ start.readings.length)
    (ran : readExact count start = (.returned bytes, after)) :
    start.readings.length ≤ after.readings.length + count := by
  -- What the loop has left is known.
  have read := readExact_enough enough
  unfold Ensures at read
  rwa [ran] at read

/-- What connecting or writing leaves of what the language is to answer. -/
theorem attempt_uses {done : Session → Session} {partly : Nat → Session → Session}
    {value : Unit} {after : Session} (ran : attempt done partly start = (.returned value, after))
    (kept : ∀ session, (done session).attempts = session.attempts ∧
      (done session).readings = session.readings) :
    start.attempts.length = after.attempts.length + 1 ∧ after.readings = start.readings := by
  -- Only an attempt that is made returns.
  unfold attempt at ran
  cases queue : start.attempts with
  | nil =>
    rw [queue] at ran
    cases ran
  | cons first attempts =>
    rw [queue] at ran
    cases first with
    | raised error count => cases ran
    | done =>
      cases ran
      rw [(kept _).1, (kept _).2]
      exact ⟨rfl, rfl⟩

/-- How connecting to the camera ends where there are two attempts. -/
theorem connectCamera_ends (attempts : 2 ≤ start.attempts.length) :
    Ends start connectCamera ∧ ∀ value after, connectCamera start = (.returned value, after) →
      after.attempts ≠ [] ∧ after.readings = start.readings := by
  -- One attempt is used at most.
  have some : start.attempts ≠ [] := List.ne_nil_of_length_pos (by omega)
  unfold Ends
  rw [connectCamera, current_bind]
  split
  · refine ⟨ends_pure, fun value after ran => ?_⟩
    cases ran
    exact ⟨some, rfl⟩
  · refine ⟨attempt_ends_supplied some, fun value after ran => ?_⟩
    obtain ⟨used, same⟩ := attempt_uses ran fun _ => ⟨rfl, rfl⟩
    exact ⟨List.ne_nil_of_length_pos (by omega), same⟩

/-- A frame that may be read is not longer than the readings last. -/
theorem le_of_acceptsLength {length : Nat} (accepts : matlabReader.acceptsLength length = true) :
    length ≤ maxJpegBytes := by
  -- The length is within both bounds.
  simp only [matlabReader, Bool.not_eq_true', Bool.or_eq_false_iff, decide_eq_false_iff_not,
    not_lt] at accepts
  exact accepts.2

/-- Requesting a frame ends where every call to the language returns. -/
theorem requestJpeg_ends (attempts : 2 ≤ start.attempts.length)
    (readings : 4 + maxJpegBytes ≤ start.readings.length) : Ends start (requestJpeg bridge) := by
  -- Two attempts connect and ask, and the readings are enough for the header and the picture.
  obtain ⟨connects, left⟩ := connectCamera_ends attempts
  refine Ends.bind connects fun value connected ran => ?_
  obtain ⟨some, same⟩ := left value connected ran
  refine Ends.bind (attempt_ends_supplied some) fun value asked ran => ?_
  have kept := (attempt_uses ran fun _ => ⟨rfl, rfl⟩).2.trans same
  rw [← kept] at readings
  refine Ends.bind (readExact_ends (by omega)) fun header after ran => ?_
  have rest := readExact_leaves (by omega) ran
  dsimp only
  split
  · exact ends_fail
  · rename_i accepted
    -- A length that is accepted leaves enough readings for the picture.
    have short := le_of_acceptsLength (by simpa using accepted)
    refine Ends.bind (readExact_ends (by omega)) fun jpeg last ran => ?_
    split
    · exact ends_fail
    · exact ends_pure

/-- Reading a frame ends where every call to the language returns. -/
theorem readJpeg_ends_supplied (attempts : 2 ≤ start.attempts.length)
    (readings : 4 + maxJpegBytes ≤ start.readings.length) : Ends start (readJpeg bridge) := by
  -- A client that is open goes on without having read anything.
  have opened : ∀ after, assertOpen start = (.returned (), after) → after = start := by
    intro after ran
    rw [assertOpen, current_bind] at ran
    split at ran
    · cases ran
    · cases ran
      rfl
  unfold readJpeg
  refine Ends.bind ?_ fun value after ran => ?_
  · unfold Ends
    rw [assertOpen, current_bind]
    split
    · exact ends_fail
    · exact ends_pure
  · rw [opened after ran]
    exact (requestJpeg_ends attempts readings).handle fun error after ran =>
      Ends.bind (fun waits => by cases waits) fun _ _ _ => ends_fail

end Camera

/-- Every call ends where every call to the language that it makes returns. -/
theorem perform_ends_supplied {Value : Type} {runtime : Runtime Value} {bridge : BridgeReplies}
    {start : Session} (bounded : start.client.controlBuffer.length ≤ maximum)
    (supplied : start.Supplied) (call : Call) : Ends start (perform runtime bridge call) := by
  have some : start.attempts ≠ [] := by
    have two := supplied.attempts
    exact List.ne_nil_of_length_pos (by omega)
  have watched := supplied.watched
  -- The result is only wrapped.
  cases call with
  | setVelocity vx vy vtheta timeout =>
    exact (setVelocity_ends_supplied bounded watched some vx vy vtheta timeout).bind
      fun _ _ _ => ends_pure
  | stop => exact (stop_ends_supplied bounded watched some).bind fun _ _ _ => ends_pure
  | ping =>
    exact ((request_ends_supplied bounded watched some _).bind
      fun _ _ _ => ends_ofExcept).bind fun _ _ _ => ends_pure
  | readJpeg =>
    exact (readJpeg_ends_supplied supplied.attempts supplied.readings).bind
      fun _ _ _ => ends_pure
  | delete => exact (delete_ends_supplied bounded watched some).bind fun _ _ _ => ends_pure

end Scout.Matlab
