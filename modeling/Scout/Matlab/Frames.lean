import Scout.Camera.Reading
import Scout.Matlab.Client

/-! A frame that is returned is the whole answer to its own request. -/

namespace Scout.Matlab

open Machine Dialogue

/-- After one session only the camera connection has been read from. -/
def Session.SameButFrames (start session : Session) : Prop :=
  session = { start with frames := session.frames, readings := session.readings }

/-- After one session only the camera connection has been used. -/
def Session.SameButCamera (start session : Session) : Prop :=
  session =
    { start with
      client := { start.client with camera := session.client.camera }
      requested := session.requested
      frames := session.frames
      attempts := session.attempts
      readings := session.readings }

/-- How a reading of at most so many bytes from the camera connection ends. -/
def ChunkRead (start : Session) (count : Nat) : Reply MException Bytes → Session → Prop
  | .returned chunk, after =>
    start.SameButFrames after ∧ chunk.length ≤ count ∧ start.frames = chunk ++ after.frames ∧
      after.readings.length < start.readings.length
  | _, after => start.SameButFrames after

/-- How reading so many bytes from the camera connection ends. -/
def BytesRead (start : Session) (count : Nat) : Reply MException Bytes → Session → Prop
  | .returned bytes, after =>
    start.SameButFrames after ∧ bytes.length = count ∧ start.frames = bytes ++ after.frames
  | _, after => start.SameButFrames after

section Reading

variable {start session : Session} {count : Nat}

/-- One thing after the other leaves everything else as it is. -/
theorem Session.SameButFrames.trans {middle : Session} (first : start.SameButFrames middle)
    (second : middle.SameButFrames session) : start.SameButFrames session := by
  -- The second session overwrites what the first one has changed.
  unfold SameButFrames
  rw [second, first]

/-- A reading takes the bytes that come next. -/
theorem readCamera_reads (start : Session) (count : Nat) :
    Ensures start (readCamera count) (ChunkRead start count) := by
  -- The cases are those of the next reading.
  unfold Ensures readCamera
  cases readings : start.readings with
  | nil => exact rfl
  | cons reading readings =>
    cases reading with
    | raised error => exact rfl
    | bytes most =>
      refine ⟨rfl, ?_, (List.take_append_drop _ _).symm, ?_⟩
      · rw [List.length_take]
        omega
      · rw [readings]
        exact Nat.lt_succ_self _

/-- While bytes are being read, they come first. -/
structure Collecting (start : Session) (count : Nat) (bytes : Bytes) (session : Session) :
    Prop where
  same : start.SameButFrames session
  whole : start.frames = bytes ++ session.frames
  short : bytes.length ≤ count

/-- Each round goes on collecting, or it is over. -/
theorem readExactRound_collects {bytes : Bytes}
    (collecting : Collecting start count bytes session) :
    Ensures session (readExactRound count bytes)
      (Continues (fun bytes after => Collecting start count bytes after ∧
        after.readings.length < session.readings.length) (BytesRead start count)) := by
  -- Either some bytes are missing, or all of them have been collected.
  unfold readExactRound
  by_cases more : bytes.length < count
  · rw [if_pos more]
    refine (readCamera_reads session _).bind (fun error after same => collecting.same.trans same)
      (fun after same => collecting.same.trans same) fun chunk after read => ?_
    obtain ⟨same, few, split, fewer⟩ := read
    -- A reading without bytes ends the loop with an error.
    by_cases none : chunk = []
    · rw [if_pos none]
      exact collecting.same.trans same
    · rw [if_neg none]
      refine ⟨⟨collecting.same.trans same, ?_, ?_⟩, fewer⟩
      · rw [collecting.whole, split, List.append_assoc]
        rfl
      · rw [List.length_append]
        omega
  · rw [if_neg more]
    exact ⟨collecting.same, Nat.le_antisymm collecting.short (Nat.not_lt.mp more), collecting.whole⟩

/-- Reading so many bytes gives the bytes that come next. -/
theorem readExact_reads (start : Session) (count : Nat) :
    Ensures start (readExact count) (BytesRead start count) := by
  -- The loop begins without any bytes.
  have collecting : Collecting start count [] start := ⟨rfl, rfl, Nat.zero_le _⟩
  exact ensures_repeatUntil (fun place session => readExactRound_collects) collecting

end Reading

/-- How connecting or writing ends. -/
inductive AttemptEnds (done : Session → Session) (partly : Nat → Session → Session)
    (session : Session) : Reply MException Unit × Session → Prop where
  | waits : AttemptEnds done partly session (.waiting, session)
  | done (attempts : List Attempt) :
      AttemptEnds done partly session (.returned (), done { session with attempts })
  | raised (error : Foreign) (count : Nat) (attempts : List Attempt) :
      AttemptEnds done partly session (.failed error.cause, partly count { session with attempts })

/-- Connecting or writing ends in one of these ways. -/
theorem attempt_ends (done : Session → Session) (partly : Nat → Session → Session)
    (session : Session) : AttemptEnds done partly session (attempt done partly session) := by
  -- The cases are those of the next attempt.
  unfold attempt
  cases session.attempts with
  | nil => exact .waits
  | cons first attempts =>
    cases first with
    | done => exact .done attempts
    | raised error count => exact .raised error count attempts

section Requesting

variable {bridge : BridgeReplies} {start middle session : Session}

/-- Reading from the camera connection is using it. -/
theorem Session.SameButFrames.camera (same : start.SameButFrames session) :
    start.SameButCamera session := by
  -- The frames belong to the camera.
  unfold SameButCamera
  rw [same]

/-- One use of the camera connection after the other leaves everything else as it is. -/
theorem Session.SameButCamera.trans (first : start.SameButCamera middle)
    (second : middle.SameButCamera session) : start.SameButCamera session := by
  -- The second session overwrites what the first one has changed.
  unfold SameButCamera
  rw [second, first]

/-- How connecting to the camera ends. -/
def Connected (start : Session) : Reply MException Unit → Session → Prop
  | .returned (), after =>
    start.SameButCamera after ∧ after.requested = start.requested ∧ after.frames = []
  | _, after => start.SameButCamera after

/-- After connecting to the camera nothing is left to be read from it. -/
theorem connectCamera_connects (clean : start.client.camera = true → start.frames = []) :
    Ensures start connectCamera (Connected start) := by
  -- A connection that exists is kept.
  rw [Ensures, connectCamera, current_bind]
  by_cases connected : start.client.camera = true
  · rw [if_pos connected]
    exact ⟨rfl, rfl, clean connected⟩
  · rw [if_neg connected]
    -- A new connection has no frames from before.
    have ends := attempt_ends (fun session =>
      { session with client := { session.client with camera := true }, frames := [] })
      (fun _ session => session) start
    generalize attempt _ _ start = ended at ends
    cases ends with
    | waits => exact rfl
    | done attempts => exact ⟨rfl, rfl, rfl⟩
    | raised error count attempts => exact rfl

/-- What is read of a message is its frame, if its length is read first. -/
theorem message_read {number : Nat} {header jpeg rest : Bytes} (four : header.length = 4)
    (whole : bridge.message number = header ++ (jpeg ++ rest))
    (length : jpeg.length = matlabReader.decodeLength header) :
    jpeg = bridge.frame number ∧ rest = [] := by
  -- The message begins with the length, and what follows is part of the frame.
  have part : header ++ (jpeg ++ rest) <+:
      Stream.bigEndian 4 (bridge.frame number).length ++ bridge.frame number := by
    rw [← whole, BridgeReplies.message]
    exact List.take_prefix _ _
  have front : header = Stream.bigEndian 4 (bridge.frame number).length := by
    refine List.IsPrefix.eq_of_length ?_ ?_
    · refine List.prefix_of_prefix_length_le ((List.prefix_append _ _).trans part)
        (List.prefix_append _ _) ?_
      rw [four, Stream.bigEndian_length]
    · rw [four, Stream.bigEndian_length]
  subst front
  have decoded := ClientLanguage.decodeLength_bigEndian .matlab (bridge.short number)
  have announced : jpeg.length = (bridge.frame number).length := length.trans decoded
  have inside := (List.prefix_append_right_inj _).mp part
  have same := inside.length_le
  rw [List.length_append] at same
  have empty : rest = [] := List.eq_nil_of_length_eq_zero (by omega)
  rw [empty, List.append_nil] at inside
  exact ⟨inside.eq_of_length announced, empty⟩

/-- How writing a request to the camera ends. -/
def Asked (bridge : BridgeReplies) (start : Session) : Reply MException Unit → Session → Prop
  | .returned (), after =>
    start.SameButCamera after ∧ after.requested = start.requested + 1 ∧
      after.frames = start.frames ++ bridge.message start.requested
  | _, after => start.SameButCamera after

/-- The bridge answers a request that has been written. -/
theorem attempt_asks (bridge : BridgeReplies) (start : Session) :
    Ensures start (attempt (fun session => session.handCamera bridge) fun count session =>
      if 0 < count then session.handCamera bridge else session) (Asked bridge start) := by
  -- The cases are the ends of the attempt.
  have ends := attempt_ends (fun session => session.handCamera bridge)
    (fun count session => if 0 < count then session.handCamera bridge else session) start
  unfold Ensures
  generalize attempt _ _ start = ended at ends
  cases ends with
  | waits => exact rfl
  | done attempts => exact ⟨rfl, rfl, rfl⟩
  | raised error count attempts =>
    -- A request of which a part was written may have been answered.
    show start.SameButCamera (if 0 < count then _ else _)
    split <;> exact rfl

/-- How requesting a frame ends. -/
def FrameRead (bridge : BridgeReplies) (start : Session) : Reply MException Bytes → Session → Prop
  | .returned jpeg, after =>
    start.SameButCamera after ∧ jpeg = bridge.frame start.requested ∧
      after.requested = start.requested + 1 ∧ after.frames = []
  | _, after => start.SameButCamera after

/-- A frame that is returned is the whole frame for this request. -/
theorem requestJpeg_reads (clean : start.client.camera = true → start.frames = []) :
    Ensures start (requestJpeg bridge) (FrameRead bridge start) := by
  refine (connectCamera_connects clean).bind (fun error after same => same)
    (fun after same => same) fun value connected ready => ?_
  obtain ⟨first, requests, empty⟩ := ready
  refine (attempt_asks bridge connected).bind (fun error after same => first.trans same)
    (fun after same => first.trans same) fun value asked request => ?_
  obtain ⟨second, asks, frames⟩ := request
  have used := first.trans second
  rw [empty, List.nil_append, requests] at frames
  -- The length and the frame are read, and they are all that the bridge sends.
  refine (readExact_reads asked 4).bind (fun error after same => used.trans same.camera)
    (fun after same => used.trans same.camera) fun header after read => ?_
  obtain ⟨third, four, split⟩ := read
  have used := used.trans third.camera
  dsimp only
  split
  · exact used
  refine (readExact_reads after _).bind (fun error after same => used.trans same.camera)
    (fun after same => used.trans same.camera) fun jpeg last read => ?_
  obtain ⟨fourth, length, rest⟩ := read
  have used := used.trans fourth.camera
  split
  · exact used
  · rw [rest] at split
    obtain ⟨whole, none⟩ := message_read four (frames.symm.trans split) length
    refine ⟨used, whole, ?_, none⟩
    rw [fourth, third]
    show asked.requested = _
    rw [asks, requests]

/-- How a call that reads a frame ends. -/
def JpegRead (bridge : BridgeReplies) (start : Session) : Reply MException Bytes → Session → Prop
  | .returned jpeg, after =>
    start.SameButCamera after ∧ jpeg = bridge.frame start.requested ∧
      after.requested = start.requested + 1 ∧ after.frames = []
  | .failed _, after =>
    start.SameButCamera after ∧ (after.client.camera = true → after.frames = [])
  | .waiting, after => start.SameButCamera after

/-- A call either returns the whole frame for its own request, or it gives up the connection. -/
theorem readJpeg_reads (clean : start.client.camera = true → start.frames = []) :
    Ensures start (readJpeg bridge) (JpegRead bridge start) := by
  unfold readJpeg
  have opened : Ensures start assertOpen fun _ after => after = start := by
    rw [Ensures, assertOpen, current_bind]
    split <;> rfl
  refine opened.bind (fun error after same => ?_) (fun after same => ?_) fun value after same => ?_
  · rw [same]
    exact ⟨rfl, clean⟩
  · rw [same]
    exact rfl
  · subst same
    refine (requestJpeg_reads clean).handle (fun jpeg after read => read) (fun after same => same)
      fun error after same => ?_
    -- A connection that may be out of step is given up.
    refine ⟨?_, fun connected => Bool.noConfusion connected⟩
    rw [Session.SameButCamera, same]
    rfl

end Requesting
end Scout.Matlab
