import Scout.Matlab.Frames
import Scout.Matlab.Lines

/-! A request is answered by its own reply, or the connections are closed. -/

namespace Scout.Matlab

open Machine Dialogue

/-- Between two calls of a client that is open, everything has been read. -/
structure Ready (session : Session) : Prop where
  opened : session.client.closed = false
  complete : session.client.handshakeComplete = true
  connected : session.client.control = true
  read : session.stream = []
  clean : session.client.camera = true → session.frames = []

/-- The connections of a client have been closed. -/
structure Shut (session : Session) : Prop where
  closed : session.client.closed = true
  incomplete : session.client.handshakeComplete = false
  disconnected : session.client.control = false
  empty : session.client.controlBuffer = []

/-- A line is all that there is to read, and it is read. -/
structure Replied (start after : Session) (line : Bytes) : Prop where
  next : start.NextLine line
  whole : start.stream = line ++ [newline]
  reads : start.Reads after start.stream

section Reading

variable {Value : Type} {runtime : Runtime Value} {start after : Session} {line : Bytes}

/-- After everything has been read, nothing is left. -/
theorem Replied.read (replied : Replied start after line) : after.stream = [] :=
  -- The line was the whole stream.
  List.append_right_eq_self.mp replied.reads.whole.symm

/-- A client that has read everything has an empty buffer. -/
theorem Session.buffer_nil (read : start.stream = []) : start.client.controlBuffer = [] :=
  -- The buffer comes first in the stream.
  (List.append_eq_nil_iff.mp read).1

/-- Where only one line can come, the line that comes next is all that there is to read. -/
theorem Session.NextLine.whole (next : start.NextLine line)
    (single : newline ∉ start.stream.dropLast) : start.stream = line ++ [newline] := by
  obtain ⟨rest, whole⟩ := next.next
  cases rest with
  | nil => rw [← whole, List.append_nil]
  | cons byte rest =>
    -- The line feed would stand before the last byte.
    refine absurd ?_ single
    rw [← whole, List.dropLast_append_of_ne_nil (List.cons_ne_nil _ _)]
    exact List.mem_append_left _ (List.mem_append_right _ (List.mem_singleton_self _))

/-- What is not a bridge error, or no error at all, has been decoded from a line. -/
theorem decodeResponse_decodes {result : Except MException Value}
    (decoded : decodeResponse runtime line = result)
    (reported : ∀ error, result = .error error → error.identifier = "MoorebotScout:Bridge") :
    ∃ response, runtime.jsondecode line = .ok response := by
  -- A line that is not decoded raises an error of this client, and not of the bridge.
  unfold decodeResponse at decoded
  cases found : runtime.jsondecode line with
  | ok response => exact ⟨response, rfl⟩
  | error message =>
    rw [found] at decoded
    exact absurd (reported _ decoded.symm) (by simp)

/-- How reading a response ends. -/
def ResponseRead (runtime : Runtime Value) (start : Session) :
    Reply MException Value → Session → Prop
  | .returned response, after =>
    ∃ line, Replied start after line ∧ decodeResponse runtime line = .ok response
  | .failed error, after => (∃ taken, start.Reads after taken) ∧
    (error.identifier = "MoorebotScout:Bridge" → ∃ line response,
      Replied start after line ∧ runtime.jsondecode line = .ok response)
  | .waiting, after => ∃ taken, start.Reads after taken

/-- A response is decoded from the only line that can come. -/
theorem readResponse_reads (bounded : start.client.controlBuffer.length ≤ maximum)
    (single : newline ∉ start.stream.dropLast) :
    Ensures start (readResponse runtime) (ResponseRead runtime start) := by
  -- First a line is read, then it is decoded.
  refine (readControlLine_reads bounded).bind (fun error after read => ?_)
    (fun after read => ⟨_, read.2.1⟩) fun line after read => ?_
  · exact ⟨⟨_, read.2.1⟩, fun same => absurd same read.2.2⟩
  · -- The line is the whole response, whatever is made of it.
    have whole := read.1.whole single
    have replied : Replied start after line := ⟨read.1, whole, whole ▸ read.2⟩
    refine ensures_ofExcept (fun response decoded => ⟨line, replied, decoded⟩)
      fun error decoded => ⟨⟨_, replied.reads⟩, fun reported => ?_⟩
    obtain ⟨response, found⟩ := decodeResponse_decodes decoded fun cause same => by
      cases same
      exact reported
    exact ⟨line, response, replied, found⟩

end Reading

section Requests

variable {Value : Type} {runtime : Runtime Value} {bridge : BridgeReplies} {start after : Session}

/-- What a request is written as. -/
def requestLine (runtime : Runtime Value) (message : Json) : Bytes :=
  runtime.jsonencode message ++ [newline]

/-- A line is the reply to the request that has been written last, and it arrived in time. -/
structure Answered (runtime : Runtime Value) (bridge : BridgeReplies) (message : Json)
    (start after : Session) (line : Bytes) : Prop where
  written : after.written = start.written ++ requestLine runtime message
  own : bridge.reply (requestLines after.written) = line ++ [newline]
  next : (start.handOver bridge (requestLine runtime message)).NextLine line

/-- A request is one line. -/
theorem requestLines_append (runtime : Runtime Value) (written : Bytes) (message : Json) :
    requestLines (written ++ requestLine runtime message) = requestLines written + 1 := by
  -- A message has no line feed of its own, and one is put behind it.
  have none : (runtime.jsonencode message).count newline = 0 :=
    List.count_eq_zero.mpr (runtime.oneLine message)
  rw [requestLines, requestLine, List.count_append, List.count_append, none,
    List.count_singleton_self]
  rfl

/-- The bridge sends one reply to a request. -/
theorem handOver_underway (runtime : Runtime Value) (bridge : BridgeReplies) (start : Session)
    (message : Json) :
    (start.handOver bridge (requestLine runtime message)).underway = start.underway ++
      bridge.reply (requestLines (start.written ++ requestLine runtime message)) := by
  -- One request more is answered with one response more.
  have one := requestLines_append runtime [] message
  rw [List.nil_append] at one
  rw [requestLines_append]
  simp only [Session.handOver, one]
  simp [requestLines]

/-- Where everything has been read, only the reply to a request is to be read. -/
theorem handOver_stream (runtime : Runtime Value) (bridge : BridgeReplies)
    (read : start.stream = []) (message : Json) :
    (start.handOver bridge (requestLine runtime message)).stream =
      bridge.reply (requestLines (start.written ++ requestLine runtime message)) := by
  -- Where everything has been read, only the new response is left.
  obtain ⟨buffer, rest⟩ := List.append_eq_nil_iff.mp read
  obtain ⟨available, underway⟩ := List.append_eq_nil_iff.mp rest
  have sent := handOver_underway runtime bridge start message
  rw [underway, List.nil_append] at sent
  rw [Session.stream, sent]
  show start.client.controlBuffer ++ (start.available ++ _) = _
  rw [buffer, available, List.nil_append, List.nil_append]

end Requests

section Calls

variable {Value α β : Type} {runtime : Runtime Value} {bridge : BridgeReplies} {message : Json}
  {start after : Session}

/-- A value is made of the reply to a request. -/
def AnsweredWith (runtime : Runtime Value) (bridge : BridgeReplies) (message : Json)
    (interpret : Value → Except MException α) (start after : Session) (value : α) : Prop :=
  ∃ line response, Answered runtime bridge message start after line ∧
    decodeResponse runtime line = .ok response ∧ interpret response = .ok value

/-- The reply to a request has been read, and it is valid. -/
def Synchronous (runtime : Runtime Value) (bridge : BridgeReplies) (message : Json)
    (start after : Session) : Prop :=
  ∃ line response, Answered runtime bridge message start after line ∧
    runtime.jsondecode line = .ok response

/-- A value can only be made of a reply that is valid. -/
theorem AnsweredWith.synchronous {interpret : Value → Except MException α} {value : α}
    (answered : AnsweredWith runtime bridge message interpret start after value) :
    Synchronous runtime bridge message start after := by
  -- What a value was made of has been decoded.
  obtain ⟨line, response, answers, decoded, made⟩ := answered
  obtain ⟨found, decodes⟩ := decodeResponse_decodes decoded fun error same => by cases same
  exact ⟨line, found, answers, decodes⟩

/-- How a call that makes a request ends. -/
def CallEnds (runtime : Runtime Value) (bridge : BridgeReplies) (message : Json)
    (interpret : Value → Except MException α) (start : Session) :
    Reply MException α → Session → Prop
  | .returned value, after =>
    Ready after ∧ AnsweredWith runtime bridge message interpret start after value
  | .failed _, after =>
    after = start ∨ Shut after ∨ Ready after ∧ Synchronous runtime bridge message start after
  | .waiting, after => after.client.controlBuffer.length ≤ maximum

/-- An open client goes on. -/
theorem assertOpen_open (ready : Ready start) : assertOpen start = (.returned (), start) := by
  -- Neither of the two conditions for an error holds.
  have opened : ¬ (start.client.closed = true ∨ ¬ start.client.control = true) := by
    rw [ready.opened, ready.connected]
    decide
  rw [assertOpen, current_bind, if_neg opened]
  rfl

/-- Closing the connections leaves them closed. -/
theorem shut_closeSockets (session : Session) :
    (closeSockets session : Reply MException Unit × Session).1 = .returned () ∧
      Shut (closeSockets session).2 :=
  -- Both connections are given up, and the buffer is emptied.
  ⟨rfl, rfl, rfl, rfl, rfl⟩

/-- How writing a request and reading its response ends. -/
def Exchanged (runtime : Runtime Value) (bridge : BridgeReplies) (message : Json)
    (start : Session) : Reply MException Value → Session → Prop
  | .returned response, after =>
    Ready after ∧ AnsweredWith runtime bridge message Except.ok start after response
  | .failed error, after => error.identifier = "MoorebotScout:Bridge" →
    Ready after ∧ Synchronous runtime bridge message start after
  | .waiting, after => after.client.controlBuffer.length ≤ maximum

/-- A reply that is all that there is to read answers the request. -/
theorem Replied.answers {line : Bytes} {attempts : List Attempt} (ready : Ready start)
    (replied : Replied
      (({ start with attempts } : Session).handOver bridge (requestLine runtime message)) after
      line) :
    Ready after ∧ Answered runtime bridge message start after line := by
  -- Reading changes nothing that the client is ready by.
  have frame := replied.reads.frame
  have written : after.written = start.written ++ requestLine runtime message := by
    rw [frame]
    rfl
  refine ⟨⟨?_, ?_, ?_, replied.read, ?_⟩, written, ?_, ?_⟩
  · rw [frame]
    exact ready.opened
  · rw [frame]
    exact ready.complete
  · rw [frame]
    exact ready.connected
  · rw [frame]
    exact ready.clean
  · -- The response answers the request that was written last.
    rw [written, ← handOver_stream runtime bridge ready.read]
    exact replied.whole
  · exact ⟨replied.next.single, replied.next.next, replied.next.short, replied.next.inTime⟩

/-- A reply answers a request that has been written by a client that is open. -/
theorem readResponse_ends (ready : Ready start) (message : Json) (attempts : List Attempt) :
    Ensures (({ start with attempts } : Session).handOver bridge (requestLine runtime message))
      (readResponse runtime) (Exchanged runtime bridge message start) := by
  -- The response that is underway is all that there is to read.
  have short : (({ start with attempts } : Session).handOver bridge
      (requestLine runtime message)).client.controlBuffer.length ≤ maximum := by
    show start.client.controlBuffer.length ≤ maximum
    rw [Session.buffer_nil ready.read]
    exact Nat.zero_le _
  have read : ({ start with attempts } : Session).stream = [] := ready.read
  have sent := handOver_stream runtime bridge read message
  have single := bridge.single (requestLines (start.written ++ requestLine runtime message))
  rw [← sent] at single
  refine (readResponse_reads short single).mono fun reply after read => ?_
  cases reply with
  | returned response =>
    -- The response is the answer to this request.
    obtain ⟨line, replied, decoded⟩ := read
    obtain ⟨again, answers⟩ := replied.answers ready
    exact ⟨again, line, response, answers, decoded, rfl⟩
  | failed error =>
    -- Also an error that the bridge reports is such an answer.
    intro reported
    obtain ⟨line, response, replied, decoded⟩ := read.2 reported
    obtain ⟨again, answers⟩ := replied.answers ready
    exact ⟨again, line, response, answers, decoded⟩
  | waiting =>
    -- The client waits for the rest of the line.
    obtain ⟨taken, reads⟩ := read
    exact reads.bounded

/-- A client that is open reads the reply to what it writes. -/
theorem exchange_ends (ready : Ready start) (message : Json) :
    Ensures start (do
      writeline bridge (runtime.jsonencode message)
      readResponse runtime) (Exchanged runtime bridge message start) := by
  -- The cases are the ends of writing.
  have ends : AttemptEnds _ _ start (writeline bridge (runtime.jsonencode message) start) :=
    attempt_ends _ _ start
  unfold Ensures
  cases ran : writeline bridge (runtime.jsonencode message) start with
  | mk reply middle =>
    rw [ran] at ends
    cases ends with
    | waits =>
      rw [bind_waiting ran]
      show start.client.controlBuffer.length ≤ maximum
      rw [Session.buffer_nil ready.read]
      exact Nat.zero_le _
    | raised error count attempts =>
      rw [bind_failed ran]
      -- An error of writing does not come from the bridge.
      exact fun same => absurd same error.foreign
    | done attempts =>
      rw [bind_returned ran]
      exact readResponse_ends ready message attempts

/-- A request of a client that is open is answered, or the connections are closed. -/
theorem request_ends (ready : Ready start) (message : Json) :
    Ensures start (request runtime bridge message)
      (CallEnds runtime bridge message Except.ok start) := by
  -- The client is open, so the request is written.
  refine Ensures.after (assertOpen_open ready) ?_
  refine (exchange_ends ready message).handle (fun response after ends => ends)
    (fun after ends => ends) fun error after ends => ?_
  unfold requestFailed
  by_cases reported : error.identifier ≠ "MoorebotScout:Bridge"
  · rw [if_pos reported]
    -- After an error of its own the client is shut.
    exact .inr (.inl (shut_closeSockets after).2)
  · rw [if_neg reported]
    -- After an error of the bridge it is ready again.
    exact .inr (.inr (ends (not_ne_iff.mp reported)))

/-- What is made of a response does not change the client. -/
theorem CallEnds.interpret {program : ScoutM Value} {interpret : Value → Except MException β}
    (ends : Ensures start program (CallEnds runtime bridge message Except.ok start)) :
    Ensures start (program >>= fun response => ofExcept (interpret response))
      (CallEnds runtime bridge message interpret start) := by
  -- The response has been read before it is looked at.
  refine ends.bind (fun error after failed => failed) (fun after waits => waits)
    fun response after answered => ?_
  obtain ⟨ready, line, found, answers, decoded, same⟩ := answered
  cases same
  refine ensures_ofExcept (fun value made => ⟨ready, line, response, answers, decoded, made⟩)
    fun error refused => ?_
  exact .inr (.inr ⟨ready, AnsweredWith.synchronous ⟨line, response, answers, decoded, rfl⟩⟩)

end Calls
end Scout.Matlab
