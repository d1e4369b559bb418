import Scout.Bridge.JsonText
import Scout.Machine.Run
import Scout.Matlab.Endings

/-! Every call of the MATLAB client that succeeds has read the reply to its own request. -/

namespace Scout.Matlab

open Machine Dialogue

variable {Value α : Type} {runtime : Runtime Value} {bridge : BridgeReplies} {start after : Session}

section Constructing

/-- How reading the greeting ends. -/
def Greeted : Reply MException Unit → Session → Prop
  | .returned (), after => Ready after
  | .failed _, after => after.written = []
  | .waiting, after => after.client.controlBuffer.length ≤ maximum

/-- How constructing a client ends. -/
def Constructed : Reply MException Unit → Session → Prop
  | .returned (), after => Ready after
  | .failed _, after => Shut after ∧ after.written = []
  | .waiting, after => after.client.controlBuffer.length ≤ maximum

/-- After the greeting has been accepted, everything has been read. -/
theorem greet_ends (arguments : Arguments) (polls : List Poll) (attempts : List Attempt)
    (readings : List Reading) :
    Ensures (Session.start arguments polls attempts readings) (greet runtime bridge) Greeted := by
  -- The cases are the ends of connecting.
  have ends : AttemptEnds _ _ (Session.start arguments polls attempts readings)
    (connectControl bridge (Session.start arguments polls attempts readings)) := attempt_ends _ _ _
  cases ran : connectControl bridge (Session.start arguments polls attempts readings) with
  | mk reply middle =>
    rw [ran] at ends
    cases ends with
    | waits =>
      unfold Ensures greet
      rw [bind_waiting ran]
      -- Nothing has been received yet.
      exact Nat.zero_le _
    | raised error count left =>
      unfold Ensures greet
      rw [bind_failed ran]
      exact rfl
    | done left =>
      -- The greeting of the bridge is read as a response.
      refine Ensures.after ran ?_
      refine (readResponse_reads ?_ ?_).bind (fun error after read => ?_) (fun after read => ?_)
        fun hello after read => ?_
      · exact Nat.zero_le _
      · exact bridge.single 0
      · obtain ⟨taken, reads⟩ := read.1
        show after.written = []
        rw [reads.frame]
        rfl
      · obtain ⟨taken, reads⟩ := read
        exact reads.bounded
      · obtain ⟨line, replied, decoded⟩ := read
        have frame := replied.reads.frame
        cases announced runtime hello with
        | none =>
          show after.written = []
          rw [frame]
          rfl
        | some limit =>
          -- A greeting that is accepted makes the client ready.
          refine ⟨?_, rfl, ?_, replied.read, ?_⟩
          · show after.client.closed = false
            rw [frame]
            rfl
          · show after.client.control = true
            rw [frame]
          · intro connected
            show after.frames = []
            rw [frame]
            rfl

/-- A client is open after it has been constructed, or it has sent nothing and is closed. -/
theorem construct_ends (runtime : Runtime Value) (bridge : BridgeReplies) (arguments : Arguments)
    (polls : List Poll) (attempts : List Attempt) (readings : List Reading) :
    Ensures (Session.start arguments polls attempts readings) (construct runtime bridge)
      Constructed := by
  -- Whatever fails in the greeting, the connections are given up.
  refine (greet_ends arguments polls attempts readings).handle (fun value after ready => ready)
    (fun after waits => waits) fun error after silent => ?_
  exact ⟨(shut_closeSockets after).2, silent⟩

end Constructing

/-- A call that has succeeded has used the reply to its own request. -/
def Call.Owns (runtime : Runtime Value) (bridge : BridgeReplies) (start after : Session)
    (result : Result) : Call → Prop
  | .setVelocity vx vy vtheta timeout => ∃ velocity, result = .applied velocity ∧
    AnsweredWith runtime bridge (velocityRequest vx vy vtheta timeout) (appliedVelocity runtime)
      start after velocity
  -- Only a client that is closed has nothing to stop, and makes no request.
  | .stop => start.client.closed = true ∧ after = start ∨
    AnsweredWith runtime bridge stopRequest (stopped runtime) start after ()
  | .ping => AnsweredWith runtime bridge pingRequest (ponged runtime) start after ()
  | .readJpeg => result = .jpeg (bridge.frame start.requested) ∧
    after.requested = start.requested + 1
  | .delete => True

/-- Nothing is sent, the connections are closed, or a valid reply to what is sent has been read. -/
def Kept (runtime : Runtime Value) (bridge : BridgeReplies) (start after : Session) : Prop :=
  after.written = start.written ∨ after.client.closed = true ∨
    ∃ message, Synchronous runtime bridge message start after

/-- How a call ends. -/
def PerformEnds (runtime : Runtime Value) (bridge : BridgeReplies) (call : Call) (start : Session) :
    Reply MException Result → Session → Prop
  | .returned result, after =>
    (Ready after ∨ Shut after) ∧ Kept runtime bridge start after ∧
      call.Owns runtime bridge start after result
  | .failed _, after => (Ready after ∨ Shut after) ∧ Kept runtime bridge start after
  | .waiting, after => after.client.controlBuffer.length ≤ maximum

section Open

/-- What a call makes of its reply is returned. -/
theorem CallEnds.perform {program : ScoutM α} {message : Json}
    {interpret : Value → Except MException α} {call : Call} (result : α → Result)
    (ready : Ready start)
    (ends : Ensures start program (CallEnds runtime bridge message interpret start))
    (owns : ∀ after value, AnsweredWith runtime bridge message interpret start after value →
      call.Owns runtime bridge start after (result value)) :
    Ensures start (program >>= fun value => pure (result value))
      (PerformEnds runtime bridge call start) := by
  -- A call that fails owns nothing, and one that returns owns its response.
  refine ends.bind (fun error after failed => ?_) (fun after waits => waits)
    fun value after answered => ?_
  · rcases failed with same | shut | ⟨again, synchronous⟩
    · rw [same]
      exact ⟨.inl ready, .inl rfl⟩
    · exact ⟨.inr shut, .inr (.inl shut.closed)⟩
    · exact ⟨.inl again, .inr (.inr ⟨message, synchronous⟩)⟩
  · obtain ⟨again, made⟩ := answered
    exact ⟨.inl again, .inr (.inr ⟨message, made.synchronous⟩), owns after value made⟩

/-- A velocity is sent unless it is refused before. -/
theorem setVelocity_ends (ready : Ready start) (vx vy vtheta timeout : F64) :
    Ensures start (setVelocity runtime bridge vx vy vtheta timeout)
      (CallEnds runtime bridge (velocityRequest vx vy vtheta timeout) (appliedVelocity runtime)
        start) := by
  -- Arguments that are refused leave the session as it is.
  unfold setVelocity
  split
  · exact .inl rfl
  split
  · exact .inl rfl
  unfold Ensures
  rw [current_bind]
  split
  · exact .inl rfl
  · exact CallEnds.interpret (request_ends ready _)

/-- A client that is open sends a request to stop. -/
theorem stop_ends (ready : Ready start) :
    Ensures start (stop runtime bridge)
      (CallEnds runtime bridge stopRequest (stopped runtime) start) := by
  -- A client that is ready sends the request.
  -- None of the three conditions to return at once holds.
  have active : ¬ (start.client.closed = true ∨ ¬ start.client.handshakeComplete = true ∨
      ¬ start.client.control = true) := by
    rw [ready.opened, ready.complete, ready.connected]
    decide
  unfold Ensures stop
  rw [current_bind, if_neg active]
  exact CallEnds.interpret (request_ends ready _)

/-- Using the camera keeps a client open. -/
theorem Ready.camera (ready : Ready start) (same : start.SameButCamera after)
    (clean : after.client.camera = true → after.frames = []) : Ready after := by
  -- What the camera changes is not looked at.
  refine ⟨?_, ?_, ?_, ?_, clean⟩
  · rw [same]
    exact ready.opened
  · rw [same]
    exact ready.complete
  · rw [same]
    exact ready.connected
  · rw [same]
    exact ready.read

/-- Reading a frame leaves the control connection alone. -/
theorem performReadJpeg_ends (ready : Ready start) :
    Ensures start (perform runtime bridge .readJpeg)
      (PerformEnds runtime bridge .readJpeg start) := by
  -- Nothing is written on the control connection.
  have silent : ∀ {after}, start.SameButCamera after → after.written = start.written := by
    intro after same
    rw [same]
  refine (readJpeg_reads ready.clean).bind (fun error after read => ?_) (fun after same => ?_)
    fun jpeg after read => ?_
  · exact ⟨.inl (ready.camera read.1 read.2), .inl (silent read.1)⟩
  · -- The buffer of the control connection is empty.
    show after.client.controlBuffer.length ≤ maximum
    rw [same]
    show start.client.controlBuffer.length ≤ maximum
    rw [Session.buffer_nil ready.read]
    exact Nat.zero_le _
  · obtain ⟨same, whole, requests, empty⟩ := read
    exact ⟨.inl (ready.camera same fun _ => empty), .inl (silent same), by rw [whole], requests⟩

/-- How a program ends that does not fail, and after which some property holds. -/
def Completes (Holds : Session → Prop) : Reply MException Unit → Session → Prop
  | .returned (), after => Holds after
  | .failed _, _ => False
  | .waiting, after => after.client.controlBuffer.length ≤ maximum

/-- Deleting a client closes its connections, whatever comes of stopping. -/
theorem delete_ends (ready : Ready start) :
    Ensures start (delete runtime bridge) (Completes Shut) := by
  -- The client stops the robot, and is shut whether or not that succeeds.
  have active : ¬ start.client.closed = true := by
    rw [ready.opened]
    exact Bool.false_ne_true
  -- An error of the stop is ignored.
  have stops : Ensures start (handle (stop runtime bridge) fun _ => pure () : ScoutM Unit)
      (Completes fun _ => True) :=
    (stop_ends ready).handle (fun value after answered => trivial) (fun after waits => waits)
      fun error after failed => trivial
  have closes : Ensures start (do
      handle (stop runtime bridge) fun _ => pure ()
      closeSockets) (Completes Shut) :=
    stops.bind (fun error after failed => failed) (fun after waits => waits)
      fun value after stopped => (shut_closeSockets after).2
  refine closes.congr ?_
  rw [delete, current_bind, if_neg active, if_pos ready.complete]

/-- A call to delete a client leaves its connections closed. -/
theorem performDelete_ends (ready : Ready start) :
    Ensures start (perform runtime bridge .delete) (PerformEnds runtime bridge .delete start) := by
  -- A client that has been deleted is shut.
  refine (delete_ends ready).bind (fun error after failed => failed.elim) (fun after waits => waits)
    fun value after shut => ?_
  exact ⟨.inr shut, .inr (.inl shut.closed), trivial⟩

/-- Every call of a client that is open ends so. -/
theorem perform_ends (ready : Ready start) (call : Call) :
    Ensures start (perform runtime bridge call) (PerformEnds runtime bridge call start) := by
  -- The cases are the calls.
  cases call with
  | setVelocity vx vy vtheta timeout =>
    exact CallEnds.perform .applied ready (setVelocity_ends ready vx vy vtheta timeout)
      fun after velocity made => ⟨velocity, rfl, made⟩
  | stop =>
    exact CallEnds.perform (fun _ => .done) ready (stop_ends ready)
      fun after value made => .inr made
  | ping =>
    exact CallEnds.perform (fun _ => .done) ready (CallEnds.interpret (request_ends ready _))
      fun after value made => made
  | readJpeg => exact performReadJpeg_ends ready
  | delete => exact performDelete_ends ready

end Open

section Closed

/-- A client that is closed makes no request. -/
theorem assertOpen_shut (shut : Shut start) :
    assertOpen start =
      (.failed ⟨"MoorebotScout:Closed", "The Scout client is closed."⟩, start) := by
  -- The first of the two conditions for an error holds.
  rw [assertOpen, current_bind, if_pos (.inl shut.closed)]
  rfl

/-- A request of a client that is closed fails. -/
theorem request_shut (shut : Shut start) (message : Json) :
    request runtime bridge message start =
      (.failed ⟨"MoorebotScout:Closed", "The Scout client is closed."⟩, start) :=
  -- The request is refused before anything is written.
  bind_failed (assertOpen_shut shut)

/-- A velocity is not sent by a client that is closed. -/
theorem setVelocity_shut (shut : Shut start) (vx vy vtheta timeout : F64) :
    ∃ error, perform runtime bridge (.setVelocity vx vy vtheta timeout) start =
      (.failed error, start) := by
  -- Either the arguments are refused, or the request is.
  have fails : ∃ error, setVelocity runtime bridge vx vy vtheta timeout start =
      (.failed error, start) := by
    unfold setVelocity
    split
    · exact ⟨_, rfl⟩
    split
    · exact ⟨_, rfl⟩
    rw [current_bind]
    split
    · exact ⟨_, rfl⟩
    · exact ⟨_, bind_failed (request_shut shut _)⟩
  obtain ⟨error, ran⟩ := fails
  exact ⟨error, bind_failed ran⟩

/-- A client that is closed does not answer. -/
theorem ping_shut (shut : Shut start) :
    ∃ error, perform runtime bridge .ping start = (.failed error, start) :=
  -- The request is refused.
  ⟨_, bind_failed (bind_failed (request_shut shut _))⟩

/-- A client that is closed has nothing to stop. -/
theorem stop_shut (shut : Shut start) :
    perform runtime bridge .stop start = (.returned .done, start) := by
  -- There is nothing to stop.
  have stops : stop runtime bridge start = (.returned (), start) := by
    rw [stop, current_bind, if_pos (.inl shut.closed)]
    rfl
  exact bind_returned stops

/-- Every call of a client that is closed ends without any change. -/
theorem perform_shut (runtime : Runtime Value) (bridge : BridgeReplies) (shut : Shut start)
    (call : Call) :
    (perform runtime bridge call start).2 = start ∧
      PerformEnds runtime bridge call start (perform runtime bridge call start).1 start := by
  -- The cases are the calls, each of which looks at the client first.
  cases call with
  | setVelocity vx vy vtheta timeout =>
    obtain ⟨error, ran⟩ := setVelocity_shut shut vx vy vtheta timeout
    rw [ran]
    exact ⟨rfl, .inr shut, .inl rfl⟩
  | stop =>
    rw [stop_shut shut]
    exact ⟨rfl, .inr shut, .inl rfl, .inl ⟨shut.closed, rfl⟩⟩
  | ping =>
    obtain ⟨error, ran⟩ := ping_shut shut
    rw [ran]
    exact ⟨rfl, .inr shut, .inl rfl⟩
  | readJpeg =>
    have ran : perform runtime bridge .readJpeg start = (.failed _, start) :=
      bind_failed (bind_failed (assertOpen_shut shut))
    rw [ran]
    exact ⟨rfl, .inr shut, .inl rfl⟩
  | delete =>
    have deletes : delete runtime bridge start = (.returned (), start) := by
      rw [delete, current_bind, if_pos shut.closed]
      rfl
    have ran : perform runtime bridge .delete start = (.returned .done, start) :=
      bind_returned deletes
    rw [ran]
    exact ⟨rfl, .inr shut, .inl rfl, trivial⟩

end Closed

section Runs

variable {session : Session}

/-- What a client may be between two of its calls. -/
def Reached (runtime : Runtime Value) (bridge : BridgeReplies) (session : Session) : Prop :=
  ∃ arguments polls attempts readings calls opened,
    constructed runtime bridge arguments polls attempts readings = some opened ∧
      Machine.run (step runtime bridge) opened calls = some session

/-- Every call of a client that is open or closed ends so. -/
theorem perform_between (runtime : Runtime Value) (bridge : BridgeReplies)
    (between : Ready start ∨ Shut start) (call : Call) :
    Ensures start (perform runtime bridge call) (PerformEnds runtime bridge call start) := by
  -- The client is ready or shut.
  rcases between with ready | shut
  · exact perform_ends ready call
  · obtain ⟨same, ends⟩ := perform_shut runtime bridge shut call
    unfold Ensures
    rw [same]
    exact ends

/-- A call that is over has not been left waiting. -/
theorem step_performs {call : Call} (taken : step runtime bridge start call = some after) :
    ∃ reply, perform runtime bridge call start = (reply, after) ∧ reply ≠ .waiting := by
  -- A call that waits is not a step.
  unfold step at taken
  cases ran : perform runtime bridge call start with
  | mk reply last =>
    rw [ran] at taken
    cases reply with
    | waiting => cases taken
    | returned result =>
      cases taken
      exact ⟨_, rfl, fun same => by cases same⟩
    | failed error =>
      cases taken
      exact ⟨_, rfl, fun same => by cases same⟩

/-- A client that is open or closed is so after each call. -/
theorem step_between {call : Call} (between : Ready start ∨ Shut start)
    (taken : step runtime bridge start call = some after) : Ready after ∨ Shut after := by
  -- The cases are the replies of the call.
  obtain ⟨reply, ran, over'⟩ := step_performs taken
  have ends := perform_between runtime bridge between call
  unfold Ensures at ends
  rw [ran] at ends
  cases reply with
  | waiting => exact absurd rfl over'
  | returned result => exact ends.1
  | failed error => exact ends.1

/-- A client is open or closed between two of its calls. -/
theorem Reached.between (reached : Reached runtime bridge session) :
    Ready session ∨ Shut session := by
  -- The constructor leaves a client that is ready or shut, and every call keeps that.
  obtain ⟨arguments, polls, attempts, readings, calls, opened, begun, ran⟩ := reached
  -- The cases are the replies of the constructor.
  have initially : Ready opened ∨ Shut opened := by
    have ends := construct_ends runtime bridge arguments polls attempts readings
    unfold Ensures at ends
    unfold constructed at begun
    cases built : construct runtime bridge (.start arguments polls attempts readings) with
    | mk reply last =>
      rw [built] at begun ends
      cases reply with
      | waiting => cases begun
      | returned value =>
        cases begun
        exact .inl ends
      | failed error =>
        cases begun
        exact .inr ends.1
  exact Machine.run_invariant (fun _ => True) (fun session => Ready session ∨ Shut session)
    (fun state call next _ between taken => step_between between taken) (fun _ _ => trivial)
    initially ran

/-- Between two calls nothing is left in the buffer. -/
theorem Reached.bounded (reached : Reached runtime bridge session) :
    session.client.controlBuffer.length ≤ maximum := by
  -- Between two calls the buffer is empty.
  have empty : session.client.controlBuffer = [] :=
    reached.between.elim (fun ready => Session.buffer_nil ready.read) fun shut => shut.empty
  rw [empty]
  exact Nat.zero_le _

/-- A client that is closed stays as it is, whatever is called. -/
theorem run_shut {calls : List Call} (shut : Shut start)
    (ran : Machine.run (step runtime bridge) start calls = some after) : after = start := by
  -- No call changes a client that is shut.
  have same : Shut after ∧ after = start := by
    refine Machine.run_invariant (fun _ => True) (fun session => Shut session ∧ session = start)
      (fun state call next _ holds taken => ?_) (fun _ _ => trivial) ⟨shut, rfl⟩ ran
    obtain ⟨still, same⟩ := holds
    obtain ⟨reply, performed, ended⟩ := step_performs taken
    have unchanged := (perform_shut runtime bridge still call).1
    rw [performed] at unchanged
    dsimp only at unchanged
    rw [unchanged]
    exact ⟨still, same⟩
  exact same.2

/-- However a call ends, what is left in the buffer is not longer than a line may be. -/
theorem PerformEnds.bounded {call : Call} {reply : Reply MException Result}
    (ends : PerformEnds runtime bridge call start reply after) :
    after.client.controlBuffer.length ≤ maximum := by
  -- The buffer is empty unless the call waits.
  have settled : Ready after ∨ Shut after → after.client.controlBuffer.length ≤ maximum := by
    intro between
    have empty : after.client.controlBuffer = [] :=
      between.elim (fun ready => Session.buffer_nil ready.read) fun shut => shut.empty
    rw [empty]
    exact Nat.zero_le _
  cases reply with
  | returned result => exact settled ends.1
  | failed error => exact settled ends.1
  | waiting => exact ends

/-- However constructing ends, what is left in the buffer is not longer than a line may be. -/
theorem Constructed.bounded {reply : Reply MException Unit} (ends : Constructed reply after) :
    after.client.controlBuffer.length ≤ maximum := by
  -- The buffer is empty unless the constructor waits.
  cases reply with
  | returned value =>
    rw [Session.buffer_nil (Ready.read ends)]
    exact Nat.zero_le _
  | failed error =>
    rw [ends.1.empty]
    exact Nat.zero_le _
  | waiting => exact ends

end Runs

/--
Lines are read exactly, and a client that may be out of step with the bridge is closed.

A call is left waiting only while the clock, the attempts or the readings are still to come.
-/
theorem requests_stay_synchronised {Value : Type} (runtime : Runtime Value)
    (bridge : BridgeReplies) :
    (∀ session : Session, session.client.controlBuffer.length ≤ maximum →
      (∀ line, (readControlLine session).1 = .returned line ↔ session.NextLine line) ∧
      (∀ line after, readControlLine session = (.returned line, after) →
        session.stream = line ++ [newline] ++ after.stream) ∧
      (readControlLine session).2.client.controlBuffer.length ≤ maximum ∧
      ((readControlLine session).1 = .waiting →
        ∀ poll ∈ session.polls, ¬ session.client.timeout ≤ poll.elapsed)) ∧
    (∀ arguments polls attempts readings reply session,
      construct runtime bridge (.start arguments polls attempts readings) = (reply, session) →
        session.client.controlBuffer.length ≤ maximum ∧
        ((∃ poll ∈ polls, arguments.timeout ≤ poll.elapsed) → attempts ≠ [] → reply ≠ .waiting) ∧
        ∀ error, reply = .failed error → ∀ calls later,
          Machine.run (step runtime bridge) session calls = some later → later.written = []) ∧
    (∀ session, Reached runtime bridge session → ∀ call reply after,
      perform runtime bridge call session = (reply, after) →
        after.client.controlBuffer.length ≤ maximum ∧
        (session.Supplied → reply ≠ .waiting) ∧
        (∀ result, reply = .returned result → call.Owns runtime bridge session after result) ∧
        (reply ≠ .waiting → Kept runtime bridge session after)) ∧
    ∀ session, Reached runtime bridge session → session.client.closed = true → ∀ calls later,
      Machine.run (step runtime bridge) session calls = some later → later = session ∧
        (∀ vx vy vtheta timeout, ∃ error,
          perform runtime bridge (.setVelocity vx vy vtheta timeout) later =
            (.failed error, later)) ∧
        ∃ error, perform runtime bridge .ping later = (.failed error, later) := by
  -- The four parts are reading a line, the constructor, one call, and a client that is closed.
  refine ⟨fun session bounded => ?_,
    fun arguments polls attempts readings reply session built => ?_,
    fun session reached call reply after ran => ?_,
    fun session reached closed calls later ran => ?_⟩
  · -- The next line is returned exactly if there is one.
    have ends := readControlLine_reads bounded
    unfold Ensures at ends
    refine ⟨readControlLine_returns bounded, fun line after returned => ?_, ends.bounded,
      fun waits => ?_⟩
    · rw [returned] at ends
      exact ends.2.whole
    · rw [waits] at ends
      exact ends.2.2
  · -- A constructor that fails has written nothing, and nothing is written later.
    have ends := construct_ends runtime bridge arguments polls attempts readings
    unfold Ensures at ends
    rw [built] at ends
    refine ⟨Constructed.bounded ends, fun watched supplied => ?_,
      fun error failed calls later ran => ?_⟩
    · have ended : Ends (.start arguments polls attempts readings) (construct runtime bridge) :=
        construct_ends_supplied watched supplied
      unfold Ends at ended
      rwa [built] at ended
    subst failed
    rw [run_shut ends.1 ran]
    exact ends.2
  · -- A call ends as the client that it finds allows.
    have ends := perform_between runtime bridge reached.between call
    unfold Ensures at ends
    rw [ran] at ends
    refine ⟨ends.bounded, fun supplied => ?_, fun result returned => ?_, fun over' => ?_⟩
    · have ended : Ends session (perform runtime bridge call) :=
        perform_ends_supplied reached.bounded supplied call
      unfold Ends at ended
      rwa [ran] at ended
    · subst returned
      exact ends.2.2
    · cases reply with
      | returned result => exact ends.2.1
      | failed error => exact ends.2
      | waiting => exact absurd rfl over'
  · -- A client that is closed is shut.
    have shut : Shut session := reached.between.resolve_left fun ready => by
      rw [ready.opened] at closed
      cases closed
    rw [run_shut shut ran]
    exact ⟨rfl, setVelocity_shut shut, ping_shut shut⟩

section Sample

/-- A number of a decoded value. -/
def sampleNumber : Json → Option F64
  | .int value => some (Scalar.ofRat value)
  | .float value => some value
  | _ => none

/-- Whether a decoded value is a struct. -/
def sampleIsstruct : Json → Bool
  | .object _ => true
  | .null => false
  | _ => false

/-- Whether a decoded value is a given one. -/
def sampleIsequal : Json → Literal → Bool
  | .bool first, .logical second => first == second
  | .text first, .char second => first == second
  | .int first, .double second => first == second
  | _, _ => false

/-- The elements of a decoded array. -/
def sampleDouble : Json → Except Foreign (List F64)
  | .array items => .ok (items.filterMap sampleNumber)
  | _ => .ok []

/-- A decoded value as a text. -/
def sampleString : Json → Except Foreign String
  | .text text => .ok text
  | _ => .ok ""

/-- The velocity of the command that is sent. -/
def sampleSpeed : F64 := Scalar.ofRat (1 / 10)

/-- The greeting of the bridge. -/
def sampleGreeting : Bytes :=
  Json.ascii ("\x7b\"max_command_timeout_ms\":1000,\"ok\":true,\"protocol\":1,"
    ++ "\"type\":\"hello\"\x7d")

/-- The reply of the bridge to a command to drive forward. -/
def sampleApplied : Bytes :=
  Json.ascii ("\x7b\"applied\":[0.1,0.0,0.0],\"ok\":true,\"timeout_ms\":500,"
    ++ "\"type\":\"velocity\"\x7d")

/-- The functions of the language as they are on these lines. -/
def sampleRuntime : Runtime Json where
  jsonencode _ := Json.ascii ("\x7b\"type\":\"velocity\",\"vx\":0.1,\"vy\":0,\"vtheta\":0,"
    ++ "\"timeout_ms\":500\x7d")
  oneLine _ := by decide +kernel
  jsondecode line :=
    if line = sampleGreeting then .ok (helloResponse (Duration.fromSecs 1))
    else if line = sampleApplied then
      .ok (.object [("ok", .bool true), ("type", .text "velocity"),
        ("applied", .array [.float sampleSpeed, .int 0, .int 0]), ("timeout_ms", .int 500)])
    else .error "JSON syntax error"
  isstruct := sampleIsstruct
  isscalar _ := true
  getfield value name := value.get name
  isequal := sampleIsequal
  numeric := sampleNumber
  double := sampleDouble
  string := sampleString
  differs value expected := (sampleString value).map fun text => text != expected
  general _ := "1"
  mustBeFinite := ⟨⟨"MATLAB:validators:mustBeFinite", "Value must be finite."⟩, by decide⟩
  mustBePositive := ⟨⟨"MATLAB:validators:mustBePositive", "Value must be positive."⟩, by decide⟩
  nonExistentField :=
    ⟨⟨"MATLAB:nonExistentField", "Unrecognized field name \"applied\"."⟩, by decide⟩

/-- A frame with nothing between its markers. -/
def sampleFrame : Bytes := ScoutFrame.startMarker ++ ScoutFrame.endMarker

/-- A bridge that greets, accepts every command and has a frame for every request. -/
def sampleBridge : BridgeReplies where
  reply number := (if number = 0 then sampleGreeting else sampleApplied) ++ [newline]
  single number := by
    rw [List.dropLast_concat]
    split <;> decide +kernel
  frame _ := sampleFrame
  short _ := by decide +kernel
  sent _ := 8

/-- The usual arguments. -/
def sampleArguments : Arguments where
  host := "127.0.0.1"
  controlPort := 43000
  timeout := Scalar.ofRat 3
  portPositive := by decide
  timeoutFinite := by decide +kernel
  timeoutPositive := by decide +kernel

/-- The looks at the control connection, at which each line has arrived only in part at first. -/
def samplePolls : List Poll :=
  [20, 100, 30, 100].map (.looked Scalar.zero)

/-- How constructing the client ends. -/
def sampleConstructed : Reply MException Unit × Session :=
  construct sampleRuntime sampleBridge (.start sampleArguments samplePolls
    [.done, .done, .done, .done] [.bytes 4, .bytes 3, .bytes 1])

/-- The command to drive forward for half a second. -/
def sampleCall : Call :=
  .setVelocity sampleSpeed Scalar.zero Scalar.zero (Scalar.ofRat (1 / 2))

/-- A client that is greeted drives the robot and reads a frame, each with its own reply. -/
theorem requests_stay_synchronised_driving :
    ∃ driven seen, Reached sampleRuntime sampleBridge sampleConstructed.2 ∧
      perform sampleRuntime sampleBridge sampleCall sampleConstructed.2 =
        (.returned (.applied [sampleSpeed, Scalar.zero, Scalar.zero]), driven) ∧
      sampleCall.Owns sampleRuntime sampleBridge sampleConstructed.2 driven
        (.applied [sampleSpeed, Scalar.zero, Scalar.zero]) ∧
      perform sampleRuntime sampleBridge .readJpeg driven = (.returned (.jpeg sampleFrame), seen) ∧
      seen.client.closed = false := by
  -- The run is evaluated, and the general result applies to its first call.
  have ran : sampleConstructed.1 = .returned () ∧
      (perform sampleRuntime sampleBridge sampleCall sampleConstructed.2).1 =
        .returned (.applied [sampleSpeed, Scalar.zero, Scalar.zero]) ∧
      (perform sampleRuntime sampleBridge .readJpeg
        (perform sampleRuntime sampleBridge sampleCall sampleConstructed.2).2).1 =
          .returned (.jpeg sampleFrame) ∧
      (perform sampleRuntime sampleBridge .readJpeg
        (perform sampleRuntime sampleBridge sampleCall sampleConstructed.2).2).2.client.closed =
          false := by
    decide +kernel
  obtain ⟨opened, driven, seen, still⟩ := ran
  have built : constructed sampleRuntime sampleBridge sampleArguments samplePolls
      [.done, .done, .done, .done] [.bytes 4, .bytes 3, .bytes 1] = some sampleConstructed.2 := by
    have same : construct sampleRuntime sampleBridge (.start sampleArguments samplePolls
        [.done, .done, .done, .done] [.bytes 4, .bytes 3, .bytes 1]) =
          (.returned (), sampleConstructed.2) := Prod.ext opened rfl
    rw [constructed, same]
  have reached : Reached sampleRuntime sampleBridge sampleConstructed.2 :=
    ⟨_, _, _, _, [], _, built, rfl⟩
  have general := (requests_stay_synchronised sampleRuntime sampleBridge).2.2.1 _ reached
  exact ⟨_, _, reached, Prod.ext driven rfl, (general sampleCall _ _ rfl).2.2.1 _ driven,
    Prod.ext seen rfl, still⟩

end Sample

end Scout.Matlab
