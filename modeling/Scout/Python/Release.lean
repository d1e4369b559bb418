import Scout.Bridge.JsonText
import Scout.Machine.Run
import Scout.Number.Binary64Order
import Scout.Python.Lifetime

/-! A constructor without a valid greeting closes its connection, and a closed client stays closed. -/

namespace Scout.Python

open Machine Dialogue

/-- A line that announces how long a command may live. -/
structure ValidGreeting (interpreter : Interpreter) (line : Bytes) (limit : F64) : Prop where
  short : line.length ≤ maxControlLineBytes
  ended : line.getLast? = some newline
  /-- The line is decoded to an object, and one that can be accepted. -/
  decoded : interpreter.interrupts line = none ∧ ∃ fields,
    interpreter.loads line = some (.object fields) ∧ (Json.object fields).isOk = true ∧
    equalsText "hello" ((Json.object fields).get "type") = true ∧
    equalsInt 1 ((Json.object fields).get "protocol") = true ∧
    ∃ value milliseconds, (Json.object fields).get "max_command_timeout_ms" = some value ∧
      interpreter.float value = some milliseconds ∧ limit = milliseconds / Scalar.ofRat 1000
  finite : limit.isFinite = true
  positive : Scalar.zero < limit

/-- A client that has been given up before it has sent anything. -/
structure Released (session : Session) : Prop where
  closed : session.client.closed = true
  control : session.client.control = false
  reader : session.client.reader = false
  camera : session.client.camera = false
  silent : session.sent = [] ∧ session.asked = []

/-- A client that has read its greeting, and has sent nothing yet. -/
structure Constructed (session : Session) (limit : F64) : Prop where
  greeted : session.client.maxCommandTimeout = some limit
  finite : limit.isFinite = true
  positive : Scalar.zero < limit
  connected : session.client.control = true ∧ session.client.reader = true
  opened : session.client.closed = false
  silent : session.sent = [] ∧ session.asked = []

variable {interpreter : Interpreter} {line : Bytes} {hello : Json} {limit : F64}

/-- A line is a response exactly if it is a line with an object that reports success. -/
theorem readResponse_eq_ok {runtime : PythonRuntime} :
    ScoutClient.readResponse runtime line = .ok hello ↔
      line.length ≤ maxControlLineBytes ∧ line.getLast? = some newline ∧
      runtime.loads line = some hello ∧ (∃ fields, hello = .object fields) ∧ hello.isOk = true := by
  -- The cases are the checks, one after another.
  unfold ScoutClient.readResponse
  by_cases empty : line = []
  · rw [if_pos empty]
    refine iff_of_false nofun fun all => ?_
    have ended := all.2.1
    rw [empty] at ended
    cases ended
  · rw [if_neg empty]
    by_cases cut : maxControlLineBytes < line.length ∨ line.getLast? ≠ some newline
    · rw [if_pos cut]
      refine iff_of_false nofun fun all => ?_
      -- A line that is cut is too long, or has no line feed at its end.
      rcases cut with long | open_
      · exact absurd all.1 (Nat.not_le.mpr long)
      · exact open_ all.2.1
    · rw [if_neg cut]
      obtain ⟨short, ended⟩ := not_or.mp cut
      rw [not_ne_iff] at ended
      -- What is left is to decode an object that reports success.
      cases decoded : runtime.loads line with
      | none => simp
      | some value =>
        cases value with
        | object fields =>
          cases good : (Json.object fields).isOk with
          | false =>
            refine iff_of_false (by simp [good]) fun all => ?_
            have same := Option.some.inj all.2.2.1
            rw [← same, good] at all
            cases all.2.2.2.2
          | true =>
            simp only [good, Bool.not_true, Bool.false_eq_true, if_false, Except.ok.injEq,
              Option.some.injEq]
            constructor
            · intro same
              subst same
              exact ⟨Nat.le_of_not_lt short, ended, rfl, ⟨fields, rfl⟩, good⟩
            · exact fun all => all.2.2.1
        | null | bool | int | float | text | array =>
          refine iff_of_false nofun fun all => ?_
          obtain ⟨fields, same⟩ := all.2.2.2.1
          rw [same] at all
          cases all.2.2.1

/-- A finite number is positive exactly if it is not at most zero. -/
theorem not_le_zero_iff {number : F64} (finite : number.isFinite = true) :
    ¬ number ≤ Scalar.zero ↔ Scalar.zero < number := by
  -- Both numbers are finite, so one of them is the smaller one or they are equal.
  have zero : (Scalar.zero : F64).isFinite = true := by decide +kernel
  rw [F64.le_iff finite zero, F64.lt_iff zero finite, not_le]

/-- What a greeting announces. -/
theorem announced_eq_ok : announced interpreter hello = .ok limit ↔
    (equalsText "hello" (hello.get "type") = true ∧ equalsInt 1 (hello.get "protocol") = true) ∧
    (∃ value milliseconds, hello.get "max_command_timeout_ms" = some value ∧
      interpreter.float value = some milliseconds ∧ limit = milliseconds / Scalar.ofRat 1000) ∧
    limit.isFinite = true ∧ Scalar.zero < limit := by
  -- The cases are the checks, one after another.
  unfold announced
  by_cases own : equalsText "hello" (hello.get "type") = true ∧
      equalsInt 1 (hello.get "protocol") = true
  · rw [own.1, own.2]
    simp only [Bool.not_true, Bool.or_self, Bool.false_eq_true, if_false, and_self, true_and]
    cases found : hello.get "max_command_timeout_ms" with
    | none => simp
    | some value =>
      -- The lifetime has to be a number.
      cases float : interpreter.float value with
      | none => simp [float]
      | some milliseconds =>
        simp only [Option.bind_some, float, Option.some.injEq, exists_and_left, exists_eq_left']
        -- That number has to be finite and positive.
        by_cases finite : (milliseconds / Scalar.ofRat 1000).isFinite = true
        · by_cases positive : milliseconds / Scalar.ofRat 1000 ≤ Scalar.zero
          · simp only [finite, positive, Bool.not_true, Bool.false_or, decide_true, if_true]
            refine iff_of_false nofun fun all => ?_
            obtain ⟨rfl, _, above⟩ := all
            exact (not_le_zero_iff finite).mpr above positive
          · simp only [finite, positive, Bool.not_true, Bool.false_or, decide_false,
              Bool.false_eq_true, if_false, Except.ok.injEq]
            constructor
            · intro same
              subst same
              exact ⟨rfl, finite, (not_le_zero_iff finite).mp positive⟩
            · exact fun all => all.1.symm
        · simp only [Bool.not_eq_true _ |>.mp finite, Bool.not_false, Bool.true_or, if_true]
          refine iff_of_false nofun fun all => ?_
          rw [all.1] at all
          exact finite all.2.1
  · rw [if_pos (by rwa [← Bool.not_and, Bool.not_eq_true', ← Bool.not_eq_true, Bool.and_eq_true])]
    exact iff_of_false nofun fun all => own all.1

/-- A line is a valid greeting exactly if it is a response that announces a lifetime. -/
theorem validGreeting_iff : ValidGreeting interpreter line limit ↔
    ∃ hello, decodeResponse interpreter line = .ok hello ∧
      announced interpreter hello = .ok limit := by
  -- The line is decoded without an interrupt, and then its fields are looked at.
  have decoded (hello : Json) : decodeResponse interpreter line = .ok hello ↔
      interpreter.interrupts line = none ∧
        ScoutClient.readResponse interpreter.toPythonRuntime line = .ok hello := by
    unfold decodeResponse
    cases interpreter.interrupts line with
    | some reason => simp
    | none =>
      cases ScoutClient.readResponse interpreter.toPythonRuntime line with
      | error problem => simp [Except.mapError]
      | ok value => simp [Except.mapError]
  simp only [decoded, readResponse_eq_ok, announced_eq_ok]
  constructor
  · intro valid
    obtain ⟨short, ended, ⟨quiet, fields, loaded, good, kind, version, lifetime⟩, finite, positive⟩ :=
      valid
    exact ⟨.object fields, ⟨quiet, short, ended, loaded, ⟨fields, rfl⟩, good⟩, ⟨kind, version⟩,
      lifetime, finite, positive⟩
  · intro found
    -- Only an object has been accepted.
    obtain ⟨_, ⟨quiet, short, ended, loaded, ⟨fields, rfl⟩, good⟩, ⟨kind, version⟩, lifetime, finite,
      positive⟩ := found
    exact ⟨short, ended, ⟨quiet, fields, loaded, good, kind, version, lifetime⟩, finite, positive⟩

/-- How the construction of a client ends for a greeting. -/
structure Decided (interpreter : Interpreter) (greeting : Except Raised Bytes)
    (reply : Reply Raised Unit) (after : Session) : Prop where
  /-- A client is returned exactly for a valid greeting. -/
  returned : reply = .returned () ↔
    ∃ stream limit, greeting = .ok stream ∧ ValidGreeting interpreter (readline stream) limit
  constructed : reply = .returned () → ∃ limit, Constructed after limit
  /-- In every other case an exception is raised, and nothing is left open. -/
  refused : reply ≠ .returned () → (∃ exception, reply = .failed exception) ∧ Released after
  /-- An exception from the read is raised as it is. -/
  raised : ∀ exception, greeting = .error exception → reply = .failed exception

/-- A line that has been read and accepted makes the client ready. -/
theorem greet_ok {session : Session} {lines : List (Except Raised Bytes)}
    (next : session.lines = .ok line :: lines) (decoded : decodeResponse interpreter line = .ok hello)
    (accepted : announced interpreter hello = .ok limit) :
    greet interpreter session =
      (.returned (), { session with lines }.setMaxCommandTimeout limit) := by
  -- The line is read, decoded and accepted.
  have read : readLine session = (.returned line, { session with lines }) := by
    rw [readLine, next]
  rw [greet, bind_returned read, bind_returned (ofExcept_ok decoded),
    bind_returned (ofExcept_ok accepted)]
  rfl

/-- Otherwise reading the greeting fails, and the client is as it was. -/
theorem greet_failed {session : Session} {first : Except Raised Bytes}
    {lines : List (Except Raised Bytes)} (next : session.lines = first :: lines)
    (invalid : ¬ ∃ line limit, first = .ok line ∧ ValidGreeting interpreter line limit) :
    ∃ exception, greet interpreter session = (.failed exception, { session with lines }) ∧
      ∀ cause, first = .error cause → exception = cause := by
  -- The cases are the steps that can fail.
  cases first with
  | error cause =>
    have read : readLine session = (.failed cause, { session with lines }) := by
      rw [readLine, next]
    exact ⟨cause, bind_failed read, fun _ same => Except.error.inj same⟩
  | ok line =>
    have read : readLine session = (.returned line, { session with lines }) := by
      rw [readLine, next]
    rw [greet, bind_returned read]
    cases decoded : decodeResponse interpreter line with
    | error exception => exact ⟨exception, bind_failed (ofExcept_error rfl), nofun⟩
    | ok hello =>
      rw [bind_returned (ofExcept_ok rfl)]
      cases accepted : announced interpreter hello with
      | error exception => exact ⟨exception, bind_failed (ofExcept_error rfl), nofun⟩
      | ok limit =>
        exact absurd ⟨line, limit, rfl, validGreeting_iff.mpr ⟨hello, decoded, accepted⟩⟩ invalid

/-- Where reading the greeting fails, the client is closed without a request to stop. -/
theorem construct_failed {session after : Session} {exception : Raised}
    (failed : greet interpreter session = (.failed exception, after))
    (opened : after.client.closed = false) :
    construct interpreter session = (.failed exception, after.release) := by
  -- The exception is handled by closing the client without a stop.
  have closed : close interpreter false after = (.returned (), after.release) := by
    rw [close, current_bind, if_neg (by simp [opened]), if_neg Bool.false_ne_true]
    rfl
  rw [construct, handle_failed failed, greetFailed, bind_returned closed]
  rfl

/-- The constructor returns a client for a valid greeting, and closes everything otherwise. -/
theorem construct_decided (interpreter : Interpreter) (greeting : Except Raised Bytes)
    (attempts : List Attempt) (lines chunks : List (Except Raised Bytes)) :
    Decided interpreter greeting
      (construct interpreter (Session.start greeting attempts lines chunks)).1
      (construct interpreter (Session.start greeting attempts lines chunks)).2 := by
  have next : (Session.start greeting attempts lines chunks).lines =
    greeting.map readline :: lines := rfl
  by_cases valid : ∃ stream limit, greeting = .ok stream ∧
      ValidGreeting interpreter (readline stream) limit
  · -- The greeting is read and accepted.
    obtain ⟨stream, limit, rfl, holds⟩ := id valid
    obtain ⟨hello, decoded, accepted⟩ := validGreeting_iff.mp holds
    rw [construct, handle_returned (greet_ok next decoded accepted)]
    exact {
      returned := iff_of_true rfl valid
      constructed := fun _ =>
        ⟨limit, rfl, holds.finite, holds.positive, ⟨rfl, rfl⟩, rfl, rfl, rfl⟩
      refused := fun failed => absurd rfl failed
      raised := nofun }
  · -- Nothing has been sent when the greeting fails.
    have invalid : ¬ ∃ line limit, greeting.map readline = .ok line ∧
        ValidGreeting interpreter line limit := by
      intro found
      obtain ⟨line, limit, read, holds⟩ := found
      cases greeting with
      | error exception => cases read
      | ok stream =>
        cases read
        exact valid ⟨stream, limit, rfl, holds⟩
    obtain ⟨exception, failed, same⟩ := greet_failed next invalid
    rw [construct_failed failed rfl]
    exact {
      returned := iff_of_false nofun valid
      constructed := nofun
      refused := fun _ => ⟨⟨exception, rfl⟩, rfl, rfl, rfl, rfl, rfl, rfl⟩
      raised := fun cause raises => by
        rw [same cause (by rw [raises]; rfl)] }

/-- A client on which every further call fails at once, and which need not be closed again. -/
structure Shut (interpreter : Interpreter) (session : Session) : Prop where
  closed : session.client.closed = true
  /-- Nothing is sent, and nothing else changes. -/
  fails : ∀ call, call ≠ .close →
    ∃ exception, perform interpreter call session = (.failed exception, session)
  again : ∀ stopping, close interpreter stopping session = (.returned (), session)
  /-- So it is after any number of further calls. -/
  stays : ∀ calls, run (step interpreter) session calls = some session

section Closed

variable {session : Session}

/-- A closed client has no request to send. -/
theorem requestLine_closed (closed : session.client.closed = true) (call : ControlCall) :
    ∃ exception, requestLine interpreter session.client call = .error exception := by
  -- Either the arguments are refused or the client is.
  have refused : ∀ message : Except ClientError Json, ∃ problem,
      (message >>= ScoutClient.encodeRequest interpreter.toPythonRuntime session.client.closed) =
        .error problem := by
    intro message
    rw [closed]
    cases message with
    | error problem => exact ⟨problem, rfl⟩
    | ok message => exact ⟨_, rfl⟩
  obtain ⟨problem, same⟩ := refused (call.request interpreter.toPythonRuntime
    (session.client.maxCommandTimeout.getD Scalar.zero))
  exact ⟨.client problem, congrArg (Except.mapError Raised.client) same⟩

/-- A closed client need not be closed again. -/
theorem close_closed (closed : session.client.closed = true) (stopping : Bool) :
    close interpreter stopping session = (.returned (), session) := by
  -- The first branch is taken.
  rw [close, current_bind, if_pos closed]
  rfl

/-- Every other call on a closed client fails, and changes nothing. -/
theorem perform_closed (closed : session.client.closed = true) {call : Call} (other : call ≠ .close) :
    ∃ exception, perform interpreter call session = (.failed exception, session) := by
  -- The cases are the calls, each of which looks at the client first.
  cases call with
  | control call =>
    obtain ⟨exception, refused⟩ := @requestLine_closed interpreter session closed call
    have failed : request interpreter call session = (.failed exception, session) := by
      rw [request, current_bind, bind_failed (ofExcept_error refused)]
    exact ⟨exception, bind_failed failed⟩
  | readJpeg =>
    have failed : readJpeg session = (.failed (.client (.bridge "client is closed")), session) := by
      rw [readJpeg, current_bind, if_pos closed]
      rfl
    exact ⟨_, bind_failed failed⟩
  | close => exact absurd rfl other

/-- A closed client is shut. -/
theorem shut_of_closed (closed : session.client.closed = true) : Shut interpreter session where
  closed := closed
  fails _ other := perform_closed closed other
  again := close_closed closed
  stays calls := by
    -- The induction is on the further calls.
    induction calls with
    | nil => rfl
    | cons call rest ih =>
      refine run_cons.mpr ⟨session, ?_, ih⟩
      by_cases again : call = .close
      · have returned : perform interpreter .close session = (.returned .closed, session) :=
          bind_returned (close_closed closed true)
        rw [again, step, returned]
      · obtain ⟨exception, failed⟩ := @perform_closed interpreter session closed call again
        rw [step, failed]

end Closed

/-- How closing a client ends, with a request to stop or without one. -/
structure ClosesFor (interpreter : Interpreter) (stopping : Bool) (reply : Reply Raised Unit)
    (before after : Session) : Prop where
  /-- Closing succeeds without a request to stop, and after one that is answered or fails so. -/
  returned : reply = .returned () ↔ stopping = false ∨ before.client.closed = true ∨
    (stop interpreter before).1 = .returned () ∨
    ∃ exception, (stop interpreter before).1 = .failed exception ∧ exception.suppressed = true
  shut : reply = .returned () → Shut interpreter after
  /-- All sockets are closed, unless the client was closed before. -/
  released : reply = .returned () → before.client.closed = false →
    after.client.control = false ∧ after.client.reader = false ∧ after.client.camera = false
  /-- Only the request to stop raises, and neither a bridge error nor one of the system. -/
  raised : ∀ exception, reply = .failed exception →
    (stop interpreter before).1 = .failed exception ∧ exception.suppressed = false
  /-- The only wait is the one for the request to stop. -/
  ended : stopping = false ∨ before.client.closed = true ∨
    before.attempts ≠ [] ∧ before.lines ≠ [] → reply ≠ .waiting

section Closing

variable {exception : Raised} {before after : Session}

/-- The client is closed at once where there is no request to stop. -/
theorem close_unasked {stopping : Bool} (opened : ¬ before.client.closed = true)
    (unasked : stopping = false) :
    close interpreter stopping before = (.returned (), before.release) := by
  -- Neither of the first two branches is taken.
  rw [close, current_bind, if_neg opened, if_neg (by simp [unasked])]
  rfl

/-- The client is closed after a request to stop that has succeeded. -/
theorem close_stopped (opened : ¬ before.client.closed = true)
    (stopped : stop interpreter before = (.returned (), after)) :
    close interpreter true before = (.returned (), after.release) := by
  -- The sockets are shut after the stop.
  rw [close, current_bind, if_neg opened, if_pos rfl, bind_returned (handle_returned stopped)]
  rfl

/-- The client is closed after a request to stop that has failed as expected. -/
theorem close_suppressed (opened : ¬ before.client.closed = true)
    (failed : stop interpreter before = (.failed exception, after))
    (expected : exception.suppressed = true) :
    close interpreter true before = (.returned (), after.release) := by
  -- The handler only goes on.
  have returned : handle (stop interpreter) stopFailed before = (.returned (), after) := by
    rw [handle_failed failed, stopFailed, if_pos expected]
    rfl
  rw [close, current_bind, if_neg opened, if_pos rfl, bind_returned returned]
  rfl

/-- What is unexpected is raised again, and the client is not closed. -/
theorem close_raised (opened : ¬ before.client.closed = true)
    (failed : stop interpreter before = (.failed exception, after))
    (unexpected : exception.suppressed = false) :
    close interpreter true before = (.failed exception, after) := by
  -- The handler raises it again.
  have raised : handle (stop interpreter) stopFailed before = (.failed exception, after) := by
    rw [handle_failed failed, stopFailed, if_neg (by simp [unexpected])]
    rfl
  rw [close, current_bind, if_neg opened, if_pos rfl, bind_failed raised]

/-- While the request to stop waits, so does closing the client. -/
theorem close_waits (opened : ¬ before.client.closed = true)
    (waits : stop interpreter before = (.waiting, after)) :
    close interpreter true before = (.waiting, after) := by
  -- The handler is not reached.
  have handled : handle (stop interpreter) stopFailed before = (.waiting, after) := by
    rw [handle, waits]
  rw [close, current_bind, if_neg opened, if_pos rfl, bind_waiting handled]

section Endings

variable {done : Session → Session} {partly : Nat → Session → Session}

/-- A call ends if it returns or raises. -/
theorem attempt_ends (attempts : before.attempts ≠ []) : Ends before (attempt done partly) := by
  -- The next attempt is there.
  unfold Ends attempt
  cases queue : before.attempts with
  | nil => exact absurd queue attempts
  | cons first rest => cases first <;> exact fun waits => by cases waits

/-- A call that returns reads no line. -/
theorem attempt_lines (ran : attempt done partly before = (.returned (), after))
    (kept : ∀ session, (done session).lines = session.lines) : after.lines = before.lines := by
  -- Only an attempt that is made returns.
  unfold attempt at ran
  cases queue : before.attempts with
  | nil =>
    rw [queue] at ran
    cases ran
  | cons first rest =>
    rw [queue] at ran
    cases first with
    | done =>
      cases ran
      exact kept _
    | raised cause count => cases ran

/-- Reading a line ends if there is one, or an exception. -/
theorem readLine_ends (lines : before.lines ≠ []) : Ends before readLine := by
  -- The next line is there.
  unfold Ends readLine
  cases queue : before.lines with
  | nil => exact absurd queue lines
  | cons first rest => cases first <;> exact fun waits => by cases waits

/-- A request to stop waits for nothing but to be sent, and for one line. -/
theorem stop_ends (attempts : before.attempts ≠ []) (lines : before.lines ≠ []) :
    Ends before (stop interpreter) := by
  -- Before anything is sent the request is made.
  refine Ends.bind ?_ fun _ _ _ => ends_pure
  show Ends before (request interpreter .stop)
  unfold Ends
  rw [request, current_bind]
  refine Ends.bind ends_ofExcept fun encoded middle ran => ?_
  obtain rfl := ofExcept_returned ran
  -- Sending ends with the next attempt, and reading with the next line.
  refine (attempt_ends attempts).bind fun _ after sent => ?_
  have same : after.lines = middle.lines := attempt_lines sent fun _ => rfl
  exact (readLine_ends (same ▸ lines)).bind fun _ _ _ => ends_ofExcept

end Endings

/-- Closing a client in any state shuts it, unless the request to stop raises the unexpected. -/
theorem close_closes (interpreter : Interpreter) (stopping : Bool) (before : Session) :
    ClosesFor interpreter stopping (close interpreter stopping before).1 before
      (close interpreter stopping before).2 := by
  -- A call that returns has released whatever was open.
  have ended (after : Session) (cause : stopping = false ∨ before.client.closed = true ∨
      (stop interpreter before).1 = .returned () ∨
      ∃ exception, (stop interpreter before).1 = .failed exception ∧
        exception.suppressed = true) :
      ClosesFor interpreter stopping (.returned ()) before after.release :=
    ⟨iff_of_true rfl cause, fun _ => shut_of_closed rfl, fun _ _ => ⟨rfl, rfl, rfl⟩,
      fun _ => nofun, fun _ => nofun⟩
  by_cases closed : before.client.closed = true
  · rw [close_closed closed]
    exact ⟨iff_of_true rfl (.inr (.inl closed)), fun _ => shut_of_closed closed,
      fun _ opened => absurd (closed.symm.trans opened) nofun, fun _ => nofun, fun _ => nofun⟩
  cases stopping with
  | false =>
    rw [close_unasked closed rfl]
    exact ended before (.inl rfl)
  | true =>
    have stopped (causes : true = false ∨ before.client.closed = true ∨
        (stop interpreter before).1 = .returned () ∨
        ∃ exception, (stop interpreter before).1 = .failed exception ∧
          exception.suppressed = true) :
        (stop interpreter before).1 = .returned () ∨
          ∃ exception, (stop interpreter before).1 = .failed exception ∧
            exception.suppressed = true :=
      (causes.resolve_left nofun).resolve_left closed
    -- The cases are those of the request to stop.
    cases ran : stop interpreter before with
    | mk reply after =>
      cases reply with
      | returned value =>
        rw [close_stopped closed ran]
        exact ended after (.inr (.inr (.inl (by rw [ran]))))
      | failed exception =>
        cases expected : exception.suppressed with
        | true =>
          rw [close_suppressed closed ran expected]
          exact ended after (.inr (.inr (.inr ⟨exception, by rw [ran], expected⟩)))
        | false =>
          rw [close_raised closed ran expected]
          exact {
            returned := iff_of_false nofun fun causes => by
              rw [ran] at stopped causes
              rcases stopped causes with same | ⟨other, same, suppressed⟩
              · cases same
              · cases same
                rw [expected] at suppressed
                cases suppressed
            shut := fun returned => by cases returned
            released := fun returned => by cases returned
            raised := fun other same => by
              cases same
              exact ⟨by rw [ran], expected⟩
            ended := fun _ waits => by cases waits }
      | waiting =>
        rw [close_waits closed ran]
        exact {
          returned := iff_of_false nofun fun causes => by
            rw [ran] at stopped causes
            rcases stopped causes with same | ⟨other, same, _⟩
            · cases same
            · cases same
          shut := fun returned => by cases returned
          released := fun returned => by cases returned
          raised := fun _ failed => by cases failed
          ended := fun enough => by
            rcases enough with unasked | already | ⟨attempts, lines⟩
            · cases unasked
            · exact absurd already closed
            · have ends : Ends before (stop interpreter) := stop_ends attempts lines
              unfold Ends at ends
              rw [ran] at ends
              exact absurd rfl ends }

end Closing

/-- A client without a valid greeting leaves nothing open, and a closed one does nothing any more. -/
theorem constructor_never_leaks (interpreter : Interpreter) :
    (∀ greeting attempts lines chunks, Decided interpreter greeting
      (construct interpreter (Session.start greeting attempts lines chunks)).1
      (construct interpreter (Session.start greeting attempts lines chunks)).2) ∧
    ∀ stopping before, ClosesFor interpreter stopping (close interpreter stopping before).1 before
      (close interpreter stopping before).2 :=
  -- The two parts are about the constructor and about closing.
  ⟨construct_decided interpreter, close_closes interpreter⟩

section Sample

/-- The greeting of the bridge. -/
def sampleGreeting : Bytes :=
  Json.ascii ("\x7b\"max_command_timeout_ms\":1000,\"ok\":true,\"protocol\":1,"
    ++ "\"type\":\"hello\"\x7d\n")

/-- The reply of the bridge to a request to stop. -/
def sampleStopped : Bytes :=
  Json.ascii "\x7b\"ok\":true,\"type\":\"stop\"\x7d\n"

/-- The language as it is on these lines. -/
def sampleInterpreter : Interpreter where
  dumps _ := Json.ascii "\x7b\"type\":\"stop\"\x7d"
  loads line :=
    if line = sampleGreeting then some (helloResponse (Duration.fromSecs 1))
    else if line = sampleStopped then some (.object [("ok", .bool true), ("type", .text "stop")])
    else none
  float value :=
    match value with
    | .int number => some (Scalar.ofRat number)
    | .float number => some number
    | _ => none
  str _ := ""
  repr _ := ""
  general _ := "1"
  interrupts _ := none

/-- How the construction of a client ends that is greeted, and whose requests are answered. -/
def sampleConstructed : Reply Raised Unit × Session :=
  construct sampleInterpreter (.start (.ok sampleGreeting) [.done] [.ok sampleStopped] [])

/-- A client that is greeted is returned, and it is closed after a request to stop. -/
theorem constructor_never_leaks_greeted :
    sampleConstructed.1 = .returned () ∧
      sampleConstructed.2.client.maxCommandTimeout = some Scalar.one ∧
      (close sampleInterpreter true sampleConstructed.2).1 = .returned () ∧
      (close sampleInterpreter true sampleConstructed.2).2.sent =
        Json.ascii "\x7b\"type\":\"stop\"\x7d\n" ∧
      Shut sampleInterpreter (close sampleInterpreter true sampleConstructed.2).2 := by
  -- The run is evaluated, and the general result applies to its end.
  have ran : sampleConstructed.1 = .returned () ∧
      sampleConstructed.2.client.maxCommandTimeout = some Scalar.one ∧
      (close sampleInterpreter true sampleConstructed.2).1 = .returned () ∧
      (close sampleInterpreter true sampleConstructed.2).2.sent =
        Json.ascii "\x7b\"type\":\"stop\"\x7d\n" := by
    decide +kernel
  obtain ⟨opened, limit, closed, sent⟩ := ran
  exact ⟨opened, limit, closed, sent,
    ((constructor_never_leaks sampleInterpreter).2 true sampleConstructed.2).shut closed⟩

end Sample

end Scout.Python
