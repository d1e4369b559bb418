import Scout.Machine.Run
import Scout.Python.Client

/-! A control call succeeds on its own reply as long as no earlier call left its reply behind. -/

namespace Scout

/-- Every call that returned was answered by the whole response to its own request. -/
def ControlSession.Synchronised (runtime : PythonRuntime) (session : ControlSession) : Prop :=
  ∀ finished ∈ session.calls, ∀ value, finished.result = .ok value →
    finished.source = some finished.number ∧
      ∃ reply, session.replies[finished.number]? = some reply ∧
        finished.call.answer runtime reply = .ok value

/-- The wait of a call takes the whole response to its request. -/
def ControlEvent.TakesReply (event : ControlEvent) : Prop :=
  match event.wait with
  | .completed => event.reply.length ≤ maxControlLineBytes + 1
  | .interrupted taken => event.reply.length ≤ taken

/-- An overlong line is never accepted as a response. -/
theorem answer_overlong {runtime : PythonRuntime} {line : Bytes} {call : ControlCall}
    {value : ControlReturn} (long : maxControlLineBytes < line.length) :
    call.answer runtime line ≠ .ok value := by
  -- The length is checked before the line is decoded.
  have rejected : ScoutClient.readResponse runtime line =
      .error (.bridge "invalid control response from bridge") := by
    have nonempty : line ≠ [] := by
      rintro rfl
      exact absurd long (Nat.not_lt_zero _)
    rw [ScoutClient.readResponse, if_neg nonempty, if_pos (.inl long)]
  rw [ControlCall.answer, rejected]
  intro accepted
  cases accepted

namespace ControlSession

variable {runtime : PythonRuntime}

/-- A call that takes its whole response leaves nothing behind. -/
theorem takeBytes_single {count : Nat} {line : ReplyLine} (whole : line.bytes.length ≤ count) :
    takeBytes count [line] = [] := if_pos whole

/-- A further request keeps the finished calls synchronised. -/
theorem Synchronised.send {session : ControlSession} (synchronised : session.Synchronised runtime)
    (reply : Bytes) : (session.send reply).Synchronised runtime := by
  -- Replies are only added at the end.
  intro finished member value returned
  obtain ⟨own, earlier, found, accepted⟩ := synchronised finished member value returned
  refine ⟨own, earlier, ?_, accepted⟩
  have inside := (List.getElem?_eq_some_iff.mp found).1
  show (session.replies ++ [reply])[finished.number]? = some earlier
  rw [List.getElem?_append_left inside]
  exact found

/-- A finished call that is answered by its own response keeps the session synchronised. -/
theorem Synchronised.finish {session : ControlSession} (synchronised : session.Synchronised runtime)
    {call : FinishedCall} (own : ∀ value, call.result = .ok value →
      call.source = some call.number ∧ ∃ reply, session.replies[call.number]? = some reply ∧
        call.call.answer runtime reply = .ok value) :
    (session.finish call).Synchronised runtime := by
  -- The new call comes first, and the others are as before.
  intro finished member value returned
  rcases List.mem_cons.mp member with rfl | member
  · exact own value returned
  · exact synchronised finished member value returned

/-- From a session that has read everything, a call keeps it synchronised. -/
theorem Synchronised.step {before after : ControlSession} {event : ControlEvent}
    (synchronised : before.Synchronised runtime) (read : before.incoming = [])
    (taken : before.step runtime event = some after) :
    after.Synchronised runtime ∧ (event.TakesReply → after.incoming = []) := by
  -- The only line on its way is the response to the call's own request.
  unfold ControlSession.step at taken
  split at taken
  · cases taken
    exact ⟨synchronised, fun _ => read⟩
  · split at taken
    · -- The request is sent, and its response is the only line on its way.
      have sent := synchronised.send event.reply
      have last : (before.send event.reply).replies[before.replies.length]? = some event.reply := by
        show (before.replies ++ [event.reply])[before.replies.length]? = _
        rw [List.getElem?_concat_length]
      have waiting : (before.send event.reply).incoming =
          [{ request := before.replies.length, bytes := event.reply }] := by
        show before.incoming ++ _ = _
        rw [read]
        rfl
      cases wait : event.wait with
      | completed =>
        -- The call reads that line, as far as one line may be long.
        rw [wait, await, readline, waiting] at taken
        simp only [List.head?_cons, Option.map_some, Option.some.injEq] at taken
        subst taken
        refine ⟨sent.finish ?_, fun whole => ?_⟩
        · intro value returned
          refine ⟨rfl, event.reply, last, ?_⟩
          -- A line that is cut off is refused for its length.
          by_cases long : event.reply.length ≤ maxControlLineBytes + 1
          · simpa only [List.take_of_length_le long] using returned
          · refine absurd returned (answer_overlong ?_)
            rw [List.length_take]
            omega
        · rw [ControlEvent.TakesReply, wait] at whole
          exact takeBytes_single whole
      | interrupted count =>
        -- An interrupted call returns nothing, and may leave a part of the line behind.
        rw [wait, await, waiting] at taken
        cases taken
        refine ⟨sent.finish ?_, fun whole => ?_⟩
        · intro value returned
          cases returned
        · rw [ControlEvent.TakesReply, wait] at whole
          exact takeBytes_single whole
    · cases taken

/-- As long as each call but the last takes its response, all calls are synchronised. -/
theorem calls_synchronised (runtime : PythonRuntime) (closed : Bool) (maxCommandTimeout : F64)
    {events : List ControlEvent} {session : ControlSession}
    (whole : ∀ event ∈ events.dropLast, event.TakesReply)
    (ran : Machine.run (ControlSession.step runtime) (start closed maxCommandTimeout) events =
      some session) : session.Synchronised runtime := by
  -- All calls but the last one leave an empty stream behind, and the last one starts from it.
  have initially : (start closed maxCommandTimeout).Synchronised runtime ∧
      (start closed maxCommandTimeout).incoming = [] :=
    ⟨fun finished member => absurd member List.not_mem_nil, rfl⟩
  -- A call that takes its response leaves the next one a clean start.
  have preserved : ∀ before event after, ControlEvent.TakesReply event →
      before.Synchronised runtime ∧ before.incoming = [] →
      ControlSession.step runtime before event = some after →
        after.Synchronised runtime ∧ after.incoming = [] := by
    intro before event after takes ⟨synchronised, read⟩ taken
    have kept := synchronised.step read taken
    exact ⟨kept.1, kept.2 takes⟩
  rcases List.eq_nil_or_concat events with rfl | ⟨front, last, rfl⟩
  · cases ran
    exact initially.1
  · -- The last call is made after all others have taken their responses.
    rw [List.concat_eq_append, List.dropLast_concat] at whole
    rw [List.concat_eq_append, Machine.run_append] at ran
    obtain ⟨middle, reached, ran⟩ := ran
    obtain ⟨next, taken, ran⟩ := Machine.run_cons.mp ran
    obtain ⟨synchronised, read⟩ := Machine.run_invariant ControlEvent.TakesReply
      (fun session => session.Synchronised runtime ∧ session.incoming = []) preserved whole
      initially reached
    cases ran
    exact (synchronised.step read taken).1

/-- The bytes of an ASCII text. -/
def asciiBytes (text : String) : Bytes :=
  text.toList.map fun letter => UInt8.ofNat letter.toNat

/-- The bridge's response to a command to drive forward at a speed. -/
def bridgeReply (speed : F64) : Json :=
  (handleRequest (.velocity speed Scalar.zero Scalar.zero 500) { value := MotionState.default }
    (Duration.fromSecs 1) 0).1

/-- A tenth of a meter per second. -/
def slow : F64 :=
  Scalar.ofRat (1 / 10)

/-- The request line of a command to drive forward slowly. -/
def slowRequest : Bytes :=
  asciiBytes ("\x7b\"type\":\"velocity\",\"vx\":0.1,\"vy\":0.0,\"vtheta\":0.0,"
    ++ "\"timeout_ms\":500\x7d")

/-- The request line of a command to stand still. -/
def stillRequest : Bytes :=
  asciiBytes ("\x7b\"type\":\"velocity\",\"vx\":0.0,\"vy\":0.0,\"vtheta\":0.0,"
    ++ "\"timeout_ms\":500\x7d")

/-- The response line to a command to drive forward slowly. -/
def slowReply : Bytes :=
  asciiBytes ("\x7b\"applied\":[0.1,0.0,0.0],\"ok\":true,\"timeout_ms\":500,"
    ++ "\"type\":\"velocity\"\x7d\n")

/-- The response line to a command to stand still. -/
def stillReply : Bytes :=
  asciiBytes ("\x7b\"applied\":[0.0,0.0,0.0],\"ok\":true,\"timeout_ms\":500,"
    ++ "\"type\":\"velocity\"\x7d\n")

/-- The conversions as they are on the lines of these two commands. -/
def textRuntime : PythonRuntime where
  dumps request :=
    match request.get "vx" with
    | some (.float speed) => if speed = slow then slowRequest else stillRequest
    | _ => []
  loads line :=
    if line = slowReply then some (bridgeReply slow)
    else if line = stillReply then some (bridgeReply Scalar.zero)
    else none
  float value :=
    match value with
    | .float number => some number
    | _ => none
  str _ := ""
  repr _ := ""
  general _ := "1"

/-- A command to drive forward at a speed for half a second. -/
def driveAt (speed : F64) : ControlCall :=
  .setVelocity speed Scalar.zero Scalar.zero (Scalar.ofRat (1 / 2))

/-- In a run without interruptions a command returns its own applied velocity. -/
theorem calls_synchronised_twoCommands :
    ∃ session, Machine.run (ControlSession.step textRuntime) (start false Scalar.one)
        [{ call := driveAt slow, reply := slowReply, wait := .completed },
          { call := driveAt Scalar.zero, reply := stillReply, wait := .completed }] =
            some session ∧
      session.calls.head?.any (fun finished =>
        finished.result.toOption = some (.applied Scalar.zero Scalar.zero Scalar.zero)) = true ∧
      session.Synchronised textRuntime := by
  -- The first response is short and taken as a whole.
  have played : (Machine.run (ControlSession.step textRuntime) (start false Scalar.one)
      [{ call := driveAt slow, reply := slowReply, wait := .completed },
        { call := driveAt Scalar.zero, reply := stillReply, wait := .completed }]).any
          (fun session => session.calls.head?.any (fun finished => finished.result.toOption =
            some (.applied Scalar.zero Scalar.zero Scalar.zero))) = true := by
    decide +kernel
  obtain ⟨session, ran, returned⟩ := (Option.any_eq_true _ _).mp played
  refine ⟨session, ran, returned, calls_synchronised textRuntime false Scalar.one ?_ ran⟩
  intro event member
  rw [List.dropLast_cons_cons, List.dropLast_singleton, List.mem_singleton] at member
  subst member
  show slowReply.length ≤ maxControlLineBytes + 1
  decide +kernel

/-- A command to stand still returns the response to an interrupted command to drive. -/
theorem stale_reply_accepted :
    ∃ session, Machine.run (ControlSession.step textRuntime) (start false Scalar.one)
        [{ call := driveAt slow, reply := slowReply, wait := .interrupted 0 },
          { call := driveAt Scalar.zero, reply := stillReply, wait := .completed }] =
            some session ∧
      ¬ session.Synchronised textRuntime ∧
      ∃ finished, session.calls.head? = some finished ∧ finished.call = driveAt Scalar.zero ∧
        finished.number = 1 ∧ finished.source = some 0 ∧
        finished.result = .ok (.applied slow Scalar.zero Scalar.zero) := by
  -- The second call reads the line that the first one has left behind.
  have played : (Machine.run (ControlSession.step textRuntime) (start false Scalar.one)
      [{ call := driveAt slow, reply := slowReply, wait := .interrupted 0 },
        { call := driveAt Scalar.zero, reply := stillReply, wait := .completed }]).any
          (fun session => session.calls.head?.any (fun finished =>
            finished.call = driveAt Scalar.zero ∧ finished.number = 1 ∧
              finished.source = some 0 ∧
              finished.result.toOption = some (.applied slow Scalar.zero Scalar.zero))) =
        true := by
    decide +kernel
  obtain ⟨session, ran, returned⟩ := (Option.any_eq_true _ _).mp played
  obtain ⟨finished, first, facts⟩ := (Option.any_eq_true _ _).mp returned
  obtain ⟨call, number, source, result⟩ := of_decide_eq_true facts
  -- The result is the response to the first command.
  have accepted : finished.result = .ok (.applied slow Scalar.zero Scalar.zero) := by
    cases shape : finished.result with
    | error error =>
      rw [shape] at result
      cases result
    | ok value =>
      rw [shape] at result
      exact congrArg Except.ok (Option.some.inj result)
  refine ⟨session, ran, fun synchronised => ?_, finished, first, call, number, source, accepted⟩
  have own := (synchronised finished (List.mem_of_mem_head? first) _ accepted).1
  rw [source, number] at own
  cases own

end ControlSession
end Scout
