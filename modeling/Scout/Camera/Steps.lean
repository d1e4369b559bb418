import Scout.Camera.Threads

/-! Everything one step of the camera side can do, guards included. -/

namespace Scout

/-- Everything one effect of a camera worker can do to its worker. -/
inductive CameraServes (running : Bool) (frame : Mutex LatestFrame) (before : CameraServe) :
    CameraInput → CameraEffect → Prop where
  /-- The worker moves on without touching a request. -/
  | move {input : CameraInput} {phase : CameraPhase}
      (was : before.phase = .configuring ∨ before.phase = .testing ∨ before.phase = .reading)
      (quiet : input ≠ .read (.data [cameraRequest]))
      (next : phase = .testing ∨ phase = .reading ∨ phase = .returned) :
      CameraServes running frame before input (before.goto phase)
  /-- A request byte is read. -/
  | request (was : before.phase = .reading) :
      CameraServes running frame before (.read (.data [cameraRequest]))
        { before.goto .waiting with deed := some .requested }
  /-- No newer frame is there yet. -/
  | await (was : before.phase = .waiting)
      (old : frame.value.generation = before.seenGeneration) :
      CameraServes running frame before .proceed (before.goto .waiting)
  /-- The request is given up because the bridge stops or the lock is poisoned. -/
  | giveUp (was : before.phase = .waiting) (stopped : running = false ∨ frame.poisoned = true) :
      CameraServes running frame before .proceed (before.goto .returned)
  /-- The request is dropped because no frame is stored under the new generation. -/
  | drop (was : before.phase = .waiting)
      (new : frame.value.generation ≠ before.seenGeneration) (empty : frame.value.jpeg = none) :
      CameraServes running frame before .proceed
        { before.goto .testing with deed := some .dropped }
  /-- The newest frame is taken as the answer. -/
  | answer {jpeg : Bytes} (was : before.phase = .waiting)
      (new : frame.value.generation ≠ before.seenGeneration)
      (stored : frame.value.jpeg = some jpeg) (fits : jpeg.length < 2 ^ 32) :
      CameraServes running frame before .proceed
        { ({ before with seenGeneration := frame.value.generation }.goto
            (.sending [Stream.bigEndian 4 jpeg.length, jpeg])) with
          deed := some (.answered jpeg) }
  /-- The newest frame is too long for its length to be sent. -/
  | tooLarge {jpeg : Bytes} (was : before.phase = .waiting)
      (stored : frame.value.jpeg = some jpeg) (large : 2 ^ 32 ≤ jpeg.length) :
      CameraServes running frame before .proceed
        ({ before with seenGeneration := frame.value.generation }.goto .returned)
  /-- Nothing is left to be written. -/
  | sent (was : before.phase = .sending []) :
      CameraServes running frame before .proceed (before.goto .testing)
  /-- One buffer has been written. -/
  | flushed {rest : List Bytes} (was : before.phase = .sending ([] :: rest)) :
      CameraServes running frame before .proceed (before.goto (.sending rest))
  /-- The connection takes the next bytes. -/
  | write {buffer : Bytes} {rest : List Bytes} {count : Nat}
      (was : before.phase = .sending (buffer :: rest)) (progress : 0 < count)
      (offered : count ≤ buffer.length) :
      CameraServes running frame before (.wrote count)
        ({ before with written := before.written ++ buffer.take count }.goto
          (.sending (buffer.drop count :: rest)))
  /-- The connection fails during a write. -/
  | fail {buffers : List Bytes} (was : before.phase = .sending buffers) :
      CameraServes running frame before (.io false) (before.goto .returned)

/-- Looking at the shared frame waits, gives up, drops the request, or answers it. -/
theorem take_serves {running : Bool} {frame : Mutex LatestFrame} {serve : CameraServe}
    (was : serve.phase = .waiting) :
    CameraServes running frame serve .proceed (serve.take running frame) := by
  -- The cases follow the lock, the wait, the running flag and the stored frame.
  unfold CameraServe.take Mutex.lock
  by_cases poisoned : frame.poisoned = true
  · simp only [poisoned, if_true]
    exact .giveUp was (.inr poisoned)
  · simp only [poisoned, Bool.false_eq_true, if_false]
    by_cases same : frame.value.generation = serve.seenGeneration ∧ running = true
    · rw [if_pos same]
      exact .await was same.1
    · rw [if_neg same]
      cases running with
      | false => exact .giveUp was (.inl rfl)
      | true =>
        have new : frame.value.generation ≠ serve.seenGeneration := fun equal => same ⟨equal, rfl⟩
        simp only [Bool.not_true, Bool.false_eq_true, if_false]
        cases stored : frame.value.jpeg with
        | none => exact .drop was new stored
        | some jpeg =>
          by_cases fits : jpeg.length < 2 ^ 32
          · simp only [if_pos fits]
            exact .answer was new stored fits
          · simp only [if_neg fits]
            exact .tooLarge was stored (Nat.not_lt.mp fits)

/-- Reading a byte reads a request or moves on. -/
theorem receive_serves {running : Bool} {frame : Mutex LatestFrame} {serve : CameraServe}
    {outcome : ReadOutcome} {effect : CameraEffect} (was : serve.phase = .reading)
    (received : serve.receive outcome = some effect) :
    CameraServes running frame serve (.read outcome) effect := by
  -- The cases follow the branches.
  unfold CameraServe.receive at received
  split at received
  · exact Option.some.inj received ▸ .move (.inr (.inr was)) nofun (by simp)
  · rename_i byte rest
    by_cases single : rest = []
    · subst single
      rw [if_neg (fun more => more rfl)] at received
      by_cases own : byte = cameraRequest
      · rw [if_pos own] at received
        subst own
        exact Option.some.inj received ▸ .request was
      · rw [if_neg own] at received
        exact Option.some.inj received ▸ .move (.inr (.inr was)) (by simpa using own) (by simp)
    · rw [if_pos single] at received
      cases received
  · exact Option.some.inj received ▸ .move (.inr (.inr was)) nofun (by simp)
  · exact Option.some.inj received ▸ .move (.inr (.inr was)) nofun (by simp)
  · exact Option.some.inj received ▸ .move (.inr (.inr was)) nofun (by simp)

/-- Writing the buffers finishes one, takes some bytes, or fails. -/
theorem send_serves {running : Bool} {frame : Mutex LatestFrame} {serve : CameraServe}
    {buffers : List Bytes} {input : CameraInput} {effect : CameraEffect}
    (was : serve.phase = .sending buffers) (sent : serve.send buffers input = some effect) :
    CameraServes running frame serve input effect := by
  -- The cases follow the branches.
  unfold CameraServe.send at sent
  split at sent
  · exact Option.some.inj sent ▸ .sent was
  · exact Option.some.inj sent ▸ .flushed was
  · split at sent
    · rename_i offered
      exact Option.some.inj sent ▸ .write was offered.1 offered.2
    · cases sent
  · exact Option.some.inj sent ▸ .fail was
  · cases sent

/-- Every effect of a camera worker is one of the listed ones. -/
theorem serveCameraClient_serves {running : Bool} {frame : Mutex LatestFrame}
    {serve : CameraServe} {input : CameraInput} {effect : CameraEffect}
    (served : serveCameraClient running frame serve input = some effect) :
    CameraServes running frame serve input effect := by
  -- The cases follow the branches, each named by its phase.
  unfold serveCameraClient at served
  split at served <;> rename_i was
  · refine Option.some.inj served ▸ .move (.inl was) nofun ?_
    split <;> simp
  · refine Option.some.inj served ▸ .move (.inr (.inl was)) nofun ?_
    split <;> simp
  · exact receive_serves was served
  · exact Option.some.inj served ▸ take_serves was
  · exact send_serves was served
  · cases served

namespace CameraServer

/-- The possible steps of the camera side with the states they lead to. -/
inductive Steps (before : CameraServer) : CameraEvent → CameraServer → Prop where
  | publish (jpeg : Bytes) :
      Steps before (.publish jpeg) { before with
        frame := FrameSink.publish before.frame jpeg
        history := .published jpeg :: before.history }
  | signal : Steps before .signal { before with running := false }
  | connect :
      Steps before .connect { before with
        backlog := before.backlog ++ [before.nextConnection]
        nextConnection := before.nextConnection + 1 }
  | listen {input : ListenerInput} {phase : CameraListenerPhase}
      (was : before.listener = .testing ∨ before.listener = .accepting ∨
        ∃ connection, before.listener = .spawning connection)
      (idle : phase = .testing ∨ phase = .accepting ∨ phase = .uncounting ∨ phase = .finished) :
      Steps before (.listener input) { before with listener := phase }
  | accept {connection : Connection} {rest : List Connection}
      (was : before.listener = .accepting) (waiting : before.backlog = connection :: rest) :
      Steps before (.listener .accepted)
        { before with backlog := rest, listener := .counting connection }
  | refuse {connection : Connection} (was : before.listener = .counting connection)
      (full : maxCameraClients ≤ before.clients) :
      Steps before (.listener .proceed)
        { before with clients := before.clients + 1, listener := .refusing connection }
  | welcome {connection : Connection} (was : before.listener = .counting connection)
      (room : ¬ maxCameraClients ≤ before.clients) :
      Steps before (.listener .proceed)
        { before with clients := before.clients + 1, listener := .spawning connection }
  | uncount
      (was : before.listener = .uncounting ∨
        ∃ connection, before.listener = .refusing connection) :
      Steps before (.listener .proceed)
        { before with clients := before.clients - 1, listener := .testing }
  | hire {connection : Connection} (was : before.listener = .spawning connection) :
      Steps before (.listener (.io true))
        ({ before with listener := .testing }.setWorker connection
          { serve := CameraServe.start, finished := false })
  | serve {connection : Connection} {input : CameraInput} {serve : CameraServe}
      {effect : CameraEffect}
      (works : before.workers connection = some { serve, finished := false })
      (served : CameraServes before.running before.frame serve input effect) :
      Steps before (.worker connection input)
        ({ before with
          history := (effect.deed.map (CameraDeed.happening connection)).toList ++
            before.history }.setWorker connection { serve := effect.serve, finished := false })
  | leave {connection : Connection} {serve : CameraServe}
      (works : before.workers connection = some { serve, finished := false })
      (was : serve.phase = .returned) :
      Steps before (.worker connection .proceed)
        ({ before with clients := before.clients - 1 }.setWorker connection
          { serve, finished := true })

variable {before after : CameraServer}

/-- Every effect of the camera listener is one of its listed steps. -/
theorem runCameraListener_steps {input : ListenerInput}
    (taken : before.runCameraListener input = some after) :
    Steps before (.listener input) after := by
  -- The cases follow the phases of the listener and the answers each one accepts.
  unfold runCameraListener at taken
  split at taken <;> rename_i was
  · refine Option.some.inj taken ▸ .listen (.inl was) ?_
    split <;> simp
  · split at taken
    · rename_i waiting
      exact Option.some.inj taken ▸ .accept was waiting
    · cases taken
  · exact Option.some.inj taken ▸ .listen (.inr (.inl was)) (.inl rfl)
  · by_cases full : maxCameraClients ≤ before.clients
    · rw [if_pos full] at taken
      exact Option.some.inj taken ▸ .refuse was full
    · rw [if_neg full] at taken
      exact Option.some.inj taken ▸ .welcome was full
  · exact Option.some.inj taken ▸ .uncount (.inr ⟨_, was⟩)
  · split at taken
    · rename_i succeeded
      subst succeeded
      exact Option.some.inj taken ▸ .hire was
    · exact Option.some.inj taken ▸ .listen (.inr (.inr ⟨_, was⟩)) (.inr (.inr (.inl rfl)))
  · exact Option.some.inj taken ▸ .uncount (.inl was)
  · cases taken

/-- Every effect of a camera worker's thread is one of its listed steps. -/
theorem runCameraClient_steps {connection : Connection} {input : CameraInput}
    (taken : before.runCameraClient connection input = some after) :
    Steps before (.worker connection input) after := by
  -- A worker whose function has returned is uncounted, and any other one serves.
  unfold runCameraClient at taken
  split at taken
  · rename_i serve works
    split at taken
    · rename_i was
      exact Option.some.inj taken ▸ .leave works was
    · split at taken
      · rename_i effect served
        exact Option.some.inj taken ▸ .serve works (serveCameraClient_serves served)
      · cases taken
  · cases taken

/-- Every step of the camera side is one of the listed ones. -/
theorem step_steps {event : CameraEvent} (taken : before.step event = some after) :
    Steps before event after := by
  -- The cases follow the events.
  cases event with
  | publish jpeg => exact Option.some.inj taken ▸ .publish jpeg
  | signal => exact Option.some.inj taken ▸ .signal
  | connect => exact Option.some.inj taken ▸ .connect
  | listener input => exact runCameraListener_steps taken
  | worker connection input => exact runCameraClient_steps taken

end CameraServer
end Scout
