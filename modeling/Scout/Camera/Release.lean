import Scout.Camera.Slots

/-! What becomes of a camera client's slot once the client has gone away. -/

namespace Scout

open Machine

/-- How many polling iterations follow at most once the client has gone, none of them in vain. -/
def CameraPhase.pollsLeft : CameraPhase → Nat
  | .configuring => 1
  | .testing => 1
  | .reading => 0
  | .waiting => 2
  | .sending _ => 1
  | .returned => 0

/-- How many turns the worker takes at most once the client has gone, none of them in vain. -/
def CameraPhase.turnsLeft : CameraPhase → Nat
  | .configuring => 4
  | .testing => 3
  | .reading => 2
  | .waiting => 2 ^ 32 + 10
  | .sending buffers => (buffers.map fun buffer => buffer.length + 1).sum + 4
  | .returned => 1

/-- Whether a worker is at the condition of one of its two polling loops. -/
def CameraServe.atLoop (serve : CameraServe) : Bool :=
  serve.phase = .testing ∨ serve.phase = .waiting

/-- Whether a worker waits for a frame that has not come, without looking at its connection. -/
def CameraServe.inVain (running : Bool) (frame : Mutex LatestFrame) (serve : CameraServe) : Bool :=
  serve.phase = .waiting ∧ running = true ∧ frame.value.generation = serve.seenGeneration

/-- Everything one effect of a worker can do to its phase once the client has gone. -/
inductive Withdraws (running : Bool) (frame : Mutex LatestFrame) (serve : CameraServe) :
    CameraPhase → Prop where
  /-- The connection is set up, or it is given up. -/
  | configured {phase : CameraPhase} (was : serve.phase = .configuring)
      (next : phase = .testing ∨ phase = .returned) : Withdraws running frame serve phase
  /-- The running flag is tested. -/
  | tested {phase : CameraPhase} (was : serve.phase = .testing)
      (next : phase = .reading ∨ phase = .returned) : Withdraws running frame serve phase
  /-- The end of the stream is read. -/
  | ended (was : serve.phase = .reading) : Withdraws running frame serve .returned
  /-- The wait goes on in vain. -/
  | waited (was : serve.phase = .waiting) (vain : serve.inVain running frame = true) :
      Withdraws running frame serve .waiting
  /-- The wait is over without an answer. -/
  | released {phase : CameraPhase} (was : serve.phase = .waiting)
      (next : phase = .testing ∨ phase = .returned) : Withdraws running frame serve phase
  /-- The wait is over with an answer. -/
  | answered (jpeg : Bytes) (was : serve.phase = .waiting) (fits : jpeg.length < 2 ^ 32) :
      Withdraws running frame serve (.sending [Stream.bigEndian 4 jpeg.length, jpeg])
  /-- Nothing is left to be written. -/
  | sent (was : serve.phase = .sending []) : Withdraws running frame serve .testing
  /-- One buffer has been written. -/
  | flushed (rest : List Bytes) (was : serve.phase = .sending ([] :: rest)) :
      Withdraws running frame serve (.sending rest)
  /-- The connection takes the next bytes. -/
  | wrote (buffer : Bytes) (rest : List Bytes) (count : Nat)
      (was : serve.phase = .sending (buffer :: rest)) (progress : 0 < count)
      (offered : count ≤ buffer.length) :
      Withdraws running frame serve (.sending (buffer.drop count :: rest))
  /-- The connection fails during a write. -/
  | failed (buffers : List Bytes) (was : serve.phase = .sending buffers) :
      Withdraws running frame serve .returned

section Effects

variable {running : Bool} {frame : Mutex LatestFrame} {serve : CameraServe} {input : CameraInput}
  {effect : CameraEffect} {phase : CameraPhase}

/-- Looking at the shared frame goes on in vain, or the wait is over. -/
theorem withdraws_take (was : serve.phase = .waiting) :
    Withdraws running frame serve (serve.take running frame).serve.phase := by
  unfold CameraServe.take
  cases locked : frame.lock with
  | none => exact .released was (.inr rfl)
  | some state =>
    have shared : state = frame.value := by
      unfold Mutex.lock at locked
      split at locked
      · cases locked
      · exact (Option.some.inj locked).symm
    subst shared
    dsimp only
    -- The wait goes on under the condition of the inner loop only.
    by_cases same : frame.value.generation = serve.seenGeneration ∧ running = true
    · rw [if_pos same]
      have vain : serve.inVain running frame = true := by
        simp [CameraServe.inVain, was, same.1, same.2]
      exact .waited was vain
    · rw [if_neg same]
      split
      · -- The bridge is stopped.
        exact .released was (.inr rfl)
      · split
        · exact .released was (.inl rfl)
        · split
          · rename_i jpeg _ fits
            exact .answered jpeg was fits
          · exact .released was (.inr rfl)

/-- Once the client has gone, every effect of its worker is one of the listed ones. -/
theorem withdraws_serve (served : serveCameraClient running frame serve input = some effect)
    (gone : ∀ outcome, input = .read outcome → outcome = .data []) :
    Withdraws running frame serve effect.serve.phase := by
  -- The cases follow the branches, each named by its phase.
  unfold serveCameraClient at served
  split at served <;> rename_i was
  · refine Option.some.inj served ▸ .configured was ?_
    simp only [CameraServe.goto]
    split
    · exact .inl rfl
    · exact .inr rfl
  · refine Option.some.inj served ▸ .tested was ?_
    simp only [CameraServe.goto]
    split
    · exact .inl rfl
    · exact .inr rfl
  · -- Nothing but the end of the stream is read any more.
    rename_i outcome
    rw [gone outcome rfl] at served
    exact Option.some.inj served ▸ .ended was
  · exact Option.some.inj served ▸ withdraws_take was
  · rename_i buffers _
    unfold CameraServe.send at served
    split at served
    · exact Option.some.inj served ▸ .sent was
    · exact Option.some.inj served ▸ .flushed _ was
    · split at served
      · rename_i offered
        exact Option.some.inj served ▸ .wrote _ _ _ was offered.1 offered.2
      · cases served
    · exact Option.some.inj served ▸ .failed _ was
    · cases served
  · cases served

/-- Every effect uses up an iteration where the worker is at a loop, or it is in vain. -/
theorem Withdraws.pollsLeft (withdraws : Withdraws running frame serve phase) :
    serve.atLoop.toNat + phase.pollsLeft ≤
      serve.phase.pollsLeft + (serve.inVain running frame).toNat := by
  -- Both loops are left for good, except for a wait in vain.
  cases withdraws with
  | configured was next =>
    rcases next with rfl | rfl
    all_goals simp [was, CameraServe.atLoop, CameraPhase.pollsLeft]
  | tested was next =>
    rcases next with rfl | rfl
    all_goals simp [was, CameraServe.atLoop, CameraPhase.pollsLeft]
  | released was next =>
    rcases next with rfl | rfl
    · simp [was, CameraServe.atLoop, CameraPhase.pollsLeft]
    · simp [was, CameraServe.atLoop, CameraPhase.pollsLeft]
      omega
  | waited was vain => simp [was, vain, CameraServe.atLoop, CameraPhase.pollsLeft]
  | ended was => simp [was, CameraServe.atLoop, CameraPhase.pollsLeft]
  | answered jpeg was fits => simp [was, CameraServe.atLoop, CameraPhase.pollsLeft]
  | sent was => simp [was, CameraServe.atLoop, CameraPhase.pollsLeft]
  | flushed rest was => simp [was, CameraServe.atLoop, CameraPhase.pollsLeft]
  | wrote buffer rest count was progress offered =>
    simp [was, CameraServe.atLoop, CameraPhase.pollsLeft]
  | failed buffers was => simp [was, CameraServe.atLoop, CameraPhase.pollsLeft]

/-- Every effect uses up a turn, or it is in vain. -/
theorem Withdraws.turnsLeft (withdraws : Withdraws running frame serve phase) :
    1 + phase.turnsLeft ≤ serve.phase.turnsLeft + (serve.inVain running frame).toNat := by
  -- What is left to be written becomes less, and an answer is not longer than allowed.
  cases withdraws with
  | configured was next =>
    rcases next with rfl | rfl
    all_goals
      simp only [was, CameraPhase.turnsLeft]
      omega
  | tested was next =>
    rcases next with rfl | rfl
    all_goals
      simp only [was, CameraPhase.turnsLeft]
      omega
  | released was next =>
    rcases next with rfl | rfl
    all_goals
      simp only [was, CameraPhase.turnsLeft]
      omega
  | waited was vain =>
    simp only [was, vain, Bool.toNat_true]
    omega
  | ended was =>
    simp only [was, CameraPhase.turnsLeft]
    omega
  | answered jpeg was fits =>
    simp only [was, CameraPhase.turnsLeft, List.map_cons, List.map_nil, List.sum_cons, List.sum_nil,
      Stream.bigEndian_length]
    omega
  | sent was =>
    simp only [was, CameraPhase.turnsLeft, List.map_nil, List.sum_nil]
    omega
  | flushed rest was =>
    simp only [was, CameraPhase.turnsLeft, List.map_cons, List.sum_cons, List.length_nil]
    omega
  | wrote buffer rest count was progress offered =>
    simp only [was, CameraPhase.turnsLeft, List.map_cons, List.sum_cons, List.length_drop]
    omega
  | failed buffers was =>
    simp only [was, CameraPhase.turnsLeft]
    omega

end Effects

namespace CameraServer

/-- A turn of a connection's worker of which a test is true. -/
def turn (connection : Connection) (test : CameraServer → CameraServe → Bool)
    (server : CameraServer) : CameraEvent → Bool
  | .worker other _ => other == connection &&
    (server.workers connection).any fun worker => !worker.finished && test server worker.serve
  | _ => false

/-- A step in which a connection's worker takes a turn. -/
def turns (connection : Connection) : CameraServer → CameraEvent → Bool :=
  turn connection fun _ _ => true

/-- A step in which a connection's worker begins an iteration of one of its polling loops. -/
def polls (connection : Connection) : CameraServer → CameraEvent → Bool :=
  turn connection fun _ => CameraServe.atLoop

/-- A step in which a connection's worker waits for a frame that has not come. -/
def waitsInVain (connection : Connection) : CameraServer → CameraEvent → Bool :=
  turn connection fun server serve => serve.inVain server.running server.frame

/-- A read on a connection whose client has gone reports the end of the stream. -/
def EndOfStream (connection : Connection) (event : CameraEvent) : Prop :=
  ∀ outcome, event = .worker connection (.read outcome) → outcome = .data []

/-- What is left of a measure of phases, from the hiring of the worker to the end of its thread. -/
def left (measure : CameraPhase → Nat) (connection : Connection) (server : CameraServer) : Nat :=
  match server.workers connection with
  | none => measure .configuring
  | some worker => if worker.finished then 0 else measure worker.serve.phase

variable {server after : CameraServer} {connection : Connection} {measure : CameraPhase → Nat}

/-- What is left for one connection does not depend on the others' workers. -/
theorem left_setWorker_of_ne {other : Connection} {worker : CameraWorker}
    (different : other ≠ connection) :
    left measure connection (server.setWorker other worker) = left measure connection server := by
  -- The worker of the connection is the same.
  have same : (server.setWorker other worker).workers connection = server.workers connection :=
    Function.update_of_ne different.symm _ _
  rw [left, same, left]

/-- What is left for a connection is decided by its worker. -/
theorem left_setWorker {serve : CameraServe} {finished : Bool} :
    left measure connection (server.setWorker connection ⟨serve, finished⟩) =
      if finished then 0 else measure serve.phase := by
  -- The worker is the one that has just been set.
  have same : (server.setWorker connection ⟨serve, finished⟩).workers connection =
      some ⟨serve, finished⟩ := Function.update_self _ _ _
  rw [left, same]

/-- A worker's step ends its thread, or it is an effect of its function. -/
theorem runCameraClient_cases {input : CameraInput}
    (taken : server.runCameraClient connection input = some after) :
    ∃ serve, server.workers connection = some ⟨serve, false⟩ ∧
      ((serve.phase = .returned ∧
          after = { server with clients := server.clients - 1 }.setWorker connection ⟨serve, true⟩) ∨
        ∃ effect, serveCameraClient server.running server.frame serve input = some effect ∧
          after = { server with
            history := (effect.deed.map (CameraDeed.happening connection)).toList ++
              server.history }.setWorker connection ⟨effect.serve, false⟩) := by
  -- The cases follow the branches.
  unfold runCameraClient at taken
  split at taken
  · rename_i serve works
    refine ⟨serve, works, ?_⟩
    split at taken
    · rename_i was
      exact .inl ⟨was, (Option.some.inj taken).symm⟩
    · split at taken
      · rename_i effect served
        exact .inr ⟨effect, served, (Option.some.inj taken).symm⟩
      · cases taken
  · cases taken

/-- A measure pays for turns: every effect after the client has gone uses it up, or is in vain. -/
structure Pays (test : CameraServe → Bool) (measure : CameraPhase → Nat) : Prop where
  effect : ∀ {running : Bool} {frame : Mutex LatestFrame} {serve : CameraServe}
    {phase : CameraPhase}, Withdraws running frame serve phase →
    (test serve).toNat + measure phase ≤ measure serve.phase + (serve.inVain running frame).toNat
  last : ∀ {serve : CameraServe}, serve.phase = .returned →
    (test serve).toNat ≤ measure .returned

/-- A measure of phases pays for the turns of a whole step. -/
theorem Pays.step {test : CameraServe → Bool} (pays : Pays test measure)
    (truthful : server.Truthful) {event : CameraEvent} (gone : EndOfStream connection event)
    (taken : server.step event = some after) :
    (turn connection (fun _ => test) server event).toNat + left measure connection after ≤
      left measure connection server + (waitsInVain connection server event).toNat := by
  -- Only turns of the connection's own worker, and its hiring, change anything.
  cases event with
  | publish jpeg => exact Option.some.inj taken ▸ Nat.le_of_eq (Nat.zero_add _)
  | signal => exact Option.some.inj taken ▸ Nat.le_of_eq (Nat.zero_add _)
  | connect => exact Option.some.inj taken ▸ Nat.le_of_eq (Nat.zero_add _)
  | listener input =>
    -- A step of the listener is no turn, and no wait.
    show 0 + left measure connection after ≤ left measure connection server + 0
    rw [Nat.zero_add, Nat.add_zero]
    cases step_steps taken with
    | @hire other was =>
      by_cases own : other = connection
      · subst own
        -- Nobody works for a connection that still waits for its worker.
        have waiting : other ∈ server.nextConnection ::
            (server.listener.held.toList ++ server.backlog) := by
          simp [was, CameraListenerPhase.held]
        have idle := truthful.idle_of_waiting waiting
        rw [left_setWorker, left, idle]
        exact Nat.le_refl _
      · rw [left_setWorker_of_ne own]
        exact Nat.le_refl _
    -- The other steps of the listener leave the workers alone.
    | listen was idle => exact Nat.le_refl _
    | accept was waiting => exact Nat.le_refl _
    | refuse was full => exact Nat.le_refl _
    | welcome was room => exact Nat.le_refl _
    | uncount was => exact Nat.le_refl _
  | worker other input =>
    obtain ⟨serve, works, turned⟩ := runCameraClient_cases taken
    by_cases own : other = connection
    · subst own
      have before : left measure other server = measure serve.phase := by simp [left, works]
      have tested : turn other (fun _ => test) server (.worker other input) = test serve := by
        simp [turn, works]
      have vain : waitsInVain other server (.worker other input) =
          serve.inVain server.running server.frame := by simp [waitsInVain, turn, works]
      -- The turn of the connection's own worker is paid for by its phase.
      rw [before, tested, vain]
      rcases turned with ⟨was, rfl⟩ | ⟨effect, served, rfl⟩
      · -- The thread ends.
        have last := pays.last was
        rw [left_setWorker, if_pos rfl, was]
        omega
      · -- The function takes a turn of one of the listed kinds.
        have withdraws := withdraws_serve served fun outcome same => gone outcome (by rw [same])
        rw [left_setWorker]
        exact pays.effect withdraws
    · -- Another worker's turn is none of the connection's.
      have foreign : ∀ check, turn connection check server (.worker other input) = false := by
        intro check
        simp [turn, own]
      rw [foreign, waitsInVain, foreign]
      rcases turned with ⟨was, rfl⟩ | ⟨effect, served, rfl⟩
      · rw [left_setWorker_of_ne own]
        exact Nat.le_of_eq (Nat.zero_add _)
      · rw [left_setWorker_of_ne own]
        exact Nat.le_of_eq (Nat.zero_add _)

/-- Once a client has gone, the turns of its worker are paid for, except for those in vain. -/
theorem Pays.run {test : CameraServe → Bool} (pays : Pays test measure) {events : List CameraEvent}
    {start finish : CameraServer} (truthful : start.Truthful)
    (gone : ∀ event ∈ events, EndOfStream connection event)
    (ran : Machine.run CameraServer.step start events = some finish) :
    occurrences CameraServer.step (turn connection fun _ => test) start events +
        left measure connection finish ≤
      left measure connection start +
        occurrences CameraServer.step (waitsInVain connection) start events := by
  -- Every step is paid for, and nothing but the truthfulness of the state is needed for it.
  refine occurrences_le (EndOfStream connection) Truthful (left measure connection) ?_ ?_ gone
    truthful ran
  · intro state event next _ truthful taken
    exact truthful.step (step_steps taken)
  · intro state event next gone truthful taken
    exact pays.step truthful gone taken

/-- The iterations that are left pay for those that are begun. -/
theorem pays_polls : Pays CameraServe.atLoop CameraPhase.pollsLeft where
  effect withdraws := withdraws.pollsLeft
  last was := by simp [CameraServe.atLoop, was]

/-- The turns that are left pay for those that are taken. -/
theorem pays_turns : Pays (fun _ => true) CameraPhase.turnsLeft where
  effect withdraws := withdraws.turnsLeft
  last _ := Nat.le_refl _

/-- No more than two iterations are left in any phase. -/
theorem left_polls_le : left CameraPhase.pollsLeft connection server ≤ 2 := by
  unfold left
  split
  · -- A worker that is still to be hired looks at its connection first.
    exact Nat.le_succ 1
  · rename_i worker _
    split
    · exact Nat.zero_le 2
    · cases worker.serve.phase <;> simp [CameraPhase.pollsLeft]

/-- An effect leaves no more turns than there are for a request that has been read. -/
theorem turnsLeft_le {running : Bool} {frame : Mutex LatestFrame} {serve : CameraServe}
    {input : CameraInput} {effect : CameraEffect}
    (few : serve.phase.turnsLeft ≤ CameraPhase.waiting.turnsLeft)
    (serves : CameraServes running frame serve input effect) :
    effect.serve.phase.turnsLeft ≤ CameraPhase.waiting.turnsLeft := by
  -- An answer is not longer than allowed, and while it is written less and less is left.
  have most : CameraPhase.waiting.turnsLeft = 2 ^ 32 + 10 := rfl
  cases serves with
  | move was quiet next =>
    rcases next with rfl | rfl | rfl
    all_goals
      simp only [CameraServe.goto, CameraPhase.turnsLeft]
      omega
  | answer was new stored fits =>
    simp only [CameraServe.goto, CameraPhase.turnsLeft, List.map_cons, List.map_nil, List.sum_cons,
      List.sum_nil, Stream.bigEndian_length]
    omega
  | flushed was =>
    simp only [was, CameraServe.goto, CameraPhase.turnsLeft, List.map_cons, List.sum_cons] at few ⊢
    omega
  | write was progress offered =>
    simp only [was, CameraServe.goto, CameraPhase.turnsLeft, List.map_cons, List.sum_cons,
      List.length_drop] at few ⊢
    omega
  | request was => exact Nat.le_refl _
  | await was old => exact Nat.le_refl _
  -- The worker is back from its function, or at the beginning of another iteration.
  | giveUp was stopped => exact Nat.le_add_left 1 _
  | drop was new empty => exact Nat.le_add_left 3 _
  | tooLarge was stored large => exact Nat.le_add_left 1 _
  | sent was => exact Nat.le_add_left 3 _
  | fail was => exact Nat.le_add_left 1 _

/-- No worker ever has more turns left than there are for a request that has been read. -/
def Limited (server : CameraServer) : Prop :=
  ∀ connection, left CameraPhase.turnsLeft connection server ≤ CameraPhase.waiting.turnsLeft

/-- Every step keeps the turns limited. -/
theorem Limited.step {event : CameraEvent} (limited : server.Limited)
    (taken : server.step event = some after) : after.Limited := by
  -- Only one worker is replaced, and what it does is limited.
  intro connection
  cases step_steps taken with
  | @hire other was =>
    by_cases own : other = connection
    · subst own
      rw [left_setWorker]
      exact Nat.le_add_left 4 _
    · rw [left_setWorker_of_ne own]
      exact limited connection
  | @serve other input serve effect works served =>
    by_cases own : other = connection
    · subst own
      have few := limited other
      rw [left, works] at few
      rw [left_setWorker]
      exact turnsLeft_le few served
    · rw [left_setWorker_of_ne own]
      exact limited connection
  | @leave other serve works was =>
    by_cases own : other = connection
    · subst own
      rw [left_setWorker]
      exact Nat.zero_le _
    · rw [left_setWorker_of_ne own]
      exact limited connection
  -- The other steps concern no worker.
  | publish jpeg => exact limited connection
  | signal => exact limited connection
  | connect => exact limited connection
  | listen was idle => exact limited connection
  | accept was waiting => exact limited connection
  | refuse was full => exact limited connection
  | welcome was room => exact limited connection
  | uncount was => exact limited connection

/-- Whatever the threads do, the turns stay limited. -/
theorem limited_run {events : List CameraEvent}
    (ran : Machine.run CameraServer.step CameraServer.start events = some server) :
    server.Limited := by
  refine Machine.run_invariant (fun _ => True) Limited ?_ (fun _ _ => trivial) ?_ ran
  · intro state event next _ limited taken
    exact limited.step taken
  · -- At the beginning nobody has been hired.
    intro connection
    exact Nat.le_add_left 4 _

/-- A worker whose client has gone can take a turn. -/
def CanTurn (connection : Connection) (server : CameraServer) : Prop :=
  ∃ input, EndOfStream connection (.worker connection input) ∧
    (server.step (.worker connection input)).isSome = true

/-- Every phase has an effect, also once the client has gone. -/
theorem exists_effect (running : Bool) (frame : Mutex LatestFrame) (serve : CameraServe)
    (open_ : serve.phase ≠ .returned) :
    ∃ input, (∀ outcome, input = .read outcome → outcome = .data []) ∧
      (serveCameraClient running frame serve input).isSome = true := by
  -- The phases are looked at in turn.
  cases was : serve.phase with
  | configuring => exact ⟨.io false, nofun, by simp [serveCameraClient, was]⟩
  | testing => exact ⟨.proceed, nofun, by simp [serveCameraClient, was]⟩
  | reading =>
    refine ⟨.read (.data []), fun outcome same => ?_, by simp [serveCameraClient, was, CameraServe.receive]⟩
    -- The end of the stream can be read at any time.
    cases same
    rfl
  | waiting => exact ⟨.proceed, nofun, by simp [serveCameraClient, was]⟩
  | sending buffers =>
    cases buffers with
    | nil => exact ⟨.proceed, nofun, by simp [serveCameraClient, was, CameraServe.send]⟩
    | cons buffer rest =>
      -- A write may fail.
      exact ⟨.io false, nofun, by simp [serveCameraClient, was, CameraServe.send]⟩
  | returned => exact absurd was open_

/-- A worker whose client has gone can take turns until its thread has ended. -/
theorem Truthful.canTurn_iff (truthful : server.Truthful) :
    server.CanTurn connection ↔ connection ∈ server.live := by
  rw [truthful.mem_live]
  constructor
  · -- Only a worker whose thread has not ended takes turns.
    intro can
    obtain ⟨input, _, enabled⟩ := can
    obtain ⟨next, taken⟩ := Option.isSome_iff_exists.mp enabled
    obtain ⟨serve, works, _⟩ := runCameraClient_cases taken
    exact ⟨serve, works⟩
  · intro found
    obtain ⟨serve, works⟩ := found
    -- After its function has returned, the thread still has to count down.
    by_cases was : serve.phase = .returned
    · refine ⟨.proceed, nofun, ?_⟩
      simp [CameraServer.step, runCameraClient, works, was]
    · obtain ⟨input, gone, enabled⟩ := exists_effect server.running server.frame serve was
      refine ⟨input, fun outcome same => gone outcome ?_, ?_⟩
      · cases same
        rfl
      · obtain ⟨effect, served⟩ := Option.isSome_iff_exists.mp enabled
        simp [CameraServer.step, runCameraClient, works, was, served]

/-- After a client has gone, two iterations are all but those in which its worker waits in vain. -/
theorem polls_le {prior later : List CameraEvent} {middle finish : CameraServer}
    (reached : Machine.run CameraServer.step CameraServer.start prior = some middle)
    (ran : Machine.run CameraServer.step middle later = some finish)
    (gone : ∀ event ∈ later, EndOfStream connection event) :
    occurrences CameraServer.step (polls connection) middle later ≤
      2 + occurrences CameraServer.step (waitsInVain connection) middle later := by
  -- What was left when the client went away pays for all iterations.
  have paid := pays_polls.run (truthful_run reached) gone ran
  have few := @left_polls_le middle connection
  unfold polls
  omega

/-- After a client has gone, its worker takes few turns but for those in which it waits in vain. -/
theorem turns_le {prior later : List CameraEvent} {middle finish : CameraServer}
    (reached : Machine.run CameraServer.step CameraServer.start prior = some middle)
    (ran : Machine.run CameraServer.step middle later = some finish)
    (gone : ∀ event ∈ later, EndOfStream connection event) :
    occurrences CameraServer.step (turns connection) middle later ≤
      2 ^ 32 + 10 + occurrences CameraServer.step (waitsInVain connection) middle later := by
  -- What was left when the client went away pays for all turns.
  have paid := pays_turns.run (truthful_run reached) gone ran
  have few : left CameraPhase.turnsLeft connection middle ≤ 2 ^ 32 + 10 :=
    limited_run reached connection
  unfold turns
  omega

/-- If none of them waits in vain, the workers of clients that have gone give back their slots. -/
theorem camera_slots_released {prior later : List CameraEvent} {middle finish : CameraServer}
    {gone : Finset Connection}
    (reached : Machine.run CameraServer.step CameraServer.start prior = some middle)
    (ran : Machine.run CameraServer.step middle later = some finish)
    (closed : ∀ connection ∈ gone, ∀ event ∈ later, EndOfStream connection event)
    (served : ∀ connection ∈ gone,
      occurrences CameraServer.step (waitsInVain connection) middle later = 0) :
    (∀ connection ∈ gone,
      occurrences CameraServer.step (polls connection) middle later ≤ 2 ∧
      occurrences CameraServer.step (turns connection) middle later ≤ 2 ^ 32 + 10) ∧
    ∀ newcomer, finish.listener = .counting newcomer →
      (∀ connection ∈ gone, ¬ finish.CanTurn connection) → (finish.live \ gone).card < 4 →
      ∃ next, finish.step (.listener .proceed) = some next ∧ next.listener = .spawning newcomer := by
  refine ⟨fun connection member => ⟨?_, ?_⟩, fun newcomer taken ended room => ?_⟩
  · -- No wait is in vain, so that two iterations are all.
    have few := polls_le reached ran (closed connection member)
    rwa [served connection member] at few
  · have few := turns_le reached ran (closed connection member)
    rwa [served connection member] at few
  · -- Workers that have no turns left are not counted any more.
    have whole : Machine.run CameraServer.step CameraServer.start (prior ++ later) = some finish :=
      run_append.mpr ⟨middle, reached, ran⟩
    obtain ⟨truthful, counted⟩ := counted_run whole
    have others : finish.live \ gone = finish.live := by
      refine Finset.sdiff_eq_self_of_disjoint (Finset.disjoint_right.mpr fun connection member => ?_)
      exact fun alive => ended connection member (truthful.canTurn_iff.mpr alive)
    rw [others] at room
    obtain ⟨next, counts, decided⟩ := counted.admits taken
    rw [if_pos room] at decided
    exact ⟨next, counts, decided⟩

/-- A client that connects, gets its worker, and has its request read, before it goes away. -/
def idleClient (connection : Connection) : List CameraEvent :=
  [.connect, .listener .proceed, .listener .accepted, .listener .proceed, .listener (.io true),
    .worker connection (.io true), .worker connection .proceed,
    .worker connection (.read (.data [cameraRequest]))]

/-- Four such clients, one after the other. -/
def fourIdle : List CameraEvent :=
  (List.range 4).flatMap idleClient

/-- The last turns of a worker that sends a frame of two bytes to a client that has gone. -/
def lastTurns (connection : Connection) : List CameraEvent :=
  [.worker connection .proceed, .worker connection (.wrote 4), .worker connection .proceed,
    .worker connection (.wrote 2), .worker connection .proceed, .worker connection .proceed,
    .worker connection .proceed, .worker connection (.read (.data [])), .worker connection .proceed]

/-- All four workers take their last turns, and then a client connects and is taken. -/
def departures : List CameraEvent :=
  (List.range 4).flatMap lastTurns ++ [.connect, .listener .proceed, .listener .accepted]

/-- Whether a read, if the event is one, reports the end of the stream. -/
def endsStream : CameraEvent → Bool
  | .worker _ (.read outcome) => outcome = .data []
  | _ => true

/-- If a frame arrives, four clients that have gone give back their slots, and a fifth is served. -/
theorem camera_slots_released_to_fifth : ∃ middle finish next,
    Machine.run CameraServer.step CameraServer.start (fourIdle ++ [.publish [7, 8]]) = some middle ∧
    Machine.run CameraServer.step middle departures = some finish ∧
    (∀ connection ∈ Finset.range 4,
      occurrences CameraServer.step (polls connection) middle departures ≤ 2) ∧
    finish.step (.listener .proceed) = some next ∧ next.listener = .spawning 4 := by
  -- The run is evaluated, and the general result applies to it.
  have played : (Machine.run CameraServer.step CameraServer.start
      (fourIdle ++ [.publish [7, 8]])).any (fun middle =>
        ((List.range 4).all fun connection =>
          occurrences CameraServer.step (waitsInVain connection) middle departures == 0) &&
        (Machine.run CameraServer.step middle departures).any fun finish =>
          decide (finish.listener = .counting 4) &&
          ((List.range 4).all fun connection => !finish.isLive connection) &&
          decide ((finish.live \ Finset.range 4).card < 4)) = true := by
    decide +kernel
  have silent : departures.all endsStream = true := by decide +kernel
  obtain ⟨middle, reached, found⟩ := (Option.any_eq_true _ _).mp played
  -- What the evaluation has shown is taken apart.
  simp only [Bool.and_eq_true, List.all_eq_true, List.mem_range, beq_iff_eq, Option.any_eq_true,
    decide_eq_true_eq, Bool.not_eq_true'] at found
  obtain ⟨served, finish, ran, ⟨taken, ended⟩, room⟩ := found
  -- The clients have gone before their workers take their last turns.
  have closed : ∀ connection ∈ Finset.range 4, ∀ event ∈ departures,
      EndOfStream connection event := by
    intro connection _ event member outcome same
    have quiet := List.all_eq_true.mp silent event member
    rw [same] at quiet
    exact of_decide_eq_true quiet
  have truthful := truthful_run (run_append.mpr ⟨middle, reached, ran⟩)
  -- After these turns the threads have ended.
  have resting : ∀ connection ∈ Finset.range 4, ¬ finish.CanTurn connection := by
    intro connection member can
    have alive := (Finset.mem_filter.mp (truthful.canTurn_iff.mp can)).2
    rw [ended connection (Finset.mem_range.mp member)] at alive
    cases alive
  obtain ⟨few, admits⟩ := camera_slots_released reached ran closed
    fun connection member => served connection (Finset.mem_range.mp member)
  obtain ⟨next, counts, spawning⟩ := admits 4 taken resting room
  exact ⟨middle, finish, next, reached, ran, fun connection member => (few connection member).1,
    counts, spawning⟩

/-- Waiting in vain changes nothing at all. -/
theorem step_inVain {serve : CameraServe} (free : server.frame.poisoned = false)
    (works : server.workers connection = some ⟨serve, false⟩)
    (vain : serve.inVain server.running server.frame = true) :
    server.step (.worker connection .proceed) = some server := by
  have facts : serve.phase = .waiting ∧ server.running = true ∧
      server.frame.value.generation = serve.seenGeneration := by
    simpa [CameraServe.inVain] using vain
  obtain ⟨was, running, same⟩ := facts
  have stays : serve.take server.running server.frame = serve.goto .waiting := by
    simp [CameraServe.take, Mutex.lock, free, same, running]
  have unchanged : serve.goto .waiting = ⟨serve, none⟩ := by
    rw [CameraServe.goto, ← was]
  -- The worker is replaced by itself.
  have replaced : server.setWorker connection ⟨serve, false⟩ = server := by
    rw [setWorker, ← works, Function.update_eq_self]
  simp only [CameraServer.step, runCameraClient, works, was, serveCameraClient, stays, unchanged,
    Option.map_none, Option.toList_none, List.nil_append]
  exact congrArg some replaced

/-- A client that connects, and is taken by the listener and counted. -/
def fifthClient : List CameraEvent :=
  [.connect, .listener .proceed, .listener .accepted, .listener .proceed]

/-- Some more iterations of each of the first four workers. -/
def patience (count : Nat) : List CameraEvent :=
  (List.range 4).flatMap fun connection => List.replicate count (.worker connection .proceed)

/-- A server whose first four workers wait for the first frame. -/
def AllIdle (server : CameraServer) : Prop :=
  server.frame.poisoned = false ∧ ∀ connection < 4,
    ∃ serve, server.workers connection = some ⟨serve, false⟩ ∧
      serve.inVain server.running server.frame = true

/-- Further iterations of a worker that waits in vain leave everything as it is. -/
theorem run_replicate {serve : CameraServe} (free : server.frame.poisoned = false)
    (works : server.workers connection = some ⟨serve, false⟩)
    (vain : serve.inVain server.running server.frame = true) (count : Nat) :
    Machine.run CameraServer.step server (List.replicate count (.worker connection .proceed)) =
        some server ∧
      occurrences CameraServer.step (polls connection) server
        (List.replicate count (.worker connection .proceed)) = count := by
  have still := step_inVain free works vain
  -- Each of them is an iteration, since the worker is at the condition of the inner loop.
  have looping : polls connection server (.worker connection .proceed) = true := by
    have facts : serve.phase = .waiting ∧ server.running = true ∧
        server.frame.value.generation = serve.seenGeneration := by
      simpa [CameraServe.inVain] using vain
    simp [polls, turn, works, CameraServe.atLoop, facts.1]
  -- The induction is on the number of iterations.
  induction count with
  | zero => exact ⟨rfl, rfl⟩
  | succ count ih =>
    obtain ⟨ran, counted⟩ := ih
    rw [List.replicate_succ]
    refine ⟨run_cons.mpr ⟨server, still, ran⟩, ?_⟩
    simp only [occurrences, still, looping, Option.elim_some, counted, Bool.toNat_true]
    exact Nat.add_comm 1 count

/-- However long all four workers go on, everything stays as it is. -/
theorem run_patience (idle : server.AllIdle) (count : Nat) :
    Machine.run CameraServer.step server (patience count) = some server := by
  -- One worker after the other takes its turns.
  have general : ∀ connections : List Connection, (∀ connection ∈ connections, connection < 4) →
      Machine.run CameraServer.step server (connections.flatMap fun connection =>
        List.replicate count (.worker connection .proceed)) = some server := by
    intro connections below
    induction connections with
    | nil => rfl
    | cons first others ih =>
      obtain ⟨serve, works, vain⟩ := idle.2 first (below first List.mem_cons_self)
      rw [List.flatMap_cons]
      exact run_append.mpr ⟨server, (run_replicate idle.1 works vain count).1,
        ih fun connection member => below connection (List.mem_cons_of_mem _ member)⟩
  exact general _ fun connection member => List.mem_range.mp member

/-- Four clients that ask before there is a frame, and then go away, leave four idle workers. -/
theorem allIdle_fourIdle : ∃ server,
    Machine.run CameraServer.step CameraServer.start fourIdle = some server ∧ server.AllIdle := by
  -- The run is evaluated, and so is what its workers wait for.
  have played : (Machine.run CameraServer.step CameraServer.start fourIdle).any (fun server =>
      !server.frame.poisoned && (List.range 4).all fun connection =>
        (server.workers connection).any fun worker =>
          !worker.finished && worker.serve.inVain server.running server.frame) = true := by
    decide +kernel
  obtain ⟨server, ran, found⟩ := (Option.any_eq_true _ _).mp played
  simp only [Bool.and_eq_true, Bool.not_eq_true', List.all_eq_true, List.mem_range,
    Option.any_eq_true] at found
  refine ⟨server, ran, found.1, fun connection below => ?_⟩
  obtain ⟨⟨serve, finished⟩, works, running, vain⟩ := found.2 connection below
  have unfinished : finished = false := running
  exact ⟨serve, unfinished ▸ works, vain⟩

/-- No bound holds: four clients that ask and go away while no frame arrives keep their slots. -/
theorem idle_clients_keep_slots :
    (¬ ∃ bound, ∀ (prior later : List CameraEvent) (middle finish : CameraServer)
      (connection : Connection),
      Machine.run CameraServer.step CameraServer.start prior = some middle →
      Machine.run CameraServer.step middle later = some finish →
      (∀ event ∈ later, EndOfStream connection event) →
      occurrences CameraServer.step (polls connection) middle later ≤ bound) ∧
    ∀ count, ∃ finish, Machine.run CameraServer.step CameraServer.start
        (fourIdle ++ patience count ++ fifthClient) = some finish ∧
      finish.listener = .refusing 4 := by
  obtain ⟨server, ran, idle⟩ := allIdle_fourIdle
  constructor
  · intro bounded
    obtain ⟨bound, holds⟩ := bounded
    -- The first of them begins one iteration more.
    obtain ⟨serve, works, vain⟩ := idle.2 0 (by decide)
    obtain ⟨stays, counted⟩ := run_replicate idle.1 works vain (bound + 1)
    have silent : ∀ event ∈ List.replicate (bound + 1) (CameraEvent.worker 0 .proceed),
        EndOfStream 0 event := by
      intro event member outcome same
      rw [List.eq_of_mem_replicate member] at same
      cases same
    -- That many iterations are one too many.
    have few := holds _ _ _ _ 0 ran stays silent
    omega
  · intro count
    -- The fifth client finds the count as it was without the iterations.
    have played : (Machine.run CameraServer.step CameraServer.start (fourIdle ++ fifthClient)).any
        (fun server => server.listener = .refusing 4) = true := by
      decide +kernel
    obtain ⟨finish, whole, refused⟩ := (Option.any_eq_true _ _).mp played
    obtain ⟨middle, first, second⟩ := run_append.mp whole
    rw [ran] at first
    cases first
    refine ⟨finish, run_append.mpr ⟨server, ?_, second⟩, of_decide_eq_true refused⟩
    exact run_append.mpr ⟨server, ran, run_patience idle count⟩

end CameraServer
end Scout
