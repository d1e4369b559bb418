import Mathlib.Data.Finset.Card
import Scout.Camera.Protocol

/-! The number of camera clients that is counted, and the workers it counts. -/

namespace Scout

/-- Whether a taken connection is counted without having a worker. -/
def CameraListenerPhase.counted : CameraListenerPhase → Nat
  | .refusing _ => 1
  | .spawning _ => 1
  | .uncounting => 1
  | _ => 0

/-- Whether a worker is about to be hired. -/
def CameraListenerPhase.hiring : CameraListenerPhase → Nat
  | .spawning _ => 1
  | _ => 0

namespace CameraServer

/-- Whether a connection has a worker whose thread has not ended. -/
def isLive (server : CameraServer) (connection : Connection) : Bool :=
  (server.workers connection).any fun worker => !worker.finished

/-- The connections whose workers have not ended. -/
def live (server : CameraServer) : Finset Connection :=
  (Finset.range server.nextConnection).filter fun connection => server.isLive connection

/-- The count is that of the live workers and of a taken connection, and there is a cap on it. -/
structure Counted (server : CameraServer) : Prop where
  exact : server.clients.toNat = server.live.card + server.listener.counted
  capped : server.live.card + server.listener.hiring ≤ maxCameraClients.toNat

variable {server : CameraServer} {connection : Connection}

/-- Replacing a worker changes whether its own connection is live, and nothing else. -/
theorem isLive_setWorker {worker : CameraWorker} (other : Connection) :
    (server.setWorker connection worker).isLive other =
      if other = connection then !worker.finished else server.isLive other := by
  -- The new worker is found under its own connection only.
  by_cases same : other = connection
  · simp [isLive, setWorker, same]
  · simp [isLive, setWorker, same]

/-- A connection with a worker has been numbered. -/
theorem Truthful.numbered (truthful : server.Truthful)
    (works : server.workers connection ≠ none) : connection < server.nextConnection :=
  truthful.hired connection works _ List.mem_cons_self

/-- A connection that waits for a worker has been numbered. -/
theorem Truthful.below (truthful : server.Truthful)
    (waiting : connection ∈ server.listener.held.toList ++ server.backlog) :
    connection < server.nextConnection :=
  (List.pairwise_cons.mp truthful.fresh).1 connection (List.mem_reverse.mpr waiting)

/-- A live connection is one with a worker whose thread has not ended. -/
theorem Truthful.mem_live (truthful : server.Truthful) :
    connection ∈ server.live ↔ ∃ serve, server.workers connection = some ⟨serve, false⟩ := by
  -- Such a connection has been numbered.
  rw [live, Finset.mem_filter, Finset.mem_range, isLive, Option.any_eq_true]
  constructor
  · intro member
    obtain ⟨_, ⟨serve, finished⟩, works, running⟩ := member
    have unfinished : finished = false := by simpa using running
    exact ⟨serve, unfinished ▸ works⟩
  · intro found
    obtain ⟨serve, works⟩ := found
    exact ⟨truthful.numbered (by simp [works]), _, works, rfl⟩

/-- A live worker that goes on keeps the same connections live. -/
theorem live_serve {serve next : CameraServe}
    (works : server.workers connection = some ⟨serve, false⟩) :
    (server.setWorker connection ⟨next, false⟩).live = server.live := by
  -- It was live before, too.
  apply Finset.filter_congr
  intro other _
  rw [isLive_setWorker]
  by_cases same : other = connection
  · simp [same, isLive, works]
  · simp [same]

/-- A worker whose thread ends leaves the live ones. -/
theorem live_leave {serve : CameraServe} :
    (server.setWorker connection ⟨serve, true⟩).live = server.live.erase connection := by
  -- Only its own connection changes.
  ext other
  rw [live, Finset.mem_filter, Finset.mem_erase, live, Finset.mem_filter, isLive_setWorker]
  by_cases same : other = connection
  · simp [same]
  · simp [same, setWorker]

/-- A worker that is hired joins the live ones. -/
theorem live_hire {serve : CameraServe} (numbered : connection < server.nextConnection) :
    (server.setWorker connection ⟨serve, false⟩).live = insert connection server.live := by
  -- Only its own connection changes, which the range contains.
  ext other
  rw [live, Finset.mem_filter, Finset.mem_insert, live, Finset.mem_filter, isLive_setWorker]
  by_cases same : other = connection
  · simp [same, setWorker, numbered]
  · simp [same, setWorker]

/-- A new connection has no worker yet. -/
theorem Truthful.live_connect (truthful : server.Truthful) (backlog : List Connection) :
    ({ server with backlog, nextConnection := server.nextConnection + 1 }).live = server.live := by
  -- The range grows by a connection that is not live.
  have idle : server.workers server.nextConnection = none :=
    truthful.idle_of_waiting List.mem_cons_self
  have dead : server.isLive server.nextConnection = false := by simp [isLive, idle]
  show (Finset.range (server.nextConnection + 1)).filter _ = _
  rw [Finset.range_add_one, Finset.filter_insert, if_neg (by
    show ¬ server.isLive server.nextConnection = true
    simp [dead])]
  rfl

/-- At the beginning nobody is counted. -/
theorem counted_start : CameraServer.start.Counted where
  exact := rfl
  capped := by decide

/-- A step of the listener that counts nobody keeps the count. -/
theorem Counted.quiet (counted : server.Counted) {listener : CameraListenerPhase}
    {backlog : List Connection} (same : listener.counted = server.listener.counted)
    (less : listener.hiring ≤ server.listener.hiring) :
    ({ server with listener, backlog }).Counted := by
  -- The workers stay as they are, and none is about to be hired that was not before.
  have room := counted.capped
  refine ⟨counted.exact.trans (by rw [same]; rfl), ?_⟩
  show server.live.card + listener.hiring ≤ maxCameraClients.toNat
  omega

/-- Counting one client more adds one to the number. -/
theorem Counted.toNat_succ (counted : server.Counted) (free : server.listener.counted = 0) :
    (server.clients + 1).toNat = server.live.card + 1 := by
  -- The cap is far from the largest number.
  have exact := counted.exact
  have room := counted.capped
  have cap : maxCameraClients.toNat = 4 := rfl
  rw [UInt64.toNat_add, show (1 : UInt64).toNat = 1 from rfl, exact, free]
  exact Nat.mod_eq_of_lt (by omega)

/-- Counting one client less takes one from the number. -/
theorem Counted.toNat_pred {count : Nat} (exact : server.clients.toNat = count + 1) :
    (server.clients - 1).toNat = count := by
  -- The subtraction does not wrap around.
  have one : (1 : UInt64) ≤ server.clients := by
    rw [UInt64.le_iff_toNat_le, exact]
    exact Nat.le_add_left 1 count
  rw [UInt64.toNat_sub_of_le _ _ one, exact]
  rfl

/-- A client that is counted without a worker may be taken back from the count. -/
theorem Counted.uncount (counted : server.Counted) (extra : server.listener.counted = 1) :
    ({ server with clients := server.clients - 1, listener := .testing }).Counted := by
  -- What is left in the count are the live workers.
  have counting : server.clients.toNat = server.live.card + 1 :=
    counted.exact.trans (by rw [extra])
  have room := counted.capped
  refine ⟨Counted.toNat_pred counting, ?_⟩
  show server.live.card + 0 ≤ maxCameraClients.toNat
  omega

/-- A connection that waits for its worker has been numbered, and has had none before. -/
theorem Truthful.unserved (truthful : server.Truthful)
    (held : server.listener.held = some connection) :
    connection < server.nextConnection ∧ connection ∉ server.live := by
  -- It is the first of those that wait.
  refine ⟨truthful.below (by simp [held]), ?_⟩
  rw [truthful.mem_live, truthful.idle_of_waiting (by simp [held])]
  simp

/-- A client that is counted without a worker may get one. -/
theorem Counted.hire (counted : server.Counted) (truthful : server.Truthful)
    (was : server.listener = .spawning connection) :
    ({ server with listener := .testing }.setWorker connection
      { serve := CameraServe.start, finished := false }).Counted := by
  have counting : server.clients.toNat = server.live.card + 1 := by
    simpa [was, CameraListenerPhase.counted] using counted.exact
  have hiring : server.live.card + 1 ≤ maxCameraClients.toNat := by
    simpa [was, CameraListenerPhase.hiring] using counted.capped
  -- The connection has been numbered, and it was not live before.
  have held : server.listener.held = some connection := by
    simp [was, CameraListenerPhase.held]
  obtain ⟨numbered, absent⟩ := truthful.unserved held
  have joined := @live_hire { server with listener := .testing } connection CameraServe.start
    numbered
  have more : (insert connection server.live).card = server.live.card + 1 :=
    Finset.card_insert_of_notMem absent
  -- The worker takes the place of its client in the count.
  refine ⟨?_, ?_⟩
  · rw [joined]
    exact counting.trans more.symm
  · rw [joined]
    show (insert connection server.live).card + 0 ≤ maxCameraClients.toNat
    rw [more]
    exact hiring

/-- Every step of the listener keeps the count. -/
theorem Counted.listen {after : CameraServer} {input : ListenerInput} (counted : server.Counted)
    (truthful : server.Truthful) (taken : server.runCameraListener input = some after) :
    after.Counted := by
  -- The cases follow the phases of the listener and the answers each one accepts.
  have cap : maxCameraClients.toNat = 4 := rfl
  have room := counted.capped
  have exact := counted.exact
  unfold runCameraListener at taken
  split at taken <;> rename_i was
  · refine Option.some.inj taken ▸ counted.quiet ?_ ?_
    · split <;> simp [was, CameraListenerPhase.counted]
    · split <;> simp [CameraListenerPhase.hiring]
  · split at taken
    · exact Option.some.inj taken ▸ counted.quiet (by simp [was, CameraListenerPhase.counted])
        (Nat.zero_le _)
    · cases taken
  · exact Option.some.inj taken ▸ counted.quiet (by simp [was, CameraListenerPhase.counted])
      (Nat.zero_le _)
  · -- Before the client is counted, the count is that of the live workers.
    have more := counted.toNat_succ (by simp [was, CameraListenerPhase.counted])
    have before : server.clients.toNat = server.live.card := by
      simpa [was, CameraListenerPhase.counted] using exact
    by_cases full : maxCameraClients ≤ server.clients
    · -- The client is refused, and the count is taken back later.
      rw [if_pos full] at taken
      refine Option.some.inj taken ▸ ⟨more, ?_⟩
      show server.live.card + 0 ≤ maxCameraClients.toNat
      omega
    · -- There is room for one more worker.
      rw [if_neg full] at taken
      rw [UInt64.le_iff_toNat_le, cap, before] at full
      refine Option.some.inj taken ▸ ⟨more, ?_⟩
      show server.live.card + 1 ≤ maxCameraClients.toNat
      omega
  · exact Option.some.inj taken ▸ counted.uncount (by simp [was, CameraListenerPhase.counted])
  · split at taken
    · -- The counted client gets its worker.
      exact Option.some.inj taken ▸ counted.hire truthful was
    · -- Its thread could not be started, and the count is taken back later.
      exact Option.some.inj taken ▸ counted.quiet (by simp [was, CameraListenerPhase.counted])
        (Nat.zero_le _)
  · exact Option.some.inj taken ▸ counted.uncount (by simp [was, CameraListenerPhase.counted])
  · cases taken

/-- Every step keeps the count. -/
theorem Counted.step {before after : CameraServer} {event : CameraEvent}
    (counted : before.Counted) (truthful : before.Truthful)
    (taken : before.step event = some after) : after.Counted := by
  -- Only the listener and the end of a thread change what is counted.
  cases event with
  | publish jpeg => exact Option.some.inj taken ▸ ⟨counted.exact, counted.capped⟩
  | signal => exact Option.some.inj taken ▸ ⟨counted.exact, counted.capped⟩
  | connect =>
    -- A connection that has just been numbered has no worker.
    have same := truthful.live_connect (before.backlog ++ [before.nextConnection])
    refine Option.some.inj taken ▸ ⟨counted.exact.trans ?_, ?_⟩
    · rw [same]
    · rw [same]
      exact counted.capped
  | listener input => exact counted.listen truthful taken
  | worker connection input =>
    cases step_steps taken with
    | @serve _ _ serve effect works served =>
      -- The worker goes on.
      have same := @live_serve { before with
        history := (effect.deed.map (CameraDeed.happening connection)).toList ++ before.history }
        connection serve effect.serve works
      refine ⟨?_, ?_⟩
      · rw [same]
        exact counted.exact
      · rw [same]
        exact counted.capped
    | @leave _ serve works was =>
      -- The worker's thread has counted down, and it is not live any more.
      have member : connection ∈ before.live := truthful.mem_live.mpr ⟨serve, works⟩
      have fewer := Finset.card_erase_add_one member
      have gone := @live_leave { before with clients := before.clients - 1 } connection serve
      have counting : before.clients.toNat =
          ((before.live.erase connection).card + before.listener.counted) + 1 := by
        rw [counted.exact]
        omega
      refine ⟨?_, ?_⟩
      · rw [gone]
        exact Counted.toNat_pred counting
      · rw [gone]
        show (before.live.erase connection).card + before.listener.hiring ≤ maxCameraClients.toNat
        have room := counted.capped
        omega

/-- Whatever the threads do, the count is kept. -/
theorem counted_run {events : List CameraEvent} {server : CameraServer}
    (ran : Machine.run CameraServer.step CameraServer.start events = some server) :
    server.Truthful ∧ server.Counted := by
  -- Both invariants hold at the start, and every step keeps them.
  refine Machine.run_invariant (fun _ => True) (fun server => server.Truthful ∧ server.Counted) ?_
    (fun _ _ => trivial) ⟨truthful_start, counted_start⟩ ran
  intro state event next _ both taken
  exact ⟨both.1.step (step_steps taken), both.2.step both.1 taken⟩

/-- A taken connection gets a worker exactly if fewer than four are live. -/
theorem Counted.admits (counted : server.Counted) (taken : server.listener = .counting connection) :
    ∃ next, server.step (.listener .proceed) = some next ∧
      next.listener = if server.live.card < 4 then .spawning connection else .refusing connection := by
  have exact := counted.exact
  rw [taken] at exact
  -- Nobody else is being counted.
  have before : server.clients.toNat = server.live.card := exact
  have full : maxCameraClients ≤ server.clients ↔ ¬ server.live.card < 4 := by
    rw [UInt64.le_iff_toNat_le, before, show maxCameraClients.toNat = 4 from rfl]
    omega
  have counts : server.step (.listener .proceed) = some { server with
      clients := server.clients + 1
      listener := if maxCameraClients ≤ server.clients then .refusing connection
        else .spawning connection } := by
    simp only [CameraServer.step, runCameraListener, taken]
  refine ⟨_, counts, ?_⟩
  by_cases room : server.live.card < 4
  · rw [if_pos room]
    exact if_neg fun busy => full.mp busy room
  · rw [if_neg room]
    exact if_pos (full.mpr room)

end CameraServer
end Scout
