import Scout.Camera.Slots

/-! Every step changes the number of counted clients exactly as the workers come and go. -/

namespace Scout.CameraServer

open Machine

/-- Whether a step counts a taken connection. -/
def counts (server : CameraServer) (event : CameraEvent) : Bool :=
  match server.listener, event with
  | .counting _, .listener .proceed => true
  | _, _ => false

/-- Whether a step starts a worker. -/
def starts (server : CameraServer) (event : CameraEvent) : Bool :=
  match server.listener, event with
  | .spawning _, .listener (.io true) => true
  | _, _ => false

/-- Whether a step is the last one of a worker, in which it counts down. -/
def exits (server : CameraServer) : CameraEvent → Bool
  | .worker connection .proceed => (server.workers connection).any fun worker =>
    !worker.finished && decide (worker.serve.phase = .returned)
  | _ => false

/-- Whether a step takes back the count of a client, for the listener or at the end of a worker. -/
def uncounts (server : CameraServer) (event : CameraEvent) : Bool :=
  match server.listener, event with
  | .refusing _, .listener .proceed => true
  | .uncounting, .listener .proceed => true
  | _, event => server.exits event

/-- What the count of clients is after a run, and what may happen to it next. -/
structure Accounted (events : List CameraEvent) (server : CameraServer) : Prop where
  /-- The count is that of the live workers and of a connection that is being taken. -/
  exact : server.clients.toNat = server.live.card + server.listener.counted
  /-- The live workers are those that have been started and have not counted down. -/
  running : server.live.card + occurrences CameraServer.step exits CameraServer.start events =
    occurrences CameraServer.step starts CameraServer.start events
  capped : server.live.card ≤ 4
  /-- No step wraps around. -/
  steady : ∀ event next, server.step event = some next →
    next.clients.toNat + (server.uncounts event).toNat =
      server.clients.toNat + (server.counts event).toNat
  /-- A connection is refused exactly if four workers are live when it is counted. -/
  refused : ∀ event next connection, server.step event = some next →
    (server.listener ≠ .refusing connection ∧ next.listener = .refusing connection ↔
      server.listener = .counting connection ∧ event = .listener .proceed ∧ server.live.card = 4)
  /-- Between two points at which no connection is being taken, only workers change the count. -/
  restored : ∀ later finish, run CameraServer.step server later = some finish →
    server.listener.counted = 0 → finish.listener.counted = 0 →
    finish.clients.toNat + occurrences CameraServer.step exits server later =
      server.clients.toNat + occurrences CameraServer.step starts server later

variable {server next : CameraServer} {event : CameraEvent}

/-- A step of the listener is none of a worker. -/
theorem exits_listener {input : ListenerInput} : server.exits (.listener input) = false := rfl

/-- A worker that serves does not count down. -/
theorem exits_serve {connection : Connection} {input : CameraInput} {serve : CameraServe}
    {effect : CameraEffect} (works : server.workers connection = some { serve, finished := false })
    (served : CameraServes server.running server.frame serve input effect) :
    server.exits (.worker connection input) = false := by
  -- No effect of a worker begins where its function has returned.
  have serving : serve.phase ≠ .returned := by
    intro returned
    cases served <;> simp_all
  cases input <;> simp [exits, works, serving]

/-- What one step does to the count, to the live workers and to a connection that is taken. -/
inductive Reckons (server : CameraServer) (event : CameraEvent) (next : CameraServer) : Prop where
  | quiet (clients : next.clients = server.clients) (live : next.live = server.live)
      (listener : ∀ connection, next.listener = .refusing connection →
        server.listener = .refusing connection)
      (counting : server.counts event = false) (uncounting : server.uncounts event = false)
      (starting : server.starts event = false) (exiting : server.exits event = false)
  | count {connection : Connection} (was : server.listener = .counting connection)
      (chosen : event = .listener .proceed) (clients : next.clients = server.clients + 1)
      (live : next.live = server.live)
      (listener : next.listener =
        if maxCameraClients ≤ server.clients then .refusing connection else .spawning connection)
  | uncount (was : server.listener.counted = 1) (clients : next.clients = server.clients - 1)
      (live : next.live = server.live) (listener : next.listener = .testing)
      (counting : server.counts event = false) (uncounting : server.uncounts event = true)
      (starting : server.starts event = false) (exiting : server.exits event = false)
  | hire {connection : Connection} (was : server.listener = .spawning connection)
      (chosen : event = .listener (.io true)) (clients : next.clients = server.clients)
      (live : next.live = insert connection server.live) (absent : connection ∉ server.live)
      (listener : next.listener = .testing)
  | leave {connection : Connection} {input : CameraInput} (chosen : event = .worker connection input)
      (clients : next.clients = server.clients - 1) (member : connection ∈ server.live)
      (live : next.live = server.live.erase connection) (listener : next.listener = server.listener)
      (exiting : server.exits event = true)

/-- Only steps of the listener count connections. -/
theorem counts_other (other : ∀ input, event ≠ .listener input) : server.counts event = false := by
  -- Only the listener counts.
  unfold counts
  split
  · exact absurd rfl (other _)
  · rfl

/-- Only steps of the listener start workers. -/
theorem starts_other (other : ∀ input, event ≠ .listener input) : server.starts event = false := by
  -- Only the listener starts threads.
  unfold starts
  split
  · exact absurd rfl (other _)
  · rfl

/-- Where the listener does not step, only the last step of a worker takes back a count. -/
theorem uncounts_other (other : ∀ input, event ≠ .listener input) :
    server.uncounts event = server.exits event := by
  -- Only the listener can take back what it has counted.
  unfold uncounts
  split
  · exact absurd rfl (other _)
  · exact absurd rfl (other _)
  · rfl

/-- A step that neither the listener nor a worker takes changes nothing that is counted. -/
theorem Reckons.other (other : ∀ input, event ≠ .listener input)
    (clients : next.clients = server.clients) (live : next.live = server.live)
    (listener : next.listener = server.listener) (exiting : server.exits event = false) :
    Reckons server event next :=
  .quiet clients live (fun _ same => listener ▸ same) (counts_other other)
    ((uncounts_other other).trans exiting) (starts_other other) exiting

/-- Every effect of the listener counts, takes back a count, starts a worker, or is quiet. -/
theorem runCameraListener_reckons {input : ListenerInput} (truthful : server.Truthful)
    (taken : server.runCameraListener input = some next) :
    Reckons server (.listener input) next := by
  -- The cases follow the phases of the listener and the answers each one accepts.
  unfold runCameraListener at taken
  split at taken <;> rename_i was
  · cases taken
    refine .quiet rfl rfl ?_ ?_ ?_ ?_ rfl
    · intro connection same
      dsimp only at same
      split at same <;> cases same
    · simp [counts, was]
    · simp [uncounts, was, exits]
    · simp [starts, was]
  · split at taken
    · cases taken
      exact .quiet rfl rfl (fun _ same => by cases same) (by simp [counts, was])
        (by simp [uncounts, was, exits]) (by simp [starts, was]) rfl
    · cases taken
  · cases taken
    exact .quiet rfl rfl (fun _ same => by cases same) (by simp [counts, was])
      (by simp [uncounts, was, exits]) (by simp [starts, was]) rfl
  · cases taken
    exact .count was rfl rfl rfl rfl
  · cases taken
    exact .uncount (by simp [was, CameraListenerPhase.counted]) rfl rfl rfl
      (by simp [counts, was]) (by simp [uncounts, was]) (by simp [starts, was]) rfl
  · split at taken
    · -- The connection has been numbered, and it has had no worker before.
      rename_i connection succeeded good
      have held : server.listener.held = some connection := by
        simp [was, CameraListenerPhase.held]
      obtain ⟨numbered, absent⟩ := truthful.unserved held
      cases taken
      exact .hire was (by rw [good]) rfl (live_hire numbered) absent rfl
    · rename_i connection succeeded bad
      cases taken
      exact .quiet rfl rfl (fun _ same => by cases same) (by simp [counts, was])
        (by simp [uncounts, was, exits]) (by simp [starts, was, bad]) rfl
  · cases taken
    exact .uncount (by simp [was, CameraListenerPhase.counted]) rfl rfl rfl
      (by simp [counts, was]) (by simp [uncounts, was]) (by simp [starts, was]) rfl
  · cases taken

/-- Every step counts, takes back a count, starts or ends a worker, or is quiet. -/
theorem step_reckons (truthful : server.Truthful) (taken : server.step event = some next) :
    Reckons server event next := by
  -- The cases follow the events.
  cases event with
  | publish jpeg => cases taken; exact .other nofun rfl rfl rfl rfl
  | signal => cases taken; exact .other nofun rfl rfl rfl rfl
  | connect =>
    cases taken
    exact .other nofun rfl (truthful.live_connect _) rfl rfl
  | listener input => exact runCameraListener_reckons truthful taken
  | worker connection input =>
    cases step_steps taken with
    | @serve _ _ serve effect works served =>
      exact .other nofun rfl (live_serve works) rfl (exits_serve works served)
    | @leave _ serve works was =>
      exact .leave rfl rfl (truthful.mem_live.mpr ⟨serve, works⟩) live_leave rfl
        (by simp [exits, works, was])

/-- The live workers change as workers are started and count down. -/
theorem Reckons.balance (reckons : Reckons server event next) :
    next.live.card + (server.exits event).toNat = server.live.card + (server.starts event).toNat := by
  -- The cases are those of the reckoning.
  cases reckons with
  | quiet clients live listener counting uncounting starting exiting =>
    rw [live, starting, exiting]
  | count was chosen clients live listener =>
    subst chosen
    rw [live, exits_listener]
    simp [starts, was]
  | uncount was clients live listener counting uncounting starting exiting =>
    rw [live, starting, exiting]
  | hire was chosen clients live absent listener =>
    subst chosen
    rw [live, exits_listener, Finset.card_insert_of_notMem absent]
    simp [starts, was]
  | leave chosen clients member live listener exiting =>
    have quiet : server.starts event = false := starts_other (by simp [chosen])
    rw [live, exiting, quiet]
    exact Finset.card_erase_add_one member

/-- The count changes as connections are counted and their counts are taken back. -/
theorem Reckons.steady (reckons : Reckons server event next) (counted : server.Counted) :
    next.clients.toNat + (server.uncounts event).toNat =
      server.clients.toNat + (server.counts event).toNat := by
  -- What is taken back has been counted, and the cap is far from the largest number.
  cases reckons with
  | quiet clients live listener counting uncounting starting exiting =>
    rw [clients, counting, uncounting]
  | count was chosen clients live listener =>
    subst chosen
    have free : server.listener.counted = 0 := by simp [was, CameraListenerPhase.counted]
    have exact := counted.exact
    rw [clients, counted.toNat_succ free]
    simp [uncounts, counts, was, exits, exact, CameraListenerPhase.counted]
  | uncount was clients live listener counting uncounting starting exiting =>
    have counting_ : server.clients.toNat = server.live.card + 1 := counted.exact.trans (by rw [was])
    rw [clients, Counted.toNat_pred counting_, counting_, counting, uncounting]
    rfl
  | hire was chosen clients live absent listener =>
    subst chosen
    rw [clients]
    simp [uncounts, counts, was, exits]
  | leave chosen clients member live listener exiting =>
    have other : ∀ input, event ≠ .listener input := by simp [chosen]
    have some_ : 0 < server.live.card := Finset.card_pos.mpr ⟨_, member⟩
    have counting : server.clients.toNat = (server.clients.toNat - 1) + 1 := by
      have exact := counted.exact
      omega
    rw [clients, Counted.toNat_pred counting, counts_other other, uncounts_other other, exiting]
    exact counting.symm

/-- A connection is refused exactly if four workers are live when it is counted. -/
theorem Reckons.refused (reckons : Reckons server event next) (counted : server.Counted)
    (connection : Connection) :
    (server.listener ≠ .refusing connection ∧ next.listener = .refusing connection) ↔
      server.listener = .counting connection ∧ event = .listener .proceed ∧
        server.live.card = 4 := by
  -- Only the step that counts a connection may refuse it.
  cases reckons with
  | quiet clients live listener counting uncounting starting exiting =>
    refine iff_of_false (fun both => both.1 (listener connection both.2)) fun all => ?_
    obtain ⟨was, rfl, _⟩ := all
    simp [counts, was] at counting
  | @count taken was chosen clients live listener =>
    have exact := counted.exact
    have room := counted.capped
    have full : maxCameraClients ≤ server.clients ↔ server.live.card = 4 := by
      rw [UInt64.le_iff_toNat_le, exact, was, show maxCameraClients.toNat = 4 from rfl]
      rw [show maxCameraClients.toNat = 4 from rfl] at room
      simp only [CameraListenerPhase.counted]
      omega
    rw [listener, was]
    by_cases busy : maxCameraClients ≤ server.clients
    · simp [busy, full.mp busy, chosen]
    · simp [busy, mt full.mpr busy]
  | uncount was clients live listener counting uncounting starting exiting =>
    refine iff_of_false (fun both => ?_) fun all => ?_
    · rw [listener] at both
      cases both.2
    · rw [all.1] at was
      cases was
  | hire was chosen clients live absent listener =>
    refine iff_of_false (fun both => ?_) fun all => ?_
    · rw [listener] at both
      cases both.2
    · rw [was] at all
      cases all.1
  | leave chosen clients member live listener exiting =>
    refine iff_of_false (fun both => both.1 (listener ▸ both.2)) fun all => ?_
    rw [chosen] at all
    cases all.2.1

/-- In every run the live workers are those that have been started and have not counted down. -/
theorem live_run {events : List CameraEvent} {start finish : CameraServer}
    (holds : start.Truthful ∧ start.Counted)
    (ran : run CameraServer.step start events = some finish) :
    finish.live.card + occurrences CameraServer.step exits start events =
      start.live.card + occurrences CameraServer.step starts start events :=
  -- Each step keeps the balance.
  occurrences_balance (fun _ => True) (fun server => server.Truthful ∧ server.Counted)
    (fun server => server.live.card)
    (fun _ _ _ _ both taken => ⟨both.1.step (step_steps taken), both.2.step both.1 taken⟩)
    (fun _ _ _ _ both taken => (step_reckons both.1 taken).balance) (fun _ _ => trivial) holds ran

/-- However the threads' steps interleave, the camera clients are accounted for exactly. -/
theorem camera_clients_accounted {events : List CameraEvent} {server : CameraServer}
    (ran : run CameraServer.step CameraServer.start events = some server) :
    Accounted events server := by
  have holds := counted_run ran
  have counted := holds.2
  refine ⟨counted.exact, ?_, ?_, ?_, ?_, ?_⟩
  · -- Nobody is live at the start.
    have balance := live_run ⟨truthful_start, counted_start⟩ ran
    have none : CameraServer.start.live.card = 0 := rfl
    rwa [none, Nat.zero_add] at balance
  · exact Nat.le_trans (Nat.le_add_right _ _) counted.capped
  · exact fun event next taken => (step_reckons holds.1 taken).steady counted
  · exact fun event next connection taken => (step_reckons holds.1 taken).refused counted connection
  · intro later finish on before after
    have balance := live_run holds on
    -- At both points the count is that of the live workers.
    have whole : run CameraServer.step CameraServer.start (events ++ later) = some finish :=
      run_append.mpr ⟨server, ran, on⟩
    have first := counted.exact
    have last := (counted_run whole).2.exact
    omega

/-- A client whose worker cannot be started. -/
def unluckyClient : List CameraEvent :=
  [.connect, .listener .proceed, .listener .accepted, .listener .proceed, .listener (.io false),
    .listener .proceed]

/-- A worker that cannot be started leaves nobody counted. -/
theorem camera_clients_accounted_unlucky : ∃ server,
    run CameraServer.step CameraServer.start unluckyClient = some server ∧ server.clients = 0 ∧
      Accounted unluckyClient server := by
  -- The run is evaluated.
  have played : (run CameraServer.step CameraServer.start unluckyClient).any
      (fun server => server.clients = 0) = true := by
    decide
  obtain ⟨server, ran, none⟩ := (Option.any_eq_true _ _).mp played
  exact ⟨server, ran, of_decide_eq_true none, camera_clients_accounted ran⟩

end Scout.CameraServer
