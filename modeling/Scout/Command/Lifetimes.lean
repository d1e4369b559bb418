import Scout.Command.MotionCommands

/-! However a command ends, it has given back what it took, and has stopped the robot before. -/

namespace Scout.Command

open Machine Dialogue Wifi

/-- ROS is initialised, and nothing else is held. -/
def Custody.online : Custody := ⟨[.session], false, false⟩

section Session

variable (system : System) (config : Ros1Config)

/-- Finding the local address leads nowhere. -/
theorem leads_routeLocalAddress {custody : Custody} (destination : SocketAddr) :
    Leads custody (routeLocalAddress system destination) (fun _ => (· = custody))
      fun _ => (· = custody) := by
  -- The system's choice may be of no use.
  have routed : Leads custody (localAddr (if destination.isIpv4 then IpAddr.v4 0 else IpAddr.v6 0)
      destination) (fun _ => (· = custody)) fun _ => (· = custody) := by
    refine tracks_ask fun place same _ answer event result answered => ?_
    cases answer with
    | routed chosen =>
      cases answered
      exact ⟨place, rfl, by cases result <;> exact same⟩
    | _ => cases answered
  refine leads_bind (Tracks.mapError routed fun _ _ same => same) fun ip => ?_
  split
  · exact tracks_fail fun _ same => same
  · exact tracks_pure fun _ same => same

/-- Settling the address that the robot is told leads nowhere. -/
theorem leads_advertisedAddress {custody : Custody} (masterAddress : SocketAddr) :
    Leads custody (advertisedAddress system config masterAddress) (fun _ => (· = custody))
      fun _ => (· = custody) := by
  -- A given address is only read.
  unfold advertisedAddress
  split
  · split
    · exact tracks_pure fun _ same => same
    · exact tracks_fail fun _ same => same
  · exact leads_routeLocalAddress system masterAddress

/-- Starting ROS takes a session, or nothing. -/
theorem leads_init (captureSigint : Bool) (maximumMessageBytes : Nat) :
    Leads .idle (init system config captureSigint maximumMessageBytes)
      (fun _ => (· = .online)) fun _ => (· = .idle) := by
  -- Only the last call takes something.
  refine leads_bind (leads_note fun _ => rfl) fun _ => ?_
  refine leads_bind (Tracks.mapError leads_network fun _ _ same => same) fun master => ?_
  refine leads_bind (leads_advertisedAddress system config master) fun advertised => ?_
  refine leads_bind (Tracks.mapError (leads_askDone fun _ _ => rfl) fun _ _ same => same) fun _ => ?_
  refine leads_bind (leads_note fun _ => rfl) fun _ => ?_
  refine leads_bind (leads_note fun _ => rfl) fun _ => ?_
  refine leads_bind (leads_note fun _ => rfl) fun _ => ?_
  refine leads_bind (leads_call rfl fun _ => rfl) fun _ => ?_
  exact tracks_pure fun _ same => same

/-- Shutting ROS down gives the session back. -/
theorem leads_rosShutdown : Leads .online rosShutdown (fun _ => (· = .idle)) fun _ _ => False :=
  leads_bind (leads_giveBack rfl) fun _ => leads_sleep

/-- A command that runs in a session leaves nothing behind. -/
theorem leads_inSession {program : CommandM String Unit}
    (leads : Leads .online program (fun _ => (· = .online)) fun _ => (· = .online)) :
    Leads .online (program.ensuring rosShutdown) (fun _ => (· = .idle)) fun _ => (· = .idle) :=
  leads_ensuring leads leads_rosShutdown

end Session

/-- Giving the publisher back needs a robot that stands still. -/
theorem leads_unpublish (held : List Holding) :
    Leads ⟨.publisher cmdVel :: held, true, false⟩ (giveBack (.publisher cmdVel))
      (fun _ => (· = ⟨held, false, false⟩)) (fun (_ : Empty) _ => False) :=
  leads_giveBack (by simp [Custody.release, Custody.without])

/-- A step whose input is known leads nowhere by itself. -/
theorem MotorLoop.leads_advance {ε : Type} (loop : MotorLoop) {custody : Custody}
    {state : loop.State} {input : loop.Input} {Failed : ε → Custody → Prop} :
    Leads custody (loop.advance state input : CommandM ε loop.State)
      (fun next place => place = custody ∧ loop.step state input = some next) Failed := by
  -- There is such a step, or there is nothing more.
  unfold advance
  split
  · rename_i next taken
    exact tracks_pure fun _ same => ⟨same, taken⟩
  · exact fun place same => leaves_wait ⟨place, rfl, trivial⟩

/-- A loop that ends in a stop, driven to its end, leaves the robot standing still. -/
theorem MotorLoop.leads_toStop {ε : Type} (loop : MotorLoop) {finished : loop.State → Bool}
    {held : List Holding} (published : .publisher cmdVel ∈ held) {state : loop.State}
    (reached : loop.Reached state) {moving : Bool} (now : movingAfter (loop.sent state) = moving)
    (stops : ∀ next, loop.Reached next → finished next = true → EndsInStop (loop.sent next))
    {Failed : ε → Custody → Prop} :
    Leads ⟨held, true, moving⟩ (loop.drive finished state : CommandM ε _)
      (fun next place => place = ⟨held, true, false⟩ ∧ loop.Reached next ∧ finished next = true)
      Failed := by
  -- The last command that has been handed over is the stop.
  subst now
  refine Tracks.mono (loop.leads_drive published reached) (fun _ same => same) ?_
    fun _ _ settled => settled
  rintro next place ⟨⟨rfl, ran⟩, finished⟩
  rw [movingAfter_of_endsInStop (stops next ran finished)]
  exact ⟨rfl, ran, finished⟩

section Velocity

variable {system : System} {config : Ros1Config} {request : MotionRequest}

/-- Sending a velocity has ended in a stop once it returns. -/
theorem velocityLoop_stops {loop : SendVelocity} (reached : (velocityLoop request).Reached loop)
    (returned : loop.phase.outcome.isSome = true) : EndsInStop (sentTwists loop.history) := by
  -- Its invariant says so.
  obtain ⟨inputs, ran⟩ := reached
  refine (SendVelocity.orderly_run ran).governed.stopped ?_
  cases was : loop.phase with
  | returned result => trivial
  | _ =>
    rw [was] at returned
    cases returned

/-- Sending a velocity gives everything back. -/
theorem leads_sendVelocity :
    Leads .idle (sendVelocity system config request) (fun _ => (· = .idle)) fun _ => (· = .idle) := by
  -- A request that is refused takes nothing.
  have checked : Leads .idle (ofExcept request.command)
      (fun command place => place = .idle ∧ request.command = .ok command) fun _ => (· = .idle) :=
    tracks_ofExcept (fun _ _ ok same => ⟨same, ok⟩) fun _ _ _ same => same
  refine leads_known checked fun command accepted => ?_
  refine leads_bind (leads_init system config _ _) fun connection => leads_inSession ?_
  refine leads_bind (leads_askDone fun _ _ => rfl) fun _ => ?_
  refine leads_bind (leads_connectAttempts connection (by simp) (by simp) _) fun _ => ?_
  refine leads_ensuring ?_ (leads_unpublish _)
  -- The loop begins where the arguments have been checked and everything is set up.
  have reached : (velocityLoop request).Reached (SendVelocity.start.goto (.starting command)) :=
    ⟨[.main .proceed, .main (.outcome (.ok ()))], by
      simp [velocityLoop, run, SendVelocity.step, SendVelocity.sendVelocity, SendVelocity.start,
        SendVelocity.goto, accepted]⟩
  refine leads_known ((velocityLoop request).leads_toStop List.mem_cons_self reached rfl
    fun loop ran returned => velocityLoop_stops ran returned) fun loop _ => ?_
  exact leads_bind leads_sleep fun _ =>
    tracks_ofExcept (fun _ _ _ same => same) fun _ _ _ same => same

end Velocity

section Terminal

variable {ε : Type} {held : List Holding}

/-- What is held while the terminal is in raw mode. -/
def terminalHeld (keyboardEnhancements : Bool) (held : List Holding) : List Holding :=
  if keyboardEnhancements then .keyboardFlags :: .rawMode :: held else .rawMode :: held

/-- Entering raw mode takes it, and the keyboard where that can be switched, or nothing. -/
theorem leads_enterRawTerminal {heard moving : Bool} (fresh : .rawMode ∉ held)
    (plain : .keyboardFlags ∉ held) :
    Leads ⟨held, heard, moving⟩ enterRawTerminal
      (fun keyboardEnhancements => (· = ⟨terminalHeld keyboardEnhancements held, heard, moving⟩))
      fun _ => (· = ⟨held, heard, moving⟩) := by
  -- Where the keyboard cannot be switched, raw mode is left again.
  have entered : Custody.keep ⟨held, heard, moving⟩ .rawMode =
      some ⟨.rawMode :: held, heard, moving⟩ := by
    simp [Custody.keep, Holding.registered, fresh]
  have pushed : Custody.keep ⟨.rawMode :: held, heard, moving⟩ .keyboardFlags =
      some ⟨.keyboardFlags :: .rawMode :: held, heard, moving⟩ := by
    simp [Custody.keep, Holding.registered, plain]
  have left : Custody.release ⟨.rawMode :: held, heard, moving⟩ .rawMode =
      some ⟨held, heard, moving⟩ := by
    simp [Custody.release, Custody.without, plain]
  refine leads_bind (leads_take entered) fun _ => ?_
  refine leads_bind (leads_askFlag fun _ _ => rfl) fun keyboardEnhancements => ?_
  cases keyboardEnhancements with
  | false => exact tracks_pure fun _ same => same
  | true =>
    exact leads_bind (Tracks.onFailure (leads_take pushed) fun _ => leads_giveBack left)
      fun _ => tracks_pure fun _ same => same

/-- Leaving raw mode gives everything about the terminal back. -/
theorem leads_dropRawTerminal {heard moving : Bool} (plain : .keyboardFlags ∉ held)
    (keyboardEnhancements : Bool) :
    Leads ⟨terminalHeld keyboardEnhancements held, heard, moving⟩
      (dropRawTerminal keyboardEnhancements) (fun _ => (· = ⟨held, heard, moving⟩))
      fun _ _ => False := by
  -- The keyboard comes first.
  have popped : Custody.release ⟨.keyboardFlags :: .rawMode :: held, heard, moving⟩ .keyboardFlags =
      some ⟨.rawMode :: held, heard, moving⟩ := by
    simp [Custody.release, Custody.without]
  have left : Custody.release ⟨.rawMode :: held, heard, moving⟩ .rawMode =
      some ⟨held, heard, moving⟩ := by
    simp [Custody.release, Custody.without, plain]
  cases keyboardEnhancements with
  | false => exact leads_giveBack left
  | true => exact leads_bind (leads_giveBack popped) fun _ => leads_giveBack left

end Terminal

section Teleop

variable {system : System} {windows : Bool} {config : Ros1Config} {args : TeleopArgs}
  {held : List Holding}

/-- Entering the terminal hands over nothing, so that the robot does not move. -/
theorem movingAfter_entering {result : Except String Bool} {loop : (teleopLoop args).State}
    (taken : (teleopLoop args).step (Teleop.start.goto .entering) (.main (.terminal result)) =
      some loop) : movingAfter ((teleopLoop args).sent loop) = false := by
  -- Only the phase and the keys change.
  cases result <;> cases taken <;> rfl

/-- Teleoperation can come to enter the terminal if its arguments are accepted. -/
theorem reached_entering (accepted : args.validate = .ok ()) :
    (teleopLoop args).Reached (Teleop.start.goto .entering) :=
  ⟨[.main (.loop .proceed), .main (.loop (.outcome (.ok ())))], by
    simp [teleopLoop, run, Teleop.step, Teleop.teleop, Teleop.start, Teleop.goto, accepted]⟩

/-- A session at the keyboard leaves the terminal as it was. -/
theorem leads_runTeleopSession (accepted : args.validate = .ok ())
    (published : .publisher cmdVel ∈ held) (fresh : .rawMode ∉ held)
    (plain : .keyboardFlags ∉ held) {ε : Type} {Failed : ε → Custody → Prop} :
    Leads ⟨held, true, false⟩ (runTeleopSession windows args)
      (fun loop place => (teleopLoop args).Stands held loop place) Failed := by
  -- The loop stands at its beginning, where the terminal is entered.
  have entering := reached_entering accepted
  refine Tracks.bind (Tracks.attempt (leads_enterRawTerminal fresh plain)) fun terminal => ?_
  cases terminal with
  | error error =>
    refine Tracks.mono (MotorLoop.leads_advance (teleopLoop args)) (fun _ same => same) ?_
      fun _ _ settled => settled
    rintro loop place ⟨rfl, taken⟩
    exact ⟨by rw [movingAfter_entering taken], entering.step taken⟩
  | ok keyboardEnhancements =>
    -- The robot may move while the terminal is in raw mode.
    have inside : Leads ⟨terminalHeld keyboardEnhancements held, true, false⟩
        ((teleopLoop args).advance (Teleop.start.goto .entering)
            (.main (.terminal (.ok (windows || keyboardEnhancements)))) >>=
          (teleopLoop args).drive fun loop => loop.phase.isStopping)
        (fun loop => (teleopLoop args).Stands (terminalHeld keyboardEnhancements held) loop)
        (fun (_ : ε) _ => False) := by
      have member : .publisher cmdVel ∈ terminalHeld keyboardEnhancements held := by
        cases keyboardEnhancements <;> simp [terminalHeld, published]
      refine leads_known (MotorLoop.leads_advance (teleopLoop args)) fun loop taken => ?_
      refine Tracks.mono ((teleopLoop args).leads_drive member (entering.step taken))
        (fun _ same => ?_) (fun _ _ settled => settled.1) fun _ _ settled => settled
      rw [movingAfter_entering taken]
      exact same
    refine Tracks.ensuring inside fun result => ?_
    cases result with
    | error error => exact fun _ impossible => impossible.elim
    | ok loop =>
      rintro place ⟨rfl, reached⟩
      exact Tracks.mono (leads_dropRawTerminal plain keyboardEnhancements)
        (fun _ same => same) (fun _ _ same => ⟨same, reached⟩) (fun _ _ settled => settled) _ rfl

/-- Teleoperation has ended in a stop once it returns. -/
theorem teleopLoop_stops {loop : Teleop} (reached : (teleopLoop args).Reached loop)
    (returned : loop.phase.outcome.isSome = true) : EndsInStop loop.sent := by
  -- Its invariant says so.
  obtain ⟨inputs, ran⟩ := reached
  refine (Teleop.orderly_run ran).governed.stopped ?_
  cases was : loop.phase with
  | returned result => trivial
  | _ =>
    rw [was] at returned
    cases returned

/-- Teleoperation gives everything back. -/
theorem leads_teleop {cameraTopic : String} :
    Leads .idle (teleop system windows config args cameraTopic) (fun _ => (· = .idle))
      fun _ => (· = .idle) := by
  -- Arguments that are refused take nothing.
  have checked : Leads .idle (ofExcept args.validate)
      (fun _ place => place = .idle ∧ args.validate = .ok ()) fun _ => (· = .idle) :=
    tracks_ofExcept (fun _ _ ok same => ⟨same, ok⟩) fun _ _ _ same => same
  refine leads_known checked fun _ accepted => ?_
  refine leads_bind (leads_askDone fun _ _ => rfl) fun _ => ?_
  refine leads_bind (leads_init system config _ _) fun connection => leads_inSession ?_
  refine leads_bind (leads_askDone fun _ _ => rfl) fun _ => ?_
  -- Without a motor controller the camera is given back at once.
  have watched : Custody.online.keep (.subscriber cameraTopic) =
      some ⟨[.subscriber cameraTopic, .session], false, false⟩ := by
    simp [Custody.keep, Custody.online]
  have unwatched : Custody.release ⟨[.subscriber cameraTopic, .session], false, false⟩
      (.subscriber cameraTopic) = some .online := by
    simp [Custody.release, Custody.without, Custody.online]
  refine leads_bind (leads_take watched) fun _ => ?_
  refine leads_bind (Tracks.onFailure (leads_connectAttempts connection (by simp) (by simp) _)
    fun _ => leads_giveBack unwatched) fun _ => ?_
  refine leads_ensuring ?_ (leads_unpublish _)
  refine leads_known (leads_runTeleopSession accepted List.mem_cons_self (by simp) (by simp))
    fun session reached => ?_
  refine leads_known ((teleopLoop args).leads_toStop List.mem_cons_self reached rfl
    fun loop ran returned => teleopLoop_stops ran returned) fun loop _ => ?_
  refine leads_bind leads_sleep fun _ => leads_bind (leads_giveBack ?_) fun _ =>
    tracks_ofExcept (fun _ _ _ same => same) fun _ _ _ same => same
  simp [Custody.release, Custody.without]

end Teleop

section Bridge

variable {system : System} {config : Ros1Config} {command : BridgeCommand} {held : List Holding}

/-- Besides what is held, some of the bridge's threads may be left that nobody waits for. -/
def Abandoned (held : List Holding) (heard : Bool) (place : Custody) : Prop :=
  ∃ names, names <:+ [cameraThread, controlThread] ∧
    place = ⟨names.map .thread ++ held, heard, false⟩

/-- What is no thread is found behind all threads. -/
theorem erase_behind_threads {holding : Holding} (other : ∀ name, holding ≠ .thread name)
    (names : List String) (held : List Holding) :
    (names.map Holding.thread ++ holding :: held).erase holding =
      names.map Holding.thread ++ held := by
  -- The threads are passed by.
  have absent : holding ∉ names.map Holding.thread := by
    intro member
    obtain ⟨name, _, same⟩ := List.mem_map.mp member
    exact other name same.symm
  rw [List.erase_append_right _ absent, List.erase_cons_head]

/-- The publisher may be given back while threads are left. -/
theorem release_publisher (names : List String) (held : List Holding) :
    Custody.release ⟨names.map .thread ++ .publisher cmdVel :: held, true, false⟩
      (.publisher cmdVel) = some ⟨names.map .thread ++ held, false, false⟩ := by
  -- It is not one of the threads.
  simp [Custody.release, Custody.without, erase_behind_threads]

/-- The session may be given back while threads are left. -/
theorem release_session (names : List String) :
    Custody.release ⟨names.map .thread ++ [.session], false, false⟩ .session =
      some ⟨names.map .thread ++ [], false, false⟩ := by
  -- Threads are not registered with the master.
  simp [Custody.release, Custody.without, Holding.registered, erase_behind_threads]

/-- A cleanup runs where a program has returned, and also where it has left threads. -/
theorem leads_ensuring_abandoned {custody : Custody} {before after : List Holding}
    {heard later : Bool} {program : CommandM String Unit} {cleanup : CommandM Empty Unit}
    (leads : Leads custody program (fun _ => (· = ⟨before, heard, false⟩))
      fun _ => Abandoned before heard)
    (cleaned : ∀ names : List String, Leads ⟨names.map .thread ++ before, heard, false⟩ cleanup
      (fun _ => (· = ⟨names.map .thread ++ after, later, false⟩)) fun _ _ => False) :
    Leads custody (program.ensuring cleanup) (fun _ => (· = ⟨after, later, false⟩))
      fun _ => Abandoned after later := by
  -- The threads stay the same, if there are any.
  refine Tracks.ensuring leads fun result => ?_
  cases result with
  | ok _ => exact cleaned []
  | error error =>
    rintro place ⟨names, suffix, rfl⟩
    exact Tracks.mono (cleaned names) (fun _ same => same)
      (fun _ _ same => ⟨names, suffix, same⟩) (fun _ _ settled => settled) _ rfl

/-- Where nothing is left behind, no thread is. -/
theorem leads_leaving {α : Type} {custody : Custody} {heard : Bool} {program : CommandM String α}
    {Returned : α → Custody → Prop}
    (leads : Leads custody program Returned fun _ => (· = ⟨held, heard, false⟩)) :
    Leads custody program Returned fun _ => Abandoned held heard :=
  leads.mono (fun _ same => same) (fun _ _ settled => settled) fun _ _ same =>
    ⟨[], List.nil_suffix, same⟩

/-- Starting the bridge takes both threads, or fails with what has been started left. -/
theorem leads_startBridge {control camera : SocketAddr} (fresh : ∀ purpose, .listener purpose ∉ held)
    (threadless : ∀ name, .thread name ∉ held) :
    Leads ⟨held, true, false⟩ (startBridge control camera)
      (fun _ => (· = ⟨.thread cameraThread :: .thread controlThread :: held, true, false⟩))
      fun _ => Abandoned held true := by
  -- Both addresses have been checked before anything is bound.
  unfold startBridge
  split
  · exact leads_leaving (tracks_fail fun _ same => same)
  split
  · exact leads_leaving (tracks_fail fun _ same => same)
  rename_i loopback _
  obtain ⟨controlLocal, cameraLocal⟩ : control.ip.isLoopback = true ∧
      camera.ip.isLoopback = true := by simpa using loopback
  -- What has been bound is closed again where the next step fails.
  have first : Leads ⟨held, true, false⟩ (askDone (.bound "control" control))
      (fun _ => (· = ⟨.listener "control" :: held, true, false⟩))
      fun _ => (· = ⟨held, true, false⟩) :=
    leads_call (by simp [Custody.rule, controlLocal, Custody.keep, Holding.registered, fresh])
      fun _ => by simp [Custody.rule, controlLocal]
  have second : Leads ⟨.listener "control" :: held, true, false⟩
      (askDone (.bound "camera" camera))
      (fun _ => (· = ⟨.listener "camera" :: .listener "control" :: held, true, false⟩))
      fun _ => (· = ⟨.listener "control" :: held, true, false⟩) :=
    leads_call (by simp [Custody.rule, cameraLocal, Custody.keep, Holding.registered, fresh])
      fun _ => by simp [Custody.rule, cameraLocal]
  have controlClosed : Custody.release ⟨.listener "control" :: held, true, false⟩
      (.listener "control") = some ⟨held, true, false⟩ := by
    simp [Custody.release, Custody.without]
  have cameraClosed (others : List Holding) :
      Custody.release ⟨.listener "camera" :: others, true, false⟩ (.listener "camera") =
        some ⟨others, true, false⟩ := by
    simp [Custody.release, Custody.without]
  -- A thread that is not started drops the listener that it would have got.
  have third : Leads ⟨.listener "camera" :: .listener "control" :: held, true, false⟩
      (askDone (.spawned controlThread "control"))
      (fun _ => (· = ⟨.thread controlThread :: .listener "camera" :: held, true, false⟩))
      fun _ => (· = ⟨.listener "camera" :: held, true, false⟩) :=
    leads_call
      (by simp [Custody.rule, Custody.release, Custody.without, Custody.keep, Holding.registered,
        threadless])
      fun _ => by simp [Custody.rule, Custody.release, Custody.without]
  have apart : cameraThread ≠ controlThread := by decide
  have fourth : Leads ⟨.thread controlThread :: .listener "camera" :: held, true, false⟩
      (askDone (.spawned cameraThread "camera"))
      (fun _ => (· = ⟨.thread cameraThread :: .thread controlThread :: held, true, false⟩))
      fun _ => (· = ⟨.thread controlThread :: held, true, false⟩) :=
    leads_call
      (by simp [Custody.rule, Custody.release, Custody.without, Custody.keep, Holding.registered,
        threadless, apart])
      fun _ => by simp [Custody.rule, Custody.release, Custody.without]
  refine leads_bind (leads_leaving first) fun _ => ?_
  refine leads_bind (leads_leaving (Tracks.onFailure second fun _ =>
    leads_giveBack controlClosed)) fun _ => ?_
  have asked : Leads ⟨.listener "camera" :: .listener "control" :: held, true, false⟩ call
      (fun _ => (· = ⟨.listener "camera" :: .listener "control" :: held, true, false⟩))
      fun _ => (· = ⟨.listener "camera" :: .listener "control" :: held, true, false⟩) :=
    leads_askDone fun _ _ => rfl
  refine leads_bind (leads_leaving (Tracks.onFailure
    (leads_bind asked fun _ => leads_bind asked fun _ => leads_bind asked fun _ => asked)
    fun _ => leads_bind (leads_giveBack (cameraClosed _)) fun _ =>
      leads_giveBack controlClosed)) fun _ => ?_
  refine leads_bind (leads_leaving (Tracks.onFailure third fun _ =>
    leads_giveBack (cameraClosed _))) fun _ => ?_
  -- Without the second thread the first one goes on.
  exact fourth.mono (fun _ same => same) (fun _ _ same => same) fun _ _ same =>
    ⟨[controlThread], List.suffix_cons _ _, same⟩

/-- The bridge has ended in a stop once it is shut down. -/
theorem publishLoop_stops {loop : PublishLoop}
    (reached : (publishLoop command.args command.parse).Reached loop)
    (final : loop.phase.isFinal = true) : EndsInStop loop.sent := by
  -- Its invariant says so.
  obtain ⟨inputs, ran⟩ := reached
  refine (PublishLoop.orderly_run ran).governed.stopped ?_
  cases was : loop.phase with
  | closing result => trivial
  | returned result => trivial
  | _ =>
    rw [was] at final
    cases final

/-- A bridge whose function has returned is final. -/
theorem isFinal_of_outcome {phase : PublishPhase} (returned : phase.outcome.isSome = true) :
    phase.isFinal = true := by
  cases phase <;> first | rfl | cases returned

/-- Launching the bridge's loop hands over nothing. -/
theorem sent_launched {launched : Instant} {loop next : PublishLoop}
    (first : (PublishLoop.start.goto .launching).step command.args command.parse
      (.main (.clock launched)) = some loop)
    (second : loop.step command.args command.parse (.main (.outcome (.ok ()))) = some next) :
    next.sent = [] := by
  -- Neither step sends anything.
  cases first
  obtain ⟨period, _, rfl⟩ := Option.map_eq_some_iff.mp second
  rfl

/-- The bridge's loop can come to be launched if the arguments are accepted. -/
theorem reached_launching (accepted : command.args.validate = .ok ()) :
    (publishLoop command.args command.parse).Reached (PublishLoop.start.goto .launching) :=
  -- The arguments are accepted, and the preparation succeeds.
  ⟨[.main .proceed, .main (.outcome (.ok ()))], by
    simp [publishLoop, run, PublishLoop.step, PublishLoop.integrationBridge,
      PublishLoop.tryOutcome, PublishLoop.start, PublishLoop.goto, accepted]⟩

/-- The bridge gives everything back, except for threads where it fails. -/
theorem leads_integrationBridge {launched : Instant} :
    Leads .idle (integrationBridge system config command launched) (fun _ => (· = .idle))
      fun _ => Abandoned [] false := by
  -- Arguments that are refused take nothing.
  have checked : Leads .idle (ofExcept command.args.validate)
      (fun _ place => place = .idle ∧ command.args.validate = .ok ()) fun _ => (· = .idle) :=
    tracks_ofExcept (fun _ _ ok same => ⟨same, ok⟩) fun _ _ _ same => same
  refine leads_known (leads_leaving checked) fun _ accepted => ?_
  refine leads_bind (leads_leaving (leads_init system config _ _)) fun connection => ?_
  refine leads_ensuring_abandoned ?_ fun names =>
    leads_bind (leads_giveBack (release_session names)) fun _ => leads_sleep
  refine leads_bind (leads_leaving (leads_askDone fun _ _ => rfl)) fun _ => ?_
  refine leads_bind (leads_leaving (leads_connectAttempts connection (by simp) (by simp) _))
    fun _ => ?_
  refine leads_ensuring_abandoned ?_ fun names => leads_giveBack (release_publisher names _)
  refine leads_bind (leads_startBridge (by simp) (by simp)) fun _ => ?_
  refine leads_known (MotorLoop.leads_advance (publishLoop command.args command.parse))
    fun loop first => ?_
  -- If the camera cannot be watched, both threads are left.
  have watched : Leads ⟨[.thread cameraThread, .thread controlThread, .publisher cmdVel, .session],
      true, false⟩ (take (.subscriber command.cameraTopic))
      (fun _ => (· = ⟨[.subscriber command.cameraTopic, .thread cameraThread,
        .thread controlThread, .publisher cmdVel, .session], true, false⟩))
      fun _ => Abandoned [.publisher cmdVel, .session] true :=
    (leads_take (by simp [Custody.keep])).mono (fun _ same => same) (fun _ _ same => same)
      fun _ _ same => ⟨_, List.suffix_refl _, same⟩
  refine leads_bind watched fun _ => ?_
  refine leads_known (MotorLoop.leads_advance (publishLoop command.args command.parse))
    fun started second => ?_
  have reached := ((reached_launching accepted).step first).step second
  have still : movingAfter ((publishLoop command.args command.parse).sent started) = false := by
    rw [show (publishLoop command.args command.parse).sent started = [] from
      sent_launched first second]
    rfl
  refine leads_known ((publishLoop command.args command.parse).leads_toStop (by simp) reached still
    fun loop ran final => publishLoop_stops ran final) fun loop ran => ?_
  have unwatched : Custody.release ⟨[.subscriber command.cameraTopic, .thread cameraThread,
      .thread controlThread, .publisher cmdVel, .session], true, false⟩
      (.subscriber command.cameraTopic) = some ⟨[.thread cameraThread, .thread controlThread,
        .publisher cmdVel, .session], true, false⟩ := by
    simp [Custody.release, Custody.without]
  split
  · refine leads_bind (leads_giveBack unwatched) fun _ => tracks_fail fun _ same => ?_
    exact ⟨_, List.suffix_refl _, same⟩
  refine leads_bind leads_sleep fun _ => leads_bind (leads_giveBack unwatched) fun _ => ?_
  refine leads_known ((publishLoop command.args command.parse).leads_toStop (by simp) ran.1
    (movingAfter_of_endsInStop (publishLoop_stops ran.1 ran.2))
    fun loop reached returned => publishLoop_stops reached (isFinal_of_outcome returned))
    fun loop _ => ?_
  -- The threads have been waited for.
  have joined : Custody.release ⟨[.thread cameraThread, .thread controlThread,
      .publisher cmdVel, .session], true, false⟩ (.thread controlThread) =
        some ⟨[.thread cameraThread, .publisher cmdVel, .session], true, false⟩ := by
    simp [Custody.release, Custody.without, cameraThread, controlThread]
  have freed : Custody.release ⟨[.thread cameraThread, .publisher cmdVel, .session], true, false⟩
      (.thread cameraThread) = some ⟨[.publisher cmdVel, .session], true, false⟩ := by
    simp [Custody.release, Custody.without]
  refine leads_bind (leads_giveBack joined) fun _ => leads_bind (leads_giveBack freed) fun _ => ?_
  exact leads_leaving (tracks_ofExcept (fun _ _ _ same => same) fun _ _ _ same => same)

end Bridge

/-- However a command that moves the robot is answered, it keeps to the rule of custody, and in
the end nothing is held any more; only a bridge that fails may leave threads of its own. -/
theorem motion_commands_keep_custody (system : System) (windows : Bool) (config : Ros1Config) :
    (∀ forward lateral yaw durationMs rateHz,
      Leads .idle (drive system config forward lateral yaw durationMs rateHz) (fun _ => (· = .idle))
        fun _ => (· = .idle)) ∧
    (∀ vx vy vtheta seconds rateHz,
      Leads .idle (moveVelocity system config vx vy vtheta seconds rateHz) (fun _ => (· = .idle))
        fun _ => (· = .idle)) ∧
    (∀ args cameraTopic,
      Leads .idle (teleop system windows config args cameraTopic) (fun _ => (· = .idle))
        fun _ => (· = .idle)) ∧
    ∀ command launched,
      Leads .idle (integrationBridge system config command launched) (fun _ => (· = .idle))
        fun _ => Abandoned [] false := by
  -- Drive and move differ only in their requests.
  refine ⟨fun _ _ _ _ _ => leads_sendVelocity, fun vx vy vtheta seconds rateHz => ?_,
    fun _ _ => leads_teleop, fun _ _ => leads_integrationBridge⟩
  unfold moveVelocity
  split
  · exact leads_sendVelocity
  · exact tracks_fail fun _ same => same
  · exact fun place same => leaves_wait ⟨place, rfl, trivial⟩

end Scout.Command
