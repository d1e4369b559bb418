import Scout.Command.Lifetimes
import Scout.Teleop.Periods

/-! A command that moves the robot does what its loop does, whatever else it takes and gives. -/

namespace Scout.Command

open Machine Dialogue Wifi

/-- The command for the robot that an event hands over. -/
def CommandEvent.twist : CommandEvent → Option (ScoutTwist F64)
  | .looped _ twist => twist
  | _ => none

/-- An event that hands over nothing. -/
def CommandEvent.Quiet (event : CommandEvent) : Prop := event.twist = none

section Quiet

variable {ε α : Type}

/-- An event that hands over nothing, by itself. -/
theorem quiet_note {event : CommandEvent} (quiet : event.Quiet) :
    Emits CommandEvent.Quiet (note event : CommandM ε Unit) :=
  emits_note quiet

/-- A call hands over nothing. -/
theorem quiet_askDone {event : Outcome → CommandEvent} (quiet : ∀ result, (event result).Quiet) :
    Emits CommandEvent.Quiet (askDone event) :=
  answered_askDone (List.forall_mem_nil _) fun result => List.forall_mem_singleton.mpr (quiet result)

/-- A question that is answered with yes or no hands over nothing. -/
theorem quiet_askFlag {event : Bool → CommandEvent} (quiet : ∀ value, (event value).Quiet) :
    Emits CommandEvent.Quiet (askFlag event : CommandM ε Bool) :=
  answered_askFlag (List.forall_mem_nil _) fun value => List.forall_mem_singleton.mpr (quiet value)

/-- Reading the clock hands over nothing. -/
theorem quiet_instantNow : Emits CommandEvent.Quiet (instantNow : CommandM ε Instant) :=
  answered_instantNow (List.forall_mem_nil _) fun _ => List.forall_mem_singleton.mpr rfl

/-- Finding the local address hands over nothing. -/
theorem quiet_localAddr (bindAddress : IpAddr) (destination : SocketAddr) :
    Emits CommandEvent.Quiet (localAddr bindAddress destination) := by
  -- Only one kind of answer fits.
  refine leaves_answered (List.forall_mem_nil _) fun _ answer event result answered => ?_
  cases answer <;> cases answered
  exact List.forall_mem_singleton.mpr rfl

/-- What happens on the network hands over nothing. -/
theorem quiet_network {program : NetworkM ε α} : Emits CommandEvent.Quiet (network program) := by
  refine emits_embed _ _ fun _ => ?_
  rfl

/-- Starting ROS hands over nothing. -/
theorem quiet_init (system : System) (config : Ros1Config) (captureSigint : Bool)
    (maximumMessageBytes : Nat) :
    Emits CommandEvent.Quiet (init system config captureSigint maximumMessageBytes) := by
  -- Neither does the choice of an address.
  have advertised (master : SocketAddr) :
      Emits CommandEvent.Quiet (advertisedAddress system config master) := by
    unfold advertisedAddress
    split
    · split
      · exact emits_pure
      · exact emits_fail
    · refine ((quiet_localAddr _ _).mapError _).bind fun ip => ?_
      split
      · exact emits_fail
      · exact emits_pure
  refine Emits.bind (quiet_note rfl) fun _ => ?_
  have aliased (host address : Text) : Emits CommandEvent.Quiet (askDone (.aliased host address)) :=
    quiet_askDone fun _ => rfl
  refine Emits.bind (quiet_network.mapError _) fun master => ?_
  refine (advertised master).bind fun address => ?_
  refine ((aliased _ _).mapError _).bind fun _ => ?_
  refine Emits.bind (quiet_note rfl) fun _ => Emits.bind (quiet_note rfl) fun _ => ?_
  refine Emits.bind (quiet_note rfl) fun _ => ?_
  exact Emits.bind (quiet_askDone fun _ => rfl) fun _ => emits_pure

/-- Waiting for a subscriber hands over nothing. -/
theorem quiet_waitForASubscriber (topic : String) (timeout : Duration) :
    Emits CommandEvent.Quiet (waitForASubscriber topic timeout : CommandM ε Bool) := by
  have counted : Emits CommandEvent.Quiet (subscriberCount topic : CommandM ε Nat) :=
    answered_subscriberCount (List.forall_mem_nil _) fun _ => List.forall_mem_singleton.mpr rfl
  -- Nor does any of its rounds.
  have round (deadline : Instant) :
      Emits CommandEvent.Quiet (waitRound topic deadline : CommandM ε (Unit ⊕ Bool)) := by
    refine Emits.bind (quiet_askFlag fun _ => rfl) fun alive => ?_
    split
    · exact emits_pure
    refine quiet_instantNow.bind fun now => ?_
    split
    · exact emits_pure
    refine counted.bind fun subscribers => ?_
    split
    · exact emits_pure
    · exact Emits.bind (quiet_note rfl) fun _ => emits_pure
  refine quiet_instantNow.bind fun now => ?_
  refine (emits_repeatUntil (fun _ => round _) ()).bind fun found => ?_
  split
  · exact emits_pure
  · exact counted.bind fun _ => emits_pure

/-- Connecting to the motor controller hands over nothing. -/
theorem quiet_connectAttempts (connection : ConnectionInfo) (attempts : List Nat) :
    Emits CommandEvent.Quiet (connectAttempts connection attempts) := by
  -- The induction is on the attempts that are left.
  induction attempts with
  | nil =>
    have asked : Emits CommandEvent.Quiet askState :=
      answered_askState (List.forall_mem_nil _) fun _ => List.forall_mem_singleton.mpr rfl
    exact (asked.attempt.bind fun _ => emits_pure).bind fun _ => emits_fail
  | cons attempt rest ih =>
    refine Emits.bind (quiet_askDone fun _ => rfl) fun _ => ?_
    refine (quiet_waitForASubscriber _ _).bind fun found => ?_
    split
    · exact emits_pure
    refine Emits.bind (quiet_note rfl) fun _ => ?_
    split
    · exact Emits.bind (quiet_note rfl) fun _ => ih
    · exact ih

/-- Shutting ROS down hands over nothing. -/
theorem quiet_rosShutdown : Emits CommandEvent.Quiet rosShutdown :=
  Emits.bind (quiet_note rfl) fun _ => quiet_note rfl

/-- Entering raw mode hands over nothing. -/
theorem quiet_enterRawTerminal : Emits CommandEvent.Quiet enterRawTerminal := by
  -- The keyboard is asked for the release of keys where that is supported.
  refine Emits.bind (quiet_askDone fun _ => rfl) fun _ => ?_
  refine Emits.bind (quiet_askFlag fun _ => rfl) fun keyboardEnhancements => ?_
  cases keyboardEnhancements with
  | false => exact emits_pure
  | true =>
    exact Emits.bind (Emits.onFailure (quiet_askDone fun _ => rfl) (quiet_note rfl)) fun _ => emits_pure

/-- Leaving raw mode hands over nothing. -/
theorem quiet_dropRawTerminal (keyboardEnhancements : Bool) :
    Emits CommandEvent.Quiet (dropRawTerminal keyboardEnhancements) := by
  -- What has been asked for is given back.
  cases keyboardEnhancements with
  | false => exact quiet_note rfl
  | true => exact Emits.bind (quiet_note rfl) fun _ => quiet_note rfl

/-- Starting the bridge hands over nothing. -/
theorem quiet_startBridge (control camera : SocketAddr) :
    Emits CommandEvent.Quiet (startBridge control camera) := by
  -- The ports are checked first, then everything is started in turn.
  unfold startBridge
  split
  · exact emits_fail
  split
  · exact emits_fail
  have called : Emits CommandEvent.Quiet call := quiet_askDone fun _ => rfl
  refine Emits.bind (quiet_askDone fun _ => rfl) fun _ => ?_
  refine Emits.bind (Emits.onFailure (quiet_askDone fun _ => rfl) (quiet_note rfl)) fun _ => ?_
  refine Emits.bind (Emits.onFailure
    (called.bind fun _ => called.bind fun _ => called.bind fun _ => called)
    (Emits.bind (quiet_note rfl) fun _ => quiet_note rfl)) fun _ => ?_
  refine Emits.bind (Emits.onFailure (quiet_askDone fun _ => rfl) (quiet_note rfl)) fun _ => ?_
  exact quiet_askDone fun _ => rfl

end Quiet

/-- From a state of its loop on, a command hands over what the loop does in a run. -/
def MotorLoop.Mirrors {ε α : Type} (loop : MotorLoop) (state : loop.State)
    (program : CommandM ε α) (Returned : α → loop.State → Prop)
    (Failed : ε → loop.State → Prop) : Prop :=
  Tracks (Showing loop.step loop.sent CommandEvent.twist) (· = state) program Returned Failed

/-- A loop is where it is said to be. -/
def MotorLoop.At (loop : MotorLoop) (state place : loop.State) : Prop := place = state

section Mirroring

variable {ε α : Type} {loop : MotorLoop} {state next : loop.State} {input : loop.Input}
  {program : CommandM ε α} {Returned : α → loop.State → Prop} {Failed : ε → loop.State → Prop}

/-- What hands over nothing leaves the loop where it is. -/
theorem mirrors_quiet (quiet : Emits CommandEvent.Quiet program) :
    loop.Mirrors state program (fun _ => (· = state)) fun _ => (· = state) :=
  quiet.tracks fun _ _ hidden => showing_still hidden

/-- What hands over nothing and fails lets the loop take a step of its own. -/
theorem mirrors_setup (quiet : Emits CommandEvent.Quiet program)
    (refused : ∀ error, ∃ input next, loop.step state input = some next ∧
      loop.sent next = loop.sent state ∧ Failed error next) :
    loop.Mirrors state program (fun _ => (· = state)) Failed := by
  -- A failure of the command is one step of the loop.
  refine Tracks.shift (mirrors_quiet quiet) (fun place same => ⟨place, Route.stay place, same⟩)
    (fun _ place same => ⟨place, Route.stay place, same⟩) ?_
  rintro error _ rfl
  obtain ⟨input, next, taken, kept, failed⟩ := refused error
  exact ⟨next, showing_silent taken kept, failed⟩

/-- What is known of the loop's state may be used before going on. -/
theorem mirrors_each {Before : loop.State → Prop}
    (each : ∀ place, Before place → loop.Mirrors place program Returned Failed) :
    Tracks (Showing loop.step loop.sent CommandEvent.twist) Before program Returned Failed :=
  fun place holds => each place holds place rfl

/-- Before a command goes on, the loop may take a step of its own. -/
theorem mirrors_after (taken : loop.step state input = some next)
    (kept : loop.sent next = loop.sent state)
    (mirrors : loop.Mirrors next program Returned Failed) :
    loop.Mirrors state program Returned Failed := by
  -- The loop takes a silent step first.
  refine Tracks.shift mirrors ?_ (fun _ place settled => ⟨place, Route.stay place, settled⟩)
    fun _ place settled => ⟨place, Route.stay place, settled⟩
  rintro _ rfl
  exact ⟨next, showing_silent taken kept, rfl⟩

/-- A cleanup that hands over nothing leaves the loop where it is. -/
theorem mirrors_ensuring {cleanup : CommandM Empty Unit}
    (mirrors : loop.Mirrors state program Returned Failed)
    (quiet : Emits CommandEvent.Quiet cleanup) :
    loop.Mirrors state (program.ensuring cleanup) Returned Failed :=
  Tracks.ensuring_still mirrors quiet fun _ _ hidden => showing_still hidden

/-- A loop that is driven does what it does by itself. -/
theorem mirrors_drive {finished : loop.State → Bool} :
    loop.Mirrors state (loop.drive finished state : CommandM ε _)
      (fun next place => place = next ∧ finished next = true) Failed := by
  -- Every step is shown by its event.
  have driven : Tracks (Showing loop.step loop.sent CommandEvent.twist)
      (loop.At state) (loop.drive finished state : CommandM ε _)
      (fun next place => loop.At next place ∧ finished next = true) Failed := by
    refine tracks_drive ?_ state
    rintro before input after place _ at_ taken
    cases at_
    refine ⟨after, showing_step taken ?_, rfl⟩
    show loop.sent after = (handedOver (loop.sent before) (loop.sent after)).toList ++ _
    rcases handedOver_of_grows (loop.grows taken) with ⟨none, same⟩ | ⟨twist, handed, more⟩
    · rw [none, same]
      rfl
    · rw [handed, more]
      rfl
  exact driven

/-- A step whose input is known is a step of the loop, which hands over nothing. -/
theorem mirrors_advance
    (kept : ∀ next, loop.step state input = some next → loop.sent next = loop.sent state) :
    loop.Mirrors state (loop.advance state input : CommandM ε loop.State)
      (fun next place => place = next ∧ loop.step state input = some next) Failed := by
  -- There is such a step, or there is nothing more.
  rintro _ rfl
  unfold MotorLoop.advance
  split
  · rename_i next taken
    exact leaves_pure ⟨next, showing_silent taken (kept next taken), rfl, taken⟩
  · exact leaves_wait ⟨_, Route.stay _, trivial⟩

/-- An event that hands over nothing leaves everything as it is. -/
theorem mirrors_note {Before : loop.State → Prop} {event : CommandEvent} (quiet : event.Quiet) :
    Tracks (Showing loop.step loop.sent CommandEvent.twist) Before
      (note event : CommandM ε Unit) (fun _ => Before) Failed :=
  tracks_note fun place holds => ⟨place, showing_still quiet, holds⟩

/-- A command that gives the result of its loop ends as the loop has ended. -/
theorem mirrors_report (loop : MotorLoop) {state : loop.State}
    (outcome : loop.State → Option Outcome) :
    Tracks (Showing loop.step loop.sent CommandEvent.twist)
      (fun place => place = state ∧ (outcome state).isSome = true)
      (ofExcept ((outcome state).getD (.ok ())) : CommandM String Unit)
      (fun _ place => outcome place = some (.ok ()))
      fun error place => outcome place = some (.error error) := by
  -- The loop has a result.
  refine tracks_ofExcept (fun value place ok ended => ?_) fun error place refused ended => ?_
  · obtain ⟨rfl, some_⟩ := ended
    obtain ⟨result, found⟩ := Option.isSome_iff_exists.mp some_
    rw [found] at ok ⊢
    exact congrArg some ok
  · obtain ⟨rfl, some_⟩ := ended
    obtain ⟨result, found⟩ := Option.isSome_iff_exists.mp some_
    rw [found] at refused ⊢
    exact congrArg some refused

end Mirroring

section Velocity

variable {system : System} {config : Ros1Config} {request : MotionRequest}

/-- Sending a velocity does what its loop does. -/
theorem mirrors_sendVelocity :
    (velocityLoop request).Mirrors SendVelocity.start (sendVelocity system config request)
      (fun _ loop => loop.phase.outcome = some (.ok ()))
      fun error loop => loop.phase.outcome = some (.error error) := by
  -- The loop checks the request, too.
  have checked : (velocityLoop request).Mirrors SendVelocity.start (ofExcept request.command)
      (fun command place => place = SendVelocity.start.goto (.preparing command))
      fun error loop => loop.phase.outcome = some (.error error) := by
    rintro _ rfl
    refine leaves_ofExcept (fun command ok => ?_) fun error refused => ?_
    · have taken : (velocityLoop request).step SendVelocity.start (.main .proceed) =
          some (SendVelocity.start.goto (.preparing command)) := by
        simp [velocityLoop, SendVelocity.step, SendVelocity.sendVelocity, SendVelocity.start, ok]
      exact ⟨_, showing_silent taken rfl, rfl⟩
    · have taken : (velocityLoop request).step SendVelocity.start (.main .proceed) =
          some (SendVelocity.start.goto (.returned (.error error))) := by
        simp [velocityLoop, SendVelocity.step, SendVelocity.sendVelocity, SendVelocity.start,
          refused]
      exact ⟨_, showing_silent taken rfl, rfl⟩
  refine Tracks.bind checked fun command => ?_
  -- Whatever fails before the loop begins is one step of it.
  have setup {α : Type} {program : CommandM String α} (quiet : Emits CommandEvent.Quiet program) :
      (velocityLoop request).Mirrors (SendVelocity.start.goto (.preparing command)) program
        (fun _ => (· = SendVelocity.start.goto (.preparing command)))
        fun error loop => loop.phase.outcome = some (.error error) :=
    mirrors_setup quiet fun error => ⟨.main (.outcome (.error error)), _, rfl, rfl, rfl⟩
  refine Tracks.bind (setup (quiet_init system config _ _)) fun connection => ?_
  refine mirrors_ensuring ?_ quiet_rosShutdown
  refine Tracks.bind (setup (quiet_askDone fun _ => rfl)) fun _ => ?_
  refine Tracks.bind (setup (quiet_connectAttempts connection _)) fun _ => ?_
  refine mirrors_ensuring ?_ (quiet_note rfl)
  have begun : (velocityLoop request).step (SendVelocity.start.goto (.preparing command))
      (.main (.outcome (.ok ()))) = some (SendVelocity.start.goto (.starting command)) := rfl
  refine mirrors_after begun rfl ?_
  exact Tracks.bind mirrors_drive fun loop => Tracks.bind (mirrors_note rfl) fun _ =>
    mirrors_report (velocityLoop request) fun loop : SendVelocity => loop.phase.outcome

end Velocity

section Teleop

variable {system : System} {windows : Bool} {config : Ros1Config} {args : TeleopArgs}

/-- A session at the keyboard does what teleoperation does after entering the terminal. -/
theorem mirrors_runTeleopSession {ε : Type} {Failed : ε → Teleop → Prop} :
    (teleopLoop args).Mirrors (Teleop.start.goto .entering)
      (runTeleopSession windows args : CommandM ε Teleop) (fun loop place => place = loop)
      Failed := by
  -- What has been answered about the terminal is a step of the loop.
  have advanced (result : Except String Bool) :
      (teleopLoop args).Mirrors (Teleop.start.goto .entering)
        ((teleopLoop args).advance (Teleop.start.goto .entering) (.main (.terminal result)) :
          CommandM ε Teleop) (fun loop place => place = loop) Failed :=
    Tracks.mono (mirrors_advance fun loop taken => by cases result <;> cases taken <;> rfl)
      (fun _ same => same) (fun _ _ settled => settled.1) fun _ _ settled => settled
  refine Tracks.bind (Tracks.attempt (mirrors_quiet quiet_enterRawTerminal)) fun terminal => ?_
  cases terminal with
  | error error => exact advanced _
  | ok keyboardEnhancements =>
    refine mirrors_ensuring ?_ (quiet_dropRawTerminal _)
    refine Tracks.bind (advanced _) fun loop => ?_
    exact Tracks.mono mirrors_drive (fun _ same => same) (fun _ _ settled => settled.1)
      fun _ _ settled => settled

/-- Teleoperation does what its loop does. -/
theorem mirrors_teleop {cameraTopic : String} :
    (teleopLoop args).Mirrors Teleop.start (teleop system windows config args cameraTopic)
      (fun _ loop => loop.phase.outcome = some (.ok ()))
      fun error loop => loop.phase.outcome = some (.error error) := by
  -- The loop checks the arguments, too.
  have checked : (teleopLoop args).Mirrors Teleop.start (ofExcept args.validate)
      (fun _ place => place = Teleop.start.goto .preparing)
      fun error loop => loop.phase.outcome = some (.error error) := by
    rintro _ rfl
    refine leaves_ofExcept (fun _ ok => ?_) fun error refused => ?_
    · have taken : (teleopLoop args).step Teleop.start (.main (.loop .proceed)) =
          some (Teleop.start.goto .preparing) := by
        simp [teleopLoop, Teleop.step, Teleop.teleop, Teleop.start, ok]
      exact ⟨_, showing_silent taken rfl, rfl⟩
    · have taken : (teleopLoop args).step Teleop.start (.main (.loop .proceed)) =
          some (Teleop.start.goto (.returned (.error error))) := by
        simp [teleopLoop, Teleop.step, Teleop.teleop, Teleop.start, refused]
      exact ⟨_, showing_silent taken rfl, rfl⟩
  refine Tracks.bind checked fun _ => ?_
  -- Whatever fails before the loop begins is one step of it.
  have setup {α : Type} {program : CommandM String α} (quiet : Emits CommandEvent.Quiet program) :
      (teleopLoop args).Mirrors (Teleop.start.goto .preparing) program
        (fun _ => (· = Teleop.start.goto .preparing))
        fun error loop => loop.phase.outcome = some (.error error) :=
    mirrors_setup quiet fun error => ⟨.main (.loop (.outcome (.error error))), _, rfl, rfl, rfl⟩
  refine Tracks.bind (setup (quiet_askDone fun _ => rfl)) fun _ => ?_
  refine Tracks.bind (setup (quiet_init system config _ _)) fun connection => ?_
  refine mirrors_ensuring ?_ quiet_rosShutdown
  refine Tracks.bind (setup (quiet_askDone fun _ => rfl)) fun _ => ?_
  refine Tracks.bind (setup (quiet_askDone fun _ => rfl)) fun _ => ?_
  refine Tracks.bind (setup ((quiet_connectAttempts connection _).onFailure (quiet_note rfl)))
    fun _ => ?_
  refine mirrors_ensuring ?_ (quiet_note rfl)
  have begun : (teleopLoop args).step (Teleop.start.goto .preparing)
      (.main (.loop (.outcome (.ok ())))) = some (Teleop.start.goto .entering) := rfl
  refine mirrors_after begun rfl ?_
  refine Tracks.bind mirrors_runTeleopSession fun session => ?_
  exact Tracks.bind mirrors_drive fun loop => Tracks.bind (mirrors_note rfl) fun _ =>
    Tracks.bind (mirrors_note rfl) fun _ =>
      mirrors_report (teleopLoop args) fun loop : Teleop => loop.phase.outcome

end Teleop

section Bridge

variable {system : System} {config : Ros1Config} {command : BridgeCommand}

/-- The bridge does what its loop does. -/
theorem mirrors_integrationBridge {launched : Instant} :
    (publishLoop command.args command.parse).Mirrors PublishLoop.start
      (integrationBridge system config command launched)
      (fun _ loop => loop.phase.outcome = some (.ok ()))
      fun error loop => loop.phase.outcome = some (.error error) := by
  -- The loop checks the arguments, too.
  have checked : (publishLoop command.args command.parse).Mirrors PublishLoop.start
      (ofExcept command.args.validate)
      (fun _ place => place = PublishLoop.start.goto .preparing ∧ command.args.validate = .ok ())
      fun error loop => loop.phase.outcome = some (.error error) := by
    rintro _ rfl
    refine leaves_ofExcept (fun _ ok => ?_) fun error refused => ?_
    · have taken : (publishLoop command.args command.parse).step PublishLoop.start
          (.main .proceed) = some (PublishLoop.start.goto .preparing) := by
        simp [publishLoop, PublishLoop.step, PublishLoop.integrationBridge, PublishLoop.start,
          PublishLoop.tryOutcome, ok]
      exact ⟨_, showing_silent taken rfl, rfl, ok⟩
    · have taken : (publishLoop command.args command.parse).step PublishLoop.start
          (.main .proceed) = some (PublishLoop.start.goto (.returned (.error error))) := by
        simp [publishLoop, PublishLoop.step, PublishLoop.integrationBridge, PublishLoop.start,
          PublishLoop.tryOutcome, refused]
      exact ⟨_, showing_silent taken rfl, rfl⟩
  refine Tracks.bind checked fun _ => mirrors_each ?_
  rintro _ ⟨rfl, accepted⟩
  obtain ⟨finite, least, most⟩ := BridgeArgs.rate_accepted accepted
  obtain ⟨period, found, _⟩ := exists_period_of_rate finite least most
  -- Whatever fails before the bridge is started is one step of the loop.
  have setup {α : Type} {program : CommandM String α} (quiet : Emits CommandEvent.Quiet program) :
      (publishLoop command.args command.parse).Mirrors (PublishLoop.start.goto .preparing) program
        (fun _ => (· = PublishLoop.start.goto .preparing))
        fun error loop => loop.phase.outcome = some (.error error) :=
    mirrors_setup quiet fun error => ⟨.main (.outcome (.error error)), _, rfl, rfl, rfl⟩
  refine Tracks.bind (setup (quiet_init system config _ _)) fun connection => ?_
  refine mirrors_ensuring ?_ quiet_rosShutdown
  refine Tracks.bind (setup (quiet_askDone fun _ => rfl)) fun _ => ?_
  refine Tracks.bind (setup (quiet_connectAttempts connection _)) fun _ => ?_
  refine mirrors_ensuring ?_ (quiet_note rfl)
  have begun : (publishLoop command.args command.parse).step (PublishLoop.start.goto .preparing)
      (.main (.outcome (.ok ()))) = some (PublishLoop.start.goto .launching) := rfl
  refine mirrors_after begun rfl ?_
  -- So is a failure to start it.
  have started : (publishLoop command.args command.parse).Mirrors
      (PublishLoop.start.goto .launching)
      (startBridge command.controlAddress command.cameraAddress)
      (fun _ => (· = PublishLoop.start.goto .launching))
      fun error loop => loop.phase.outcome = some (.error error) :=
    mirrors_setup (quiet_startBridge _ _) fun error =>
      ⟨.main (.outcome (.error error)), _, rfl, rfl, rfl⟩
  refine Tracks.bind started fun _ => ?_
  refine Tracks.bind (mirrors_advance fun loop taken => by cases taken; rfl) fun _ =>
    mirrors_each ?_
  rintro loop ⟨rfl, taken⟩
  -- And so is a failure to watch the camera, whose step needs the period of the loop.
  have subscribing (result : Outcome) :
      (publishLoop command.args command.parse).step loop (.main (.outcome result)) =
        some (PublishLoop.tryOutcome loop result .greeting) := by
    cases taken
    simp [publishLoop, PublishLoop.step, PublishLoop.integrationBridge, PublishLoop.goto, found]
  refine Tracks.bind (mirrors_setup (quiet_askDone fun _ => rfl) fun error =>
    ⟨_, _, subscribing (.error error), rfl, rfl⟩) fun _ => ?_
  refine Tracks.bind (mirrors_advance fun next taken => ?_) fun _ => mirrors_each ?_
  · cases (subscribing (.ok ())).symm.trans taken
    rfl
  rintro greeting ⟨rfl, _⟩
  refine Tracks.bind mirrors_drive fun loop => ?_
  split
  · rename_i error ended
    refine Tracks.bind (mirrors_note rfl) fun _ => tracks_fail fun place settled => ?_
    rw [settled.1]
    exact ended
  refine Tracks.bind (mirrors_note rfl) fun _ => Tracks.bind (mirrors_note rfl) fun _ =>
    mirrors_each ?_
  rintro _ ⟨rfl, _⟩
  exact Tracks.bind mirrors_drive fun loop => Tracks.bind (mirrors_note rfl) fun _ =>
    Tracks.bind (mirrors_note rfl) fun _ => mirrors_report
      (publishLoop command.args command.parse) fun loop : PublishLoop => loop.phase.outcome

end Bridge

/-- What a command has handed over so far, and how it has ended, is what its loop does in a run. -/
def Refines (loop : MotorLoop) (outcome : loop.State → Option Outcome)
    (program : CommandM String Unit) : Prop :=
  Leaves (fun events reply => ∃ inputs state, run loop.step loop.start inputs = some state ∧
    events.filterMap CommandEvent.twist = (loop.sent state).reverse ∧
    ∀ result, reply = .ofResult result → outcome state = some result) program

/-- Only safe commands are handed over, and once a command has ended, the last one is a stop. -/
def Stops (program : CommandM String Unit) : Prop :=
  Leaves (fun events reply => (∀ twist ∈ events.filterMap CommandEvent.twist, twist.Safe) ∧
    ∀ result, reply = .ofResult result →
      EndsInStop (events.filterMap CommandEvent.twist).reverse) program

/-- A command that does what its loop does from the start on refines it. -/
theorem MotorLoop.Mirrors.refines {loop : MotorLoop} {outcome : loop.State → Option Outcome}
    {program : CommandM String Unit} (empty : loop.sent loop.start = [])
    (mirrors : loop.Mirrors loop.start program (fun _ state => outcome state = some (.ok ()))
      fun error state => outcome state = some (.error error)) : Refines loop outcome program := by
  -- At the start nothing has been handed over.
  refine (mirrors loop.start rfl).mono fun events reply related => ?_
  obtain ⟨state, ⟨inputs, ran, shown⟩, settled⟩ := related
  refine ⟨inputs, state, ran, by simp [shown, empty], fun result same => ?_⟩
  subst same
  cases result with
  | ok _ => exact settled
  | error error => exact settled

/-- Where the loop stops the robot, a command that refines it does so. -/
theorem Refines.stops {loop : MotorLoop} {outcome : loop.State → Option Outcome}
    {program : CommandM String Unit} (refines : Refines loop outcome program)
    (safe : ∀ state, loop.Reached state → ∀ twist ∈ loop.sent state, twist.Safe)
    (ends : ∀ state, loop.Reached state → (outcome state).isSome = true →
      EndsInStop (loop.sent state)) : Stops program := by
  -- What the command hands over is what the loop has sent, in the reverse order.
  refine Leaves.mono refines fun events reply related => ?_
  obtain ⟨inputs, state, ran, handed, ended⟩ := related
  rw [handed]
  refine ⟨fun twist member => safe state ⟨inputs, ran⟩ twist (List.mem_reverse.mp member),
    fun result same => ?_⟩
  rw [List.reverse_reverse]
  exact ends state ⟨inputs, ran⟩ (by rw [ended result same]; rfl)

/-- Every command that moves the robot refines its loop, with all that happens around it: what it
hands over and how it ends is what the loop does in one of its runs, so that it hands over safe
commands only and a stop at last, wherever it fails. -/
theorem motion_commands_refine_loops (system : System) (windows : Bool) (config : Ros1Config) :
    (∀ request : MotionRequest,
      Refines (velocityLoop request) (fun loop : SendVelocity => loop.phase.outcome)
        (sendVelocity system config request) ∧ Stops (sendVelocity system config request)) ∧
    (∀ (args : TeleopArgs) (cameraTopic : String),
      Refines (teleopLoop args) (fun loop : Teleop => loop.phase.outcome)
        (teleop system windows config args cameraTopic) ∧
      Stops (teleop system windows config args cameraTopic)) ∧
    ∀ (command : BridgeCommand) (launched : Instant),
      Refines (publishLoop command.args command.parse)
        (fun loop : PublishLoop => loop.phase.outcome)
        (integrationBridge system config command launched) ∧
      Stops (integrationBridge system config command launched) := by
  -- The loops' own invariants say what is handed over.
  refine ⟨fun request => ?_, fun args cameraTopic => ?_, fun command launched => ?_⟩
  · have refines : Refines (velocityLoop request) (fun loop : SendVelocity => loop.phase.outcome)
        (sendVelocity system config request) := mirrors_sendVelocity.refines rfl
    refine ⟨refines, refines.stops ?_ fun loop reached ended => velocityLoop_stops reached ended⟩
    rintro loop ⟨inputs, ran⟩
    exact (SendVelocity.orderly_run ran).governed.safe
  · have refines : Refines (teleopLoop args) (fun loop : Teleop => loop.phase.outcome)
        (teleop system windows config args cameraTopic) := mirrors_teleop.refines rfl
    refine ⟨refines, refines.stops ?_ fun loop reached ended => teleopLoop_stops reached ended⟩
    rintro loop ⟨inputs, ran⟩
    exact (Teleop.orderly_run ran).governed.safe
  · have refines : Refines (publishLoop command.args command.parse)
        (fun loop : PublishLoop => loop.phase.outcome)
        (integrationBridge system config command launched) := mirrors_integrationBridge.refines rfl
    refine ⟨refines, refines.stops ?_ fun loop reached ended =>
      publishLoop_stops reached (isFinal_of_outcome ended)⟩
    rintro loop ⟨inputs, ran⟩
    exact (PublishLoop.orderly_run ran).governed.safe

end Scout.Command
