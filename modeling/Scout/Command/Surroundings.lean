import Scout.Command.Connection
import Scout.Wifi.AddressRoundTrip

/-! What starting ROS changes around a command: the limits, the environment and a host name. -/

namespace Scout.Wifi

/-- The address that an event shows to accept connections. -/
def NetworkEvent.reaches : NetworkEvent → Option SocketAddr
  | .connected _ address _ (.ok ()) => some address
  | _ => none

open Machine Dialogue NetworkM

/-- A program returns only an address that has accepted a connection. -/
def Reaches {ε : Type} (program : NetworkM ε SocketAddr) : Prop :=
  Leaves (fun events reply => ∀ address, reply = .returned address →
    address ∈ events.filterMap NetworkEvent.reaches) program

/-- The destination that is returned has accepted a connection. -/
theorem reaches_reachFrom (authority : Text) (lastError : Option ErrorKind)
    (destinations : List SocketAddr) : Reaches (reachFrom authority lastError destinations) := by
  -- The induction is on the destinations that are left.
  induction destinations generalizing lastError with
  | nil => exact leaves_fail fun _ same => by cases same
  | cons destination rest ih =>
    have tried : Leaves (fun events reply => ∀ stream, reply = .returned stream →
        destination ∈ events.filterMap NetworkEvent.reaches)
        (connectTimeout destination masterConnectTimeout) := by
      refine answered_connectTimeout (fun _ same => by cases same) fun stream result => ?_
      intro opened same
      cases result with
      | ok _ => simp [NetworkEvent.reaches]
      | error kind => cases same
    refine Leaves.bind (tried.attempt) (fun _ _ related => related.elim)
      (fun _ _ _ same => by cases same) fun events result related => ?_
    cases result with
    | ok stream =>
      refine leaves_pure fun address same => ?_
      cases same
      rw [List.append_nil]
      exact related stream rfl
    | error kind =>
      refine (ih (some kind)).mono fun more reply found address same => ?_
      rw [List.filterMap_append]
      exact List.mem_append_right _ (found address same)

/-- A calculation returns no address by itself. -/
theorem reaches_ofExcept {ε β : Type} {result : Except ε β} {next : β → NetworkM ε SocketAddr}
    (later : ∀ value, Reaches (next value)) : Reaches (ofExcept result >>= next) := by
  -- The cases are those of the result.
  cases result with
  | ok value => exact later value
  | error cause =>
    have failed : Reaches (fail cause : NetworkM ε SocketAddr) :=
      leaves_fail fun _ same => by cases same
    exact failed

/-- The address of the master has accepted a connection. -/
theorem reaches_reachableMasterAddress (toSocketAddrs : Text → Except ErrorKind (List SocketAddr))
    (masterUri : Text) : Reaches (reachableMasterAddress toSocketAddrs masterUri) := by
  -- Without destinations nothing is returned.
  refine reaches_ofExcept fun authority => reaches_ofExcept fun addresses => ?_
  dsimp only
  split
  · exact leaves_fail fun _ same => by cases same
  · exact reaches_reachFrom _ _ _

end Scout.Wifi

namespace Scout.Command

open Machine Dialogue Wifi

/-- What a command finds and changes around it. -/
structure Surroundings where
  /-- How long a message and a header may be. -/
  limits : Option (Nat × Nat)
  /-- The addresses that have accepted a connection. -/
  reached : List SocketAddr
  /-- The local addresses that the system has chosen for destinations. -/
  routes : List (SocketAddr × IpAddr)
  /-- The addresses that names of hosts have been given. -/
  hosts : Text → Option Text
  environment : String → Option Text
  /-- The name under which ROS is initialised. -/
  session : Option Text

namespace Surroundings

/-- Other nodes are told the address of this computer, and not a name that they may not know. -/
def announces (around : Surroundings) : Bool :=
  (around.environment "ROS_HOSTNAME").isNone &&
    ((around.environment "ROS_IP").bind IpAddr.parse).isSome

/-- What an event changes, if it may happen. -/
def rule (around : Surroundings) : CommandEvent → Option Surroundings
  | .limited messageBytes headerBytes =>
    some { around with limits := some (messageBytes, headerBytes) }
  | .network event =>
    -- Nothing is received before the limits hold.
    if around.limits.isSome then
      some { around with reached := event.reaches.toList ++ around.reached }
    else none
  | .routed _ destination result =>
    some { around with routes := (result.toOption.map (destination, ·)).toList ++ around.routes }
  | .aliased host address result =>
    some { around with hosts :=
      if result.isOk then Function.update around.hosts host (some address) else around.hosts }
  | .setVar name value =>
    some { around with environment := Function.update around.environment name (some value) }
  | .removeVar name =>
    some { around with environment := Function.update around.environment name none }
  | .initialised nodeName _ result =>
    -- ROS is initialised once, and only where it announces an address.
    if around.session.isNone ∧ around.limits.isSome ∧ around.announces then
      some { around with session := if result.isOk then some nodeName else none }
    else none
  | _ => none

/-- The environment that a session is started in. -/
def sessionEnvironment (environment : String → Option Text) (config : Ros1Config) (ip : IpAddr) :
    String → Option Text :=
  Function.update (Function.update (Function.update environment "ROS_MASTER_URI"
    (some config.masterUri)) "ROS_HOSTNAME" none) "ROS_IP" (some ip.display)

/-- The environment of a session announces the address of this computer. -/
theorem announces_sessionEnvironment {around : Surroundings} {config : Ros1Config} {ip : IpAddr}
    {environment : String → Option Text}
    (same : around.environment = sessionEnvironment environment config ip) :
    around.announces = true := by
  -- The text of the address is read back as that address.
  have cleared : around.environment "ROS_HOSTNAME" = none := by
    simp [same, sessionEnvironment]
  have named : around.environment "ROS_IP" = some ip.display := by
    simp [same, sessionEnvironment]
  rw [announces, cleared, named, Option.bind_some, IpAddr.parse_display]
  rfl

/-- What is known of the surroundings before ROS has been initialised. -/
structure Prepared (maximumMessageBytes : Nat) (hosts : Text → Option Text)
    (environment : String → Option Text) (around : Surroundings) : Prop where
  limits : around.limits = some (maximumMessageBytes, maxConnectionHeaderBytes)
  session : around.session = none
  hosts : around.hosts = hosts
  environment : around.environment = environment

/-- The address that the robot is told has been given, or chosen by the system for the master. -/
def Advertised (config : Ros1Config) (master : SocketAddr) (around : Surroundings)
    (ip : IpAddr) : Prop :=
  match config.advertiseAddress with
  | some text => IpAddr.parse text = some ip
  | none => (master, ip) ∈ around.routes ∧ ip.isUnspecified = false

/-- What is known of the surroundings once ROS has been initialised. -/
structure Started (config : Ros1Config) (maximumMessageBytes : Nat) (before : Surroundings)
    (connection : ConnectionInfo) (around : Surroundings) : Prop where
  limits : around.limits = some (maximumMessageBytes, maxConnectionHeaderBytes)
  session : around.session = some config.nodeName
  reached : connection.masterAddress ∈ around.reached
  advertised : Advertised config connection.masterAddress around connection.advertiseAddress
  /-- The name that the robot gives itself means the address of the master, and no other changes. -/
  robot : (around.hosts scoutInternalHostname).bind IpAddr.parse =
    some connection.masterAddress.ip
  hosts : ∀ host, host ≠ scoutInternalHostname → around.hosts host = before.hosts host
  environment : around.environment =
    sessionEnvironment before.environment config connection.advertiseAddress
  /-- The robot is told the address that is advertised. -/
  announced : (around.environment "ROS_IP").bind IpAddr.parse =
    some connection.advertiseAddress

/-- A failure leaves no session, and changes the environment as a whole or not at all. -/
structure Unstarted (config : Ros1Config) (before around : Surroundings) : Prop where
  session : around.session = none
  environment : around.environment = before.environment ∨
    ∃ ip, around.environment = sessionEnvironment before.environment config ip

end Surroundings

section Starting

open Surroundings

variable {maximumMessageBytes : Nat} {before : Surroundings} {hosts : Text → Option Text}
  {environment : String → Option Text}

/-- Where the environment has not been changed, nothing has been started. -/
theorem Surroundings.Prepared.unstarted {config : Ros1Config} {around : Surroundings}
    (prepared : Prepared maximumMessageBytes hosts before.environment around) :
    Unstarted config before around :=
  ⟨prepared.session, .inl prepared.environment⟩

/-- What happens on the network adds to the addresses that have accepted a connection. -/
theorem along_network {around : Surroundings} (limited : around.limits.isSome = true)
    (events : List NetworkEvent) :
    Along Surroundings.rule around (events.map .network)
      { around with
        reached := (events.filterMap NetworkEvent.reaches).reverse ++ around.reached } := by
  -- The induction is on the events, the first of which is allowed by the limits.
  induction events generalizing around with
  | nil => rfl
  | cons event rest ih =>
    have first : Surroundings.rule around (.network event) =
        some { around with reached := event.reaches.toList ++ around.reached } := if_pos limited
    let next : Surroundings := { around with reached := event.reaches.toList ++ around.reached }
    have onwards := Route.join (along_one first) (@ih next limited)
    have places : (rest.filterMap NetworkEvent.reaches).reverse ++ next.reached =
        ((event :: rest).filterMap NetworkEvent.reaches).reverse ++ around.reached := by
      show _ ++ (event.reaches.toList ++ around.reached) = _
      cases found : event.reaches <;> simp [found]
    rw [places] at onwards
    exact onwards

/-- Looking for the master adds only to the addresses that have accepted a connection. -/
theorem tracks_master (toSocketAddrs : Text → Except ErrorKind (List SocketAddr))
    (masterUri : Text) :
    Tracks (Along Surroundings.rule) (Prepared maximumMessageBytes hosts environment)
      (network (reachableMasterAddress toSocketAddrs masterUri))
      (fun master around => Prepared maximumMessageBytes hosts environment around ∧
        master ∈ around.reached)
      fun _ => Prepared maximumMessageBytes hosts environment := by
  -- What is returned has been reached.
  intro around prepared
  refine ((reaches_reachableMasterAddress toSocketAddrs masterUri).embed _ _).mono
    fun events reply related => ?_
  obtain ⟨inner, rfl, found⟩ := related
  have limited : around.limits.isSome = true := by simp [prepared.limits]
  refine ⟨_, along_network limited inner, ?_⟩
  have kept : Prepared maximumMessageBytes hosts environment { around with
      reached := (inner.filterMap NetworkEvent.reaches).reverse ++ around.reached } :=
    ⟨prepared.limits, prepared.session, prepared.hosts, prepared.environment⟩
  cases reply with
  | returned master =>
    exact ⟨kept, List.mem_append_left _ (List.mem_reverse.mpr (found master rfl))⟩
  | failed error => exact kept
  | waiting => trivial

/-- The master has been found. -/
def Found (maximumMessageBytes : Nat) (before : Surroundings) (master : SocketAddr)
    (around : Surroundings) : Prop :=
  Prepared maximumMessageBytes before.hosts before.environment around ∧ master ∈ around.reached

/-- The address that the robot is told is given, or the system has chosen it for the master. -/
theorem tracks_advertisedAddress (system : System) (config : Ros1Config) (master : SocketAddr) :
    Tracks (Along Surroundings.rule) (Found maximumMessageBytes before master)
      (advertisedAddress system config master)
      (fun ip around => Found maximumMessageBytes before master around ∧
        Advertised config master around ip)
      fun _ => Found maximumMessageBytes before master := by
  unfold advertisedAddress Advertised
  cases config.advertiseAddress with
  | some text =>
    dsimp only
    cases parsed : IpAddr.parse text with
    | some ip => exact tracks_pure fun _ found => ⟨found, rfl⟩
    | none => exact tracks_fail fun _ found => found
  | none =>
    -- An unspecified address is not accepted.
    have routed : Tracks (Along Surroundings.rule) (Found maximumMessageBytes before master)
        (localAddr (if master.isIpv4 then IpAddr.v4 0 else IpAddr.v6 0) master)
        (fun ip around => Found maximumMessageBytes before master around ∧
          (master, ip) ∈ around.routes)
        fun _ => Found maximumMessageBytes before master := by
      refine tracks_ask fun around found _ answer event result answered => ?_
      cases answer with
      | routed chosen =>
        cases answered
        refine ⟨_, along_one rfl, ?_⟩
        have kept : Found maximumMessageBytes before master { around with
            routes := (result.toOption.map (master, ·)).toList ++ around.routes } :=
          ⟨⟨found.1.limits, found.1.session, found.1.hosts, found.1.environment⟩, found.2⟩
        cases result with
        | ok ip => exact ⟨kept, List.mem_append_left _ (by simp [Except.toOption])⟩
        | error kind => exact kept
      | _ => cases answered
    have told (convert : ErrorKind → String) : Tracks (Along Surroundings.rule)
        (Found maximumMessageBytes before master)
        ((localAddr (if master.isIpv4 then IpAddr.v4 0 else IpAddr.v6 0) master).mapError convert)
        (fun ip around => Found maximumMessageBytes before master around ∧
          (master, ip) ∈ around.routes)
        fun _ => Found maximumMessageBytes before master :=
      routed.mapError fun _ _ found => found
    refine (told _).bind fun ip => ?_
    split
    · exact tracks_fail fun _ both => both.1
    · rename_i specified
      exact tracks_pure fun _ both => ⟨both.1, both.2, by simpa using specified⟩

/-- Both addresses of the session are known. -/
def Settled (maximumMessageBytes : Nat) (config : Ros1Config) (connection : ConnectionInfo)
    (hosts : Text → Option Text) (environment : String → Option Text) (around : Surroundings) :
    Prop :=
  Prepared maximumMessageBytes hosts environment around ∧
    connection.masterAddress ∈ around.reached ∧
    Advertised config connection.masterAddress around connection.advertiseAddress

/-- The hosts once the name that the robot gives itself means an address. -/
def withRobot (hosts : Text → Option Text) (ip : IpAddr) : Text → Option Text :=
  Function.update hosts scoutInternalHostname (some ip.display)

section Changes

variable {config : Ros1Config} {connection : ConnectionInfo}

/-- Giving the robot's name an address changes nothing else. -/
theorem tracks_aliased (convert : String → String) :
    Tracks (Along Surroundings.rule)
      (Settled maximumMessageBytes config connection before.hosts before.environment)
      ((askDone (.aliased scoutInternalHostname connection.masterAddress.ip.display)).mapError
        convert)
      (fun _ => Settled maximumMessageBytes config connection
        (withRobot before.hosts connection.masterAddress.ip) before.environment)
      fun _ => Unstarted config before := by
  -- Where it fails, no name has been given an address.
  have asked : Tracks (Along Surroundings.rule)
      (Settled maximumMessageBytes config connection before.hosts before.environment)
      (askDone (.aliased scoutInternalHostname connection.masterAddress.ip.display))
      (fun _ => Settled maximumMessageBytes config connection
        (withRobot before.hosts connection.masterAddress.ip) before.environment)
      fun _ => Unstarted config before := by
    refine tracks_ask fun around settled _ answer event result answered => ?_
    obtain ⟨prepared, reached, advertised⟩ := settled
    cases answer with
    | done chosen =>
      cases answered
      refine ⟨_, along_one rfl, ?_⟩
      cases result with
      | ok _ =>
        have named : Function.update around.hosts scoutInternalHostname
            (some connection.masterAddress.ip.display) =
              withRobot before.hosts connection.masterAddress.ip := by
          rw [prepared.hosts]
          rfl
        exact ⟨⟨prepared.limits, prepared.session, named, prepared.environment⟩, reached, advertised⟩
      | error text => exact ⟨prepared.session, .inl prepared.environment⟩
    | _ => cases answered
  exact asked.mapError fun _ _ unstarted => unstarted

/-- A change of the environment changes nothing else. -/
theorem tracks_environment {event : CommandEvent}
    (change : (String → Option Text) → String → Option Text)
    (changes : ∀ around : Surroundings, around.rule event =
      some { around with environment := change around.environment })
    {Failed : String → Surroundings → Prop} :
    Tracks (Along Surroundings.rule)
      (Settled maximumMessageBytes config connection hosts environment)
      (note event : CommandM String Unit)
      (fun _ => Settled maximumMessageBytes config connection hosts (change environment))
      Failed := by
  -- Nothing else is looked at.
  refine tracks_note fun around settled => ⟨_, along_one (changes around), ?_⟩
  obtain ⟨prepared, reached, advertised⟩ := settled
  exact ⟨⟨prepared.limits, prepared.session, prepared.hosts, by rw [prepared.environment]⟩,
    reached, advertised⟩

/-- ROS is initialised where the environment announces the address of this computer. -/
theorem tracks_initialised (captureSigint : Bool) :
    Tracks (Along Surroundings.rule)
      (Settled maximumMessageBytes config connection
        (withRobot before.hosts connection.masterAddress.ip)
        (sessionEnvironment before.environment config connection.advertiseAddress))
      (askDone (.initialised config.nodeName captureSigint))
      (fun _ => Started config maximumMessageBytes before connection)
      fun _ => Unstarted config before := by
  -- The limits hold, the address is announced, and no session is there.
  refine tracks_ask fun around settled _ answer event result answered => ?_
  obtain ⟨prepared, reached, advertised⟩ := settled
  have allowed : around.session.isNone = true ∧ around.limits.isSome = true ∧
      around.announces = true := by
    refine ⟨by rw [prepared.session]; rfl, by rw [prepared.limits]; rfl, ?_⟩
    exact announces_sessionEnvironment prepared.environment
  cases answer with
  | done chosen =>
    cases answered
    refine ⟨_, along_one (if_pos allowed), ?_⟩
    cases result with
    | ok _ =>
      exact {
        limits := prepared.limits
        session := rfl
        reached := reached
        advertised := advertised
        robot := by simp [prepared.hosts, withRobot, IpAddr.parse_display]
        hosts := fun host other => by simp [prepared.hosts, withRobot, other]
        environment := prepared.environment
        announced := by simp [prepared.environment, sessionEnvironment, IpAddr.parse_display] }
    | error text => exact ⟨rfl, .inr ⟨_, prepared.environment⟩⟩
  | _ => cases answered

end Changes

/-- However it is answered, starting ROS initialises it once, with the limits in force and with
nothing but the address of this computer announced, or it leaves no session behind. -/
theorem session_started (system : System) (config : Ros1Config) (captureSigint : Bool)
    (maximumMessageBytes : Nat) (before : Surroundings) :
    Tracks (Along Surroundings.rule) (fun around => around = before ∧ around.session = none)
      (init system config captureSigint maximumMessageBytes)
      (fun connection around => Started config maximumMessageBytes before connection around)
      fun _ around => Unstarted config before around := by
  -- Each change leads from one stage to the next one.
  have limited : Tracks (Along Surroundings.rule)
      (fun around => around = before ∧ around.session = none)
      (note (.limited maximumMessageBytes maxConnectionHeaderBytes) : CommandM String Unit)
      (fun _ => Prepared maximumMessageBytes before.hosts before.environment)
      fun _ => Unstarted config before := by
    refine tracks_note fun around initial => ⟨_, along_one rfl, ?_⟩
    obtain ⟨rfl, none⟩ := initial
    exact ⟨rfl, none, rfl, rfl⟩
  refine limited.bind fun _ => ?_
  have master : Tracks (Along Surroundings.rule)
      (Prepared maximumMessageBytes before.hosts before.environment)
      ((network (reachableMasterAddress system.toSocketAddrs config.masterUri)).mapError
        (Ros1Error.display system.describe))
      (fun master => Found maximumMessageBytes before master) fun _ => Unstarted config before :=
    (tracks_master _ _).mapError fun _ _ prepared => prepared.unstarted
  refine master.bind fun masterAddress => ?_
  have advertised : Tracks (Along Surroundings.rule) (Found maximumMessageBytes before masterAddress)
      (advertisedAddress system config masterAddress)
      (fun advertiseAddress => Settled maximumMessageBytes config
        { masterAddress, advertiseAddress } before.hosts before.environment)
      fun _ => Unstarted config before :=
    (tracks_advertisedAddress system config masterAddress).mono (fun _ found => found)
      (fun _ _ both => ⟨both.1.1, both.1.2, both.2⟩) fun _ _ found => found.1.unstarted
  refine advertised.bind fun advertiseAddress => ?_
  refine (tracks_aliased _).bind fun _ => ?_
  -- The three changes of the environment come together.
  refine (tracks_environment (Function.update · "ROS_MASTER_URI" (some config.masterUri))
    fun _ => rfl).bind fun _ => ?_
  refine (tracks_environment (Function.update · "ROS_HOSTNAME" none) fun _ => rfl).bind fun _ => ?_
  refine (tracks_environment (Function.update · "ROS_IP" (some advertiseAddress.display))
    fun _ => rfl).bind fun _ => ?_
  exact (tracks_initialised captureSigint).bind fun _ => tracks_pure fun _ started => started

end Starting

/-- A system whose resolver knows the robot at home. -/
def homeSystem : System where
  toSocketAddrs _ := .ok [homeConnection.masterAddress]
  describe _ := "connection refused"
  debug text := String.ofList text

/-- The settings of a session at home, in which the system chooses the local address. -/
def homeConfig : Ros1Config where
  masterUri := "http://10.42.0.1:11311".toList
  nodeName := "moorebot_scout".toList
  advertiseAddress := none

/-- The robot accepts the first connection, and every call succeeds. -/
def homeScript : List CommandAnswer :=
  [.system (.done (.ok ())), .routed (.ok homeConnection.advertiseAddress), .done (.ok ()),
    .done (.ok ())]

/-- What a command finds around it at home, where another host has been given a name. -/
def homeSurroundings : Surroundings where
  limits := none
  reached := []
  routes := []
  hosts := fun host => if host = "printer".toList then some "10.42.0.9".toList else none
  environment := fun name => if name = "ROS_HOSTNAME" then some "laptop".toList else none
  session := none

/-- ROS is started at home, with the addresses that the robot and the system have given. -/
theorem session_started_home :
    (init homeSystem homeConfig true 1024 ⟨homeScript, []⟩).1 = .returned homeConnection ∧
      ∃ around, Along Surroundings.rule homeSurroundings
          (init homeSystem homeConfig true 1024 ⟨homeScript, []⟩).2.log around ∧
        Surroundings.Started homeConfig 1024 homeSurroundings homeConnection around := by
  -- The run is evaluated, and the general result applies to it.
  have ran : (init homeSystem homeConfig true 1024 ⟨homeScript, []⟩).1 =
      .returned homeConnection := by
    decide +kernel
  obtain ⟨events, log, around, along, settles⟩ :=
    session_started homeSystem homeConfig true 1024 homeSurroundings homeSurroundings ⟨rfl, rfl⟩
      ⟨homeScript, []⟩
  rw [ran] at settles
  rw [List.nil_append] at log
  exact ⟨ran, around, log ▸ along, settles⟩

end Scout.Command
