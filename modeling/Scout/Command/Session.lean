import Scout.Command.Effects
import Scout.Transport.BoundedMessage
import Scout.Wifi.AddressDisplay

/-! Starting ROS, connecting to the motor controller, and shutting ROS down. -/

namespace Scout.Command

open Machine Dialogue Wifi

/-- The topic that moves the robot. -/
def cmdVel : String := "/cmd_vel"

/-- The longest header of a connection that is accepted. -/
def maxConnectionHeaderBytes : Nat := 64 * 1024

/-- The name that the robot gives itself in the addresses of its nodes. -/
def scoutInternalHostname : Text := "linaro-alip".toList

/-- How often the motor controller is waited for. -/
def motorConnectionAttempts : Nat := 2

/-- How long the motor controller is waited for each time. -/
def motorConnectionWait : Duration := Duration.fromSecs 6

/-- The time between two attempts. -/
def motorConnectionRetryPause : Duration := Duration.fromMillis 250

/-- The resolver, and the texts that the system and its library have of their own. -/
structure System where
  toSocketAddrs : Text → Except ErrorKind (List SocketAddr)
  describe : ErrorKind → String
  debug : Text → String

/-- The settings of a session. -/
structure Ros1Config extends Wifi.Ros1Config where
  /-- An address of this computer, which is found if it is not given. -/
  advertiseAddress : Option Text

/-- The addresses that are used in a session. -/
structure ConnectionInfo where
  masterAddress : SocketAddr
  advertiseAddress : IpAddr
  deriving DecidableEq

/-- Let the system choose the local address from which a destination is reached. -/
def localAddr (bindAddress : IpAddr) (destination : SocketAddr) : CommandM ErrorKind IpAddr :=
  ask fun _ answer =>
    match answer with
    | .routed result => some (.routed bindAddress destination result, result)
    | _ => none

/-- The local address from which the master is reached. -/
def routeLocalAddress (system : System) (destination : SocketAddr) : CommandM String IpAddr := do
  let bindAddress := if destination.isIpv4 then IpAddr.v4 0 else IpAddr.v6 0
  let ip ← (localAddr bindAddress destination).mapError fun error =>
    s!"cannot select this computer's address for the Scout: {system.describe error}" ++
      "; pass --advertise-address explicitly"
  if ip.isUnspecified then
    fail ("the operating system selected an unspecified local address" ++
      "; pass --advertise-address explicitly")
  else return ip

/-- The address that the robot is told, which is given or found. -/
def advertisedAddress (system : System) (config : Ros1Config) (masterAddress : SocketAddr) :
    CommandM String IpAddr :=
  match config.advertiseAddress with
  | some address =>
    match IpAddr.parse address with
    | some ip => pure ip
    | none => fail ("--advertise-address must be an IPv4 or IPv6 address, not " ++
        system.debug address)
  | none => routeLocalAddress system masterAddress

/-- Start ROS. -/
def init (system : System) (config : Ros1Config) (captureSigint : Bool)
    (maximumMessageBytes : Nat) : CommandM String ConnectionInfo := do
  -- The limits hold before anything is received.
  note (.limited maximumMessageBytes maxConnectionHeaderBytes)
  let masterAddress ← (network (reachableMasterAddress system.toSocketAddrs
    config.masterUri)).mapError (Ros1Error.display system.describe)
  let advertiseAddress ← advertisedAddress system config masterAddress
  (askDone (.aliased scoutInternalHostname masterAddress.ip.display)).mapError fun error =>
    "cannot configure the Scout hostname: " ++ error
  note (.setVar "ROS_MASTER_URI" config.masterUri)
  -- The name of the host would come before its address.
  note (.removeVar "ROS_HOSTNAME")
  note (.setVar "ROS_IP" advertiseAddress.display)
  askDone (.initialised config.nodeName captureSigint)
  return { masterAddress, advertiseAddress }

/-- How many nodes are connected to a publisher. -/
def subscriberCount {ε : Type} (topic : String) : CommandM ε Nat :=
  ask fun _ answer =>
    match answer with
    | .count subscribers => some (.counted topic subscribers, .ok subscribers)
    | _ => none

/-- Counting the subscribers leaves their number behind. -/
theorem answered_subscriberCount {ε : Type} {topic : String}
    {Related : List CommandEvent → Reply ε Nat → Prop} (unanswered : Related [] .waiting)
    (answered : ∀ subscribers, Related [.counted topic subscribers] (.returned subscribers)) :
    Leaves Related (subscriberCount topic : CommandM ε Nat) := by
  -- No other answer fits.
  refine leaves_answered unanswered fun _ answer _ _ found => ?_
  cases answer with
  | count subscribers =>
    cases found
    exact answered subscribers
  | _ => cases found

/-- One look at whether a publisher has a subscriber, and a pause if it has none. -/
def waitRound {ε : Type} (topic : String) (deadline : Instant) :
    CommandM ε (Unit ⊕ Bool) := do
  if !(← isOk) then return .inr false
  let now ← instantNow
  if deadline ≤ now then return .inr false
  let subscribers ← subscriberCount topic
  if 0 < subscribers then return .inr true
  sleep (Duration.fromMillis 50)
  return .inl ()

/-- Wait until a publisher has a subscriber, or until the time is up. -/
def waitForASubscriber {ε : Type} (topic : String) (timeout : Duration) : CommandM ε Bool := do
  let now ← instantNow
  let found ← repeatUntil answersLeft (fun _ => waitRound topic (now + timeout)) ()
  if found then return true
  -- There is one more look after the loop.
  let subscribers ← subscriberCount topic
  return decide (0 < subscribers)

/-- The nodes that the master reports as subscribers of a topic. -/
def registeredSubscribers (topic : String) (state : RosState) : List String :=
  ((state.subscribers.find? fun entry => entry.name == topic).map Registration.connections).getD []

/-- Ask the master about all nodes. -/
def askState : CommandM String RosState :=
  ask fun _ answer =>
    match answer with
    | .state result => some (.asked result, result)
    | _ => none

/-- Asking the master leaves its report behind. -/
theorem answered_askState {Related : List CommandEvent → Reply String RosState → Prop}
    (unanswered : Related [] .waiting)
    (answered : ∀ result, Related [.asked result] (.ofResult result)) :
    Leaves Related askState := by
  -- No other answer fits.
  refine leaves_answered unanswered fun _ answer _ _ found => ?_
  cases answer with
  | state report =>
    cases found
    exact answered _
  | _ => cases found

/-- The text that explains why there is no connection to the motor controller. -/
def motorConnectionText (connection : ConnectionInfo) (state : Except String RosState) : String :=
  match state.map (registeredSubscribers cmdVel) with
  | .ok (node :: nodes) =>
    "the ROS master reports a /cmd_vel motor subscriber (" ++
      ", ".intercalate (node :: nodes) ++
      ") but it could not connect back to this computer at " ++
      String.ofList connection.advertiseAddress.display ++
      ". No movement was sent. On Windows, set only the dedicated Scout Wi-Fi network to " ++
      "Private and allow the current moorebot-scout.exe path through the firewall on Private " ++
      "networks. On managed, guest, or router Wi-Fi, verify that client isolation and inbound " ++
      "firewall rules permit connections from the Scout"
  | _ =>
    "the Scout ROS master has no /cmd_vel motor subscriber, so no movement was sent. Wait for " ++
      "the Scout to finish starting, run discover again, and power-cycle the Scout if " ++
      "/MotorNode does not return"

/-- Find out why there is no connection to the motor controller. -/
def motorConnectionError {ε : Type} (connection : ConnectionInfo) : CommandM ε String := do
  let state ← askState.attempt
  return motorConnectionText connection state

/-- Make the attempts that are left to connect to the motor controller. -/
def connectAttempts (connection : ConnectionInfo) : List Nat → CommandM String Unit
  | [] => do
    let error ← motorConnectionError connection
    fail error
  | attempt :: rest => do
    take (.publisher cmdVel)
    if ← waitForASubscriber cmdVel motorConnectionWait then return ()
    -- The publisher is unregistered before it is registered again.
    giveBack (.publisher cmdVel)
    if attempt < motorConnectionAttempts then sleep motorConnectionRetryPause
    connectAttempts connection rest

/-- Connect to the motor controller, whose publisher is then held. -/
def connectMotorController (connection : ConnectionInfo) : CommandM String Unit :=
  connectAttempts connection ((List.range motorConnectionAttempts).map (· + 1))

/-- Shut ROS down, and wait a moment. -/
def rosShutdown : CommandM Empty Unit := do
  giveBack .session
  sleep (Duration.fromMillis 50)

end Scout.Command
