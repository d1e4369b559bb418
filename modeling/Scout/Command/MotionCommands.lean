import Scout.Command.Connection
import Scout.Command.Loops

/-! The commands that move the robot, with everything they take and give back. -/

namespace Scout

/-- What sending a velocity has returned. -/
def SendVelocityPhase.outcome : SendVelocityPhase → Option Outcome
  | .returned result => some result
  | _ => none

/-- What teleoperation has returned. -/
def TeleopPhase.outcome : TeleopPhase → Option Outcome
  | .returned result => some result
  | _ => none

/-- The keyboard is not read any more, and the final stop is next. -/
def TeleopPhase.isStopping : TeleopPhase → Bool
  | .stopping _ => true
  | _ => false

/-- What the bridge's function has returned. -/
def PublishPhase.outcome : PublishPhase → Option Outcome
  | .returned result => some result
  | _ => none

/-- The bridge is to be shut down, or its function has returned. -/
def PublishPhase.isFinal : PublishPhase → Bool
  | .closing _ => true
  | .returned _ => true
  | _ => false

namespace Command

open Machine Dialogue Wifi

/-- Take a step of a loop whose input is known, where a missing step stands for a panic. -/
def MotorLoop.advance {ε : Type} (loop : MotorLoop) (state : loop.State) (input : loop.Input) :
    CommandM ε loop.State :=
  match loop.step state input with
  | some next => pure next
  | none => wait

/-- Send one velocity for some time. -/
def sendVelocity (system : System) (config : Ros1Config) (request : MotionRequest) :
    CommandM String Unit := do
  let command ← ofExcept request.command
  let connection ← init system config false maxSensorMessageBytes
  ensuring (do
    -- The interrupt handler is installed.
    call
    connectMotorController connection
    ensuring (do
      let loop ← (velocityLoop request).drive (fun loop => loop.phase.outcome.isSome)
        (SendVelocity.start.goto (.starting command))
      sleep (Duration.fromMillis 100)
      ofExcept (loop.phase.outcome.getD (.ok ()))) (giveBack (.publisher cmdVel))) rosShutdown

/-- The command that drives for some milliseconds. -/
def drive (system : System) (config : Ros1Config) (forward lateral yaw : F64) (durationMs : Nat)
    (rateHz : F64) : CommandM String Unit :=
  sendVelocity system config (.drive forward lateral yaw durationMs rateHz)

/-- The command that drives for some seconds. -/
def moveVelocity (system : System) (config : Ros1Config) (vx vy vtheta seconds rateHz : F64) :
    CommandM String Unit :=
  match MotionRequest.moveVelocity vx vy vtheta seconds rateHz with
  | some (.ok request) => sendVelocity system config request
  | some (.error error) => fail error
  | none => wait

/-- Switch the terminal to raw mode, and say whether it reports the release of keys. -/
def enterRawTerminal : CommandM String Bool := do
  take .rawMode
  let keyboardEnhancements ← askFlag .supported
  if keyboardEnhancements then
    -- Raw mode is left again if the keyboard cannot be switched.
    onFailure (take .keyboardFlags) (giveBack .rawMode)
  return keyboardEnhancements

/-- Switch the terminal back. -/
def dropRawTerminal (keyboardEnhancements : Bool) : CommandM Empty Unit := do
  if keyboardEnhancements then giveBack .keyboardFlags
  giveBack .rawMode

/-- Drive from the keyboard until the final stop is next. -/
def runTeleopSession {ε : Type} (windows : Bool) (args : TeleopArgs) : CommandM ε Teleop := do
  let entering := Teleop.start.goto .entering
  let terminal ← enterRawTerminal.attempt
  match terminal with
  | .error error => (teleopLoop args).advance entering (.main (.terminal (.error error)))
  | .ok keyboardEnhancements =>
    ensuring (do
      let loop ← (teleopLoop args).advance entering
        (.main (.terminal (.ok (windows || keyboardEnhancements))))
      (teleopLoop args).drive (fun loop => loop.phase.isStopping) loop)
      (dropRawTerminal keyboardEnhancements)

/-- The command that drives from the keyboard. -/
def teleop (system : System) (windows : Bool) (config : Ros1Config) (args : TeleopArgs)
    (cameraTopic : String) : CommandM String Unit := do
  ofExcept args.validate
  -- The directory for the pictures is created.
  call
  let connection ← init system config false maxMediaMessageBytes
  ensuring (do
    call
    take (.subscriber cameraTopic)
    onFailure (connectMotorController connection) (giveBack (.subscriber cameraTopic))
    ensuring (do
      let session ← runTeleopSession windows args
      -- The terminal is as it was before the robot is stopped.
      let loop ← (teleopLoop args).drive (fun loop => loop.phase.outcome.isSome) session
      sleep (Duration.fromMillis 100)
      giveBack (.subscriber cameraTopic)
      ofExcept (loop.phase.outcome.getD (.ok ()))) (giveBack (.publisher cmdVel))) rosShutdown

/-- The name of the thread that listens for a control client. -/
def controlThread : String := "scout-bridge-control"

/-- The name of the thread that listens for camera clients. -/
def cameraThread : String := "scout-bridge-camera"

/-- Start the bridge's threads, each with its listener. -/
def startBridge (control camera : SocketAddr) : CommandM String Unit := do
  if !control.ip.isLoopback || !camera.ip.isLoopback then
    fail ("bridge addresses must use localhost/loopback; the bridge is not a network " ++
      "authentication boundary")
  else if control = camera ∧ control.port ≠ 0 then
    fail "control and camera addresses must use different ports"
  else do
    askDone (.bound "control" control)
    onFailure (askDone (.bound "camera" camera)) (giveBack (.listener "control"))
    -- Both listeners are made nonblocking and are asked for their addresses.
    onFailure (do call; call; call; call) (do
      giveBack (.listener "camera")
      giveBack (.listener "control"))
    onFailure (askDone (.spawned controlThread "control")) (giveBack (.listener "camera"))
    askDone (.spawned cameraThread "camera")

/-- The settings of the bridge. -/
structure BridgeCommand where
  args : BridgeArgs
  controlAddress : SocketAddr
  cameraAddress : SocketAddr
  cameraTopic : String
  /-- How the lines of a control client are read. -/
  parse : Bytes → Except String ControlRequest

/-- The command that lets other programs drive, whose threads start at a given time. -/
def integrationBridge (system : System) (config : Ros1Config) (command : BridgeCommand)
    (launched : Instant) : CommandM String Unit := do
  let publish := publishLoop command.args command.parse
  ofExcept command.args.validate
  let connection ← init system config false maxMediaMessageBytes
  ensuring (do
    call
    connectMotorController connection
    ensuring (do
      startBridge command.controlAddress command.cameraAddress
      let loop ← publish.advance (PublishLoop.start.goto .launching) (.main (.clock launched))
      take (.subscriber command.cameraTopic)
      let loop ← publish.advance loop (.main (.outcome (.ok ())))
      let loop ← publish.drive (fun loop => loop.phase.isFinal) loop
      match loop.phase.outcome with
      | some (.error error) =>
        -- The first stop could not be sent, and the bridge's threads are left alone.
        giveBack (.subscriber command.cameraTopic)
        fail error
      | _ =>
        sleep (Duration.fromMillis 100)
        giveBack (.subscriber command.cameraTopic)
        let loop ← publish.drive (fun loop => loop.phase.outcome.isSome) loop
        -- Shutting the bridge down has waited for its threads.
        giveBack (.thread controlThread)
        giveBack (.thread cameraThread)
        ofExcept (loop.phase.outcome.getD (.ok ()))) (giveBack (.publisher cmdVel))) rosShutdown

end Command
end Scout
