import Scout.Bridge.Threads
import Scout.Camera.Serve

/-! The threads around the latest frame: publisher, listener, and camera workers. -/

namespace Scout

/-- How many camera clients are served at a time. -/
def maxCameraClients : UInt64 := 4

/-- One camera worker. -/
structure CameraWorker where
  serve : CameraServe
  finished : Bool

/-- Where the camera listener stands between two of its effects. -/
inductive CameraListenerPhase where
  | testing
  | accepting
  | counting (connection : Connection)
  | refusing (connection : Connection)
  | spawning (connection : Connection)
  | uncounting
  | finished
  deriving DecidableEq

/-- What is recorded about a run. -/
inductive CameraHappening where
  | published (jpeg : Bytes)
  | requested (connection : Connection)
  | answered (connection : Connection) (jpeg : Bytes)
  | dropped (connection : Connection)
  deriving DecidableEq

/-- The threads, what they share, and the history of the run, newest first. -/
structure CameraServer where
  running : Bool
  frame : Mutex LatestFrame
  clients : UInt64
  listener : CameraListenerPhase
  workers : Connection → Option CameraWorker
  backlog : List Connection
  nextConnection : Connection
  history : List CameraHappening

/-- The state in which the camera listener has just been started. -/
def CameraServer.start : CameraServer where
  running := true
  frame := { value := LatestFrame.default }
  clients := 0
  listener := .testing
  workers _ := none
  backlog := []
  nextConnection := 0
  history := []

/-- One step of one thread or of the environment. -/
inductive CameraEvent where
  /-- The subscription stores a frame. -/
  | publish (jpeg : Bytes)
  /-- The running flag is cleared. -/
  | signal
  /-- A client connects to the camera port. -/
  | connect
  /-- The listener takes its next step. -/
  | listener (input : ListenerInput)
  /-- A camera worker takes its next step. -/
  | worker (connection : Connection) (input : CameraInput)
  deriving DecidableEq

/-- What a worker's deed is recorded as. -/
def CameraDeed.happening (connection : Connection) : CameraDeed → CameraHappening
  | .requested => .requested connection
  | .answered jpeg => .answered connection jpeg
  | .dropped => .dropped connection

namespace CameraServer

/-- Replace one worker. -/
def setWorker (server : CameraServer) (connection : Connection) (worker : CameraWorker) :
    CameraServer :=
  { server with workers := Function.update server.workers connection (some worker) }

/-- One effect of the camera listener. -/
def runCameraListener (server : CameraServer) (input : ListenerInput) : Option CameraServer :=
  match server.listener, input with
  | .testing, .proceed =>
    some { server with listener := if server.running then .accepting else .finished }
  | .accepting, .accepted =>
    match server.backlog with
    | connection :: rest => some { server with backlog := rest, listener := .counting connection }
    | [] => none
  | .accepting, .noConnection => some { server with listener := .testing }
  -- The client is counted before the cap is checked.
  | .counting connection, .proceed =>
    some { server with
      clients := server.clients + 1
      listener :=
        if maxCameraClients ≤ server.clients then .refusing connection else .spawning connection }
  | .refusing _, .proceed =>
    some { server with clients := server.clients - 1, listener := .testing }
  -- The worker inherits the count of its client, and gives it back when it ends.
  | .spawning connection, .io succeeded =>
    if succeeded then
      some ({ server with listener := .testing }.setWorker connection
        { serve := CameraServe.start, finished := false })
    else some { server with listener := .uncounting }
  -- A worker that could not be started never counts down itself.
  | .uncounting, .proceed =>
    some { server with clients := server.clients - 1, listener := .testing }
  | _, _ => none

/-- One effect of a camera worker's thread. -/
def runCameraClient (server : CameraServer) (connection : Connection) (input : CameraInput) :
    Option CameraServer :=
  match server.workers connection with
  | some { serve, finished := false } =>
    match serve.phase, input with
    -- Whatever the function returned, the client is no longer counted.
    | .returned, .proceed =>
      some ({ server with clients := server.clients - 1 }.setWorker connection
        { serve, finished := true })
    | _, _ =>
      match serveCameraClient server.running server.frame serve input with
      | some effect =>
        some ({ server with
          history := (effect.deed.map (CameraDeed.happening connection)).toList ++
            server.history }.setWorker connection { serve := effect.serve, finished := false })
      | none => none
  | _ => none

/-- One step of the camera side of the bridge. -/
def step (server : CameraServer) : CameraEvent → Option CameraServer
  | .publish jpeg =>
    some { server with
      frame := FrameSink.publish server.frame jpeg
      history := .published jpeg :: server.history }
  | .signal => some { server with running := false }
  | .connect =>
    some { server with
      backlog := server.backlog ++ [server.nextConnection]
      nextConnection := server.nextConnection + 1 }
  | .listener input => server.runCameraListener input
  | .worker connection input => server.runCameraClient connection input

end CameraServer
end Scout
