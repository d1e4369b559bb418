import Scout.Bridge.Json
import Scout.Motion.Velocity
import Scout.Number.Duration

/-! The command register of the bridge and the requests that write it. -/

namespace Scout

/-- The version announced in the greeting. -/
def protocolVersion : Nat := 1

/-- A value behind a lock, which a panicking holder leaves poisoned. -/
structure Mutex (α : Type) where
  value : α
  poisoned : Bool := false
  deriving DecidableEq

/-- Taking the lock gives the value unless an earlier holder panicked. -/
def Mutex.lock {α : Type} (mutex : Mutex α) : Option α :=
  if mutex.poisoned then none else some mutex.value

/-- Writing through a held lock. -/
def Mutex.write {α : Type} (mutex : Mutex α) (value : α) : Mutex α :=
  { mutex with value := value }

/-- The current command and the time at which it lapses. -/
structure MotionState where
  command : ScoutTwist F64
  deadline : Option Instant
  deriving DecidableEq

namespace MotionState

/-- No command and no deadline. -/
def default : MotionState where
  command := ScoutTwist.zero
  deadline := none

/-- Replace the command by zero and drop the deadline. -/
def stop (_state : MotionState) : MotionState where
  command := ScoutTwist.zero
  deadline := none

/-- The command in force now, clearing the register once its deadline has passed. -/
def current (state : MotionState) (now : Instant) : ScoutTwist F64 × MotionState :=
  -- At the deadline itself the command has lapsed.
  if state.deadline.any (fun deadline => now < deadline) then (state.command, state)
  else (ScoutTwist.zero, state.stop)

end MotionState

/-- Stop through the lock, doing nothing when it is poisoned. -/
def stopMotion (motion : Mutex MotionState) : Mutex MotionState :=
  match motion.lock with
  | some state => motion.write state.stop
  | none => motion

/-- The command the publisher reads at a clock reading, zero when the lock is poisoned. -/
def currentCommand (motion : Mutex MotionState) (now : Instant) :
    ScoutTwist F64 × Mutex MotionState :=
  match motion.lock with
  | some state => ((state.current now).1, motion.write (state.current now).2)
  | none => (ScoutTwist.zero, motion)

/-- A parsed request line. -/
inductive ControlRequest where
  | velocity (vx vy vtheta : F64) (timeoutMs : Nat)
  | stop
  | ping
  deriving DecidableEq

/-- Whole milliseconds of a duration, saturating at the largest 64-bit value. -/
def durationMilliseconds (duration : Duration) : Nat :=
  if duration.asMillis < 2 ^ 64 then duration.asMillis else 2 ^ 64 - 1

/-- A response that reports an error. -/
def errorResponse (message : String) : Json :=
  .object [("ok", .bool false), ("type", .text "error"), ("message", .text message)]

/-- The response to an accepted velocity. -/
def velocityResponse (command : ScoutTwist F64) (timeoutMs : Nat) : Json :=
  .object [("ok", .bool true), ("type", .text "velocity"),
    ("applied", .array
      [.float command.linearY, .float (-command.linearX), .float command.angularZ]),
    ("timeout_ms", .int timeoutMs)]

/-- The response to a stop. -/
def stopResponse : Json :=
  .object [("ok", .bool true), ("type", .text "stop")]

/-- The response to a ping. -/
def pongResponse : Json :=
  .object [("ok", .bool true), ("type", .text "pong"), ("protocol", .int protocolVersion)]

/-- The first line on an owner's connection. -/
def helloResponse (maximumTimeout : Duration) : Json :=
  .object [("ok", .bool true), ("type", .text "hello"), ("protocol", .int protocolVersion),
    ("max_command_timeout_ms", .int (durationMilliseconds maximumTimeout))]

/-- The only line on a connection that finds the bridge owned. -/
def busyResponse : Json :=
  .object [("ok", .bool false), ("type", .text "error"), ("code", .text "busy"),
    ("message", .text ("Another client already controls the bridge. Close or delete the existing "
      ++ "MATLAB/Python Scout client, then reconnect."))]

/-- Answer one request, where now is the clock reading taken while the lock is held. -/
def handleRequest (request : ControlRequest) (motion : Mutex MotionState)
    (maximumTimeout : Duration) (now : Instant) : Json × Mutex MotionState :=
  match request with
  | .velocity vx vy vtheta timeoutMs =>
    -- Everything is validated before the lock is taken.
    if timeoutMs = 0 ∨ maximumTimeout < Duration.fromMillis timeoutMs then
      (errorResponse (s!"timeout_ms must be between 1 and {durationMilliseconds maximumTimeout}"),
        motion)
    else
      -- The robot's own limits count, whatever the client knows of them.
      match (Velocity.new vx vy vtheta).toScoutTwist MotionLimits.default with
      | .error problem => (errorResponse problem.display, motion)
      | .ok command =>
        match motion.lock with
        | some _ =>
          (velocityResponse command timeoutMs,
            motion.write { command, deadline := some (now + Duration.fromMillis timeoutMs) })
        | none => (errorResponse "motion state is unavailable", motion)
  | .stop =>
    match motion.lock with
    | some state => (stopResponse, motion.write state.stop)
    | none => (errorResponse "motion state is unavailable", motion)
  -- A ping neither needs the register nor extends the command.
  | .ping => (pongResponse, motion)

end Scout
