import Scout.Bridge.ServeLaws
import Scout.Motion.Bounds

/-! A request is answered honestly, and one that is not accepted changes nothing. -/

namespace Scout

/-- The response that a worker is about to write. -/
def ServeEffect.response (effect : ServeEffect) : Option Json :=
  match effect.serve.phase with
  | .responding response => some response
  | .refusing message => some (errorResponse message)
  | _ => none

/-- Whether a response is the one to a ping. -/
def Json.isPong (response : Json) : Bool :=
  match response.get "type" with
  | some (.text kind) => kind == "pong"
  | _ => false

/-- A velocity request that must be accepted. -/
structure Acceptable (velocity : Velocity F64) (timeoutMs : Nat) (maximumTimeout : Duration) :
    Prop where
  positive : 1 ≤ timeoutMs
  bounded : Duration.fromMillis timeoutMs ≤ maximumTimeout
  finite : velocity.Finite

/-- What an accepted velocity leaves behind, and what its response echoes. -/
structure Armed (velocity : Velocity F64) (timeoutMs : Nat) (now : Instant) (response : Json)
    (after : Mutex MotionState) (command : ScoutTwist F64) : Prop where
  mapped : velocity.toScoutTwist .default = .ok command
  stored : after =
    { value := { command, deadline := some (now + Duration.fromMillis timeoutMs) } }
  inverse : response.get "applied" =
    some (.array [.float command.linearY, .float (-command.linearX), .float command.angularZ])
  clamp : response.get "applied" =
    some (.array ([.forward, .lateral, .yaw].map fun axis => .float (Scalar.clamp
      (velocity.along axis) (-MotionLimits.default.along axis) (MotionLimits.default.along axis))))

/-- What the answer to a request does, from a register that nobody poisoned. -/
structure Honest (maximumTimeout : Duration) (now : Instant) (state : MotionState)
    (request : Except String ControlRequest) (response : Json) (after : Mutex MotionState) :
    Prop where
  atomic : response.isOk = false ∨ response.isPong = true → after = { value := state }
  decided : ∀ vx vy vtheta timeoutMs, request = .ok (.velocity vx vy vtheta timeoutMs) →
    (response.isOk = true ↔ Acceptable (.new vx vy vtheta) timeoutMs maximumTimeout)
  armed : ∀ vx vy vtheta timeoutMs, request = .ok (.velocity vx vy vtheta timeoutMs) →
    response.isOk = true → ∃ command, Armed (.new vx vy vtheta) timeoutMs now response after command

variable {maximumTimeout : Duration} {now : Instant} {state : MotionState}

/-- An error response to a request that cannot be a velocity request is honest. -/
theorem honest_error {request : Except String ControlRequest} (message : String)
    (unacceptable : ∀ vx vy vtheta timeoutMs, request = .ok (.velocity vx vy vtheta timeoutMs) →
      ¬ Acceptable (.new vx vy vtheta) timeoutMs maximumTimeout) :
    Honest maximumTimeout now state request (errorResponse message) { value := state } where
  atomic _ := rfl
  decided vx vy vtheta timeoutMs same := by
    -- An error response does not report success.
    rw [isOk_errorResponse]
    exact iff_of_false Bool.false_ne_true (unacceptable vx vy vtheta timeoutMs same)
  armed vx vy vtheta timeoutMs same accepted := by
    -- An error response does not report success.
    cases accepted

/-- The default limits map exactly the finite velocities. -/
theorem mapped_default_iff {velocity : Velocity F64} :
    (∃ command, velocity.toScoutTwist .default = .ok command) ↔ velocity.Finite := by
  -- The limits pass their own checks.
  simp only [Velocity.toScoutTwist_eq_ok]
  exact ⟨fun found => found.choose_spec.1.1, fun finite => ⟨_, ⟨finite, default_positive⟩, rfl⟩⟩

/-- An accepted velocity is stored and echoed as it was mapped. -/
theorem armed_of_mapped {velocity : Velocity F64} {timeoutMs : Nat} {command : ScoutTwist F64}
    (mapped : velocity.toScoutTwist .default = .ok command) :
    Armed velocity timeoutMs now (velocityResponse command timeoutMs)
      { value := { command, deadline := some (now + Duration.fromMillis timeoutMs) } } command where
  mapped := mapped
  stored := rfl
  inverse := rfl
  clamp := by
    -- The axes of the command are read back in the order of the request.
    have component (axis : Axis) := (Velocity.clampedTo_of_ok mapped axis).formula
    simp only [List.map_cons, List.map_nil, ← component]
    rfl

/-- Handling a request is honest. -/
theorem honest_handleRequest (request : ControlRequest) :
    Honest maximumTimeout now state (.ok request)
      (handleRequest request { value := state } maximumTimeout now).1
      (handleRequest request { value := state } maximumTimeout now).2 := by
  cases request with
  | velocity vx vy vtheta timeoutMs =>
    simp only [handleRequest]
    by_cases outside : timeoutMs = 0 ∨ maximumTimeout < Duration.fromMillis timeoutMs
    · -- The lifetime is refused before the velocity is looked at.
      rw [if_pos outside]
      refine honest_error _ fun _ _ _ _ same acceptable => ?_
      cases same
      rcases outside with zero | above
      · exact absurd acceptable.positive (by omega)
      · exact absurd above (Nat.not_lt.mpr acceptable.bounded)
    · rw [if_neg outside]
      cases mapped : (Velocity.new vx vy vtheta).toScoutTwist MotionLimits.default with
      | error problem =>
        refine honest_error _ fun _ _ _ _ same acceptable => ?_
        cases same
        obtain ⟨command, found⟩ := mapped_default_iff.mpr acceptable.finite
        rw [mapped] at found
        cases found
      | ok command =>
        obtain ⟨nonzero, within⟩ := not_or.mp outside
        have acceptable : Acceptable (.new vx vy vtheta) timeoutMs maximumTimeout := {
          positive := Nat.one_le_iff_ne_zero.mpr nonzero
          bounded := Nat.le_of_not_lt within
          finite := mapped_default_iff.mp ⟨command, mapped⟩ }
        exact {
          atomic := by
            intro refused
            rcases refused with negative | pong
            · cases negative
            · cases pong
          decided := by
            intro _ _ _ _ same
            cases same
            exact iff_of_true rfl acceptable
          armed := by
            intro _ _ _ _ same _
            cases same
            exact ⟨command, armed_of_mapped mapped⟩ }
  | stop =>
    -- A stop is accepted, and is no velocity request.
    have accepted : stopResponse.isOk = false ∨ stopResponse.isPong = true → False := by decide
    exact {
      atomic := fun refused => (accepted refused).elim
      decided := fun _ _ _ _ same => by cases same
      armed := fun _ _ _ _ same _ => by cases same }
  | ping =>
    -- A ping is accepted without taking the lock.
    exact {
      atomic := fun _ => rfl
      decided := fun _ _ _ _ same => by cases same
      armed := fun _ _ _ _ same _ => by cases same }

/-- The request that a complete line holds. -/
def ControlConfig.requestIn (config : ControlConfig) (line : Bytes) : Except String ControlRequest :=
  if maxControlLineBytes < line.length then .error "control message is too long"
  else config.parse line

/-- Whatever line comes first in the buffer, it is answered honestly. -/
theorem Serve.drain_honest (config : ControlConfig) (now : Instant) (state : MotionState)
    (serve : Serve) :
    match Stream.takeLine newline serve.pending with
    | none => (serve.drain config now { value := state }).motion = { value := state }
    | some (line, _) => ∃ response,
      (serve.drain config now { value := state }).response = some response ∧
        Honest config.maximumTimeout now state (config.requestIn line) response
          (serve.drain config now { value := state }).motion := by
  unfold Serve.drain
  cases Stream.takeLine newline serve.pending with
  | none =>
    -- Nothing is answered before a line is complete.
    dsimp only
    by_cases long : maxControlLineBytes < serve.pending.length
    · rw [if_pos long]
    · rw [if_neg long]
  | some parts =>
    obtain ⟨line, rest⟩ := parts
    dsimp only [ControlConfig.requestIn]
    by_cases long : maxControlLineBytes < line.length
    · rw [if_pos long, if_pos long]
      exact ⟨_, rfl, honest_error _ nofun⟩
    · rw [if_neg long, if_neg long]
      cases config.parse line with
      | error problem => exact ⟨_, rfl, honest_error _ nofun⟩
      | ok request => exact ⟨_, rfl, honest_handleRequest request⟩

end Scout
