import Scout.Bridge.Serve

/-! What one request, and one effect of a control worker, can do to the command register. -/

namespace Scout

/-- The velocity response reports success. -/
@[simp] theorem isOk_velocityResponse (command : ScoutTwist F64) (timeoutMs : Nat) :
    (velocityResponse command timeoutMs).isOk = true := rfl

/-- The stop response reports success. -/
@[simp] theorem isOk_stopResponse : stopResponse.isOk = true := rfl

/-- The pong reports success. -/
@[simp] theorem isOk_pongResponse : pongResponse.isOk = true := rfl

/-- An error response reports failure. -/
@[simp] theorem isOk_errorResponse (message : String) : (errorResponse message).isOk = false := rfl

/-- A lock nobody poisoned can be taken. -/
theorem lock_eq_some {α : Type} {mutex : Mutex α} (free : mutex.poisoned = false) :
    mutex.lock = some mutex.value := by
  -- Only a poisoned lock refuses.
  simp [Mutex.lock, free]

/-- A velocity request that passes every check, and the command it becomes. -/
structure VelocityAccepted (vx vy vtheta : F64) (timeoutMs : Nat) (maximumTimeout : Duration)
    (command : ScoutTwist F64) : Prop where
  positive : 1 ≤ timeoutMs
  bounded : Duration.fromMillis timeoutMs ≤ maximumTimeout
  mapped : (Velocity.new vx vy vtheta).toScoutTwist MotionLimits.default = .ok command

/-- How handling a request, done or not, has changed the command register. -/
inductive RegisterWrite (maximumTimeout : Duration) (now : Instant) (before : Mutex MotionState) :
    Option Handled → Mutex MotionState → Prop where
  /-- An accepted velocity installs its command and deadline. -/
  | velocity {vx vy vtheta : F64} {timeoutMs : Nat} {command : ScoutTwist F64}
      (accepted : VelocityAccepted vx vy vtheta timeoutMs maximumTimeout command) :
      RegisterWrite maximumTimeout now before
        (some { request := .velocity vx vy vtheta timeoutMs, accepted := true })
        (before.write { command, deadline := some (now + Duration.fromMillis timeoutMs) })
  /-- An accepted stop clears the register. -/
  | stop :
      RegisterWrite maximumTimeout now before (some { request := .stop, accepted := true })
        (before.write before.value.stop)
  /-- A ping leaves the register alone. -/
  | ping : RegisterWrite maximumTimeout now before (some { request := .ping, accepted := true }) before
  /-- A refused request leaves the register alone. -/
  | refused (request : ControlRequest) :
      RegisterWrite maximumTimeout now before (some { request, accepted := false }) before
  /-- Nothing was handled. -/
  | none : RegisterWrite maximumTimeout now before none before

/-- Handling a request writes the register as its kind and its acceptance say. -/
theorem handleRequest_write (request : ControlRequest) {motion : Mutex MotionState}
    (maximumTimeout : Duration) (now : Instant) (free : motion.poisoned = false) :
    RegisterWrite maximumTimeout now motion
      (some { request, accepted := (handleRequest request motion maximumTimeout now).1.isOk })
      (handleRequest request motion maximumTimeout now).2 := by
  -- The cases follow the branches of the handler.
  cases request with
  | velocity vx vy vtheta timeoutMs =>
    simp only [handleRequest]
    by_cases outside : timeoutMs = 0 ∨ maximumTimeout < Duration.fromMillis timeoutMs
    · simp only [if_pos outside, isOk_errorResponse]
      exact .refused _
    · simp only [if_neg outside]
      cases mapped : (Velocity.new vx vy vtheta).toScoutTwist MotionLimits.default with
      | error problem => simpa using RegisterWrite.refused _
      | ok command =>
        simp only [lock_eq_some free, isOk_velocityResponse]
        obtain ⟨nonzero, within⟩ := not_or.mp outside
        exact .velocity ⟨Nat.one_le_iff_ne_zero.mpr nonzero, Nat.le_of_not_lt within, mapped⟩
  | stop =>
    simp only [handleRequest, lock_eq_some free, isOk_stopResponse]
    exact .stop
  | ping =>
    simp only [handleRequest, isOk_pongResponse]
    exact .ping

/-- Draining a line writes the register only through the request it holds. -/
theorem drain_write (config : ControlConfig) (now : Instant) {motion : Mutex MotionState}
    (serve : Serve) (free : motion.poisoned = false) :
    RegisterWrite config.maximumTimeout now motion (serve.drain config now motion).handled
      (serve.drain config now motion).motion := by
  -- Only a parsed line reaches the handler.
  unfold Serve.drain
  cases Stream.takeLine newline serve.pending with
  | none =>
    simp only
    by_cases long : maxControlLineBytes < serve.pending.length
    · rw [if_pos long]; exact .none
    · rw [if_neg long]; exact .none
  | some parts =>
    obtain ⟨line, rest⟩ := parts
    simp only
    by_cases long : maxControlLineBytes < line.length
    · rw [if_pos long]; exact .none
    · rw [if_neg long]
      cases config.parse line with
      | error problem => exact .none
      | ok request => exact handleRequest_write request config.maximumTimeout now free

/-- A worker's effect either leaves the register alone or drains a line. -/
theorem serveControlClient_cases {config : ControlConfig} {running : Bool} {now : Instant}
    {motion : Mutex MotionState} {serve : Serve} {input : ServeInput} {effect : ServeEffect}
    (served : serveControlClient config running now motion serve input = some effect) :
    (∃ next, effect = .quiet motion next) ∨ effect = serve.drain config now motion := by
  -- Each phase has one branch per answer, and only the draining one is not quiet.
  unfold serveControlClient at served
  split at served
  all_goals
    first
    | exact .inl ⟨_, (Option.some.inj served).symm⟩
    | exact .inr (Option.some.inj served).symm
    | cases served
    | skip
  -- A read is only accepted within the buffer it fills.
  split at served
  · exact .inl ⟨_, (Option.some.inj served).symm⟩
  · cases served

/-- Every effect of a worker writes the register only through the request it handles. -/
theorem serveControlClient_write {config : ControlConfig} {running : Bool} {now : Instant}
    {motion : Mutex MotionState} {serve : Serve} {input : ServeInput} {effect : ServeEffect}
    (free : motion.poisoned = false)
    (served : serveControlClient config running now motion serve input = some effect) :
    RegisterWrite config.maximumTimeout now motion effect.handled effect.motion := by
  -- A quiet effect writes nothing, and a drained line writes what its request says.
  rcases serveControlClient_cases served with ⟨next, rfl⟩ | rfl
  · exact .none
  · exact drain_write config now serve free

/-- Stopping an unpoisoned register gives the default state. -/
theorem stopMotion_value {motion : Mutex MotionState} (free : motion.poisoned = false) :
    (stopMotion motion).value = MotionState.default := by
  -- The lock can be taken, and both fields are overwritten.
  simp [stopMotion, lock_eq_some free, Mutex.write, MotionState.stop, MotionState.default]

/-- Stopping never poisons the lock. -/
@[simp] theorem stopMotion_poisoned (motion : Mutex MotionState) :
    (stopMotion motion).poisoned = motion.poisoned := by
  -- Both branches keep the flag.
  unfold stopMotion
  split <;> rfl

/-- Reading the command never poisons the lock. -/
@[simp] theorem currentCommand_poisoned (motion : Mutex MotionState) (now : Instant) :
    (currentCommand motion now).2.poisoned = motion.poisoned := by
  -- Both branches keep the flag.
  unfold currentCommand
  split <;> rfl

/-- Reading the command of a clear register leaves it clear. -/
theorem currentCommand_default {motion : Mutex MotionState} (now : Instant)
    (clear : motion.value = MotionState.default) :
    (currentCommand motion now).2.value = MotionState.default := by
  -- Without a deadline the register is cleared once more.
  unfold currentCommand Mutex.lock
  by_cases poisoned : motion.poisoned = true
  · simpa [poisoned] using clear
  · simp [poisoned, Mutex.write, MotionState.current, MotionState.stop, clear, MotionState.default]

/-- Handling a request never poisons the lock. -/
theorem RegisterWrite.poisoned {maximumTimeout : Duration} {now : Instant}
    {before after : Mutex MotionState} {handled : Option Handled}
    (written : RegisterWrite maximumTimeout now before handled after) :
    after.poisoned = before.poisoned := by
  -- Every write goes through a held lock.
  cases written <;> rfl

end Scout
