import Scout.Bridge.ServeLaws
import Scout.Bridge.Threads

/-! Everything one step of the bridge can do, guards included. -/

namespace Scout.Bridge

/-- The possible steps of the bridge with the states they lead to. -/
inductive Steps (config : ControlConfig) (before : Bridge) : BridgeEvent → Bridge → Prop where
  | tick (elapsed : Duration) :
      Steps config before (.tick elapsed) { before with clock := before.clock + elapsed }
  | signal : Steps config before .signal { before with running := false }
  | connect :
      Steps config before .connect
        ({ before with
          backlog := before.backlog ++ [before.nextConnection]
          nextConnection := before.nextConnection + 1 }.record (.arrived before.nextConnection))
  | listen {input : ListenerInput} {phase : ListenerPhase}
      (idle : phase = .testing ∨ phase = .accepting ∨ phase = .joining)
      (was : before.listener = .testing ∨ before.listener = .accepting) :
      Steps config before (.listener input) { before with listener := phase }
  | accept {connection : Connection} {rest : List Connection}
      (was : before.listener = .accepting) (waiting : before.backlog = connection :: rest) :
      Steps config before (.listener .accepted)
        { before with backlog := rest, listener := .checking connection }
  | reap {connection owner : Connection} (was : before.listener = .checking connection)
      (owned : before.owner = some owner) (ended : before.isFinished owner = true) :
      Steps config before (.listener .proceed)
        { before with owner := none, listener := .stopping connection }
  | free {connection : Connection} (was : before.listener = .checking connection)
      (unowned : before.owner = none) :
      Steps config before (.listener .proceed) { before with listener := .stopping connection }
  | refuse {connection owner : Connection} (was : before.listener = .checking connection)
      (owned : before.owner = some owner) (alive : before.isFinished owner = false) :
      Steps config before (.listener .proceed)
        ({ before with listener := .rejecting connection }.record (.refused connection))
  | reject {connection : Connection} (succeeded : Bool)
      (was : before.listener = .rejecting connection) :
      Steps config before (.listener (.io succeeded))
        { before with
          listener := .testing
          received :=
            if succeeded then
              Function.update before.received connection
                (before.received connection ++ [busyResponse])
            else before.received }
  | clear {connection : Connection} (was : before.listener = .stopping connection) :
      Steps config before (.listener .proceed)
        { before with motion := stopMotion before.motion, listener := .spawning connection }
  | welcome {connection : Connection} (was : before.listener = .spawning connection) :
      Steps config before (.listener (.io true))
        (({ before with owner := some connection, listener := .testing }.setWorker connection
          { serve := Serve.start, stage := .running }).record (.admitted connection))
  | spawnFailed {connection : Connection} (was : before.listener = .spawning connection) :
      Steps config before (.listener (.io false))
        { before with owner := none, listener := .testing }
  | joinOwner {owner : Connection} (was : before.listener = .joining)
      (owned : before.owner = some owner) (ended : before.isFinished owner = true) :
      Steps config before (.listener .proceed)
        { before with owner := none, listener := .finished }
  | joinNobody (was : before.listener = .joining) (unowned : before.owner = none) :
      Steps config before (.listener .proceed) { before with listener := .finished }
  | serve {connection : Connection} {input : ServeInput} {serve : Serve} {effect : ServeEffect}
      (works : before.workers connection = some { serve, stage := .running })
      (served : serveControlClient config before.running before.clock before.motion serve input =
        some effect) :
      Steps config before (.worker connection input)
        (({ before with
          motion := effect.motion
          received := Function.update before.received connection effect.serve.written }.setWorker
            connection { serve := effect.serve, stage := .running }).recordHandled connection
              effect.handled)
  | finalStop {connection : Connection} {serve : Serve}
      (works : before.workers connection = some { serve, stage := .running }) :
      Steps config before (.worker connection .proceed)
        ({ before with motion := stopMotion before.motion }.setWorker connection
          { serve, stage := .stopped })
  | finish {connection : Connection} {serve : Serve}
      (works : before.workers connection = some { serve, stage := .stopped }) :
      Steps config before (.worker connection .proceed)
        (before.setWorker connection { serve, stage := .finished })
  | panic {connection : Connection} {serve : Serve} {stage : WorkerStage}
      (works : before.workers connection = some { serve, stage })
      (alive : stage ≠ .finished) :
      Steps config before (.panic connection)
        (before.setWorker connection { serve, stage := .finished })
  | currentCommand (was : before.main = .using) :
      Steps config before .currentCommand
        { before with motion := (Scout.currentCommand before.motion before.clock).2 }
  | clearRunning (was : before.main = .using) :
      Steps config before .shutdown { before with running := false, main := .stopping }
  | clearMotion (was : before.main = .stopping) :
      Steps config before .shutdown
        { before with motion := stopMotion before.motion, main := .joiningControl }
  | joinControl (was : before.main = .joiningControl) (ended : before.listener = .finished) :
      Steps config before .shutdown { before with main := .joiningCamera }
  | joinCamera (was : before.main = .joiningCamera) :
      Steps config before .shutdown { before with main := .returned }

variable {config : ControlConfig} {before after : Bridge}

/-- Every effect of the listener is one of its listed steps. -/
theorem runControlListener_steps {input : ListenerInput}
    (taken : before.runControlListener input = some after) :
    Steps config before (.listener input) after := by
  -- The cases follow the phases of the listener and the answers each one accepts.
  unfold runControlListener at taken
  cases phase : before.listener with
  | testing =>
    cases input <;> simp only [phase, reduceCtorEq, Option.some.injEq] at taken
    subst taken
    refine .listen ?_ (.inl phase)
    cases before.running <;> simp
  | accepting =>
    cases input <;> simp only [phase, reduceCtorEq, Option.some.injEq] at taken
    · cases waiting : before.backlog with
      | nil => simp [waiting] at taken
      | cons connection rest =>
        simp only [waiting, Option.some.injEq] at taken
        exact taken ▸ .accept phase waiting
    · exact taken ▸ .listen (.inl rfl) (.inr phase)
  | checking connection =>
    cases input <;> simp only [phase, reduceCtorEq] at taken
    cases owned : before.owner with
    | none =>
      simp only [owned, Option.some.injEq] at taken
      exact taken ▸ owned ▸ .free phase owned
    | some owner =>
      simp only [owned] at taken
      by_cases ended : before.isFinished owner = true
      · simp only [if_pos ended, Option.some.injEq] at taken
        exact taken ▸ .reap phase owned ended
      · simp only [if_neg ended, Option.some.injEq] at taken
        exact taken ▸ owned ▸ .refuse phase owned (by simpa using ended)
  | rejecting connection =>
    cases input <;> simp only [phase, reduceCtorEq, Option.some.injEq] at taken
    exact taken ▸ .reject _ phase
  | stopping connection =>
    cases input <;> simp only [phase, reduceCtorEq, Option.some.injEq] at taken
    exact taken ▸ .clear phase
  | spawning connection =>
    cases input with
    | io succeeded =>
      cases succeeded <;> simp only [phase, if_true, Bool.false_eq_true, if_false,
        Option.some.injEq] at taken
      · exact taken ▸ .spawnFailed phase
      · exact taken ▸ .welcome phase
    | proceed => simp [phase] at taken
    | accepted => simp [phase] at taken
    | noConnection => simp [phase] at taken
  | joining =>
    cases input <;> simp only [phase, reduceCtorEq] at taken
    cases owned : before.owner with
    | none =>
      simp only [owned, Option.some.injEq] at taken
      exact taken ▸ owned ▸ .joinNobody phase owned
    | some owner =>
      simp only [owned] at taken
      by_cases ended : before.isFinished owner = true
      · simp only [if_pos ended, Option.some.injEq] at taken
        exact taken ▸ .joinOwner phase owned ended
      · simp [if_neg ended] at taken
  | finished => simp [phase] at taken

/-- Every effect of a worker's thread is one of its listed steps. -/
theorem runControlClient_steps {connection : Connection} {input : ServeInput}
    (taken : runControlClient config before connection input = some after) :
    Steps config before (.worker connection input) after := by
  -- A running worker serves or does its final stop, and a stopped one ends.
  unfold runControlClient at taken
  split at taken
  · rename_i serve works
    split at taken
    · simp only [Option.some.injEq] at taken
      exact taken ▸ .finalStop works
    · split at taken
      · rename_i effect served
        exact Option.some.inj taken ▸ .serve works served
      · cases taken
  · rename_i serve works
    split at taken
    · rename_i own
      simp only [Option.some.injEq] at taken
      subst own
      exact taken ▸ .finish works
    · cases taken
  · cases taken

/-- Every step of the bridge is one of the listed ones. -/
theorem step_steps {event : BridgeEvent} (taken : step config before event = some after) :
    Steps config before event after := by
  -- The cases follow the events.
  cases event with
  | tick elapsed => exact Option.some.inj taken ▸ .tick elapsed
  | signal => exact Option.some.inj taken ▸ .signal
  | connect => exact Option.some.inj taken ▸ .connect
  | listener input => exact runControlListener_steps taken
  | worker connection input => exact runControlClient_steps taken
  | panic connection =>
    simp only [step] at taken
    split at taken
    · rename_i serve stage works
      split at taken
      · cases taken
      · rename_i alive
        exact Option.some.inj taken ▸ .panic works alive
    · cases taken
  | currentCommand =>
    simp only [step] at taken
    split at taken
    · rename_i was
      exact Option.some.inj taken ▸ .currentCommand was
    · cases taken
  | shutdown =>
    simp only [step, shutdown] at taken
    split at taken
    · rename_i was
      exact Option.some.inj taken ▸ .clearRunning was
    · rename_i was
      exact Option.some.inj taken ▸ .clearMotion was
    · rename_i was
      split at taken
      · rename_i ended
        exact Option.some.inj taken ▸ .joinControl was ended
      · cases taken
    · rename_i was
      exact Option.some.inj taken ▸ .joinCamera was
    · cases taken

end Scout.Bridge
