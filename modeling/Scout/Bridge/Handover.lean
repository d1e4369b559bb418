import Scout.Bridge.Deadman

/-! Connections are settled once and in order, and control passes only between ended owners. -/

namespace Scout

/-- The connection an admission or a refusal settles. -/
def Happening.settles : Happening → Option Connection
  | .admitted connection => some connection
  | .refused connection => some connection
  | _ => none

/-- The connections let in or turned away so far, the latest first. -/
def settled (history : List Happening) : List Connection :=
  history.filterMap Happening.settles

/-- An admitted connection is settled. -/
theorem mem_settled_of_admitted {history : List Happening} {connection : Connection}
    (admitted : Happening.admitted connection ∈ history) : connection ∈ settled history :=
  List.mem_filterMap.mpr ⟨_, admitted, rfl⟩

/-- A refused connection is settled. -/
theorem mem_settled_of_refused {history : List Happening} {connection : Connection}
    (refused : Happening.refused connection ∈ history) : connection ∈ settled history :=
  List.mem_filterMap.mpr ⟨_, refused, rfl⟩

/-- With every connection settled once, none is both let in and turned away. -/
theorem not_refused_of_admitted {history : List Happening} {connection : Connection}
    (once : (settled history).Nodup) (admitted : Happening.admitted connection ∈ history) :
    Happening.refused connection ∉ history := by
  -- The later of the two would settle the connection again.
  intro refused
  induction history with
  | nil => cases admitted
  | cons happening older ih =>
    cases happening with
    | arrived other => exact ih once (by simpa using admitted) (by simpa using refused)
    | handled other what at_ => exact ih once (by simpa using admitted) (by simpa using refused)
    | admitted other =>
      obtain ⟨fresh, once⟩ := List.nodup_cons.mp once
      -- The refusal is the older of the two, or both are older still.
      have before : Happening.refused connection ∈ older := by simpa using refused
      rcases List.mem_cons.mp admitted with same | earlier
      · cases same
        exact fresh (mem_settled_of_refused before)
      · exact ih once earlier before
    | refused other =>
      obtain ⟨fresh, once⟩ := List.nodup_cons.mp once
      -- Here the admission is.
      have before : Happening.admitted connection ∈ older := by simpa using admitted
      rcases List.mem_cons.mp refused with same | earlier
      · cases same
        exact fresh (mem_settled_of_admitted before)
      · exact ih once before earlier

/-- With every connection settled once, the present owner was not let in before the last one. -/
theorem not_admitted_earlier {newer older : List Happening} {newcomer connection : Connection}
    (once : (settled (newer ++ .admitted newcomer :: older)).Nodup)
    (owner : presentOwner (newer ++ .admitted newcomer :: older) = some connection) :
    Happening.admitted connection ∉ older := by
  -- Walk back from the newest happening to the first admission met.
  intro admitted
  induction newer with
  | nil =>
    cases owner
    exact (List.nodup_cons.mp once).1 (mem_settled_of_admitted admitted)
  | cons happening rest ih =>
    cases happening with
    | arrived other => exact ih once owner
    | handled other what at_ => exact ih once owner
    | refused other => exact ih (List.nodup_cons.mp once).2 owner
    | admitted other =>
      cases owner
      exact (List.nodup_cons.mp once).1 (mem_settled_of_admitted (by simp [admitted]))

/-- The connection the listener has taken and not yet settled. -/
def ListenerPhase.held : ListenerPhase → Option Connection
  | .checking connection => some connection
  | .stopping connection => some connection
  | .spawning connection => some connection
  | _ => none

namespace Bridge

/-- The connections still to be settled, in the order of their arrival. -/
def queue (bridge : Bridge) : List Connection :=
  bridge.listener.held.toList ++ bridge.backlog

/-- Who waits, who has been settled, and what the settled ones have received. -/
structure Orderly (bridge : Bridge) : Prop where
  /-- Connections are settled in the order of their arrival, each once. -/
  ordered : (bridge.nextConnection ::
    (bridge.queue.reverse ++ settled bridge.history)).Pairwise (· > ·)
  /-- Workers belong to admitted connections. -/
  employed : ∀ connection, bridge.workers connection ≠ none →
    .admitted connection ∈ bridge.history
  /-- Nothing is written before a connection is settled. -/
  answered : ∀ connection, bridge.received connection ≠ [] →
    .admitted connection ∈ bridge.history ∨ .refused connection ∈ bridge.history
  /-- A refused connection gets no more than the busy line. -/
  polite : ∀ connection, .refused connection ∈ bridge.history →
    bridge.received connection = [] ∨ bridge.received connection = [busyResponse]
  /-- The busy line is the first thing written to a refused connection. -/
  rejecting : ∀ connection, bridge.listener = .rejecting connection →
    .refused connection ∈ bridge.history ∧ bridge.received connection = []

/-- Nobody has arrived when the listener thread starts. -/
theorem orderly_start (clock : Instant) : (Bridge.start clock).Orderly where
  -- There is no connection yet.
  ordered := by simp [Bridge.start, queue, ListenerPhase.held, settled]
  employed := by simp [Bridge.start]
  answered := by simp [Bridge.start]
  polite := by simp [Bridge.start]
  rejecting := by simp [Bridge.start]

/-- Every connection is settled at most once. -/
theorem Orderly.once {bridge : Bridge} (orderly : bridge.Orderly) :
    (settled bridge.history).Nodup := by
  -- A strictly falling list has no repetition.
  have falling := (List.pairwise_cons.mp orderly.ordered).2
  exact (List.pairwise_append.mp falling).2.1.imp fun above => Nat.ne_of_gt above

/-- A worker's connection has not been refused. -/
theorem Orderly.not_refused {bridge : Bridge} (orderly : bridge.Orderly) {connection : Connection}
    (works : bridge.workers connection ≠ none) :
    Happening.refused connection ∉ bridge.history := by
  -- It has been admitted, and nothing is settled twice.
  exact not_refused_of_admitted orderly.once (orderly.employed connection works)

/-- A connection still in the queue has received nothing. -/
theorem Orderly.unanswered {bridge : Bridge} (orderly : bridge.Orderly) {connection : Connection}
    (waits : connection ∈ bridge.queue) : bridge.received connection = [] := by
  -- Whoever received something is settled, and the queue lies above all settled connections.
  by_contra wrote
  -- Whoever waits has a larger number than all those that are settled.
  have falling := (List.pairwise_cons.mp orderly.ordered).2
  have above := (List.pairwise_append.mp falling).2.2 connection (List.mem_reverse.mpr waits)
  rcases orderly.answered connection wrote with admitted | refused
  · exact Nat.lt_irrefl _ (above connection (mem_settled_of_admitted admitted))
  · exact Nat.lt_irrefl _ (above connection (mem_settled_of_refused refused))

@[simp] theorem setWorker_queue (bridge : Bridge) (connection : Connection) (worker : Worker) :
    (bridge.setWorker connection worker).queue = bridge.queue := rfl

/-- Handling a request settles nothing. -/
@[simp] theorem settled_recordHandled (bridge : Bridge) (connection : Connection)
    (handled : Option Handled) :
    settled (bridge.recordHandled connection handled).history = settled bridge.history := by
  -- A handled request is neither an admission nor a refusal.
  cases handled <;> rfl

/-- Recording a handled request writes nothing to any connection. -/
@[simp] theorem recordHandled_received (bridge : Bridge) (connection : Connection)
    (handled : Option Handled) :
    (bridge.recordHandled connection handled).received = bridge.received := by
  -- Recording touches the history only.
  cases handled <;> rfl

/-- A handled request does not change which admissions and refusals are recorded. -/
theorem mem_recordHandled {bridge : Bridge} {connection other : Connection}
    {handled : Option Handled} :
    (Happening.admitted other ∈ (bridge.recordHandled connection handled).history ↔
      Happening.admitted other ∈ bridge.history) ∧
    (Happening.refused other ∈ (bridge.recordHandled connection handled).history ↔
      Happening.refused other ∈ bridge.history) := by
  -- The new entry, if any, is neither.
  cases handled <;> simp [recordHandled, record]

/-- Only a worker already there is replaced. -/
theorem setWorker_employed {bridge : Bridge} {connection other : Connection} {worker : Worker}
    (works : bridge.workers connection ≠ none)
    (there : (bridge.setWorker connection worker).workers other ≠ none) :
    bridge.workers other ≠ none := by
  -- The table changes at the connection only.
  by_cases same : other = connection
  · exact same ▸ works
  · simpa only [setWorker, Function.update_of_ne same] using there

variable {config : ControlConfig} {before after : Bridge} {event : BridgeEvent}

/-- Moves of the listener that leave the queue as it is keep the order. -/
theorem Orderly.moved (orderly : before.Orderly) (queued : after.queue = before.queue)
    (numbered : after.nextConnection = before.nextConnection)
    (recorded : after.history = before.history) (worked : after.workers = before.workers)
    (wrote : after.received = before.received)
    (elsewhere : ∀ connection, after.listener ≠ .rejecting connection) : after.Orderly where
  ordered := by
    -- Neither the queue nor the history has changed.
    rw [queued, numbered, recorded]
    exact orderly.ordered
  employed := worked ▸ recorded ▸ orderly.employed
  answered := wrote ▸ recorded ▸ orderly.answered
  polite := wrote ▸ recorded ▸ orderly.polite
  rejecting connection at_ := absurd at_ (elsewhere connection)

/-- A newcomer joins the end of the queue. -/
theorem Orderly.connects (orderly : before.Orderly) :
    Orderly ({ before with
      backlog := before.backlog ++ [before.nextConnection]
      nextConnection := before.nextConnection + 1 }.record (.arrived before.nextConnection)) where
  ordered := by
    -- The number of the newcomer tops the queue, and the next one tops the newcomer.
    have ordered := orderly.ordered
    have above := (List.pairwise_cons.mp ordered).1
    simp only [queue, record, settled, List.filterMap_cons, Happening.settles,
      ← List.append_assoc, List.reverse_append, List.reverse_cons, List.reverse_nil,
      List.nil_append, List.cons_append, List.pairwise_cons] at ordered above ⊢
    refine ⟨fun other member => ?_, ordered⟩
    rcases List.mem_cons.mp member with rfl | member
    · exact Nat.lt_succ_self _
    · exact Nat.lt_succ_of_lt (above other member)
  employed connection works := List.mem_cons_of_mem _ (orderly.employed connection works)
  answered connection wrote := (orderly.answered connection wrote).imp
    (List.mem_cons_of_mem _) (List.mem_cons_of_mem _)
  polite connection refused := orderly.polite connection (by simpa [record] using refused)
  rejecting connection at_ :=
    ⟨List.mem_cons_of_mem _ (orderly.rejecting connection at_).1,
      (orderly.rejecting connection at_).2⟩

/-- Replacing a worker by another keeps the order. -/
theorem Orderly.replaced (orderly : before.Orderly) {connection : Connection} {worker : Worker}
    (works : before.workers connection ≠ none) :
    (before.setWorker connection worker).Orderly :=
  { orderly with
    employed := fun other there => orderly.employed other (setWorker_employed works there) }

/-- A worker writes to its own connection only, which has been admitted. -/
theorem Orderly.serves (orderly : before.Orderly) {connection : Connection}
    (works : before.workers connection ≠ none) (worker : Worker) (motion : Mutex MotionState)
    (written : List Json) (handled : Option Handled) :
    Orderly (({ before with
      motion
      received := Function.update before.received connection written }.setWorker connection
        worker).recordHandled connection handled) := by
  -- Whoever has been refused is not the one that is served.
  have admitted := orderly.employed connection works
  have welcome : Happening.refused connection ∉ before.history := orderly.not_refused works
  exact {
    ordered := by
      rw [settled_recordHandled]
      cases handled <;> exact orderly.ordered
    employed := by
      intro other there
      rw [recordHandled_workers] at there
      exact mem_recordHandled.1.mpr (orderly.employed other (setWorker_employed works there))
    answered := by
      intro other wrote
      rw [mem_recordHandled.1, mem_recordHandled.2]
      by_cases same : other = connection
      · exact .inl (same ▸ admitted)
      · refine orderly.answered other ?_
        simpa [setWorker, Function.update_of_ne same] using wrote
    polite := by
      intro other refused
      have refused := mem_recordHandled.2.mp refused
      -- The connection that is served has been admitted.
      have other_ne : other ≠ connection := fun same => welcome (same ▸ refused)
      simpa [setWorker, Function.update_of_ne other_ne] using orderly.polite other refused
    rejecting := by
      intro other at_
      rw [recordHandled_listener] at at_
      obtain ⟨refused, silent⟩ := orderly.rejecting other at_
      have other_ne : other ≠ connection := fun same => welcome (same ▸ refused)
      refine ⟨mem_recordHandled.2.mpr refused, ?_⟩
      simpa [setWorker, Function.update_of_ne other_ne] using silent }

/-- Every step keeps the order in which connections are settled. -/
theorem Orderly.step (orderly : before.Orderly) (taken : Steps config before event after) :
    after.Orderly := by
  -- The head of the queue is settled or dropped, and only settled connections are written to.
  cases taken with
  | tick elapsed => exact { orderly with }
  | signal => exact { orderly with }
  | connect => exact orderly.connects
  | listen idle was =>
    exact { orderly with
      ordered := by
        rcases idle with rfl | rfl | rfl <;> rcases was with was | was <;>
          simpa [queue, was, ListenerPhase.held] using orderly.ordered
      rejecting := by rintro connection rfl; simp at idle }
  -- Taking a connection from the backlog leaves the queue as it is.
  | accept was waiting =>
    exact orderly.moved (by simp [queue, was, waiting, ListenerPhase.held]) rfl rfl rfl rfl (by simp)
  | reap was isOwner ended =>
    exact orderly.moved (by simp [queue, was, ListenerPhase.held]) rfl rfl rfl rfl (by simp)
  | free was unowned =>
    exact orderly.moved (by simp [queue, was, ListenerPhase.held]) rfl rfl rfl rfl (by simp)
  | @refuse connection owner was isOwner alive =>
    -- The head of the queue becomes the latest settled connection.
    have unanswered := orderly.unanswered
      (show connection ∈ before.queue by simp [queue, was, ListenerPhase.held])
    exact {
      ordered := by
        simpa [queue, was, ListenerPhase.held, record, settled, Happening.settles]
          using orderly.ordered
      employed := fun other works => List.mem_cons_of_mem _ (orderly.employed other works)
      answered := fun other wrote => (orderly.answered other wrote).imp
        (List.mem_cons_of_mem _) (List.mem_cons_of_mem _)
      polite := by
        intro other refused
        rcases List.mem_cons.mp refused with same | earlier
        · cases same
          exact .inl unanswered
        · exact orderly.polite other earlier
      rejecting := by
        intro other at_
        cases at_
        exact ⟨List.mem_cons_self, unanswered⟩ }
  | @reject connection succeeded was =>
    -- The busy line is the first thing that is written to the refused connection.
    obtain ⟨refused, silent⟩ := orderly.rejecting connection was
    exact { orderly with
      ordered := by simpa [queue, was, ListenerPhase.held] using orderly.ordered
      answered := by
        intro other wrote
        by_cases same : other = connection
        · exact .inr (same ▸ refused)
        · refine orderly.answered other ?_
          cases succeeded <;> simpa [Function.update_of_ne same] using wrote
      polite := by
        intro other earlier
        by_cases same : other = connection
        · subst same
          cases succeeded <;> simp [silent]
        · cases succeeded <;>
            simpa [Function.update_of_ne same] using orderly.polite other earlier
      rejecting := by rintro other at_; cases at_ }
  | clear was =>
    exact orderly.moved (by simp [queue, was, ListenerPhase.held]) rfl rfl rfl rfl (by simp)
  | @welcome newcomer was =>
    -- The head of the queue becomes the latest settled connection, with a worker of its own.
    exact {
      ordered := by
        simpa [queue, was, ListenerPhase.held, record, setWorker, settled, Happening.settles]
          using orderly.ordered
      employed := by
        intro other works
        by_cases same : other = newcomer
        · exact same ▸ List.mem_cons_self
        · refine List.mem_cons_of_mem _ (orderly.employed other ?_)
          simpa only [record, setWorker, Function.update_of_ne same] using works
      answered := fun other wrote => (orderly.answered other wrote).imp
        (List.mem_cons_of_mem _) (List.mem_cons_of_mem _)
      polite := fun other refused => orderly.polite other (by simpa [record] using refused)
      rejecting := by rintro other at_; cases at_ }
  | @spawnFailed newcomer was =>
    -- The head of the queue is dropped.
    exact { orderly with
      ordered := by
        refine orderly.ordered.sublist (List.Sublist.cons_cons _ (List.Sublist.append_right ?_ _))
        simp [queue, was, ListenerPhase.held]
      rejecting := by rintro other at_; cases at_ }
  | joinOwner was isOwner ended =>
    exact orderly.moved (by simp [queue, was, ListenerPhase.held]) rfl rfl rfl rfl (by simp)
  | joinNobody was unowned =>
    exact orderly.moved (by simp [queue, was, ListenerPhase.held]) rfl rfl rfl rfl (by simp)
  -- A worker's steps leave the queue alone.
  | serve works served => exact orderly.serves (by simp [works]) _ _ _ _
  | finalStop works => exact { orderly.replaced (by simp [works]) with }
  | finish works => exact orderly.replaced (by simp [works])
  | panic works alive => exact orderly.replaced (by simp [works])
  | currentCommand was => exact { orderly with }
  | clearRunning was => exact { orderly with }
  | clearMotion was => exact { orderly with }
  | joinControl was ended => exact { orderly with }
  | joinCamera was => exact { orderly with }

/-- Every state a run reaches keeps the order in which connections are settled. -/
theorem orderly_run {clock : Instant} {events : List BridgeEvent} {bridge : Bridge}
    (ran : Machine.run (Bridge.step config) (Bridge.start clock) events = some bridge) :
    bridge.Orderly := by
  -- The order holds at the start and every step keeps it.
  exact Machine.run_invariant (fun _ => True) Orderly
    (fun _ _ _ _ orderly taken => orderly.step (step_steps taken)) (fun _ _ => trivial)
    (orderly_start clock) ran

/-- A step only adds to the history. -/
theorem Steps.history_suffix (taken : Steps config before event after) :
    before.history <:+ after.history := by
  -- Four kinds of step record something, each in front of what is there.
  cases taken with
  | connect => exact List.suffix_cons _ _
  | refuse _ _ _ => exact List.suffix_cons _ _
  | welcome _ => exact List.suffix_cons _ _
  | serve _ _ =>
    rw [recordHandled_history]
    exact List.suffix_append _ _
  | _ => exact List.suffix_refl _

/-- The busy line, once written, is all a refused connection ever receives. -/
theorem Orderly.busy_kept (orderly : before.Orderly) (taken : Steps config before event after)
    {connection : Connection} (refused : Happening.refused connection ∈ before.history)
    (busy : before.received connection = [busyResponse]) :
    Happening.refused connection ∈ after.history ∧
      after.received connection = [busyResponse] := by
  -- Only a worker or the rejection writes, and this connection has neither ahead of it.
  refine ⟨taken.history_suffix.subset refused, ?_⟩
  cases taken with
  | @reject other succeeded was =>
    -- The connection being rejected has not received its line yet.
    have different : connection ≠ other := by
      rintro rfl
      simp [(orderly.rejecting connection was).2] at busy
    cases succeeded <;> simpa [Function.update_of_ne different] using busy
  | @serve other input serve effect works served =>
    -- A connection with a worker has not been refused.
    have different : connection ≠ other := by
      rintro rfl
      exact orderly.not_refused (by simp [works]) refused
    simpa [setWorker, Function.update_of_ne different] using busy
  | _ => exact busy

/-- The busy line stays the only one along every run. -/
theorem busy_run {events : List BridgeEvent} (orderly : before.Orderly)
    {connection : Connection} (refused : Happening.refused connection ∈ before.history)
    (busy : before.received connection = [busyResponse])
    (ran : Machine.run (Bridge.step config) before events = some after) :
    after.received connection = [busyResponse] := by
  -- Order and the busy line are carried along together.
  have both := Machine.run_invariant (fun _ => True)
    (fun bridge : Bridge => bridge.Orderly ∧
      Happening.refused connection ∈ bridge.history ∧ bridge.received connection = [busyResponse])
    (fun _ _ _ _ holds taken => ⟨holds.1.step (step_steps taken),
      holds.1.busy_kept (step_steps taken) holds.2.1 holds.2.2⟩)
    (fun _ _ => trivial) ⟨orderly, refused, busy⟩ ran
  exact both.2.2

/-- Whether an event is an arrival or a step of the listener. -/
def knocks : BridgeEvent → Bool
  | .connect => true
  | .listener _ => true
  | _ => false

/-- While a worker is alive, arrivals and the listener touch neither it nor the register. -/
theorem Owned.undisturbed (owned : before.Owned) {owner : Connection} (alive : before.Live owner)
    (knock : knocks event = true) (taken : Steps config before event after) :
    after.Live owner ∧ after.motion = before.motion := by
  -- The phases in which the listener writes or spawns need the bridge to be free.
  have busy := (owned.owner_busy alive).1
  cases taken with
  | tick _ => cases knock
  | signal => cases knock
  | connect => exact ⟨alive, rfl⟩
  | listen _ _ => exact ⟨alive, rfl⟩
  | accept _ _ => exact ⟨alive, rfl⟩
  | reap _ _ _ => exact ⟨alive, rfl⟩
  | free _ _ => exact ⟨alive, rfl⟩
  | refuse _ _ _ => exact ⟨alive, rfl⟩
  | reject _ _ => exact ⟨alive, rfl⟩
  | clear was => exact absurd was (busy _).1
  | welcome was => exact absurd was (busy _).2
  | spawnFailed was => exact absurd was (busy _).2
  | joinOwner _ _ _ => exact ⟨alive, rfl⟩
  | joinNobody _ _ => exact ⟨alive, rfl⟩
  | serve _ _ => cases knock
  | finalStop _ => cases knock
  | finish _ => cases knock
  | panic _ _ => cases knock
  | currentCommand _ => cases knock
  | clearRunning _ => cases knock
  | clearMotion _ => cases knock
  | joinControl _ _ => cases knock
  | joinCamera _ => cases knock

/-- However often clients knock while a worker is alive, the register stays as it is. -/
theorem undisturbed_run {events : List BridgeEvent} (owned : before.Owned) {owner : Connection}
    (alive : before.Live owner) (knocking : ∀ event ∈ events, knocks event = true)
    (ran : Machine.run (Bridge.step config) before events = some after) :
    after.motion = before.motion := by
  -- Ownership and the live worker carry the equality from step to step.
  refine Machine.run_relates (fun event => knocks event = true)
    (fun bridge : Bridge => bridge.Owned ∧ bridge.Live owner)
    (fun first second => second.motion = first.motion)
    (fun _ => rfl) (fun _ _ _ here there => there.trans here) ?_ ?_ knocking ⟨owned, alive⟩ ran
  · -- Every step keeps ownership and the worker, and the register with them.
    intro first event second knock holds taken
    have steps := step_steps taken
    exact ⟨holds.1.step steps, (holds.1.undisturbed holds.2 knock steps).1⟩
  · intro first event second knock holds taken
    exact (holds.1.undisturbed holds.2 knock (step_steps taken)).2

/-- A step of a worker's thread needs that thread to be alive. -/
theorem live_of_step {connection : Connection} {input : ServeInput}
    (taken : Bridge.step config before (.worker connection input) = some after) :
    before.Live connection := by
  -- Each kind of worker step names the stage it starts from.
  cases step_steps taken with
  | serve works served => exact ⟨_, works, by simp⟩
  | finalStop works => exact ⟨_, works, by simp⟩
  | finish works => exact ⟨_, works, by simp⟩

/-- A checked connection is turned away from a live owner and otherwise let in. -/
theorem Owned.checked (owned : before.Owned) {connection : Connection} {input : ListenerInput}
    (at_ : before.listener = .checking connection)
    (taken : Bridge.step config before (.listener input) = some after) :
    (∃ owner, before.Live owner ∧ after.listener = .rejecting connection) ∨
      ((∀ owner, ¬ before.Live owner) ∧ after.listener = .stopping connection) := by
  -- Of the listener's steps, three start from this phase.
  cases step_steps taken with
  | listen idle was => simp [at_] at was
  | accept was _ => simp [at_] at was
  | reap was isOwner ended =>
    cases at_.symm.trans was
    refine .inr ⟨fun other alive => ?_, rfl⟩
    -- The owner's thread has ended, so that nobody is alive.
    have same := owned.exclusive other alive
    rw [isOwner, Option.some.injEq] at same
    exact not_live_of_isFinished ended (same ▸ alive)
  | free was unowned =>
    cases at_.symm.trans was
    refine .inr ⟨fun other alive => ?_, rfl⟩
    simp [owned.exclusive other alive] at unowned
  | refuse was isOwner alive =>
    cases at_.symm.trans was
    exact .inl ⟨_, live_of_not_isFinished alive, rfl⟩
  | reject _ was => simp [at_] at was
  | clear was => simp [at_] at was
  | welcome was => simp [at_] at was
  | spawnFailed was => simp [at_] at was
  | joinOwner was _ _ => simp [at_] at was
  | joinNobody was _ => simp [at_] at was

/-- How the bridge keeps control with one connection and hands it over. -/
structure ExclusiveControl (config : ControlConfig) (bridge : Bridge) : Prop where
  /-- At most one worker can write the register. -/
  sole : ∀ first second, bridge.CanWrite first → bridge.CanWrite second → first = second
  /-- A connection checked while a worker is alive is turned away. -/
  turnedAway : ∀ owner connection input after, bridge.Live owner →
    bridge.listener = .checking connection →
    Bridge.step config bridge (.listener input) = some after →
    after.listener = .rejecting connection
  /-- A connection checked while no worker is alive goes on to be admitted. -/
  letIn : ∀ connection input after, (∀ owner, ¬ bridge.Live owner) →
    bridge.listener = .checking connection →
    Bridge.step config bridge (.listener input) = some after →
    after.listener = .stopping connection
  /-- A refused connection is sent nothing but the busy line. -/
  onlyBusy : ∀ connection, .refused connection ∈ bridge.history →
    bridge.received connection = [] ∨ bridge.received connection = [busyResponse]
  /-- Once the busy line is written, it is exactly what the connection has received for good. -/
  exactlyBusy : ∀ connection written events later, bridge.listener = .rejecting connection →
    Bridge.step config bridge (.listener (.io true)) = some written →
    Machine.run (Bridge.step config) written events = some later →
    later.received connection = [busyResponse]
  /-- Arrivals and listener steps leave command and deadline alone while a worker is alive. -/
  undisturbed : ∀ owner events after, bridge.Live owner →
    (∀ event ∈ events, knocks event = true) →
    Machine.run (Bridge.step config) bridge events = some after → after.motion = bridge.motion
  /-- The register is stopped at the moment a new owner is admitted. -/
  stopped : ∀ connection after, bridge.listener = .spawning connection →
    Bridge.step config bridge (.listener (.io true)) = some after →
    after.motion.value = MotionState.default ∧ presentOwner after.history = some connection
  /-- A worker that takes a step belongs to the last admission and to no earlier one. -/
  replaced : ∀ connection input after,
    Bridge.step config bridge (.worker connection input) = some after →
    presentOwner bridge.history = some connection ∧
    ∀ newer older newcomer, bridge.history = newer ++ .admitted newcomer :: older →
      Happening.admitted connection ∉ older

/-- Control is exclusive and cleanly handed over in every state a run reaches. -/
theorem exclusiveControl_run {clock : Instant} {events : List BridgeEvent} {bridge : Bridge}
    (ran : Machine.run (Bridge.step config) (Bridge.start clock) events = some bridge) :
    ExclusiveControl config bridge := by
  -- Ownership, the settled order and the account of the present owner together give each part.
  have accounted := accounted_run ran
  have owned := accounted.owned
  have orderly := orderly_run ran
  exact {
    sole := by
      intro first second here there
      -- Both are the owner.
      have same := (owned.exclusive first here.live).symm.trans (owned.exclusive second there.live)
      exact Option.some.inj same
    turnedAway := by
      intro owner connection input after alive at_ taken
      rcases owned.checked at_ taken with ⟨_, _, refused⟩ | ⟨idle, _⟩
      · exact refused
      · exact absurd alive (idle owner)
    letIn := by
      intro connection input after idle at_ taken
      rcases owned.checked at_ taken with ⟨owner, alive, _⟩ | ⟨_, welcome⟩
      · exact absurd alive (idle owner)
      · exact welcome
    onlyBusy := orderly.polite
    exactlyBusy := by
      intro connection written events later at_ taken onwards
      -- The line that is written now stays the only one.
      obtain ⟨refused, silent⟩ := orderly.rejecting connection at_
      have next := orderly.step (step_steps taken)
      simp only [Bridge.step, runControlListener, at_, if_true, Option.some.injEq] at taken
      subst taken
      exact busy_run next refused (by simp [silent]) onwards
    undisturbed := fun owner events after alive knocking onwards =>
      undisturbed_run owned alive knocking onwards
    stopped := by
      intro connection after at_ taken
      -- The stop came before the admission.
      have clear := owned.cleared connection at_
      simp only [Bridge.step, runControlListener, at_, if_true, Option.some.injEq] at taken
      subst taken
      exact ⟨clear, rfl⟩
    replaced := by
      intro connection input after taken
      have owner := accounted.latest connection (live_of_step taken)
      refine ⟨owner, fun newer older newcomer split => ?_⟩
      exact not_admitted_earlier (split ▸ orderly.once) (split ▸ owner) }

/-- The first client is admitted. -/
def admittingRun : List BridgeEvent :=
  [.connect, .listener .proceed, .listener .accepted, .listener .proceed, .listener .proceed,
    .listener (.io true)]

/-- The first client's connection fails, and its worker ends after its final stop. -/
def endingRun : List BridgeEvent :=
  [.worker 0 (.io false), .worker 0 .proceed, .worker 0 .proceed]

/-- The next client is checked, admitted and greeted. -/
def greetingRun : List BridgeEvent :=
  [.listener .proceed, .listener .accepted, .listener .proceed, .listener .proceed,
    .listener (.io true), .worker 1 (.io true), .worker 1 (.io true)]

/-- Control is exclusive after the first client's admission. -/
theorem exclusiveControl_run_admitting :
    ∃ bridge, Machine.run (Bridge.step slowAdvance) (Bridge.start 0) admittingRun = some bridge ∧
      ExclusiveControl slowAdvance bridge := by
  -- The run is evaluated, and the theorem is applied to the state it ends in.
  obtain ⟨bridge, ran⟩ : ∃ bridge,
      Machine.run (Bridge.step slowAdvance) (Bridge.start 0) admittingRun = some bridge :=
    Option.isSome_iff_exists.mp (by decide +kernel)
  exact ⟨bridge, ran, exclusiveControl_run ran⟩

/-- A connection that arrives under a writing worker but is checked after it is not turned away. -/
theorem late_arrival_admitted :
    ¬ ∀ (first later : List BridgeEvent) (owned final : Bridge) (owner : Connection),
      Machine.run (Bridge.step slowAdvance) (Bridge.start 0) first = some owned →
      owned.CanWrite owner →
      Machine.run (Bridge.step slowAdvance) owned (.connect :: later) = some final →
      final.received owned.nextConnection = [] ∨
        final.received owned.nextConnection = [busyResponse] := by
  -- The second client arrives, the first one's worker ends, and only then the listener looks.
  intro always
  -- The second client is greeted, instead of being told that the bridge is busy.
  have played : ((Machine.run (Bridge.step slowAdvance) (Bridge.start 0) admittingRun).any
      fun owned => ((owned.workers 0).any (·.stage == .running)) &&
        (Machine.run (Bridge.step slowAdvance) owned (.connect :: (endingRun ++ greetingRun))).any
          fun final => (final.received owned.nextConnection).map Json.isOk == [true]) = true := by
    decide +kernel
  obtain ⟨owned, ran, rest⟩ := (Option.any_eq_true _ _).mp played
  obtain ⟨works, rest⟩ := Bool.and_eq_true_iff.mp rest
  obtain ⟨worker, works, stage⟩ := (Option.any_eq_true _ _).mp works
  obtain ⟨final, onwards, greeted⟩ := (Option.any_eq_true _ _).mp rest
  have greeted := eq_of_beq greeted
  rcases always _ _ owned final 0 ran ⟨worker, works, eq_of_beq stage⟩ onwards with silent | busy
  · simp [silent] at greeted
  · rw [busy] at greeted
    exact absurd greeted (by decide)

end Bridge
end Scout
