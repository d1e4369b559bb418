import Scout.Camera.Steps
import Scout.Machine.Run

/-! Each camera connection answers its requests one by one, with ever newer frames. -/

namespace Scout

/-- The frames published so far, the newest first. -/
def publishedFrames (history : List CameraHappening) : List Bytes :=
  history.filterMap fun
    | .published jpeg => some jpeg
    | _ => none

/-- How many request bytes of a connection have been consumed. -/
def requestCount (connection : Connection) (history : List CameraHappening) : Nat :=
  history.countP (· == .requested connection)

/-- The answers of a connection, the latest first, each with the number of the frame it holds. -/
def answers (connection : Connection) : List CameraHappening → List (Nat × Bytes)
  | [] => []
  | .answered other jpeg :: older =>
    if other = connection then ((publishedFrames older).length, jpeg) :: answers connection older
    else answers connection older
  | _ :: older => answers connection older

/-- The number of the frame a connection was answered with last, and zero before any answer. -/
def lastAnswered (connection : Connection) (history : List CameraHappening) : Nat :=
  ((answers connection history).head?.map Prod.fst).getD 0

/-- What the answers of a connection amount to on the wire. -/
def answerBytes (connection : Connection) (history : List CameraHappening) : Bytes :=
  ((answers connection history).reverse.map fun answer => cameraRecord answer.2).flatten

/-- The connection the listener has taken and not yet handed to a worker. -/
def CameraListenerPhase.held : CameraListenerPhase → Option Connection
  | .counting connection => some connection
  | .refusing connection => some connection
  | .spawning connection => some connection
  | _ => none

/-- What a worker still has to write for its latest answer. -/
def CameraPhase.unsent : CameraPhase → Bytes
  | .sending buffers => buffers.flatten
  | _ => []

/-- How many requests a worker in a phase has read without an answer. -/
def CameraPhase.owed : CameraPhase → Nat
  | .waiting => 1
  | _ => 0

/-- Whether a recorded event is about a connection. -/
def CameraHappening.concerns (connection : Connection) : CameraHappening → Bool
  | .published _ => false
  | .requested other => other == connection
  | .answered other _ => other == connection
  | .dropped other => other == connection

section History

variable {connection : Connection} {history : List CameraHappening} {happening : CameraHappening}

/-- Events about other connections add no answer. -/
theorem answers_cons_of_other (other : happening.concerns connection = false) :
    answers connection (happening :: history) = answers connection history := by
  -- Only an answer of the connection itself is kept.
  cases happening with
  | answered owner jpeg =>
    have different : owner ≠ connection := by simpa [CameraHappening.concerns] using other
    exact if_neg different
  | published jpeg => rfl
  | requested owner => rfl
  | dropped owner => rfl

/-- Events about other connections add no request. -/
theorem requestCount_cons_of_other (other : happening.concerns connection = false) :
    requestCount connection (happening :: history) = requestCount connection history := by
  -- Only a request of the connection itself is counted.
  unfold requestCount
  refine List.countP_cons_of_neg ?_
  cases happening with
  | requested owner => simpa [CameraHappening.concerns] using other
  | published jpeg => simp
  | answered owner jpeg => simp
  | dropped owner => simp

/-- A request counts once. -/
@[simp] theorem requestCount_requested :
    requestCount connection (.requested connection :: history) =
      requestCount connection history + 1 := by
  -- The new event satisfies the test.
  simp [requestCount]

/-- An answer is numbered by the frames published before it. -/
@[simp] theorem answers_answered (jpeg : Bytes) :
    answers connection (.answered connection jpeg :: history) =
      ((publishedFrames history).length, jpeg) :: answers connection history := if_pos rfl

/-- An answer is no request. -/
@[simp] theorem requestCount_answered (other : Connection) (jpeg : Bytes) :
    requestCount connection (.answered other jpeg :: history) =
      requestCount connection history := by
  -- The new event does not satisfy the test.
  simp [requestCount]

/-- Publishing a frame puts it first. -/
@[simp] theorem publishedFrames_published (jpeg : Bytes) :
    publishedFrames (.published jpeg :: history) = jpeg :: publishedFrames history := rfl

/-- Events about connections publish nothing. -/
theorem publishedFrames_cons (own : happening.concerns connection = true) :
    publishedFrames (happening :: history) = publishedFrames history := by
  -- Only a publication adds a frame.
  cases happening with
  | published jpeg => cases own
  | requested other => rfl
  | answered other jpeg => rfl
  | dropped other => rfl

end History

namespace CameraServer

/-- Everything recorded about one connection is numbered, ordered and newest when taken. -/
structure Genuine (connection : Connection) (history : List CameraHappening) : Prop where
  /-- Every answer holds the frame of its number, of a length that fits its header. -/
  numbered : ∀ answer ∈ answers connection history, 0 < answer.1 ∧
    (publishedFrames history).reverse[answer.1 - 1]? = some answer.2 ∧ answer.2.length < 2 ^ 32
  /-- Every answer was the newest frame when it was taken. -/
  newest : ∀ newer older jpeg, history = newer ++ .answered connection jpeg :: older →
    (publishedFrames older).head? = some jpeg
  /-- Later answers have larger numbers. -/
  increasing : ((answers connection history).map Prod.fst).Pairwise (· > ·)
  /-- At every moment all requests but the latest have been answered. -/
  alternating : ∀ older, older <:+ history →
    (answers connection older).length ≤ requestCount connection older ∧
      requestCount connection older ≤ (answers connection older).length + 1
  /-- No request has been dropped. -/
  kept : CameraHappening.dropped connection ∉ history

/-- Nothing has been recorded at the beginning. -/
theorem genuine_nil (connection : Connection) : Genuine connection [] where
  -- Nothing has been answered.
  numbered := by simp [answers]
  newest := by simp
  increasing := by simp [answers]
  alternating older part := by
    rw [List.suffix_nil.mp part]
    simp [answers, requestCount]
  kept := by simp

/-- Every number of an answer is at most the latest one, and that at most the frames published. -/
theorem Genuine.numbers_le {connection : Connection} {history : List CameraHappening}
    (genuine : Genuine connection history) :
    (∀ answer ∈ answers connection history, answer.1 ≤ lastAnswered connection history) ∧
      lastAnswered connection history ≤ (publishedFrames history).length := by
  -- The latest answer comes first and has the largest number.
  have increasing := genuine.increasing
  have numbered := genuine.numbered
  unfold lastAnswered
  cases all : answers connection history with
  | nil => simp
  | cons latest others =>
    rw [all] at increasing numbered
    obtain ⟨largest, _⟩ := List.pairwise_cons.mp increasing
    constructor
    · intro answer member
      rcases List.mem_cons.mp member with rfl | member
      · exact Nat.le_refl _
      · exact Nat.le_of_lt (largest _ (List.mem_map_of_mem member))
    · obtain ⟨positive, found, _⟩ := numbered latest List.mem_cons_self
      have inside := (List.getElem?_eq_some_iff.mp found).1
      rw [List.length_reverse] at inside
      show latest.1 ≤ _
      omega

/-- One more event keeps the record genuine if an answer among them is new and the newest. -/
theorem Genuine.cons {connection : Connection} {history : List CameraHappening}
    {happening : CameraHappening} (genuine : Genuine connection history)
    (fits : ∀ jpeg, happening = .answered connection jpeg →
      (publishedFrames history).head? = some jpeg ∧ jpeg.length < 2 ^ 32 ∧
        lastAnswered connection history < (publishedFrames history).length)
    (balanced : (answers connection (happening :: history)).length ≤
        requestCount connection (happening :: history) ∧
      requestCount connection (happening :: history) ≤
        (answers connection (happening :: history)).length + 1)
    (kept : happening ≠ .dropped connection) : Genuine connection (happening :: history) := by
  -- The new event may be an answer of this connection, a publication, or about something else.
  -- Earlier moments are moments of the earlier history.
  have alternating : ∀ older, older <:+ happening :: history →
      (answers connection older).length ≤ requestCount connection older ∧
        requestCount connection older ≤ (answers connection older).length + 1 := by
    intro older part
    rcases List.suffix_cons_iff.mp part with rfl | part
    · exact balanced
    · exact genuine.alternating older part
  have kept : CameraHappening.dropped connection ∉ happening :: history := by
    intro member
    rcases List.mem_cons.mp member with same | member
    · exact kept same.symm
    · exact genuine.kept member
  have newest : ∀ newer older jpeg,
      happening :: history = newer ++ .answered connection jpeg :: older →
        (publishedFrames older).head? = some jpeg := by
    intro newer older jpeg split
    -- The answer is the new event itself, or an older one.
    cases newer with
    | nil =>
      simp only [List.nil_append, List.cons.injEq] at split
      obtain ⟨own, rfl⟩ := split
      exact (fits jpeg own).1
    | cons first newer =>
      simp only [List.cons_append, List.cons.injEq] at split
      exact genuine.newest newer older jpeg split.2
  by_cases own : ∃ jpeg, happening = .answered connection jpeg
  · obtain ⟨jpeg, rfl⟩ := own
    obtain ⟨first, short, later⟩ := fits jpeg rfl
    refine ⟨?_, newest, ?_, alternating, kept⟩
    · intro answer member
      rw [answers_answered] at member
      rcases List.mem_cons.mp member with rfl | member
      · refine ⟨Nat.lt_of_le_of_lt (Nat.zero_le _) later, ?_, short⟩
        show (publishedFrames history).reverse[(publishedFrames history).length - 1]? = some jpeg
        rw [← first, ← List.getLast?_reverse, List.getLast?_eq_getElem?, List.length_reverse]
      · exact genuine.numbered answer member
    · rw [answers_answered, List.map_cons, List.pairwise_cons]
      refine ⟨fun number member => ?_, genuine.increasing⟩
      obtain ⟨answer, among, rfl⟩ := List.mem_map.mp member
      exact Nat.lt_of_le_of_lt (genuine.numbers_le.1 answer among) later
  · -- The answers are as before, and their frames keep their numbers.
    have same : answers connection (happening :: history) = answers connection history := by
      cases happening with
      | answered other jpeg =>
        refine if_neg fun equal => own ⟨jpeg, ?_⟩
        rw [equal]
      | published jpeg => rfl
      | requested other => rfl
      | dropped other => rfl
    refine ⟨?_, newest, same ▸ genuine.increasing, alternating, kept⟩
    rw [same]
    intro answer member
    obtain ⟨positive, found, short⟩ := genuine.numbered answer member
    refine ⟨positive, ?_, short⟩
    cases happening with
    | published jpeg =>
      have inside := (List.getElem?_eq_some_iff.mp found).1
      rw [publishedFrames_published, List.reverse_cons, List.getElem?_append_left inside]
      exact found
    | answered other jpeg => exact found
    | requested other => exact found
    | dropped other => exact found

/-- What a worker has seen, owes and has written, by the history of its connection. -/
structure Account (connection : Connection) (history : List CameraHappening)
    (serve : CameraServe) : Prop where
  seen : serve.phase ≠ .returned →
    serve.seenGeneration = UInt64.ofNat (lastAnswered connection history)
  owed : serve.phase ≠ .returned → requestCount connection history =
    (answers connection history).length + serve.phase.owed
  written : serve.written <+: answerBytes connection history
  whole : serve.phase ≠ .returned →
    serve.written ++ serve.phase.unsent = answerBytes connection history

/-- What the shared frame, the workers and the history agree on. -/
structure Truthful (server : CameraServer) : Prop where
  unpoisoned : server.frame.poisoned = false
  generation : server.frame.value.generation =
    UInt64.ofNat (publishedFrames server.history).length
  newest : server.frame.value.jpeg = (publishedFrames server.history).head?
  fresh : (server.nextConnection ::
    (server.listener.held.toList ++ server.backlog).reverse).Pairwise (· > ·)
  hired : ∀ connection, server.workers connection ≠ none →
    ∀ waiting ∈ server.nextConnection :: (server.listener.held.toList ++ server.backlog),
      connection < waiting
  silent : ∀ connection, server.workers connection = none →
    answers connection server.history = [] ∧ requestCount connection server.history = 0
  genuine : ∀ connection, Genuine connection server.history
  accounts : ∀ connection worker, server.workers connection = some worker →
    Account connection server.history worker.serve

/-- The account of a connection does not see events about other connections. -/
theorem Account.cons_of_other {connection : Connection} {history : List CameraHappening}
    {happening : CameraHappening} {serve : CameraServe}
    (account : Account connection history serve)
    (other : happening.concerns connection = false) :
    Account connection (happening :: history) serve := by
  -- Answers and requests are the same, and everything else is made from them.
  have same : answers connection (happening :: history) = answers connection history :=
    answers_cons_of_other other
  have count : requestCount connection (happening :: history) = requestCount connection history :=
    requestCount_cons_of_other other
  have last : lastAnswered connection (happening :: history) = lastAnswered connection history := by
    rw [lastAnswered, same]
    rfl
  have bytes : answerBytes connection (happening :: history) = answerBytes connection history := by
    rw [answerBytes, same]
    rfl
  exact {
    seen := fun open_ => last ▸ account.seen open_
    owed := fun open_ => by rw [count, same]; exact account.owed open_
    written := bytes ▸ account.written
    whole := fun open_ => bytes ▸ account.whole open_ }

/-- A worker that has just been hired has an empty account. -/
theorem account_start {connection : Connection} {history : List CameraHappening}
    (unanswered : answers connection history = [])
    (unasked : requestCount connection history = 0) :
    Account connection history CameraServe.start where
  -- A worker begins with nothing seen and nothing written.
  seen _ := by simp [lastAnswered, unanswered, CameraServe.start]
  owed _ := by simp [unanswered, unasked, CameraServe.start, CameraPhase.owed]
  written := by simp [CameraServe.start]
  whole _ := by simp [answerBytes, unanswered, CameraServe.start, CameraPhase.unsent]

section Effects

variable {running : Bool} {frame : Mutex LatestFrame} {connection : Connection}
  {history : List CameraHappening} {serve : CameraServe} {input : CameraInput}
  {effect : CameraEffect}

/-- An effect that is not recorded keeps the account if it keeps what is seen, owed and sent. -/
theorem Account.moved (account : Account connection history serve)
    (open_ : serve.phase ≠ .returned) {next : CameraServe}
    (written : next.written <+: serve.written ++ serve.phase.unsent)
    (same : next.phase ≠ .returned → next.seenGeneration = serve.seenGeneration ∧
      next.phase.owed = serve.phase.owed ∧
      next.written ++ next.phase.unsent = serve.written ++ serve.phase.unsent) :
    Account connection history next where
  -- What is written moves on within what has been answered.
  seen still := (same still).1.trans (account.seen open_)
  owed still := by rw [(same still).2.1]; exact account.owed open_
  written := account.whole open_ ▸ written
  whole still := (same still).2.2.trans (account.whole open_)

/-- A request is owed its answer from the moment it is read. -/
theorem Account.request (account : Account connection history serve)
    (genuine : Genuine connection history) (was : serve.phase = .reading) :
    Account connection (.requested connection :: history) (serve.goto .waiting).serve ∧
      Genuine connection (.requested connection :: history) := by
  -- The request comes when nothing is owed.
  have owed := account.owed (by simp [was])
  have whole := account.whole (by simp [was])
  rw [was] at owed whole
  have asked : requestCount connection (.requested connection :: history) =
      (answers connection history).length + 1 := by
    rw [requestCount_requested, owed]
    rfl
  refine ⟨⟨fun _ => account.seen (by simp [was]), fun _ => asked, account.written,
    fun _ => whole⟩, genuine.cons (fun _ same => by cases same) ?_ (fun same => by cases same)⟩
  show (answers connection history).length ≤
      requestCount connection (.requested connection :: history) ∧
    requestCount connection (.requested connection :: history) ≤
      (answers connection history).length + 1
  omega

/-- An answer pays for the request, and its record is what is left to send. -/
theorem Account.answer (account : Account connection history serve)
    (genuine : Genuine connection history)
    (generation : frame.value.generation = UInt64.ofNat (publishedFrames history).length)
    (newest : frame.value.jpeg = (publishedFrames history).head?) {jpeg : Bytes}
    (was : serve.phase = .waiting) (stored : frame.value.jpeg = some jpeg)
    (fits : jpeg.length < 2 ^ 32)
    (later : lastAnswered connection history < (publishedFrames history).length) :
    Account connection (.answered connection jpeg :: history)
        ({ serve with seenGeneration := frame.value.generation }.goto
          (.sending [Stream.bigEndian 4 jpeg.length, jpeg])).serve ∧
      Genuine connection (.answered connection jpeg :: history) := by
  -- An answer adds its record to what is to be written, and pays what is owed.
  have owed := account.owed (by simp [was])
  have whole := account.whole (by simp [was])
  rw [was] at owed whole
  have asked : requestCount connection (.answered connection jpeg :: history) =
      (answers connection history).length + 1 := by
    rw [requestCount_answered, owed]
    rfl
  have bytes : answerBytes connection (.answered connection jpeg :: history) =
      answerBytes connection history ++ cameraRecord jpeg := by
    simp [answerBytes]
  have sent : serve.written = answerBytes connection history := by
    simpa [CameraPhase.unsent] using whole
  refine ⟨⟨fun _ => ?_, fun _ => ?_, ?_, fun _ => ?_⟩, genuine.cons ?_ ?_ ?_⟩
  · -- The generation of the frame is its place among all of them.
    show frame.value.generation =
      UInt64.ofNat (lastAnswered connection (.answered connection jpeg :: history))
    rw [generation, lastAnswered, answers_answered]
    rfl
  · -- Nothing more is owed.
    show requestCount connection (.answered connection jpeg :: history) = _
    rw [asked]
    simp [CameraPhase.owed, CameraServe.goto]
  · -- What has been written comes before the new record.
    show serve.written <+: answerBytes connection (.answered connection jpeg :: history)
    rw [bytes, sent]
    exact List.prefix_append _ _
  · show serve.written ++ [Stream.bigEndian 4 jpeg.length, jpeg].flatten =
      answerBytes connection (.answered connection jpeg :: history)
    rw [bytes, sent]
    simp [cameraRecord]
  · -- The newest frame is the one that is answered.
    intro other same
    cases same
    exact ⟨newest ▸ stored, fits, later⟩
  · show (answers connection (.answered connection jpeg :: history)).length ≤
        requestCount connection (.answered connection jpeg :: history) ∧
      requestCount connection (.answered connection jpeg :: history) ≤
        (answers connection (.answered connection jpeg :: history)).length + 1
    rw [asked, answers_answered, List.length_cons]
    omega
  · intro same
    cases same

/-- One effect of a worker keeps its account and the record of its connection. -/
theorem Account.serves (account : Account connection history serve)
    (genuine : Genuine connection history)
    (generation : frame.value.generation = UInt64.ofNat (publishedFrames history).length)
    (newest : frame.value.jpeg = (publishedFrames history).head?)
    (served : CameraServes running frame serve input effect) :
    Account connection
        ((effect.deed.map (CameraDeed.happening connection)).toList ++ history) effect.serve ∧
      Genuine connection
        ((effect.deed.map (CameraDeed.happening connection)).toList ++ history) := by
  -- A new generation means a frame with a number beyond the latest answer's.
  have later : frame.value.generation ≠ serve.seenGeneration → serve.phase = .waiting →
      lastAnswered connection history < (publishedFrames history).length := by
    intro new was
    rw [generation, account.seen (by simp [was])] at new
    refine Nat.lt_of_le_of_ne genuine.numbers_le.2 fun equal => new ?_
    rw [equal]
  cases served with
  | move was quiet next =>
    -- Between two requests nothing is owed and nothing is left to send.
    have idle : serve.phase.unsent = [] ∧ serve.phase.owed = 0 ∧ serve.phase ≠ .returned := by
      rcases was with was | was | was <;> simp [was, CameraPhase.unsent, CameraPhase.owed]
    refine ⟨account.moved idle.2.2 ⟨_, rfl⟩ fun _ => ⟨rfl, ?_, ?_⟩, genuine⟩
    · rw [idle.2.1]
      rcases next with rfl | rfl | rfl <;> rfl
    · rw [idle.1]
      rcases next with rfl | rfl | rfl <;> rfl
  | request was => exact account.request genuine was
  | await was old =>
    refine ⟨account.moved (by simp [was]) ⟨_, rfl⟩ fun _ => ⟨rfl, ?_, ?_⟩, genuine⟩
    · simp [CameraServe.goto, was]
    · simp [CameraServe.goto, was]
  | giveUp was stopped =>
    exact ⟨account.moved (by simp [was]) ⟨_, rfl⟩ fun still => absurd rfl still, genuine⟩
  | drop was new empty =>
    -- A new generation without a frame does not exist.
    have positive := later new was
    rw [newest, List.head?_eq_none_iff] at empty
    simp [empty] at positive
  | @answer jpeg was new stored fits =>
    exact account.answer genuine generation newest was stored fits (later new was)
  | tooLarge was stored large =>
    exact ⟨account.moved (by simp [was]) ⟨_, rfl⟩ fun still => absurd rfl still, genuine⟩
  | sent was =>
    refine ⟨account.moved (by simp [was]) ⟨_, rfl⟩ fun _ => ⟨rfl, ?_, ?_⟩, genuine⟩
    · simp [CameraServe.goto, CameraPhase.owed, was]
    · simp [CameraServe.goto, CameraPhase.unsent, was]
  | flushed was =>
    refine ⟨account.moved (by simp [was]) ⟨_, rfl⟩ fun _ => ⟨rfl, ?_, ?_⟩, genuine⟩
    · simp [CameraServe.goto, CameraPhase.owed, was]
    · simp [CameraServe.goto, CameraPhase.unsent, was]
  | @write buffer rest count was progress offered =>
    -- What is written and what is left change, but not what they are together.
    have shares : serve.written ++ buffer.take count ++ (buffer.drop count :: rest).flatten =
        serve.written ++ serve.phase.unsent := by
      rw [was, CameraPhase.unsent, List.flatten_cons, List.flatten_cons, List.append_assoc,
        ← List.append_assoc (buffer.take count), List.take_append_drop]
    refine ⟨account.moved (by simp [was]) ⟨_, shares⟩ fun _ => ⟨rfl, ?_, shares⟩, genuine⟩
    simp [CameraServe.goto, CameraPhase.owed, was]
  | fail was =>
    exact ⟨account.moved (by simp [was]) ⟨_, rfl⟩ fun still => absurd rfl still, genuine⟩

end Effects

/-- An event about another connection keeps the record genuine. -/
theorem Genuine.cons_of_other {connection : Connection} {history : List CameraHappening}
    {happening : CameraHappening} (genuine : Genuine connection history)
    (other : happening.concerns connection = false) :
    Genuine connection (happening :: history) := by
  -- Neither answers nor requests of the connection change.
  refine genuine.cons ?_ ?_ ?_
  · rintro jpeg rfl
    simp [CameraHappening.concerns] at other
  · rw [answers_cons_of_other other, requestCount_cons_of_other other]
    exact genuine.alternating _ (List.suffix_refl _)
  · rintro rfl
    simp [CameraHappening.concerns] at other

/-- Nothing has happened when the camera listener starts. -/
theorem truthful_start : CameraServer.start.Truthful where
  -- Nothing has happened yet.
  unpoisoned := rfl
  generation := rfl
  newest := rfl
  fresh := by simp [CameraServer.start, CameraListenerPhase.held]
  hired connection works := absurd rfl works
  silent connection _ := ⟨rfl, rfl⟩
  genuine connection := genuine_nil connection
  accounts connection worker works := by simp [CameraServer.start] at works

/-- A publication is recorded as such and concerns no connection. -/
theorem Truthful.publish {server : CameraServer} (truthful : server.Truthful) (jpeg : Bytes) :
    ({ server with
      frame := FrameSink.publish server.frame jpeg
      history := .published jpeg :: server.history }).Truthful := by
  -- The lock is free, so the frame is stored under the next generation.
  have stored : FrameSink.publish server.frame jpeg = server.frame.write
      { generation := server.frame.value.generation + 1, jpeg := some jpeg } := by
    simp [FrameSink.publish, Mutex.lock, truthful.unpoisoned]
  exact {
    unpoisoned := by rw [stored]; exact truthful.unpoisoned
    generation := by
      rw [stored]
      show server.frame.value.generation + 1 = _
      rw [truthful.generation, publishedFrames_published, List.length_cons, UInt64.ofNat_add]
      rfl
    newest := by rw [stored]; rfl
    fresh := truthful.fresh
    hired := truthful.hired
    silent := fun connection idle => by
      rw [answers_cons_of_other rfl, requestCount_cons_of_other rfl]
      exact truthful.silent connection idle
    genuine := fun connection => (truthful.genuine connection).cons_of_other rfl
    accounts := fun connection worker works =>
      (truthful.accounts connection worker works).cons_of_other rfl }

/-- A worker is put in the place of another, and a deed of its connection may be recorded. -/
theorem Truthful.setWorker {server : CameraServer} (truthful : server.Truthful)
    {connection : Connection} {worker : CameraWorker} (deed : Option CameraDeed)
    (account : Account connection
      ((deed.map (CameraDeed.happening connection)).toList ++ server.history) worker.serve)
    (genuine : Genuine connection
      ((deed.map (CameraDeed.happening connection)).toList ++ server.history))
    (below : ∀ waiting ∈ server.nextConnection ::
      (server.listener.held.toList ++ server.backlog), connection < waiting) :
    ({ server with
      history := (deed.map (CameraDeed.happening connection)).toList ++
        server.history }.setWorker connection worker).Truthful := by
  -- The deed publishes nothing, and does not concern the other connections.
  have frames : publishedFrames ((deed.map (CameraDeed.happening connection)).toList ++
      server.history) = publishedFrames server.history := by
    cases deed with
    | none => rfl
    | some deed =>
      have own : (deed.happening connection).concerns connection = true := by
        cases deed <;> simp [CameraDeed.happening, CameraHappening.concerns]
      exact publishedFrames_cons own
  have foreign : ∀ other, other ≠ connection → ∀ deed : CameraDeed,
      (deed.happening connection).concerns other = false := by
    intro other different deed
    cases deed <;> simpa [CameraDeed.happening, CameraHappening.concerns] using different.symm
  refine ⟨truthful.unpoisoned, ?_, ?_, truthful.fresh, ?_, ?_, ?_, ?_⟩
  · show server.frame.value.generation = _
    rw [truthful.generation]
    exact congrArg (fun list : List Bytes => UInt64.ofNat list.length) frames.symm
  · show server.frame.value.jpeg = _
    rw [truthful.newest]
    exact congrArg List.head? frames.symm
  · -- The connections of the other workers lie below those that wait, as before.
    intro other there
    by_cases same : other = connection
    · exact same ▸ below
    · exact truthful.hired other
        (by simpa only [CameraServer.setWorker, Function.update_of_ne same] using there)
  · intro other idle
    have different : other ≠ connection := by
      intro same
      simp [CameraServer.setWorker, same] at idle
    simp only [CameraServer.setWorker, Function.update_of_ne different] at idle
    have before := truthful.silent other idle
    show answers other _ = [] ∧ requestCount other _ = 0
    cases deed with
    | none => exact before
    | some what =>
      exact ⟨(answers_cons_of_other (foreign other different what)).trans before.1,
        (requestCount_cons_of_other (foreign other different what)).trans before.2⟩
  · intro other
    by_cases same : other = connection
    · exact same ▸ genuine
    · show Genuine other _
      cases deed with
      | none => exact truthful.genuine other
      | some what => exact (truthful.genuine other).cons_of_other (foreign other same what)
  · -- The accounts of the other workers do not see the deed.
    intro other worker there
    by_cases same : other = connection
    · subst same
      simp only [CameraServer.setWorker, Function.update_self, Option.some.injEq] at there
      exact there ▸ account
    · simp only [CameraServer.setWorker, Function.update_of_ne same] at there
      have before := truthful.accounts other worker there
      show Account other _ worker.serve
      cases deed with
      | none => exact before
      | some what => exact before.cons_of_other (foreign other same what)

/-- A worker's effect is recorded for its own connection only. -/
theorem Truthful.serves {server : CameraServer} (truthful : server.Truthful)
    {connection : Connection} {input : CameraInput} {serve : CameraServe} {effect : CameraEffect}
    (works : server.workers connection = some { serve, finished := false })
    (served : CameraServes server.running server.frame serve input effect) :
    ({ server with
      history := (effect.deed.map (CameraDeed.happening connection)).toList ++
        server.history }.setWorker connection
          { serve := effect.serve, finished := false }).Truthful := by
  -- The effect keeps the account and the record of its connection.
  obtain ⟨account, genuine⟩ := (truthful.accounts connection _ works).serves
    (truthful.genuine connection) truthful.generation truthful.newest served
  exact truthful.setWorker effect.deed account genuine
    (truthful.hired connection (by simp [works]))

/-- Fewer waiting connections stay in order behind the hired ones. -/
theorem Truthful.waiting {server : CameraServer} (truthful : server.Truthful)
    {listener : CameraListenerPhase} {backlog : List Connection} {clients : UInt64}
    (part : (listener.held.toList ++ backlog).Sublist
      (server.listener.held.toList ++ server.backlog)) :
    ({ server with listener, backlog, clients }).Truthful :=
  -- Whoever waits has been waiting before.
  { truthful with
    fresh := truthful.fresh.sublist ((List.reverse_sublist.mpr part).cons_cons _)
    hired := fun connection works waiting member => by
      refine truthful.hired connection works waiting ?_
      rcases List.mem_cons.mp member with rfl | member
      · exact List.mem_cons_self
      · exact List.mem_cons_of_mem _ (part.subset member) }

/-- A connection that has not been handed to a worker has none. -/
theorem Truthful.idle_of_waiting {server : CameraServer} (truthful : server.Truthful)
    {connection : Connection} (waiting : connection ∈ server.nextConnection ::
      (server.listener.held.toList ++ server.backlog)) : server.workers connection = none := by
  -- A worker's connection lies below all those that wait.
  by_contra works
  exact Nat.lt_irrefl _ (truthful.hired connection works connection waiting)

/-- Every step keeps the record truthful. -/
theorem Truthful.step {before after : CameraServer} {event : CameraEvent}
    (truthful : before.Truthful) (taken : Steps before event after) : after.Truthful := by
  -- Publications and workers' effects are recorded, and connections are hired in order.
  cases taken with
  | publish jpeg => exact truthful.publish jpeg
  | signal => exact { truthful with }
  | connect =>
    exact { truthful with
      fresh := by
        -- The number of the newcomer tops all others, and the next one tops the newcomer.
        have above := (List.pairwise_cons.mp truthful.fresh).1
        rw [← List.append_assoc, List.reverse_append, List.reverse_singleton,
          List.singleton_append, List.pairwise_cons]
        refine ⟨fun other member => ?_, truthful.fresh⟩
        rcases List.mem_cons.mp member with rfl | member
        · exact Nat.lt_succ_self _
        · exact Nat.lt_succ_of_lt (above other member)
      hired := by
        intro connection works waiting member
        have below := truthful.hired connection works
        simp only [List.mem_cons, List.mem_append, List.not_mem_nil, or_false] at member below
        rcases member with rfl | held | queued | rfl
        · exact Nat.lt_succ_of_lt (below _ (.inl rfl))
        · exact below _ (.inr (.inl held))
        · exact below _ (.inr (.inr queued))
        · exact below _ (.inl rfl) }
  | listen was idle =>
    refine truthful.waiting ?_
    rcases idle with rfl | rfl | rfl | rfl <;> exact List.sublist_append_right _ _
  | accept was waiting =>
    refine truthful.waiting ?_
    simp [was, waiting, CameraListenerPhase.held]
  | refuse was full =>
    refine truthful.waiting ?_
    simp [was, CameraListenerPhase.held]
  | welcome was room =>
    refine truthful.waiting ?_
    simp [was, CameraListenerPhase.held]
  | uncount was =>
    refine truthful.waiting ?_
    exact List.sublist_append_right _ _
  | @hire connection was =>
    -- The connection held by the listener lies below the others that wait.
    have idle : before.workers connection = none := truthful.idle_of_waiting
      (by simp [was, CameraListenerPhase.held])
    have ordered := truthful.fresh
    rw [was, CameraListenerPhase.held, Option.toList_some, List.singleton_append,
      List.reverse_cons, ← List.cons_append, List.pairwise_append] at ordered
    have below : ∀ waiting ∈ before.nextConnection :: before.backlog, connection < waiting := by
      intro waiting member
      refine ordered.2.2 waiting ?_ connection List.mem_cons_self
      rcases List.mem_cons.mp member with rfl | member
      · exact List.mem_cons_self
      · exact List.mem_cons_of_mem _ (List.mem_reverse.mpr member)
    have freed : ({ before with listener := .testing }).Truthful :=
      truthful.waiting (List.sublist_append_right _ _)
    obtain ⟨unanswered, unasked⟩ := truthful.silent connection idle
    exact freed.setWorker none (account_start unanswered unasked) (truthful.genuine connection)
      below
  | serve works served => exact truthful.serves works served
  | @leave connection serve works was =>
    -- The worker has nothing more to do, and its account stays as it is.
    have uncounted : ({ before with clients := before.clients - 1 }).Truthful :=
      truthful.waiting (List.Sublist.refl _)
    have account : Account connection before.history serve :=
      truthful.accounts connection _ works
    exact uncounted.setWorker none account (truthful.genuine connection)
      (truthful.hired connection (by simp [works]))

/-- Whatever the threads do, the record stays truthful. -/
theorem truthful_run {events : List CameraEvent} {server : CameraServer}
    (ran : Machine.run CameraServer.step CameraServer.start events = some server) :
    server.Truthful := by
  -- Truthfulness holds at the start, and every step keeps it.
  refine Machine.run_invariant (fun _ => True) Truthful ?_ (fun _ _ => trivial) truthful_start ran
  intro state event next _ truthful taken
  exact truthful.step (step_steps taken)

/-- A camera record is the length in four bytes, the highest first, and the frame. -/
theorem cameraRecord_shape {jpeg : Bytes} (fits : jpeg.length < 2 ^ 32) :
    Stream.ofBigEndian ((cameraRecord jpeg).take 4) = jpeg.length ∧
      (cameraRecord jpeg).drop 4 = jpeg := by
  -- The header is four bytes long, and decoding it undoes its encoding.
  have header := Stream.bigEndian_length 4 jpeg.length
  rw [cameraRecord, List.take_left' header, List.drop_left' header]
  exact ⟨Stream.ofBigEndian_bigEndian fits, rfl⟩

/-- A connection's requests are answered one by one, each with the newest frame and none twice. -/
theorem camera_protocol {events : List CameraEvent} {server : CameraServer}
    (ran : Machine.run CameraServer.step CameraServer.start events = some server)
    (connection : Connection) :
    (∀ worker, server.workers connection = some worker →
      worker.serve.written <+: answerBytes connection server.history ∧
      (worker.serve.phase ≠ .returned → requestCount connection server.history =
        (answers connection server.history).length + worker.serve.phase.owed)) ∧
    (∀ older, older <:+ server.history →
      (answers connection older).length ≤ requestCount connection older ∧
      requestCount connection older ≤ (answers connection older).length + 1) ∧
    (∀ answer ∈ answers connection server.history,
      0 < answer.1 ∧ (publishedFrames server.history).reverse[answer.1 - 1]? = some answer.2 ∧
      Stream.ofBigEndian ((cameraRecord answer.2).take 4) = answer.2.length ∧
      (cameraRecord answer.2).drop 4 = answer.2) ∧
    (∀ newer older jpeg, server.history = newer ++ .answered connection jpeg :: older →
      (publishedFrames older).head? = some jpeg) ∧
    ((answers connection server.history).reverse.map Prod.fst).Pairwise (· < ·) ∧
    CameraHappening.dropped connection ∉ server.history := by
  -- Everything is read off the invariant of the run.
  have truthful := truthful_run ran
  have genuine := truthful.genuine connection
  refine ⟨fun worker works => ?_, genuine.alternating, fun answer member => ?_, genuine.newest,
    ?_, genuine.kept⟩
  · have account := truthful.accounts connection worker works
    exact ⟨account.written, account.owed⟩
  · obtain ⟨positive, found, fits⟩ := genuine.numbered answer member
    exact ⟨positive, found, cameraRecord_shape fits⟩
  · rw [List.map_reverse, List.pairwise_reverse]
    exact genuine.increasing

/-- A run in which the first client asks for a frame, gets the only one, and asks again. -/
def askTwice : List CameraEvent :=
  [.connect, .listener .proceed, .listener .accepted, .listener .proceed, .listener (.io true),
    .worker 0 (.io true), .worker 0 .proceed, .worker 0 (.read (.data [1])),
    .worker 0 .proceed, .publish [7, 8], .worker 0 .proceed, .worker 0 (.wrote 3),
    .worker 0 (.wrote 1), .worker 0 .proceed, .worker 0 (.wrote 2), .worker 0 .proceed,
    .worker 0 .proceed, .worker 0 .proceed, .worker 0 (.read (.data [1])), .worker 0 .proceed]

/-- In that run one record is written, and the second request is still owed its answer. -/
theorem camera_protocol_askTwice :
    ∃ server, Machine.run CameraServer.step CameraServer.start askTwice = some server ∧
      (∃ worker, server.workers 0 = some worker ∧
        worker.serve.written = [0, 0, 0, 2, 7, 8] ∧
        worker.serve.written <+: answerBytes 0 server.history ∧
        requestCount 0 server.history = (answers 0 server.history).length + 1) ∧
      CameraHappening.dropped 0 ∉ server.history := by
  -- The run is enabled, and its final worker waits for a newer frame.
  have played : (Machine.run CameraServer.step CameraServer.start askTwice).any (fun server =>
      (server.workers 0).any fun worker => worker.serve.written = [0, 0, 0, 2, 7, 8] ∧
        worker.serve.phase = .waiting) = true := by
    decide +kernel
  obtain ⟨server, ran, works⟩ := (Option.any_eq_true _ _).mp played
  obtain ⟨worker, there, facts⟩ := (Option.any_eq_true _ _).mp works
  obtain ⟨written, waiting⟩ := of_decide_eq_true facts
  obtain ⟨workers, _, _, _, _, kept⟩ := camera_protocol ran 0
  obtain ⟨part, owed⟩ := workers worker there
  refine ⟨server, ran, ⟨worker, there, written, part, ?_⟩, kept⟩
  rw [owed (by simp [waiting]), waiting]
  rfl

end CameraServer
end Scout
