import Scout.Machine.Observation
import Scout.Machine.Pace
import Scout.Number.Duration
import Scout.Stream.Lossy

/-! A program of the system that is run for its output, which a thread reads meanwhile. -/

namespace Scout

/-- How much output a program may have. -/
def maxSystemCommandOutputBytes : Nat := 64 * 1024

/-- How long a program may run. -/
def systemCommandTimeout : Nat := Duration.fromSecs 2

/-- The pause between two looks at a program that runs. -/
def systemCommandPause : Nat := Duration.fromMillis 10

/-- What a program has written, how much of it has not been read, and how it has ended. -/
structure ChildProcess where
  written : Bytes
  unread : Bytes
  /-- Whether some process still holds the end of the pipe that is written to. -/
  writable : Bool
  /-- Whether the program has succeeded, once it has ended. -/
  ended : Option Bool
  /-- Whether the system has told how it ended. -/
  reaped : Bool

/-- The thread that reads the output: what it has read so far, and what it returns. -/
inductive OutputReader where
  | reading (bytes : Bytes)
  | finished (bytes : Option Bytes)

/-- Where running a program stands between two of its effects. -/
inductive OutputPhase where
  | spawning
  /-- The program runs, and its output is being read. -/
  | starting
  | polling (deadline : Instant)
  /-- The program had not ended at the last look. -/
  | testing (deadline : Instant)
  | sleeping (deadline : Instant)
  | killing
  | reaping
  | joining (success : Bool)
  | returned (output : Option Text)

/-- The program, the thread that reads its output, and the position of the caller. -/
structure SystemCommand where
  child : ChildProcess
  reader : OutputReader
  phase : OutputPhase

/-- What the thread that reads finds. -/
inductive OutputRead where
  /-- So many bytes, of those that are there. -/
  | bytes (count : Nat)
  | interrupted
  | failed
  | atEnd

/-- What the program does, what the thread reads, and what the caller is answered. -/
inductive OutputEvent where
  | write (bytes : Bytes)
  | close
  | exit (success : Bool)
  | read (found : OutputRead)
  | spawned (success : Bool)
  | clock (now : Instant)
  | tryWait (answered : Bool)
  | slept
  | kill
  | wait (answered : Bool)
  | join

namespace SystemCommand

/-- Nothing has been started. -/
def start : SystemCommand where
  child := { written := [], unread := [], writable := true, ended := none, reaped := false }
  reader := .reading []
  phase := .spawning

/-- Move to another phase. -/
def goto (command : SystemCommand) (phase : OutputPhase) : SystemCommand :=
  { command with phase }

/-- Whether a program has been started. -/
def started (command : SystemCommand) : Bool :=
  match command.phase with
  | .spawning => false
  | _ => true

/-- How much the thread reads at most: one byte more than there may be. -/
def readLimit : Nat := maxSystemCommandOutputBytes + 1

/-- One read of the thread, which goes on to the end of the output or to its limit. -/
def readOutput (command : SystemCommand) (found : OutputRead) : Option SystemCommand :=
  match command.reader with
  | .finished _ => none
  | .reading bytes =>
    match found with
    | .bytes count =>
      if 0 < count ∧ count ≤ command.child.unread.length ∧ bytes.length + count ≤ readLimit then
        some { command with
          child := { command.child with unread := command.child.unread.drop count }
          reader := .reading (bytes ++ command.child.unread.take count) }
      else none
    -- Reading to the end goes on after an interruption.
    | .interrupted => some command
    | .failed => some { command with reader := .finished none }
    | .atEnd =>
      if bytes.length = readLimit ∨
          (command.child.unread = [] ∧ command.child.writable = false) then
        some { command with reader := .finished (some bytes) }
      else none

/-- What the program, or a process that it has started, does. -/
def runChild (command : SystemCommand) (event : OutputEvent) : Option SystemCommand :=
  match event, command.reader with
  -- What is written once nobody reads any more is lost.
  | .write bytes, .reading _ =>
    if command.child.writable then
      some { command with
        child := { command.child with
          written := command.child.written ++ bytes
          unread := command.child.unread ++ bytes } }
    else none
  | .close, _ => some { command with child := { command.child with writable := false } }
  | .exit success, _ =>
    if command.child.ended = none then
      some { command with child := { command.child with ended := some success } }
    else none
  | _, _ => none

/-- What is made of the status of a program and what its output was read as. -/
def output (success : Bool) (bytes : Option Bytes) : Option Text :=
  match bytes with
  | none => none
  | some bytes =>
    if !success ∨ maxSystemCommandOutputBytes < bytes.length then none
    else some (Text.ofUtf8Lossy bytes)

/-- One effect of the function that runs a program for its output. -/
def commandOutput (command : SystemCommand) (event : OutputEvent) : Option SystemCommand :=
  match command.phase, event with
  | .spawning, .spawned success =>
    if success then some (command.goto .starting) else some (command.goto (.returned none))
  | .starting, .clock now => some (command.goto (.polling (now + systemCommandTimeout)))
  | .polling deadline, .tryWait answered =>
    if answered then
      match command.child.ended with
      | some success =>
        some { command with
          child := { command.child with reaped := true }
          phase := .joining success }
      | none => some (command.goto (.testing deadline))
    else some (command.goto .killing)
  | .testing deadline, .clock now =>
    if now < deadline then some (command.goto (.sleeping deadline))
    else some (command.goto .killing)
  | .sleeping deadline, .slept => some (command.goto (.polling deadline))
  -- Whether it can be killed is not looked at; a program that is killed ends as one that failed.
  | .killing, .kill => some (command.goto .reaping)
  | .reaping, .wait answered =>
    if answered then
      if command.child.ended.isSome then
        some { command with
          child := { command.child with reaped := true }
          phase := .returned none }
      else none
    else some (command.goto (.returned none))
  | .joining success, .join =>
    match command.reader with
    | .finished bytes => some (command.goto (.returned (output success bytes)))
    | .reading _ => none
  | _, _ => none

/-- One step of any of the three. -/
def step (command : SystemCommand) (event : OutputEvent) : Option SystemCommand :=
  match event with
  | .write _ | .close | .exit _ => if command.started then command.runChild event else none
  | .read found => if command.started then command.readOutput found else none
  | _ => command.commandOutput event

/-- The possible effects of the caller with what they lead to. -/
inductive Effects (command : SystemCommand) : OutputEvent → SystemCommand → Prop where
  | spawn (was : command.phase = .spawning) :
      Effects command (.spawned true) (command.goto .starting)
  | spawnFailed (was : command.phase = .spawning) :
      Effects command (.spawned false) (command.goto (.returned none))
  | begin (now : Instant) (was : command.phase = .starting) :
      Effects command (.clock now) (command.goto (.polling (now + systemCommandTimeout)))
  | lookFailed {deadline : Instant} (was : command.phase = .polling deadline) :
      Effects command (.tryWait false) (command.goto .killing)
  | collect {deadline : Instant} {success : Bool} (was : command.phase = .polling deadline)
      (ended : command.child.ended = some success) :
      Effects command (.tryWait true)
        { command with child := { command.child with reaped := true }, phase := .joining success }
  | test {deadline : Instant} (was : command.phase = .polling deadline)
      (running : command.child.ended = none) :
      Effects command (.tryWait true) (command.goto (.testing deadline))
  | rest {deadline now : Instant} (was : command.phase = .testing deadline)
      (early : now < deadline) : Effects command (.clock now) (command.goto (.sleeping deadline))
  | giveUp {deadline now : Instant} (was : command.phase = .testing deadline)
      (late : deadline ≤ now) : Effects command (.clock now) (command.goto .killing)
  | wake {deadline : Instant} (was : command.phase = .sleeping deadline) :
      Effects command .slept (command.goto (.polling deadline))
  | kill (was : command.phase = .killing) : Effects command .kill (command.goto .reaping)
  | reap (was : command.phase = .reaping) (ended : command.child.ended.isSome = true) :
      Effects command (.wait true)
        { command with child := { command.child with reaped := true }, phase := .returned none }
  | reapFailed (was : command.phase = .reaping) :
      Effects command (.wait false) (command.goto (.returned none))
  | join {success : Bool} {bytes : Option Bytes} (was : command.phase = .joining success)
      (done : command.reader = .finished bytes) :
      Effects command .join (command.goto (.returned (output success bytes)))

/-- An effect of the caller is one of these. -/
theorem commandOutput_effects {command next : SystemCommand} {event : OutputEvent}
    (taken : command.commandOutput event = some next) : Effects command event next := by
  -- The cases are those of the position of the caller and of what is answered.
  unfold commandOutput at taken
  split at taken
  next success was =>
    cases success <;> cases taken
    · exact .spawnFailed was
    · exact .spawn was
  next now was =>
    cases taken
    exact .begin now was
  next deadline answered was =>
    cases answered with
    | false =>
      cases taken
      exact .lookFailed was
    | true =>
      rw [if_pos rfl] at taken
      split at taken
      next success ended =>
        cases taken
        exact .collect was ended
      next running =>
        cases taken
        exact .test was running
  next deadline now was =>
    split at taken
    next early =>
      cases taken
      exact .rest was early
    next late =>
      cases taken
      exact .giveUp was (Nat.not_lt.mp late)
  next deadline was =>
    cases taken
    exact .wake was
  next was =>
    cases taken
    exact .kill was
  next answered was =>
    cases answered with
    | false =>
      cases taken
      exact .reapFailed was
    | true =>
      rw [if_pos rfl] at taken
      split at taken
      next ended =>
        cases taken
        exact .reap was ended
      next => cases taken
  next success was =>
    split at taken
    next bytes done =>
      cases taken
      exact .join was done
    next => cases taken
  next => cases taken

/-- Readings of the clock, and pauses that last. -/
def timing : Machine.Timing OutputEvent where
  reading
    | .clock now => some now
    | _ => none
  pause
    | .slept => systemCommandPause
    | _ => 0

/-- What the clock has said, in this order. -/
def readings (events : List OutputEvent) : List Instant :=
  events.filterMap timing.reading

/-- What the bytes that have been read are of all that was written. -/
def ReaderSound (child : ChildProcess) : OutputReader → Prop
  | .reading bytes => child.written = bytes ++ child.unread ∧ bytes.length ≤ readLimit
  | .finished none => True
  | .finished (some bytes) => child.written = bytes ++ child.unread ∧ bytes.length ≤ readLimit ∧
      (bytes.length = readLimit ∨ child.unread = [] ∧ child.writable = false)

/-- The deadline is fixed by the first reading of the clock. -/
def Fixed (events : List OutputEvent) (deadline : Instant) : Prop :=
  ∃ begun, (readings events).head? = some begun ∧ deadline = begun + systemCommandTimeout

/-- The program could not be looked at, or it was still running when its time was over. -/
def GaveUp (events : List OutputEvent) : Prop :=
  .tryWait false ∈ events ∨
    ∃ deadline, Fixed events deadline ∧ ∃ late ∈ readings events, deadline ≤ late

/-- The program has been started, and it has been waited for so far. -/
def Untroubled (events : List OutputEvent) : Prop :=
  .spawned false ∉ events ∧ ¬ GaveUp events

/-- The result follows from how the program ended and from what was read. -/
def Explained (child : ChildProcess) (reader : OutputReader) (result : Option Text) : Prop :=
  ∃ success bytes, child.ended = some success ∧ child.reaped = true ∧ reader = .finished bytes ∧
    result = output success bytes

/-- What has come about at each position of the caller. -/
def Told (events : List OutputEvent) (child : ChildProcess) (reader : OutputReader) :
    OutputPhase → Prop
  | .spawning | .starting => Untroubled events ∧ readings events = []
  | .polling deadline | .testing deadline | .sleeping deadline =>
    Untroubled events ∧ Fixed events deadline
  | .killing | .reaping => GaveUp events
  | .joining success =>
    Untroubled events ∧ child.ended = some success ∧ child.reaped = true
  | .returned result =>
    (.spawned false ∈ events ∧ result = none) ∨
    (GaveUp events ∧ result = none ∧ (child.reaped = true ∨ .wait false ∈ events)) ∨
      Untroubled events ∧ Explained child reader result

/-- What holds of every command, given the events so far. -/
structure Recounted (events : List OutputEvent) (command : SystemCommand) : Prop where
  reader : ReaderSound command.child command.reader
  told : Told events command.child command.reader command.phase

/-- Nothing has been started, and nothing has been read. -/
theorem recounted_start : Recounted [] start where
  -- Nothing has happened yet.
  reader := ⟨rfl, Nat.zero_le _⟩
  told := by
    refine ⟨⟨List.not_mem_nil, fun gaveUp => ?_⟩, rfl⟩
    rcases gaveUp with failed | ⟨deadline, fixed, late, member, past⟩
    · cases failed
    · cases member

section Events

variable {events : List OutputEvent} {event : OutputEvent} {deadline : Instant}

/-- An event from which no reason to give up can come. -/
def Quiet : OutputEvent → Prop
  | .spawned false | .clock _ | .tryWait false => False
  | _ => True

/-- One more event is read after the others. -/
theorem readings_append (events more : List OutputEvent) :
    readings (events ++ more) = readings events ++ readings more :=
  List.filterMap_append

/-- A quiet event says nothing of the time. -/
theorem readings_quiet (quiet : Quiet event) : readings (events ++ [event]) = readings events := by
  -- The clock is not read by a quiet event.
  rw [readings_append]
  cases event with
  | clock now => exact quiet.elim
  | _ => exact List.append_nil _

/-- A deadline stays fixed. -/
theorem Fixed.mono (fixed : Fixed events deadline) (more : List OutputEvent) :
    Fixed (events ++ more) deadline := by
  -- The first reading stays the first one.
  obtain ⟨begun, first, same⟩ := fixed
  refine ⟨begun, ?_, same⟩
  rw [readings_append, List.head?_append, first, Option.some_or]

/-- Only one deadline is fixed. -/
theorem Fixed.unique {other : Instant} (fixed : Fixed events deadline)
    (second : Fixed events other) : other = deadline := by
  -- There is only one first reading.
  obtain ⟨begun, first, rfl⟩ := fixed
  obtain ⟨again, same, rfl⟩ := second
  rw [first] at same
  cases same
  rfl

/-- Whoever has given up has done so for good. -/
theorem GaveUp.mono (gaveUp : GaveUp events) (more : List OutputEvent) :
    GaveUp (events ++ more) := by
  -- What has happened stays.
  rcases gaveUp with failed | ⟨deadline, fixed, late, member, past⟩
  · exact .inl (List.mem_append_left _ failed)
  · refine .inr ⟨deadline, fixed.mono more, late, ?_, past⟩
    rw [readings_append]
    exact List.mem_append_left _ member

/-- A quiet event is no reason to give up. -/
theorem Untroubled.quiet (untroubled : Untroubled events) (quiet : Quiet event) :
    Untroubled (events ++ [event]) := by
  -- A quiet event is no failure and no reading of the clock.
  constructor
  · intro member
    rcases List.mem_append.mp member with before | last
    · exact untroubled.1 before
    · cases List.mem_singleton.mp last
      exact quiet
  · rintro (failed | late)
    · rcases List.mem_append.mp failed with before | last
      · exact untroubled.2 (.inl before)
      · cases List.mem_singleton.mp last
        exact quiet
    · refine untroubled.2 (.inr ?_)
      unfold Fixed at late ⊢
      rwa [readings_quiet quiet] at late

/-- A reading before the deadline is no reason to give up. -/
theorem Untroubled.clock {now : Instant} (untroubled : Untroubled events)
    (early : ∀ deadline, Fixed (events ++ [.clock now]) deadline →
      Fixed events deadline ∧ now < deadline ∨ readings events = [] ∧ now < deadline) :
    Untroubled (events ++ [.clock now]) := by
  -- Neither the earlier readings nor the new one are late.
  constructor
  · simpa using untroubled.1
  · rintro (failed | ⟨deadline, fixed, late, member, past⟩)
    · exact untroubled.2 (.inl (by simpa using failed))
    · rw [readings_append] at member
      rcases early deadline fixed with ⟨before, less⟩ | ⟨none, less⟩
      · rcases List.mem_append.mp member with earlier | last
        · exact untroubled.2 (.inr ⟨deadline, before, late, earlier, past⟩)
        · cases List.mem_singleton.mp last
          exact Nat.not_lt.mpr past less
      · rw [none, List.nil_append] at member
        cases List.mem_singleton.mp member
        exact Nat.not_lt.mpr past less

end Events

section Steps

variable {events more : List OutputEvent} {child later : ChildProcess} {reader : OutputReader}
  {phase : OutputPhase} {command next : SystemCommand} {event : OutputEvent}

/-- What has been read stays what it is while nothing more is written. -/
theorem ReaderSound.mono (sound : ReaderSound child reader) (written : later.written = child.written)
    (unread : later.unread = child.unread)
    (writable : child.writable = false → later.writable = false) : ReaderSound later reader := by
  -- Behind its end the thread has nothing more to say of the output.
  cases reader with
  | reading read => exact ⟨by rw [written, unread, sound.1], sound.2⟩
  | finished bytes =>
    cases bytes with
    | none => trivial
    | some bytes =>
      refine ⟨by rw [written, unread, sound.1], sound.2.1, sound.2.2.imp_right fun both => ?_⟩
      exact ⟨unread.trans both.1, writable both.2⟩

/-- A quiet event, and a program that goes on, leave what has come about as it is. -/
theorem Told.mono (told : Told events child reader phase) (quiet : Quiet event)
    (ended : child.ended ≠ none → later.ended = child.ended) (reaped : later.reaped = child.reaped) :
    Told (events ++ [event]) later reader phase := by
  -- How a program has ended is settled once.
  have settled {success : Bool} (was : child.ended = some success) :
      later.ended = some success := by
    rw [ended (by simp [was]), was]
  cases phase with
  | spawning | starting => exact ⟨told.1.quiet quiet, (readings_quiet quiet).trans told.2⟩
  | polling deadline | testing deadline | sleeping deadline =>
    exact ⟨told.1.quiet quiet, told.2.mono _⟩
  | killing => exact GaveUp.mono told _
  | reaping => exact GaveUp.mono told _
  | joining success => exact ⟨told.1.quiet quiet, settled told.2.1, reaped.trans told.2.2⟩
  | returned result =>
    rcases told with ⟨failed, nothing⟩ | ⟨gaveUp, nothing, waited⟩ | ⟨untroubled, explained⟩
    · exact .inl ⟨List.mem_append_left _ failed, nothing⟩
    · refine .inr (.inl ⟨gaveUp.mono _, nothing, ?_⟩)
      exact waited.imp reaped.trans fun member => List.mem_append_left _ member
    · obtain ⟨success, bytes, was, told, done, same⟩ := explained
      exact .inr (.inr ⟨untroubled.quiet quiet, success, bytes, settled was, reaped.trans told,
        done, same⟩)

/-- Whatever the program does, what has come about stays. -/
theorem Recounted.runChild (recounted : Recounted events command)
    (taken : command.runChild event = some next) : Recounted (events ++ [event]) next := by
  obtain ⟨child, reader, phase⟩ := command
  obtain ⟨sound, told⟩ := recounted
  cases event with
  | write bytes =>
    -- What is written is behind what has been read.
    cases reader with
    | finished _ => cases taken
    | reading read =>
      simp only [SystemCommand.runChild] at taken
      split at taken
      · cases taken
        refine ⟨⟨?_, sound.2⟩, told.mono trivial (fun _ => rfl) rfl⟩
        show child.written ++ bytes = read ++ (child.unread ++ bytes)
        rw [sound.1, List.append_assoc]
      · cases taken
  | close =>
    cases taken
    exact ⟨sound.mono rfl rfl fun _ => rfl, told.mono trivial (fun _ => rfl) rfl⟩
  | exit success =>
    simp only [SystemCommand.runChild] at taken
    split at taken
    next running =>
      cases taken
      exact ⟨sound.mono rfl rfl id, told.mono trivial (fun ended => absurd running ended) rfl⟩
    next => cases taken
  | _ => cases taken

/-- While the thread reads, nothing that has come about depends on what it has read. -/
theorem Told.reads {bytes : Bytes} (told : Told events child (.reading bytes) phase)
    (ended : later.ended = child.ended) (reaped : later.reaped = child.reaped)
    (reader : OutputReader) : Told events later reader phase := by
  -- The cases are the phases, most of which tell nothing about the reader.
  cases phase with
  | joining success => exact ⟨told.1, ended.trans told.2.1, reaped.trans told.2.2⟩
  | returned result =>
    rcases told with failed | ⟨gaveUp, nothing, waited⟩ | ⟨_, explained⟩
    · exact .inl failed
    · exact .inr (.inl ⟨gaveUp, nothing, waited.imp_left reaped.trans⟩)
    · obtain ⟨_, _, _, _, done, _⟩ := explained
      cases done
  | _ => exact told

/-- Whatever the thread reads, what has come about stays. -/
theorem Recounted.readOutput {found : OutputRead} (recounted : Recounted events command)
    (taken : command.readOutput found = some next) :
    Recounted (events ++ [.read found]) next := by
  obtain ⟨child, reader, phase⟩ := command
  obtain ⟨sound, told⟩ := recounted
  cases reader with
  | finished _ => cases taken
  | reading read =>
    have quiet : Quiet (.read found) := trivial
    have grown := told.mono quiet (fun _ => rfl) rfl
    cases found with
    | bytes count =>
      simp only [SystemCommand.readOutput] at taken
      split at taken
      next fits =>
        -- What is read is taken from the front of what has not been read.
        cases taken
        refine ⟨⟨?_, ?_⟩, grown.reads rfl rfl _⟩
        · show child.written = read ++ child.unread.take count ++ child.unread.drop count
          rw [List.append_assoc, List.take_append_drop]
          exact sound.1
        · rw [List.length_append, List.length_take, Nat.min_eq_left fits.2.1]
          exact fits.2.2
      next => cases taken
    | interrupted =>
      cases taken
      exact ⟨sound, grown⟩
    | failed =>
      cases taken
      exact ⟨trivial, grown.reads rfl rfl _⟩
    | atEnd =>
      simp only [SystemCommand.readOutput] at taken
      split at taken
      next overlong =>
        cases taken
        exact ⟨⟨sound.1, sound.2, overlong⟩, grown.reads rfl rfl _⟩
      next => cases taken

/-- Whatever the caller does, what has come about stays, and what it does is accounted for. -/
theorem Recounted.effects (recounted : Recounted events command)
    (effects : Effects command event next) : Recounted (events ++ [event]) next := by
  obtain ⟨sound, told⟩ := recounted
  have last : event ∈ events ++ [event] := List.mem_append_right _ (List.mem_singleton_self _)
  cases effects with
  | spawn was =>
    rw [was] at told
    have quiet : Quiet (.spawned true) := trivial
    exact ⟨sound, told.1.quiet quiet, (readings_quiet quiet).trans told.2⟩
  | spawnFailed was => exact ⟨sound, .inl ⟨last, rfl⟩⟩
  | begin now was =>
    rw [was] at told
    -- The time that the program has is not over at once.
    have first : readings (events ++ [.clock now]) = [now] := by
      rw [readings_append, told.2]
      rfl
    refine ⟨sound, told.1.clock fun deadline fixed => .inr ⟨told.2, ?_⟩, now, by rw [first]; rfl, rfl⟩
    obtain ⟨begun, same, rfl⟩ := fixed
    rw [first] at same
    cases same
    exact Nat.lt_add_of_pos_right (by decide)
  | lookFailed was => exact ⟨sound, .inl last⟩
  | collect was ended =>
    rw [was] at told
    exact ⟨sound.mono rfl rfl id, told.1.quiet trivial, ended, rfl⟩
  | test was running =>
    rw [was] at told
    exact ⟨sound, told.1.quiet trivial, told.2.mono _⟩
  | rest was early =>
    rw [was] at told
    refine ⟨sound, told.1.clock fun other fixed => .inl ?_, told.2.mono _⟩
    have same := (told.2.mono _).unique fixed
    subst same
    exact ⟨told.2, early⟩
  | @giveUp deadline now was late =>
    rw [was] at told
    refine ⟨sound, .inr ⟨deadline, told.2.mono _, now, ?_, late⟩⟩
    rw [readings_append]
    exact List.mem_append_right _ (List.mem_singleton_self _)
  | wake was =>
    rw [was] at told
    exact ⟨sound, told.1.quiet trivial, told.2.mono _⟩
  | kill was =>
    rw [was] at told
    exact ⟨sound, GaveUp.mono told _⟩
  | reap was ended =>
    rw [was] at told
    exact ⟨sound.mono rfl rfl id, .inr (.inl ⟨GaveUp.mono told _, rfl, .inl rfl⟩)⟩
  | reapFailed was =>
    rw [was] at told
    exact ⟨sound, .inr (.inl ⟨GaveUp.mono told _, rfl, .inr last⟩)⟩
  | join was done =>
    rw [was] at told
    exact ⟨sound, .inr (.inr ⟨told.1.quiet trivial, _, _, told.2.1, told.2.2, done, rfl⟩)⟩

/-- Every step accounts for what it does. -/
theorem Recounted.step (recounted : Recounted events command)
    (taken : command.step event = some next) : Recounted (events ++ [event]) next := by
  -- The steps are those of the program, of the thread, and of the caller.
  unfold SystemCommand.step at taken
  split at taken
  · split at taken
    · exact recounted.runChild taken
    · cases taken
  · split at taken
    · exact recounted.runChild taken
    · cases taken
  · split at taken
    · exact recounted.runChild taken
    · cases taken
  · split at taken
    · exact recounted.readOutput taken
    · cases taken
  · exact recounted.effects (commandOutput_effects taken)

end Steps

/-- Whatever the program, the thread and the caller do, all of it is accounted for. -/
theorem recounted_run {events : List OutputEvent} {command : SystemCommand}
    (ran : Machine.run step start events = some command) : Recounted events command :=
  Machine.run_recounts Recounted (fun _ _ _ _ recounted taken => recounted.step taken)
    recounted_start ran

/-- Whether the caller looks at the program. -/
def looks : OutputEvent → Bool
  | .tryWait _ => true
  | _ => false

/-- How long the program has had at each look, given the earliest time there can be now. -/
def Spent (count : Nat) (earliest : Nat) : OutputPhase → Prop
  | .spawning | .starting => count = 0
  | .polling deadline => ∃ begun : Nat, deadline = begun + systemCommandTimeout ∧
      begun + count * systemCommandPause ≤ earliest ∧
      count * systemCommandPause < systemCommandTimeout + systemCommandPause
  | .testing deadline => ∃ begun : Nat, deadline = begun + systemCommandTimeout ∧
      begun + count * systemCommandPause ≤ earliest + systemCommandPause ∧
      count * systemCommandPause < systemCommandTimeout + 2 * systemCommandPause
  | .sleeping deadline => ∃ begun : Nat, deadline = begun + systemCommandTimeout ∧
      begun + count * systemCommandPause ≤ earliest + systemCommandPause ∧
      count * systemCommandPause < systemCommandTimeout + systemCommandPause
  | _ => count * systemCommandPause < systemCommandTimeout + 2 * systemCommandPause

/-- The looks so far fit into the time that has passed. -/
def Timely (events : List OutputEvent) (command : SystemCommand) : Prop :=
  ∀ earliest, timing.Paced earliest events →
    Spent (events.countP looks) (timing.after earliest events) command.phase

section Looks

variable {count earliest : Nat} {child : ChildProcess} {reader : OutputReader}
  {phase : OutputPhase} {command next : SystemCommand} {event : OutputEvent}

/-- A pause takes time. -/
theorem systemCommandPause_pos : (0 : Nat) < systemCommandPause := by decide

/-- One more look takes one more pause. -/
theorem succ_mul_pause (count : Nat) :
    (count + 1) * systemCommandPause = count * systemCommandPause + systemCommandPause :=
  Nat.succ_mul _ _

/-- Each effect of the caller leaves the looks within the time that has passed. -/
theorem Spent.effects (spent : Spent count earliest command.phase)
    (effects : Effects command event next)
    (paced : ∀ now, timing.reading event = some now → earliest ≤ now) :
    Spent (count + (looks event).toNat) (timing.onward earliest event) next.phase := by
  have positive := systemCommandPause_pos
  have more := succ_mul_pause count
  cases effects with
  | spawn was =>
    rw [was] at spent
    exact spent
  | spawnFailed was =>
    rw [was] at spent
    have none : count = 0 := spent
    subst none
    show 0 * systemCommandPause < systemCommandTimeout + 2 * systemCommandPause
    omega
  | begin now was =>
    rw [was] at spent
    have none : count = 0 := spent
    subst none
    refine ⟨now, rfl, ?_, ?_⟩
    · show now + (0 + 0) * systemCommandPause ≤ now + 0
      rw [Nat.zero_mul]
    · show 0 * systemCommandPause < systemCommandTimeout + systemCommandPause
      omega
  -- This is the look that is counted, whatever comes of it.
  | lookFailed was =>
    rw [was] at spent
    obtain ⟨begun, fixed, passed, few⟩ := spent
    show (count + 1) * systemCommandPause < systemCommandTimeout + 2 * systemCommandPause
    omega
  | collect was ended =>
    rw [was] at spent
    obtain ⟨begun, fixed, passed, few⟩ := spent
    show (count + 1) * systemCommandPause < systemCommandTimeout + 2 * systemCommandPause
    omega
  | test was running =>
    rw [was] at spent
    obtain ⟨begun, fixed, passed, few⟩ := spent
    refine ⟨begun, fixed, ?_, ?_⟩
    · show begun + (count + 1) * systemCommandPause ≤ earliest + 0 + systemCommandPause
      omega
    · show (count + 1) * systemCommandPause < systemCommandTimeout + 2 * systemCommandPause
      omega
  | @rest deadline now was early =>
    rw [was] at spent
    obtain ⟨begun, fixed, passed, few⟩ := spent
    -- The time before the deadline is longer than the pauses so far.
    have later := paced now rfl
    have before := Nat.lt_of_lt_of_eq early fixed
    refine ⟨begun, fixed, ?_, ?_⟩
    · show begun + count * systemCommandPause ≤ now + 0 + systemCommandPause
      omega
    · show count * systemCommandPause < systemCommandTimeout + systemCommandPause
      omega
  | giveUp was late =>
    rw [was] at spent
    obtain ⟨begun, fixed, passed, few⟩ := spent
    exact few
  | wake was =>
    rw [was] at spent
    exact spent
  | kill was =>
    rw [was] at spent
    exact spent
  | reap was ended =>
    rw [was] at spent
    exact spent
  | reapFailed was =>
    rw [was] at spent
    exact spent
  | join was done =>
    rw [was] at spent
    exact spent

/-- Whatever the program does, the caller is where it was. -/
theorem runChild_phase (taken : command.runChild event = some next) :
    next.phase = command.phase := by
  -- The child changes itself and what can be read from it.
  obtain ⟨child, reader, phase⟩ := command
  cases event with
  | write bytes =>
    cases reader with
    | finished _ => cases taken
    | reading read =>
      simp only [runChild] at taken
      split at taken
      · cases taken
        rfl
      · cases taken
  | close =>
    cases taken
    rfl
  | exit success =>
    simp only [runChild] at taken
    split at taken
    · cases taken
      rfl
    · cases taken
  | _ => cases taken

/-- Whatever the thread reads, the caller is where it was. -/
theorem readOutput_phase {found : OutputRead} (taken : command.readOutput found = some next) :
    next.phase = command.phase := by
  -- Reading changes only the reader.
  obtain ⟨child, reader, phase⟩ := command
  cases reader with
  | finished _ => cases taken
  | reading read =>
    cases found with
    | interrupted | failed =>
      cases taken
      rfl
    | _ =>
      simp only [readOutput] at taken
      split at taken
      · cases taken
        rfl
      · cases taken

/-- Every step leaves the looks within the time that has passed. -/
theorem Spent.step (spent : Spent count earliest command.phase)
    (taken : command.step event = some next)
    (paced : ∀ now, timing.reading event = some now → earliest ≤ now) :
    Spent (count + (looks event).toNat) (timing.onward earliest event) next.phase := by
  -- Neither the program nor the thread moves the caller or measures the time.
  cases event with
  | write bytes | close | exit success =>
    simp only [SystemCommand.step] at taken
    split at taken
    · rw [runChild_phase taken]
      exact spent
    · cases taken
  | read found =>
    simp only [SystemCommand.step] at taken
    split at taken
    · rw [readOutput_phase taken]
      exact spent
    · cases taken
  | _ => exact spent.effects (commandOutput_effects taken) paced

/-- In every run the looks fit into the time that has passed. -/
theorem timely_run {events : List OutputEvent} {command : SystemCommand}
    (ran : Machine.run step start events = some command) : Timely events command := by
  -- The induction is on the events, the last of which comes at its time.
  have initially : Timely [] start := fun _ _ => rfl
  refine Machine.run_recounts Timely (fun earlier state event next timely taken => ?_)
    initially ran
  intro earliest paced
  obtain ⟨before, here⟩ := Machine.Timing.paced_append.mp paced
  have spent := (timely earliest before).step taken here.1
  have counted : (earlier ++ [event]).countP looks = earlier.countP looks + (looks event).toNat := by
    rw [List.countP_append, List.countP_singleton]
    cases looks event <;> rfl
  rw [counted]
  simpa [Machine.Timing.after] using spent

/-- How often the caller looks at a program at most. -/
def maxLooks : Nat := 201

/-- The caller looks at a program a bounded number of times, whatever the program does. -/
theorem looks_le {events : List OutputEvent} {command : SystemCommand}
    (ran : Machine.run step start events = some command) {earliest : Nat}
    (paced : timing.Paced earliest events) : events.countP looks ≤ maxLooks := by
  have few : events.countP looks * systemCommandPause <
      systemCommandTimeout + 2 * systemCommandPause := by
    have spent := timely_run ran earliest paced
    have positive := systemCommandPause_pos
    cases phase : command.phase with
    | spawning | starting =>
      rw [phase] at spent
      have none : events.countP looks = 0 := spent
      rw [none]
      omega
    | polling deadline =>
      rw [phase] at spent
      obtain ⟨_, _, _, few⟩ := spent
      omega
    | testing deadline =>
      rw [phase] at spent
      obtain ⟨_, _, _, few⟩ := spent
      exact few
    | sleeping deadline =>
      rw [phase] at spent
      obtain ⟨_, _, _, few⟩ := spent
      omega
    | _ =>
      rw [phase] at spent
      exact spent
  -- The time is that of two hundred pauses.
  have whole : systemCommandTimeout + 2 * systemCommandPause =
      (maxLooks + 1) * systemCommandPause := by
    decide
  rw [whole] at few
  exact Nat.le_of_lt_succ (Nat.lt_of_mul_lt_mul_right few)

end Looks
end SystemCommand
end Scout
