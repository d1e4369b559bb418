import Scout.Bridge.ServeLaws
import Scout.Machine.Run
import Mathlib.Data.List.Forall2

/-! The lines a control worker parses depend on the stream and not on its cut into reads. -/

namespace Scout

/-- One effect of a worker whose bridge keeps running, with the register as others leave it. -/
structure ServeTurn where
  now : Instant
  motion : Mutex MotionState
  input : ServeInput

/-- Whether the environment lets the turn through: writes succeed and reads do not fail. -/
def ServeTurn.works (turn : ServeTurn) : Bool :=
  match turn.input with
  | .io succeeded => succeeded
  | .read .failed => false
  | _ => true

/-- What a turn reads, the empty string being the end of the stream. -/
def ServeTurn.piece (turn : ServeTurn) : Option Bytes :=
  match turn.input with
  | .read (.data bytes) => some bytes
  | _ => none

/-- The results of all successful reads, in order. -/
def reads (turns : List ServeTurn) : List Bytes :=
  turns.filterMap ServeTurn.piece

namespace Serve

/-- The local effect of one turn. -/
def turn (config : ControlConfig) (serve : Serve) (turn : ServeTurn) : Option Serve :=
  (serveControlClient config true turn.now turn.motion serve turn.input).map ServeEffect.serve

/-- The lines the whole stream holds, by the limit on control lines. -/
abbrev lines (stream : Bytes) : Stream.Frames UInt8 :=
  Stream.frames maxControlLineBytes newline stream

/-- Everything a turn that works can do. -/
inductive Turns (config : ControlConfig) (before : Serve) : ServeTurn → Serve → Prop where
  | configure {turn : ServeTurn} (was : before.phase = .configuring) (silent : turn.piece = none) :
      Turns config before turn (before.goto .greeting)
  | greet {turn : ServeTurn} (was : before.phase = .greeting) (silent : turn.piece = none) :
      Turns config before turn
        ((before.write (helloResponse config.maximumTimeout)).goto .cloning)
  | clone {turn : ServeTurn} (was : before.phase = .cloning) (silent : turn.piece = none) :
      Turns config before turn (before.goto .testing)
  | test {turn : ServeTurn} (was : before.phase = .testing) (silent : turn.piece = none) :
      Turns config before turn (before.goto .reading)
  | finish {turn : ServeTurn} (was : before.phase = .reading) (nothing : turn.piece = some []) :
      Turns config before turn (before.goto (.returned .endOfStream))
  | receive {turn : ServeTurn} {bytes : Bytes} (was : before.phase = .reading)
      (something : turn.piece = some bytes) (nonempty : bytes ≠ [])
      (fits : bytes.length ≤ controlReadBytes) :
      Turns config before turn (before.receive bytes)
  | idle {turn : ServeTurn} (was : before.phase = .reading) (silent : turn.piece = none) :
      Turns config before turn (before.goto .testing)
  | drain {turn : ServeTurn} (was : before.phase = .draining) (silent : turn.piece = none) :
      Turns config before turn (before.drain config turn.now turn.motion).serve
  | respond {turn : ServeTurn} {response : Json} (was : before.phase = .responding response)
      (silent : turn.piece = none) :
      Turns config before turn ((before.write response).goto .draining)
  | refuse {turn : ServeTurn} {message : String} (was : before.phase = .refusing message)
      (silent : turn.piece = none) :
      Turns config before turn
        ((before.write (errorResponse message)).goto (.returned .overlong))

variable {config : ControlConfig} {before after : Serve} {turn : ServeTurn}

/-- Every turn that works is one of the listed ones. -/
theorem turn_turns (works : turn.works = true) (taken : before.turn config turn = some after) :
    Turns config before turn after := by
  -- Each phase accepts one kind of answer, and failed answers are excluded.
  obtain ⟨effect, served, rfl⟩ := Option.map_eq_some_iff.mp taken
  obtain ⟨now, motion, input⟩ := turn
  simp only at served
  unfold serveControlClient at served
  cases was : before.phase with
  | configuring =>
    cases input <;> simp only [was, reduceCtorEq, Option.some.injEq] at served
    cases works
    exact served ▸ .configure was rfl
  | greeting =>
    cases input with
    | io succeeded =>
      cases works
      simp only [was, Option.some.injEq] at served
      exact served ▸ .greet was rfl
    | proceed => simp [was] at served
    | read outcome => simp [was] at served
  | cloning =>
    cases input <;> simp only [was, reduceCtorEq, Option.some.injEq] at served
    cases works
    exact served ▸ .clone was rfl
  | testing =>
    cases input <;> simp only [was, reduceCtorEq, Option.some.injEq] at served
    exact served ▸ .test was rfl
  | reading =>
    cases input with
    | read outcome =>
      cases outcome with
      | data bytes =>
        cases bytes with
        | nil =>
          simp only [was, Option.some.injEq] at served
          exact served ▸ .finish was rfl
        | cons byte rest =>
          simp only [was] at served
          split at served
          · rename_i fits
            exact Option.some.inj served ▸ .receive was rfl (by simp) fits
          · cases served
      | wouldBlock =>
        simp only [was, Option.some.injEq] at served
        exact served ▸ .idle was rfl
      | timedOut =>
        simp only [was, Option.some.injEq] at served
        exact served ▸ .idle was rfl
      | failed => cases works
    | proceed => simp [was] at served
    | io succeeded => simp [was] at served
  | draining =>
    cases input <;> simp only [was, reduceCtorEq, Option.some.injEq] at served
    exact served ▸ .drain was rfl
  | responding response =>
    cases input with
    | io succeeded =>
      cases works
      simp only [was, Option.some.injEq] at served
      exact served ▸ .respond was rfl
    | proceed => simp [was] at served
    | read outcome => simp [was] at served
  | refusing message =>
    cases input with
    | io succeeded =>
      cases works
      simp only [was, Option.some.injEq] at served
      exact served ▸ .refuse was rfl
    | proceed => simp [was] at served
    | read outcome => simp [was] at served
  | returned ending => cases input <;> simp [was] at served

/-- A response to a parsed line, whatever the register and the clock were at that moment. -/
def Answers (config : ControlConfig) (line : Bytes) (response : Json) : Prop :=
  ∃ motion now, response =
    match config.parse line with
    | .ok request => (handleRequest request motion config.maximumTimeout now).1
    | .error problem => errorResponse (s!"invalid request: {problem}")

/-- The greeting and one response for each of the lines have been written. -/
def Answered (config : ControlConfig) (parsed : List Bytes) (written : List Json) : Prop :=
  ∃ answers, written = helloResponse config.maximumTimeout :: answers ∧
    List.Forall₂ (Answers config) parsed answers

/-- What has been read is the parsed lines followed by the buffer. -/
structure Split (serve : Serve) : Prop where
  consumed : serve.consumed = serve.parsed.flatten ++ serve.pending
  bounded : Stream.Bounded maxControlLineBytes newline serve.parsed

/-- Between two passes the buffer holds one unterminated line that is not too long. -/
structure Resting (serve : Serve) : Prop extends Split serve where
  unterminated : newline ∉ serve.pending
  short : serve.pending.length ≤ maxControlLineBytes

/-- The account of the stream does not depend on the phase. -/
theorem Resting.goto {serve : Serve} (resting : serve.Resting) (phase : ServePhase) :
    (serve.goto phase).Resting :=
  ⟨⟨resting.consumed, resting.bounded⟩, resting.unterminated, resting.short⟩

/-- The parsed lines are all there are before an overlong one, whatever is still to come. -/
def Overlong (consumed : Bytes) (parsed : List Bytes) : Prop :=
  ∀ rest, lines (consumed ++ rest) = { lines := parsed, tail := none }

/-- What a worker has made of the stream at each of its phases. -/
def Framed (config : ControlConfig) (serve : Serve) : Prop :=
  serve.pending.length ≤ maxControlLineBytes + controlReadBytes ∧
  match serve.phase with
  | .configuring => serve.Resting ∧ serve.parsed = [] ∧ serve.written = []
  | .greeting => serve.Resting ∧ serve.parsed = [] ∧ serve.written = []
  | .cloning => serve.Resting ∧ Answered config serve.parsed serve.written
  | .testing => serve.Resting ∧ Answered config serve.parsed serve.written
  | .reading => serve.Resting ∧ Answered config serve.parsed serve.written
  | .draining => serve.Split ∧ Answered config serve.parsed serve.written
  | .responding response => serve.Split ∧ ∃ earlier line, serve.parsed = earlier ++ [line] ∧
      Answers config line response ∧ Answered config earlier serve.written
  | .refusing _ => Overlong serve.consumed serve.parsed ∧ Answered config serve.parsed serve.written
  | .returned .endOfStream => serve.Resting ∧ Answered config serve.parsed serve.written
  | .returned .overlong => Overlong serve.consumed serve.parsed ∧ ∃ earlier message,
      serve.written = earlier ++ [errorResponse message] ∧ Answered config serve.parsed earlier
  | .returned .shutDown => False
  | .returned .failure => False

/-- More than the limit without a newline after the parsed lines is overlong. -/
theorem Split.overlong {part : Bytes} (split : before.Split) {others : Bytes}
    (held : before.pending = part ++ others) (free : newline ∉ part.take maxControlLineBytes)
    (long : maxControlLineBytes < part.length) : Overlong before.consumed before.parsed := by
  -- The parsed lines are reported first, and the reader gives up inside the part.
  intro rest
  rw [split.consumed, held, lines, List.append_assoc, List.append_assoc,
    Stream.frames_lines split.bounded, Stream.frames, Stream.framesFrom_overlong free long]
  simp

/-- A worker that has just been handed its connection has seen nothing of the stream. -/
theorem framed_start (config : ControlConfig) : Serve.start.Framed config := by
  -- All buffers are empty.
  refine ⟨by simp [start], ⟨⟨rfl, by simp [start, Stream.Bounded]⟩, ?_, ?_⟩, rfl, rfl⟩
  · simp [start]
  · simp [start]

/-- A read joins the buffer, which is refused once it is overlong without a newline. -/
theorem framed_receive {bytes : Bytes} (resting : before.Resting)
    (answered : Answered config before.parsed before.written)
    (fits : bytes.length ≤ controlReadBytes) : (before.receive bytes).Framed config := by
  -- The buffer was short, so one read cannot take it beyond its bound.
  have short := resting.short
  have filled : (before.pending ++ bytes).length ≤ maxControlLineBytes + controlReadBytes := by
    rw [List.length_append]
    omega
  have split : ({ before with
      pending := before.pending ++ bytes, consumed := before.consumed ++ bytes }).Split :=
    ⟨by simp [resting.consumed], resting.bounded⟩
  unfold receive
  simp only
  by_cases long : maxControlLineBytes < (before.pending ++ bytes).length ∧
      newline ∉ before.pending ++ bytes
  · rw [if_pos long]
    have free : newline ∉ (before.pending ++ bytes).take maxControlLineBytes :=
      fun member => long.2 (List.mem_of_mem_take member)
    -- The buffer is no line, and already longer than any may be.
    exact ⟨filled, split.overlong (List.append_nil _).symm free long.1, answered⟩
  · rw [if_neg long]
    -- The lines that have come with the bytes are left to the pass.
    exact ⟨filled, ⟨split.consumed, split.bounded⟩, answered⟩

/-- Draining takes one line, refuses an overlong one, or ends the pass. -/
theorem framed_drain (now : Instant) (motion : Mutex MotionState) (split : before.Split)
    (filled : before.pending.length ≤ maxControlLineBytes + controlReadBytes)
    (answered : Answered config before.parsed before.written) :
    (before.drain config now motion).serve.Framed config := by
  -- The cases follow the first newline in the buffer and the two length checks.
  unfold drain
  cases taken : Stream.takeLine newline before.pending with
  | none =>
    -- The pass is over, and what is left is the beginning of a line.
    have free := Stream.takeLine_none.mp taken
    simp only
    by_cases long : maxControlLineBytes < before.pending.length
    · rw [if_pos long]
      have clean : newline ∉ before.pending.take maxControlLineBytes :=
        fun member => free (List.mem_of_mem_take member)
      exact ⟨filled, split.overlong (List.append_nil _).symm clean long, answered⟩
    · rw [if_neg long]
      exact ⟨filled, ⟨⟨split.consumed, split.bounded⟩, free, Nat.not_lt.mp long⟩, answered⟩
  | some parts =>
    obtain ⟨line, rest⟩ := parts
    -- The first line is taken out of the buffer.
    obtain ⟨held, closed⟩ := Stream.takeLine_some taken
    have shorter : rest.length ≤ maxControlLineBytes + controlReadBytes := by
      rw [held, List.length_append] at filled
      omega
    simp only
    by_cases long : maxControlLineBytes < line.length
    · rw [if_pos long]
      refine ⟨shorter, split.overlong held ?_ long, answered⟩
      -- The newline is the last byte of the line, beyond the limit.
      obtain ⟨body, rfl, free⟩ := closed
      intro member
      rw [List.length_append, List.length_singleton] at long
      rw [List.take_append_of_le_length (by omega)] at member
      exact free (List.mem_of_mem_take member)
    · rw [if_neg long]
      -- A line that fits is parsed, and joins those that were.
      have grown : ({ before with
          pending := rest, parsed := before.parsed ++ [line] }).Split := by
        refine ⟨by simp [split.consumed, held], ?_⟩
        intro other member
        rcases List.mem_append.mp member with member | member
        · exact split.bounded other member
        · rw [List.mem_singleton.mp member]
          exact ⟨closed, Nat.not_lt.mp long⟩
      cases parsed : config.parse line with
      | ok request =>
        exact ⟨shorter, ⟨grown.consumed, grown.bounded⟩, before.parsed, line, rfl,
          ⟨motion, now, by simp [parsed]⟩, answered⟩
      | error problem =>
        exact ⟨shorter, ⟨grown.consumed, grown.bounded⟩, before.parsed, line, rfl,
          ⟨motion, now, by simp [parsed]⟩, answered⟩

/-- Every turn keeps the account of the stream. -/
theorem Framed.step (framed : before.Framed config) (taken : Turns config before turn after) :
    after.Framed config := by
  -- The cases follow the phases.
  cases taken with
  | configure was _ =>
    obtain ⟨filled, rest⟩ := framed
    simp only [was] at rest
    exact ⟨filled, rest.1.goto _, rest.2⟩
  | greet was _ =>
    obtain ⟨filled, rest⟩ := framed
    simp only [was] at rest
    -- The greeting is written before any answer.
    obtain ⟨resting, parsed, written⟩ := rest
    refine ⟨filled, ⟨⟨resting.consumed, resting.bounded⟩, resting.unterminated, resting.short⟩, ?_⟩
    exact ⟨[], by simp [goto, write, written], by simp [goto, write, parsed]⟩
  | clone was _ =>
    obtain ⟨filled, rest⟩ := framed
    simp only [was] at rest
    exact ⟨filled, rest.1.goto _, rest.2⟩
  | test was _ =>
    obtain ⟨filled, rest⟩ := framed
    simp only [was] at rest
    exact ⟨filled, rest.1.goto _, rest.2⟩
  | finish was _ =>
    obtain ⟨filled, rest⟩ := framed
    simp only [was] at rest
    exact ⟨filled, rest.1.goto _, rest.2⟩
  | receive was _ nonempty fits =>
    obtain ⟨_, rest⟩ := framed
    simp only [was] at rest
    exact framed_receive rest.1 rest.2 fits
  | idle was _ =>
    obtain ⟨filled, rest⟩ := framed
    simp only [was] at rest
    exact ⟨filled, rest.1.goto _, rest.2⟩
  | drain was _ =>
    obtain ⟨filled, rest⟩ := framed
    simp only [was] at rest
    exact framed_drain _ _ rest.1 filled rest.2
  | @respond response was _ =>
    obtain ⟨filled, rest⟩ := framed
    simp only [was] at rest
    -- The response answers the last of the parsed lines.
    obtain ⟨split, earlier, line, parsed, answer, answers, written, each⟩ := rest
    refine ⟨filled, ⟨split.consumed, split.bounded⟩, answers ++ [response], ?_, ?_⟩
    · simp [goto, write, written]
    · simp only [goto, write, parsed]
      exact List.rel_append each (.cons answer .nil)
  | refuse was _ =>
    obtain ⟨filled, rest⟩ := framed
    simp only [was] at rest
    exact ⟨filled, rest.1, before.written, _, rfl, rest.2⟩

/-- A turn consumes what it reads. -/
theorem consumed_turns (taken : Turns config before turn after) :
    after.consumed = before.consumed ++ turn.piece.getD [] := by
  -- Only a nonempty read adds to what has been consumed.
  cases taken with
  | receive was something _ _ =>
    rw [something, receive]
    split <;> rfl
  | finish was nothing => simp [nothing, goto]
  | drain was silent =>
    rw [silent, drain]
    simp only [Option.getD_none, List.append_nil]
    split
    · split
      · rfl
      · split <;> rfl
    · split <;> rfl
  | configure was silent => simp [silent, goto]
  | greet was silent => simp [silent, goto, write]
  | clone was silent => simp [silent, goto]
  | test was silent => simp [silent, goto]
  | idle was silent => simp [silent, goto]
  | respond was silent => simp [silent, goto, write]
  | refuse was silent => simp [silent, goto, write]

/-- The end of the stream is reported only by an empty read, and it ends the worker's function. -/
theorem endOfStream_turns (taken : Turns config before turn after) :
    after.phase = .returned .endOfStream ↔ turn.piece = some [] := by
  -- Of the listed turns, one reads nothing, and no other returns that way.
  cases taken with
  | receive was something nonempty _ =>
    refine ⟨fun ended => ?_, fun nothing => ?_⟩
    · rw [receive] at ended
      split at ended <;> cases ended
    · rw [something, Option.some.injEq] at nothing
      exact absurd nothing nonempty
  | finish was nothing => simp [nothing, goto]
  | drain was silent =>
    rw [silent, drain]
    split
    · split
      · simp [goto]
      · split <;> simp [goto]
    · split <;> simp [goto]
  | configure was silent => simp [silent, goto]
  | greet was silent => simp [silent, goto]
  | clone was silent => simp [silent, goto]
  | test was silent => simp [silent, goto]
  | idle was silent => simp [silent, goto]
  | respond was silent => simp [silent, goto]
  | refuse was silent => simp [silent, goto]

/-- A worker whose function has returned takes no further turn. -/
theorem turn_returned {ending : Ending} (ended : before.phase = .returned ending) :
    before.turn config turn = none := by
  -- No answer fits the phase.
  unfold Serve.turn serveControlClient
  rw [ended]
  cases turn.input <;> rfl

/-- Along a run the reads add up, and an empty one among them means the end of the stream. -/
theorem reads_run {turns : List ServeTurn} {serve final : Serve}
    (works : ∀ turn ∈ turns, turn.works = true)
    (ran : Machine.run (Serve.turn config) serve turns = some final) :
    final.consumed = serve.consumed ++ (reads turns).flatten ∧
      (serve.phase ≠ .returned .endOfStream →
        ([] ∈ reads turns ↔ final.phase = .returned .endOfStream)) := by
  -- The turns are taken from the front, and none follows the end of the stream.
  induction turns generalizing serve with
  | nil =>
    simp only [Machine.run, Option.some.injEq] at ran
    subst ran
    exact ⟨by simp [reads], fun open_ => by simp [reads, open_]⟩
  | cons turn rest ih =>
    obtain ⟨next, taken, ran⟩ := Machine.run_cons.mp ran
    have turns := turn_turns (works turn (by simp)) taken
    have later := ih (fun other member => works other (by simp [member])) ran
    have ended := endOfStream_turns turns
    constructor
    · -- What is read first comes first.
      rw [later.1, consumed_turns turns]
      cases piece : turn.piece <;> simp [reads, piece]
    · intro open_
      by_cases atEnd : next.phase = .returned .endOfStream
      · -- After the end of the stream there is nothing to be read.
        have last : rest = [] := by
          cases rest with
          | nil => rfl
          | cons other others =>
            obtain ⟨_, further, _⟩ := Machine.run_cons.mp ran
            rw [turn_returned atEnd] at further
            cases further
        subst last
        simp only [Machine.run, Option.some.injEq] at ran
        simp [reads, ended.mp atEnd, ← ran, atEnd]
      · -- The first turn does not read the end, so the others decide.
        have other : turn.piece ≠ some [] := fun nothing => atEnd (ended.mpr nothing)
        rw [← later.2 atEnd]
        cases piece : turn.piece with
        | none => simp [reads, piece]
        | some bytes =>
          have nonempty : [] ≠ bytes := by
            rintro rfl
            exact other piece
          simp [reads, piece, nonempty]

/-- A run that works can be continued to the worker's return by reading the pieces in order. -/
def Completes (config : ControlConfig) (serve : Serve) (pieces : List Bytes) : Prop :=
  ∃ further final ending, (∀ turn ∈ further, turn.works = true) ∧
    reads further <+: pieces ++ [[]] ∧
    Machine.run (Serve.turn config) serve further = some final ∧ final.phase = .returned ending

/-- A turn of the worker alone, the register being clear and the clock at zero. -/
def alone (input : ServeInput) : ServeTurn where
  now := 0
  motion := { value := MotionState.default }
  input := input

/-- A turn without a read comes before whatever completes the rest. -/
theorem Completes.silent {serve : Serve} {pieces : List Bytes} (input : ServeInput)
    (next : Serve)
    (works : (alone input).works = true) (silent : (alone input).piece = none)
    (taken : serve.turn config (alone input) = some next) (rest : Completes config next pieces) :
    Completes config serve pieces := by
  -- The turn is put in front, and the reads stay the same.
  obtain ⟨further, final, ending, others, order, ran, ended⟩ := rest
  refine ⟨alone input :: further, final, ending, ?_, ?_,
    Machine.run_cons.mpr ⟨next, taken, ran⟩, ended⟩
  · intro turn member
    rcases List.mem_cons.mp member with rfl | member
    · exact works
    · exact others turn member
  · simpa [reads, silent] using order

/-- A turn that reads the next piece comes before whatever completes the rest. -/
theorem Completes.read {serve : Serve} {piece : Bytes} {pieces : List Bytes} (next : Serve)
    (taken : serve.turn config (alone (.read (.data piece))) = some next)
    (rest : Completes config next pieces) : Completes config serve (piece :: pieces) := by
  -- The turn is put in front, and its piece with it.
  obtain ⟨further, final, ending, others, order, ran, ended⟩ := rest
  refine ⟨alone (.read (.data piece)) :: further, final, ending, ?_, ?_,
    Machine.run_cons.mpr ⟨next, taken, ran⟩, ended⟩
  · intro turn member
    rcases List.mem_cons.mp member with rfl | member
    · rfl
    · exact others turn member
  · exact List.prefix_cons_iff.mpr (.inr ⟨_, rfl, order⟩)

/-- A worker that has returned is complete. -/
theorem completes_returned {serve : Serve} {ending : Ending} (pieces : List Bytes)
    (ended : serve.phase = .returned ending) : Completes config serve pieces :=
  ⟨[], serve, ending, by simp, by simp [reads], rfl, ended⟩

/-- Refusing is one write from the return. -/
theorem completes_refusing {serve : Serve} (message : String) (pieces : List Bytes)
    (at_ : serve.phase = .refusing message) : Completes config serve pieces := by
  -- The error is written and the function returns.
  refine .silent (.io true) ((serve.write (errorResponse message)).goto (.returned .overlong))
    rfl rfl ?_ (completes_returned pieces rfl)
  simp only [Serve.turn, serveControlClient, at_, alone]
  rfl

/-- What draining leads to, a response leaving less in the buffer. -/
theorem drain_phase (config : ControlConfig) (serve : Serve) (now : Instant) (motion : Mutex MotionState) :
    (serve.drain config now motion).serve.phase = .testing ∨
      (∃ message, (serve.drain config now motion).serve.phase = .refusing message) ∨
      ∃ response, (serve.drain config now motion).serve.phase = .responding response ∧
        (serve.drain config now motion).serve.pending.length < serve.pending.length := by
  -- The cases are those of the pass.
  unfold drain
  cases taken : Stream.takeLine newline serve.pending with
  | none =>
    simp only
    split
    · exact .inr (.inl ⟨_, rfl⟩)
    · exact .inl rfl
  | some parts =>
    obtain ⟨line, rest⟩ := parts
    obtain ⟨held, body, closed, _⟩ := Stream.takeLine_some taken
    -- The line that is taken out has its newline at least.
    have shorter : rest.length < serve.pending.length := by
      rw [held, closed]
      simp
      omega
    simp only
    split
    · exact .inr (.inl ⟨_, rfl⟩)
    · split
      · exact .inr (.inr ⟨_, rfl, shorter⟩)
      · exact .inr (.inr ⟨_, rfl, shorter⟩)

/-- A pass over the buffer leads to the running test or to the return. -/
theorem completes_draining {pieces : List Bytes}
    (tests : ∀ serve : Serve, serve.phase = .testing → Completes config serve pieces)
    (serve : Serve) (at_ : serve.phase = .draining) : Completes config serve pieces := by
  -- Every response leaves a shorter buffer to drain.
  induction size : serve.pending.length using Nat.strong_induction_on generalizing serve with
  | _ size ih =>
    refine .silent .proceed (serve.drain config 0 { value := MotionState.default }).serve
      rfl rfl ?_ ?_
    · simp only [Serve.turn, serveControlClient, at_, alone]
      rfl
    · rcases drain_phase config serve 0 { value := MotionState.default } with
        tested | ⟨message, refused⟩ | ⟨response, responds, shorter⟩
      · -- The buffer has no further line.
        exact tests _ tested
      · exact completes_refusing message pieces refused
      · -- The response is written, and the rest of the buffer is drained.
        refine .silent (.io true)
          (((serve.drain config 0 { value := MotionState.default }).serve.write response).goto
            .draining) rfl rfl ?_ (ih _ (size ▸ shorter) _ rfl rfl)
        simp only [Serve.turn, serveControlClient, responds, alone]
        rfl

/-- At the running test or at a read, every cut of what is still to come is read to the return. -/
theorem completes_resting (pieces : List Bytes)
    (cut : ∀ piece ∈ pieces, piece ≠ [] ∧ piece.length ≤ controlReadBytes) (serve : Serve)
    (at_ : serve.phase = .testing ∨ serve.phase = .reading) :
    Completes config serve pieces := by
  -- One piece is read and drained after the other, then the end of the stream is read.
  induction pieces generalizing serve with
  | nil =>
    -- Without a piece the end of the stream is all there is to read.
    have reads_ : ∀ serve : Serve, serve.phase = .reading → Completes config serve [] := by
      intro serve at_
      refine ⟨[alone (.read (.data []))], serve.goto (.returned .endOfStream), _,
        by simp [ServeTurn.works, alone], by simp [reads, ServeTurn.piece, alone], ?_, rfl⟩
      simp only [Machine.run, Serve.turn, serveControlClient, at_, alone]
      rfl
    rcases at_ with tests | at_
    · refine .silent .proceed (serve.goto .reading) rfl rfl ?_ (reads_ _ rfl)
      simp only [Serve.turn, serveControlClient, tests, alone]
      rfl
    · exact reads_ serve at_
  | cons piece rest ih =>
    obtain ⟨nonempty, fits⟩ := cut piece (by simp)
    have tests := ih fun other member => cut other (by simp [member])
    have reads_ : ∀ serve : Serve, serve.phase = .reading →
        Completes config serve (piece :: rest) := by
      intro serve at_
      refine .read (serve.receive piece) ?_ ?_
      · cases piece with
        | nil => exact absurd rfl nonempty
        | cons byte others =>
          simp only [Serve.turn, serveControlClient, at_, alone, if_pos fits]
          rfl
      · -- The buffer with the piece is refused, or its lines are answered.
        by_cases long : maxControlLineBytes < (serve.pending ++ piece).length ∧
            newline ∉ serve.pending ++ piece
        · refine completes_refusing "control message is too long or is missing a newline"
            rest ?_
          unfold receive
          exact (congrArg Serve.phase (if_pos long)).trans rfl
        · refine completes_draining (fun other at_ => tests other (.inl at_)) _ ?_
          unfold receive
          exact (congrArg Serve.phase (if_neg long)).trans rfl
    rcases at_ with tested | at_
    · refine .silent .proceed (serve.goto .reading) rfl rfl ?_ (reads_ _ rfl)
      simp only [Serve.turn, serveControlClient, tested, alone]
      rfl
    · exact reads_ serve at_

/-- Wherever the worker stands, every cut of what is still to come is read to the return. -/
theorem completes (config : ControlConfig) (pieces : List Bytes)
    (cut : ∀ piece ∈ pieces, piece ≠ [] ∧ piece.length ≤ controlReadBytes) (serve : Serve) :
    Completes config serve pieces := by
  -- The first three phases and a pass over the buffer lead to the running test.
  have tests : ∀ serve : Serve, serve.phase = .testing → Completes config serve pieces :=
    fun serve at_ => completes_resting pieces cut serve (.inl at_)
  have clones : ∀ serve : Serve, serve.phase = .cloning → Completes config serve pieces := by
    intro serve at_
    refine .silent (.io true) (serve.goto .testing) rfl rfl ?_ (tests _ rfl)
    simp only [Serve.turn, serveControlClient, at_, alone]
    rfl
  have greets : ∀ serve : Serve, serve.phase = .greeting → Completes config serve pieces := by
    intro serve at_
    refine .silent (.io true) ((serve.write (helloResponse config.maximumTimeout)).goto .cloning)
      rfl rfl ?_ (clones _ rfl)
    simp only [Serve.turn, serveControlClient, at_, alone]
    rfl
  cases at_ : serve.phase with
  | configuring =>
    refine .silent (.io true) (serve.goto .greeting) rfl rfl ?_ (greets _ rfl)
    simp only [Serve.turn, serveControlClient, at_, alone]
    rfl
  | greeting => exact greets serve at_
  | cloning => exact clones serve at_
  | testing => exact tests serve at_
  | reading => exact completes_resting pieces cut serve (.inr at_)
  | draining => exact completes_draining tests serve at_
  | responding response =>
    refine .silent (.io true) ((serve.write response).goto .draining) rfl rfl ?_
      (completes_draining tests _ rfl)
    simp only [Serve.turn, serveControlClient, at_, alone]
    rfl
  | refusing message => exact completes_refusing message pieces at_
  | returned ending => exact completes_returned pieces at_

/-- Every state a run that works reaches accounts for what it has read. -/
theorem framed_run {turns : List ServeTurn} {serve : Serve}
    (works : ∀ turn ∈ turns, turn.works = true)
    (ran : Machine.run (Serve.turn config) Serve.start turns = some serve) :
    serve.Framed config := by
  -- The account holds at the start and every turn keeps it.
  exact Machine.run_invariant (fun turn => turn.works = true) (Framed config)
    (fun _ _ _ works framed taken => framed.step (turn_turns works taken)) works
    (framed_start config) ran

/-- The lines parsed so far begin the lines of every stream that begins with what was read. -/
theorem Framed.parsed_prefix {serve : Serve} (framed : serve.Framed config) (rest : Bytes) :
    serve.parsed <+: (lines (serve.consumed ++ rest)).lines := by
  -- Either the buffer is still open, or the stream is known to be overlong.
  have open_ : serve.Split → serve.parsed <+: (lines (serve.consumed ++ rest)).lines := by
    intro split
    rw [split.consumed, lines, List.append_assoc, Stream.frames_lines split.bounded]
    exact List.prefix_append _ _
  have long : Overlong serve.consumed serve.parsed →
      serve.parsed <+: (lines (serve.consumed ++ rest)).lines := by
    intro overlong
    have same := congrArg Stream.Frames.lines (overlong rest)
    exact same ▸ List.prefix_refl _
  obtain ⟨_, account⟩ := framed
  split at account
  · exact open_ account.1.toSplit
  · exact open_ account.1.toSplit
  · exact open_ account.1.toSplit
  · exact open_ account.1.toSplit
  · exact open_ account.1.toSplit
  · exact open_ account.1
  · exact open_ account.1
  · exact long account.1
  · exact open_ account.1.toSplit
  · exact long account.1
  · exact account.elim
  · exact account.elim

/-- What a worker has parsed and written when it returns, by the stream alone. -/
def Closed (config : ControlConfig) (stream : Bytes) (serve : Serve) (ending : Ending) : Prop :=
  serve.parsed = (lines stream).lines ∧
    match (lines stream).tail with
    | some _ => ending = .endOfStream ∧ Answered config (lines stream).lines serve.written
    | none => ending = .overlong ∧ ∃ earlier message,
        serve.written = earlier ++ [errorResponse message] ∧
          Answered config (lines stream).lines earlier

/-- A worker that has returned has closed on the lines of its stream. -/
theorem Framed.closed {serve : Serve} {ending : Ending} {rest : Bytes}
    (framed : serve.Framed config) (ended : serve.phase = .returned ending)
    (whole : ending = .endOfStream → rest = []) :
    Closed config (serve.consumed ++ rest) serve ending := by
  -- At the end of the stream the buffer is its tail, and an overlong line ends it anywhere.
  obtain ⟨_, account⟩ := framed
  rw [ended] at account
  cases ending with
  | endOfStream =>
    obtain ⟨resting, answered⟩ := account
    -- The stream is what was consumed, and the buffer has no newline.
    have all : lines (serve.consumed ++ rest) =
        { lines := serve.parsed, tail := some serve.pending } := by
      rw [whole rfl, List.append_nil, resting.consumed, lines,
        Stream.frames_lines resting.bounded,
        Stream.frames_tail resting.unterminated resting.short]
      simp
    unfold Closed
    rw [all]
    exact ⟨rfl, rfl, answered⟩
  | overlong =>
    -- Whatever would have come next, the stream has the lines that were parsed.
    obtain ⟨overlong, earlier, message, written, answered⟩ := account
    unfold Closed
    rw [overlong rest]
    exact ⟨rfl, rfl, earlier, message, written, answered⟩
  | shutDown => exact account.elim
  | failure => exact account.elim

/-- Between two passes the account is that of a resting worker. -/
theorem Framed.resting {serve : Serve} (framed : serve.Framed config)
    (at_ : serve.phase = .testing ∨ serve.phase = .reading) : serve.Resting := by
  -- Both phases carry it.
  obtain ⟨_, account⟩ := framed
  rcases at_ with at_ | at_
  · rw [at_] at account
    exact account.1
  · rw [at_] at account
    exact account.1

/-- Reads in the order of a cut leave the rest of the cut, or have met the end of the stream. -/
theorem reads_rest {pieces : List Bytes} {turns : List ServeTurn}
    (cut : ∀ piece ∈ pieces, piece ≠ [] ∧ piece.length ≤ controlReadBytes)
    (order : reads turns <+: pieces ++ [[]]) :
    (∃ rest, pieces = reads turns ++ rest ∧ [] ∉ reads turns) ∨ reads turns = pieces ++ [[]] := by
  -- Every proper beginning of the reads lies within the pieces, and none of these is empty.
  rcases List.prefix_concat_iff.mp order with all | ⟨rest, part⟩
  · exact .inr all
  · refine .inl ⟨rest, part.symm, fun empty => ?_⟩
    exact (cut [] (part ▸ List.mem_append_left _ empty)).1 rfl

/-- Whatever the cut of a stream into reads, the lines parsed, the responses and the way the
connection ends are those of the stream, and the buffer stays within its bounds. -/
theorem framing_independent_of_cut {pieces : List Bytes} {turns : List ServeTurn} {serve : Serve}
    (cut : ∀ piece ∈ pieces, piece ≠ [] ∧ piece.length ≤ controlReadBytes)
    (works : ∀ turn ∈ turns, turn.works = true) (order : reads turns <+: pieces ++ [[]])
    (ran : Machine.run (Serve.turn config) Serve.start turns = some serve) :
    serve.pending.length ≤ 5120 ∧
    (serve.phase = .testing ∨ serve.phase = .reading →
      newline ∉ serve.pending ∧ serve.pending.length ≤ 4096) ∧
    serve.parsed <+: (lines pieces.flatten).lines ∧
    (∀ ending, serve.phase = .returned ending → Closed config pieces.flatten serve ending) ∧
    (∃ further final ending, (∀ turn ∈ further, turn.works = true) ∧
      reads (turns ++ further) <+: pieces ++ [[]] ∧
      Machine.run (Serve.turn config) serve further = some final ∧
      final.phase = .returned ending) ∧
    (Stream.Bounded 4096 newline (lines pieces.flatten).lines ∧
      ∃ rest, pieces.flatten = (lines pieces.flatten).lines.flatten ++ rest ∧
        Stream.Leaves 4096 newline rest (lines pieces.flatten).tail) := by
  -- The account of the run is read at the stream that the pieces make up.
  have framed := framed_run works ran
  obtain ⟨consumed, ends⟩ := reads_run works ran
  have ends := ends (by simp [start])
  have beginning : ∃ rest, pieces.flatten = serve.consumed ++ rest ∧
      (serve.phase = .returned .endOfStream → rest = []) := by
    rcases reads_rest cut order with ⟨rest, part, nonempty⟩ | all
    · -- Some pieces have not been read, and neither has the end.
      refine ⟨rest.flatten, ?_, fun atEnd => absurd (ends.mpr atEnd) nonempty⟩
      rw [consumed, part, List.flatten_append]
      rfl
    · refine ⟨[], ?_, fun _ => rfl⟩
      rw [consumed, all]
      simp [start]
  obtain ⟨rest, stream, whole⟩ := beginning
  refine ⟨framed.1, fun at_ => ?_, ?_, ?_, ?_, Stream.frames_spec _ _ _⟩
  · exact ⟨(framed.resting at_).unterminated, (framed.resting at_).short⟩
  · exact stream ▸ framed.parsed_prefix rest
  · intro ending ended
    exact stream ▸ framed.closed ended fun atEnd => whole (atEnd ▸ ended)
  · rcases reads_rest cut order with ⟨more, part, _⟩ | all
    · -- The pieces that are left are read to the return.
      have cutMore : ∀ piece ∈ more, piece ≠ [] ∧ piece.length ≤ controlReadBytes :=
        fun piece member => cut piece (part ▸ List.mem_append_right _ member)
      obtain ⟨further, final, ending, others, onwards, ran, ended⟩ :=
        completes config more cutMore serve
      refine ⟨further, final, ending, others, ?_, ran, ended⟩
      rw [reads, List.filterMap_append, part, List.append_assoc]
      exact (List.prefix_append_right_inj _).mpr onwards
    · -- The end has been read, and nothing more is needed.
      have atEnd := ends.mp (by simp [all])
      refine ⟨[], serve, .endOfStream, by simp, ?_, rfl, atEnd⟩
      rw [List.append_nil]
      exact order

/-- A stream whose first line fits, cut in the middle of that line. -/
def cutStream : List Bytes :=
  [[112], [newline, 113]]

/-- The turns that read the cut stream and answer its only complete line. -/
def cutTurns : List ServeTurn :=
  [alone (.io true), alone (.io true), alone (.io true), alone .proceed,
    alone (.read (.data [112])), alone .proceed, alone .proceed, alone (.read .wouldBlock),
    alone .proceed, alone (.read (.data [newline, 113])), alone .proceed, alone (.io true),
    alone .proceed, alone .proceed, alone (.read (.data []))]

/-- The cut stream is parsed as its one complete line, and the rest is dropped at its end. -/
theorem framing_independent_of_cut_cutStream :
    ∃ serve, Machine.run (Serve.turn { parse := fun _ => .ok .ping, maximumTimeout := 0 })
        Serve.start cutTurns = some serve ∧
      Closed { parse := fun _ => .ok .ping, maximumTimeout := 0 } cutStream.flatten serve
        .endOfStream := by
  -- The run is evaluated, and the theorem is applied to the state it ends in.
  have played : (Machine.run (Serve.turn { parse := fun _ => .ok .ping, maximumTimeout := 0 })
      Serve.start cutTurns).any (fun serve => match serve.phase with
        | .returned .endOfStream => true
        | _ => false) = true := by
    decide +kernel
  obtain ⟨serve, ran, ended⟩ := (Option.any_eq_true _ _).mp played
  refine ⟨serve, ran, ?_⟩
  have order : reads cutTurns <+: cutStream ++ [[]] := by
    have same : reads cutTurns = cutStream ++ [[]] := by decide
    exact same ▸ List.prefix_refl _
  have closes := (framing_independent_of_cut (by decide) (by decide) order ran).2.2.2.1
  refine closes .endOfStream ?_
  split at ended
  · assumption
  · cases ended

end Serve
end Scout
