import Scout.Matlab.Client

/-! A control line is read exactly if it is short enough and arrives in time. -/

namespace Scout.Matlab

open Machine Dialogue

namespace Poll

/-- The clock at a look. -/
def elapsed : Poll → F64
  | .looked elapsed _ => elapsed
  | .raised elapsed _ => elapsed

/-- The number of bytes that arrive until a look. -/
def arriving : Poll → Nat
  | .looked _ arriving => arriving
  | .raised _ _ => 0

/-- A look that fails neither by itself nor for being late. -/
def Timely (timeout : F64) : Poll → Prop
  | .looked elapsed _ => ¬ timeout ≤ elapsed
  | .raised _ _ => False

/-- A timely look is not late. -/
theorem Timely.early {timeout : F64} {poll : Poll} (timely : poll.Timely timeout) :
    ¬ timeout ≤ poll.elapsed := by
  -- A poll that raises is never in time.
  cases poll with
  | looked elapsed arriving => exact timely
  | raised elapsed error => exact timely.elim

end Poll

/-- The number of bytes that arrive until the last of some looks. -/
def arrived (polls : List Poll) : Nat := (polls.map Poll.arriving).sum

namespace Session

/-- Everything that is still to be read from the control connection. -/
def stream (session : Session) : Bytes :=
  session.client.controlBuffer ++ (session.available ++ session.underway)

/-- So many bytes have been read, or have arrived at a look before the timeout. -/
def InTime (session : Session) (count : Nat) : Prop :=
  count ≤ session.client.controlBuffer.length ∨
    ∃ seen, seen ≠ [] ∧ seen <+: session.polls ∧
      (∀ poll ∈ seen, poll.Timely session.client.timeout) ∧
      count ≤ session.client.controlBuffer.length + session.available.length + arrived seen

/-- A line comes next, with its line feed has at most 4096 bytes, and arrives in time. -/
structure NextLine (session : Session) (line : Bytes) : Prop where
  single : newline ∉ line
  next : line ++ [newline] <+: session.stream
  short : line.length + 1 ≤ maximum
  inTime : session.InTime (line.length + 1)

/-- After one session some bytes have been read, and nothing else has happened. -/
structure Reads (start session : Session) (taken : Bytes) : Prop where
  frame : session =
    { start with
      client := { start.client with controlBuffer := session.client.controlBuffer }
      available := session.available
      underway := session.underway
      polls := session.polls }
  whole : start.stream = taken ++ session.stream
  bounded : session.client.controlBuffer.length ≤ maximum

/-- The session after a look, with as many available bytes as there is room for. -/
def receive (session : Session) (arriving : Nat) (polls : List Poll) : Session :=
  let bytes := session.available ++ session.underway.take arriving
  let room := maximum - session.client.controlBuffer.length
  { session with
    client :=
      { session.client with controlBuffer := session.client.controlBuffer ++ bytes.take room }
    available := bytes.drop room
    underway := session.underway.drop arriving
    polls }

section Lines

variable {session : Session} {line : Bytes}

/-- Only one line comes next. -/
theorem NextLine.unique {other : Bytes} (next : session.NextLine line)
    (again : session.NextLine other) : line = other := by
  -- Of two beginnings of one stream, one is the beginning of the other.
  have inside : ∀ {first second : Bytes}, newline ∉ second →
      first ++ [newline] <+: second ++ [newline] → first = second := by
    intro first second free part
    rcases List.prefix_concat_iff.mp part with same | shorter
    · exact List.append_cancel_right same
    · exact absurd (shorter.subset (List.mem_append_right _ (List.mem_singleton_self _))) free
  rcases List.prefix_or_prefix_of_prefix next.next again.next with part | part
  · exact inside again.single part
  · exact (inside next.single part).symm

/-- A line whose line feed has not been read is longer than what has been read. -/
theorem NextLine.beyond (next : session.NextLine line)
    (free : newline ∉ session.client.controlBuffer) :
    session.client.controlBuffer.length < line.length + 1 := by
  -- A line within the buffer would bring its line feed along.
  by_contra inside
  have whole : line ++ [newline] <+: session.client.controlBuffer := by
    refine List.prefix_of_prefix_length_le next.next (List.prefix_append _ _) ?_
    rw [List.length_append, List.length_singleton]
    exact Nat.not_lt.mp inside
  exact free (whole.subset (List.mem_append_right _ (List.mem_singleton_self _)))

/-- Without a timely look no line arrives that has not been read. -/
theorem not_nextLine (free : newline ∉ session.client.controlBuffer)
    (late : ∀ poll ∈ session.polls.head?, ¬ poll.Timely session.client.timeout) :
    ¬ session.NextLine line := by
  intro next
  rcases next.inTime with read | ⟨seen, some, part, timely, enough⟩
  · exact absurd (next.beyond free) (Nat.not_lt.mpr read)
  · -- The first look is one of those that would have to be timely.
    cases seen with
    | nil => exact some rfl
    | cons first seen =>
      obtain ⟨rest, whole⟩ := part
      rw [List.cons_append] at whole
      refine late first ?_ (timely first (.head _))
      rw [← whole]
      rfl

/-- A line that can be taken out of the buffer comes next. -/
theorem nextLine_of_taken {rest : Bytes} (bounded : session.client.controlBuffer.length ≤ maximum)
    (taken : Stream.takeLine newline session.client.controlBuffer = some (line, rest)) :
    session.NextLine line.dropLast ∧ line = line.dropLast ++ [newline] ∧
      session.client.controlBuffer = line ++ rest := by
  -- What is taken is a line and its line feed, and the rest stays in the buffer.
  obtain ⟨split, body, rfl, free⟩ := Stream.takeLine_some taken
  rw [List.dropLast_concat]
  have lengths := congrArg List.length split
  rw [List.length_append, List.length_append, List.length_singleton] at lengths
  refine ⟨⟨free, ?_, by omega, .inl (by omega)⟩, rfl, split⟩
  rw [stream, split, List.append_assoc]
  exact List.prefix_append _ _

/-- Receiving changes nothing that is still to be read. -/
theorem receive_stream {arriving : Nat} {polls : List Poll} :
    (session.receive arriving polls).stream = session.stream := by
  -- What is moved stays in its place.
  simp only [stream, receive, List.append_assoc]
  rw [← List.append_assoc (List.take _ _) (List.drop _ _), List.take_append_drop,
    List.append_assoc, List.take_append_drop]

/-- After receiving, the buffer is not longer than a line may be. -/
theorem receive_bounded {arriving : Nat} {polls : List Poll}
    (bounded : session.client.controlBuffer.length ≤ maximum) :
    (session.receive arriving polls).client.controlBuffer.length ≤ maximum := by
  -- No more is moved than there is room for.
  simp only [receive, List.length_append, List.length_take]
  omega

/-- The lengths after receiving are those before, as far as bytes have arrived. -/
theorem receive_lengths (session : Session) (arriving : Nat) (polls : List Poll) :
    (session.receive arriving polls).client.controlBuffer.length =
        session.client.controlBuffer.length + min (maximum - session.client.controlBuffer.length)
          (session.available.length + min arriving session.underway.length) ∧
      (session.receive arriving polls).available.length =
        session.available.length + min arriving session.underway.length -
          (maximum - session.client.controlBuffer.length) := by
  -- Some bytes arrive, and as many as there is room for are moved.
  simp only [receive, List.length_append, List.length_take, List.length_drop, and_self]

/-- A line that comes next is not longer than what is still to be read. -/
theorem NextLine.length_le (next : session.NextLine line) :
    line.length + 1 ≤ session.client.controlBuffer.length + session.available.length +
      session.underway.length := by
  -- The line lies within the stream.
  have whole := next.next.length_le
  rw [stream] at whole
  simp only [List.length_append, List.length_singleton] at whole
  omega

/-- What is in time before a timely look is in time after it, if it can be read at all. -/
theorem InTime.receive {elapsed : F64} {arriving count : Nat} {polls : List Poll}
    (first : session.polls = .looked elapsed arriving :: polls) (inTime : session.InTime count)
    (short : count ≤ maximum)
    (enough : count ≤ session.client.controlBuffer.length + session.available.length +
      session.underway.length) : (session.receive arriving polls).InTime count := by
  obtain ⟨buffer, available⟩ := session.receive_lengths arriving polls
  by_cases read : count ≤ (session.receive arriving polls).client.controlBuffer.length
  · exact .inl read
  rcases inTime with before | ⟨seen, some, part, timely, most⟩
  · omega
  cases seen with
  | nil => exact absurd rfl some
  | cons poll seen =>
    rw [first, List.cons_prefix_cons] at part
    obtain ⟨rfl, part⟩ := part
    rw [arrived, List.map_cons, List.sum_cons, Poll.arriving] at most
    refine .inr ⟨seen, ?_, part, fun poll member => timely poll (.tail _ member), ?_⟩
    · -- With no further look there would be enough to read already.
      intro none
      subst none
      rw [List.map_nil, List.sum_nil] at most
      omega
    · show _ ≤ _ + _ + (seen.map Poll.arriving).sum
      omega

/-- What is in time after a timely look is in time before it. -/
theorem InTime.of_receive {elapsed : F64} {arriving count : Nat} {polls : List Poll}
    (first : session.polls = .looked elapsed arriving :: polls)
    (early : ¬ session.client.timeout ≤ elapsed)
    (inTime : (session.receive arriving polls).InTime count) : session.InTime count := by
  -- The poll that has received comes before the polls that are looked at then.
  obtain ⟨buffer, available⟩ := session.receive_lengths arriving polls
  have timely : (Poll.looked elapsed arriving).Timely session.client.timeout := early
  rcases inTime with read | ⟨seen, some, part, later, most⟩
  · -- The line has been read already, so this poll alone brings it.
    refine .inr ⟨[.looked elapsed arriving], List.cons_ne_nil _ _, ?_, ?_, ?_⟩
    · rw [first]
      exact List.prefix_append [_] polls
    · exact List.forall_mem_singleton.mpr timely
    · show _ ≤ _ + _ + (arriving + 0)
      omega
  · -- The later polls bring the rest.
    refine .inr ⟨.looked elapsed arriving :: seen, List.cons_ne_nil _ _, ?_, ?_, ?_⟩
    · rw [first]
      exact List.cons_prefix_cons.mpr ⟨rfl, part⟩
    · exact List.forall_mem_cons.mpr ⟨timely, later⟩
    · show _ ≤ _ + _ + (arriving + arrived seen)
      omega

/-- A line arrives in time exactly if it does so after a timely look. -/
theorem nextLine_receive {elapsed : F64} {arriving : Nat} {polls : List Poll}
    (first : session.polls = .looked elapsed arriving :: polls)
    (early : ¬ session.client.timeout ≤ elapsed) :
    session.NextLine line ↔ (session.receive arriving polls).NextLine line := by
  -- Receiving moves the stream, and the line feed may still arrive with a later poll.
  constructor
  · intro next
    refine ⟨next.single, ?_, next.short, next.inTime.receive first next.short next.length_le⟩
    rw [receive_stream]
    exact next.next
  · intro next
    refine ⟨next.single, ?_, next.short, next.inTime.of_receive first early⟩
    rw [← session.receive_stream]
    exact next.next

end Lines
end Session

open Session

/-- How one round of reading a line ends. -/
inductive RoundEnds (session : Session) : Reply MException (Unit ⊕ Bytes) × Session → Prop where
  /-- A line is taken out of the buffer. -/
  | line (line rest : Bytes)
      (taken : Stream.takeLine newline session.client.controlBuffer = some (line, rest)) :
      RoundEnds session (.returned (.inr line.dropLast),
        { session with client := { session.client with controlBuffer := rest } })
  /-- The buffer is full. -/
  | full (error : MException) (own : error.identifier ≠ "MoorebotScout:Bridge")
      (free : newline ∉ session.client.controlBuffer)
      (full : maximum ≤ session.client.controlBuffer.length) :
      RoundEnds session (.failed error, session)
  /-- There is nothing to look at yet. -/
  | waits (free : newline ∉ session.client.controlBuffer) (none : session.polls = []) :
      RoundEnds session (.waiting, session)
  /-- A look fails, or is too late. -/
  | fails (error : MException) (own : error.identifier ≠ "MoorebotScout:Bridge")
      (free : newline ∉ session.client.controlBuffer) (poll : Poll) (polls : List Poll)
      (first : session.polls = poll :: polls) (late : ¬ poll.Timely session.client.timeout) :
      RoundEnds session (.failed error, { session with polls })
  /-- What has arrived is read. -/
  | receives (free : newline ∉ session.client.controlBuffer) (elapsed : F64) (arriving : Nat)
      (polls : List Poll) (first : session.polls = .looked elapsed arriving :: polls)
      (early : ¬ session.client.timeout ≤ elapsed) :
      RoundEnds session (.returned (.inl ()), session.receive arriving polls)

section Rounds

variable {session : Session}

/-- A late line is no bridge error. -/
theorem lateLine_own (client : MoorebotScout) :
    (lateLine client).identifier ≠ "MoorebotScout:Bridge" := by
  -- Both errors are raised by this client.
  unfold lateLine
  split <;> simp

/-- At a timely look the bytes that have arrived are read. -/
theorem readAvailable_receives {elapsed : F64} {arriving : Nat} {polls : List Poll}
    (early : ¬ session.client.timeout ≤ elapsed) :
    readAvailable session.client (.looked elapsed arriving) { session with polls } =
      (.returned (.inl ()), session.receive arriving polls) := by
  rw [readAvailable, if_neg early, arrive, update_bind, current_bind, receive]
  by_cases some : 0 < (session.available ++ session.underway.take arriving).length
  · rw [if_pos some, readControl, update_bind]
    dsimp only
    rw [Nat.min_comm, ← List.take_eq_take_min, ← List.drop_eq_drop_min]
    rfl
  · -- Without bytes there is nothing to take or to drop.
    have none := List.eq_nil_of_length_eq_zero (Nat.eq_zero_of_not_pos some)
    rw [if_neg some]
    dsimp only
    rw [none, List.take_nil, List.drop_nil, List.append_nil]
    rfl

/-- A round ends in one of these ways. -/
theorem readControlRound_ends (session : Session) :
    RoundEnds session (readControlRound () session) := by
  rw [readControlRound, current_bind]
  dsimp only
  cases taken : Stream.takeLine newline session.client.controlBuffer with
  | some parts => exact .line parts.1 parts.2 taken
  | none =>
    have free := Stream.takeLine_none.mp taken
    dsimp only
    by_cases full : maximum ≤ session.client.controlBuffer.length
    · rw [if_pos full]
      exact .full _ (by simp) free full
    rw [if_neg full]
    -- There is room, and the next look decides.
    cases first : session.polls with
    | nil =>
      have waits : look session = (.waiting, session) := by rw [look, first]
      rw [bind_waiting waits]
      exact .waits free first
    | cons poll polls =>
      have looks : look session = (.returned poll, { session with polls }) := by rw [look, first]
      rw [bind_returned looks]
      cases poll with
      | raised elapsed error =>
        rw [readAvailable]
        split
        · exact .fails _ (lateLine_own _) free _ polls first id
        · exact .fails _ error.foreign free _ polls first id
      | looked elapsed arriving =>
        by_cases late : session.client.timeout ≤ elapsed
        · rw [readAvailable, if_pos late]
          exact .fails _ (lateLine_own _) free _ polls first (not_not_intro late)
        · rw [readAvailable_receives late]
          exact .receives free elapsed arriving polls first late

end Rounds

/-- How reading a line from a session ends. -/
def LineRead (start : Session) : Reply MException Bytes → Session → Prop
  | .returned line, after => start.NextLine line ∧ start.Reads after (line ++ [newline])
  | .failed error, after =>
    (∀ line, ¬ start.NextLine line) ∧ start.Reads after [] ∧
      error.identifier ≠ "MoorebotScout:Bridge"
  | .waiting, after =>
    (∀ line, ¬ start.NextLine line) ∧ start.Reads after [] ∧
      ∀ poll ∈ start.polls, ¬ start.client.timeout ≤ poll.elapsed

/-- While a line is being read, the same line comes next, and all looks have been timely. -/
structure Searching (start session : Session) : Prop where
  reads : start.Reads session []
  same : ∀ line, start.NextLine line ↔ session.NextLine line
  timely : ∀ poll ∈ start.polls, poll ∈ session.polls ∨ ¬ start.client.timeout ≤ poll.elapsed

section Reading

variable {start session : Session}

/-- Reading has not changed the time that a line may take. -/
theorem Session.Reads.timeout {taken : Bytes} (reads : start.Reads session taken) :
    session.client.timeout = start.client.timeout := by
  -- Nothing but the buffers and the polls changes.
  rw [reads.frame]

/-- Each round keeps searching, or ends as reading a line does. -/
theorem readControlRound_searches (place : Unit) (searching : Searching start session) :
    Ensures session (readControlRound place) (Continues (fun _ after => Searching start after ∧
      after.polls.length < session.polls.length) (LineRead start)) := by
  -- The cases are the ends of a round.
  have ends := readControlRound_ends session
  unfold Ensures
  generalize readControlRound () session = ended at ends
  cases ends with
  | line line rest taken =>
    -- The line that is taken is the next one.
    obtain ⟨next, closed, split⟩ := nextLine_of_taken searching.reads.bounded taken
    have bounded := searching.reads.bounded
    rw [split, List.length_append] at bounded
    show start.NextLine line.dropLast ∧ start.Reads _ (line.dropLast ++ [newline])
    refine ⟨(searching.same _).mpr next, ?_, ?_, ?_⟩
    · rw [searching.reads.frame]
    · rw [← closed, searching.reads.whole, List.nil_append, stream, split, stream,
        List.append_assoc]
    · show rest.length ≤ maximum
      omega
  | full error own free full =>
    -- A full buffer without a line feed leaves no room for a line that is short.
    refine ⟨fun line first => ?_, searching.reads, own⟩
    have next := (searching.same line).mp first
    exact absurd (next.beyond free) (Nat.not_lt.mpr (Nat.le_trans next.short full))
  | waits free none =>
    -- Without a further poll nothing else can arrive.
    refine ⟨fun line first => ?_, searching.reads, fun poll member => ?_⟩
    · refine not_nextLine free ?_ ((searching.same line).mp first)
      rw [none]
      exact fun poll member => by cases member
    · refine (searching.timely poll member).resolve_left fun still => ?_
      rw [none] at still
      cases still
  | fails error own free poll polls first late =>
    -- The poll that fails is late, and so nothing arrives in time.
    refine ⟨fun line next => ?_, ⟨?_, ?_, searching.reads.bounded⟩, own⟩
    · refine not_nextLine free ?_ ((searching.same line).mp next)
      rw [first]
      intro other member
      cases member
      exact late
    · rw [searching.reads.frame]
    · exact searching.reads.whole
  | receives free elapsed arriving polls first early =>
    -- The search goes on with one poll less.
    refine ⟨⟨⟨?_, ?_, receive_bounded searching.reads.bounded⟩, fun line => ?_, ?_⟩, ?_⟩
    · rw [searching.reads.frame]
      rfl
    · rw [receive_stream]
      exact searching.reads.whole
    · rw [searching.same]
      exact nextLine_receive first early
    · intro poll member
      rcases searching.timely poll member with still | timely
      · rw [first] at still
        rcases List.mem_cons.mp still with rfl | later
        · rw [← searching.reads.timeout]
          exact .inr early
        · exact .inl later
      · exact .inr timely
    · rw [first]
      exact Nat.lt_succ_self _

/-- From a buffer that is not too long, reading a line ends so. -/
theorem readControlLine_reads (bounded : start.client.controlBuffer.length ≤ maximum) :
    Ensures start readControlLine (LineRead start) := by
  -- The invariant of the loop holds at its start.
  have searching : Searching start start :=
    ⟨⟨rfl, rfl, bounded⟩, fun _ => Iff.rfl, fun poll member => .inl member⟩
  exact ensures_repeatUntil (fun place session => readControlRound_searches place) searching

/-- Exactly the line that comes next is returned. -/
theorem readControlLine_returns (bounded : start.client.controlBuffer.length ≤ maximum)
    (line : Bytes) : (readControlLine start).1 = .returned line ↔ start.NextLine line := by
  have ends := readControlLine_reads bounded
  unfold Ensures at ends
  constructor
  · intro returned
    rw [returned] at ends
    exact ends.1
  · intro next
    -- Every other reply says that no line comes next.
    cases reply : (readControlLine start).1 with
    | returned other =>
      rw [reply] at ends
      rw [ends.1.unique next]
    | failed error =>
      rw [reply] at ends
      exact absurd next (ends.1 line)
    | waiting =>
      rw [reply] at ends
      exact absurd next (ends.1 line)

/-- However reading a line ends, what is left in the buffer is not longer than a line may be. -/
theorem LineRead.bounded {reply : Reply MException Bytes} (read : LineRead start reply session) :
    session.client.controlBuffer.length ≤ maximum := by
  -- The bound is part of what holds at each end.
  cases reply with
  | returned line => exact read.2.bounded
  | failed error => exact read.2.1.bounded
  | waiting => exact read.2.1.bounded

end Reading
end Scout.Matlab
