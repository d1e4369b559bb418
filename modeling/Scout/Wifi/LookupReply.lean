import Scout.Wifi.Answering
import Scout.Wifi.ResponseHeader

/-! What is read of the master's answer, and which answers have a body that is returned. -/

namespace Scout.Wifi

open Machine Dialogue NetworkM NetworkEvent

/-- No proper beginning of some bytes ends like a header. -/
def Unended (header : Bytes) : Prop :=
  ∀ shorter, shorter <+: header → headerEnd <:+ shorter → shorter = header

/-- A header that ends for the first time, is not too long, and announces a body. -/
structure ResponseHeader (header : Bytes) (length : Nat) : Prop where
  ended : headerEnd <:+ header
  shortest : Unended header
  small : header.length ≤ 16384
  announces : ∃ text : Text, header = text.utf8 ∧ HeaderText text length

/-- A stream begins with an answer that has the given body. -/
def Begins (stream body : Bytes) : Prop :=
  ∃ header, header ++ body <+: stream ∧ ResponseHeader header body.length

/-- However a stream goes on, it does not begin with an acceptable header. -/
def Doomed (received : Bytes) : Prop :=
  ∀ stream header length, received <+: stream → header <+: stream →
    ¬ ResponseHeader header length

/-- A read asks for so many bytes at most. -/
def NetworkEvent.Asks (most : Nat) : NetworkEvent → Prop
  | .read _ room _ => room ≤ most
  | _ => True

section Beginnings

variable {header other stream body rest : Bytes} {length : Nat}

/-- A stream has only one shortest beginning that ends like a header. -/
theorem Unended.unique (first : Unended header) (second : Unended other)
    (firstEnds : headerEnd <:+ header) (secondEnds : headerEnd <:+ other)
    (firstPart : header <+: stream) (secondPart : other <+: stream) : header = other := by
  -- The shorter of the two is a beginning of the longer one.
  rcases Nat.le_total header.length other.length with short | short
  · exact second header (List.prefix_of_prefix_length_le firstPart secondPart short) firstEnds
  · exact (first other (List.prefix_of_prefix_length_le secondPart firstPart short)
      secondEnds).symm

/-- A header announces the length that is calculated from it. -/
theorem ResponseHeader.contentLength (response : ResponseHeader header length) :
    contentLength header = .ok length :=
  contentLength_ok.mpr response.announces

/-- A stream begins with at most one answer. -/
theorem Begins.unique (first : Begins stream body) (second : Begins stream rest) : body = rest := by
  -- The headers are the same, so the bodies are equally long.
  obtain ⟨header, firstPart, firstHeader⟩ := first
  obtain ⟨other, secondPart, secondHeader⟩ := second
  obtain rfl := firstHeader.shortest.unique secondHeader.shortest firstHeader.ended
    secondHeader.ended ((List.prefix_append _ _).trans firstPart)
    ((List.prefix_append _ _).trans secondPart)
  have lengths : body.length = rest.length :=
    Except.ok.inj (firstHeader.contentLength.symm.trans secondHeader.contentLength)
  have equal : (header ++ body).length = (header ++ rest).length := by
    rw [List.length_append, List.length_append, lengths]
  have part := List.prefix_of_prefix_length_le firstPart secondPart (Nat.le_of_eq equal)
  exact List.append_cancel_left (part.eq_of_length equal)

/-- A byte is added to a header that has not ended. -/
theorem Unended.snoc (unended : Unended header) (opened : ¬ headerEnd <:+ header) {byte : UInt8} :
    Unended (header ++ [byte]) := by
  -- A proper beginning of the longer header is a beginning of the shorter one.
  intro shorter part ends
  rcases List.prefix_concat_iff.mp part with whole | inner
  · exact whole
  · exact absurd (unended shorter inner ends ▸ ends) opened

end Beginnings

/-- What reading the rest of a header leaves behind. -/
structure HeaderLeft (deadline : Instant) (header : Bytes) (events : List NetworkEvent)
    (reply : Reply WifiProvisioningError Bytes) : Prop where
  asks : ∀ event ∈ events, Asks 1 event
  small : header.length ≤ 16384 → (header ++ receivedBytes events).length ≤ 16384
  returned : ∀ whole, reply = .returned whole → whole = header ++ receivedBytes events ∧
    headerEnd <:+ whole
  unended : Unended header → Unended (header ++ receivedBytes events)
  opened : (∀ whole, reply ≠ .returned whole) → ¬ headerEnd <:+ header ++ receivedBytes events
  failing : ∀ error, reply = .failed error → 16384 ≤ (header ++ receivedBytes events).length ∨
    ∃ event ∈ events, Troubles deadline event

section Headers

variable {connection : Connection}

/-- Filling a buffer never asks for more bytes than the buffer has room for. -/
theorem emits_readExact_asks (length : Nat) :
    Emits (Asks length) (connection.readExact length) := by
  -- Each round asks for what is still lacking.
  refine emits_repeatUntil (fun filled => ?_) []
  unfold Connection.readRound
  split
  · exact emits_pure
  · have reading : Emits (Asks length) (connection.read (length - filled.length)) :=
      ((emits_remaining fun _ => trivial).mapError _).bind fun _ =>
        (emits_askDone fun _ => trivial).bind fun _ => emits_recv fun _ => Nat.sub_le _ _
    apply reading.attempt.bind
    intro result
    repeat' split
    all_goals first | exact emits_pure | exact emits_fail

/-- A byte that a round has read is part of the header that the next rounds complete. -/
theorem HeaderLeft.grow {deadline : Instant} {header : Bytes} {byte : UInt8}
    {events more : List NetworkEvent} {reply : Reply WifiProvisioningError Bytes}
    (opened : ¬ headerEnd <:+ header) (room : header.length < 16384)
    (asks : ∀ event ∈ events, Asks 1 event) (got : receivedBytes events = [byte])
    (left : HeaderLeft deadline (header ++ [byte]) more reply) :
    HeaderLeft deadline header (events ++ more) reply := by
  -- The byte stands between.
  have same : header ++ receivedBytes (events ++ more) =
      header ++ [byte] ++ receivedBytes more := by
    rw [receivedBytes_append, got, List.append_assoc]
  refine ⟨List.forall_mem_append.mpr ⟨asks, left.asks⟩, fun _ => ?_, ?_, ?_, ?_, ?_⟩
  · rw [same]
    apply left.small
    rw [List.length_append, List.length_singleton]
    omega
  · rw [same]
    exact left.returned
  · rw [same]
    exact fun unended => left.unended (unended.snoc opened)
  · rw [same]
    exact left.opened
  · rw [same]
    intro error fails
    refine (left.failing error fails).imp_right fun troubled => ?_
    obtain ⟨event, member, troubles⟩ := troubled
    exact ⟨event, List.mem_append_right _ member, troubles⟩

/-- Each round of reading a header but the last takes an answer. -/
theorem headerRound_shrinks (header : Bytes) (network : Network) (next : Bytes) (after : Network)
    (ran : headerRound connection header network = (.returned (.inl next), after)) :
    answersLeft after < answersLeft network := by
  -- A round that goes on has read a byte.
  unfold headerRound at ran
  by_cases ended : headerEnd.isSuffixOf header = true
  · rw [if_pos ended] at ran
    cases ran
  rw [if_neg ended] at ran
  by_cases full : maxHttpHeader ≤ header.length
  · rw [if_pos full] at ran
    cases ran
  rw [if_neg full] at ran
  have taking : Takes 1 ((connection.readExact 1).mapError transportError) :=
    (takes_readExact (by decide)).mapError _
  exact (taking.bind fun _ => takes_pure).shrinks ran (by simp)

/-- Where nothing is received, the header stays as it is. -/
theorem HeaderLeft.unmoved {deadline : Instant} {header : Bytes} {events : List NetworkEvent}
    {reply : Reply WifiProvisioningError Bytes} (nothing : receivedBytes events = [])
    (asks : ∀ event ∈ events, Asks 1 event)
    (returned : ∀ whole, reply = .returned whole → whole = header ∧ headerEnd <:+ header)
    (opened : (∀ whole, reply ≠ .returned whole) → ¬ headerEnd <:+ header)
    (failing : ∀ error, reply = .failed error → 16384 ≤ header.length ∨
      ∃ event ∈ events, Troubles deadline event) : HeaderLeft deadline header events reply := by
  -- Nothing has been received, so the header stays as it was.
  have same : header ++ receivedBytes events = header := by rw [nothing, List.append_nil]
  refine ⟨asks, ?_, fun whole given => ?_, ?_, ?_, ?_⟩
  · rw [same]
    exact id
  · obtain ⟨rfl, ends⟩ := returned whole given
    exact ⟨same.symm, ends⟩
  · rw [same]
    exact id
  · rw [same]
    exact opened
  · rw [same]
    exact failing

/-- A round of reading a header leaves behind what the rest of the loop is to continue. -/
theorem leaves_headerRound (header : Bytes) :
    Leaves (Round (HeaderLeft connection.deadline) header) (headerRound connection header) := by
  unfold headerRound
  by_cases ended : headerEnd.isSuffixOf header = true
  · -- The header is complete.
    rw [if_pos ended]
    apply leaves_pure
    refine HeaderLeft.unmoved rfl (List.forall_mem_nil _) (fun whole same => ?_)
      (fun unreturned => absurd rfl (unreturned header)) fun _ fails => by cases fails
    cases same
    exact ⟨rfl, List.isSuffixOf_iff_suffix.mp ended⟩
  rw [if_neg ended]
  have opened : ¬ headerEnd <:+ header := fun ends => ended (List.isSuffixOf_iff_suffix.mpr ends)
  by_cases full : maxHttpHeader ≤ header.length
  · -- No more bytes are read.
    rw [if_pos full]
    apply leaves_fail
    exact HeaderLeft.unmoved rfl (List.forall_mem_nil _) (fun _ same => by cases same)
      (fun _ => opened) fun _ _ => .inl full
  rw [if_neg full]
  have room : header.length < 16384 := Nat.not_le.mp full
  -- Nothing has been received where the byte is missing.
  have missing : ∀ {events reply}, (∀ event ∈ events, Asks 1 event) →
      (receivedBytes events).length < 1 → (∀ whole, reply ≠ .returned whole) →
      (∀ error, reply = .failed error → ∃ event ∈ events, Troubles connection.deadline event) →
      HeaderLeft connection.deadline header events reply := by
    intro events reply asks short unreturned causes
    have empty : receivedBytes events = [] := List.eq_nil_of_length_eq_zero (by omega)
    exact HeaderLeft.unmoved empty asks (fun whole same => absurd same (unreturned whole))
      (fun _ => opened) fun error fails => .inr (causes error fails)
  refine Leaves.bind ((((leaves_readExact 1).and (failsAfter_readExact 1)).and
    (emits_readExact_asks 1)).mapError _) ?_ ?_ ?_
  · intro events error described
    obtain ⟨kind, rfl, ⟨left, causes⟩, asks⟩ := described
    exact missing asks (left.2 (Nat.zero_le _)) (fun _ same => by cases same)
      fun _ _ => causes kind rfl
  · intro events described
    obtain ⟨⟨left, _⟩, asks⟩ := described
    exact missing asks (left.2 (Nat.zero_le _)) (fun _ same => by cases same)
      fun _ fails => by cases fails
  · intro events bytes described
    obtain ⟨⟨left, _⟩, asks⟩ := described
    obtain ⟨got, one⟩ := left.2 (Nat.zero_le _)
    obtain ⟨byte, rfl⟩ := List.length_eq_one_iff.mp one
    apply leaves_pure
    intro more reply rest
    rw [List.append_nil]
    exact HeaderLeft.grow opened room asks got.symm rest

/-- Reading a header leaves its bytes behind, and stops where it ends for the first time. -/
theorem leaves_readHeader :
    Leaves (HeaderLeft connection.deadline [])
      (repeatUntil answersLeft (headerRound connection) []) :=
  leaves_repeatUntil headerRound_shrinks _ leaves_headerRound []

end Headers

/-- What was received agrees with a reply: with the body, or with there being none. -/
def LookupLeft (deadline : Instant) (events : List NetworkEvent) :
    Reply WifiProvisioningError Bytes → Prop
  | .returned body => ∃ header, receivedBytes events = header ++ body ∧
      ResponseHeader header body.length
  | .failed _ => (∀ body, ¬ Begins (receivedBytes events) body) ∧
      (Doomed (receivedBytes events) ∨ ∃ event ∈ events, Troubles deadline event)
  | .waiting => ∀ body, ¬ Begins (receivedBytes events) body

/-- Single bytes are asked for until a header announces how many bytes follow. -/
structure Sparing (events : List NetworkEvent) : Prop where
  parts : ∃ first second, events = first ++ second ∧ (∀ event ∈ first, Asks 1 event) ∧
    (second ≠ [] → ∃ length, ResponseHeader (receivedBytes first) length ∧
      ∀ event ∈ second, Asks length event)

/-- What reading the master's answer leaves behind agrees with its reply. -/
structure LookupJudged (deadline : Instant) (events : List NetworkEvent)
    (reply : Reply WifiProvisioningError Bytes) : Prop where
  bounded : (receivedBytes events).length ≤ 16384 + 65536
  left : LookupLeft deadline events reply
  sparing : Sparing events

section Answers

variable {connection : Connection}

/-- Bytes without an end of a header do not begin with an answer. -/
theorem not_begins_of_opened {received body : Bytes} (unended : Unended received)
    (opened : ¬ headerEnd <:+ received) : ¬ Begins received body := by
  -- The header would be a beginning that ends.
  intro begins
  obtain ⟨header, part, response⟩ := begins
  have front := (List.prefix_append header body).trans part
  exact opened (unended header front response.ended ▸ response.ended)

/-- Bytes that fill the room of a header without ending it never begin with an answer. -/
theorem doomed_of_opened {received : Bytes} (unended : Unended received)
    (opened : ¬ headerEnd <:+ received) (full : 16384 ≤ received.length) : Doomed received := by
  -- Every acceptable header would be a beginning of these bytes.
  intro stream header length part front response
  have short : header.length ≤ received.length := Nat.le_trans response.small full
  have inner := List.prefix_of_prefix_length_le front part short
  exact opened (unended header inner response.ended ▸ response.ended)

/-- A header that announces nothing acceptable is never followed by an answer. -/
theorem doomed_of_refused {header : Bytes} {error : WifiProvisioningError}
    (unended : Unended header) (ended : headerEnd <:+ header)
    (refused : contentLength header = .error error) : Doomed header := by
  -- There is no other header at the front.
  intro stream other length part front response
  obtain rfl := unended.unique response.shortest ended response.ended part front
  rw [response.contentLength] at refused
  cases refused

/-- A stream that never begins with an acceptable header has no answer at its front. -/
theorem Doomed.not_begins {received body : Bytes} (doomed : Doomed received) :
    ¬ Begins received body := by
  -- What has been received is a front of itself.
  intro begins
  obtain ⟨header, part, response⟩ := begins
  exact doomed received header body.length (List.prefix_refl _)
    ((List.prefix_append header body).trans part) response

/-- A header whose body is cut is not an answer. -/
theorem not_begins_of_cut {header rest body : Bytes} {length : Nat}
    (response : ResponseHeader header length) (short : rest.length < length) :
    ¬ Begins (header ++ rest) body := by
  -- The header is the only one, and its body would be longer than the rest.
  intro begins
  obtain ⟨other, part, second⟩ := begins
  obtain rfl := response.shortest.unique second.shortest response.ended second.ended
    (List.prefix_append _ _) ((List.prefix_append _ _).trans part)
  have lengths : length = body.length :=
    Except.ok.inj (response.contentLength.symm.trans second.contentLength)
  have fits := part.length_le
  rw [List.length_append, List.length_append] at fits
  omega

/-- Where only single bytes have been asked for, a header is all that can have been received. -/
theorem LookupJudged.headed {deadline : Instant} {events : List NetworkEvent}
    {reply : Reply WifiProvisioningError Bytes} (small : (receivedBytes events).length ≤ 16384)
    (asks : ∀ event ∈ events, Asks 1 event) (left : LookupLeft deadline events reply) :
    LookupJudged deadline events reply :=
  ⟨Nat.le_add_right_of_le small, left,
    ⟨events, [], (List.append_nil _).symm, asks, fun some => absurd rfl some⟩⟩

/-- Behind a header at most as many bytes are received as it announces. -/
theorem LookupJudged.body {deadline : Instant} {events more : List NetworkEvent} {length : Nat}
    {reply : Reply WifiProvisioningError Bytes}
    (response : ResponseHeader (receivedBytes events) length) (limited : length ≤ 65536)
    (single : ∀ event ∈ events, Asks 1 event) (asks : ∀ event ∈ more, Asks length event)
    (fits : (receivedBytes more).length ≤ length)
    (left : LookupLeft deadline (events ++ more) reply) :
    LookupJudged deadline (events ++ more) reply := by
  -- A header and a body have limits each.
  refine ⟨?_, left, ⟨events, more, rfl, single, fun _ => ⟨length, response, asks⟩⟩⟩
  have small := response.small
  rw [receivedBytes_append, List.length_append]
  omega

/-- Reading the body that a header announces leaves behind what its reply agrees with. -/
theorem leaves_readBody {events : List NetworkEvent} {length : Nat}
    (response : ResponseHeader (receivedBytes events) length) (limited : length ≤ 65536)
    (single : ∀ event ∈ events, Asks 1 event) :
    Leaves (fun more reply => LookupJudged connection.deadline (events ++ more) reply)
      ((connection.readExact length).mapError transportError) := by
  -- The cases are the ends of reading the body.
  refine ((((leaves_readExact length).and (failsAfter_readExact length)).and
    (emits_readExact_asks length)).mapError _).mono fun more reply described => ?_
  cases reply with
  | returned body =>
    obtain ⟨⟨filled, _⟩, asks⟩ := described
    obtain ⟨got, full⟩ := filled.2 (Nat.zero_le _)
    rw [List.nil_append] at got
    refine LookupJudged.body response limited single asks (by rw [← got, full]) ?_
    refine ⟨receivedBytes events, by rw [receivedBytes_append, ← got], ?_⟩
    rw [full]
    exact response
  | failed error =>
    obtain ⟨kind, _, ⟨filled, causes⟩, asks⟩ := described
    have short := filled.2 (Nat.zero_le _)
    rw [List.nil_append] at short
    refine LookupJudged.body response limited single asks (Nat.le_of_lt short)
      ⟨fun body => ?_, .inr ?_⟩
    · rw [receivedBytes_append]
      exact not_begins_of_cut response short
    · obtain ⟨event, member, troubles⟩ := causes kind rfl
      exact ⟨event, List.mem_append_right _ member, troubles⟩
  | waiting =>
    obtain ⟨⟨filled, _⟩, asks⟩ := described
    have short := filled.2 (Nat.zero_le _)
    rw [List.nil_append] at short
    refine LookupJudged.body response limited single asks (Nat.le_of_lt short) fun body => ?_
    rw [receivedBytes_append]
    exact not_begins_of_cut response short

/-- Reading the master's answer leaves behind what its reply agrees with. -/
theorem leaves_readHttpBody :
    Leaves (LookupJudged connection.deadline) (readHttpBody connection) := by
  have nothing : ([] : Bytes).length ≤ 16384 := by decide
  have unended : Unended [] := fun shorter part _ => List.prefix_nil.mp part
  -- The header is read first, and a body only if one is announced.
  refine Leaves.bind leaves_readHeader ?_ ?_ ?_
  · intro events error left
    have whole := left.unended unended
    have opened := left.opened fun _ same => by cases same
    have failing := left.failing error rfl
    rw [List.nil_append] at whole opened failing
    exact LookupJudged.headed (left.small nothing) left.asks
      ⟨fun _ => not_begins_of_opened whole opened,
        failing.imp_left (doomed_of_opened whole opened)⟩
  · intro events left
    have whole := left.unended unended
    have opened := left.opened fun _ same => by cases same
    rw [List.nil_append] at whole opened
    exact LookupJudged.headed (left.small nothing) left.asks
      fun _ => not_begins_of_opened whole opened
  · intro events header left
    obtain ⟨same, ended⟩ := left.returned header rfl
    rw [List.nil_append] at same
    subst same
    have small := left.small nothing
    have whole := left.unended unended
    cases measured : contentLength (receivedBytes events) with
    | error error =>
      apply leaves_fail
      rw [List.append_nil]
      have doomed := doomed_of_refused whole ended measured
      exact LookupJudged.headed small left.asks ⟨fun _ => doomed.not_begins, .inl doomed⟩
    | ok length =>
      have announces := contentLength_ok.mp measured
      have limited : length ≤ 65536 := by
        obtain ⟨_, _, _, _, _, _, _, _, limited⟩ := announces
        exact limited
      exact leaves_readBody ⟨ended, whole, small, announces⟩ limited left.asks

end Answers

/-- The master's answer is read exactly: its body is returned, and nothing behind it is received. -/
structure AnswerRead (deadline : Instant) (events : List NetworkEvent)
    (reply : Reply WifiProvisioningError Bytes) : Prop where
  /-- No more is received than the longest header and the longest body. -/
  bounded : (receivedBytes events).length ≤ 16384 + 65536
  /-- A body is returned exactly if it has been received behind its header, and nothing else. -/
  returned : ∀ body, reply = .returned body ↔
    ∃ header, receivedBytes events = header ++ body ∧ ResponseHeader header body.length
  /-- When the reply is there, it is the body exactly if the stream begins with its answer. -/
  streamed : ∀ sent, Streams deadline sent events → reply ≠ .waiting →
    ∀ body, reply = .returned body ↔ Begins sent body
  /-- Room for a body is only made when the header has passed all checks. -/
  sparing : Sparing events

/-- What is left behind agrees with an exact reading of the answer. -/
theorem LookupJudged.answerRead {deadline : Instant} {events : List NetworkEvent}
    {reply : Reply WifiProvisioningError Bytes} (judged : LookupJudged deadline events reply) :
    AnswerRead deadline events reply := by
  obtain ⟨bounded, left, sparing⟩ := judged
  have begins : ∀ {header body : Bytes}, receivedBytes events = header ++ body →
      ResponseHeader header body.length → Begins (receivedBytes events) body :=
    fun whole response => ⟨_, whole ▸ List.prefix_refl _, response⟩
  refine ⟨bounded, fun body => ?_, fun sent streams answered body => ?_, sparing⟩
  · -- What was received is at most one answer.
    constructor
    · intro same
      subst same
      exact left
    · intro found
      obtain ⟨header, whole, response⟩ := found
      have front := begins whole response
      cases reply with
      | returned other =>
        obtain ⟨_, all, second⟩ := left
        rw [(begins all second).unique front]
      | failed error => exact absurd front (left.1 body)
      | waiting => exact absurd front (left body)
  · constructor
    · intro same
      subst same
      obtain ⟨header, whole, response⟩ := left
      exact ⟨header, whole ▸ streams.inOrder, response⟩
    · intro front
      cases reply with
      | returned other =>
        obtain ⟨header, whole, response⟩ := left
        have second : Begins sent other := ⟨header, whole ▸ streams.inOrder, response⟩
        rw [second.unique front]
      | failed error =>
        -- Without an answer in what was received, none can be in what was sent.
        obtain ⟨frontless, doomed | troubled⟩ := left
        · obtain ⟨header, part, response⟩ := front
          exact absurd response (doomed sent header body.length streams.inOrder
            ((List.prefix_append _ _).trans part))
        · exact absurd (streams.ended troubled ▸ front) (frontless body)
      | waiting => exact absurd rfl answered

section Ends

variable {connection : Connection} {before : List NetworkEvent} {system : NetworkSystem}

/-- Reading a header comes to an end, as there is only room for so many bytes. -/
theorem concludes_readHeader :
    Concludes system.Answers before (repeatUntil answersLeft (headerRound connection) [])
      fun _ _ => True := by
  -- Each round but the last adds a byte.
  refine concludes_repeatUntil headerRound_shrinks (fun _ => True)
    (fun _ header => maxHttpHeader - header.length) (fun before header _ => ?_) trivial
  unfold headerRound
  by_cases ended : headerEnd.isSuffixOf header = true
  · rw [if_pos ended]
    exact concludes_pure fun _ same => by cases same
  rw [if_neg ended]
  by_cases full : maxHttpHeader ≤ header.length
  · rw [if_pos full]
    exact concludes_fail fun _ same => by cases same
  rw [if_neg full]
  refine (((concludes_readExact 1).leaves (leaves_readExact 1)).mapError _).bind
    (fun _ _ _ _ same => by cases same) fun events bytes described => ?_
  obtain ⟨_, _, _, filled⟩ := described
  have one : bytes.length = 1 := (filled (Nat.zero_le _)).2
  refine concludes_pure fun next same => ⟨trivial, ?_⟩
  cases same
  rw [List.length_append, one]
  omega

/-- Reading the master's answer comes to an end in every system. -/
theorem concludes_readHttpBody :
    Concludes system.Answers before (readHttpBody connection) fun _ _ => True := by
  -- The length of the body is calculated between the header and the body.
  refine concludes_readHeader.after fun _ header => ?_
  exact concludes_ofExcept.after fun _ length => (concludes_readExact length).converted _

/-- What is read of the master's answer is described for every run. -/
theorem leaves_answerRead :
    Leaves (AnswerRead connection.deadline) (readHttpBody connection) :=
  leaves_readHttpBody.mono fun _ _ judged => judged.answerRead

end Ends

/--
Exactly one answer of limited length is read, whatever the system and the master do.

This comes to an end in every system, and with a master in time it is decided by what is sent.
-/
theorem readHttpBody_reads_answer (connection : Connection) :
    (∀ network, ∃ events, (readHttpBody connection network).2.log = network.log ++ events ∧
      AnswerRead connection.deadline events (readHttpBody connection network).1) ∧
    (∀ (system : NetworkSystem) (before : List NetworkEvent),
      Concludes system.Answers before (readHttpBody connection)
        (AnswerRead connection.deadline)) ∧
    ∀ server : Server, server.Timely connection.deadline → ∀ before : List NetworkEvent,
      Concludes (server.system before.length).Answers before (readHttpBody connection)
        fun events reply => AnswerRead connection.deadline events reply ∧
          ∀ body, reply = .returned body ↔ Begins server.sent body := by
  -- The description of every run is joined to its end.
  refine ⟨leaves_answerRead, fun system before => ?_, fun server timely before => ?_⟩
  · exact (concludes_readHttpBody.leaves leaves_answerRead).mono fun _ _ described => described.2.2
  · refine (concludes_readHttpBody.leaves leaves_answerRead).ended
      fun events reply ended described => ?_
    obtain ⟨conforms, _, exact'⟩ := described
    exact ⟨exact', exact'.streamed _ (streams_served timely conforms) ended⟩

/-- The header of an answer with two bytes. -/
def sampleResponse : Bytes :=
  Text.utf8 "HTTP/1.0 200 OK\r\nContent-Length: 2\r\n\r\n".toList

/-- A master that sends an answer, and something behind it, in pieces of seven bytes. -/
def sampleMaster : Server where
  sent := sampleResponse ++ [60, 62, 33]
  piece _ := 6
  clock _ := 0

/-- The answers of a run in which that answer is received. -/
def sampleLookup : Network :=
  ⟨readAnswers (sampleResponse.map fun byte => [byte]) ++ readAnswers [[60, 62]], []⟩

/-- The body of this answer is returned, and what stands behind it is left. -/
theorem readHttpBody_reads_answer_sample :
    (readHttpBody ⟨0, 1⟩ sampleLookup).1 = .returned [60, 62] ∧
      Concludes (sampleMaster.system 0).Answers [] (readHttpBody ⟨0, 1⟩)
        fun events reply => reply = .returned [60, 62] ∧
          ∃ header, receivedBytes events = header ++ [60, 62] ∧ ResponseHeader header 2 := by
  -- The first run is evaluated, and what it has received is an answer.
  have ran : (readHttpBody ⟨0, 1⟩ sampleLookup).1 = .returned [60, 62] ∧
      receivedBytes (readHttpBody ⟨0, 1⟩ sampleLookup).2.log <+: sampleMaster.sent := by
    decide +kernel
  obtain ⟨returned, part⟩ := ran
  obtain ⟨runs, _, served⟩ := readHttpBody_reads_answer ⟨0, 1⟩
  obtain ⟨events, added, read⟩ := runs sampleLookup
  have begins : Begins sampleMaster.sent [60, 62] := by
    obtain ⟨header, whole, response⟩ := (read.returned _).mp returned
    refine ⟨header, ?_, response⟩
    rwa [← whole, ← List.nil_append events, ← show sampleLookup.log = [] from rfl, ← added]
  refine ⟨returned, (served sampleMaster (fun _ => Nat.one_pos) []).mono
    fun events reply described => ?_⟩
  have same := (described.2 [60, 62]).mpr begins
  exact ⟨same, (described.1.returned _).mp same⟩

end Scout.Wifi
