import Scout.Wifi.Answering
import Scout.Wifi.HeaderFields

/-! What the handshake reports agrees with the header that the service sends. -/

namespace Scout.Wifi

open Machine Dialogue NetworkM NetworkEvent

/-- The length of a frame that is longer than a limit. -/
structure Overlong (limit : Nat) (header : Bytes) : Prop where
  four : header.length = 4
  beyond : limit < Stream.ofLittleEndian header

/-- A frame fails because of trouble or of its length, and one that is too long is not read. -/
structure FrameJudged (deadline : Instant) (limit : Nat) (events : List NetworkEvent)
    (reply : Reply WifiProvisioningError Bytes) : Prop where
  failing : ∀ error, reply = .failed error →
    (∃ event ∈ events, Troubles deadline event) ∨ Overlong limit (receivedBytes events)
  overlong : ∀ header, Overlong limit header → header <+: receivedBytes events →
    receivedBytes events = header ∧
      reply = .failed (.protocol "ROS service frame exceeds limit")

section Frames

variable {connection : Connection} {limit : Nat}

/-- Too few bytes do not begin with a length. -/
theorem not_overlong_of_short {header received : Bytes} (short : received.length < 4)
    (overlong : Overlong limit header) : ¬ header <+: received := by
  -- The length alone takes four bytes.
  intro part
  have long := part.length_le
  rw [overlong.four] at long
  omega

/-- Four bytes that begin with a length are this length. -/
theorem Overlong.eq_front {header front rest : Bytes} (overlong : Overlong limit header)
    (four : front.length = 4) (part : header <+: front ++ rest) : header = front := by
  -- Both are the first four bytes.
  rw [List.prefix_iff_eq_take.mp part, overlong.four, ← four, List.take_left]

/-- Reading a frame fails because of trouble or of its length, which is the first to be read. -/
theorem judged_readFrame :
    Leaves (FrameJudged connection.deadline limit) (readFrame connection.readExact limit) := by
  -- The length is read first, and it decides whether the rest is read.
  refine Leaves.bind (((leaves_readExact 4).and (failsAfter_readExact 4)).mapError _) ?_ ?_ ?_
  · rintro events error ⟨kind, rfl, left, causes⟩
    refine ⟨fun _ _ => .inl (causes kind rfl), fun header overlong part => ?_⟩
    exact absurd part (not_overlong_of_short (left.2 (Nat.zero_le _)) overlong)
  · rintro events ⟨left, _⟩
    refine ⟨fun _ fails => (by cases fails), fun header overlong part => ?_⟩
    exact absurd part (not_overlong_of_short (left.2 (Nat.zero_le _)) overlong)
  · rintro events header ⟨left, _⟩
    obtain ⟨got, four⟩ := left.2 (Nat.zero_le _)
    rw [List.nil_append] at got
    by_cases long : limit < Stream.ofLittleEndian header
    · -- Nothing but the length is read.
      simp only [if_pos long]
      apply leaves_fail
      rw [List.append_nil]
      refine ⟨fun _ _ => .inr (got ▸ ⟨four, long⟩), fun other overlong part => ?_⟩
      rw [← got, ← List.append_nil header] at part
      exact ⟨by rw [← got, overlong.eq_front four part], rfl⟩
    · -- The rest fails only because of trouble, and the length is not too long.
      simp only [if_neg long]
      refine ((failsAfter_readExact _).mapError _).mono fun more reply causes => ?_
      refine ⟨fun error fails => .inl ?_, fun other overlong part => ?_⟩
      · obtain ⟨event, member, troubles⟩ := causes error fails
        exact ⟨event, List.mem_append_right _ member, troubles⟩
      · rw [receivedBytes_append, ← got] at part
        have same := overlong.eq_front four part
        exact absurd (same ▸ overlong.beyond) long

end Frames

/-- A report that agrees with the body of a service's header. -/
structure Verdict (body : Bytes) (reply : Reply WifiProvisioningError Unit) : Prop where
  given : reply ≠ .waiting
  accepted : reply = .returned () ↔ ∃ fields, HeaderBody body fields ∧ Compatible fields
  serviceFailed : ∀ fields, HeaderBody body fields → "error".toList ∈ fields.map Prod.fst →
    reply = .failed .serviceFailed
  defective : ∀ message, FirstDefect body message → reply = .failed (.protocol message)

section Verdicts

variable {body : Bytes}

/-- The fields of a header are determined by its body. -/
theorem HeaderBody.unique {fields others : List (Text × Text)}
    (short : body.length ≤ maxServiceHeader) (header : HeaderBody body fields)
    (other : HeaderBody body others) : fields = others := by
  -- Both are what is read.
  have same := (readFields_of_header short header).symm.trans (readFields_of_header short other)
  exact List.reverse_injective (Reply.returned.inj same)

/-- A body whose fields cannot be read has a defect, and the first one is reported. -/
theorem verdict_of_unread {error : WifiProvisioningError} (short : body.length ≤ maxServiceHeader)
    (read : (readFields body).1 = .failed error) : Verdict body (.failed error) := by
  -- A header would have been read.
  refine ⟨fun waits => (by cases waits), ?_, ?_, ?_⟩
  · refine iff_of_false (fun same => by cases same) fun accepted => ?_
    obtain ⟨fields, header, _⟩ := accepted
    rw [readFields_of_header short header] at read
    cases read
  · intro fields header _
    rw [readFields_of_header short header] at read
    cases read
  · intro message defect
    rw [readFields_of_defect short defect] at read
    cases read
    rfl

/-- The fields that have been read decide whether the service is the one that is meant. -/
theorem checkFields_decides {fields : List (Text × Text)} (short : body.length ≤ maxServiceHeader)
    (read : (readFields body).1 = .returned fields) :
    checkFields fields = .ok () ↔ ∃ fields, HeaderBody body fields ∧ Compatible fields := by
  -- The fields are those of the only header that the body can be.
  have header := header_of_readFields read
  have distinct : (fields.map Prod.fst).Nodup := by
    have turned := header.wellNamed.reverse.distinct
    rwa [List.reverse_reverse] at turned
  rw [checkFields_ok distinct, ← compatible_reverse]
  constructor
  · exact fun compatible => ⟨fields.reverse, header, compatible⟩
  · intro accepted
    obtain ⟨others, other, compatible⟩ := accepted
    rwa [header.unique short other]

/-- A body whose fields have been read is judged by these fields. -/
theorem verdict_of_fields {fields : List (Text × Text)} {reply : Reply WifiProvisioningError Unit}
    (short : body.length ≤ maxServiceHeader) (read : (readFields body).1 = .returned fields)
    (given : reply ≠ .waiting) (accepted : reply = .returned () ↔ checkFields fields = .ok ())
    (refused : ∀ error, checkFields fields = .error error → reply = .failed error) :
    Verdict body reply := by
  -- The body is a header, so it has no defect.
  refine ⟨given, accepted.trans (checkFields_decides short read), ?_, ?_⟩
  · intro others other named
    rw [← (header_of_readFields read).unique short other, List.map_reverse, List.mem_reverse]
      at named
    exact refused _ (checkFields_failed named)
  · intro message defect
    rw [readFields_of_defect short defect] at read
    cases read

/-- The body of a header is judged by its fields, or by its first defect, and by nothing else. -/
theorem leaves_verdict (short : body.length ≤ maxServiceHeader) :
    Leaves (fun events reply => events = [] ∧ Verdict body reply)
      (within body readFields >>= fun fields => ofExcept (checkFields fields) :
        NetworkM WifiProvisioningError Unit) := by
  -- Reading the fields asks nothing, so only its reply matters.
  intro network
  refine ⟨[], ?_⟩
  cases read : (readFields body).1 with
  | waiting => exact absurd read (readFieldsFrom_ends [] body)
  | failed error =>
    have ran : (within body readFields : NetworkM WifiProvisioningError _) network =
        (.failed error, network) := by rw [within, read]
    rw [bind_failed ran]
    exact ⟨(List.append_nil _).symm, rfl, verdict_of_unread short read⟩
  | returned fields =>
    have ran : (within body readFields : NetworkM WifiProvisioningError _) network =
        (.returned fields, network) := by rw [within, read]
    rw [bind_returned ran]
    -- What is left is the check of the fields.
    cases checked : checkFields fields with
    | ok value =>
      refine ⟨(List.append_nil _).symm, rfl, ?_⟩
      refine verdict_of_fields short read (fun waits => by cases waits) ?_ fun error refused => ?_
      · exact iff_of_true rfl checked
      · rw [checked] at refused
        cases refused
    | error error =>
      refine ⟨(List.append_nil _).symm, rfl, ?_⟩
      refine verdict_of_fields short read (fun waits => by cases waits) ?_ fun cause refused => ?_
      · exact iff_of_false (fun same => by cases same) fun accepted => by
          rw [checked] at accepted
          cases accepted
      · rw [checked] at refused
        cases refused
        rfl

end Verdicts

/-- The report of a handshake agrees with what was sent and received, and with what was there. -/
structure HandshakeJudged (caller : Text) (deadline : Instant) (events : List NetworkEvent)
    (reply : Reply WifiProvisioningError Unit) : Prop where
  /-- Nothing is read before this client has introduced itself. -/
  introduced : receivedBytes events ≠ [] → handedBytes events = frame (requestHeader caller)
  /-- Only a complete frame of limited length is accepted. -/
  framed : reply = .returned () → ∃ body : Bytes, body.length ≤ 65536 ∧
    receivedBytes events = frame body
  /-- A complete frame of limited length is judged by its body. -/
  judged : ∀ body : Bytes, body.length ≤ 65536 → receivedBytes events = frame body →
    Verdict body reply
  /-- A frame beyond the limit is refused, and nothing behind its length is read. -/
  overlong : ∀ header, Overlong 65536 header → header <+: receivedBytes events →
    receivedBytes events = header ∧
      reply = .failed (.protocol "ROS service frame exceeds limit")
  /-- What the service sends is read until it can be judged. -/
  complete : ∀ sent, Streams deadline sent events → reply ≠ .waiting →
    (∀ body : Bytes, body.length ≤ 65536 → frame body <+: sent →
      receivedBytes events = frame body) ∧
    ∀ header, Overlong 65536 header → header <+: sent → receivedBytes events = header

section Handshake

variable {connection : Connection} {caller : Text}

/-- Before anything is received nothing is judged. -/
theorem HandshakeJudged.silent {deadline : Instant} {events : List NetworkEvent}
    {reply : Reply WifiProvisioningError Unit} (nothing : receivedBytes events = [])
    (unaccepted : reply ≠ .returned ())
    (causes : ∀ error, reply = .failed error → ∃ event ∈ events, Troubles deadline event) :
    HandshakeJudged caller deadline events reply := by
  -- Every frame takes at least the four bytes of its length.
  have frameless : ∀ body : Bytes, ¬ frame body <+: [] := by
    intro body part
    have long := part.length_le
    rw [frame_length, List.length_nil] at long
    omega
  have headless : ∀ header, Overlong 65536 header → ¬ header <+: [] := fun header overlong =>
    not_overlong_of_short (by decide) overlong
  refine ⟨fun some => absurd nothing some, fun returned => absurd returned unaccepted, ?_, ?_, ?_⟩
  · intro body _ framed
    rw [nothing] at framed
    exact absurd (framed ▸ List.prefix_refl _) (frameless body)
  · intro header overlong part
    rw [nothing] at part
    exact absurd part (headless header overlong)
  · intro sent streams answered
    have empty : sent = [] := by
      cases reply with
      | returned value => exact absurd rfl unaccepted
      | waiting => exact absurd rfl answered
      | failed error => rw [← streams.ended (causes error rfl), nothing]
    subst empty
    exact ⟨fun body _ part => absurd part (frameless body),
      fun header overlong part => absurd part (headless header overlong)⟩

/-- Two frames at the front of the same bytes are equal. -/
theorem frame_unique {first second bytes : Bytes} (firstFits : first.length < 256 ^ 4)
    (secondFits : second.length < 256 ^ 4) (firstPart : frame first <+: bytes)
    (secondPart : frame second <+: bytes) : frame first = frame second := by
  -- The bytes begin with the length of both.
  obtain ⟨rest, rfl⟩ := secondPart
  have front : frame second ++ rest =
      Stream.littleEndian 4 second.length ++ (second ++ rest) := by rw [frame, List.append_assoc]
  have length := (frame_front (by simp) firstFits (front ▸ firstPart)).1
  rw [Stream.ofLittleEndian_littleEndian secondFits] at length
  have equal : (frame first).length = (frame second).length := by
    rw [frame_length, frame_length, length]
  have part := List.prefix_of_prefix_length_le firstPart (List.prefix_append _ rest)
    (Nat.le_of_eq equal)
  exact part.eq_of_length equal

/-- Different bodies have different frames. -/
theorem frame_injective {first second : Bytes} (same : frame first = frame second) :
    first = second := by
  -- The lengths in front are equally long.
  exact (List.append_inj same (by simp)).2

/-- Bytes that begin with a frame within a limit do not begin with a length beyond it. -/
theorem not_overlong_of_frame {limit : Nat} {body header bytes : Bytes}
    (bound : limit < 256 ^ 4) (short : body.length ≤ limit) (framed : frame body <+: bytes)
    (overlong : Overlong limit header) : ¬ header <+: bytes := by
  -- The length is the one of the frame.
  intro part
  obtain ⟨rest, rfl⟩ := part
  have same := (frame_front overlong.four (Nat.lt_of_le_of_lt short bound) framed).1
  have beyond := overlong.beyond
  omega

/-- What happens before a reply's frame is read receives nothing. -/
theorem HandshakeJudged.behind {deadline : Instant} {events more : List NetworkEvent}
    {reply : Reply WifiProvisioningError Unit} (nothing : receivedBytes events = [])
    (handed : handedBytes events = frame (requestHeader caller))
    (nothingMore : handedBytes more = [])
    (framed : reply = .returned () → ∃ body : Bytes, body.length ≤ 65536 ∧
      receivedBytes more = frame body)
    (judged : ∀ body : Bytes, body.length ≤ 65536 → receivedBytes more = frame body →
      Verdict body reply)
    (overlong : ∀ header, Overlong 65536 header → header <+: receivedBytes more →
      receivedBytes more = header ∧
        reply = .failed (.protocol "ROS service frame exceeds limit"))
    (settled : reply = .waiting ∨ (∃ event ∈ more, Troubles deadline event) ∨
      Overlong 65536 (receivedBytes more) ∨
      ∃ body : Bytes, body.length ≤ 65536 ∧ receivedBytes more = frame body)
    (fragment : ∀ body : Bytes, body.length ≤ 65536 → frame body <+: receivedBytes more →
      receivedBytes more = frame body) :
    HandshakeJudged caller deadline (events ++ more) reply := by
  -- Only the later events receive anything.
  have received : receivedBytes (events ++ more) = receivedBytes more := by
    rw [receivedBytes_append, nothing, List.nil_append]
  refine ⟨fun _ => by rw [handedBytes_append, handed, nothingMore, List.append_nil], ?_, ?_, ?_, ?_⟩
  · rwa [received]
  · rwa [received]
  · rwa [received]
  · intro sent streams waitless
    have part := streams.inOrder
    rw [received] at part ⊢
    have small : 65536 < 256 ^ 4 := by decide
    rcases settled with waits | ⟨event, member, troubles⟩ | long | ⟨known, short, whole⟩
    · exact absurd waits waitless
    · -- All that was sent has been received.
      have all := streams.ended ⟨event, List.mem_append_right _ member, troubles⟩
      rw [received] at all
      rw [← all]
      exact ⟨fragment, fun header overlong' front => (overlong header overlong' front).1⟩
    · -- The length is at the front of what was sent.
      refine ⟨fun body short front => ?_, fun header other front => ?_⟩
      · exact absurd part (not_overlong_of_frame small short front long)
      · have equal : (receivedBytes more).length = header.length := by
          rw [long.four, other.four]
        exact (List.prefix_of_prefix_length_le part front (Nat.le_of_eq equal)).eq_of_length equal
    · -- The frame is at the front of what was sent.
      rw [whole] at part ⊢
      have fits : ∀ body : Bytes, body.length ≤ 65536 → body.length < 256 ^ 4 :=
        fun body short => Nat.lt_of_le_of_lt short small
      refine ⟨fun body within front => frame_unique (fits _ short) (fits _ within) part front,
        fun header other front => ?_⟩
      exact absurd front (not_overlong_of_frame small short part other)

/-- A handshake leaves behind what its report agrees with. -/
theorem leaves_handshake :
    Leaves (HandshakeJudged caller connection.deadline) (handshake connection caller) := by
  have small : 65536 < 256 ^ 4 := by decide
  have fits : ∀ body : Bytes, body.length ≤ 65536 → body.length < 256 ^ 4 :=
    fun body short => Nat.lt_of_le_of_lt short small
  -- The introduction is written first, and nothing is received meanwhile.
  refine Leaves.bind (((leaves_writeFrame _).and (failsAfter_writeFrame _)).mapError _) ?_ ?_ ?_
  · rintro events error ⟨kind, rfl, left, causes⟩
    have writes := (left (List.infix_refl _)).1
    exact HandshakeJudged.silent (receivedBytes_of_writes writes)
      (fun returned => by cases returned) fun _ _ => causes kind rfl
  · rintro events ⟨left, _⟩
    have writes := (left (List.infix_refl _)).1
    exact HandshakeJudged.silent (receivedBytes_of_writes writes)
      (fun returned => by cases returned) fun _ fails => by cases fails
  · rintro events value ⟨left, _⟩
    obtain ⟨writes, _, done⟩ := left (List.infix_refl _)
    have handed := done.mpr rfl
    have nothing := receivedBytes_of_writes writes
    -- Then the frame of the answer is read, and its body is judged.
    refine Leaves.bind ((leaves_readFrame small).and judged_readFrame) ?_ ?_ ?_
    · rintro more error ⟨⟨reads, frameless⟩, frames⟩
      refine HandshakeJudged.behind nothing handed (handedBytes_of_reads reads)
        (fun returned => by cases returned) ?_ ?_ (.inr ?_) ?_
      · exact fun body short whole =>
          absurd (whole ▸ List.prefix_refl _) (frameless body short)
      · intro header overlong part
        obtain ⟨whole, same⟩ := frames.overlong header overlong part
        cases same
        exact ⟨whole, rfl⟩
      · exact (frames.failing error rfl).imp_right .inl
      · exact fun body short part => absurd part (frameless body short)
    · rintro more ⟨⟨reads, frameless⟩, frames⟩
      refine HandshakeJudged.behind nothing handed (handedBytes_of_reads reads)
        (fun returned => by cases returned) ?_ ?_ (.inl rfl) ?_
      · exact fun body short whole =>
          absurd (whole ▸ List.prefix_refl _) (frameless body short)
      · intro header overlong part
        cases (frames.overlong header overlong part).2
      · exact fun body short part => absurd part (frameless body short)
    · rintro more body ⟨⟨reads, whole, short⟩, _⟩
      refine (leaves_verdict short).mono fun last reply judged => ?_
      obtain ⟨rfl, verdict⟩ := judged
      rw [List.append_nil]
      refine HandshakeJudged.behind nothing handed (handedBytes_of_reads reads)
        (fun _ => ⟨body, short, whole⟩) ?_ ?_ (.inr (.inr (.inr ⟨body, short, whole⟩))) ?_
      · intro other within same
        have equal := frame_injective (whole.symm.trans same)
        exact equal ▸ verdict
      · intro header overlong part
        exact absurd part (not_overlong_of_frame small short (whole ▸ List.prefix_refl _) overlong)
      · intro other within part
        rw [whole] at part ⊢
        exact frame_unique (fits _ short) (fits _ within) (List.prefix_refl _) part

end Handshake

/-- What a service sends begins with a frame whose header is well-formed and compatible. -/
def Welcomes (sent : Bytes) : Prop :=
  ∃ body : Bytes, body.length ≤ 65536 ∧ frame body <+: sent ∧
    ∃ fields, HeaderBody body fields ∧ Compatible fields

section Ends

variable {connection : Connection} {caller : Text} {before : List NetworkEvent}

/-- A handshake comes to an end in every system. -/
theorem concludes_handshake {system : NetworkSystem} :
    Concludes system.Answers before (handshake connection caller) fun _ _ => True := by
  -- The loop over the fields asks nothing, and it ends on every body.
  refine ((concludes_writeFrame _).converted _).after fun _ _ => ?_
  refine (concludes_readFrame _).after fun _ body => ?_
  exact (concludes_within (readFieldsFrom_ends [] body)).after fun _ _ => concludes_ofExcept

/-- Where all that a service sends is received, its header alone decides. -/
theorem HandshakeJudged.welcomed {deadline : Instant} {sent : Bytes} {events : List NetworkEvent}
    {reply : Reply WifiProvisioningError Unit}
    (handled : HandshakeJudged caller deadline events reply)
    (streams : Streams deadline sent events) (ended : reply ≠ .waiting) :
    reply = .returned () ↔ Welcomes sent := by
  -- What has been received is the frame that the stream begins with.
  constructor
  · intro returned
    obtain ⟨body, short, whole⟩ := handled.framed returned
    refine ⟨body, short, whole ▸ streams.inOrder, ?_⟩
    exact (handled.judged body short whole).accepted.mp returned
  · intro welcomes
    obtain ⟨body, short, part, header⟩ := welcomes
    have whole := (handled.complete sent streams ended).1 body short part
    exact (handled.judged body short whole).accepted.mpr header

end Ends

/--
A handshake accepts exactly the well-formed headers of the service that is meant.

It comes to an end in every system, and with a server in time this is decided by what is sent.
-/
theorem handshake_accepts_headers (connection : Connection) (caller : Text) :
    (∀ body, (readFields body).1 ≠ .waiting) ∧
    (∀ network, ∃ events, (handshake connection caller network).2.log = network.log ++ events ∧
      HandshakeJudged caller connection.deadline events
        (handshake connection caller network).1) ∧
    (∀ (system : NetworkSystem) (before : List NetworkEvent),
      Concludes system.Answers before (handshake connection caller)
        (HandshakeJudged caller connection.deadline)) ∧
    ∀ server : Server, server.Timely connection.deadline → ∀ before : List NetworkEvent,
      Concludes (server.system before.length).Answers before (handshake connection caller)
        fun events reply => HandshakeJudged caller connection.deadline events reply ∧
          (reply = .returned () ↔ Welcomes server.sent) := by
  -- The loop over the fields ends on every body, also on those that are refused.
  refine ⟨readFieldsFrom_ends [], leaves_handshake, fun system before => ?_,
    fun server timely before => ?_⟩
  · exact (concludes_handshake.leaves leaves_handshake).mono fun _ _ described => described.2.2
  · refine (concludes_handshake.leaves leaves_handshake).ended fun events reply ended described => ?_
    obtain ⟨conforms, _, handled⟩ := described
    exact ⟨handled, handled.welcomed (streams_served timely conforms) ended⟩

/-- The header of a service that is meant. -/
def sampleHeader : Bytes :=
  ["md5sum=".toList ++ serviceMd5, "type=".toList ++ serviceType].flatMap fun field =>
    frame (Text.utf8 field)

/-- A service that sends this header in pieces of seven bytes. -/
def sampleServer : Server where
  sent := frame sampleHeader
  piece _ := 6
  clock _ := 0

/-- The answers of a run in which this header is received in two pieces. -/
def sampleNetwork : Network :=
  ⟨writeAnswers [4, (requestHeader "/scout".toList).length] ++
    readAnswers [Stream.littleEndian 4 sampleHeader.length, sampleHeader], []⟩

/-- This header is accepted, in two pieces as in pieces of seven bytes. -/
theorem handshake_accepts_headers_sample :
    (handshake ⟨0, 1⟩ "/scout".toList sampleNetwork).1 = .returned () ∧
      Concludes (sampleServer.system 0).Answers [] (handshake ⟨0, 1⟩ "/scout".toList)
        fun _ reply => reply = .returned () := by
  -- The first run is evaluated, and what it has received welcomes this client.
  have ran : (handshake ⟨0, 1⟩ "/scout".toList sampleNetwork).1 = .returned () ∧
      receivedBytes (handshake ⟨0, 1⟩ "/scout".toList sampleNetwork).2.log =
        sampleServer.sent := by
    decide +kernel
  obtain ⟨returned, received⟩ := ran
  obtain ⟨_, runs, _, served⟩ := handshake_accepts_headers ⟨0, 1⟩ "/scout".toList
  obtain ⟨events, added, judged⟩ := runs sampleNetwork
  rw [show sampleNetwork.log = [] from rfl, List.nil_append] at added
  have welcomes : Welcomes sampleServer.sent := by
    obtain ⟨body, short, whole⟩ := judged.framed returned
    have same : sampleServer.sent = frame body := by
      rw [← received, added, whole]
    exact ⟨body, short, same ▸ List.prefix_refl _,
      (judged.judged body short whole).accepted.mp returned⟩
  exact ⟨returned, (served sampleServer (fun _ => Nat.one_pos) []).mono
    fun _ _ described => described.2.mpr welcomes⟩

end Scout.Wifi
