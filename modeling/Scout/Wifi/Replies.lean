import Scout.Wifi.Exchange

/-! What is reported about the credentials agrees with what was sent and received. -/

namespace Scout.Wifi

open Machine Dialogue NetworkM NetworkEvent

section Frames

variable {connection : Connection}

/-- The length of a frame counts the four bytes in front. -/
@[simp] theorem frame_length (body : Bytes) : (frame body).length = 4 + body.length := by
  -- The length of the body is written in four bytes.
  simp [frame]

/-- A frame of one byte. -/
theorem frame_single (byte : UInt8) : frame [byte] = [1, 0, 0, 0, byte] := by
  -- The length is one.
  simp [frame, Stream.littleEndian]

/-- A frame at the front of some bytes has the length these begin with. -/
theorem frame_front {body header rest : Bytes} (four : header.length = 4)
    (fits : body.length < 256 ^ 4) (part : frame body <+: header ++ rest) :
    body.length = Stream.ofLittleEndian header ∧ body <+: rest := by
  -- The two headers are equally long, so they are equal.
  obtain ⟨tail, whole⟩ := part
  rw [frame, List.append_assoc] at whole
  obtain ⟨same, left⟩ := List.append_inj whole (by simp [four])
  rw [← same, Stream.ofLittleEndian_littleEndian fits]
  exact ⟨rfl, tail, left⟩

/-- What reading a frame leaves behind: the frame if it returns, or none that would do. -/
def FrameLeft (stream : TcpStream) (limit : Nat) (events : List NetworkEvent)
    (reply : Reply WifiProvisioningError Bytes) : Prop :=
  (∀ event ∈ events, Reads stream event) ∧
    match reply with
    | .returned body => receivedBytes events = frame body ∧ body.length ≤ limit
    | _ => ∀ body : Bytes, body.length ≤ limit → ¬ frame body <+: receivedBytes events

/-- Too few bytes do not begin with a frame. -/
theorem not_frame_of_short {events : List NetworkEvent} {body : Bytes}
    (short : (receivedBytes events).length < 4) : ¬ frame body <+: receivedBytes events := by
  -- The length alone takes four bytes.
  intro part
  have long := part.length_le
  rw [frame_length] at long
  omega

/-- Bytes that end before the length in front of them is reached do not begin with a frame. -/
theorem not_frame_of_cut {body header rest : Bytes} (four : header.length = 4)
    (fits : body.length < 256 ^ 4) (short : rest.length < Stream.ofLittleEndian header) :
    ¬ frame body <+: header ++ rest := by
  -- The body of the frame would be longer than what follows.
  intro part
  obtain ⟨same, inner⟩ := frame_front four fits part
  have within := inner.length_le
  omega

/-- Reading a frame leaves only reads behind, and returns the frame they bring. -/
theorem leaves_readFrame {limit : Nat} (bound : limit < 256 ^ 4) :
    Leaves (FrameLeft connection.stream limit) (readFrame connection.readExact limit) := by
  -- The length is read first, and it decides how many bytes must follow.
  refine Leaves.bind ((leaves_readExact 4).mapError _) ?_ ?_ ?_
  · rintro events error ⟨kind, rfl, reads, short⟩
    exact ⟨reads, fun body _ => not_frame_of_short (short (Nat.zero_le _))⟩
  · rintro events ⟨reads, short⟩
    exact ⟨reads, fun body _ => not_frame_of_short (short (Nat.zero_le _))⟩
  · rintro events header ⟨reads, filled⟩
    obtain ⟨got, four⟩ := filled (Nat.zero_le _)
    rw [List.nil_append] at got
    by_cases long : limit < Stream.ofLittleEndian header
    · simp only [if_pos long]
      apply leaves_fail
      refine ⟨by simpa using reads, fun body fits part => ?_⟩
      rw [List.append_nil, ← got, ← List.append_nil header] at part
      have same := (frame_front four (Nat.lt_of_le_of_lt fits bound) part).1
      omega
    · simp only [if_neg long]
      refine ((leaves_readExact _).mapError _).mono fun more reply left => ?_
      have fits : ∀ body : Bytes, body.length ≤ limit → body.length < 256 ^ 4 :=
        fun body within => Nat.lt_of_le_of_lt within bound
      match reply, left with
      | .returned body, ⟨others, filled⟩ =>
        obtain ⟨rfl, full⟩ := filled (Nat.zero_le _)
        refine ⟨List.forall_mem_append.mpr ⟨reads, others⟩, ?_, by omega⟩
        have front := Stream.littleEndian_ofLittleEndian header
        rw [four] at front
        rw [receivedBytes_append, ← got, frame, full, front, List.nil_append]
      | .failed _, ⟨_, _, others, short⟩ =>
        refine ⟨List.forall_mem_append.mpr ⟨reads, others⟩, fun body within => ?_⟩
        rw [receivedBytes_append, ← got]
        exact not_frame_of_cut four (fits body within) (short (Nat.zero_le _))
      | .waiting, ⟨others, short⟩ =>
        refine ⟨List.forall_mem_append.mpr ⟨reads, others⟩, fun body within => ?_⟩
        rw [receivedBytes_append, ← got]
        exact not_frame_of_cut four (fits body within) (short (Nat.zero_le _))

/-- The parts of some bytes are closed under leaving out a beginning. -/
theorem part_drop {whole : Bytes} (bytes : Bytes) (count : Nat) (part : bytes <:+: whole) :
    bytes.drop count <:+: whole :=
  (List.drop_suffix count bytes).isInfix.trans part

/-- Writing bytes leaves only writes of parts of them behind, or of more bytes around them. -/
theorem leaves_writePart (whole bytes : Bytes) :
    Leaves (DrainLeft connection.stream (· <:+: whole) bytes) (connection.writeAll bytes) :=
  leaves_writeAll part_drop bytes

/-- Writing a frame leaves only writes of its parts behind: all of it if it returns. -/
theorem leaves_writeFrame (body : Bytes) :
    Leaves (DrainLeft connection.stream (· <:+: frame body) (frame body))
      (writeFrame connection.writeAll body) := by
  -- The length is written first, and only then the body.
  have front : Stream.littleEndian 4 body.length <:+: frame body :=
    (List.prefix_append _ _).isInfix
  have back : body <:+: frame body := (List.suffix_append _ _).isInfix
  have cut : ∀ events, handedBytes events <+: Stream.littleEndian 4 body.length →
      handedBytes events ≠ Stream.littleEndian 4 body.length →
      handedBytes events <+: frame body ∧ handedBytes events ≠ frame body := by
    intro events part unequal
    refine ⟨part.trans (List.prefix_append _ _), fun same => unequal (part.eq_of_length_le ?_)⟩
    rw [same, frame, List.length_append]
    exact Nat.le_add_right _ _
  refine Leaves.bind (leaves_writePart (frame body) _) ?_ ?_ ?_
  · intro events error left _
    obtain ⟨writes, part, decided⟩ := left front
    have stopped := cut events part (by simp [decided])
    exact ⟨writes, stopped.1, iff_of_false stopped.2 (by simp)⟩
  · intro events left _
    obtain ⟨writes, part, decided⟩ := left front
    have stopped := cut events part (by simp [decided])
    exact ⟨writes, stopped.1, iff_of_false stopped.2 (by simp)⟩
  · intro events value left
    obtain ⟨writes, _, decided⟩ := left front
    have whole := decided.mpr rfl
    refine (leaves_writePart (frame body) body).mono fun more reply rest _ => ?_
    obtain ⟨others, inner, done⟩ := rest back
    rw [handedBytes_append, whole, frame]
    refine ⟨List.forall_mem_append.mpr ⟨writes, others⟩, ?_, ?_⟩
    · exact (List.prefix_append_right_inj _).mpr inner
    · rw [← done]
      exact List.append_right_inj _

end Frames

/-- A status, or a complete report of a failure, stands at the front of a reply. -/
def Conclusive (received : Bytes) : Prop :=
  (∃ status : UInt8, [1, 1, 0, 0, 0, status] <+: received) ∨
    ∃ text : Bytes, text.length ≤ maxServiceError ∧ 0 :: frame text <+: received

/-- The result that received bytes lead to when all credentials were sent. -/
inductive Replied (received : Bytes) :
    Reply WifiProvisioningError WifiProvisioningResult → Prop
  | accepted (bytes : received = [1, 1, 0, 0, 0, 0]) : Replied received (.returned .accepted)
  | rejected (status : UInt8) (nonzero : status ≠ 0)
      (bytes : received = [1, 1, 0, 0, 0, status]) :
      Replied received (.failed (.rejected status.toInt8))
  | refused (text : Bytes) (short : text.length ≤ maxServiceError)
      (bytes : received = 0 :: frame text) : Replied received (.failed .serviceFailed)
  | uncertain (inconclusive : ¬ Conclusive received) :
      Replied received (.returned .deliveryUncertain)
  | waiting (inconclusive : ¬ Conclusive received) : Replied received .waiting

section Replies

variable {connection : Connection}

/-- A conclusive reply begins with a one and an acknowledgement, or a zero and a report. -/
theorem conclusive_cons {byte : UInt8} {rest : Bytes} (conclusive : Conclusive (byte :: rest)) :
    (byte = 1 ∧ ∃ status : UInt8, frame [status] <+: rest) ∨
      byte = 0 ∧ ∃ text : Bytes, text.length ≤ maxServiceError ∧ frame text <+: rest := by
  -- The first byte tells the two kinds apart.
  obtain ⟨status, part⟩ | ⟨text, short, part⟩ := conclusive
  · obtain ⟨same, rest⟩ := List.cons_prefix_cons.mp part
    exact .inl ⟨same.symm, status, frame_single status ▸ rest⟩
  · obtain ⟨same, rest⟩ := List.cons_prefix_cons.mp part
    exact .inr ⟨same.symm, text, short, rest⟩

/-- An empty reply is not conclusive. -/
theorem not_conclusive_nil : ¬ Conclusive [] := by
  -- Both kinds begin with a byte.
  rintro (⟨status, part⟩ | ⟨text, _, part⟩)
  · cases List.prefix_nil.mp part
  · cases List.prefix_nil.mp part

/-- Without a frame of one byte, what follows a one is not conclusive. -/
theorem not_acknowledged {rest : Bytes}
    (frameless : ∀ body : Bytes, body.length ≤ 1 → ¬ frame body <+: rest) :
    ¬ Conclusive ([1] ++ rest) := by
  -- The status would be such a frame.
  intro conclusive
  obtain ⟨_, status, part⟩ | ⟨zero, _⟩ := conclusive_cons conclusive
  · exact frameless [status] (Nat.le_refl _) part
  · cases zero

/-- Without a frame of limited length, what follows a zero is not conclusive. -/
theorem not_refused {rest : Bytes}
    (frameless : ∀ body : Bytes, body.length ≤ maxServiceError → ¬ frame body <+: rest) :
    ¬ Conclusive ([0] ++ rest) := by
  -- The text would be such a frame.
  intro conclusive
  obtain ⟨one, _⟩ | ⟨_, text, short, part⟩ := conclusive_cons conclusive
  · cases one
  · exact frameless text short part

/-- An acknowledgement with one status byte says what the status means. -/
theorem replied_acknowledged {received body : Bytes} (framed : received = [1] ++ frame body)
    (short : body.length ≤ 1) :
    (∀ value, acknowledged (.ok body) = .ok value → Replied received (.returned value)) ∧
      ∀ error, acknowledged (.ok body) = .error error → Replied received (.failed error) := by
  -- The body is empty or is the status.
  match body, short with
  | [], _ =>
    have inconclusive : ¬ Conclusive ([1] ++ frame []) := by
      intro conclusive
      obtain ⟨_, status, part⟩ | ⟨zero, _⟩ := conclusive_cons conclusive
      · have long := part.length_le
        simp at long
      · cases zero
    refine ⟨fun value found => ?_, fun error found => by cases found⟩
    cases found
    exact .uncertain (framed ▸ inconclusive)
  | [status], _ =>
    rw [frame_single] at framed
    by_cases zero : status = 0
    · subst zero
      refine ⟨fun value found => ?_, fun error found => by cases found⟩
      cases found
      exact .accepted framed
    · have refused : acknowledged (.ok [status]) = .error (.rejected status.toInt8) := by
        simp [acknowledged, zero]
      rw [refused]
      refine ⟨fun value found => (by cases found), fun error found => ?_⟩
      cases found
      exact .rejected status zero framed

/-- What follows the first byte of a reply leaves reads behind, which decide with that byte. -/
def Follows (stream : TcpStream) (byte : UInt8) (events : List NetworkEvent)
    (reply : Reply WifiProvisioningError WifiProvisioningResult) : Prop :=
  (∀ event ∈ events, Reads stream event) ∧ Replied ([byte] ++ receivedBytes events) reply

/-- Reading a frame after the first byte decides, if a missing frame is not conclusive. -/
theorem follows_frame {byte : UInt8} {limit : Nat} (bound : limit < 256 ^ 4)
    {next : Except WifiProvisioningError Bytes →
      NetworkM WifiProvisioningError WifiProvisioningResult}
    (frameless : ∀ {rest : Bytes},
      (∀ body : Bytes, body.length ≤ limit → ¬ frame body <+: rest) →
      ¬ Conclusive ([byte] ++ rest))
    (unread : ∀ error, next (.error error) = pure .deliveryUncertain)
    (framed : ∀ body : Bytes, body.length ≤ limit →
      Leaves (fun events reply => events = [] ∧ Replied ([byte] ++ frame body) reply)
        (next (.ok body))) :
    Leaves (Follows connection.stream byte)
      ((readFrame connection.readExact limit).attempt >>= next) := by
  -- The cases are those of the frame: under way, missing or complete.
  refine Leaves.bind (leaves_readFrame bound).attempt (fun _ _ caught => caught.elim) ?_ ?_
  · rintro events ⟨reads, missing⟩
    exact ⟨reads, .waiting (frameless missing)⟩
  · rintro events (error | body) ⟨reads, result⟩
    · rw [unread error]
      apply leaves_pure
      rw [List.append_nil]
      exact ⟨reads, .uncertain (frameless result)⟩
    · obtain ⟨complete, short⟩ := result
      refine (framed body short).mono fun more reply rest => ?_
      obtain ⟨rfl, replied⟩ := rest
      rw [List.append_nil]
      exact ⟨reads, complete ▸ replied⟩

/-- Reading the reply leaves only reads behind, and their bytes decide the result. -/
theorem leaves_readReply :
    Leaves (fun events reply => (∀ event ∈ events, Reads connection.stream event) ∧
      Replied (receivedBytes events) reply) (readReply connection) := by
  -- The first byte says which kind of frame follows.
  have none : ∀ events : List NetworkEvent, (receivedBytes events).length < 1 →
      ¬ Conclusive (receivedBytes events) := by
    intro events short
    rw [List.eq_nil_of_length_eq_zero (by omega : (receivedBytes events).length = 0)]
    exact not_conclusive_nil
  refine Leaves.bind (leaves_readExact 1).attempt (fun _ _ caught => caught.elim) ?_ ?_
  · rintro events ⟨reads, short⟩
    exact ⟨reads, .waiting (none events (short (Nat.zero_le _)))⟩
  · rintro events (kind | success) ⟨reads, got⟩
    · apply leaves_pure
      rw [List.append_nil]
      exact ⟨reads, .uncertain (none events (got (Nat.zero_le _)))⟩
    · obtain ⟨got, one⟩ := got (Nat.zero_le _)
      obtain ⟨byte, rfl⟩ := List.length_eq_one_iff.mp one
      rw [List.nil_append] at got
      have joined : ∀ more reply, Follows connection.stream byte more reply →
          (∀ event ∈ events ++ more, Reads connection.stream event) ∧
            Replied (receivedBytes (events ++ more)) reply := by
        intro more reply ⟨others, replied⟩
        rw [receivedBytes_append, ← got]
        exact ⟨List.forall_mem_append.mpr ⟨reads, others⟩, replied⟩
      by_cases acks : byte = 1
      · -- A status follows.
        subst acks
        simp only [if_true]
        refine (follows_frame (by decide) not_acknowledged (fun _ => rfl) ?_).mono joined
        intro body short
        have decided := replied_acknowledged rfl short
        exact leaves_ofExcept (fun value found => ⟨rfl, decided.1 value found⟩)
          fun error found => ⟨rfl, decided.2 error found⟩
      · by_cases refuses : byte = 0
        · -- The text of a failure follows.
          subst refuses
          simp only [List.cons.injEq, if_true]
          refine (follows_frame (by decide) not_refused (fun _ => rfl) ?_).mono joined
          intro text short
          exact leaves_fail ⟨rfl, .refused text short rfl⟩
        · -- Any other byte says nothing.
          simp only [List.cons.injEq, acks, refuses, false_and, if_false]
          apply leaves_pure
          rw [List.append_nil, ← got]
          refine ⟨reads, .uncertain fun conclusive => ?_⟩
          obtain ⟨one, _⟩ | ⟨zero, _⟩ := conclusive_cons conclusive
          · exact acks one
          · exact refuses zero

end Replies
/-- A result agrees with the bytes that were handed over and received after the handshake. -/
structure Decided (credentials : WifiCredentials) (handed received : Bytes)
    (reply : Reply WifiProvisioningError WifiProvisioningResult) : Prop where
  accepted : reply = .returned .accepted ↔
    handed = frame credentials.encodeRequest ∧ [1, 1, 0, 0, 0, 0] <+: received
  rejected : ∀ status : Int8, reply = .failed (.rejected status) ↔
    handed = frame credentials.encodeRequest ∧ status ≠ 0 ∧
      [1, 1, 0, 0, 0, status.toUInt8] <+: received
  serviceFailed : reply = .failed .serviceFailed ↔
    handed = frame credentials.encodeRequest ∧
      ∃ text : Bytes, text.length ≤ 1024 ∧ 0 :: frame text <+: received
  deliveryUncertain : reply = .returned .deliveryUncertain ↔ reply ≠ .waiting ∧
    ¬ (handed = frame credentials.encodeRequest ∧
      ((∃ status : UInt8, [1, 1, 0, 0, 0, status] <+: received) ∨
        ∃ text : Bytes, text.length ≤ 1024 ∧ 0 :: frame text <+: received))

/-- Where nothing conclusive has been received, the result is not known or not there yet. -/
theorem decided_inconclusive {credentials : WifiCredentials} {handed received : Bytes}
    {reply : Reply WifiProvisioningError WifiProvisioningResult}
    (inconclusive : ¬ (handed = frame credentials.encodeRequest ∧ Conclusive received))
    (unsettled : reply = .returned .deliveryUncertain ∨ reply = .waiting) :
    Decided credentials handed received reply := by
  -- Every other result would need a conclusive reply.
  refine ⟨?_, fun status => ?_, ?_, ?_⟩
  · refine iff_of_false (by rcases unsettled with rfl | rfl <;> simp) ?_
    rintro ⟨whole, part⟩
    exact inconclusive ⟨whole, .inl ⟨0, part⟩⟩
  · refine iff_of_false (by rcases unsettled with rfl | rfl <;> simp) ?_
    rintro ⟨whole, _, part⟩
    exact inconclusive ⟨whole, .inl ⟨_, part⟩⟩
  · refine iff_of_false (by rcases unsettled with rfl | rfl <;> simp) ?_
    rintro ⟨whole, text, short, part⟩
    exact inconclusive ⟨whole, .inr ⟨text, short, part⟩⟩
  · rcases unsettled with rfl | rfl
    · exact iff_of_true rfl ⟨by simp, inconclusive⟩
    · exact iff_of_false (by simp) fun both => both.1 rfl

/-- An acknowledgement carries one status. -/
theorem status_unique {first second : UInt8}
    (part : [1, 1, 0, 0, 0, first] <+: [1, 1, 0, 0, 0, second]) : first = second := by
  -- The two are equally long.
  have same := part.eq_of_length rfl
  simpa using same

/-- A reply does not begin with different bytes at once. -/
theorem not_prefix_of_ne {first second : UInt8} {rest other : Bytes} (different : first ≠ second) :
    ¬ first :: rest <+: second :: other :=
  fun part => different (List.cons_prefix_cons.mp part).1

/-- When all credentials were handed over, the received bytes decide the result. -/
theorem Replied.decided {credentials : WifiCredentials} {handed received : Bytes}
    {reply : Reply WifiProvisioningError WifiProvisioningResult}
    (whole : handed = frame credentials.encodeRequest) (replied : Replied received reply) :
    Decided credentials handed received reply := by
  -- The cases are those of the reply.
  cases replied with
  | accepted bytes =>
    subst bytes
    refine ⟨iff_of_true rfl ⟨whole, List.prefix_refl _⟩, fun status => ?_, ?_, ?_⟩
    · refine iff_of_false (by simp) ?_
      rintro ⟨_, nonzero, part⟩
      apply nonzero
      rw [← Int8.toInt8_toUInt8 status, status_unique part]
      rfl
    · refine iff_of_false (by simp) ?_
      rintro ⟨_, text, _, part⟩
      exact not_prefix_of_ne (by decide) part
    · exact iff_of_false (by simp) fun both => both.2 ⟨whole, .inl ⟨0, List.prefix_refl _⟩⟩
  | rejected status nonzero bytes =>
    subst bytes
    refine ⟨?_, fun other => ?_, ?_, ?_⟩
    · refine iff_of_false (by simp) ?_
      rintro ⟨_, part⟩
      exact nonzero (status_unique part).symm
    · constructor
      · intro same
        cases same
        refine ⟨whole, fun zero => nonzero ?_, by simp⟩
        rw [← UInt8.toUInt8_toInt8 status, zero]
        rfl
      · rintro ⟨_, _, part⟩
        rw [← status_unique part, Int8.toInt8_toUInt8]
    · refine iff_of_false (by simp) ?_
      rintro ⟨_, text, _, part⟩
      exact not_prefix_of_ne (by decide) part
    · exact iff_of_false (by simp) fun both => both.2 ⟨whole, .inl ⟨status, List.prefix_refl _⟩⟩
  | refused text short bytes =>
    subst bytes
    refine ⟨?_, fun status => ?_, ?_, ?_⟩
    · refine iff_of_false (by simp) ?_
      rintro ⟨_, part⟩
      exact not_prefix_of_ne (by decide) part
    · refine iff_of_false (by simp) ?_
      rintro ⟨_, _, part⟩
      exact not_prefix_of_ne (by decide) part
    · exact iff_of_true rfl ⟨whole, text, short, List.prefix_refl _⟩
    · exact iff_of_false (by simp) fun both =>
        both.2 ⟨whole, .inr ⟨text, short, List.prefix_refl _⟩⟩
  | uncertain inconclusive => exact decided_inconclusive (fun both => inconclusive both.2) (.inl rfl)
  | waiting inconclusive => exact decided_inconclusive (fun both => inconclusive both.2) (.inr rfl)

end Scout.Wifi
