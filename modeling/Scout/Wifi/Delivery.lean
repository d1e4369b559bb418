import Scout.Wifi.Answering

/-! Credentials are sent late, once, and reported for what became of them. -/

namespace Scout.Wifi

open Machine Dialogue NetworkM NetworkEvent

/-- Nothing is offered to a connection but parts of what introduces this client. -/
def Introduces (config : Ros1Config) : NetworkEvent → Prop
  | .write _ offered _ => ∃ master caller,
      Endpoint.parse config.masterUri "http://".toList true = .ok master ∧
      callerId config.nodeName = .ok caller ∧
      (offered <:+: (lookupRequest master caller).utf8 ∨ offered <:+: frame (requestHeader caller))
  | .shaken _ => False
  | _ => True

section Opening

variable {config : Ros1Config}

/-- Resolving a host offers nothing to any connection. -/
theorem introduces_resolve {endpoint : Endpoint} {deadline : Instant} :
    Emits (Introduces config) (endpoint.resolve deadline) :=
  emits_resolve (fun _ => trivial) (fun _ _ _ => trivial) fun _ _ => trivial

/-- Connecting offers nothing to any connection. -/
theorem introduces_connect {deadline : Instant} (addresses : List SocketAddr) :
    Emits (Introduces config) (connect addresses deadline) :=
  emits_connect (fun _ => trivial) (fun _ _ _ _ => trivial) addresses

/-- Reading offers nothing to any connection. -/
theorem introduces_reads {stream : TcpStream} {event : NetworkEvent}
    (reads : Reads stream event) : Introduces config event := by
  -- A read is neither a write nor the end of a handshake.
  cases event with
  | write _ _ _ => exact reads.elim
  | shaken _ => exact reads.elim
  | _ => trivial

/-- Writing all of some bytes offers parts of them. -/
theorem introduces_writes {stream : TcpStream} {whole : Bytes} {event : NetworkEvent}
    (writes : Writes stream (· <:+: whole) event)
    (allowed : ∀ offered result, offered <:+: whole →
      Introduces config (.write stream offered result)) : Introduces config event := by
  -- Only writes offer anything.
  cases event with
  | write _ offered result =>
    obtain ⟨rfl, part⟩ := writes
    exact allowed offered result part
  | shaken _ => exact writes.elim
  | _ => trivial

variable {master : Endpoint} {caller : Text}

/-- Asking the master offers parts of the request. -/
theorem introduces_lookupService {parser : XmlParser} {deadline : Instant}
    (masterParsed : Endpoint.parse config.masterUri "http://".toList true = .ok master)
    (callerParsed : callerId config.nodeName = .ok caller) :
    Emits (Introduces config) (lookupService parser master caller deadline) := by
  -- The request is the only thing that is written.
  apply introduces_resolve.bind
  intro addresses
  apply (introduces_connect addresses).bind
  intro connection
  apply ((emits_peerAddr fun _ => trivial).mapError _).bind
  intro masterAddress
  have request : Emits (Introduces config)
      (connection.writeAll (lookupRequest master caller).utf8) := by
    refine (leaves_writePart (lookupRequest master caller).utf8 _).mono
      fun events reply left event member => ?_
    exact introduces_writes ((left (List.infix_refl _)).1 event member) fun _ _ part =>
      ⟨master, caller, masterParsed, callerParsed, .inl part⟩
  apply (request.mapError _).bind
  intro _
  apply (emits_readHttpBody fun _ => introduces_reads).bind
  intro body
  apply emits_ofExcept.bind
  intro uri
  exact emits_pure

/-- Introducing this client offers parts of its header. -/
theorem introduces_handshake {connection : Connection}
    (masterParsed : Endpoint.parse config.masterUri "http://".toList true = .ok master)
    (callerParsed : callerId config.nodeName = .ok caller) :
    Emits (Introduces config) (handshake connection caller) := by
  -- The header is the only thing that is written.
  have header : Emits (Introduces config)
      (writeFrame connection.writeAll (requestHeader caller)) := by
    refine (leaves_writeFrame _).mono fun events reply left event member => ?_
    exact introduces_writes ((left (List.infix_refl _)).1 event member) fun _ _ part =>
      ⟨master, caller, masterParsed, callerParsed, .inr part⟩
  apply (header.mapError _).bind
  intro _
  have body : Emits (Introduces config) (readFrame connection.readExact maxServiceHeader) :=
    (leaves_readFrame (by decide)).mono fun _ _ left event member =>
      introduces_reads (left.1 event member)
  apply body.bind
  intro body
  apply emits_within.bind
  intro fields
  exact emits_ofExcept

/-- What finding the service leaves behind: a handshake at the very end, if it returns. -/
def Opened (config : Ros1Config) (events : List NetworkEvent)
    (reply : Reply WifiProvisioningError Connection) : Prop :=
  match reply with
  | .returned connection => ∃ prior, events = prior ++ [.shaken connection.stream] ∧
      ∀ event ∈ prior, Introduces config event
  | _ => ∀ event ∈ events, Introduces config event

/-- Events that introduce this client may come before. -/
theorem Opened.ignores {events more : List NetworkEvent}
    {reply : Reply WifiProvisioningError Connection}
    (quiet : ∀ event ∈ events, Introduces config event) (opened : Opened config more reply) :
    Opened config (events ++ more) reply := by
  -- The handshake stays at the end.
  cases reply with
  | returned connection =>
    obtain ⟨prior, same, others⟩ := opened
    refine ⟨events ++ prior, ?_, List.forall_mem_append.mpr ⟨quiet, others⟩⟩
    rw [same, List.append_assoc]
  | failed error => exact List.forall_mem_append.mpr ⟨quiet, opened⟩
  | waiting => exact List.forall_mem_append.mpr ⟨quiet, opened⟩

/-- A beginning that introduces this client may be left out. -/
theorem Opened.after {α : Type} {first : NetworkM WifiProvisioningError α}
    {next : α → NetworkM WifiProvisioningError Connection}
    (quiet : Emits (Introduces config) first) (rest : ∀ value, Leaves (Opened config) (next value)) :
    Leaves (Opened config) (first >>= next) :=
  Leaves.after quiet (fun _ _ _ => Opened.ignores) (fun _ => List.forall_mem_nil _)
    (List.forall_mem_nil _) rest

/-- Finding the service ends with a handshake, before which this client introduces itself. -/
theorem opened_establish (parser : XmlParser) (timeout : Duration) :
    Leaves (Opened config) (establish parser config timeout) := by
  -- Each step is left out in turn, until the handshake is noted.
  unfold establish
  split
  · exact leaves_fail (List.forall_mem_nil _)
  · apply Opened.after (emits_instantNow fun _ => trivial)
    intro now
    apply Leaves.calculated (fun _ => List.forall_mem_nil _)
    intro master masterParsed
    apply Leaves.calculated (fun _ => List.forall_mem_nil _)
    intro caller callerParsed
    apply Opened.after (introduces_lookupService masterParsed callerParsed)
    rintro ⟨uri, masterAddress⟩
    apply Opened.after emits_ofExcept
    intro service
    -- The service may have a host name of its own.
    have candidates : Emits (Introduces config)
        (serviceAddresses service masterAddress (now + timeout)) := by
      unfold serviceAddresses
      split
      · exact emits_pure
      · exact introduces_resolve
    apply Opened.after candidates
    intro addresses
    apply Opened.after (introduces_connect addresses)
    intro connection
    apply Opened.after (introduces_handshake masterParsed callerParsed)
    intro _ ledger
    exact ⟨[.shaken connection.stream], rfl, [], rfl, List.forall_mem_nil _⟩

end Opening

section Sending

variable (connection : Connection) (credentials : WifiCredentials)

/-- What sending the credentials leaves behind: at most one frame, and what came of it. -/
def Sent (stream : TcpStream) (credentials : WifiCredentials) (events : List NetworkEvent)
    (reply : Reply WifiProvisioningError WifiProvisioningResult) : Prop :=
  (∀ event ∈ events, Reads stream event ∨
    Writes stream (· <:+: frame credentials.encodeRequest) event) ∧
  handedBytes events <+: frame credentials.encodeRequest ∧
  Decided credentials (handedBytes events) (receivedBytes events) reply

/-- Sending the credentials writes one frame at most, and reports what came of it. -/
theorem sent_sendCredentials :
    Leaves (Sent connection.stream credentials) (sendCredentials connection credentials) := by
  -- The reply is only read once the whole frame has been handed over.
  refine Leaves.bind (leaves_writeFrame _).attempt (fun _ _ caught => caught.elim) ?_ ?_
  · intro events left
    -- A write that is never answered leaves the frame incomplete.
    obtain ⟨writes, part, decided⟩ := left (List.infix_refl _)
    have cut : handedBytes events ≠ frame credentials.encodeRequest := by simp [decided]
    exact ⟨fun event member => .inr (writes event member), part,
      decided_inconclusive (fun both => cut both.1) (.inr rfl)⟩
  · rintro events (kind | _) left
    · obtain ⟨writes, part, decided⟩ := left (List.infix_refl _)
      have cut : handedBytes events ≠ frame credentials.encodeRequest := by simp [decided]
      apply leaves_pure
      rw [List.append_nil]
      exact ⟨fun event member => .inr (writes event member), part,
        decided_inconclusive (fun both => cut both.1) (.inl rfl)⟩
    · obtain ⟨writes, part, decided⟩ := left (List.infix_refl _)
      -- The frame is complete, and everything received belongs to the reply.
      have whole := decided.mpr rfl
      refine leaves_readReply.mono fun more reply rest => ?_
      obtain ⟨reads, replied⟩ := rest
      have handedAll : handedBytes (events ++ more) = frame credentials.encodeRequest := by
        rw [handedBytes_append, handedBytes_of_reads reads, List.append_nil, whole]
      have receivedLate : receivedBytes (events ++ more) = receivedBytes more := by
        rw [receivedBytes_append, receivedBytes_of_writes writes, List.nil_append]
      refine ⟨?_, handedAll ▸ List.prefix_refl _, ?_⟩
      · exact List.forall_mem_append.mpr ⟨fun event member => .inr (writes event member),
          fun event member => .inl (reads event member)⟩
      · rw [handedAll, receivedLate]
        exact replied.decided rfl

end Sending

/-- The errors that say that nothing was sent. -/
def WifiProvisioningError.beforeSending : WifiProvisioningError → Bool
  | invalidConfiguration _ => true
  | timeout => true
  | transport _ => true
  | protocol _ => true
  | serviceUnavailable => true
  | serviceFailed => false
  | rejected _ => false

/-- What is done and reported, where the calls fall into those before and after a handshake. -/
structure Delivery (config : Ros1Config) (credentials : WifiCredentials)
    (before after : List NetworkEvent)
    (reply : Reply WifiProvisioningError WifiProvisioningResult) : Prop where
  /-- Before, this client is introduced, and nothing else is offered to any connection. -/
  early : ∀ event ∈ before, Introduces config event ∨ ∃ stream, event = .shaken stream
  /-- After, parts of the credentials are offered, on the connection that was shaken. -/
  late : ∀ event ∈ after, ∃ stream, .shaken stream ∈ before ∧
    (Reads stream event ∨ Writes stream (· <:+: frame credentials.encodeRequest) event)
  /-- What is handed over is a part of one frame. -/
  once : handedBytes after <+: frame credentials.encodeRequest
  definite : ∀ error, reply = .failed error → error.beforeSending → after = []
  unsent : (∀ stream, .shaken stream ∉ before) → after = [] ∧ ∀ result, reply ≠ .returned result
  decided : (∃ stream, .shaken stream ∈ before) →
    Decided credentials (handedBytes after) (receivedBytes after) reply

/-- Without a handshake nothing is sent, and no result is returned. -/
theorem delivery_unshaken {config : Ros1Config} {credentials : WifiCredentials}
    {before : List NetworkEvent} {reply : Reply WifiProvisioningError WifiProvisioningResult}
    (introduced : ∀ event ∈ before, Introduces config event)
    (unfinished : ∀ result, reply ≠ .returned result) :
    Delivery config credentials before [] reply where
  early event member := .inl (introduced event member)
  late event member := by cases member
  once := List.nil_prefix
  definite _ _ _ := rfl
  unsent _ := ⟨rfl, unfinished⟩
  decided shaken := by
    -- The end of a handshake does not belong to what introduces this client.
    obtain ⟨stream, member⟩ := shaken
    exact (introduced _ member).elim

/-- A failure that says that nothing was sent is never the result of sending. -/
theorem Decided.not_beforeSending {credentials : WifiCredentials} {handed received : Bytes}
    {error : WifiProvisioningError} (early : error.beforeSending)
    (decided : Decided credentials handed received (.failed error)) : False := by
  -- The result is not uncertain, so the reply was conclusive, and it was something else.
  have conclusive : handed = frame credentials.encodeRequest ∧ Conclusive received := by
    by_contra inconclusive
    have uncertain := decided.deliveryUncertain.mpr ⟨by simp, inconclusive⟩
    cases uncertain
  obtain ⟨whole, ⟨status, part⟩ | failure⟩ := conclusive
  · -- A status stands for acceptance or a rejection, and neither is such an error.
    by_cases zero : status = 0
    · subst zero
      have accepted := decided.accepted.mpr ⟨whole, part⟩
      cases accepted
    · have nonzero : status.toInt8 ≠ 0 := by
        intro same
        apply zero
        rw [← UInt8.toUInt8_toInt8 status, same]
        rfl
      have rejected := (decided.rejected status.toInt8).mpr
        ⟨whole, nonzero, (UInt8.toUInt8_toInt8 status).symm ▸ part⟩
      cases rejected
      cases early
  · have failed := decided.serviceFailed.mpr ⟨whole, failure⟩
    cases failed
    cases early

/-- After a handshake the credentials are sent on that connection, and on no other. -/
theorem delivery_shaken {config : Ros1Config} {credentials : WifiCredentials} {stream : TcpStream}
    {prior after : List NetworkEvent} {reply : Reply WifiProvisioningError WifiProvisioningResult}
    (introduced : ∀ event ∈ prior, Introduces config event)
    (sent : Sent stream credentials after reply) :
    Delivery config credentials (prior ++ [.shaken stream]) after reply where
  -- The handshake lies between what comes early and what comes late.
  early event member := by
    obtain earlier | last := List.mem_append.mp member
    · exact .inl (introduced event earlier)
    · exact .inr ⟨_, List.mem_singleton.mp last⟩
  late event member := ⟨stream, by simp, sent.1 event member⟩
  once := sent.2.1
  definite error failed early := by
    have decided := sent.2.2
    rw [failed] at decided
    exact (decided.not_beforeSending early).elim
  unsent never := absurd (by simp) (never stream)
  decided _ := sent.2.2

/-- The calls up to the handshake are made before the credentials are looked at: either nothing
follows whatever these are, or they are sent on the connection that was shaken. -/
theorem provisionWifi_opened (parser : XmlParser) (config : Ros1Config) (timeout : Duration)
    (script : List SystemAnswer) :
    (∃ network reply, (∀ event ∈ network.log, Introduces config event) ∧
      (∀ result, reply ≠ .returned result) ∧
      ∀ credentials, provisionWifi parser config credentials timeout ⟨script, []⟩ =
        (reply, network)) ∨
    ∃ connection network prior, network.log = prior ++ [.shaken connection.stream] ∧
      (∀ event ∈ prior, Introduces config event) ∧
      ∀ credentials, provisionWifi parser config credentials timeout ⟨script, []⟩ =
        sendCredentials connection credentials network := by
  -- The credentials are used only once the handshake has been made.
  have opening : Leaves (Opened config) (establish parser config timeout) :=
    opened_establish parser timeout
  obtain ⟨events, added, opened⟩ := opening ⟨script, []⟩
  rw [List.nil_append] at added
  cases replied : establish parser config timeout ⟨script, []⟩ with
  | mk reply network =>
    rw [replied] at added opened
    dsimp only at added
    subst added
    cases reply with
    | failed error =>
      exact .inl ⟨network, .failed error, opened, by simp, fun _ => bind_failed replied⟩
    | waiting => exact .inl ⟨network, .waiting, opened, by simp, fun _ => bind_waiting replied⟩
    | returned connection =>
      obtain ⟨prior, same, introduced⟩ := opened
      exact .inr ⟨connection, network, prior, same, introduced, fun _ => bind_returned replied⟩

/-- The document with which a master names the robot's own service. -/
def sampleDocument : XmlNode :=
  let value := fun type content =>
    XmlNode.element "value".toList [.element type [.text content]]
  let values := [value "int".toList "1".toList, value "string".toList "ok".toList,
    value "string".toList "rosrpc://linaro-alip:4000".toList]
  ["data", "array", "value", "param", "params", "methodResponse"].foldl
    (fun children name => [.element name.toList children]) values |>.headD .other

/-- Credentials of a sample network. -/
def sampleCredentials : WifiCredentials where
  ssid := "private-ssid".toList
  password := "password".toList
  ssidLength := by decide +kernel
  passwordLength := by decide +kernel
  ssidSafe := by decide +kernel
  passwordSafe := by decide +kernel

/-- A configuration with a numeric address of the master. -/
def sampleConfig : Ros1Config where
  masterUri := "http://10.0.0.1:11311".toList
  nodeName := "scout".toList

/-- The answers of a run in which some chunks follow the credentials. -/
def sampleScript (reply : List Bytes) : List SystemAnswer :=
  let head : Text := "HTTP/1.0 200 OK\r\nContent-Length: 2\r\n\r\n".toList
  let fields := ["md5sum=".toList ++ serviceMd5, "type=".toList ++ serviceType].flatMap
    fun field => frame (Text.utf8 field)
  [.time 0, .time 0, .done (.ok ()), .address (.ok { ip := .v4 167772161, port := 11311 })] ++
    -- The request is taken in two pieces, and the header of the answer comes byte by byte.
    writeAnswers [100, 235] ++ readAnswers (head.utf8.map fun byte => [byte]) ++
    readAnswers [[60, 62]] ++ [.time 0, .done (.ok ())] ++ writeAnswers [4, 159] ++
    readAnswers [Stream.littleEndian 4 fields.length, fields] ++ writeAnswers [4, 29] ++
    readAnswers reply

end Scout.Wifi
