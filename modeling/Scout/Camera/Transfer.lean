import Scout.Camera.Growth
import Scout.Camera.Reading

/-! A client receives whole published frames only, each as the answer to its own request. -/

namespace Scout

/-- What a list of answers, the latest first, amounts to on the wire. -/
def recordBytes (given : List (Nat × Bytes)) : Bytes :=
  (given.reverse.map fun answer => cameraRecord answer.2).flatten

/-- The latest answer comes last on the wire. -/
theorem recordBytes_cons (latest : Nat × Bytes) (older : List (Nat × Bytes)) :
    recordBytes (latest :: older) = recordBytes older ++ cameraRecord latest.2 := by
  -- Reversing puts the latest answer at the end.
  simp [recordBytes]

/-- What the answers given on a connection and the bytes received on it say about a phase. -/
def ReadJpegPhase.Awaits (asked : Nat) (received : Bytes) (given : List (Nat × Bytes)) :
    ReadJpegPhase → Prop
  -- Within a response, all earlier ones have been received in full.
  | .header part => ∃ older, older.length + 1 = asked ∧
      (given = older ∨ ∃ latest, given = latest :: older) ∧ received = recordBytes older ++ part
  | .payload length part => ∃ latest older, given = latest :: older ∧ older.length + 1 = asked ∧
      length = latest.2.length ∧
      received = recordBytes older ++ (Stream.bigEndian 4 latest.2.length ++ part)
  | _ => given.length = asked ∧ received = recordBytes given

/-- How many requests a phase has sent without their whole answers. -/
def ReadJpegPhase.outstanding : ReadJpegPhase → Nat
  | .header _ => 1
  | .payload _ _ => 1
  | _ => 0

/-- A call returned an image. -/
def CameraCall.Returned (call : CameraCall) : Prop :=
  ∃ jpeg, call.result = .returned jpeg

/-- A call returned the answer to its own request, or raised for another reason than a refusal. -/
def CameraCall.Sound (history : List CameraHappening) (call : CameraCall) : Prop :=
  call.result ≠ .refused ∧ ∀ jpeg, call.result = .returned jpeg →
    ∃ connection number, call.connection = some connection ∧ 0 < call.request ∧
      (answers connection history).reverse[call.request - 1]? = some (number, jpeg)

/-- A later call uses a newer connection, or goes on where an earlier one returned. -/
def CameraCall.Follows (later earlier : CameraCall) : Prop :=
  ∀ old ∈ earlier.connection, ∀ new ∈ later.connection,
    old < new ∨ old = new ∧ earlier.Returned ∧ (later.Returned → earlier.request < later.request)

namespace CameraLink

variable {Control : Type}

/-- What the bridge and a client's camera connection agree on. -/
structure Attuned (link : CameraLink Control) (socket : CameraSocket) : Prop where
  counted : ∃ count, link.underWay socket.connection = some count ∧
    requestCount socket.connection link.server.history + count = socket.asked
  arrived : socket.received <+: link.server.writtenOn socket.connection
  awaits : link.client.phase.Awaits socket.asked socket.received
    (answers socket.connection link.server.history)

/-- What the bridge, the client and its calls agree on. -/
structure Coupled (language : ClientLanguage) (control : Option Control)
    (link : CameraLink Control) : Prop where
  truthful : link.server.Truthful
  images : ∀ jpeg ∈ publishedFrames link.server.history, ScoutFrame.Image jpeg
  opened : ∀ connection, link.underWay connection ≠ none → connection < link.server.nextConnection
  shut : link.client.isOpen language = false →
    link.client.camera = none ∧ link.client.phase = .idle
  control : link.client.control = control
  attuned : ∀ socket, link.client.camera = some socket → Attuned link socket
  sound : ∀ call ∈ link.calls, call.Sound link.server.history
  known : ∀ call ∈ link.calls, ∀ connection ∈ call.connection,
    connection < link.server.nextConnection
  settled : ∀ call ∈ link.calls, ∀ old ∈ call.connection, ∀ socket,
    link.client.camera = some socket → old < socket.connection ∨ old = socket.connection ∧
      call.Returned ∧ call.request + link.client.phase.outstanding ≤ socket.asked
  ordered : link.calls.Pairwise CameraCall.Follows
  dropped : ∀ call, link.calls.head? = some call → ¬ call.Returned → link.client.phase = .idle →
    link.client.camera = none
  unconnected : link.client.phase = .connecting → link.client.camera = none

/-- Nothing has been read at the beginning. -/
theorem coupled_start (language : ClientLanguage) (closed : Bool) (control : Option Control) :
    Coupled language control (start closed control) where
  -- Neither side has done anything.
  truthful := CameraServer.truthful_start
  images jpeg member := by simp [start, CameraServer.start, publishedFrames] at member
  opened connection works := absurd rfl works
  shut _ := ⟨rfl, rfl⟩
  control := rfl
  attuned socket opened := by simp [start, CameraClient.start] at opened
  sound call member := by simp [start] at member
  known call member := by simp [start] at member
  settled call member := by simp [start] at member
  ordered := List.Pairwise.nil
  dropped _ _ _ _ := rfl
  unconnected _ := rfl

section Server

/-- A phase that awaits answers is not disturbed by one it has asked for. -/
theorem awaits_grow {phase : ReadJpegPhase} {asked : Nat} {received : Bytes}
    {before after : List (Nat × Bytes)} (awaits : phase.Awaits asked received before)
    (grown : after = before ∨ ∃ latest, after = latest :: before)
    (bounded : after.length ≤ asked) : phase.Awaits asked received after := by
  -- Outside the wait for a header all requests have been answered.
  rcases grown with rfl | ⟨latest, rfl⟩
  · exact awaits
  · rw [List.length_cons] at bounded
    cases phase with
    | header header =>
      obtain ⟨older, length, given | ⟨last, given⟩, bytes⟩ := awaits
      · exact ⟨older, length, .inr ⟨latest, by rw [given]⟩, bytes⟩
      · rw [given, List.length_cons] at bounded
        omega
    -- The answer to the latest request has come already.
    | payload length jpeg =>
      obtain ⟨last, older, given, length, _⟩ := awaits
      rw [given, List.length_cons] at bounded
      omega
    -- Here every request has been answered, so there is none left to ask for another.
    | idle => exact absurd awaits.1 (Nat.ne_of_lt bounded)
    | connecting => exact absurd awaits.1 (Nat.ne_of_lt bounded)
    | asking => exact absurd awaits.1 (Nat.ne_of_lt bounded)

/-- A sound call stays sound when connections get further answers. -/
theorem sound_grow {before after : List CameraHappening} {call : CameraCall}
    (sound : call.Sound before)
    (grown : ∀ connection, answers connection after = answers connection before ∨
      ∃ latest, answers connection after = latest :: answers connection before) :
    call.Sound after := by
  -- Further answers come behind the one the call has received.
  refine ⟨sound.1, fun jpeg returned => ?_⟩
  obtain ⟨connection, number, used, positive, found⟩ := sound.2 jpeg returned
  refine ⟨connection, number, used, positive, ?_⟩
  rcases grown connection with same | ⟨latest, more⟩
  · rw [same]
    exact found
  · have inside := (List.getElem?_eq_some_iff.mp found).1
    rw [more, List.reverse_cons, List.getElem?_append_left inside]
    exact found

/-- A step of the bridge that accounts for the request bytes it reads keeps everything. -/
theorem Coupled.evolve {language : ClientLanguage} {control : Option Control}
    {link : CameraLink Control} (coupled : Coupled language control link) {event : CameraEvent}
    {server : CameraServer} {underWay : Connection → Option Nat}
    (taken : CameraServer.Steps link.server event server)
    (images : ∀ jpeg ∈ publishedFrames server.history, ScoutFrame.Image jpeg)
    (opened : ∀ connection, underWay connection ≠ none → link.underWay connection ≠ none)
    (delivered : ∀ connection count, link.underWay connection = some count →
      ∃ left, underWay connection = some left ∧
        requestCount connection server.history + left =
          requestCount connection link.server.history + count) :
    Coupled language control { link with server, underWay } := by
  -- Answers, written bytes and connection numbers only grow.
  have truthful := coupled.truthful.step taken
  exact {
    truthful := truthful
    images := images
    opened := fun connection works =>
      Nat.lt_of_lt_of_le (coupled.opened connection (opened connection works))
        taken.nextConnection_le
    shut := coupled.shut
    control := coupled.control
    attuned := by
      intro socket used
      obtain ⟨⟨count, under, counted⟩, arrived, awaits⟩ := coupled.attuned socket used
      obtain ⟨left, still, balance⟩ := delivered socket.connection count under
      have counted : requestCount socket.connection server.history + left = socket.asked :=
        balance.trans counted
      refine ⟨⟨left, still, counted⟩,
        arrived.trans (taken.writtenOn_prefix coupled.truthful socket.connection), ?_⟩
      -- The bridge never answers more often than it was asked.
      refine awaits_grow awaits (taken.answers_grow socket.connection) ?_
      have answered := ((truthful.genuine socket.connection).alternating _ (List.suffix_refl _)).1
      exact answered.trans (counted ▸ Nat.le_add_right _ _)
    sound := fun call member => sound_grow (coupled.sound call member) taken.answers_grow
    known := fun call member connection used =>
      Nat.lt_of_lt_of_le (coupled.known call member connection used) taken.nextConnection_le
    settled := coupled.settled
    ordered := coupled.ordered
    dropped := coupled.dropped
    unconnected := coupled.unconnected }

end Server

section Client

variable {language : ClientLanguage} {control : Option Control} {link : CameraLink Control}
  {client : CameraClient Control}

/-- What is written on a connection belongs to the answers it has been given. -/
theorem writtenOn_prefix_recordBytes {server : CameraServer} (truthful : server.Truthful)
    (connection : Connection) :
    server.writtenOn connection <+: recordBytes (answers connection server.history) := by
  -- Without a worker nothing has been written.
  unfold CameraServer.writtenOn
  cases works : server.workers connection with
  | none => exact List.nil_prefix
  | some worker => exact (truthful.accounts connection worker works).written

/-- A complete header is that of the answer to the latest request. -/
theorem header_complete {asked : Nat} {received header chunk : Bytes} {given : List (Nat × Bytes)}
    (awaits : (ReadJpegPhase.header header).Awaits asked received given)
    (arrived : received ++ chunk <+: recordBytes given) (complete : (header ++ chunk).length = 4) :
    ∃ latest older, given = latest :: older ∧ older.length + 1 = asked ∧
      header ++ chunk = Stream.bigEndian 4 latest.2.length ∧
      received ++ chunk = recordBytes older ++ (header ++ chunk) := by
  -- Without another answer there would be no bytes beyond those of the earlier ones.
  obtain ⟨older, length, rfl | ⟨latest, rfl⟩, rfl⟩ := awaits
  · have longer := arrived.length_le
    simp only [List.length_append] at longer complete
    omega
  · rw [recordBytes_cons, List.append_assoc, List.prefix_append_right_inj, cameraRecord] at arrived
    have width := Stream.bigEndian_length 4 latest.2.length
    refine ⟨latest, older, rfl, length, ?_, List.append_assoc _ _ _⟩
    -- Four bytes of the latest record are its header.
    rw [List.prefix_iff_eq_take, complete, List.take_left' width] at arrived
    exact arrived

/-- A complete image is the answer to the latest request. -/
theorem payload_complete {asked length : Nat} {received jpeg chunk : Bytes}
    {given : List (Nat × Bytes)}
    (awaits : (ReadJpegPhase.payload length jpeg).Awaits asked received given)
    (arrived : received ++ chunk <+: recordBytes given)
    (complete : (jpeg ++ chunk).length = length) :
    ∃ latest older, given = latest :: older ∧ older.length + 1 = asked ∧
      jpeg ++ chunk = latest.2 ∧ received ++ chunk = recordBytes given := by
  -- What has arrived lies within the latest record, and its length is the record's.
  obtain ⟨latest, older, rfl, count, same, rfl⟩ := awaits
  have bytes : recordBytes older ++ (Stream.bigEndian 4 latest.2.length ++ jpeg) ++ chunk =
      recordBytes older ++ (Stream.bigEndian 4 latest.2.length ++ (jpeg ++ chunk)) := by
    simp only [List.append_assoc]
  rw [bytes, recordBytes_cons, List.prefix_append_right_inj, cameraRecord,
    List.prefix_append_right_inj] at arrived
  have equal : jpeg ++ chunk = latest.2 := arrived.eq_of_length (complete.trans same)
  refine ⟨latest, older, rfl, count, equal, ?_⟩
  rw [bytes, equal, recordBytes_cons, cameraRecord]

/-- Going on within a call keeps everything if the camera connection stays in tune. -/
theorem Coupled.advance (coupled : Coupled language control link)
    {underWay : Connection → Option Nat}
    (kept : client.control = link.client.control ∧
      client.isOpen language = link.client.isOpen language)
    (ready : link.client.isOpen language = true) (busy : client.phase ≠ .idle)
    (opened : ∀ connection, underWay connection ≠ none →
      connection < link.server.nextConnection)
    (attuned : ∀ socket, client.camera = some socket →
      Attuned { link with client, underWay } socket)
    (settled : ∀ call ∈ link.calls, ∀ old ∈ call.connection, ∀ socket,
      client.camera = some socket → old < socket.connection ∨ old = socket.connection ∧
        call.Returned ∧ call.request + client.phase.outstanding ≤ socket.asked)
    (unconnected : client.phase = .connecting → client.camera = none) :
    Coupled language control { link with client, underWay } where
  -- The server and the calls that have ended stay as they are.
  truthful := coupled.truthful
  images := coupled.images
  opened := opened
  shut shut := absurd (kept.2.symm.trans shut) (by simp [ready])
  control := kept.1.trans coupled.control
  attuned := attuned
  sound := coupled.sound
  known := coupled.known
  settled := settled
  ordered := coupled.ordered
  dropped _ _ _ idle := absurd idle busy
  unconnected := unconnected

/-- Ending a call keeps everything if the call itself is sound and comes after the others. -/
theorem Coupled.ended (coupled : Coupled language control link) {call : CameraCall}
    (kept : client.control = link.client.control ∧
      client.isOpen language = link.client.isOpen language)
    (shut : link.client.isOpen language = false → client.camera = none)
    (idle : client.phase = .idle)
    (attuned : ∀ socket, client.camera = some socket → Attuned { link with client } socket)
    (sound : call.Sound link.server.history)
    (known : ∀ connection ∈ call.connection, connection < link.server.nextConnection)
    (settled : ∀ other ∈ call :: link.calls, ∀ old ∈ other.connection, ∀ socket,
      client.camera = some socket → old < socket.connection ∨ old = socket.connection ∧
        other.Returned ∧ other.request ≤ socket.asked)
    (follows : ∀ earlier ∈ link.calls, call.Follows earlier)
    (dropped : ¬ call.Returned → client.camera = none) :
    Coupled language control { link with client, calls := call :: link.calls } where
  -- The call that ends follows all those that have ended before.
  truthful := coupled.truthful
  images := coupled.images
  opened := coupled.opened
  shut closed := ⟨shut (kept.2.symm.trans closed), idle⟩
  control := kept.1.trans coupled.control
  attuned socket opened :=
    ⟨(attuned socket opened).counted, (attuned socket opened).arrived, (attuned socket opened).awaits⟩
  sound := List.forall_mem_cons.mpr ⟨sound, coupled.sound⟩
  known := List.forall_mem_cons.mpr ⟨known, coupled.known⟩
  settled := by
    have nothing : client.phase.outstanding = 0 := by rw [idle]; rfl
    simpa only [nothing, Nat.add_zero] using settled
  ordered := List.pairwise_cons.mpr ⟨follows, coupled.ordered⟩
  dropped other first raised _ := by
    simp only [List.head?_cons, Option.some.injEq] at first
    exact dropped (first ▸ raised)
  unconnected connecting := by simp [idle] at connecting

/-- A call that fails on its way drops the camera connection and is the last one on it. -/
theorem Coupled.raise (coupled : Coupled language control link) {result : ReadJpegResult}
    (failed : result ≠ .refused) (raised : ∀ jpeg, result ≠ .returned jpeg) :
    Coupled language control { link with
      client := { link.client with camera := none, phase := .idle }
      calls := {
        connection := link.client.camera.map CameraSocket.connection
        request := (link.client.camera.map CameraSocket.asked).getD 0
        result } :: link.calls } := by
  -- The camera connection is gone, so only the order of the calls needs an argument.
  have used : ∀ connection ∈ link.client.camera.map CameraSocket.connection,
      ∃ socket, link.client.camera = some socket ∧ socket.connection = connection := by
    intro connection member
    exact Option.map_eq_some_iff.mp member
  refine coupled.ended ⟨rfl, rfl⟩ (fun _ => rfl) rfl (fun socket opened => ?_)
    ⟨failed, fun jpeg returned => absurd returned (raised jpeg)⟩ (fun connection member => ?_)
    (fun _ _ _ _ socket opened => ?_) (fun earlier member old among new now => ?_) (fun _ => rfl)
  · -- There is no connection any more that anything would have to hold of.
    cases opened
  · obtain ⟨socket, opened, rfl⟩ := used connection member
    obtain ⟨count, under, _⟩ := (coupled.attuned socket opened).counted
    exact coupled.opened socket.connection (by simp [under])
  · cases opened
  · -- Earlier calls used older connections, or returned on this one.
    obtain ⟨socket, opened, rfl⟩ := used new now
    rcases coupled.settled earlier member old among socket opened with below | ⟨same, done, _⟩
    · exact .inl below
    · exact .inr ⟨same, done, fun ⟨jpeg, returned⟩ => absurd returned (raised jpeg)⟩

/-- A client that is within a call lets calls begin. -/
theorem Coupled.ready (coupled : Coupled language control link)
    (busy : link.client.phase ≠ .idle) : link.client.isOpen language = true := by
  -- A client that does not is always idle.
  by_contra shut
  exact busy (coupled.shut (Bool.eq_false_iff.mpr shut)).2

/-- The latest answer on a connection is a whole image, whose length fits the header. -/
theorem Coupled.latest (coupled : Coupled language control link) {connection : Connection}
    {latest : Nat × Bytes} {older : List (Nat × Bytes)}
    (given : answers connection link.server.history = latest :: older) :
    ScoutFrame.Image latest.2 ∧ latest.2.length < 2 ^ 32 := by
  -- It was published under its number.
  obtain ⟨_, found, fits⟩ := (coupled.truthful.genuine connection).numbered latest
    (given ▸ List.mem_cons_self)
  exact ⟨coupled.images _ (List.mem_reverse.mp (List.mem_of_getElem? found)), fits⟩

/-- Going on with the same request on the same connection keeps everything. -/
theorem Coupled.carryOn (coupled : Coupled language control link) {socket : CameraSocket}
    {chunk : Bytes} (used : link.client.camera = some socket)
    (arrived : socket.received ++ chunk <+: link.server.writtenOn socket.connection)
    {phase : ReadJpegPhase} (busy : phase ≠ .idle) (connected : phase ≠ .connecting)
    (was : link.client.phase ≠ .idle)
    (outstanding : phase.outstanding ≤ link.client.phase.outstanding)
    (awaits : phase.Awaits socket.asked (socket.received ++ chunk)
      (answers socket.connection link.server.history)) :
    Coupled language control { link with client := { link.client.receive chunk with phase } } := by
  -- Only what has been received on the connection grows.
  have reached : ∀ other, (link.client.receive chunk).camera = some other →
      { socket with received := socket.received ++ chunk } = other := by
    intro other same
    simpa only [CameraClient.receive, used, Option.map_some, Option.some.injEq] using same
  refine coupled.advance ⟨rfl, rfl⟩ (coupled.ready was) busy coupled.opened ?_ ?_
    (fun same => absurd same connected)
  · intro other same
    -- The bytes are those that the bridge has written.
    cases reached other same
    exact ⟨(coupled.attuned socket used).counted, arrived, awaits⟩
  · intro call member old among other same
    cases reached other same
    -- No request has been added to those outstanding.
    refine (coupled.settled call member old among socket used).imp id ?_
    exact fun ⟨equal, done, room⟩ =>
      ⟨equal, done, (Nat.add_le_add_left outstanding _).trans room⟩

/-- Receiving the last bytes of an image ends the call with the image. -/
theorem Coupled.finish (coupled : Coupled language control link) {socket : CameraSocket}
    {chunk jpeg : Bytes} {length : Nat} (used : link.client.camera = some socket)
    (arrived : socket.received ++ chunk <+: link.server.writtenOn socket.connection)
    (was : link.client.phase = .payload length jpeg)
    (complete : (jpeg ++ chunk).length = length) :
    Coupled language control { link with
      client := { link.client.receive chunk with phase := .idle }
      calls := {
        connection := link.client.camera.map CameraSocket.connection
        request := (link.client.camera.map CameraSocket.asked).getD 0
        result := .returned (jpeg ++ chunk) } :: link.calls } := by
  -- The image is the answer to the latest request, and all earlier calls were settled before.
  have tuned := coupled.attuned socket used
  have within := arrived.trans (writtenOn_prefix_recordBytes coupled.truthful socket.connection)
  obtain ⟨latest, older, given, count, equal, bytes⟩ :=
    payload_complete (was ▸ tuned.awaits) within complete
  have after : ∀ reached, ({ link.client.receive chunk with phase := .idle } :
      CameraClient Control).camera = some reached →
      reached = { socket with received := socket.received ++ chunk } := by
    intro reached same
    simpa [CameraClient.receive, used, eq_comm] using same
  have opened : socket.connection < link.server.nextConnection := by
    obtain ⟨count, under, _⟩ := tuned.counted
    exact coupled.opened socket.connection (by simp [under])
  have earlier : ∀ call ∈ link.calls, ∀ old ∈ call.connection, old < socket.connection ∨
      old = socket.connection ∧ call.Returned ∧ call.request + 1 ≤ socket.asked := by
    intro call member old among
    have settled := coupled.settled call member old among socket used
    rwa [was] at settled
  rw [used]
  refine coupled.ended ⟨rfl, rfl⟩ ?_ rfl ?_ ?_ ?_ ?_ ?_ ?_
  · -- A client in the middle of a call is open.
    intro shut
    rw [coupled.ready (by simp [was])] at shut
    cases shut
  · intro reached same
    rw [after reached same]
    exact ⟨tuned.counted, arrived, by rw [given, List.length_cons, count], bytes⟩
  · -- The call has returned the answer that its request was given.
    refine ⟨by simp, fun image returned => ?_⟩
    simp only [ReadJpegResult.returned.injEq] at returned
    refine ⟨socket.connection, latest.1, rfl, ?_, ?_⟩
    · show 0 < socket.asked
      omega
    · show (answers socket.connection link.server.history).reverse[socket.asked - 1]? = _
      rw [given, ← returned, equal, ← count, Nat.add_sub_cancel, List.reverse_cons,
        List.getElem?_append_right (by simp), List.length_reverse, Nat.sub_self]
      rfl
  · intro connection same
    cases same
    exact opened
  · intro other member old among reached same
    rw [after reached same]
    -- The call itself used the connection that is kept, and the earlier ones come before it.
    rcases List.mem_cons.mp member with rfl | member
    · cases among
      exact .inr ⟨rfl, ⟨_, rfl⟩, Nat.le_refl _⟩
    · refine (earlier other member old among).imp id ?_
      exact fun ⟨equal, done, room⟩ => ⟨equal, done, Nat.le_of_succ_le room⟩
  · intro other member old among new now
    cases now
    refine (earlier other member old among).imp id ?_
    exact fun ⟨equal, done, room⟩ => ⟨equal, done, fun _ => room⟩
  · intro raised
    exact absurd ⟨_, rfl⟩ raised

/-- Reading bytes that were written for the client keeps everything. -/
theorem Coupled.receive (coupled : Coupled language control link) {socket : CameraSocket}
    {chunk : Bytes} {result : Option ReadJpegResult} (used : link.client.camera = some socket)
    (arrived : socket.received ++ chunk <+: link.server.writtenOn socket.connection)
    (read : CameraClient.Reads language link.client (.received chunk) client result) :
    Coupled language control { link with
      client
      calls := (result.map fun result => {
        connection := link.client.camera.map CameraSocket.connection
        request := (link.client.camera.map CameraSocket.asked).getD 0
        result }).toList ++ link.calls } := by
  -- The bytes continue the latest answer, which is a whole image that both checks let through.
  have tuned := coupled.attuned socket used
  have within := arrived.trans (writtenOn_prefix_recordBytes coupled.truthful socket.connection)
  cases read with
  | fail was => exact coupled.raise (by simp) (by simp)
  | @header header chunk was short =>
    -- The header is still incomplete.
    have awaits := tuned.awaits
    rw [was] at awaits
    obtain ⟨older, length, given, bytes⟩ := awaits
    refine coupled.carryOn used arrived (by simp) (by simp) (by simp [was])
      (by simp [was, ReadJpegPhase.outstanding]) ?_
    exact ⟨older, length, given, by rw [bytes, List.append_assoc]⟩
  | @length header chunk was complete accepted =>
    obtain ⟨latest, older, given, count, equal, bytes⟩ :=
      header_complete (was ▸ tuned.awaits) within complete
    refine coupled.carryOn used arrived (by simp) (by simp) (by simp [was])
      (by simp [was, ReadJpegPhase.outstanding]) ?_
    refine ⟨latest, older, given, count, ?_, ?_⟩
    · rw [equal, language.decodeLength_bigEndian (coupled.latest given).2]
    · rw [bytes, equal, List.append_nil]
  | @badLength header chunk was complete refused =>
    -- The length of an image is accepted.
    obtain ⟨latest, older, given, count, equal, bytes⟩ :=
      header_complete (was ▸ tuned.awaits) within complete
    rw [equal, language.decodeLength_bigEndian (coupled.latest given).2,
      language.acceptsLength_image (coupled.latest given).1] at refused
    cases refused
  | @payload length jpeg chunk was short =>
    -- The image is still incomplete.
    have awaits := tuned.awaits
    rw [was] at awaits
    obtain ⟨latest, older, given, count, same, bytes⟩ := awaits
    refine coupled.carryOn used arrived (by simp) (by simp) (by simp [was])
      (by simp [was, ReadJpegPhase.outstanding]) ?_
    exact ⟨latest, older, given, count, same, by simp only [bytes, List.append_assoc]⟩
  | @badJpeg length jpeg chunk was complete refused =>
    -- An image has its markers.
    obtain ⟨latest, older, given, count, equal, bytes⟩ :=
      payload_complete (was ▸ tuned.awaits) within complete
    rw [equal, language.acceptsJpeg_image (coupled.latest given).1] at refused
    cases refused
  | @finish length jpeg chunk was complete accepted =>
    exact coupled.finish used arrived was complete

/-- An effect of the client is one of the listed ones, and its result is noted. -/
theorem runClient_reads {input : ReadJpegInput} {next : CameraLink Control}
    (taken : link.runClient language input = some next) :
    ∃ client result, CameraClient.Reads language link.client input client result ∧
      next = { link with
        client
        calls := (result.map fun result => {
          connection := link.client.camera.map CameraSocket.connection
          request := (link.client.camera.map CameraSocket.asked).getD 0
          result }).toList ++ link.calls } := by
  -- The client's function decides.
  obtain ⟨⟨client, result⟩, read, rfl⟩ := Option.map_eq_some_iff.mp taken
  exact ⟨client, result, CameraClient.readJpeg_reads read, rfl⟩

/-- Beginning a call keeps everything. -/
theorem Coupled.call (coupled : Coupled language control link) {next : CameraLink Control}
    (taken : link.runClient language .call = some next) : Coupled language control next := by
  -- A closed client refuses, and an open one connects or asks on the connection it has.
  obtain ⟨client, result, read, rfl⟩ := runClient_reads taken
  cases read with
  | fail was => exact coupled.raise (by simp) (by simp)
  | refuse was shut =>
    -- A closed client has no connection, and the refusal names none.
    have none := (coupled.shut shut).1
    rw [none]
    refine coupled.ended ⟨rfl, rfl⟩ (fun _ => none) was coupled.attuned ⟨by simp, by simp⟩ ?_ ?_
      ?_ (fun _ => none)
    · intro connection member
      cases member
    · intro other member old among socket opened
      rw [none] at opened
      cases opened
    · intro earlier member old among new now
      cases now
  | @begin phase was ready next =>
    refine coupled.advance ⟨rfl, rfl⟩ ready ?_ coupled.opened ?_ ?_ ?_
    · -- Either way the call is under way.
      rcases next with ⟨rfl, _⟩ | ⟨rfl, _⟩ <;> simp
    · intro socket opened
      obtain ⟨counted, arrived, awaits⟩ := coupled.attuned socket opened
      rw [was] at awaits
      refine ⟨counted, arrived, ?_⟩
      rcases next with ⟨rfl, _⟩ | ⟨rfl, _⟩ <;> exact awaits
    · intro call member old among socket opened
      have settled := coupled.settled call member old among socket opened
      rw [was] at settled
      rcases next with ⟨rfl, _⟩ | ⟨rfl, _⟩ <;> exact settled
    · -- Only a client without a connection connects.
      rcases next with ⟨rfl, none⟩ | ⟨rfl, _⟩
      · exact fun _ => none
      · simp

/-- Connecting keeps everything: the connection is new to both sides. -/
theorem Coupled.connect (coupled : Coupled language control link) {server : CameraServer}
    {next : CameraLink Control} (connected : link.server.step .connect = some server)
    (taken : ({ link with
      server
      underWay := Function.update link.underWay link.server.nextConnection (some 0) } :
        CameraLink Control).runClient language (.connected link.server.nextConnection) = some next) :
    Coupled language control next := by
  -- The bridge first counts the connection, and nobody has used its number before.
  have steps := CameraServer.step_steps connected
  have same : ∀ connection, requestCount connection server.history =
      requestCount connection link.server.history := fun connection =>
    (steps.requestCount_eq connection).trans (by simp)
  have unused : link.server.workers link.server.nextConnection = none :=
    coupled.truthful.idle_of_waiting List.mem_cons_self
  have silent := coupled.truthful.silent _ unused
  have fresh : link.underWay link.server.nextConnection = none := by
    by_contra opened
    exact Nat.lt_irrefl _ (coupled.opened _ opened)
  -- To the bridge it is the arrival of any client.
  have evolved : Coupled language control { link with server } :=
    coupled.evolve steps (by rw [steps.publishedFrames_eq (by simp)]; exact coupled.images)
      (fun _ opened => opened)
      (fun connection count under => ⟨count, under, by rw [same]⟩)
  obtain ⟨client, result, read, rfl⟩ := runClient_reads taken
  cases connected
  have opened : ∀ connection,
      Function.update link.underWay link.server.nextConnection (some 0) connection ≠ none →
        connection < link.server.nextConnection + 1 := by
    intro connection works
    by_cases own : connection = link.server.nextConnection
    · exact own ▸ Nat.lt_succ_self _
    · rw [Function.update_of_ne own] at works
      exact Nat.lt_succ_of_lt (coupled.opened connection works)
  -- A connection the client may still have is another one.
  have other : ∀ socket, link.client.camera = some socket →
      socket.connection ≠ link.server.nextConnection := by
    intro socket used equal
    obtain ⟨count, under, _⟩ := (coupled.attuned socket used).counted
    rw [equal, fresh] at under
    cases under
  have whole : Coupled language control ({ link with
      server := { link.server with
        backlog := link.server.backlog ++ [link.server.nextConnection]
        nextConnection := link.server.nextConnection + 1 }
      underWay := Function.update link.underWay link.server.nextConnection (some 0) }) :=
    { evolved with
      opened := opened
      attuned := fun socket used => by
        obtain ⟨⟨count, under, counted⟩, arrived, awaits⟩ := evolved.attuned socket used
        refine ⟨⟨count, ?_, counted⟩, arrived, awaits⟩
        rw [← under]
        exact Function.update_of_ne (other socket used) _ _ }
  cases read with
  | fail was => exact whole.raise (by simp) (by simp)
  | connect was =>
    -- Nothing has been asked or answered on the new connection.
    refine whole.advance ⟨rfl, rfl⟩ ?_ (by simp) opened ?_ ?_ (by simp)
    · by_contra shut
      have idle := (coupled.shut (Bool.eq_false_iff.mpr shut)).2
      rw [idle] at was
      cases was
    · intro socket used
      cases used
      refine ⟨⟨0, Function.update_self _ _ _, ?_⟩, List.nil_prefix, ?_, ?_⟩
      · exact (same _).trans silent.2
      · show (answers link.server.nextConnection link.server.history).length = 0
        rw [silent.1]
        rfl
      · show [] = recordBytes (answers link.server.nextConnection link.server.history)
        rw [silent.1]
        rfl
    · intro call member old among socket used
      cases used
      exact .inl (coupled.known call member old among)

/-- Sending a request byte keeps everything: one more is under way and outstanding. -/
theorem Coupled.send (coupled : Coupled language control link) {socket : CameraSocket}
    (used : link.client.camera = some socket) {next : CameraLink Control}
    (taken : ({ link with
      underWay := Function.update link.underWay socket.connection
        ((link.underWay socket.connection).map (· + 1)) } : CameraLink Control).runClient language
          .sent = some next) : Coupled language control next := by
  -- All earlier requests have been answered when the next one is sent.
  obtain ⟨client, result, read, rfl⟩ := runClient_reads taken
  obtain ⟨⟨count, under, counted⟩, arrived, awaits⟩ := coupled.attuned socket used
  have opened : ∀ connection, Function.update link.underWay socket.connection
      ((link.underWay socket.connection).map (· + 1)) connection ≠ none →
        connection < link.server.nextConnection := by
    intro connection works
    refine coupled.opened connection fun nothing => works ?_
    by_cases own : connection = socket.connection
    · subst own
      rw [Function.update_self, nothing]
      rfl
    · rw [Function.update_of_ne own, nothing]
  cases read with
  | fail was =>
    -- A failure drops the connection, whatever is under way on it.
    have failed : ReadJpegResult.failed ≠ .refused := by simp
    exact { coupled.raise failed (by simp) with
      opened := opened
      attuned := fun socket used => by cases used }
  | ask was =>
    -- One more is under way, and one more has been asked for.
    rw [was] at awaits
    have after : ∀ reached, ({ link.client.ask with phase := .header [] } :
        CameraClient Control).camera = some reached →
        reached = { socket with asked := socket.asked + 1 } := by
      intro reached same
      simpa [CameraClient.ask, used, eq_comm] using same
    refine coupled.advance ⟨rfl, rfl⟩
      ?_ (by simp) opened ?_ ?_ (by simp)
    · by_contra shut
      have idle := (coupled.shut (Bool.eq_false_iff.mpr shut)).2
      rw [idle] at was
      cases was
    · intro reached same
      rw [after reached same]
      refine ⟨⟨count + 1, ?_, ?_⟩, arrived, _, congrArg (· + 1) awaits.1, .inl rfl, ?_⟩
      · show Function.update link.underWay socket.connection
          ((link.underWay socket.connection).map (· + 1)) socket.connection = some (count + 1)
        rw [Function.update_self, under]
        rfl
      · show requestCount socket.connection link.server.history + (count + 1) = socket.asked + 1
        omega
      · rw [List.append_nil]
        exact awaits.2
    · intro call member old among reached same
      rw [after reached same]
      have settled := coupled.settled call member old among socket used
      rw [was] at settled
      refine settled.imp id ?_
      exact fun ⟨equal, done, room⟩ => ⟨equal, done, Nat.succ_le_succ room⟩

/-- A step of the bridge or of another client keeps everything. -/
theorem Coupled.server (coupled : Coupled language control link) {event : CameraEvent}
    {next : CameraLink Control} (taken : link.runServer event = some next) :
    Coupled language control next := by
  -- A request byte that is read on one of the client's connections was under way there.
  unfold runServer at taken
  cases stepped : link.server.step event with
  | none => simp [stepped] at taken
  | some server =>
    simp only [stepped] at taken
    have steps := CameraServer.step_steps stepped
    -- Other events than a publication or such a read change neither frames nor requests.
    have quiet : (∀ jpeg, event ≠ .publish jpeg) →
        (∀ connection, link.underWay connection ≠ none →
          event ≠ .worker connection (.read (.data [cameraRequest]))) →
        Coupled language control { link with server } := by
      intro other silent
      refine coupled.evolve steps (by rw [steps.publishedFrames_eq other]; exact coupled.images)
        (fun _ opened => opened) (fun connection count under => ⟨count, under, ?_⟩)
      rw [steps.requestCount_eq, if_neg (silent connection (by simp [under])), Nat.add_zero]
    split at taken
    · -- Publications come from the camera topic only.
      cases taken
    · rename_i _ owner bytes
      unfold deliver at taken
      split at taken
      · -- The connection is another client's.
        rename_i free
        cases taken
        refine quiet (by simp) fun connection opened same => opened ?_
        simp only [CameraEvent.worker.injEq] at same
        exact same.1 ▸ free
      · cases taken
        -- The read reports no bytes.
        exact quiet (by simp) (by simp)
      · rename_i count byte under
        -- The byte is the next one the client has sent.
        by_cases own : byte = cameraRequest
        · rw [if_pos own] at taken
          cases taken
          subst own
          refine coupled.evolve steps
            (by rw [steps.publishedFrames_eq (by simp)]; exact coupled.images)
            (fun connection opened => ?_) (fun connection total there => ?_)
          · by_cases same : connection = owner
            · subst same
              simp only at under
              simp [under]
            · rwa [Function.update_of_ne same] at opened
          · -- What is no longer under way has been counted.
            rw [steps.requestCount_eq]
            by_cases same : connection = owner
            · subst same
              simp only at under
              rw [under, Option.some.injEq] at there
              refine ⟨count, Function.update_self _ _ _, ?_⟩
              rw [if_pos rfl]
              omega
            · refine ⟨total, (Function.update_of_ne same _ _).trans there, ?_⟩
              rw [if_neg (by simpa using fun equal => same equal.symm), Nat.add_zero]
        · rw [if_neg own] at taken
          cases taken
      · cases taken
    · -- Any other event is quiet.
      rename_i loud
      cases taken
      refine quiet (fun jpeg same => ?_) (fun connection _ same => ?_)
      · subst same
        simp_all
      · subst same
        simp_all

/-- A message of the camera topic keeps everything: only images are published. -/
theorem Coupled.message (coupled : Coupled language control link) {message : Bytes}
    {next : CameraLink Control} (taken : link.step language (.message message) = some next) :
    Coupled language control next := by
  -- A frame that passes the filter is published, and any other message is ignored.
  unfold CameraLink.step at taken
  cases passed : ScoutFrame.forwarded message with
  | none =>
    simp only [passed, Option.some.injEq] at taken
    exact taken ▸ coupled
  | some jpeg =>
    simp only [passed] at taken
    obtain ⟨server, stepped, rfl⟩ := Option.map_eq_some_iff.mp taken
    have steps := CameraServer.step_steps stepped
    refine coupled.evolve steps ?_ (fun _ opened => opened)
      (fun connection count under => ⟨count, under, ?_⟩)
    · cases stepped
      intro image member
      rcases List.mem_cons.mp member with rfl | member
      · exact ScoutFrame.image_of_forwarded passed
      · exact coupled.images image member
    · rw [steps.requestCount_eq, if_neg (by simp), Nat.add_zero]

/-- Every step keeps everything. -/
theorem Coupled.step (coupled : Coupled language control link) {event : CameraLinkEvent}
    {next : CameraLink Control} (taken : link.step language event = some next) :
    Coupled language control next := by
  -- The cases follow the events.
  cases event with
  | message message => exact coupled.message taken
  | server event => exact coupled.server taken
  | call => exact coupled.call taken
  | connect =>
    unfold CameraLink.step at taken
    obtain ⟨server, connected, taken⟩ := Option.bind_eq_some_iff.mp taken
    exact coupled.connect connected taken
  | send =>
    unfold CameraLink.step at taken
    obtain ⟨socket, used, taken⟩ := Option.bind_eq_some_iff.mp taken
    exact coupled.send used taken
  | receive count =>
    unfold CameraLink.step at taken
    obtain ⟨socket, used, taken⟩ := Option.bind_eq_some_iff.mp taken
    simp only at taken
    split at taken
    · -- The client takes the next of the bytes that were written for it.
      obtain ⟨client, result, read, rfl⟩ := runClient_reads taken
      obtain ⟨rest, whole⟩ := (coupled.attuned socket used).arrived
      refine coupled.receive used ?_ read
      rw [← whole, List.drop_left, List.prefix_append_right_inj]
      exact List.take_prefix _ _
    · cases taken
  | close =>
    obtain ⟨⟨client, result⟩, read, rfl⟩ := Option.map_eq_some_iff.mp taken
    obtain ⟨rfl, rfl⟩ := CameraClient.readJpeg_close read
    exact coupled.raise (by simp) (by simp)
  | fail =>
    obtain ⟨client, result, read, rfl⟩ := runClient_reads taken
    cases read with
    | fail was => exact coupled.raise (by simp) (by simp)

end Client

/-- Every call returns the answer to its own request or drops its connection. -/
theorem camera_transfer {Control : Type} (language : ClientLanguage) (closed : Bool)
    (control : Option Control) {events : List CameraLinkEvent} {link : CameraLink Control}
    (ran : Machine.run (CameraLink.step language) (CameraLink.start closed control) events =
      some link) :
    (∀ call ∈ link.calls, ∀ jpeg, call.result = .returned jpeg →
      ∃ connection number, call.connection = some connection ∧ 0 < call.request ∧
        (answers connection link.server.history).reverse[call.request - 1]? =
          some (number, jpeg) ∧
        0 < number ∧ (publishedFrames link.server.history).reverse[number - 1]? = some jpeg) ∧
    link.calls.Pairwise CameraCall.Follows ∧
    (∀ call, link.calls.head? = some call → ¬ call.Returned → link.client.phase = .idle →
      link.client.camera = none) ∧
    link.client.control = control ∧
    (∀ call ∈ link.calls, call.result ≠ .refused) ∧
    (∀ message jpeg, ScoutFrame.forwarded message = some jpeg →
      language.reader.acceptsLength
        (language.reader.decodeLength ((cameraRecord jpeg).take 4)) = true ∧
      (cameraRecord jpeg).drop 4 = jpeg ∧ language.reader.acceptsJpeg jpeg = true) ∧
    -- Whatever the other side sends, a call that raises drops the camera connection only.
    (∀ (before after : CameraClient Control) (input : ReadJpegInput)
      (result : Option ReadJpegResult),
      before.readJpeg language input = some (after, result) →
        after.control = before.control ∧
        (result = some .refused ∨ result = some .failed →
          after.camera = none ∧ after.phase = .idle)) := by
  -- The first half is the invariant of the run, and the second half needs no run.
  have coupled : Coupled language control link := by
    refine Machine.run_invariant (fun _ => True) (Coupled language control) ?_
      (fun _ _ => trivial) (coupled_start language closed control) ran
    intro before event after _ coupled taken
    exact coupled.step taken
  refine ⟨fun call member jpeg returned => ?_, coupled.ordered, coupled.dropped, coupled.control,
    fun call member => (coupled.sound call member).1, fun message jpeg passed => ?_,
    fun before after input result read => ?_⟩
  · obtain ⟨connection, number, used, positive, found⟩ := (coupled.sound call member).2 jpeg returned
    have given := List.mem_reverse.mp (List.mem_of_getElem? found)
    obtain ⟨counted, published, _⟩ := (coupled.truthful.genuine connection).numbered _ given
    exact ⟨connection, number, used, positive, found, counted, published⟩
  · -- What the filter lets through is accepted by both checks of the client.
    have image := ScoutFrame.image_of_forwarded passed
    have fits : jpeg.length < 2 ^ 32 := Nat.lt_of_le_of_lt image.short (by decide)
    have header := Stream.bigEndian_length 4 jpeg.length
    rw [cameraRecord, List.take_left' header, List.drop_left' header,
      language.decodeLength_bigEndian fits]
    exact ⟨language.acceptsLength_image image, rfl, language.acceptsJpeg_image image⟩
  · -- This holds of every effect of the client, also outside such runs.
    have reads := CameraClient.readJpeg_reads read
    exact ⟨reads.kept.1, reads.dropped⟩

/-- The message of a frame with the smallest image. -/
def smallestFrame : Bytes :=
  List.replicate 16 0 ++ [1] ++ List.replicate 20 0 ++ [4, 0, 0, 0, 0xff, 0xd8, 0xff, 0xd9]

/-- A run in which a call asks, waits for the first frame, and receives it in three pieces. -/
def readOnce : List CameraLinkEvent :=
  [.call, .connect, .send, .server (.listener .proceed), .server (.listener .accepted),
    .server (.listener .proceed), .server (.listener (.io true)), .server (.worker 0 (.io true)),
    .server (.worker 0 .proceed), .server (.worker 0 (.read (.data [1]))),
    .server (.worker 0 .proceed), .message smallestFrame, .server (.worker 0 .proceed),
    .server (.worker 0 (.wrote 4)), .receive 3, .receive 1, .server (.worker 0 .proceed),
    .server (.worker 0 (.wrote 4)), .receive 4]

/-- In that run the call returns the image of the frame. -/
theorem camera_transfer_readOnce :
    ∃ link, Machine.run (CameraLink.step .python) (CameraLink.start false (some ())) readOnce =
        some link ∧
      link.calls = [{ connection := some 0, request := 1, result := .returned [255, 216, 255, 217] }] ∧
      link.client.control = some () ∧
      ∃ number, (answers 0 link.server.history).reverse[0]? = some (number, [255, 216, 255, 217]) ∧
        (publishedFrames link.server.history).reverse[number - 1]? =
          some [255, 216, 255, 217] := by
  -- The run is enabled and ends with the one call.
  have played : (Machine.run (CameraLink.step .python) (CameraLink.start false (some ()))
      readOnce).any (fun link => link.calls =
        [{ connection := some 0, request := 1, result := .returned [255, 216, 255, 217] }]) =
      true := by
    decide +kernel
  obtain ⟨link, ran, ended⟩ := (Option.any_eq_true _ _).mp played
  have calls := of_decide_eq_true ended
  obtain ⟨returned, _, _, control, _⟩ := camera_transfer .python false (some ()) ran
  obtain ⟨connection, number, used, _, found, _, published⟩ :=
    returned _ (calls ▸ List.mem_cons_self) _ rfl
  cases used
  exact ⟨link, ran, calls, control, number, found, published⟩

end CameraLink
end Scout
