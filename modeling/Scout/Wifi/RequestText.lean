import Scout.Stream.Markup
import Scout.Stream.Request
import Scout.Wifi.Replies
import Scout.Wifi.Spelling

/-! The request that asks the master for the service has its parts only, whatever is put into it. -/

namespace Scout.Wifi

open Scout.Stream Machine Dialogue NetworkM NetworkEvent

/-- The parts of the request that asks the master for a service. -/
def lookupParts (master : Endpoint) (caller : Text) : Request where
  method := "POST".toList
  target := master.path
  version := "HTTP/1.0".toList
  fields := [("Host".toList, master.authority), ("Content-Type".toList, "text/xml".toList),
    ("Content-Length".toList, (toString (lookupBody caller).utf8.length).toList),
    ("Connection".toList, "close".toList)]
  body := lookupBody caller

/-- The tokens of a parameter that is a text. -/
def parameter (value : Text) : List Token :=
  [.tag "param".toList, .tag "value".toList, .tag "string".toList, .text value,
    .tag "/string".toList, .tag "/value".toList, .tag "/param".toList]

/-- The tokens of the call that asks the master for a service. -/
def lookupTokens (caller : Text) : List Token :=
  [.tag "?xml version=\"1.0\"?".toList, .tag "methodCall".toList, .tag "methodName".toList,
    .text "lookupService".toList, .tag "/methodName".toList, .tag "params".toList] ++
    parameter caller ++ parameter wifiSwitchSsidKey ++
    [.tag "/params".toList, .tag "/methodCall".toList]

section Texts

variable {master : Endpoint} {caller : Text}

/-- The request is the text of its parts. -/
theorem lookupRequest_eq_render :
    lookupRequest master caller = (lookupParts master caller).render := by
  -- The literals are cut at the ends of lines, behind the names of fields, and between words.
  have first : "POST ".toList = "POST".toList ++ [' '] := by decide +kernel
  have second : " HTTP/1.0\r\nHost: ".toList =
      [' '] ++ "HTTP/1.0".toList ++ crlf ++ "Host".toList ++ [':', ' '] := by decide +kernel
  have third : "\r\nContent-Type: text/xml\r\nContent-Length: ".toList =
      crlf ++ "Content-Type".toList ++ [':', ' '] ++ "text/xml".toList ++ crlf ++
        "Content-Length".toList ++ [':', ' '] := by decide +kernel
  have last : "\r\nConnection: close\r\n\r\n".toList =
      crlf ++ "Connection".toList ++ [':', ' '] ++ "close".toList ++ crlf ++ crlf := by
    decide +kernel
  unfold lookupRequest
  rw [first, second, third, last]
  simp only [Request.render, Request.lines, Request.requestLine, lookupParts, List.map_cons,
    List.map_nil, Request.fieldLine, List.intercalate_cons_cons, List.intercalate_singleton,
    List.append_assoc]

/-- A parameter is written as its tokens. -/
theorem renderAll_parameter (value : Text) :
    Token.renderAll (parameter value) = "<param><value><string>".toList ++ value ++
      "</string></value></param>".toList := by
  -- The literals are the tags before and behind the value.
  have before : "<param><value><string>".toList = Token.renderAll
      [.tag "param".toList, .tag "value".toList, .tag "string".toList] := by decide +kernel
  have behind : "</string></value></param>".toList = Token.renderAll
      [.tag "/string".toList, .tag "/value".toList, .tag "/param".toList] := by decide +kernel
  rw [before, behind]
  simp only [parameter, Token.renderAll, List.flatMap_cons, List.flatMap_nil, Token.render,
    List.append_assoc, List.append_nil]

/-- The call is written as its tokens. -/
theorem lookupBody_eq_renderAll : lookupBody caller = Token.renderAll (lookupTokens caller) := by
  -- The two parameters stand between the tags of the call.
  have before : "<?xml version=\"1.0\"?><methodCall><methodName>lookupService</methodName>".toList ++
      "<params><param><value><string>".toList = Token.renderAll
        [.tag "?xml version=\"1.0\"?".toList, .tag "methodCall".toList, .tag "methodName".toList,
          .text "lookupService".toList, .tag "/methodName".toList, .tag "params".toList] ++
      "<param><value><string>".toList := by decide +kernel
  have between : "</string></value></param><param><value><string>".toList =
      "</string></value></param>".toList ++ "<param><value><string>".toList := by decide +kernel
  have behind : "</string></value></param></params></methodCall>".toList =
      "</string></value></param>".toList ++
        Token.renderAll [.tag "/params".toList, .tag "/methodCall".toList] := by decide +kernel
  have split : ∀ first second, Token.renderAll (first ++ second) =
      Token.renderAll first ++ Token.renderAll second := fun _ _ => List.flatMap_append
  unfold lookupBody
  rw [before, between, behind]
  simp only [lookupTokens, split, renderAll_parameter, List.append_assoc]

end Texts

section Plainness

variable {master : Endpoint} {uri name caller : Text}

/-- A visible character neither ends a line nor is a space. -/
theorem not_mem_of_visible {text : Text} (visible : ∀ char ∈ text, IsVisible char) :
    Request.Word text := by
  -- The codes of these characters are not those of visible ones.
  have absent : ∀ char : Char, char.toNat ≤ 32 → char ∉ text := by
    intro char small member
    have bound := (visible char member).1
    omega
  exact ⟨⟨absent '\r' (by decide), absent '\n' (by decide)⟩, absent ' ' (by decide)⟩

/-- A decimal number is on a single line. -/
theorem oneLine_toString (number : Nat) : Request.OneLine (toString number).toList := by
  -- Only digits are written.
  have absent : ∀ char : Char, char.isDigit = false → char ∉ (toString number).toList := by
    intro char other member
    rw [Text.isDigit_of_mem_toString member] at other
    cases other
  exact ⟨absent '\r' rfl, absent '\n' rfl⟩

/-- The request to an accepted address is plain. -/
theorem plain_lookupParts (spelled : master.Spelled "http://".toList uri) :
    (lookupParts master caller).Plain := by
  -- Only the path, the authority and the length are not fixed.
  have path := not_mem_of_visible spelled.visible.2
  have authority := (not_mem_of_visible spelled.visible.1).1
  have length := oneLine_toString (lookupBody caller).utf8.length
  have fixed : Request.Word "POST".toList ∧ Request.Word "HTTP/1.0".toList ∧
      Request.OneLine "text/xml".toList ∧ Request.OneLine "close".toList ∧
      ∀ name ∈ ["Host".toList, "Content-Type".toList, "Content-Length".toList,
        "Connection".toList], Request.OneLine name ∧ ':' ∉ name := by
    decide +kernel
  obtain ⟨method, version, media, close, names⟩ := fixed
  refine ⟨method, path, version, fun field member => ?_, fun field member => ?_⟩
  · exact names field.1 (List.mem_map.mpr ⟨field, member, rfl⟩)
  · simp only [lookupParts, List.mem_cons, List.not_mem_nil, or_false] at member
    rcases member with rfl | rfl | rfl | rfl
    · exact authority
    · exact media
    · exact length
    · exact close

/-- An accepted name has no character that means something in marked-up text. -/
theorem unmarked_of_nameCode (codes : ∀ char ∈ caller, IsNameCode char.toNat) :
    '<' ∉ caller ∧ '>' ∉ caller ∧ '&' ∉ caller := by
  -- Their codes are not those of letters, digits, slashes and underscores.
  have absent : ∀ char : Char, ¬ IsNameCode char.toNat → char ∉ caller :=
    fun char other member => other (codes char member)
  refine ⟨absent '<' ?_, absent '>' ?_, absent '&' ?_⟩
  all_goals
    unfold IsNameCode
    decide

/-- The call with an accepted name is read back as its tokens. -/
theorem readAll_lookupBody (accepted : callerId name = .ok caller) :
    Token.readAll (lookupBody caller) = some (lookupTokens caller) := by
  -- All tags are fixed, and each text stands between two of them.
  obtain ⟨same, codes⟩ := spelled_of_callerId accepted
  have unmarked := unmarked_of_nameCode codes
  have nonempty : caller ≠ [] := by
    intro empty
    rw [same, rooted] at empty
    split at empty
    · rename_i first
      rw [empty] at first
      cases first
    · cases empty
  have begun : ∀ token ∈ [Token.tag "?xml version=\"1.0\"?".toList, .tag "methodCall".toList,
      .tag "methodName".toList, .text "lookupService".toList, .tag "/methodName".toList,
      .tag "params".toList], token.Plain := by decide +kernel
  have fixed : ∀ token ∈ parameter wifiSwitchSsidKey ++ [.tag "/params".toList,
      .tag "/methodCall".toList], token.Plain := by decide +kernel
  have filled : ∀ token ∈ parameter caller, token.Plain := by
    intro token member
    -- A parameter differs from the fixed one in its value only.
    have tags : ∀ token ∈ [Token.tag "param".toList, .tag "value".toList, .tag "string".toList,
        .tag "/string".toList, .tag "/value".toList, .tag "/param".toList], token.Plain := by
      decide +kernel
    by_cases value : token = .text caller
    · rw [value]
      exact ⟨⟨unmarked.1, unmarked.2.1⟩, nonempty⟩
    · apply tags token
      simpa [parameter, value] using member
  rw [lookupBody_eq_renderAll]
  apply Token.readAll_renderAll
  · unfold lookupTokens
    rw [List.append_assoc]
    exact List.forall_mem_append.mpr ⟨List.forall_mem_append.mpr ⟨begun, filled⟩, fixed⟩
  · simp [lookupTokens, parameter, Token.Separate]

end Plainness

section Sending

variable {request : Bytes}

/-- Nothing is handed over, and nothing is read. -/
def Silent (event : NetworkEvent) : Prop :=
  event.handed = [] ∧ ∀ stream room result, event ≠ .read stream room result

/-- What asking leaves behind: nothing but the request, all of it before anything is read. -/
def HandsOver {α : Type} (request : Bytes) (events : List NetworkEvent)
    (reply : Reply WifiProvisioningError α) : Prop :=
  handedBytes events <+: request ∧
    ((∃ stream room result, .read stream room result ∈ events) ∨ (∃ value, reply = .returned value) →
      handedBytes events = request)

/-- Silent events may come before. -/
theorem HandsOver.ignores {α : Type} {events more : List NetworkEvent}
    {reply : Reply WifiProvisioningError α} (silent : ∀ event ∈ events, Silent event)
    (handsOver : HandsOver request more reply) : HandsOver request (events ++ more) reply := by
  -- They hand nothing over, and they are not reads.
  have nothing : handedBytes events = [] :=
    List.flatMap_eq_nil_iff.mpr fun event member => (silent event member).1
  obtain ⟨part, whole⟩ := handsOver
  rw [HandsOver, handedBytes_append, nothing, List.nil_append]
  refine ⟨part, fun reached => whole ?_⟩
  rcases reached with ⟨stream, room, result, member⟩ | returned
  · rcases List.mem_append.mp member with earlier | later
    · exact absurd rfl ((silent _ earlier).2 stream room result)
    · exact .inl ⟨stream, room, result, later⟩
  · exact .inr returned

/-- Writing does not read. -/
theorem not_read_of_writes {stream : TcpStream} {Offered : Bytes → Prop}
    {events : List NetworkEvent} (writes : ∀ event ∈ events, Writes stream Offered event) :
    ¬ ∃ used room result, .read used room result ∈ events := by
  -- A read is not among the kinds of events.
  intro found
  obtain ⟨used, room, result, member⟩ := found
  exact (writes _ member).elim

/-- After the whole request nothing else is handed over. -/
theorem handsOver_of_whole {α : Type} {program : NetworkM WifiProvisioningError α}
    {events : List NetworkEvent} (whole : handedBytes events = request)
    (quiet : Emits (fun event => event.handed = []) program) :
    Leaves (fun more reply => HandsOver request (events ++ more) reply) program := by
  -- The request is all that has been handed over in the end.
  refine Leaves.mono quiet fun more reply nothing => ?_
  have all : handedBytes (events ++ more) = request := by
    rw [handedBytes_append, whole, handedBytes, List.flatMap_eq_nil_iff.mpr nothing,
      List.append_nil]
  exact ⟨all ▸ List.prefix_rfl, fun _ => all⟩

/-- Asking the master hands over the request and nothing else. -/
theorem handsOver_lookupService (parser : XmlParser) (master : Endpoint) (caller : Text)
    (deadline : Instant) :
    Leaves (HandsOver (lookupRequest master caller).utf8)
      (lookupService parser master caller deadline) := by
  have unsent : ∀ {α : Type} {reply : Reply WifiProvisioningError α},
      (∀ value, reply ≠ .returned value) →
      HandsOver (lookupRequest master caller).utf8 [] reply := by
    intro α reply unfinished
    refine ⟨List.nil_prefix, fun reached => ?_⟩
    rcases reached with ⟨_, _, _, member⟩ | ⟨value, returned⟩
    · cases member
    · exact absurd returned (unfinished value)
  -- Until there is a connection nothing is handed over.
  have resolving : Emits Silent (master.resolve deadline) :=
    emits_resolve (fun _ => ⟨rfl, by simp⟩) (fun _ _ _ => ⟨rfl, by simp⟩) fun _ _ => ⟨rfl, by simp⟩
  have connecting : ∀ addresses, Emits Silent (connect addresses deadline) :=
    emits_connect (fun _ => ⟨rfl, by simp⟩) fun _ _ _ _ => ⟨rfl, by simp⟩
  apply Leaves.after resolving (fun _ _ _ => HandsOver.ignores) (fun _ => unsent (by simp))
    (unsent (by simp))
  intro addresses
  apply Leaves.after (connecting addresses) (fun _ _ _ => HandsOver.ignores)
    (fun _ => unsent (by simp)) (unsent (by simp))
  intro connection
  have asking : Emits Silent ((NetworkM.peerAddr connection.stream).mapError transportError) :=
    (emits_peerAddr fun _ => ⟨rfl, by simp⟩).mapError _
  apply Leaves.after asking (fun _ _ _ => HandsOver.ignores) (fun _ => unsent (by simp))
    (unsent (by simp))
  intro masterAddress
  -- Where writing stops early, a part has been handed over and nothing has been read.
  refine Leaves.bind ((leaves_writePart (lookupRequest master caller).utf8 _).mapError _) ?_ ?_ ?_
  · intro events error left
    obtain ⟨cause, _, drained⟩ := left
    obtain ⟨writes, part, _⟩ := drained (List.infix_refl _)
    refine ⟨part, fun reached => ?_⟩
    rcases reached with read | ⟨value, returned⟩
    · exact absurd read (not_read_of_writes writes)
    · cases returned
  · intro events left
    obtain ⟨writes, part, _⟩ := left (List.infix_refl _)
    refine ⟨part, fun reached => ?_⟩
    rcases reached with read | ⟨value, returned⟩
    · exact absurd read (not_read_of_writes writes)
    · cases returned
  · intro events value left
    obtain ⟨_, _, decided⟩ := left (List.infix_refl _)
    apply handsOver_of_whole (decided.mpr rfl)
    -- The rest reads and calculates.
    have reading : Emits (fun event => event.handed = []) (readHttpBody connection) := by
      apply emits_readHttpBody
      intro event reads
      cases event with
      | write _ _ _ => exact reads.elim
      | _ => rfl
    apply reading.bind
    intro body
    exact emits_ofExcept.bind fun _ => emits_pure

end Sending

section Injection

/-- How the bytes of a request are read back: as the fixed call, with its two parameters. -/
structure ReadBack (uri name : Text) (master : Endpoint) (caller : Text) (bytes : Bytes) :
    Prop where
  /-- The first empty line ends the head, which is the request line and four fields. -/
  parts : ∃ text head line fields length,
    Text.ofUtf8 bytes = some text ∧
    splitFirst (crlf ++ crlf) text = some (head, lookupBody caller) ∧
    head.split crlf = line :: fields ∧
    line.split [' '] = ["POST".toList, master.path, "HTTP/1.0".toList] ∧
    fields.mapM (splitFirst [':', ' ']) = some [("Host".toList, master.authority),
      ("Content-Type".toList, "text/xml".toList), ("Content-Length".toList, length),
      ("Connection".toList, "close".toList)] ∧
    Text.parseDigits length = some (lookupBody caller).utf8.length
  /-- The path and the authority are those of the address. -/
  address : master.Spelled "http://".toList uri
  /-- The body is the fixed call, whose parameters are the caller and the service. -/
  call : Token.readAll (lookupBody caller) = some (lookupTokens caller)
  /-- The caller is the name with a slash in front, and has no marks in it. -/
  caller : caller = rooted name ∧ '<' ∉ caller ∧ '>' ∉ caller ∧ '&' ∉ caller

variable {uri name caller : Text} {master : Endpoint}

/-- A request is read back from its bytes. -/
theorem readBack_lookupRequest
    (accepted : Endpoint.parse uri "http://".toList true = .ok master)
    (named : callerId name = .ok caller) :
    ReadBack uri name master caller (lookupRequest master caller).utf8 := by
  have spelled := Endpoint.spelled_of_parse accepted
  obtain ⟨same, codes⟩ := spelled_of_callerId named
  refine ⟨?_, spelled, readAll_lookupBody named, same, unmarked_of_nameCode codes⟩
  -- The text is that of the parts, and these are plain.
  obtain ⟨head, line, fields, first, separated, words, listed⟩ :=
    Request.read_eq_some (Request.read_render (@plain_lookupParts master uri caller spelled))
  rw [← lookupRequest_eq_render] at first
  exact ⟨_, head, line, fields, _, Text.ofUtf8_eq_some.mpr rfl, first, separated, words, listed,
    Text.parseDigits_toString _⟩

/-- Nothing can be injected into the request, and different requests have different bytes. -/
theorem lookup_not_injected (accepted : Endpoint.parse uri "http://".toList true = .ok master)
    (named : callerId name = .ok caller) :
    (∀ parser deadline, Leaves (HandsOver (lookupRequest master caller).utf8)
      (lookupService parser master caller deadline)) ∧
    ReadBack uri name master caller (lookupRequest master caller).utf8 ∧
    ∀ (otherUri otherName : Text) (other : Endpoint) (otherCaller : Text),
      Endpoint.parse otherUri "http://".toList true = .ok other →
      callerId otherName = .ok otherCaller →
      (lookupRequest other otherCaller).utf8 = (lookupRequest master caller).utf8 →
      (other.path, other.authority, otherCaller) = (master.path, master.authority, caller) := by
  refine ⟨fun parser deadline => handsOver_lookupService parser master caller deadline,
    readBack_lookupRequest accepted named, ?_⟩
  intro otherUri otherName other otherCaller otherAccepted otherNamed equal
  -- Equal bytes are equal texts, these have equal parts, and the calls have equal tokens.
  have texts := Text.utf8_injective equal
  rw [lookupRequest_eq_render, lookupRequest_eq_render] at texts
  have parts := Request.render_injective
    (plain_lookupParts (Endpoint.spelled_of_parse otherAccepted))
    (plain_lookupParts (Endpoint.spelled_of_parse accepted)) texts
  have bodies : lookupBody otherCaller = lookupBody caller := congrArg Request.body parts
  have paths : other.path = master.path := congrArg Request.target parts
  have authorities : other.authority = master.authority := by
    have fields : (lookupParts other otherCaller).fields = (lookupParts master caller).fields :=
      congrArg Request.fields parts
    simp only [lookupParts, List.cons.injEq, Prod.mk.injEq, true_and] at fields
    exact fields.1
  have callers : otherCaller = caller := by
    have tokens := readAll_lookupBody otherNamed
    rw [bodies, readAll_lookupBody named] at tokens
    simpa [lookupTokens, parameter] using (Option.some.inj tokens).symm
  rw [paths, authorities, callers]

/-- A master that is known by a bracketed number, with a path that looks like the end of a line. -/
def bracketedMaster : Endpoint where
  host := "fe80::1".toList
  port := 11311
  authority := "[fe80::1]:11311".toList
  path := "/%0d%0a/<methodCall>".toList

/-- Its address and a name without a slash are accepted, and nothing is injected with them. -/
theorem lookup_not_injected_bracketed :
    ReadBack "http://[fe80::1]:11311/%0d%0a/<methodCall>".toList "scout_1".toList bracketedMaster
      "/scout_1".toList (lookupRequest bracketedMaster "/scout_1".toList).utf8 :=
  (lookup_not_injected (by decide +kernel) (by decide +kernel)).2.1

end Injection

end Scout.Wifi
