import Scout.Wifi.Handshake

/-! Asking the master where a service is found. -/

namespace Scout.Wifi

open Machine Dialogue NetworkM

/-- The longest header of the master's answer that is accepted. -/
def maxHttpHeader : Nat := 16 * 1024

/-- The longest body of the master's answer that is accepted. -/
def maxLookupBody : Nat := 64 * 1024

/-- A node of a parsed document, with the local name of an element. -/
inductive XmlNode where
  | element (name : Text) (children : List XmlNode)
  | text (content : Text)
  | other

namespace XmlNode

/-- Whether a node is an element. -/
def isElement : XmlNode → Bool
  | element _ _ => true
  | _ => false

/-- The name of an element, and no name for other nodes. -/
def tagName : XmlNode → Text
  | element name _ => name
  | _ => []

/-- The children of a node that are elements. -/
def elements : XmlNode → List XmlNode
  | element _ children => children.filter isElement
  | _ => []

/-- The text of a node: of an element, that of its first child. -/
def content : XmlNode → Option Text
  | element _ (text content :: _) => some content
  | text content => some content
  | _ => none

/-- The only element under a node, if it has the given name. -/
def onlyChild (node : XmlNode) (name : Text) : Except WifiProvisioningError XmlNode :=
  match node.elements with
  | [child] =>
    if child.tagName = name then .ok child
    else .error (.protocol "unexpected ROS lookup XML structure")
  | _ => .error (.protocol "unexpected ROS lookup XML structure")

end XmlNode

/-- The root of the document a text contains, if it is well-formed: the work of a library. -/
abbrev XmlParser := Text → Option XmlNode

/-- The call that asks the master for a service. -/
def lookupBody (caller : Text) : Text :=
  "<?xml version=\"1.0\"?><methodCall><methodName>lookupService</methodName>".toList ++
    "<params><param><value><string>".toList ++ caller ++
    "</string></value></param><param><value><string>".toList ++ wifiSwitchSsidKey ++
    "</string></value></param></params></methodCall>".toList

/-- The whole request that asks the master for a service. -/
def lookupRequest (master : Endpoint) (caller : Text) : Text :=
  "POST ".toList ++ master.path ++ " HTTP/1.0\r\nHost: ".toList ++ master.authority ++
    "\r\nContent-Type: text/xml\r\nContent-Length: ".toList ++
    (toString (lookupBody caller).utf8.length).toList ++
    "\r\nConnection: close\r\n\r\n".toList ++ lookupBody caller

/-- The bytes that end a header. -/
def headerEnd : Bytes := [13, 10, 13, 10]

/-- One round of reading a header byte by byte. -/
def headerRound (connection : Connection) (header : Bytes) :
    NetworkM WifiProvisioningError (Bytes ⊕ Bytes) :=
  -- The end is looked for before the limit is.
  if headerEnd.isSuffixOf header then pure (.inr header)
  else if maxHttpHeader ≤ header.length then
    fail (.protocol "ROS lookup HTTP header exceeds limit")
  else do
    -- Nothing behind the header is read with it.
    let byte ← (connection.readExact 1).mapError transportError
    return .inl (header ++ byte)

/-- Whether the first line of a header announces success. -/
def statusOk (line : Text) : Bool :=
  let words := line.splitWhitespace
  (words[0]? == some "HTTP/1.0".toList || words[0]? == some "HTTP/1.1".toList) &&
    words[1]? == some "200".toList

/-- Go through a field of a header, with the length that was found so far. -/
def headerField (length : Option Nat) (line : Text) :
    Except WifiProvisioningError (Option Nat) :=
  match line.splitOnce ':' with
  | none => .error (.protocol "invalid ROS lookup HTTP field")
  | some (name, value) =>
    if Text.eqIgnoreAsciiCase name "transfer-encoding".toList then
      .error (.protocol "unsupported ROS lookup transfer encoding")
    -- A second length could be understood in another way, and is refused.
    else if Text.eqIgnoreAsciiCase name "content-length".toList then
      if length.isSome then .error (.protocol "duplicate ROS lookup content length")
      else
        match value.trim.parseUnsigned 64 with
        | none => .error (.protocol "invalid ROS lookup content length")
        | some value => .ok (some value)
    -- Other fields are passed over.
    else .ok length

/-- The length of the body that a header announces. -/
def contentLength (header : Bytes) : Except WifiProvisioningError Nat :=
  match Text.ofUtf8 header with
  | none => .error (.protocol "invalid ROS lookup HTTP header")
  | some text =>
    let lines := text.split "\r\n".toList
    if statusOk (lines.headD []) then do
      -- The empty lines are those at the end of the header.
      let length ← (lines.tail.filter fun line => !line.isEmpty).foldlM headerField none
      match length with
      | none => .error (.protocol "missing ROS lookup content length")
      | some length =>
        if maxLookupBody < length then .error (.protocol "ROS lookup body exceeds limit")
        else .ok length
    else .error (.protocol "ROS lookup returned an HTTP error")

/-- Read the master's answer and return its body. -/
def readHttpBody (connection : Connection) : NetworkM WifiProvisioningError Bytes := do
  let header ← repeatUntil answersLeft (headerRound connection) []
  let length ← ofExcept (contentLength header)
  (connection.readExact length).mapError transportError

/-- The address of the service that the master's answer contains. -/
def serviceUri (parser : XmlParser) (body : Bytes) : Except WifiProvisioningError Text :=
  match Text.ofUtf8 body with
  | none => .error (.protocol "invalid ROS lookup response encoding")
  | some text =>
    match parser text with
    | none => .error (.protocol "invalid ROS lookup XML")
    | some root =>
      if root.tagName ≠ "methodResponse".toList then
        .error (.protocol "unexpected ROS lookup response")
      else do
        -- Each of these elements must be the only one under its parent.
        let data ← ["params", "param", "value", "array", "data"].foldlM
          (fun current name => current.onlyChild name.toList) root
        match data.elements with
        -- The message is not looked at.
        | [status, message, uri] =>
          if [status, message, uri].any fun value => value.tagName ≠ "value".toList then
            .error (.protocol "invalid ROS lookup result")
          else
            match status.elements with
            | [code] =>
              if code.tagName ≠ "int".toList ∧ code.tagName ≠ "i4".toList then
                .error (.protocol "invalid ROS lookup status")
              else if (code.content.bind fun text => text.trim.parseSigned 32) ≠ some 1 then
                .error .serviceUnavailable
              else do
                let uri ← uri.onlyChild "string".toList
                match uri.content with
                | none => .error (.protocol "missing ROS service URI")
                | some uri => .ok uri
            | _ => .error (.protocol "invalid ROS lookup status")
        | _ => .error (.protocol "invalid ROS lookup result")

/-- Ask the master for the service, and say under which address the master answered. -/
def lookupService (parser : XmlParser) (master : Endpoint) (caller : Text) (deadline : Instant) :
    NetworkM WifiProvisioningError (Text × SocketAddr) := do
  let addresses ← master.resolve deadline
  let connection ← connect addresses deadline
  -- The address is remembered for a service that the robot announces under its own name.
  let masterAddress ← (peerAddr connection.stream).mapError transportError
  (connection.writeAll (lookupRequest master caller).utf8).mapError transportError
  let body ← readHttpBody connection
  let uri ← ofExcept (serviceUri parser body)
  return (uri, masterAddress)

end Scout.Wifi
