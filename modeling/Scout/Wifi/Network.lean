import Scout.Machine.Dialogue
import Scout.Number.Duration
import Scout.Wifi.Endpoint

/-! Sockets and the resolver, used before a deadline, with everything the system answers. -/

namespace Scout.Wifi

open Machine

/-- What comes back from the thread that asks the resolver. -/
inductive ResolverReply where
  | addresses (result : Except ErrorKind (List SocketAddr))
  | timeout
  | disconnected

/-- One answer of the operating system. -/
inductive SystemAnswer where
  | time (now : Instant)
  | done (result : Except ErrorKind Unit)
  | resolved (reply : ResolverReply)
  | address (result : Except ErrorKind SocketAddr)
  | bytes (result : Except ErrorKind Bytes)
  | count (result : Except ErrorKind Nat)

/-- A connected socket, named by how many things had happened when it was opened. -/
abbrev TcpStream := Nat

/-- One call of the operating system with its answer. -/
inductive NetworkEvent where
  | now (time : Instant)
  | spawned (host : Text) (port : UInt16) (result : Except ErrorKind Unit)
  | resolved (timeout : Duration) (reply : ResolverReply)
  | connected (stream : TcpStream) (address : SocketAddr) (timeout : Duration)
      (result : Except ErrorKind Unit)
  | peerAddr (stream : TcpStream) (result : Except ErrorKind SocketAddr)
  | setReadTimeout (stream : TcpStream) (timeout : Duration) (result : Except ErrorKind Unit)
  | read (stream : TcpStream) (room : Nat) (result : Except ErrorKind Bytes)
  | setWriteTimeout (stream : TcpStream) (timeout : Duration) (result : Except ErrorKind Unit)
  | write (stream : TcpStream) (offered : Bytes) (result : Except ErrorKind Nat)
  /-- The handshake on a connection has succeeded, which is no call of the system. -/
  | shaken (stream : TcpStream)

/-- The answers that are still to come, and the calls that have been made. -/
abbrev Network := Ledger SystemAnswer NetworkEvent

/-- A program that calls the operating system and fails with an error of the given type. -/
abbrev NetworkM (ε α : Type) := Dialogue Network ε α

/-- How many answers are still to come. -/
def answersLeft (network : Network) : Nat := network.script.length

namespace NetworkM

open Dialogue

/-- Read the monotonic clock. -/
def instantNow {ε : Type} : NetworkM ε Instant :=
  ask fun _ answer =>
    match answer with
    | .time now => some (.now now, .ok now)
    | _ => none

/-- Make a call that succeeds without a value. -/
def askDone (event : Except ErrorKind Unit → NetworkEvent) : NetworkM ErrorKind Unit :=
  ask fun _ answer =>
    match answer with
    | .done result => some (event result, result)
    | _ => none

/-- Start the thread that asks the resolver. -/
def spawnResolver (host : Text) (port : UInt16) : NetworkM ErrorKind Unit :=
  askDone (.spawned host port)

/-- Wait for what the resolver's thread sends. -/
def receiveResolved {ε : Type} (timeout : Duration) : NetworkM ε ResolverReply :=
  ask fun _ answer =>
    match answer with
    | .resolved reply => some (.resolved timeout reply, .ok reply)
    | _ => none

/-- Connect to an address. -/
def connectTimeout (address : SocketAddr) (timeout : Duration) : NetworkM ErrorKind TcpStream :=
  ask fun log answer =>
    match answer with
    | .done result =>
      some (.connected log.length address timeout result, result.map fun _ => log.length)
    | _ => none

/-- The address at the other end of a connection. -/
def peerAddr (stream : TcpStream) : NetworkM ErrorKind SocketAddr :=
  ask fun _ answer =>
    match answer with
    | .address result => some (.peerAddr stream result, result)
    | _ => none

/-- Limit the time of the next reads. -/
def setReadTimeout (stream : TcpStream) (timeout : Duration) : NetworkM ErrorKind Unit :=
  askDone (.setReadTimeout stream timeout)

/-- Limit the time of the next writes. -/
def setWriteTimeout (stream : TcpStream) (timeout : Duration) : NetworkM ErrorKind Unit :=
  askDone (.setWriteTimeout stream timeout)

/-- Receive bytes into a buffer, which cannot be more than it has room for. -/
def recv (stream : TcpStream) (room : Nat) : NetworkM ErrorKind Bytes :=
  ask fun _ answer =>
    match answer with
    | .bytes result =>
      if (result.toOption.getD []).length ≤ room then some (.read stream room result, result)
      else none
    | _ => none

/-- Hand bytes to a socket, which cannot take more than it is offered. -/
def send (stream : TcpStream) (offered : Bytes) : NetworkM ErrorKind Nat :=
  ask fun _ answer =>
    match answer with
    | .count result =>
      if result.toOption.getD 0 ≤ offered.length then some (.write stream offered result, result)
      else none
    | _ => none

/-- The time until a deadline, if there is any left. -/
def remaining (deadline : Instant) : NetworkM WifiProvisioningError Duration := do
  let now ← instantNow
  -- A deadline that is reached leaves no time, and no call is made with a timeout of zero.
  match (Duration.since deadline now).filter fun left => left ≠ 0 with
  | some left => return left
  | none => fail .timeout

end NetworkM

/-- The error an error of the operating system is reported as. -/
def transportError : ErrorKind → WifiProvisioningError
  | .timedOut => .timeout
  | .wouldBlock => .timeout
  | kind => .transport kind

/-- An open connection and the time by which everything on it must be over. -/
structure Connection where
  stream : TcpStream
  deadline : Instant

open Dialogue NetworkM

namespace Connection

/-- Read some bytes before the deadline. -/
def read (connection : Connection) (room : Nat) : NetworkM ErrorKind Bytes := do
  let left ← (remaining connection.deadline).mapError fun _ => ErrorKind.timedOut
  -- The timeout is set anew before every read, so a slow peer cannot extend it.
  setReadTimeout connection.stream left
  recv connection.stream room

/-- Write some bytes before the deadline, and say how many. -/
def write (connection : Connection) (bytes : Bytes) : NetworkM ErrorKind Nat := do
  let left ← (remaining connection.deadline).mapError fun _ => ErrorKind.timedOut
  -- The timeout is set anew before every write, too.
  setWriteTimeout connection.stream left
  send connection.stream bytes

/-- One round of reading into a buffer that is partly filled. -/
def readRound (connection : Connection) (length : Nat) (filled : Bytes) :
    NetworkM ErrorKind (Bytes ⊕ Bytes) :=
  if filled.length = length then pure (.inr filled)
  else do
    match ← (connection.read (length - filled.length)).attempt with
    -- No bytes mean that the peer has closed the connection.
    | .ok [] => fail .unexpectedEof
    | .ok bytes => return .inl (filled ++ bytes)
    -- An interrupted read is tried again, with what is left of the time.
    | .error kind => if kind = .interrupted then return .inl filled else fail kind

/-- Fill a buffer of a given length. -/
def readExact (connection : Connection) (length : Nat) : NetworkM ErrorKind Bytes :=
  repeatUntil answersLeft (connection.readRound length) []

/-- One round of writing what is left. -/
def writeRound (connection : Connection) (bytes : Bytes) : NetworkM ErrorKind (Bytes ⊕ Unit) :=
  if bytes.isEmpty then pure (.inr ())
  else do
    match ← (connection.write bytes).attempt with
    -- A socket that takes nothing would never take everything.
    | .ok 0 => fail .writeZero
    | .ok taken => return .inl (bytes.drop taken)
    | .error kind => if kind = .interrupted then return .inl bytes else fail kind

/-- Write all bytes. -/
def writeAll (connection : Connection) (bytes : Bytes) : NetworkM ErrorKind Unit :=
  repeatUntil answersLeft connection.writeRound bytes

end Connection

/-- Try the addresses in turn until one of them accepts, given the last failure. -/
def connectFrom (deadline : Instant) (last : WifiProvisioningError) :
    List SocketAddr → NetworkM WifiProvisioningError Connection
  | [] => fail last
  | address :: rest => do
    let left ← remaining deadline
    -- One attempt gets two seconds, or less if the deadline is closer.
    match ← (connectTimeout address (min left (Duration.fromSecs 2))).attempt with
    | .ok stream => return { stream, deadline }
    -- The last failure is the one that is reported.
    | .error kind => connectFrom deadline (transportError kind) rest

/-- Connect to the first address that accepts, among the first eight. -/
def connect (addresses : List SocketAddr) (deadline : Instant) :
    NetworkM WifiProvisioningError Connection :=
  connectFrom deadline (.transport .notFound) (addresses.take 8)

/-- What the resolver's thread sends: at most eight addresses. -/
def ResolverReply.sent : ResolverReply → ResolverReply
  | .addresses result => .addresses (result.map fun addresses => addresses.take 8)
  | reply => reply

/-- The addresses of an endpoint's host, the older version first. -/
def Endpoint.resolve (endpoint : Endpoint) (deadline : Instant) :
    NetworkM WifiProvisioningError (List SocketAddr) :=
  match IpAddr.parse endpoint.host with
  -- A numeric host needs no resolver.
  | some ip => pure [{ ip, port := endpoint.port }]
  | none => do
    -- The resolver may block for longer than the deadline, so another thread waits for it.
    (spawnResolver endpoint.host endpoint.port).mapError transportError
    let left ← remaining deadline
    match (← receiveResolved left).sent with
    | .addresses (.ok []) => fail (.transport .notFound)
    -- The sorting sees only what the other thread has sent, that is at most eight.
    | .addresses (.ok addresses) => return sortIpv4First addresses
    | .addresses (.error kind) => fail (.transport kind)
    | .timeout => fail .timeout
    | .disconnected => fail (.transport .other)

end Scout.Wifi
