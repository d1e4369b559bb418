import Scout.Wifi.Address
import Scout.Wifi.Credentials

/-! Where the master and its services are reached, and under which name they are called. -/

namespace Scout.Wifi

/-- The settings of the transport that setting up the network depends on. -/
structure Ros1Config where
  masterUri : Text
  nodeName : Text

/-- A letter or a digit. -/
def isAsciiAlphanumeric (byte : UInt8) : Bool :=
  (48 ≤ byte && byte ≤ 57) || (65 ≤ byte && byte ≤ 90) || (97 ≤ byte && byte ≤ 122)

/-- The name a node calls services under. -/
def callerId (name : Text) : Except WifiProvisioningError Text :=
  if name.isEmpty ∨ 256 < name.utf8.length ∨
      !name.utf8.all fun byte => isAsciiAlphanumeric byte || (byte == 47 || byte == 95) then
    .error (.invalidConfiguration
      "Wi-Fi setup node name must use ASCII letters, digits, slash, or underscore")
  -- Names are absolute, with exactly one slash added where there is none.
  else .ok (if name.head? = some '/' then name else '/' :: name)

/-- A host, a port on it, and the path of what is found there. -/
structure Endpoint where
  host : Text
  port : UInt16
  authority : Text
  path : Text
  deriving DecidableEq

namespace Endpoint

/-- The refusal of an address. -/
def invalid : WifiProvisioningError :=
  .invalidConfiguration "invalid ROS master or service URI"

/-- The host of an authority and the text of its port. -/
def parseAuthority (authority : Text) : Except WifiProvisioningError (Text × Text) :=
  -- In brackets stands an address of the newer version, which has colons itself.
  match authority.stripPrefix ['['] with
  | some bracketed =>
    match bracketed.splitOnce ']' with
    | none => .error invalid
    | some (host, tail) =>
      if (IpAddr.parseV6 host).isNone then .error invalid
      else
        match tail.stripPrefix [':'] with
        | none => .error invalid
        | some port => .ok (host, port)
  | none =>
    -- Elsewhere the last colon is the one before the port.
    match authority.rsplitOnce ':' with
    | none => .error invalid
    | some (host, port) =>
      if host.isEmpty ∨ !host.utf8.all fun byte =>
          isAsciiAlphanumeric byte || (byte == 46 || byte == 45 || byte == 95) then
        .error invalid
      else .ok (host, port)

/-- The endpoint an address denotes. -/
def parse (uri scheme : Text) (allowPath : Bool) : Except WifiProvisioningError Endpoint :=
  -- No blanks, control characters, or bytes outside ASCII.
  if 2048 < uri.utf8.length ∨ uri.utf8.any fun byte => byte ≤ 32 || 127 ≤ byte then
    .error invalid
  else
    match uri.stripPrefix scheme with
    | none => .error invalid
    | some rest =>
      let (authority, path) :=
        -- The path begins at the first slash, and without one it is the root.
        match rest.splitOnce '/' with
        | none => (rest, ['/'])
        | some (authority, path) => (authority, '/' :: path)
      if authority.any (fun char => char == '@' || char == '?' || char == '#') ∨
          path.any (fun char => char == '?' || char == '#') ∨ (!allowPath ∧ path ≠ ['/']) then
        .error invalid
      else
        match parseAuthority authority with
        | .error error => .error error
        | .ok (host, port) =>
          match port.parseUnsigned 16 with
          | none => .error invalid
          | some port =>
            if port = 0 then .error invalid
            else .ok { host, port := UInt16.ofNat port, authority, path }

end Endpoint
end Scout.Wifi
