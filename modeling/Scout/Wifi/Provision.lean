import Scout.Wifi.Lookup

/-! Sending the credentials of a router to the robot, once. -/

namespace Scout.Wifi

open Machine Dialogue NetworkM

/-- The host name under which the robot announces its own services. -/
def scoutInternalHostname : Text := "linaro-alip".toList

/-- The result that an acknowledgement with one status byte stands for. -/
def acknowledged : Except WifiProvisioningError Bytes →
    Except WifiProvisioningError WifiProvisioningResult
  | .ok (status :: rest) =>
    if rest.isEmpty then
      -- Zero means that the change is queued, and not that the router has let the robot in.
      if status = 0 then .ok .accepted else .error (.rejected status.toInt8)
    -- An empty or longer acknowledgement says nothing about the change.
    else .ok .deliveryUncertain
  | _ => .ok .deliveryUncertain

/-- Read what the service replies to the credentials. -/
def readReply (connection : Connection) :
    NetworkM WifiProvisioningError WifiProvisioningResult := do
  match ← (connection.readExact 1).attempt with
  | .error _ => return .deliveryUncertain
  | .ok success =>
    if success = [1] then do
      let reply ← (readFrame connection.readExact 1).attempt
      ofExcept (acknowledged reply)
    else if success = [0] then do
      -- The text of the failure is read, and then dropped.
      match ← (readFrame connection.readExact maxServiceError).attempt with
      | .ok _ => fail .serviceFailed
      | .error _ => return .deliveryUncertain
    else return .deliveryUncertain

/-- Send the credentials and read what the service replies. -/
def sendCredentials (connection : Connection) (credentials : WifiCredentials) :
    NetworkM WifiProvisioningError WifiProvisioningResult := do
  -- From here on a failure may hide that the robot has changed networks.
  match ← (writeFrame connection.writeAll credentials.encodeRequest).attempt with
  | .error _ => return .deliveryUncertain
  | .ok () => readReply connection

/-- The addresses at which the service that the master named is tried. -/
def serviceAddresses (service : Endpoint) (masterAddress : SocketAddr) (deadline : Instant) :
    NetworkM WifiProvisioningError (List SocketAddr) :=
  -- That name is known only to the robot, which is where the master answered.
  if service.host = scoutInternalHostname then
    pure [{ ip := masterAddress.ip, port := service.port }]
  else service.resolve deadline

/-- Find the service, connect to it and complete the handshake. -/
def establish (parser : XmlParser) (config : Ros1Config) (timeout : Duration) :
    NetworkM WifiProvisioningError Connection :=
  if timeout < Duration.fromSecs 1 ∨ Duration.fromSecs 60 < timeout then
    fail (.invalidConfiguration "Wi-Fi setup timeout must be 1–60 seconds")
  else do
    let deadline := (← instantNow) + timeout
    let master ← ofExcept (Endpoint.parse config.masterUri "http://".toList true)
    let caller ← ofExcept (callerId config.nodeName)
    let (uri, masterAddress) ← lookupService parser master caller deadline
    let service ← ofExcept (Endpoint.parse uri "rosrpc://".toList false)
    let addresses ← serviceAddresses service masterAddress deadline
    let connection ← connect addresses deadline
    handshake connection caller
    note (.shaken connection.stream)
    return connection

/-- Ask the robot to join a network. -/
def provisionWifi (parser : XmlParser) (config : Ros1Config) (credentials : WifiCredentials)
    (timeout : Duration) : NetworkM WifiProvisioningError WifiProvisioningResult := do
  let connection ← establish parser config timeout
  sendCredentials connection credentials

end Scout.Wifi
