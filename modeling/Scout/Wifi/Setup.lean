import Scout.Password.Entered
import Scout.Wifi.Delivery
import Scout.Wifi.Firmware
import Scout.Wifi.Secrecy

/-! The command that sends what the user has entered to the robot, and what it shows. -/

namespace Scout.Wifi

open Decoder Machine Dialogue NetworkEvent Password

/-- The arguments of the command, as they are accepted on the command line. -/
structure WifiSetupArgs where
  ssid : Text
  passwordStdin : Bool
  timeoutSeconds : Nat
  bounded : 1 ≤ timeoutSeconds ∧ timeoutSeconds ≤ 60

/-- Why the robot has not taken over the settings, as far as it is known. -/
inductive SetupError where
  | input (error : InputError)
  | validation (error : WifiValidationError)
  | provisioning (error : WifiProvisioningError)
  | deliveryUncertain (message : String)
  deriving DecidableEq

/-- What is shown, how the command ends, and what the network has been used for. -/
structure SetupRun where
  shown : List String
  reply : Reply SetupError Unit
  network : Network

/-- What is shown before the settings are sent. -/
def sendingText : String :=
  "Sending router settings to the Scout. Its Wi-Fi connection may close during the switch."

/-- What is shown when the robot has accepted the settings. -/
def acceptedText : String :=
  "Scout accepted the settings; connection to the router is not yet verified."

/-- What is said when it is not known whether the robot has taken over the settings. -/
def uncertainText : String :=
  "The connection closed or timed out after sending settings, so the result is unknown. " ++
    "Check the Scout on the router before retrying."

/-- What is shown for whoever wants to find the robot in its new network. -/
def reconnectSteps : List String :=
  ["Reconnect this computer to the target router's Wi-Fi.",
    "Find the Scout's new IP in the router's connected-device/DHCP list, then run:",
    "  moorebot-scout --master http://<SCOUT-IP>:11311 discover",
    "If it does not join, use the Scout's Wi-Fi mode button to return to Wi-Fi Direct and reconnect."]

/-- What is shown of a result, and how the command ends with it. -/
def reportProvisioning (reply : Reply WifiProvisioningError WifiProvisioningResult) :
    List String × Reply SetupError Unit :=
  match reply with
  | .returned .accepted => (acceptedText :: reconnectSteps, .returned ())
  -- The settings may have arrived, so the next steps are shown in any case.
  | .returned .deliveryUncertain => (reconnectSteps, .failed (.deliveryUncertain uncertainText))
  | .failed error => ([], .failed (.provisioning error))
  | .waiting => ([], .waiting)

/-- Ask for a password, and send it to the robot together with the name of the network. -/
def wifiSetup (parser : XmlParser) (config : Ros1Config) (args : WifiSetupArgs)
    (source : PasswordSource) (network : Network) : SetupRun :=
  let asked := readPassword args.passwordStdin source
  match asked.2 with
  | .inl _ => { shown := asked.1, reply := .waiting, network }
  | .inr (.error error) => { shown := asked.1, reply := .failed (.input error), network }
  | .inr (.ok password) =>
    match WifiCredentials.new args.ssid password with
    | .error error => { shown := asked.1, reply := .failed (.validation error), network }
    | .ok credentials =>
      let sent := provisionWifi parser config credentials (Duration.fromSecs args.timeoutSeconds)
        network
      let report := reportProvisioning sent.1
      { shown := asked.1 ++ sendingText :: report.1, reply := report.2, network := sent.2 }

/-- A command that ends without having used the network. -/
structure SetupRun.Withheld (run : SetupRun) (network : Network) : Prop where
  unused : run.network = network
  unsuccessful : run.reply ≠ .returned ()

/-- A command that has used the network for settings, and ends with what became of them. -/
structure SetupRun.Conveyed (run : SetupRun) (config : Ros1Config) (credentials : WifiCredentials)
    (before after : List NetworkEvent) : Prop where
  log : run.network.log = before ++ after
  delivered : ∃ reply, Delivery config credentials before after reply ∧
    run.reply = (reportProvisioning reply).2
  /-- The command succeeds exactly if all was handed over and the robot's reply accepts it. -/
  succeeds : run.reply = .returned () ↔
    handedBytes after = frame credentials.encodeRequest ∧ [1, 1, 0, 0, 0, 0] <+: receivedBytes after

/-- The command succeeds exactly if the robot has accepted the settings. -/
theorem reportProvisioning_returned {reply : Reply WifiProvisioningError WifiProvisioningResult} :
    (reportProvisioning reply).2 = .returned () ↔ reply = .returned .accepted := by
  -- The cases are the replies.
  cases reply with
  | returned result => cases result <;> simp [reportProvisioning]
  | failed error => simp [reportProvisioning]
  | waiting => simp [reportProvisioning]

/-- A delivery is reported as successful exactly if the robot's reply accepts it. -/
theorem Delivery.accepted {config : Ros1Config} {credentials : WifiCredentials}
    {before after : List NetworkEvent} {reply : Reply WifiProvisioningError WifiProvisioningResult}
    (delivery : Delivery config credentials before after reply) :
    reply = .returned .accepted ↔
      handedBytes after = frame credentials.encodeRequest ∧
        [1, 1, 0, 0, 0, 0] <+: receivedBytes after := by
  by_cases shaken : ∃ stream, .shaken stream ∈ before
  · exact (delivery.decided shaken).accepted
  · -- Without a handshake nothing comes after it, and nothing is received.
    obtain ⟨nothing, unreturned⟩ := delivery.unsent fun stream member => shaken ⟨stream, member⟩
    subst nothing
    refine iff_of_false (unreturned _) fun both => ?_
    have empty := List.prefix_nil.mp both.2
    cases empty

/-- What has been delivered is reported, and the command succeeds exactly if it was accepted. -/
theorem conveyed_of_delivery {config : Ros1Config} {credentials : WifiCredentials}
    {before after : List NetworkEvent} {run : SetupRun}
    {reply : Reply WifiProvisioningError WifiProvisioningResult}
    (delivery : Delivery config credentials before after reply)
    (log : run.network.log = before ++ after) (reported : run.reply = (reportProvisioning reply).2) :
    run.Conveyed config credentials before after where
  -- The report follows the reply of the delivery.
  log := log
  delivered := ⟨reply, delivery, reported⟩
  succeeds := by
    rw [reported]
    exact reportProvisioning_returned.trans delivery.accepted

section Runs

variable {args : WifiSetupArgs} {source : PasswordSource} {shown : List String} {password : Text}

/-- A password that is refused ends the command. -/
theorem wifiSetup_refused (parser : XmlParser) (config : Ros1Config) (network : Network)
    {error : WifiValidationError}
    (asked : readPassword args.passwordStdin source = (shown, .inr (.ok password)))
    (refused : WifiCredentials.new args.ssid password = .error error) :
    wifiSetup parser config args source network =
      { shown, reply := .failed (.validation error), network } := by
  simp only [wifiSetup, asked, refused]

/-- A password that is accepted is sent, and the result is reported. -/
theorem wifiSetup_sent (parser : XmlParser) (config : Ros1Config) (network : Network)
    {credentials : WifiCredentials}
    (asked : readPassword args.passwordStdin source = (shown, .inr (.ok password)))
    (accepted : WifiCredentials.new args.ssid password = .ok credentials)
    {reply : Reply WifiProvisioningError WifiProvisioningResult} {after : Network}
    (sent : provisionWifi parser config credentials (Duration.fromSecs args.timeoutSeconds)
      network = (reply, after)) :
    wifiSetup parser config args source network =
      { shown := shown ++ sendingText :: (reportProvisioning reply).1
        reply := (reportProvisioning reply).2
        network := after } := by
  simp only [wifiSetup, asked, accepted, sent]

end Runs

/-- Whether the settings are withheld or sent, nothing is sent but what the user has entered, the
robot reads exactly that, and the command succeeds exactly if the robot's reply accepts it. -/
theorem wifi_setup_conveys_entered (parser : XmlParser) (config : Ros1Config)
    (args : WifiSetupArgs) (source : PasswordSource) (script : List SystemAnswer) :
    (wifiSetup parser config args source ⟨script, []⟩).Withheld ⟨script, []⟩ ∨
      ∃ credentials : WifiCredentials,
        Entered args.passwordStdin source credentials.password ∧
        (∀ more further, decoded (readRequest (32 + more) (63 + further)
          (Decoder.new credentials.encodeRequest)) = .ok (1, args.ssid, credentials.password)) ∧
        ∃ before after, (wifiSetup parser config args source ⟨script, []⟩).Conveyed config
          credentials before after := by
  cases asked : readPassword args.passwordStdin source with
  | mk shown result =>
    cases result with
    | inl prompt => exact .inl (by simp only [wifiSetup, asked]; exact ⟨rfl, by simp⟩)
    | inr read =>
      cases read with
      | error error => exact .inl (by simp only [wifiSetup, asked]; exact ⟨rfl, by simp⟩)
      | ok password =>
        cases made : WifiCredentials.new args.ssid password with
        | error error =>
          rw [wifiSetup_refused parser config _ asked made]
          exact .inl ⟨rfl, by simp⟩
        | ok credentials =>
          -- The credentials are sent as they have been entered.
          obtain ⟨ssid, rfl⟩ := WifiCredentials.new_ok.mp made
          refine .inr ⟨credentials, (entered_of_readPassword asked).1, fun more further => ?_, ?_⟩
          · rw [← ssid]
            exact credentials.decoded_encodeRequest (Nat.le_add_right _ _) (Nat.le_add_right _ _)
          · obtain ⟨used, reply, introduced, unfinished, whole⟩ |
              ⟨connection, used, prior, same, introduced, whole⟩ :=
              provisionWifi_opened parser config (Duration.fromSecs args.timeoutSeconds) script
            · rw [wifiSetup_sent parser config _ asked made (whole credentials)]
              exact ⟨used.log, [], conveyed_of_delivery (delivery_unshaken introduced unfinished)
                (List.append_nil _).symm rfl⟩
            · obtain ⟨after, grown, sent⟩ := sent_sendCredentials connection credentials used
              rw [wifiSetup_sent parser config _ asked made (whole credentials)]
              exact ⟨_, after, conveyed_of_delivery (delivery_shaken introduced sent)
                (grown.trans (by rw [same])) rfl⟩

/-- A password that comes from a pipe, and no terminal. -/
def piped (password : Text) : PasswordSource where
  stdin := (password ++ ['\n']).utf8.map .ok
  terminal := {
    stdin := false
    stdout := false
    flush := .ok ()
    enableRawMode := .ok ()
    events := [] }

/-- The arguments for a password from a pipe. -/
def pipedArgs : WifiSetupArgs where
  ssid := sampleCredentials.ssid
  passwordStdin := true
  timeoutSeconds := 10
  bounded := by decide

/-- A run in which a password comes from a pipe, and the robot accepts it. -/
def pipedRun (password : Text) : SetupRun :=
  wifiSetup (fun _ => some sampleDocument) sampleConfig pipedArgs (piped password)
    ⟨sampleScript [[1], [1, 0, 0, 0], [0]], []⟩

/-- The settings are conveyed where a password comes from a pipe, and the command succeeds. -/
theorem wifi_setup_conveys_entered_piped :
    (pipedRun "password".toList).reply = .returned () ∧
      ∃ credentials : WifiCredentials,
        Entered true (piped "password".toList) credentials.password ∧ ∃ before after,
          (pipedRun "password".toList).Conveyed sampleConfig credentials before after ∧
          handedBytes after = frame credentials.encodeRequest := by
  -- The run is evaluated, and a command that succeeds has not withheld the settings.
  have ran : (pipedRun "password".toList).reply = .returned () := by
    decide +kernel
  obtain withheld | ⟨credentials, entered, _, before, after, conveyed⟩ :=
    wifi_setup_conveys_entered (fun _ => some sampleDocument) sampleConfig pipedArgs
      (piped "password".toList) (sampleScript [[1], [1, 0, 0, 0], [0]])
  · exact absurd ran withheld.unsuccessful
  · exact ⟨ran, credentials, entered, before, after, conveyed,
      (conveyed.succeeds.mp ran).1⟩

/-- What someone sees of the command who sees the screen, and how many bytes are offered to whom,
but not which. -/
def SetupRun.seen (run : SetupRun) :
    List String × Reply SetupError Unit × List NetworkEvent :=
  (run.shown, run.reply, run.network.log.map NetworkEvent.outline)

/-- Passwords of one length that are both safe, or both not, are refused alike. -/
theorem WifiCredentials.new_alike (ssid : Text) {password other : Text}
    (length : password.utf8.length = other.utf8.length)
    (safe : password.utf8.all safeFirmwareByte = other.utf8.all safeFirmwareByte) :
    (∃ error, new ssid password = .error error ∧ new ssid other = .error error) ∨
      ∃ credentials credentials', new ssid password = .ok credentials ∧
        new ssid other = .ok credentials' ∧
        credentials.encodeRequest.length = credentials'.encodeRequest.length := by
  cases first : new ssid password with
  | ok credentials =>
    -- The other password is acceptable too.
    obtain ⟨named, entered⟩ := new_ok.mp first
    have acceptable := exists_new.mp ⟨credentials, first⟩
    obtain ⟨credentials', second⟩ := exists_new.mpr ⟨acceptable.1, ⟨length ▸ acceptable.2.length,
      all_safeFirmwareByte_iff.mp (safe ▸ all_safeFirmwareByte_iff.mpr acceptable.2.safe)⟩⟩
    obtain ⟨named', entered'⟩ := new_ok.mp second
    refine .inr ⟨credentials, credentials', rfl, second, ?_⟩
    rw [encodeRequest_length, encodeRequest_length, named, named', entered, entered', length]
  | error error =>
    -- The checks look at the length and the safety of the password only.
    refine .inl ⟨error, rfl, ?_⟩
    unfold new at first ⊢
    split_ifs at first with name phrase nameSafe phraseSafe
    · rw [dif_pos name, dif_pos (length ▸ phrase), dif_pos nameSafe, dif_neg (safe ▸ phraseSafe)]
      exact first
    · rw [dif_pos name, dif_pos (length ▸ phrase), dif_neg nameSafe]
      exact first
    · rw [dif_pos name, dif_neg (length ▸ phrase)]
      exact first
    · rw [dif_neg name]
      exact first

/-- Whoever sees what the command shows, how it ends, and how many bytes it sends to whom, learns
nothing about the password but its length, and whether the firmware can quote it. -/
theorem wifi_setup_hides_password (parser : XmlParser) (config : Ros1Config) (args : WifiSetupArgs)
    {source other : PasswordSource} {password password' : Text} (network : Network)
    (entered : (readPassword args.passwordStdin source).2 = .inr (.ok password))
    (entered' : (readPassword args.passwordStdin other).2 = .inr (.ok password'))
    (length : password.utf8.length = password'.utf8.length)
    (safe : password.utf8.all safeFirmwareByte = password'.utf8.all safeFirmwareByte) :
    (wifiSetup parser config args source network).seen =
      (wifiSetup parser config args other network).seen := by
  -- The same is shown while the password is entered.
  have asked : readPassword args.passwordStdin source =
      ((readPassword args.passwordStdin source).1, .inr (.ok password)) := Prod.ext rfl entered
  have asked' : readPassword args.passwordStdin other =
      ((readPassword args.passwordStdin other).1, .inr (.ok password')) := Prod.ext rfl entered'
  have shown := (entered_of_readPassword asked).2
  have shown' := (entered_of_readPassword asked').2
  obtain ⟨error, refused, refused'⟩ | ⟨credentials, credentials', made, made', same⟩ :=
    WifiCredentials.new_alike args.ssid length safe
  · rw [wifiSetup_refused parser config network asked refused,
      wifiSetup_refused parser config network asked' refused', shown, shown']
  · -- On the network the two runs stay in step, and so do their reports.
    have inStep := inStep_provisionWifi parser config (Duration.fromSecs args.timeoutSeconds) same
      network
    cases sent : provisionWifi parser config credentials (Duration.fromSecs args.timeoutSeconds)
        network with
    | mk reply after =>
      cases sent' : provisionWifi parser config credentials'
          (Duration.fromSecs args.timeoutSeconds) network with
      | mk reply' after' =>
        rw [sent, sent'] at inStep
        have replies : reply = reply' := inStep.replies.eq
        subst replies
        rw [wifiSetup_sent parser config network asked made sent,
          wifiSetup_sent parser config network asked' made' sent', shown, shown']
        exact Prod.ext rfl (Prod.ext rfl inStep.logs)

/-- Two passwords of eight letters are sent to a robot that accepts them. -/
theorem wifi_setup_hides_password_piped :
    (wifiSetup (fun _ => some sampleDocument) sampleConfig pipedArgs (piped "password".toList)
      ⟨sampleScript [[1], [1, 0, 0, 0], [0]], []⟩).seen =
    (wifiSetup (fun _ => some sampleDocument) sampleConfig pipedArgs (piped "favorite".toList)
      ⟨sampleScript [[1], [1, 0, 0, 0], [0]], []⟩).seen :=
  wifi_setup_hides_password _ _ pipedArgs _ (by rfl) (by rfl) (by decide) (by decide)

end Scout.Wifi
