import Scout.Machine.Twins
import Scout.Wifi.Provision

/-! Nothing but the bytes that are handed over depends on the password that is sent. -/

namespace Scout.Wifi

open Machine Dialogue NetworkM

/-- What is seen of an event by someone who sees how many bytes are offered, but not which. -/
def NetworkEvent.outline : NetworkEvent → NetworkEvent
  | .write stream offered result => .write stream (List.replicate offered.length 0) result
  | event => event

/-- Two programs return the same and do the same, up to the bytes that they hand over. -/
abbrev Indistinguishable {ε α : Type} (first second : NetworkM ε α) : Prop :=
  Alike NetworkEvent.outline Eq first second

section Calls

/-- The time that is left is measured alike. -/
theorem alike_remaining (deadline : Instant) :
    Indistinguishable (remaining deadline) (remaining deadline) := by
  -- Both runs read the same time.
  refine Alike.follow alike_same fun now => ?_
  split
  · exact alike_pure rfl
  · exact alike_fail

/-- As many bytes are sent alike. -/
theorem alike_send (stream : TcpStream) {offered other : Bytes}
    (same : offered.length = other.length) :
    Indistinguishable (send stream offered) (send stream other) := by
  -- The answer fits both, or neither of them.
  refine alike_ask fun _ _ answer _ => ?_
  cases answer with
  | count result =>
    dsimp only
    rw [same]
    split
    · exact fits_result (by simp [NetworkEvent.outline, same])
    · exact .unfit
  | _ => exact .unfit

variable (connection : Connection)

/-- Reading is alike. -/
theorem alike_read (room : Nat) :
    Indistinguishable (connection.read room) (connection.read room) :=
  ((alike_remaining _).mapError _).follow fun _ => Alike.follow alike_same fun _ => alike_same

/-- Writing as many bytes is alike. -/
theorem alike_write {bytes other : Bytes} (same : bytes.length = other.length) :
    Indistinguishable (connection.write bytes) (connection.write other) :=
  ((alike_remaining _).mapError _).follow fun _ =>
    Alike.follow alike_same fun _ => alike_send _ same

/-- Filling a buffer is alike. -/
theorem alike_readExact (length : Nat) :
    Indistinguishable (connection.readExact length) (connection.readExact length) := by
  -- The rounds are alike, and so is the loop.
  refine alike_repeatUntil_same (fun filled => ?_) []
  unfold Connection.readRound
  split
  · exact alike_pure rfl
  · refine (alike_read connection _).caught.follow fun result => ?_
    split
    · exact alike_fail
    · exact alike_pure rfl
    · split
      · exact alike_pure rfl
      · exact alike_fail

/-- Writing all of as many bytes is alike. -/
theorem alike_writeAll {bytes other : Bytes} (same : bytes.length = other.length) :
    Indistinguishable (connection.writeAll bytes) (connection.writeAll other) := by
  -- In every round as many bytes are left on both sides.
  have round : ∀ left right : Bytes, left.length = right.length →
      Alike NetworkEvent.outline (Rounds (fun left right => left.length = right.length) Eq)
        (connection.writeRound left) (connection.writeRound right) := by
    intro left right same
    have empty : left.isEmpty = right.isEmpty := by
      rw [Bool.eq_iff_iff, List.isEmpty_iff_length_eq_zero, List.isEmpty_iff_length_eq_zero, same]
    unfold Connection.writeRound
    rw [empty]
    split
    · exact alike_pure (.finished rfl)
    · refine (alike_write connection same).caught.follow fun result => ?_
      split
      · exact alike_fail
      · exact alike_pure (.next (by rw [List.length_drop, List.length_drop, same]))
      · split
        · exact alike_pure (.next same)
        · exact alike_fail
  exact alike_repeatUntil round same

/-- Writing a frame of as many bytes is alike. -/
theorem alike_writeFrame {body other : Bytes} (same : body.length = other.length) :
    Indistinguishable (writeFrame connection.writeAll body)
      (writeFrame connection.writeAll other) := by
  -- The same length is written first.
  unfold writeFrame
  rw [same]
  exact (alike_writeAll connection rfl).follow fun _ => alike_writeAll connection same

/-- Reading a frame is alike. -/
theorem alike_readFrame (limit : Nat) :
    Indistinguishable (readFrame connection.readExact limit)
      (readFrame connection.readExact limit) := by
  -- The same length is read first.
  refine ((alike_readExact connection 4).mapError _).follow fun header => ?_
  dsimp only
  split
  · exact alike_fail
  · exact (alike_readExact connection _).mapError _

/-- Reading what the service replies is alike. -/
theorem alike_readReply : Indistinguishable (readReply connection) (readReply connection) := by
  -- What is received is the same in both runs.
  refine (alike_readExact connection 1).caught.follow fun result => ?_
  split
  · exact alike_pure rfl
  · split
    · exact (alike_readFrame connection 1).caught.follow fun _ => alike_ofExcept
    · split
      · refine (alike_readFrame connection maxServiceError).caught.follow fun result => ?_
        split
        · exact alike_fail
        · exact alike_pure rfl
      · exact alike_pure rfl

/-- Credentials of the same length are sent alike. -/
theorem alike_sendCredentials {credentials other : WifiCredentials}
    (same : credentials.encodeRequest.length = other.encodeRequest.length) :
    Indistinguishable (sendCredentials connection credentials)
      (sendCredentials connection other) := by
  -- Only what is written differs.
  refine (alike_writeFrame connection same).caught.follow fun result => ?_
  split
  · exact alike_pure rfl
  · exact alike_readReply connection

end Calls

/-- Asking the robot to join a network is alike for passwords of the same length. -/
theorem inStep_provisionWifi (parser : XmlParser) (config : Ros1Config) (timeout : Duration)
    {credentials other : WifiCredentials}
    (same : credentials.encodeRequest.length = other.encodeRequest.length) (network : Network) :
    InStep NetworkEvent.outline Eq (provisionWifi parser config credentials timeout network)
      (provisionWifi parser config other timeout network) := by
  -- Up to the handshake the credentials are not looked at.
  unfold provisionWifi
  cases found : establish parser config timeout network with
  | mk reply after =>
    cases reply with
    | returned connection =>
      rw [bind_returned found, bind_returned found]
      exact alike_sendCredentials connection same after.script after.log after.log rfl
    | failed error =>
      rw [bind_failed found, bind_failed found]
      exact ⟨.failed error, rfl, rfl⟩
    | waiting =>
      rw [bind_waiting found, bind_waiting found]
      exact ⟨.waiting, rfl, rfl⟩

end Scout.Wifi
