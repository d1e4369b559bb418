import Scout.Codec.Fields
import Scout.Stream.Shell
import Scout.Wifi.Credentials

/-! Credentials come back unchanged from the bytes of a request and from a quoted command line. -/

namespace Scout.Wifi

open Scout.Stream Decoder

/-- The codes of printable characters that are neither quotes nor backslashes. -/
def IsFirmwareCode (code : Nat) : Prop :=
  (32 ≤ code ∧ code ≤ 126) ∧ code ≠ 39 ∧ code ≠ 34 ∧ code ≠ 92

/-- A text of limited length with such bytes only. -/
structure Acceptable (least most : Nat) (text : Text) : Prop where
  length : least ≤ text.utf8.length ∧ text.utf8.length ≤ most
  safe : ∀ byte ∈ text.utf8, IsFirmwareCode byte.toNat

/-- Read a request back, with a limit for each of its two texts. -/
def readRequest (ssidLimit passwordLimit : Nat) : Decode (UInt8 × Text × Text) := do
  let mode ← readU8
  let ssid ← readStringLimited ssidLimit
  let password ← readStringLimited passwordLimit
  finish
  return (mode, ssid, password)

section Bytes

/-- The firmware can quote exactly the bytes with such codes. -/
theorem safeFirmwareByte_iff {byte : UInt8} :
    safeFirmwareByte byte = true ↔ IsFirmwareCode byte.toNat := by
  -- Both sides list the same codes.
  unfold safeFirmwareByte IsFirmwareCode
  simp only [Bool.and_eq_true, Bool.not_eq_true', Bool.or_eq_false_iff, decide_eq_true_eq,
    beq_eq_false_iff_ne, ne_eq, UInt8.le_iff_toNat_le, ← UInt8.toNat_inj]
  simp
  omega

/-- The bytes of a text are accepted exactly if all their codes are such. -/
theorem all_safeFirmwareByte_iff {text : Text} :
    text.utf8.all safeFirmwareByte = true ↔ ∀ byte ∈ text.utf8, IsFirmwareCode byte.toNat := by
  simp only [List.all_eq_true, safeFirmwareByte_iff]

/-- A text with such bytes has no single quote. -/
theorem quoteless_of_safe {text : Text} (safe : ∀ byte ∈ text.utf8, IsFirmwareCode byte.toNat) :
    '\'' ∉ text := by
  -- The quote would be a byte of its own.
  intro member
  have codes := Text.forall_of_utf8 safe fun code kind => by
    unfold IsFirmwareCode at kind
    omega
  exact (codes '\'' member).2.1 rfl

end Bytes

namespace WifiCredentials

section Validation

variable {ssid password : Text} {credentials : WifiCredentials}

/-- The name of accepted credentials is acceptable. -/
theorem acceptable_ssid (credentials : WifiCredentials) : Acceptable 1 32 credentials.ssid where
  length := credentials.ssidLength
  safe := all_safeFirmwareByte_iff.mp credentials.ssidSafe

/-- The passphrase of accepted credentials is acceptable. -/
theorem acceptable_password (credentials : WifiCredentials) :
    Acceptable 8 63 credentials.password where
  length := credentials.passwordLength
  safe := all_safeFirmwareByte_iff.mp credentials.passwordSafe

/-- Accepted credentials are the two texts themselves. -/
theorem new_ok :
    new ssid password = .ok credentials ↔
      credentials.ssid = ssid ∧ credentials.password = password := by
  constructor
  · intro accepted
    unfold new at accepted
    -- Each of the four checks has been passed.
    by_cases ssidLength : 1 ≤ ssid.utf8.length ∧ ssid.utf8.length ≤ 32
    · rw [dif_pos ssidLength] at accepted
      by_cases passwordLength : 8 ≤ password.utf8.length ∧ password.utf8.length ≤ 63
      · rw [dif_pos passwordLength] at accepted
        by_cases ssidSafe : ssid.utf8.all safeFirmwareByte = true
        · rw [dif_pos ssidSafe] at accepted
          by_cases passwordSafe : password.utf8.all safeFirmwareByte = true
          · rw [dif_pos passwordSafe] at accepted
            cases accepted
            exact ⟨rfl, rfl⟩
          · rw [dif_neg passwordSafe] at accepted
            cases accepted
        · rw [dif_neg ssidSafe] at accepted
          cases accepted
      · rw [dif_neg passwordLength] at accepted
        cases accepted
    · rw [dif_neg ssidLength] at accepted
      cases accepted
  · intro same
    obtain ⟨rfl, rfl⟩ := same
    unfold new
    rw [dif_pos credentials.ssidLength, dif_pos credentials.passwordLength,
      dif_pos credentials.ssidSafe, dif_pos credentials.passwordSafe]

/-- Two texts are accepted exactly if both are acceptable. -/
theorem exists_new :
    (∃ credentials, new ssid password = .ok credentials) ↔
      Acceptable 1 32 ssid ∧ Acceptable 8 63 password := by
  -- The four checks are those of the two texts.
  constructor
  · intro found
    obtain ⟨credentials, accepted⟩ := found
    obtain ⟨rfl, rfl⟩ := new_ok.mp accepted
    exact ⟨credentials.acceptable_ssid, credentials.acceptable_password⟩
  · intro both
    obtain ⟨name, phrase⟩ := both
    exact ⟨⟨ssid, password, name.length, phrase.length, all_safeFirmwareByte_iff.mpr name.safe,
      all_safeFirmwareByte_iff.mpr phrase.safe⟩, new_ok.mpr ⟨rfl, rfl⟩⟩

end Validation

section Requests

/-- Both ways to append a text to a request are the same for a text that is not too long. -/
theorem writeString_eq (buffer : Bytes) {text : Text} (short : text.utf8.length < 2 ^ 32) :
    Wifi.writeString buffer text = buffer ++ lengthPrefixed text.utf8 := by
  -- The length fits into four bytes.
  have kept : (UInt32.ofNat text.utf8.length).toNat = text.utf8.length :=
    UInt32.toNat_ofNat_of_lt' short
  rw [Wifi.writeString, lengthPrefixed, u32ToLeBytes, kept, List.append_assoc]

/-- A request consists of the mode and of the two texts, each after its length. -/
theorem encodeRequest_eq (credentials : WifiCredentials) :
    credentials.encodeRequest =
      [1] ++ (lengthPrefixed credentials.ssid.utf8 ++ lengthPrefixed credentials.password.utf8) := by
  -- Both texts are short.
  have name := credentials.ssidLength.2
  have phrase := credentials.passwordLength.2
  rw [encodeRequest, writeString_eq _ (by omega), writeString_eq _ (by omega), List.append_assoc]

/-- A request is read back exactly from its mode and its two texts. -/
theorem reads_readRequest (ssidLimit passwordLimit : Nat) :
    Reads true (readRequest ssidLimit passwordLimit)
      (fun request => (request.2.1.utf8.length ≤ ssidLimit ∧ request.2.1.utf8.length < 2 ^ 32) ∧
        request.2.2.utf8.length ≤ passwordLimit ∧ request.2.2.utf8.length < 2 ^ 32)
      fun request => [request.1] ++
        (lengthPrefixed request.2.1.utf8 ++ lengthPrefixed request.2.2.utf8) := by
  -- The three fields are read in their order.
  refine Reads.whole (Reads.field (fun request : UInt8 × Text × Text => request.1) reads_readU8
    fun _ => Reads.field (fun request : UInt8 × Text × Text => request.2.1)
      (reads_readStringLimited ssidLimit) fun _ =>
    Reads.field (fun request : UInt8 × Text × Text => request.2.2)
      (reads_readStringLimited passwordLimit) fun _ => reads_finish fun request => ?_) ?_ ?_
  · -- A request is determined by its three fields.
    constructor
    · intro known
      obtain ⟨⟨⟨_, rfl⟩, rfl⟩, rfl⟩ := known
      rfl
    · intro same
      subst same
      exact ⟨⟨⟨trivial, rfl⟩, rfl⟩, rfl⟩
  · intro request
    constructor
    · exact fun valid => ⟨valid.2.1, valid.2.2.1⟩
    · exact fun valid => ⟨trivial, valid.1, valid.2, trivial⟩
  · intro request _
    simp

/-- A request is read back as the mode and the credentials, with nothing left. -/
theorem decoded_encodeRequest (credentials : WifiCredentials) {ssidLimit passwordLimit : Nat}
    (name : 32 ≤ ssidLimit) (phrase : 63 ≤ passwordLimit) :
    decoded (readRequest ssidLimit passwordLimit (Decoder.new credentials.encodeRequest)) =
      .ok (1, credentials.ssid, credentials.password) := by
  -- The request is the layout of these three.
  have ssidLength := credentials.ssidLength.2
  have passwordLength := credentials.passwordLength.2
  rw [decoded_ok, decoded_iff (reads_readRequest ssidLimit passwordLimit), encodeRequest_eq]
  exact ⟨⟨⟨by dsimp only; omega, by dsimp only; omega⟩, by dsimp only; omega, by dsimp only; omega⟩,
    rfl⟩

/-- A request takes nine bytes more than the two texts. -/
theorem encodeRequest_length (credentials : WifiCredentials) :
    credentials.encodeRequest.length =
      9 + credentials.ssid.utf8.length + credentials.password.utf8.length := by
  -- One byte comes first, and four bytes for the length of each text.
  rw [encodeRequest_eq]
  simp only [lengthPrefixed, List.length_append, List.length_singleton, u32ToLeBytes_length]
  omega

/-- Different credentials have different requests. -/
theorem encodeRequest_injective : Function.Injective encodeRequest := by
  -- Equal requests are read back as the same credentials.
  intro first second same
  have firstRead := first.decoded_encodeRequest (Nat.le_refl 32) (Nat.le_refl 63)
  have secondRead := second.decoded_encodeRequest (Nat.le_refl 32) (Nat.le_refl 63)
  rw [same, secondRead] at firstRead
  simp only [Except.ok.injEq, Prod.mk.injEq, true_and] at firstRead
  obtain ⟨name, phrase⟩ := firstRead
  cases first
  cases second
  dsimp only at name phrase
  subst name phrase
  rfl

end Requests

/-- Credentials that nothing on their way to the robot changes. -/
structure Kept (credentials : WifiCredentials) : Prop where
  /-- Whoever reads the request with limits that suffice finds the mode and the two texts. -/
  readBack : ∀ more further, decoded (readRequest (32 + more) (63 + further)
    (Decoder.new credentials.encodeRequest)) = .ok (1, credentials.ssid, credentials.password)
  short : credentials.encodeRequest.length ≤ 104
  /-- Between single quotes each of the texts is one word for the shell. -/
  quotedSsid : Shell.words (Shell.quoted credentials.ssid) = some [credentials.ssid]
  quotedPassword : Shell.words (Shell.quoted credentials.password) = some [credentials.password]

/-- Credentials are accepted exactly if they are safe, and then nothing changes them. -/
theorem credentials_round_trip :
    (∀ ssid password, (∃ credentials, new ssid password = .ok credentials) ↔
      Acceptable 1 32 ssid ∧ Acceptable 8 63 password) ∧
    (∀ ssid password credentials, new ssid password = .ok credentials ↔
      credentials.ssid = ssid ∧ credentials.password = password) ∧
    (∀ credentials, Kept credentials) ∧ Function.Injective encodeRequest := by
  refine ⟨fun ssid password => exists_new, fun ssid password credentials => new_ok,
    fun credentials => ⟨fun more further => ?_, ?_, ?_, ?_⟩, encodeRequest_injective⟩
  · exact credentials.decoded_encodeRequest (Nat.le_add_right _ _) (Nat.le_add_right _ _)
  · -- The longest texts have thirty-two and sixty-three bytes.
    have name := credentials.ssidLength.2
    have phrase := credentials.passwordLength.2
    rw [encodeRequest_length]
    omega
  · exact Shell.words_quoted (quoteless_of_safe credentials.acceptable_ssid.safe)
  · exact Shell.words_quoted (quoteless_of_safe credentials.acceptable_password.safe)

end WifiCredentials
end Scout.Wifi
