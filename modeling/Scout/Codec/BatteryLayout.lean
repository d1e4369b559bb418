import Scout.Codec.Battery

/-! The status of the battery is decoded from exactly its layout, and refused for a reason otherwise. -/

namespace Scout

open Scout.Stream Cursor Decoder

namespace BatteryState

/-- The state of an integer has that integer. -/
theorem toInt32_ofInt32 (value : Int32) : (ofInt32 value).toInt32 = value := by
  -- Three integers have names of their own.
  unfold ofInt32
  split
  · rename_i zero
    exact zero.symm
  split
  · rename_i one
    exact one.symm
  split
  · rename_i two
    exact two.symm
  · rfl

/-- The state of an integer is properly named. -/
theorem named_ofInt32 (value : Int32) : (ofInt32 value).Named := by
  -- An integer with a name of its own is not numbered.
  intro number numbered
  unfold ofInt32 at numbered
  split at numbered
  · cases numbered
  split at numbered
  · cases numbered
  split at numbered
  · cases numbered
  · cases numbered
    exact ⟨by assumption, by assumption, by assumption⟩

/-- A properly named state is that of its integer. -/
theorem ofInt32_toInt32 {state : BatteryState} (named : state.Named) :
    ofInt32 state.toInt32 = state := by
  -- Only a numbered state could have another name.
  cases state with
  | unknown value =>
    obtain ⟨zero, one, two⟩ := named value rfl
    rw [toInt32, ofInt32, if_neg zero, if_neg one, if_neg two]
  | _ => rfl

end BatteryState

namespace Decoder

/-- A check that so many bytes are left passes exactly if they are, and stays where it is. -/
theorem require_ok {requiredBytes : Nat} {before after : Decoder} :
    require requiredBytes before = .ok () after ↔
      requiredBytes ≤ (rest before).length ∧ after = before := by
  -- The guard of the definition decides.
  by_cases few : before.remaining < requiredBytes
  · have failed : require requiredBytes before =
        .error (.unexpectedEnd requiredBytes before.remaining) before := by
      show (if before.remaining < requiredBytes then _ else _ : Decode Unit) before = _
      rw [if_pos few]
      rfl
    rw [failed]
    rw [remaining_eq] at few
    exact iff_of_false nofun fun passed => absurd passed.1 (Nat.not_le.mpr few)
  · have passed : require requiredBytes before = .ok () before := by
      show (if before.remaining < requiredBytes then _ else _ : Decode Unit) before = _
      rw [if_neg few]
      rfl
    rw [passed]
    rw [remaining_eq] at few
    simp [Nat.not_lt.mp few, eq_comm]

/-- Where too few bytes are left, the check says how many are missing. -/
theorem errorOf_lacking {requiredBytes : Nat} {place : Decoder}
    (few : (rest place).length < requiredBytes) :
    errorOf (require requiredBytes place) =
      some (.unexpectedEnd requiredBytes (rest place).length) := by
  -- The guard of the definition holds.
  show errorOf ((if place.remaining < requiredBytes then _ else _ : Decode Unit) place) = _
  rw [remaining_eq, if_pos few]
  rfl

/-- What follows the check is reached where enough bytes are left. -/
theorem errorOf_require {α : Type} {requiredBytes : Nat} {next : Unit → Decode α} {place : Decoder}
    {problem : Option DecodeError}
    (continued : requiredBytes ≤ (rest place).length → errorOf (next () place) = problem) :
    errorOf ((require requiredBytes >>= next) place) =
      if (rest place).length < requiredBytes then
        some (.unexpectedEnd requiredBytes (rest place).length)
      else problem := by
  -- The check either fails or stays where it is.
  by_cases few : (rest place).length < requiredBytes
  · rw [if_pos few]
    exact errorOf_first (errorOf_lacking few)
  · have enough := Nat.not_lt.mp few
    rw [if_neg few, bind_found (require_ok.mpr ⟨enough, rfl⟩)]
    exact continued enough

end Decoder

namespace BatteryStatus

/-- The bytes of a vector of integers, after their number. -/
def layout (raw : List Int32) : Bytes :=
  u32ToLeBytes (UInt32.ofNat raw.length) ++ raw.flatMap i32ToLeBytes

/-- A vector of the right size, whose second integer is a percentage. -/
structure Accepted (raw : List Int32) : Prop where
  few : 3 ≤ raw.length
  many : raw.length ≤ maxBatteryStatusValues
  percentage : ∀ value, raw[1]? = some value → 0 ≤ value.toInt ∧ value.toInt ≤ 100

/-- A status whose fields say what the first three integers of its vector do. -/
structure Describes (status : BatteryStatus) : Prop where
  state : status.raw[0]? = some status.state.toInt32
  named : status.state.Named
  percentage : ∃ value, status.raw[1]? = some value ∧ (status.percentage.toNat : Int) = value.toInt
  powered : ∃ value, status.raw[2]? = some value ∧ (status.externallyPowered = true ↔ value ≠ 0)

/-- The second integer of a message. -/
def secondValue (message : Bytes) : Int32 :=
  (UInt32.ofNat (ofLittleEndian ((message.drop 8).take 4))).toInt32

/-- Why a message is not a status, if it is not. -/
def rejection (message : Bytes) : Option DecodeError :=
  let count := announcedLength message
  if message.length < 4 then some (.unexpectedEnd 4 message.length)
  else if maxBatteryStatusValues < count then some (.invalidLength (UInt32.ofNat count))
  else if count < 3 then some tooShort
  else if message.length - 4 < count * 4 then some (.unexpectedEnd (count * 4) (message.length - 4))
  else if count * 4 < message.length - 4 then some (.trailingBytes (message.length - 4 - count * 4))
  -- The range is only judged in a message that is otherwise complete.
  else if (secondValue message).toInt < 0 ∨ 100 < (secondValue message).toInt then
    some notPercentage
  else none

/-- The byte of an integer exists if the integer is in its range. -/
theorem u8OfI32_filter {value : Int32} {percentage : UInt8} :
    (u8OfI32 value).filter (· ≤ 100) = some percentage ↔
      (percentage.toNat : Int) = value.toInt ∧ value.toInt ≤ 100 := by
  -- In the range of a byte the conversion keeps the value.
  rw [Option.filter_eq_some_iff, u8OfI32]
  have small := percentage.toNat_lt
  by_cases range : 0 ≤ value.toInt ∧ value.toInt < 256
  · have kept : (UInt8.ofNat value.toInt.toNat).toNat = value.toInt.toNat :=
      UInt8.toNat_ofNat_of_lt' (by show _ < 256; omega)
    rw [if_pos range, Option.some.injEq, decide_eq_true_eq, UInt8.le_iff_toNat_le, ← UInt8.toNat_inj,
      kept]
    show _ ∧ percentage.toNat ≤ 100 ↔ _
    omega
  · rw [if_neg range]
    refine iff_of_false (fun found => nomatch found.1) fun same => range ?_
    omega

/-- A status is determined by its vector. -/
theorem Describes.unique {first second : BatteryStatus} (one : first.Describes)
    (other : second.Describes) (same : first.raw = second.raw) : first = second := by
  obtain ⟨state, percentage, powered, raw⟩ := first
  obtain ⟨state', percentage', powered', raw'⟩ := second
  obtain ⟨status, named, ⟨value, found, charged⟩, ⟨power, at_, powers⟩⟩ := one
  obtain ⟨status', named', ⟨value', found', charged'⟩, ⟨power', at', powers'⟩⟩ := other
  dsimp only at *
  subst same
  -- Both statuses look at the same three integers.
  rw [status, Option.some.injEq] at status'
  rw [found, Option.some.injEq] at found'
  rw [at_, Option.some.injEq] at at'
  subst found' at'
  have states : state = state' := by
    rw [← BatteryState.ofInt32_toInt32 named, status', BatteryState.ofInt32_toInt32 named']
  have percentages : percentage = percentage' := UInt8.toNat_inj.mp (by omega)
  have powers : powered = powered' := Bool.eq_iff_iff.mpr (powers.trans powers'.symm)
  rw [states, percentages, powers]

/-- The second of at least three integers. -/
def secondOf {length : Nat} (raw : Vector Int32 length) : Int32 := raw.toList[1]?.getD 0

section Vectors

variable {length : Nat} {raw : Vector Int32 length} {enough : 3 ≤ length}

/-- The second integer of a vector is the second of its list. -/
theorem getElem?_secondOf (enough : 3 ≤ length) : raw.toList[1]? = some (secondOf raw) := by
  -- There are enough values for a second one.
  have second : raw.toList[1]? = some raw[1] := by simp
  rw [secondOf, second]
  rfl

/-- What is made of integers describes the battery. -/
theorem describes_of_ofRaw {status : BatteryStatus} (built : ofRaw raw enough = .ok status) :
    (0 ≤ (secondOf raw).toInt ∧ (secondOf raw).toInt ≤ 100) ∧ status.Describes ∧
      status.raw = raw.toList := by
  -- The second value is a percentage, or there would be no status.
  have listed : raw.toList[1]? = some raw[1] := by simp
  have second : secondOf raw = raw[1] := by rw [secondOf, listed, Option.getD_some]
  unfold ofRaw at built
  rw [second]
  cases found : (u8OfI32 raw[1]).filter (· ≤ 100) with
  | none =>
    rw [found] at built
    cases built
  | some percentage =>
    rw [found] at built
    cases built
    obtain ⟨same, most⟩ := u8OfI32_filter.mp found
    refine ⟨⟨by omega, most⟩, ⟨?_, BatteryState.named_ofInt32 _, ⟨raw[1], ?_, same⟩,
      ⟨raw[2], ?_, ?_⟩⟩, rfl⟩
    · rw [BatteryState.toInt32_ofInt32]
      simp
    all_goals simp

/-- Integers are refused exactly if the second is no percentage. -/
theorem ofRaw_error {error : DecodeError} :
    ofRaw raw enough = .error error ↔
      ((secondOf raw).toInt < 0 ∨ (100 : Int) < (secondOf raw).toInt) ∧
        error = notPercentage := by
  have listed : raw.toList[1]? = some raw[1] := by simp
  have second : secondOf raw = raw[1] := by rw [secondOf, listed, Option.getD_some]
  unfold ofRaw
  rw [second]
  cases found : (u8OfI32 raw[1]).filter (· ≤ 100) with
  | none =>
    -- A percentage would have been found.
    have outside : raw[1].toInt < 0 ∨ (100 : Int) < raw[1].toInt := by
      by_contra inside
      have kept : (UInt8.ofNat raw[1].toInt.toNat).toNat = raw[1].toInt.toNat :=
        UInt8.toNat_ofNat_of_lt' (by show _ < 256; omega)
      have range : ((UInt8.ofNat raw[1].toInt.toNat).toNat : Int) = raw[1].toInt ∧
          raw[1].toInt ≤ 100 := by omega
      have some_ := u8OfI32_filter.mpr range
      rw [found] at some_
      cases some_
    constructor
    · intro refused
      cases refused
      exact ⟨outside, rfl⟩
    · intro refused
      rw [refused.2]
  | some percentage =>
    obtain ⟨same, most⟩ := u8OfI32_filter.mp found
    constructor
    · intro built
      cases built
    · intro outside
      omega

/-- Integers describe the battery if the second is a percentage. -/
theorem ofRaw_ok {status : BatteryStatus} :
    ofRaw raw enough = .ok status ↔
      (0 ≤ (secondOf raw).toInt ∧ (secondOf raw).toInt ≤ 100) ∧
        status.Describes ∧ status.raw = raw.toList := by
  constructor
  · exact describes_of_ofRaw
  · intro described
    cases built : ofRaw raw enough with
    | error error =>
      have outside := (ofRaw_error.mp built).1
      omega
    | ok other =>
      -- The vector determines the status.
      obtain ⟨_, describes, listed⟩ := describes_of_ofRaw built
      rw [describes.unique described.2.1 (listed.trans described.2.2.symm)]

end Vectors

/-- Integers are read exactly where their bytes stand. -/
theorem readValues_passes {length : Nat} {raw : Vector Int32 length} {before after : Decoder} :
    readEach readI32 length before = .ok raw after ↔
      Passes (raw.toList.flatMap i32ToLeBytes) before after :=
  (reads_readEach reads_readI32 length _ _ _).trans (by simp)

/-- Where enough bytes are left, the loop that reads the integers does not fail. -/
theorem readValues_ok {length : Nat} {place : Decoder} (enough : length * 4 ≤ (rest place).length) :
    ∃ raw, readEach readI32 length place = .ok raw (skip place (length * 4)) ∧
      raw.toList.flatMap i32ToLeBytes <+: rest place := by
  -- Each value takes four bytes.
  rw [Nat.mul_comm] at enough ⊢
  obtain ⟨raw, found⟩ := fixed_readI32.readEach enough
  exact ⟨raw, found, (readValues_passes.mp found).1⟩

/-- So many integers take four times as many bytes. -/
theorem flatMap_length (raw : List Int32) : (raw.flatMap i32ToLeBytes).length = raw.length * 4 := by
  -- Each of them takes four.
  simp [List.length_flatMap]

/-- The second integer that is read is the one that stands in the message. -/
theorem secondValue_eq {message : Bytes} {length : Nat} {raw : Vector Int32 length}
    (enough : 3 ≤ length) (front : raw.toList.flatMap i32ToLeBytes <+: message.drop 4) :
    secondValue message = secondOf raw := by
  obtain ⟨behind, whole⟩ := front
  have second : raw.toList[1]? = some (secondOf raw) := getElem?_secondOf enough
  match listed : raw.toList with
  | [] => simp [listed] at second
  | [_] => simp [listed] at second
  | first :: value :: others =>
    -- Four bytes of the number and four of the first integer come before.
    rw [listed, List.getElem?_cons_succ, List.getElem?_cons_zero, Option.some.injEq] at second
    rw [listed, List.flatMap_cons, List.flatMap_cons, List.append_assoc, List.append_assoc] at whole
    have later : message.drop 8 = i32ToLeBytes value ++ (others.flatMap i32ToLeBytes ++ behind) := by
      rw [← List.drop_drop (i := 4) (j := 4), ← whole]
      exact List.drop_left' (i32ToLeBytes_length first)
    rw [secondValue, later, List.take_left' (i32ToLeBytes_length value), ← second]
    show (UInt32.ofNat (ofLittleEndian (littleEndian 4 value.toUInt32.toNat))).toInt32 = value
    rw [ofLittleEndian_littleEndian value.toUInt32.toNat_lt, UInt32.ofNat_toNat]
    exact Int32.toInt32_toUInt32 value

/-- What the integers of a complete message say, or why they say nothing. -/
theorem errorOf_meant {length : Nat} {raw : Vector Int32 length} {enough : 3 ≤ length}
    {place : Decoder} :
    errorOf ((ofExcept (ofRaw raw enough) : Decode BatteryStatus) place) =
      if (secondOf raw).toInt < 0 ∨ (100 : Int) < (secondOf raw).toInt then
        some notPercentage
      else none := by
  -- The second value decides.
  cases meant : ofRaw raw enough with
  | ok status =>
    obtain ⟨range, _⟩ := ofRaw_ok.mp meant
    rw [if_neg (by omega)]
    rfl
  | error error =>
    obtain ⟨outside, rfl⟩ := ofRaw_error.mp meant
    rw [if_pos outside]
    rfl

/-- Decoding fails as the first check says that the message does not pass. -/
theorem errorOf_decode (message : Bytes) : errorOf (decode (new message)) = rejection message := by
  -- The checks are made one after another, and the loop between them does not fail.
  unfold decode rejection
  refine (fixed_readU32.errorOf_bind fun _ rawLength found => ?_).trans rfl
  rw [rest_new] at *
  have number := announcedLength_of_readU32 found
  rw [rest_new] at number
  rw [number, UInt32.ofNat_toNat]
  by_cases many : maxBatteryStatusValues < rawLength.toNat
  · rw [if_pos many, if_pos many]
    rfl
  rw [if_neg many, if_neg many]
  by_cases few : rawLength.toNat < 3
  · rw [dif_pos few, if_pos few]
    rfl
  rw [dif_neg few, if_neg few]
  have left : (rest (skip (new message) 4)).length = message.length - 4 := by
    rw [rest_skip, rest_new, List.length_drop]
  refine (errorOf_require fun enough => ?_).trans (by rw [left])
  obtain ⟨raw, read, front⟩ := readValues_ok enough
  rw [bind_found read]
  rw [rest_skip, rest_new] at front
  rw [secondValue_eq (Nat.not_lt.mp few) front]
  have behind : (rest (skip (skip (new message) 4) (rawLength.toNat * 4))).length =
      message.length - 4 - rawLength.toNat * 4 := by
    rw [rest_skip, List.length_drop, left]
  refine errorOf_finish_bind.trans ?_
  rw [behind, errorOf_meant]
  by_cases more : rawLength.toNat * 4 < message.length - 4
  · rw [if_neg (by omega), if_pos more]
  · rw [if_pos (by omega), if_neg more]

/-- The integers of a vector, with their number in its type. -/
theorem exists_vector {raw : List Int32} {length : Nat} (same : raw.length = length) :
    ∃ vector : Vector Int32 length, vector.toList = raw :=
  ⟨⟨raw.toArray, by simpa using same⟩, rfl⟩

/-- The second integer of a vector is the one that is judged. -/
theorem Accepted.second {raw : List Int32} (accepted : Accepted raw) {length : Nat}
    {vector : Vector Int32 length} (listed : vector.toList = raw) (enough : 3 ≤ length) :
    0 ≤ (secondOf vector).toInt ∧ (secondOf vector).toInt ≤ 100 := by
  -- The vector has the integers of the list.
  apply accepted.percentage
  rw [← listed]
  exact getElem?_secondOf enough

/-- A message that is decoded is the layout of a vector that describes the battery. -/
theorem described_of_decode {message : Bytes} {status : BatteryStatus} {after : Decoder}
    (found : decode (new message) = .ok status after) :
    Accepted status.raw ∧ status.Describes ∧ message = layout status.raw := by
  unfold decode at found
  -- The number comes first, and it passes both checks.
  obtain ⟨rawLength, _, counted, found⟩ := bind_ok.mp found
  obtain ⟨_, ⟨⟨body, whole⟩, rfl⟩, _⟩ := (reads_readU32 _ _ _).mp counted
  rw [rest_new] at whole
  by_cases many : maxBatteryStatusValues < rawLength.toNat
  · rw [if_pos many] at found
    cases found
  rw [if_neg many] at found
  by_cases few : rawLength.toNat < 3
  · rw [dif_pos few] at found
    cases found
  rw [dif_neg few] at found
  -- Then come the integers, and after them the end.
  obtain ⟨_, _, required, found⟩ := bind_ok.mp found
  obtain ⟨_, rfl⟩ := require_ok.mp required
  obtain ⟨raw, _, read, found⟩ := bind_ok.mp found
  obtain ⟨⟨behind, front⟩, rfl⟩ := readValues_passes.mp read
  obtain ⟨_, _, finished, found⟩ := bind_ok.mp found
  obtain ⟨ended, rfl⟩ := finish_ok.mp finished
  cases meant : ofRaw raw (Nat.not_lt.mp few) with
  | error error =>
    rw [meant] at found
    cases found
  | ok described =>
    rw [meant] at found
    obtain ⟨rfl, _⟩ := pure_ok.mp found
    obtain ⟨range, describes, listed⟩ := ofRaw_ok.mp meant
    have size : described.raw.length = rawLength.toNat := by rw [listed, Vector.length_toList]
    rw [rest_skip, ← front, List.drop_left] at ended
    rw [ended, List.append_nil, rest_skip, rest_new, ← whole, List.drop_left] at front
    refine ⟨⟨by omega, by omega, fun value found => ?_⟩, describes, ?_⟩
    · -- The integer that was judged is the second of the vector.
      rw [listed, getElem?_secondOf (Nat.not_lt.mp few), Option.some.injEq] at found
      rwa [← found]
    · rw [layout, size, UInt32.ofNat_toNat, listed, front, whole]

/-- The layout of an accepted vector is decoded as what it describes. -/
theorem decode_of_described {status : BatteryStatus} (accepted : Accepted status.raw)
    (describes : status.Describes) :
    ∃ after, decode (new (layout status.raw)) = .ok status after := by
  have many : status.raw.length ≤ 64 := accepted.many
  have few := accepted.few
  obtain ⟨rawLength, number⟩ : ∃ rawLength, rawLength = UInt32.ofNat status.raw.length := ⟨_, rfl⟩
  have size : status.raw.length = rawLength.toNat := by
    rw [number]
    exact (UInt32.toNat_ofNat_of_lt' (by show _ < 2 ^ 32; omega)).symm
  obtain ⟨raw, listed⟩ := exists_vector size
  -- The number and the integers are read from the front, and nothing is left behind them.
  have counted : readU32 (new (layout status.raw)) =
      .ok rawLength (skip (new (layout status.raw)) 4) :=
    (reads_readU32 _ _ _).mpr ⟨trivial, ⟨number ▸ List.prefix_append _ _, rfl⟩, by simp⟩
  have left : rest (skip (new (layout status.raw)) 4) = status.raw.flatMap i32ToLeBytes := by
    rw [rest_skip, rest_new]
    exact List.drop_left' (u32ToLeBytes_length _)
  have required : require (rawLength.toNat * 4) (skip (new (layout status.raw)) 4) =
      .ok () (skip (new (layout status.raw)) 4) := by
    rw [require_ok, left, flatMap_length, size]
    exact ⟨Nat.le_refl _, rfl⟩
  have front : raw.toList.flatMap i32ToLeBytes <+: rest (skip (new (layout status.raw)) 4) := by
    have whole : rest (skip (new (layout status.raw)) 4) = raw.toList.flatMap i32ToLeBytes := by
      rw [left, listed]
    exact whole ▸ List.prefix_refl _
  have read := readValues_passes.mpr ⟨front, rfl⟩
  have meant : ofRaw raw (size ▸ few) = .ok status :=
    ofRaw_ok.mpr ⟨accepted.second listed (size ▸ few), describes, listed.symm⟩
  have ended : rest (skip (skip (new (layout status.raw)) 4)
      (raw.toList.flatMap i32ToLeBytes).length) = [] := by
    rw [rest_skip, left, listed, List.drop_length]
  unfold decode
  rw [bind_found counted, if_neg (by show ¬ 64 < _; omega), dif_neg (by omega),
    bind_found required, bind_found read, bind_found (finish_ok.mpr ⟨ended, rfl⟩), meant]
  exact ⟨_, rfl⟩

/-- A message is decoded exactly if it is the layout of an accepted vector, and described by it. -/
theorem decodeRos_ok {message : Bytes} {status : BatteryStatus} :
    decodeRos message = .ok status ↔
      Accepted status.raw ∧ status.Describes ∧ message = layout status.raw := by
  -- What is decoded is described, and what is described is decoded.
  rw [decodeRos, decoded_ok]
  constructor
  · intro found
    obtain ⟨after, found⟩ := found
    exact described_of_decode found
  · intro described
    obtain ⟨accepted, describes, rfl⟩ := described
    exact decode_of_described accepted describes

/-- Every accepted vector describes the battery. -/
theorem Accepted.described {raw : List Int32} (accepted : Accepted raw) :
    ∃ status : BatteryStatus, status.raw = raw ∧ status.Describes := by
  obtain ⟨vector, listed⟩ := exists_vector (rfl : raw.length = raw.length)
  cases meant : ofRaw vector accepted.few with
  | error error =>
    -- The second integer is a percentage.
    have range := accepted.second listed accepted.few
    have outside := (ofRaw_error.mp meant).1
    omega
  | ok status =>
    obtain ⟨_, describes, same⟩ := ofRaw_ok.mp meant
    exact ⟨status, same.trans listed, describes⟩

/-- A message is decoded as its vector says, or refused for the first check it fails. -/
structure DecodesVector (message : Bytes) : Prop where
  accepts : (∃ status, decodeRos message = .ok status) ↔
    ∃ raw, Accepted raw ∧ message = layout raw
  describes : ∀ status, decodeRos message = .ok status →
    Accepted status.raw ∧ status.Describes ∧ layout status.raw = message
  refuses : ∀ error, decodeRos message = .error error ↔ rejection message = some error
  /-- The integers can be read wherever the check before the loop passes. -/
  loops : ∀ (length : Nat) (place : Decoder), length * 4 ≤ place.remaining →
    ∃ raw, readEach readI32 length place = .ok raw (skip place (length * 4))

/-- Every message is decoded as its vector says, or refused for the first check it fails. -/
theorem decodeRos_vector (message : Bytes) : DecodesVector message where
  -- Each part is read off what is accepted and what is refused.
  accepts := by
    constructor
    · intro found
      obtain ⟨status, found⟩ := found
      obtain ⟨accepted, _, whole⟩ := decodeRos_ok.mp found
      exact ⟨status.raw, accepted, whole⟩
    · intro laid
      obtain ⟨raw, accepted, rfl⟩ := laid
      obtain ⟨status, rfl, describes⟩ := accepted.described
      exact ⟨status, decodeRos_ok.mpr ⟨accepted, describes, rfl⟩⟩
  describes status found := by
    obtain ⟨accepted, describes, whole⟩ := decodeRos_ok.mp found
    exact ⟨accepted, describes, whole.symm⟩
  refuses error := by
    rw [decodeRos, decoded_error, errorOf_decode]
  loops length place enough := by
    rw [remaining_eq] at enough
    obtain ⟨raw, read, _⟩ := readValues_ok enough
    exact ⟨raw, read⟩

end BatteryStatus
end Scout
