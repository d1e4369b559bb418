import Scout.Transport.BoundedMessage

/-! No limit of the transport rejects a message that its subscription could decode. -/

namespace Scout

open Scout.Stream

/-- Bytes after their number take four bytes more. -/
@[simp] theorem lengthPrefixed_length (value : Bytes) :
    (lengthPrefixed value).length = 4 + value.length := by
  -- The number takes four bytes.
  simp [lengthPrefixed]

/-- The bytes of some numbers are eight times as many. -/
@[simp] theorem numbersLayout_length {count : Nat} (numbers : Vector F64 count) :
    (numbersLayout numbers).length = count * 8 := by
  -- Each number takes eight bytes.
  simp [numbersLayout, List.length_flatMap]

/-- A header takes sixteen bytes and its identifier. -/
@[simp] theorem RosHeader.layout_length (header : RosHeader) :
    header.layout.length = 16 + header.frameId.utf8.length := by
  -- Three numbers and the length of the identifier come before it.
  simp only [RosHeader.layout, List.length_append, u32ToLeBytes_length, lengthPrefixed_length]
  omega

/-- A media frame takes forty-one bytes and its payload. -/
theorem ScoutFrame.layout_length (frame : ScoutFrame) :
    frame.layout.length = 41 + frame.data.length := by
  -- The widths of the ten fields before the payload add up.
  simp only [ScoutFrame.layout, List.length_append, u32ToLeBytes_length, u64ToLeBytes_length,
    i8ToLeBytes_length, i32ToLeBytes_length, lengthPrefixed_length]
  omega

/-- A message of the inertial sensor takes 296 bytes and its header. -/
theorem ImuSample.layout_length (sample : ImuSample) :
    sample.layout.length = sample.header.layout.length + 296 := by
  -- Thirty-seven numbers follow the header.
  simp [ImuSample.layout, Quaternion.layout, Vector3.layout]

/-- A message of a range sensor takes seventeen bytes and its header. -/
theorem RangeSample.layout_length (sample : RangeSample) :
    sample.layout.length = sample.header.layout.length + 17 := by
  -- One byte and four numbers follow the header.
  simp [RangeSample.layout]

/-- A message of the light sensor takes sixteen bytes and its header. -/
theorem IlluminanceSample.layout_length (sample : IlluminanceSample) :
    sample.layout.length = sample.header.layout.length + 16 := by
  -- Two numbers follow the header.
  simp [IlluminanceSample.layout]

/-- A status of the battery takes four bytes and four for each integer. -/
theorem BatteryStatus.layout_length (raw : List Int32) :
    (BatteryStatus.layout raw).length = 4 + raw.length * 4 := by
  -- The number of the integers comes first.
  rw [BatteryStatus.layout, List.length_append, u32ToLeBytes_length, flatMap_length]

/-- Whatever a decoder accepts is at most so long. -/
def AcceptsUpTo {α : Type} (decodeRos : Bytes → Except DecodeError α) (longest : Nat) : Prop :=
  ∀ body value, decodeRos body = .ok value → body.length ≤ longest

/-- Media frames are at most forty-one bytes longer than their payload may be. -/
theorem ScoutFrame.acceptsUpTo : AcceptsUpTo decodeRos (maxFrameDataBytes + 41) := by
  -- What is accepted is the layout of a frame.
  intro body frame accepted
  obtain ⟨valid, rfl⟩ := decodeRos_eq_ok.mp accepted
  have limited := valid.limited
  rw [layout_length]
  omega

/-- Sensor messages are limited by their identifier and the rest of their fields. -/
theorem acceptsUpTo_of_exactly {Sample : Type} {decodeRos : Bytes → Except DecodeError Sample}
    {header : Sample → RosHeader} {layout : Sample → Bytes}
    (exactly : DecodesExactly decodeRos header layout) {width : Nat}
    (length : ∀ sample, (layout sample).length = (header sample).layout.length + width) :
    AcceptsUpTo decodeRos (maxFrameIdBytes + 16 + width) := by
  -- What is accepted is the layout of a sample.
  intro body sample accepted
  obtain ⟨limited, rfl⟩ := (exactly.accepts body sample).mp accepted
  have short : (header sample).frameId.utf8.length ≤ maxFrameIdBytes := limited
  rw [length, RosHeader.layout_length]
  omega

/-- Messages of the inertial sensor are at most 4408 bytes long. -/
theorem ImuSample.acceptsUpTo : AcceptsUpTo decodeRos (maxFrameIdBytes + 16 + 296) :=
  acceptsUpTo_of_exactly (decodesExactly_of_reads ImuSample.reads_decode) layout_length

/-- Messages of a range sensor are at most 4129 bytes long. -/
theorem RangeSample.acceptsUpTo : AcceptsUpTo decodeRos (maxFrameIdBytes + 16 + 17) :=
  acceptsUpTo_of_exactly (decodesExactly_of_reads RangeSample.reads_decode) layout_length

/-- Messages of the light sensor are at most 4128 bytes long. -/
theorem IlluminanceSample.acceptsUpTo : AcceptsUpTo decodeRos (maxFrameIdBytes + 16 + 16) :=
  acceptsUpTo_of_exactly (decodesExactly_of_reads IlluminanceSample.reads_decode) layout_length

/-- Messages of the battery are at most 260 bytes long, which is what is received of them. -/
theorem BatteryStatus.acceptsUpTo : AcceptsUpTo decodeRos (4 + maxBatteryStatusValues * 4) := by
  -- What is accepted is the layout of a status.
  intro body status accepted
  obtain ⟨valid, _, rfl⟩ := decodeRos_ok.mp accepted
  have many := valid.many
  rw [layout_length]
  omega

namespace BoundedRawMessage

variable {maximumMessageBytes : Nat}

/-- No more than one byte above the limit is asked for. -/
theorem readLimit_le : readLimit maximumMessageBytes ≤ maximumMessageBytes + 1 :=
  Nat.min_le_left _ _

/-- Of a message that is delivered, all of it is received, or it is refused as too long. -/
theorem decode_delivered (representable : maximumMessageBytes < 2 ^ 64 - 1)
    {reader : BodyDelivery} {body : Bytes} (delivers : Delivers retried reader body) :
    (decode reader : Except MessageError (BoundedRawMessage maximumMessageBytes)) =
      if bounded : body.length ≤ maximumMessageBytes then .ok { bytes := body, bounded }
      else .error (.invalidData "ROS message exceeds the configured byte limit") := by
  have limit : readLimit maximumMessageBytes = maximumMessageBytes + 1 :=
    Nat.min_eq_left representable
  rw [decode, delivers.readToEnd, limit]
  dsimp only
  by_cases short : body.length ≤ maximumMessageBytes
  · -- One more byte would have been read.
    have whole : body.take (maximumMessageBytes + 1) = body := List.take_of_length_le (by omega)
    rw [dif_pos short, dif_pos (whole.symm ▸ short)]
    simp only [whole]
  · have cut : ¬ (body.take (maximumMessageBytes + 1)).length ≤ maximumMessageBytes := by
      rw [List.length_take]
      omega
    rw [dif_neg short, dif_neg cut]

end BoundedRawMessage

/-- A subscription receives what its decoder accepts, and reads little of anything longer. -/
structure Admits (subscription : Subscription) (processLimit : Nat) : Prop where
  refines : ∀ reader body, Delivers retried reader body → ∀ value,
    subscription.receive reader = some value ↔ subscription.decodeRos body = .ok value
  fits : AcceptsUpTo subscription.decodeRos subscription.maximumMessageBytes
  within : subscription.maximumMessageBytes ≤ processLimit
  oversized : ∀ reader body, Delivers retried reader body →
    subscription.maximumMessageBytes < body.length →
      (BoundedRawMessage.decode reader :
        Except MessageError (BoundedRawMessage subscription.maximumMessageBytes)) =
        .error (.invalidData "ROS message exceeds the configured byte limit")
  little : ∀ reader, (BoundedRawMessage.consumed subscription.maximumMessageBytes reader).length ≤
    subscription.maximumMessageBytes + 1

/-- A subscription whose limit is not below what its decoder accepts admits all of it. -/
theorem admits_of_fits {subscription : Subscription} {processLimit longest : Nat}
    (accepts : AcceptsUpTo subscription.decodeRos longest)
    (enough : longest ≤ subscription.maximumMessageBytes)
    (within : subscription.maximumMessageBytes ≤ processLimit)
    (representable : subscription.maximumMessageBytes < 2 ^ 64 - 1) :
    Admits subscription processLimit where
  refines reader body delivers value := by
    rw [Subscription.receive, BoundedRawMessage.decode_delivered representable delivers]
    by_cases short : body.length ≤ subscription.maximumMessageBytes
    · rw [dif_pos short]
      show (subscription.decodeRos body).toOption = some value ↔ _
      cases subscription.decodeRos body with
      | ok found => simp [Except.toOption]
      | error error => simp [Except.toOption]
    · -- What is too long to be received could not be decoded either.
      rw [dif_neg short]
      refine iff_of_false (fun same => by cases same) fun accepted => short ?_
      exact Nat.le_trans (accepts body value accepted) enough
  fits body value accepted := Nat.le_trans (accepts body value accepted) enough
  within := within
  oversized reader body delivers long := by
    rw [BoundedRawMessage.decode_delivered representable delivers, dif_neg (Nat.not_le.mpr long)]
  little reader := Nat.le_trans (readToEnd_length_le _ _) BoundedRawMessage.readLimit_le

/-- Every subscription of every command admits all messages that it can decode. -/
theorem subscriptions_admit (command : SubscribingCommand) (subscription : Subscription)
    (member : subscription ∈ command.subscriptions) :
    Admits subscription command.maximumMessageBytes := by
  have media : Admits .media maxMediaMessageBytes :=
    admits_of_fits ScoutFrame.acceptsUpTo (by decide) (Nat.le_refl _) (by decide)
  -- The monitor is the only command with more than one subscription.
  cases command with
  | teleop => exact List.mem_singleton.mp member ▸ media
  | cameraBridge => exact List.mem_singleton.mp member ▸ media
  | integrationBridge => exact List.mem_singleton.mp member ▸ media
  | monitor =>
    rcases List.mem_cons.mp member with rfl | member
    · exact admits_of_fits ImuSample.acceptsUpTo (by decide) (Nat.le_refl _) (by decide)
    rcases List.mem_cons.mp member with rfl | member
    · exact admits_of_fits RangeSample.acceptsUpTo (by decide) (Nat.le_refl _) (by decide)
    rcases List.mem_cons.mp member with rfl | member
    · exact admits_of_fits IlluminanceSample.acceptsUpTo (by decide) (Nat.le_refl _) (by decide)
    · rw [List.mem_singleton.mp member]
      exact admits_of_fits BatteryStatus.acceptsUpTo (by decide) (by decide) (by decide)

/-- The monitor's subscription to the battery admits all messages that it can decode. -/
theorem subscriptions_admit_battery : Admits .battery maxSensorMessageBytes :=
  subscriptions_admit .monitor .battery (by simp [SubscribingCommand.subscriptions])

end Scout
