import Mathlib.Data.List.Induction
import Scout.Codec.Frame
import Scout.Codec.Sensors

/-! The bridge that republishes the robot's camera frames as standard compressed images. -/

namespace Scout

open Scout.Stream Decoder

/-- The frame of reference that republished images are given in. -/
def cameraFrameId : Text := "scout_camera".toList

/-- The format of republished images. -/
def jpegFormat : Text := "jpeg".toList

/-- The bytes of a compressed image. -/
def encodeCompressedImage (sequence seconds nanoseconds : UInt32) (frameId : Text) (jpeg : Bytes) :
    Bytes :=
  let output := writeU32 (writeU32 (writeU32 [] sequence) seconds) nanoseconds
  writeBytes (writeString (writeString output frameId) jpegFormat) jpeg

/-- A message of the camera topic, the clock when it is handled, and whether publishing succeeds. -/
structure Arrival where
  message : Bytes
  now : RosTime
  sent : Bool

/-- The two counters of the bridge, and the bodies that were handed to the publisher. -/
structure CameraBridge where
  forwarded : UInt64
  dropped : UInt64
  handed : List Bytes

namespace CameraBridge

/-- Nothing has arrived. -/
def start : CameraBridge where
  forwarded := 0
  dropped := 0
  handed := []

/-- Count a message that is not passed on. -/
def drop (bridge : CameraBridge) : CameraBridge :=
  { bridge with dropped := bridge.dropped + 1 }

/-- What the subscription does with one message. -/
def receive (bridge : CameraBridge) (arrival : Arrival) : CameraBridge :=
  match ScoutFrame.decodeRos arrival.message with
  | .error _ => bridge.drop
  | .ok frame =>
    if frame.streamType ≠ .jpeg ∨ !frame.hasJpegMarkers then bridge.drop
    else
      let body := encodeCompressedImage frame.sequence arrival.now.seconds arrival.now.nanoseconds
        cameraFrameId frame.data
      let handed := { bridge with handed := bridge.handed ++ [body] }
      if arrival.sent then { handed with forwarded := bridge.forwarded + 1 } else handed.drop

/-- The bridge after some messages. -/
def run (arrivals : List Arrival) : CameraBridge :=
  arrivals.foldl receive start

end CameraBridge

/-- A compressed image, as a subscriber understands it. -/
@[ext] structure CompressedImage where
  sequence : UInt32
  seconds : UInt32
  nanoseconds : UInt32
  frameId : Text
  format : Text
  data : Bytes
  deriving DecidableEq

namespace CompressedImage

/-- Read an image back, field after field. -/
def read : Decode CompressedImage := do
  let sequence ← readU32
  let seconds ← readU32
  let nanoseconds ← readU32
  let frameId ← readStringLimited maxFrameIdBytes
  let format ← readStringLimited maxFrameIdBytes
  let data ← readVecLimited maxFrameDataBytes
  finish
  return { sequence, seconds, nanoseconds, frameId, format, data }

/-- The bytes of an image, field after field. -/
def layout (image : CompressedImage) : Bytes :=
  u32ToLeBytes image.sequence ++ u32ToLeBytes image.seconds ++ u32ToLeBytes image.nanoseconds ++
    lengthPrefixed image.frameId.utf8 ++ lengthPrefixed image.format.utf8 ++
    lengthPrefixed image.data

/-- An image none of whose parts is too long. -/
structure Limited (image : CompressedImage) : Prop where
  frameId : image.frameId.utf8.length ≤ maxFrameIdBytes
  format : image.format.utf8.length ≤ maxFrameIdBytes
  data : image.data.length ≤ maxFrameDataBytes

end CompressedImage

/-- A frame that is passed on: of the right type, and with both markers. -/
def ScoutFrame.IsJpeg (frame : ScoutFrame) : Prop :=
  frame.streamType = .jpeg ∧ frame.hasJpegMarkers = true

instance (frame : ScoutFrame) : Decidable frame.IsJpeg :=
  inferInstanceAs (Decidable (_ ∧ _))

namespace Arrival

/-- The image that a subscriber should receive for a message, if any. -/
def image (arrival : Arrival) : Option CompressedImage :=
  match ScoutFrame.decodeRos arrival.message with
  | .error _ => none
  | .ok frame =>
    if frame.IsJpeg then
      some {
        sequence := frame.sequence
        seconds := arrival.now.seconds
        nanoseconds := arrival.now.nanoseconds
        frameId := cameraFrameId
        format := jpegFormat
        data := frame.data }
    else none

/-- Whether a message counts as forwarded. -/
def counts (arrival : Arrival) : Bool := arrival.image.isSome && arrival.sent

/-- An image is due exactly for a frame that is passed on. -/
theorem image_isSome {arrival : Arrival} :
    arrival.image.isSome = true ↔
      ∃ frame, ScoutFrame.decodeRos arrival.message = .ok frame ∧ frame.IsJpeg := by
  -- The cases are those of decoding and of the filter.
  unfold image
  cases ScoutFrame.decodeRos arrival.message with
  | error error => simp
  | ok frame =>
    by_cases jpeg : frame.IsJpeg
    · simp [jpeg]
    · simp [jpeg]

/-- An image that is due is none of whose parts is too long. -/
theorem limited_of_image {arrival : Arrival} {image : CompressedImage}
    (due : arrival.image = some image) : image.Limited := by
  -- The payload was limited by the decoder, and the two texts are fixed.
  unfold Arrival.image at due
  cases decoded : ScoutFrame.decodeRos arrival.message with
  | error error =>
    rw [decoded] at due
    cases due
  | ok frame =>
    simp only [decoded] at due
    by_cases jpeg : frame.IsJpeg
    · rw [if_pos jpeg] at due
      cases due
      exact { frameId := (by decide : cameraFrameId.utf8.length ≤ maxFrameIdBytes)
              format := (by decide : jpegFormat.utf8.length ≤ maxFrameIdBytes)
              data := ScoutFrame.length_of_decodeRos decoded }
    · rw [if_neg jpeg] at due
      cases due

end Arrival

/-- What a subscriber reads from the body of an image. -/
def CompressedImage.readBack (body : Bytes) : Except DecodeError CompressedImage :=
  decoded (read (new body))

/-- An image is read back from its layout. -/
theorem CompressedImage.reads_read : Reads true read Limited layout := by
  -- The fields are read in the order in which they are laid out.
  unfold read
  refine Reads.whole (Reads.field sequence reads_readU32 fun _ =>
    Reads.field seconds reads_readU32 fun _ => Reads.field nanoseconds reads_readU32 fun _ =>
    Reads.field frameId (reads_readStringLimited maxFrameIdBytes) fun _ =>
    Reads.field format (reads_readStringLimited maxFrameIdBytes) fun _ =>
    Reads.field data (reads_readVecLimited maxFrameDataBytes) fun _ =>
    reads_finish fun image => ?_) (fun image => ?_) fun image _ => by simp [layout]
  · -- An image is determined by its six fields.
    rw [CompressedImage.ext_iff]
    simp [and_assoc]
  · constructor
    · intro valid
      exact { frameId := valid.2.2.2.1.1
              format := valid.2.2.2.2.1.1
              data := valid.2.2.2.2.2.1.1 }
    · intro limited
      have frameId : image.frameId.utf8.length ≤ 4096 := limited.frameId
      have format : image.format.utf8.length ≤ 4096 := limited.format
      have data : image.data.length ≤ 2 ^ 24 := limited.data
      exact ⟨trivial, trivial, trivial, ⟨limited.frameId, by omega⟩, ⟨limited.format, by omega⟩,
        ⟨limited.data, by omega⟩, trivial⟩

/-- The layout of an image that is not too long is read back as that image. -/
theorem CompressedImage.readBack_layout {image : CompressedImage} (limited : image.Limited) :
    readBack image.layout = .ok image := by
  -- The reads succeed, and nothing is left.
  obtain ⟨after, found⟩ := (decoded_iff reads_read).mpr ⟨limited, rfl⟩
  rw [readBack, found]
  rfl

/-- A length that fits into thirty-two bits survives being cut to them. -/
theorem lossless {length : Nat} (fits : length < 2 ^ 32) : (UInt32.ofNat length).toNat = length :=
  UInt32.toNat_ofNat_of_lt' fits

/-- The bytes of a compressed image are its layout. -/
theorem encodeCompressedImage_eq (sequence seconds nanoseconds : UInt32) (frameId : Text)
    (data : Bytes) :
    encodeCompressedImage sequence seconds nanoseconds frameId data =
      CompressedImage.layout
        { sequence, seconds, nanoseconds, frameId, format := jpegFormat, data } := by
  -- Every field is appended to the ones before it.
  simp [encodeCompressedImage, CompressedImage.layout, writeU32, writeString, writeBytes,
    lengthPrefixed]

namespace CameraBridge

/-- A message that is not passed on is counted as dropped. -/
theorem receive_dropped {bridge : CameraBridge} {arrival : Arrival}
    (nothing : arrival.image = none) : bridge.receive arrival = bridge.drop := by
  -- Either the message is no frame, or the frame is not passed on.
  unfold Arrival.image at nothing
  unfold receive
  cases decoded : ScoutFrame.decodeRos arrival.message with
  | error error => rfl
  | ok frame =>
    rw [decoded] at nothing
    have stops : frame.streamType ≠ .jpeg ∨ (!frame.hasJpegMarkers) = true := by
      by_contra passes
      simp only [not_or, ne_eq, not_not, Bool.not_eq_true', Bool.not_eq_false] at passes
      have jpeg : frame.IsJpeg := passes
      simp [jpeg] at nothing
    exact if_pos stops

/-- A message that is passed on is counted by the answer of the publisher. -/
theorem receive_published {bridge : CameraBridge} {arrival : Arrival} {image : CompressedImage}
    (due : arrival.image = some image) :
    bridge.receive arrival =
      if arrival.sent then
        { bridge with forwarded := bridge.forwarded + 1, handed := bridge.handed ++ [image.layout] }
      else
        { bridge with dropped := bridge.dropped + 1, handed := bridge.handed ++ [image.layout] } := by
  -- The body that is handed over is the layout of the image that is due.
  unfold Arrival.image at due
  unfold receive
  cases decoded : ScoutFrame.decodeRos arrival.message with
  | error error =>
    rw [decoded] at due
    cases due
  | ok frame =>
    simp only [decoded] at due
    by_cases jpeg : frame.IsJpeg
    · rw [if_pos jpeg] at due
      cases due
      have passes : ¬ (frame.streamType ≠ .jpeg ∨ (!frame.hasJpegMarkers) = true) := by
        simp [jpeg.1, jpeg.2]
      rw [← encodeCompressedImage_eq]
      exact if_neg passes
    · rw [if_neg jpeg] at due
      cases due

/-- A message is counted as forwarded if it counts, as dropped otherwise, and its image is handed over. -/
theorem receive_eq (bridge : CameraBridge) (arrival : Arrival) :
    (bridge.receive arrival).forwarded = bridge.forwarded + (if arrival.counts then 1 else 0) ∧
      (bridge.receive arrival).dropped = bridge.dropped + (if arrival.counts then 0 else 1) ∧
      (bridge.receive arrival).handed =
        bridge.handed ++ (arrival.image.map CompressedImage.layout).toList := by
  -- The cases are those of the image that is due, and of the answer of the publisher.
  cases due : arrival.image with
  | none =>
    have uncounted : arrival.counts = false := by simp [Arrival.counts, due]
    rw [receive_dropped due]
    simp [uncounted, drop]
  | some image =>
    have counted : arrival.counts = arrival.sent := by simp [Arrival.counts, due]
    rw [receive_published due, counted]
    cases arrival.sent with
    | true => simp
    | false => simp

/-- Every message has been counted once, and the images that are due have been handed over. -/
structure Conserves (arrivals : List Arrival) (bridge : CameraBridge) : Prop where
  forwarded : bridge.forwarded = UInt64.ofNat (arrivals.countP Arrival.counts)
  dropped : bridge.dropped = UInt64.ofNat (arrivals.countP fun arrival => !arrival.counts)
  handed : bridge.handed = (arrivals.filterMap Arrival.image).map CompressedImage.layout

/-- Counting one more message keeps the counts. -/
theorem Conserves.receive {arrivals : List Arrival} {bridge : CameraBridge}
    (conserves : Conserves arrivals bridge) (arrival : Arrival) :
    Conserves (arrivals ++ [arrival]) (bridge.receive arrival) := by
  -- Each side grows by the same message.
  obtain ⟨forwarded, dropped, handed⟩ := receive_eq bridge arrival
  constructor
  · rw [forwarded, conserves.forwarded, List.countP_append, UInt64.ofNat_add]
    cases counted : arrival.counts <;> simp [counted]
  · rw [dropped, conserves.dropped, List.countP_append, UInt64.ofNat_add]
    cases counted : arrival.counts <;> simp [counted]
  · rw [handed, conserves.handed, List.filterMap_append, List.map_append]
    cases due : arrival.image <;> simp [due]

/-- Every message of a run is counted once. -/
theorem conserves_run (arrivals : List Arrival) : Conserves arrivals (run arrivals) := by
  -- The induction is on the messages, the latest of which is handled last.
  induction arrivals using List.reverseRecOn with
  | nil => exact ⟨rfl, rfl, rfl⟩
  | append_singleton arrivals arrival ih =>
    rw [run, List.foldl_concat]
    exact ih.receive arrival

/-- Both counters together count all messages. -/
theorem Conserves.total {arrivals : List Arrival} {bridge : CameraBridge}
    (conserves : Conserves arrivals bridge) :
    bridge.forwarded + bridge.dropped = UInt64.ofNat arrivals.length := by
  -- A message either counts or does not.
  rw [conserves.forwarded, conserves.dropped, ← UInt64.ofNat_add]
  have split := @List.length_eq_countP_add_countP _ Arrival.counts arrivals
  simp only [Bool.not_eq_true, Bool.decide_eq_false] at split
  rw [← split]

/-- The bridge counts every message once, and every image it hands over is read back exactly. -/
theorem camera_bridge_conserves (arrivals : List Arrival) :
    (run arrivals).forwarded + (run arrivals).dropped = UInt64.ofNat arrivals.length ∧
      (∀ arrival : Arrival, arrival.counts = true ↔
        (∃ frame, ScoutFrame.decodeRos arrival.message = .ok frame ∧ frame.IsJpeg) ∧
          arrival.sent = true) ∧
      (∀ bridge arrival,
        (receive bridge arrival).forwarded =
            bridge.forwarded + (if arrival.counts then 1 else 0) ∧
          (receive bridge arrival).dropped = bridge.dropped + (if arrival.counts then 0 else 1)) ∧
      (run arrivals).handed.map CompressedImage.readBack =
        (arrivals.filterMap Arrival.image).map Except.ok ∧
      ∀ image ∈ arrivals.filterMap Arrival.image,
        (UInt32.ofNat image.frameId.utf8.length).toNat = image.frameId.utf8.length ∧
          (UInt32.ofNat image.format.utf8.length).toNat = image.format.utf8.length ∧
          (UInt32.ofNat image.data.length).toNat = image.data.length := by
  -- Every image that is forwarded keeps within the limits of the decoder.
  have conserves := conserves_run arrivals
  have limited (image : CompressedImage) (due : image ∈ arrivals.filterMap Arrival.image) :
      image.Limited := by
    obtain ⟨arrival, _, found⟩ := List.mem_filterMap.mp due
    exact Arrival.limited_of_image found
  refine ⟨conserves.total, fun arrival => ?_, fun bridge arrival => ?_, ?_, fun image due => ?_⟩
  · rw [Arrival.counts, Bool.and_eq_true, Arrival.image_isSome]
  · exact ⟨(receive_eq bridge arrival).1, (receive_eq bridge arrival).2.1⟩
  · rw [conserves.handed, List.map_map]
    exact List.map_congr_left fun image due => CompressedImage.readBack_layout (limited image due)
  · obtain ⟨frameId, format, data⟩ := limited image due
    have texts : maxFrameIdBytes < 2 ^ 32 := by decide
    have payload : maxFrameDataBytes < 2 ^ 32 := by decide
    exact ⟨lossless (by omega), lossless (by omega), lossless (by omega)⟩

end CameraBridge

end Scout
