import Scout.Machine.Latest
import Scout.Teleop.Picture

/-! Pictures that are saved while the camera's messages come in. -/

namespace Scout

open Machine

/-- The frame in a message of the camera topic, if teleoperation keeps it. -/
def ScoutFrame.received (bytes : Bytes) : Option ScoutFrame :=
  match ScoutFrame.decodeRos bytes with
  | .error _ => none
  | .ok frame =>
    if frame.streamType ≠ .jpeg ∨ !frame.hasJpegMarkers then none else some frame

/-- What is kept of a message is what it is decoded as, and it is an image. -/
theorem ScoutFrame.received_eq_some {bytes : Bytes} {frame : ScoutFrame}
    (kept : received bytes = some frame) : decodeRos bytes = .ok frame ∧ Image frame.data := by
  -- The filter is the one of the bridge, which passes the payload on.
  unfold received at kept
  cases decoded : decodeRos bytes with
  | error error =>
    rw [decoded] at kept
    cases kept
  | ok other =>
    rw [decoded] at kept
    dsimp only at kept
    by_cases refused : other.streamType ≠ .jpeg ∨ (!other.hasJpegMarkers) = true
    · rw [if_pos refused] at kept
      cases kept
    · rw [if_neg refused, Option.some.injEq] at kept
      subst kept
      simp only [not_or, not_not, Bool.not_eq_true, Bool.not_eq_false'] at refused
      have passedOn : forwarded bytes = some other.data := by
        rw [forwarded, decoded]
        exact if_pos refused
      exact ⟨rfl, image_of_forwarded passedOn⟩

/-- A message of the camera, or an attempt to save a picture with what is found then. -/
inductive PictureEvent where
  | message (bytes : Bytes)
  | save (clock : Option Nat) (opens : Nat → Bool) (interrupted : Option Nat)

/-- A path that has been returned, and the messages that had come when it was. -/
structure Receipt where
  path : Text
  messages : List Bytes

/-- The frame that is kept, what is saved, and the messages that have come, in their order. -/
structure PictureSession where
  latestFrame : Mutex (Option ScoutFrame)
  directory : Directory
  receipts : List Receipt
  messages : List Bytes

namespace PictureSession

/-- No message has come, and no picture has been saved. -/
def start (directory : Directory) : PictureSession where
  latestFrame := { value := none }
  directory := directory
  receipts := []
  messages := []

/-- Keep the frame of a message, if it is an image and the lock can be taken. -/
def keep (latestFrame : Mutex (Option ScoutFrame)) (bytes : Bytes) : Mutex (Option ScoutFrame) :=
  match ScoutFrame.received bytes with
  | none => latestFrame
  | some frame =>
    match latestFrame.lock with
    | some _ => latestFrame.write (some frame)
    | none => latestFrame

/-- Note the path that a call returns, if it returns one. -/
def note (session : PictureSession) : Except PictureError (Option Text) → List Receipt
  | .ok (some path) => { path, messages := session.messages } :: session.receipts
  | _ => session.receipts

/-- Handle one event. -/
def step (session : PictureSession) : PictureEvent → PictureSession
  | .message bytes =>
    { session with
      latestFrame := keep session.latestFrame bytes
      messages := session.messages ++ [bytes] }
  | .save clock opens interrupted =>
    -- The lock is held until the picture is written, so that no frame is kept meanwhile.
    let call : PictureCall :=
      { latestFrame := session.latestFrame, clock, opens, interrupted }
    { session with
      directory := (call.saveLatestPicture session.directory).2
      receipts := session.note (call.saveLatestPicture session.directory).1 }

/-- Handle events one after another. -/
def run (directory : Directory) (events : List PictureEvent) : PictureSession :=
  events.foldl step (start directory)

/-- A frame is the last image in some messages. -/
def LastImage (messages : List Bytes) (frame : ScoutFrame) : Prop :=
  ∃ earlier message later, messages = earlier ++ message :: later ∧
    ScoutFrame.decodeRos message = .ok frame ∧ ScoutFrame.Image frame.data ∧
    ∀ other ∈ later, ScoutFrame.received other = none

/-- A receipt tells of a new path, where the last image by then is found in a directory. -/
def Honoured (before after : Directory) (receipt : Receipt) : Prop :=
  before receipt.path = none ∧
    ∃ frame, LastImage receipt.messages frame ∧ after receipt.path = some frame.data

/-- What has been kept and saved, given what was in the directory at first. -/
structure Faithful (directory : Directory) (session : PictureSession) : Prop where
  unpoisoned : session.latestFrame.poisoned = false
  latest : session.latestFrame.value = Machine.latest ScoutFrame.received session.messages
  kept : ∀ path data, directory path = some data → session.directory path = some data
  earlier : ∀ receipt ∈ session.receipts, receipt.messages <+: session.messages
  honoured : ∀ receipt ∈ session.receipts, Honoured directory session.directory receipt

/-- At first nothing has been kept or saved. -/
theorem faithful_start (directory : Directory) : Faithful directory (start directory) where
  -- Nothing has been received or saved.
  unpoisoned := rfl
  latest := rfl
  kept _ _ there := there
  earlier := List.forall_mem_nil _
  honoured := List.forall_mem_nil _

/-- A receipt stays honoured while everything in the directory stays. -/
theorem Honoured.stays {before after final : Directory} {receipt : Receipt}
    (honoured : Honoured before after receipt)
    (kept : ∀ path data, after path = some data → final path = some data) :
    Honoured before final receipt := by
  obtain ⟨new, frame, last, there⟩ := honoured
  exact ⟨new, frame, last, kept _ _ there⟩

variable {directory : Directory} {session : PictureSession}

/-- A message changes at most the frame that is kept. -/
theorem Faithful.message (faithful : Faithful directory session) (bytes : Bytes) :
    Faithful directory (session.step (.message bytes)) where
  unpoisoned := by
    show (keep session.latestFrame bytes).poisoned = false
    unfold keep
    split
    · exact faithful.unpoisoned
    · split
      · exact faithful.unpoisoned
      · exact faithful.unpoisoned
  latest := by
    -- The lock can be taken, so the last image is the one that is kept.
    show (keep session.latestFrame bytes).value =
      Machine.latest ScoutFrame.received (session.messages ++ [bytes])
    rw [latest_concat, refresh, ← faithful.latest]
    unfold keep
    cases ScoutFrame.received bytes with
    | none => rfl
    | some frame =>
      have free : session.latestFrame.lock = some session.latestFrame.value := by
        simp [Mutex.lock, faithful.unpoisoned]
      dsimp only
      rw [free]
      rfl
  kept := faithful.kept
  earlier receipt member := (faithful.earlier receipt member).trans (List.prefix_append _ _)
  honoured := faithful.honoured

/-- What is found under the lock is the last image of the messages so far. -/
theorem Faithful.lastImage (faithful : Faithful directory session) {frame : ScoutFrame}
    (found : session.latestFrame.lock = some (some frame)) : LastImage session.messages frame := by
  -- What is stored is the last image that was received.
  have last : Machine.latest ScoutFrame.received session.messages = some frame := by
    rw [← faithful.latest]
    simpa [Mutex.lock, faithful.unpoisoned] using found
  obtain ⟨earlier, message, later, split, known, unread⟩ := latest_eq_some.mp last
  obtain ⟨decoded, image⟩ := ScoutFrame.received_eq_some known
  exact ⟨earlier, message, later, split, decoded, image, unread⟩

/-- Saving a picture writes the last image under a new name. -/
theorem Faithful.save (faithful : Faithful directory session) (clock : Option Nat)
    (opens : Nat → Bool) (interrupted : Option Nat) :
    Faithful directory (session.step (.save clock opens interrupted)) := by
  -- Whatever is in the directory stays, and a path that is returned is new.
  let call : PictureCall := { latestFrame := session.latestFrame, clock, opens, interrupted }
  have safe := call.saveLatestPicture_safe session.directory
  have stays : ∀ receipt ∈ session.receipts,
      Honoured directory (call.saveLatestPicture session.directory).2 receipt :=
    fun receipt member => (faithful.honoured receipt member).stays safe.kept
  have both : ∀ receipt ∈ session.note (call.saveLatestPicture session.directory).1,
      receipt.messages <+: session.messages ∧
        Honoured directory (call.saveLatestPicture session.directory).2 receipt := by
    have before : ∀ receipt ∈ session.receipts, receipt.messages <+: session.messages ∧
        Honoured directory (call.saveLatestPicture session.directory).2 receipt :=
      fun receipt member => ⟨faithful.earlier receipt member, stays receipt member⟩
    cases result : (call.saveLatestPicture session.directory).1 with
    | error problem => exact before
    | ok returned =>
      cases returned with
      | none => exact before
      | some path =>
        refine List.forall_mem_cons.mpr ⟨⟨List.prefix_rfl, ?_⟩, before⟩
        obtain ⟨free, frame, found, after⟩ := safe.saved path result
        have new : directory path = none := by
          cases there : directory path with
          | none => rfl
          | some data =>
            rw [faithful.kept path data there] at free
            cases free
        refine ⟨new, frame, faithful.lastImage found, ?_⟩
        rw [after, Function.update_self]
  exact ⟨faithful.unpoisoned, faithful.latest,
    fun path data there => safe.kept path data (faithful.kept path data there),
    fun receipt member => (both receipt member).1, fun receipt member => (both receipt member).2⟩

/-- However messages and attempts to save pictures come, what was in the directory stays, and every
path that is returned was free and holds for good the whole image that was the last by then. -/
theorem saved_pictures_received (directory : Directory) (events : List PictureEvent) :
    (∀ path data, directory path = some data →
      (run directory events).directory path = some data) ∧
    ∀ receipt ∈ (run directory events).receipts,
      receipt.messages <+: (run directory events).messages ∧
      Honoured directory (run directory events).directory receipt := by
  -- The induction is on the events that are still to be handled.
  have general : ∀ (events : List PictureEvent) (session : PictureSession),
      Faithful directory session → Faithful directory (events.foldl step session) := by
    intro events
    induction events with
    | nil => exact fun _ faithful => faithful
    | cons event rest ih =>
      intro session faithful
      refine ih _ ?_
      cases event with
      | message bytes => exact faithful.message bytes
      | save clock opens interrupted => exact faithful.save clock opens interrupted
  have faithful := general events _ (faithful_start directory)
  exact ⟨faithful.kept, fun receipt member =>
    ⟨faithful.earlier receipt member, faithful.honoured receipt member⟩⟩

end PictureSession
end Scout
