import Mathlib.Data.List.Nodup
import Mathlib.Data.List.Range
import Mathlib.Logic.Function.Basic
import Scout.Bridge.MotionState
import Scout.Codec.Frame
import Scout.Stream.TextParts

/-! Saving the latest camera frame under a name that is not taken. -/

namespace Scout

/-- The content of each name in a directory, if there is something under that name. -/
abbrev Directory := Text → Option Bytes

/-- Why a picture cannot be saved. -/
inductive PictureError where
  | poisoned
  /-- The clock reads a time before the epoch. -/
  | clock
  /-- A file cannot be opened for another reason than its name. -/
  | notOpened
  /-- A file cannot be written to its end. -/
  | notWritten
  | noUniqueName
  deriving DecidableEq

/-- What a call finds besides the directory. -/
structure PictureCall where
  latestFrame : Mutex (Option ScoutFrame)
  /-- The milliseconds since the epoch. -/
  clock : Option Nat
  /-- Whether a file that does not exist can be opened under a suffix. -/
  opens : Nat → Bool
  /-- How many bytes are written before writing fails, if it does. -/
  interrupted : Option Nat

/-- What tells the names of one frame at one time apart. -/
def suffixText (suffix : Nat) : Text :=
  if suffix = 0 then [] else '-' :: (toString suffix).toList

/-- The name of a picture. -/
def pictureName (timestampMs : Nat) (sequence : UInt32) (suffix : Nat) : Text :=
  "scout-".toList ++ ((toString timestampMs).toList ++ ("-frame-".toList ++
    ((toString sequence.toNat).toList ++ (suffixText suffix ++ ".jpg".toList))))

/-- How many names are tried. -/
def maxPictureNames : Nat := 100

namespace PictureCall

/-- Write a frame to a file that has just been created. -/
def write (call : PictureCall) (directory : Directory) (path : Text) (frame : ScoutFrame) :
    Except PictureError (Option Text) × Directory :=
  match call.interrupted with
  | none => (.ok (some path), Function.update directory path (some frame.data))
  | some count =>
    (.error .notWritten, Function.update directory path (some (frame.data.take count)))

/-- Save a frame under the first of some names that is not taken. -/
def saveAs (call : PictureCall) (directory : Directory) (frame : ScoutFrame) (timestampMs : Nat) :
    List Nat → Except PictureError (Option Text) × Directory
  | [] => (.error .noUniqueName, directory)
  | suffix :: rest =>
    let path := pictureName timestampMs frame.sequence suffix
    -- Only a file that does not exist is created.
    if (directory path).isSome then call.saveAs directory frame timestampMs rest
    else if call.opens suffix then call.write directory path frame
    else (.error .notOpened, directory)

/-- Save the latest frame, if there is one. -/
def saveLatestPicture (call : PictureCall) (directory : Directory) :
    Except PictureError (Option Text) × Directory :=
  match call.latestFrame.lock with
  | none => (.error .poisoned, directory)
  | some none => (.ok none, directory)
  | some (some frame) =>
    match call.clock with
    | none => (.error .clock, directory)
    | some timestampMs =>
      call.saveAs directory frame timestampMs (List.range maxPictureNames)

end PictureCall

/-- A directory, and the paths that have been returned, the latest first. -/
structure PictureRun where
  directory : Directory
  saved : List Text

namespace PictureRun

/-- Note the path that a call returns, if it returns one. -/
def note (saved : List Text) : Except PictureError (Option Text) → List Text
  | .ok (some path) => path :: saved
  | _ => saved

/-- Make one call. -/
def step (run : PictureRun) (call : PictureCall) : PictureRun where
  directory := (call.saveLatestPicture run.directory).2
  saved := note run.saved (call.saveLatestPicture run.directory).1

/-- Make calls one after another. -/
def calls (directory : Directory) (calls : List PictureCall) : PictureRun :=
  calls.foldl step { directory, saved := [] }

end PictureRun

section Names

/-- Digits in front of something else are determined by the whole. -/
theorem digits_unique {first second behind beyond : Text}
    (digits : ∀ char ∈ first, char.isDigit = true) (digits' : ∀ char ∈ second, char.isDigit = true)
    (end_ : ∀ char, behind.head? = some char → char.isDigit = false)
    (end' : ∀ char, beyond.head? = some char → char.isDigit = false)
    (same : first ++ behind = second ++ beyond) : first = second ∧ behind = beyond := by
  -- Both are the longest front that has digits only.
  have longest {digits behind : Text} (all : ∀ char ∈ digits, char.isDigit = true)
      (ends : ∀ char, behind.head? = some char → char.isDigit = false) :
      (digits ++ behind).takeWhile Char.isDigit = digits := by
    rw [List.takeWhile_append_of_pos all]
    cases behind with
    | nil => simp
    | cons char rest => simp [ends char rfl]
  have front : first = second := by
    rw [← longest digits end_, ← longest digits' end', same]
  exact ⟨front, List.append_cancel_left (front ▸ same)⟩

/-- A number is determined by its text. -/
theorem toString_unique {first second : Nat}
    (same : (toString first).toList = (toString second).toList) : first = second := by
  -- The number is read back from its digits.
  have read := Text.parseDigits_toString first
  rw [same, Text.parseDigits_toString second] at read
  exact (Option.some.inj read).symm

/-- A suffix is determined by its text in front of the extension. -/
theorem suffixText_unique {first second : Nat}
    (same : suffixText first ++ ".jpg".toList = suffixText second ++ ".jpg".toList) :
    first = second := by
  -- Only zero has no suffix.
  have texts := List.append_cancel_right same
  unfold suffixText at texts
  split_ifs at texts with zero zero'
  · rw [zero, zero']
  · exact toString_unique (List.cons.inj texts).2

/-- The name of a picture tells its time, its frame and its suffix. -/
theorem pictureName_unique {timestampMs otherMs : Nat} {sequence other : UInt32}
    {suffix otherSuffix : Nat}
    (same : pictureName timestampMs sequence suffix = pictureName otherMs other otherSuffix) :
    timestampMs = otherMs ∧ sequence = other ∧ suffix = otherSuffix := by
  -- Each number is followed by something that is no digit.
  have dash (rest : Text) : ∀ char, ("-frame-".toList ++ rest).head? = some char →
      char.isDigit = false := by
    have first : "-frame-".toList.head? = some '-' := by decide
    rw [List.head?_append, first]
    intro char found
    cases found
    rfl
  have extension (suffix : Nat) : ∀ char, (suffixText suffix ++ ".jpg".toList).head? = some char →
      char.isDigit = false := by
    have first : ".jpg".toList.head? = some '.' := by decide
    rw [List.head?_append, first, suffixText]
    intro char found
    split_ifs at found
    · cases found
      rfl
    · cases found
      rfl
  have digits (number : Nat) : ∀ char ∈ (toString number).toList, char.isDigit = true :=
    fun char member => Text.isDigit_of_mem_toString member
  unfold pictureName at same
  have fromTime := List.append_cancel_left same
  obtain ⟨time, rest⟩ := digits_unique (digits timestampMs) (digits otherMs) (dash _) (dash _)
    fromTime
  have fromNumber := List.append_cancel_left rest
  obtain ⟨number, ending⟩ := digits_unique (digits sequence.toNat) (digits other.toNat)
    (extension suffix) (extension otherSuffix) fromNumber
  exact ⟨toString_unique time, UInt32.toNat_inj.mp (toString_unique number),
    suffixText_unique ending⟩

end Names

/-- What a call promises of the directory, whatever comes of it. -/
structure SavesSafely (call : PictureCall) (before : Directory)
    (result : Except PictureError (Option Text)) (after : Directory) : Prop where
  /-- Whatever was in the directory is there as it was. -/
  kept : ∀ path data, before path = some data → after path = some data
  /-- A path that is returned is new, and all of the latest frame is there. -/
  saved : ∀ path, result = .ok (some path) → before path = none ∧
    ∃ frame, call.latestFrame.lock = some (some frame) ∧
      after = Function.update before path (some frame.data)
  unchanged : result = .ok none ∨ result = .error .noUniqueName → after = before
  /-- Only if all of a hundred different names are taken, a call fails for lack of a name. -/
  exhausted : result = .error .noUniqueName → ∃ frame timestampMs,
    call.latestFrame.lock = some (some frame) ∧ call.clock = some timestampMs ∧
    ((List.range maxPictureNames).map (pictureName timestampMs frame.sequence)).Nodup ∧
    ∀ suffix < maxPictureNames, before (pictureName timestampMs frame.sequence suffix) ≠ none

namespace PictureCall

variable {call : PictureCall} {before : Directory} {frame : ScoutFrame} {timestampMs : Nat}

/-- Under a new name nothing that was there is changed. -/
theorem update_kept {path : Text} {content : Option Bytes} (free : before path = none)
    {other : Text} {data : Bytes} (there : before other = some data) :
    Function.update before path content other = some data := by
  -- The path was free, so it is another one.
  have different : other ≠ path := by
    intro same
    rw [same, free] at there
    cases there
  rw [Function.update_of_ne different, there]

/-- Writing to a file that is new keeps the others. -/
theorem write_safe {path : Text} (free : before path = none)
    (latest : call.latestFrame.lock = some (some frame)) :
    SavesSafely call before (call.write before path frame).1 (call.write before path frame).2 := by
  -- The writing is interrupted or not.
  unfold write
  cases call.interrupted with
  | none =>
    refine ⟨fun _ _ there => update_kept free there, fun other same => ?_, nofun, nofun⟩
    cases same
    exact ⟨free, frame, latest, rfl⟩
  | some count => exact ⟨fun _ _ there => update_kept free there, nofun, nofun, nofun⟩

/-- The first name that is not taken decides, and without one nothing is done. -/
theorem saveAs_cases (call : PictureCall) (before : Directory) (frame : ScoutFrame)
    (timestampMs : Nat) (suffixes : List Nat) :
    ((call.saveAs before frame timestampMs suffixes = (.error .noUniqueName, before) ∧
      ∀ suffix ∈ suffixes, before (pictureName timestampMs frame.sequence suffix) ≠ none) ∨
    call.saveAs before frame timestampMs suffixes = (.error .notOpened, before)) ∨
    ∃ path, before path = none ∧
      call.saveAs before frame timestampMs suffixes = call.write before path frame := by
  -- The induction is on the names that have not been tried.
  induction suffixes with
  | nil => exact .inl (.inl ⟨rfl, nofun⟩)
  | cons suffix rest ih =>
    cases there : before (pictureName timestampMs frame.sequence suffix) with
    | some data =>
      have next : call.saveAs before frame timestampMs (suffix :: rest) =
          call.saveAs before frame timestampMs rest := by
        rw [saveAs, there]
        rfl
      rw [next]
      refine ih.imp_left (Or.imp_left fun both => ⟨both.1, ?_⟩)
      exact List.forall_mem_cons.mpr ⟨by simp [there], both.2⟩
    | none =>
      cases opened : call.opens suffix with
      | true =>
        refine .inr ⟨_, there, ?_⟩
        rw [saveAs, there, opened]
        rfl
      | false =>
        refine .inl (.inr ?_)
        rw [saveAs, there, opened]
        rfl

/-- A call keeps what is in the directory, and returns only what it has saved. -/
theorem saveLatestPicture_safe (call : PictureCall) (before : Directory) :
    SavesSafely call before (call.saveLatestPicture before).1 (call.saveLatestPicture before).2 := by
  unfold saveLatestPicture
  cases latest : call.latestFrame.lock with
  | none => exact ⟨fun _ _ there => there, nofun, fun _ => rfl, nofun⟩
  | some content =>
    cases content with
    | none => exact ⟨fun _ _ there => there, nofun, fun _ => rfl, nofun⟩
    | some frame =>
      cases clock : call.clock with
      | none => exact ⟨fun _ _ there => there, nofun, fun _ => rfl, nofun⟩
      | some timestampMs =>
        rcases saveAs_cases call before frame timestampMs (List.range maxPictureNames) with
          (taken | failed) | created
        · -- All names are taken, and they are different ones.
          dsimp only
          rw [taken.1]
          refine ⟨fun _ _ there => there, nofun, fun _ => rfl, fun _ => ?_⟩
          refine ⟨frame, timestampMs, latest, clock, ?_, fun suffix below =>
            taken.2 suffix (List.mem_range.mpr below)⟩
          exact List.Nodup.map (fun _ _ same => (pictureName_unique same).2.2) List.nodup_range
        · dsimp only
          rw [failed]
          exact ⟨fun _ _ there => there, nofun, fun _ => rfl, nofun⟩
        · obtain ⟨path, free, writes⟩ := created
          dsimp only
          rw [writes]
          exact write_safe free latest

end PictureCall

namespace PictureRun

/-- Every path that has been returned is in the directory, and none has been returned twice. -/
structure Distinct (run : PictureRun) : Prop where
  there : ∀ path ∈ run.saved, run.directory path ≠ none
  nodup : run.saved.Nodup

/-- A call returns no path that has been returned before. -/
theorem Distinct.step {run : PictureRun} (distinct : run.Distinct) (call : PictureCall) :
    (run.step call).Distinct := by
  have safe := call.saveLatestPicture_safe run.directory
  have stays : ∀ path ∈ run.saved, (call.saveLatestPicture run.directory).2 path ≠ none := by
    intro path member
    obtain ⟨data, there⟩ := Option.ne_none_iff_exists'.mp (distinct.there path member)
    rw [safe.kept path data there]
    nofun
  unfold PictureRun.step
  cases result : (call.saveLatestPicture run.directory).1 with
  | error problem => exact ⟨stays, distinct.nodup⟩
  | ok returned =>
    cases returned with
    | none => exact ⟨stays, distinct.nodup⟩
    | some path =>
      -- The path was free before the call, unlike all that have been returned.
      obtain ⟨free, frame, _, after⟩ := safe.saved path result
      refine ⟨List.forall_mem_cons.mpr ⟨?_, stays⟩, List.nodup_cons.mpr ⟨?_, distinct.nodup⟩⟩
      · show (call.saveLatestPicture run.directory).2 path ≠ none
        rw [after, Function.update_self]
        nofun
      · exact fun member => distinct.there path member free

/-- In every run the paths that are returned are different ones. -/
theorem distinct_calls (directory : Directory) (calls : List PictureCall) :
    (PictureRun.calls directory calls).Distinct := by
  -- The induction is on the calls that are still to be made.
  have general : ∀ (calls : List PictureCall) (run : PictureRun), run.Distinct →
      (calls.foldl PictureRun.step run).Distinct := by
    intro calls
    induction calls with
    | nil => exact fun _ distinct => distinct
    | cons call rest ih => exact fun run distinct => ih _ (distinct.step call)
  exact general calls _ ⟨nofun, List.nodup_nil⟩

/-- Whatever is in the directory, no call overwrites a file, and no path is returned twice. -/
theorem pictures_never_overwritten (directory : Directory) (calls : List PictureCall) :
    (∀ call, SavesSafely call (PictureRun.calls directory calls).directory
      (call.saveLatestPicture (PictureRun.calls directory calls).directory).1
      (call.saveLatestPicture (PictureRun.calls directory calls).directory).2) ∧
    (PictureRun.calls directory calls).saved.Nodup :=
  ⟨fun call => call.saveLatestPicture_safe _, (distinct_calls directory calls).nodup⟩

end PictureRun

end Scout
