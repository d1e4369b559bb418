import Scout.Motion.Velocity
import Scout.Number.Duration

/-! Held keys and the velocity they ask for. -/

namespace Scout

/-- The time a first press keeps a key held without key-up events. -/
def teleopInitialRepeatGrace : Duration := Duration.fromMillis 1100

/-- The time a repeat keeps a key held without key-up events. -/
def teleopRepeatDeadman : Duration := Duration.fromMillis 350

/-- The time a key is held at most with key-up events. -/
def teleopKeyReleaseDeadman : Duration := Duration.fromSecs 3

/-- The keys teleoperation tells apart. -/
inductive KeyCode where
  | char (character : Char)
  | esc
  | up
  | down
  | other
  deriving DecidableEq

/-- The modifier keys held during an event, one bit each. -/
structure KeyModifiers where
  bits : BitVec 8
  deriving DecidableEq

namespace KeyModifiers

/-- No modifier key. -/
def none : KeyModifiers := ⟨0⟩

/-- The control key. -/
def control : KeyModifiers := ⟨2⟩

/-- Whether all the modifiers of another set are held. -/
def contains (modifiers other : KeyModifiers) : Bool :=
  modifiers.bits &&& other.bits == other.bits

end KeyModifiers

/-- How a key event came about. -/
inductive KeyEventKind where
  | press
  | repeat_
  | release
  deriving DecidableEq

/-- A key event. -/
structure KeyEvent where
  code : KeyCode
  modifiers : KeyModifiers
  kind : KeyEventKind
  deriving DecidableEq

/-- What the teleoperation loop does about a key event. -/
inductive TeleopAction where
  | none
  | capture
  | faster
  | slower
  | exit
  deriving DecidableEq

/-- Whether a movement key is held, and until when. -/
structure KeyHold where
  pressed : Bool
  deadline : Option Instant
  deriving DecidableEq

/-- A key that is not held. -/
def KeyHold.default : KeyHold where
  pressed := false
  deadline := Option.none

/-- The six movement keys, and whether key-up events can be relied on. -/
structure TeleopControl where
  forward : KeyHold
  reverse : KeyHold
  strafeLeft : KeyHold
  strafeRight : KeyHold
  turnLeft : KeyHold
  turnRight : KeyHold
  reliableKeyRelease : Bool
  deriving DecidableEq

namespace TeleopControl

/-- No key is held. -/
def new (reliableKeyRelease : Bool) : TeleopControl where
  forward := KeyHold.default
  reverse := KeyHold.default
  strafeLeft := KeyHold.default
  strafeRight := KeyHold.default
  turnLeft := KeyHold.default
  turnRight := KeyHold.default
  reliableKeyRelease := reliableKeyRelease

/-- Hold a key from now on, a repeat for a shorter time than a first press. -/
def refresh (key : KeyHold) (kind : KeyEventKind) (now : Instant) (reliableKeyRelease : Bool) :
    KeyHold :=
  -- A key that is held ends with its key-up event, and this deadline is for a lost one.
  if reliableKeyRelease then
    { pressed := true, deadline := some (now + teleopKeyReleaseDeadman) }
  else
    -- Legacy terminals report a repeat as another press of a key that is still held.
    let isRepeat := kind == .repeat_ ||
      key.deadline.any (fun currentDeadline => now < currentDeadline)
    let timeout := if isRepeat then teleopRepeatDeadman else teleopInitialRepeatGrace
    { pressed := true, deadline := some (now + timeout) }

/-- Act on a key event, and say what the loop has to do about it. -/
def handleKey (control : TeleopControl) (key : KeyEvent) (now : Instant) :
    TeleopAction × TeleopControl :=
  if key.modifiers.contains KeyModifiers.control &&
      (key.code == .char 'c' || key.code == .char 'C') then (.exit, control)
  -- Holding a movement key reports presses or repeats, which refresh its hold.
  else if key.kind = .press ∨ key.kind = .repeat_ then
    let hold (held : KeyHold) := refresh held key.kind now control.reliableKeyRelease
    match key.code with
    | .esc => (.exit, control)
    | .up => (if key.kind = .press then .faster else .none, control)
    | .down => (if key.kind = .press then .slower else .none, control)
    | .char character =>
      -- A picture is taken once for each press.
      if character = ' ' ∧ key.kind = .press then (.capture, control)
      else
        match character.toLower with
        | 'w' => (.none, { control with forward := hold control.forward })
        | 's' => (.none, { control with reverse := hold control.reverse })
        | 'a' => (.none, { control with strafeLeft := hold control.strafeLeft })
        | 'd' => (.none, { control with strafeRight := hold control.strafeRight })
        | 'q' => (.none, { control with turnLeft := hold control.turnLeft })
        | 'e' => (.none, { control with turnRight := hold control.turnRight })
        | _ => (.none, control)
    | .other => (.none, control)
  else
    match key.code with
    | .char 'w' | .char 'W' => (.none, { control with forward := KeyHold.default })
    | .char 's' | .char 'S' => (.none, { control with reverse := KeyHold.default })
    | .char 'a' | .char 'A' => (.none, { control with strafeLeft := KeyHold.default })
    | .char 'd' | .char 'D' => (.none, { control with strafeRight := KeyHold.default })
    | .char 'q' | .char 'Q' => (.none, { control with turnLeft := KeyHold.default })
    | .char 'e' | .char 'E' => (.none, { control with turnRight := KeyHold.default })
    | _ => (.none, control)

/-- Whether a key is held now, dropping a hold that has lapsed. -/
def active (key : KeyHold) (now : Instant) : Bool × KeyHold :=
  -- A hold without a deadline does not lapse.
  if key.pressed && key.deadline.all (fun deadline => now < deadline) then (true, key)
  else (false, KeyHold.default)

/-- One key against its opposite, as a number in {-1, 0, 1}. -/
def balance (positive negative : Bool) : F64 :=
  Scalar.ofRat (((positive.toNat : Int) - negative.toNat : Int) : ℚ)

/-- The velocity the held keys ask for, dropping holds that have lapsed. -/
def velocity (control : TeleopControl) (now : Instant)
    (speed strafeSpeed turnSpeed speedScale : F64) : Velocity F64 × TeleopControl :=
  let forward := active control.forward now
  let reverse := active control.reverse now
  let strafeLeft := active control.strafeLeft now
  let strafeRight := active control.strafeRight now
  let turnLeft := active control.turnLeft now
  let turnRight := active control.turnRight now
  ({ forwardMps := balance forward.1 reverse.1 * speed * speedScale
     lateralMps := balance strafeLeft.1 strafeRight.1 * strafeSpeed * speedScale
     yawRps := balance turnLeft.1 turnRight.1 * turnSpeed * speedScale },
   { control with
     forward := forward.2
     reverse := reverse.2
     strafeLeft := strafeLeft.2
     strafeRight := strafeRight.2
     turnLeft := turnLeft.2
     turnRight := turnRight.2 })

/-- Release every key. -/
def clear (control : TeleopControl) : TeleopControl :=
  new control.reliableKeyRelease

end TeleopControl
end Scout
