import Scout.Teleop.Control
import Scout.Number.Binary64Order
import Mathlib.Data.List.Basic

/-! The keyboard state machine answers as the trace of its events does. -/

namespace Scout

/-- One call of the teleoperation loop on its keyboard state. -/
inductive TeleopInput where
  | key (event : KeyEvent) (at_ : Instant)
  | clear
  | velocity (at_ : Instant) (speed strafeSpeed turnSpeed speedScale : F64)

/-- The clock reading of a call. -/
def TeleopInput.time : TeleopInput → Option Instant
  | .key _ at_ => some at_
  | .clear => none
  | .velocity at_ _ _ _ _ => some at_

/-- The six movements, one key each. -/
inductive Movement where
  | forward
  | reverse
  | strafeLeft
  | strafeRight
  | turnLeft
  | turnRight
  deriving DecidableEq

namespace Movement

/-- The letter of a movement. -/
def letter : Movement → Char
  | .forward => 'w'
  | .reverse => 's'
  | .strafeLeft => 'a'
  | .strafeRight => 'd'
  | .turnLeft => 'q'
  | .turnRight => 'e'

/-- The capital letter of a movement. -/
def capital : Movement → Char
  | .forward => 'W'
  | .reverse => 'S'
  | .strafeLeft => 'A'
  | .strafeRight => 'D'
  | .turnLeft => 'Q'
  | .turnRight => 'E'

/-- Whether a key event is one of the movement's key, in either letter case. -/
def moves (movement : Movement) (event : KeyEvent) : Bool :=
  event.code == .char movement.letter || event.code == .char movement.capital

end Movement

/-- How long a press or repeat keeps a movement active. -/
def keyTimeout (reliable repeated : Bool) : Duration :=
  if reliable then teleopKeyReleaseDeadman
  else if repeated then teleopRepeatDeadman
  else teleopInitialRepeatGrace

/-- Whether a movement is active at an instant, by the calls made so far, newest first. -/
def keyActive (reliable : Bool) (movement : Movement) : List TeleopInput → Instant → Bool
  | [], _ => false
  -- Nothing before a clearing counts.
  | .clear :: _, _ => false
  | .velocity _ _ _ _ _ :: older, now => keyActive reliable movement older now
  | .key event at_ :: older, now =>
    if movement.moves event then
      match event.kind with
      -- A release counts at once.
      | .release => false
      | .press =>
        -- A press of a key that is still active is taken for a repeat.
        decide (now < at_ + keyTimeout reliable (keyActive reliable movement older at_))
      | .repeat_ => decide (now < at_ + keyTimeout reliable true)
    else keyActive reliable movement older now

/-- The velocity the trace of calls means at an instant, newest call first. -/
def tracedVelocity (reliable : Bool) (trace : List TeleopInput) (now : Instant)
    (speed strafeSpeed turnSpeed speedScale : F64) : Velocity F64 where
  forwardMps := TeleopControl.balance (keyActive reliable .forward trace now)
    (keyActive reliable .reverse trace now) * speed * speedScale
  lateralMps := TeleopControl.balance (keyActive reliable .strafeLeft trace now)
    (keyActive reliable .strafeRight trace now) * strafeSpeed * speedScale
  yawRps := TeleopControl.balance (keyActive reliable .turnLeft trace now)
    (keyActive reliable .turnRight trace now) * turnSpeed * speedScale

namespace TeleopControl

/-- The hold of a movement's key. -/
def hold (control : TeleopControl) : Movement → KeyHold
  | .forward => control.forward
  | .reverse => control.reverse
  | .strafeLeft => control.strafeLeft
  | .strafeRight => control.strafeRight
  | .turnLeft => control.turnLeft
  | .turnRight => control.turnRight

/-- The state after one call. -/
def apply (control : TeleopControl) : TeleopInput → TeleopControl
  | .key event at_ => (control.handleKey event at_).2
  | .clear => control.clear
  | .velocity at_ speed strafeSpeed turnSpeed speedScale =>
    (control.velocity at_ speed strafeSpeed turnSpeed speedScale).2

/-- The state after a sequence of calls, oldest first. -/
def replay (reliable : Bool) (inputs : List TeleopInput) : TeleopControl :=
  inputs.foldl apply (new reliable)

/-- A lowercase letter comes from itself or from its capital. -/
theorem toLower_cases {character letter capital : Char} (same : character.toLower = letter)
    (shifted : capital.val + 32 = letter.val) : character = letter ∨ character = capital := by
  -- Only capitals are moved, all by the same distance.
  unfold Char.toLower at same
  split at same
  · have moved : character.val + 32 = letter.val := congrArg Char.val same
    rw [← shifted] at moved
    exact .inr (Char.ext ((UInt32.add_left_inj 32).mp moved))
  · exact .inl same

/-- An event moves a key exactly when its character is the letter once it is put in lower case. -/
theorem moves_char (movement : Movement) (event : KeyEvent) {character : Char}
    (code : event.code = .char character) :
    movement.moves event = (character.toLower == movement.letter) := by
  -- Both letter cases go to the letter, and nothing else does.
  have shifted : movement.capital.val + 32 = movement.letter.val := by cases movement <;> rfl
  rw [Bool.eq_iff_iff]
  simp only [Movement.moves, code, Bool.or_eq_true, beq_iff_eq, KeyCode.char.injEq]
  constructor
  · rintro (rfl | rfl) <;> cases movement <;> decide
  · intro same
    exact toLower_cases same shifted

/-- A key event changes the hold of its own movement and no other. -/
theorem hold_handleKey (control : TeleopControl) (event : KeyEvent) (now : Instant)
    (movement : Movement) :
    (control.handleKey event now).2.hold movement =
      if movement.moves event then
        if event.kind = .release then KeyHold.default
        else refresh (control.hold movement) event.kind now control.reliableKeyRelease
      else control.hold movement := by
  -- The cases follow the order in which the source looks at the event.
  unfold handleKey
  split
  · -- Control with c leaves the loop, and c is no movement key.
    rename_i leaves
    have still : movement.moves event = false := by
      simp only [Bool.and_eq_true, Bool.or_eq_true, beq_iff_eq] at leaves
      rcases leaves.2 with code | code <;> cases movement <;>
        simp [Movement.moves, code, Movement.letter, Movement.capital]
    simp [still]
  · split
    · rename_i down
      -- The key goes down, or is held.
      have held : event.kind ≠ .release := by rcases down with kind | kind <;> simp [kind]
      cases code : event.code with
      | esc => simp [Movement.moves, code]
      | up => simp [Movement.moves, code]
      | down => simp [Movement.moves, code]
      | other => simp [Movement.moves, code]
      | char character =>
        simp only [moves_char movement event code, if_neg held]
        split
        · -- A space is no movement key.
          rename_i space
          cases movement <;> simp [space.1, Movement.letter]
        · -- Each of the six letters refreshes the hold of its movement.
          split <;> rename_i lower
          all_goals
            cases movement <;> simp_all [Movement.letter, hold]
    · rename_i up
      -- The key goes up.
      have released : event.kind = .release := by
        cases kind : event.kind with
        | press => exact absurd (.inl kind) up
        | repeat_ => exact absurd (.inr kind) up
        | release => rfl
      -- Each of the twelve characters releases the hold of its movement.
      rw [if_pos released]
      split <;> rename_i code
      all_goals
        cases movement <;> simp_all [Movement.moves, Movement.letter, Movement.capital, hold]

/-- A velocity call drops the lapsed hold of every movement. -/
theorem hold_velocity (control : TeleopControl) (now : Instant)
    (speed strafeSpeed turnSpeed speedScale : F64) (movement : Movement) :
    (control.velocity now speed strafeSpeed turnSpeed speedScale).2.hold movement =
      (active (control.hold movement) now).2 := by
  -- The six keys are treated alike.
  cases movement <;> rfl

/-- Clearing drops the hold of every movement. -/
theorem hold_clear (control : TeleopControl) (movement : Movement) :
    control.clear.hold movement = KeyHold.default := by
  -- The six keys are treated alike.
  cases movement <;> rfl

/-- No call changes whether key-up events are relied on. -/
theorem reliable_apply (control : TeleopControl) (input : TeleopInput) :
    (control.apply input).reliableKeyRelease = control.reliableKeyRelease := by
  -- Every branch keeps the field.
  cases input with
  | clear => rfl
  | velocity at_ speed strafeSpeed turnSpeed speedScale => rfl
  | key event at_ =>
    simp only [apply, handleKey]
    split
    · rfl
    · split
      · split <;> try rfl
        split
        · rfl
        · split <;> rfl
      · split <;> rfl

/-- A key is pressed exactly when its hold has a deadline. -/
def Shaped (key : KeyHold) : Prop :=
  key.pressed = key.deadline.isSome

/-- A shaped hold is active while its deadline lies ahead. -/
theorem active_shaped {key : KeyHold} (shaped : Shaped key) (now : Instant) :
    (active key now).1 = key.deadline.any (fun deadline => decide (now < deadline)) := by
  -- Without a deadline the key is not pressed, and with one it is.
  obtain ⟨pressed, deadline⟩ := key
  cases deadline with
  | none =>
    have up : pressed = false := shaped
    simp [active, up]
  | some deadline =>
    have down : pressed = true := shaped
    by_cases early : now < deadline <;> simp [active, down, early]

/-- A key held until a deadline is active before it. -/
theorem active_held (deadline now : Instant) :
    (active { pressed := true, deadline := some deadline } now).1 = decide (now < deadline) := by
  -- The key is pressed, so only the deadline counts.
  have shaped : Shaped { pressed := true, deadline := some deadline } := rfl
  rw [active_shaped shaped]
  rfl

/-- A refreshed key is held for the timeout of its kind. -/
theorem refresh_eq {key : KeyHold} (shaped : Shaped key) (kind : KeyEventKind)
    (since : Instant) (reliable : Bool) :
    refresh key kind since reliable = {
      pressed := true
      deadline :=
        some (since + keyTimeout reliable (kind == .repeat_ || (active key since).1)) } := by
  -- The deadline that tells a repeat is the one that makes the key active.
  rw [active_shaped shaped]
  unfold refresh keyTimeout
  cases reliable with
  | true => simp only [if_true]
  | false => simp only [Bool.false_eq_true, if_false]

/-- The state agrees with the trace at every instant from the last call on. -/
structure Tracks (reliable : Bool) (trace : List TeleopInput) (last : Instant)
    (control : TeleopControl) : Prop where
  agrees : control.reliableKeyRelease = reliable
  shaped : ∀ movement, Shaped (control.hold movement)
  means : ∀ movement now, last ≤ now →
    (active (control.hold movement) now).1 = keyActive reliable movement trace now

/-- Before any call nothing is held. -/
theorem tracks_new (reliable : Bool) : Tracks reliable [] 0 (new reliable) where
  -- No key has been pressed.
  agrees := rfl
  shaped movement := by cases movement <;> rfl
  means movement now _ := by cases movement <;> rfl

/-- Agreement from an instant on holds from every later instant on. -/
theorem Tracks.later {reliable : Bool} {trace : List TeleopInput} {last next : Instant}
    {control : TeleopControl} (tracks : Tracks reliable trace last control) (order : last ≤ next) :
    Tracks reliable trace next control :=
  { tracks with means := fun movement now late =>
      tracks.means movement now (Nat.le_trans order late) }

/-- A key event is accounted for by its entry in the trace. -/
theorem Tracks.key {reliable : Bool} {trace : List TeleopInput} {last at_ : Instant}
    {control : TeleopControl} (tracks : Tracks reliable trace last control) (order : last ≤ at_)
    (event : KeyEvent) :
    Tracks reliable (.key event at_ :: trace) at_ (control.apply (.key event at_)) := by
  -- Only the event's own movement changes: it is released, or held for the timeout of its kind.
  have kept := reliable_apply control (.key event at_)
  refine ⟨kept.trans tracks.agrees, fun movement => ?_, fun movement now late => ?_⟩
  · simp only [apply]
    rw [hold_handleKey]
    split
    · split
      · rfl
      · unfold refresh
        split <;> rfl
    · exact tracks.shaped movement
  · simp only [apply, keyActive]
    rw [hold_handleKey]
    by_cases own : movement.moves event = true
    · rw [if_pos own, if_pos own]
      cases kind : event.kind with
      | release => rfl
      | press =>
        have first : (KeyEventKind.press == KeyEventKind.repeat_) = false := rfl
        rw [if_neg (by simp), refresh_eq (tracks.shaped movement), active_held, tracks.agrees,
          tracks.means movement at_ order, first, Bool.false_or]
      | repeat_ =>
        have again : (KeyEventKind.repeat_ == KeyEventKind.repeat_) = true := rfl
        rw [if_neg (by simp), refresh_eq (tracks.shaped movement), active_held, tracks.agrees,
          again, Bool.true_or]
    · rw [if_neg own, if_neg own]
      exact tracks.means movement now (Nat.le_trans order late)

/-- Clearing is accounted for by its entry in the trace. -/
theorem Tracks.clear {reliable : Bool} {trace : List TeleopInput} {last : Instant}
    {control : TeleopControl} (tracks : Tracks reliable trace last control) :
    Tracks reliable (.clear :: trace) last (control.apply .clear) where
  -- No movement is held any more.
  agrees := tracks.agrees
  shaped movement := by
    simp only [apply, hold_clear]
    rfl
  means movement now _ := by
    simp only [apply, hold_clear]
    rfl

/-- A velocity call drops only holds that have lapsed for good. -/
theorem Tracks.velocity {reliable : Bool} {trace : List TeleopInput} {last at_ : Instant}
    {control : TeleopControl} (tracks : Tracks reliable trace last control) (order : last ≤ at_)
    (speed strafeSpeed turnSpeed speedScale : F64) :
    Tracks reliable (.velocity at_ speed strafeSpeed turnSpeed speedScale :: trace) at_
      (control.apply (.velocity at_ speed strafeSpeed turnSpeed speedScale)) := by
  -- A deadline that has passed at the call has passed at every later instant.
  refine ⟨tracks.agrees, fun movement => ?_, fun movement now late => ?_⟩
  · simp only [apply, hold_velocity]
    -- The hold is kept, or dropped altogether.
    unfold active
    split
    · exact tracks.shaped movement
    · rfl
  · simp only [apply, hold_velocity, keyActive]
    -- Whether a hold is active later on is asked before and after the call.
    rw [← tracks.means movement now (Nat.le_trans order late)]
    have shaped := tracks.shaped movement
    generalize control.hold movement = key at shaped
    rw [active_shaped shaped now]
    cases held : (active key at_).1 with
    | true =>
      -- A hold that is active at the call is kept as it is.
      have same : (active key at_).2 = key := by
        unfold active at held ⊢
        split
        · rfl
        · rename_i lapsed
          simp [lapsed] at held
      rw [same, active_shaped shaped]
    | false =>
      -- A hold that is not is dropped, and would not be active later on either.
      have dropped : (active key at_).2 = KeyHold.default := by
        unfold active at held ⊢
        split
        · rename_i open_
          simp [open_] at held
        · rfl
      rw [active_shaped shaped] at held
      rw [dropped]
      cases set : key.deadline with
      | none => rfl
      | some deadline =>
        simp only [set, Option.any_some, decide_eq_false_iff_not] at held
        have passed : ¬ now < deadline := fun early => held (Nat.lt_of_le_of_lt late early)
        rw [Option.any_some, decide_eq_false passed]
        rfl

/-- The calls made so far, in the order of their clock readings, are accounted for. -/
theorem tracks_foldl {reliable : Bool} (inputs : List TeleopInput) {trace : List TeleopInput}
    {last now : Instant} {control : TeleopControl}
    (tracks : Tracks reliable trace last control) (started : last ≤ now)
    (ordered : (last :: inputs.filterMap TeleopInput.time).Pairwise (· ≤ ·))
    (late : ∀ at_ ∈ inputs.filterMap TeleopInput.time, at_ ≤ now) :
    Tracks reliable (inputs.reverse ++ trace) now (inputs.foldl apply control) := by
  -- The calls are made one after the other, each at an instant not before the last.
  induction inputs generalizing trace last control with
  | nil => exact tracks.later started
  | cons input rest ih =>
    -- The first call comes at or after the last one accounted for.
    obtain ⟨after, ordered⟩ := List.pairwise_cons.mp ordered
    rw [List.reverse_cons, List.append_assoc, List.singleton_append, List.foldl_cons]
    cases input with
    | clear => exact ih tracks.clear started (List.pairwise_cons.mpr ⟨after, ordered⟩) late
    | key event at_ =>
      exact ih (tracks.key (after at_ (by simp [TeleopInput.time])) event)
        (late at_ (by simp [TeleopInput.time])) ordered
        fun other member => late other (by simp_all [TeleopInput.time])
    | velocity at_ speed strafeSpeed turnSpeed speedScale =>
      exact ih (tracks.velocity (after at_ (by simp [TeleopInput.time])) speed strafeSpeed
        turnSpeed speedScale) (late at_ (by simp [TeleopInput.time])) ordered
        fun other member => late other (by simp_all [TeleopInput.time])

/-- The velocity of a state that agrees with the trace is the one the trace means. -/
theorem Tracks.velocity_eq {reliable : Bool} {trace : List TeleopInput} {now : Instant}
    {control : TeleopControl} (tracks : Tracks reliable trace now control)
    (speed strafeSpeed turnSpeed speedScale : F64) :
    (control.velocity now speed strafeSpeed turnSpeed speedScale).1 =
      tracedVelocity reliable trace now speed strafeSpeed turnSpeed speedScale := by
  -- Each of the six keys is as active as its movement.
  have means := fun movement => tracks.means movement now (Nat.le_refl now)
  unfold tracedVelocity
  simp only [← means]
  rfl

end TeleopControl

/-- Whether a call is more than a reading of the velocity. -/
def TeleopInput.isEvent : TeleopInput → Bool
  | .velocity _ _ _ _ _ => false
  | _ => true

/-- Whether a call clears all keys or moves one of two keys. -/
def TeleopInput.concerns (positive negative : Movement) : TeleopInput → Bool
  | .key event _ => positive.moves event || negative.moves event
  | .clear => true
  | .velocity _ _ _ _ _ => false

/-- The longest time a key stays active without a fresh event. -/
def staleAfter (reliable : Bool) : Duration :=
  if reliable then teleopKeyReleaseDeadman else teleopInitialRepeatGrace

/-- A movement's activity depends on its own key events and on clearing alone. -/
theorem keyActive_filter {reliable : Bool} {movement : Movement} (keep : TeleopInput → Bool)
    (clears : keep .clear = true)
    (moves : ∀ event at_, movement.moves event = true → keep (.key event at_) = true)
    (trace : List TeleopInput) (now : Instant) :
    keyActive reliable movement (trace.filter keep) now = keyActive reliable movement trace now := by
  -- Calls that may be dropped are passed over on both sides.
  induction trace generalizing now with
  | nil => rfl
  | cons input older ih =>
    cases input with
    | clear => simp [clears, keyActive]
    | velocity at_ speed strafeSpeed turnSpeed speedScale =>
      rw [List.filter_cons]
      split
      · exact ih now
      · exact ih now
    | key event at_ =>
      rw [List.filter_cons]
      by_cases own : movement.moves event = true
      · -- The event is kept, and what came before it decides whether it is a repeat.
        rw [if_pos (moves event at_ own)]
        simp only [keyActive, if_pos own, ih at_]
      · split
        · simp only [keyActive, if_neg own, ih now]
        · simp only [keyActive, if_neg own, ih now]

/-- Two opposite movements depend on the events of their own two keys and on clearing alone. -/
theorem keyActive_concerns (reliable : Bool) (positive negative : Movement)
    (trace : List TeleopInput) (now : Instant) :
    keyActive reliable positive (trace.filter (TeleopInput.concerns positive negative)) now =
        keyActive reliable positive trace now ∧
      keyActive reliable negative (trace.filter (TeleopInput.concerns positive negative)) now =
        keyActive reliable negative trace now := by
  -- The kept calls include every event of either key.
  constructor
  · apply keyActive_filter
    · rfl
    · intro event at_ own
      simp [TeleopInput.concerns, own]
  · apply keyActive_filter
    · rfl
    · intro event at_ own
      simp [TeleopInput.concerns, own]

/-- Without a fresh key event no movement is active. -/
theorem keyActive_stale {reliable : Bool} {movement : Movement} {trace : List TeleopInput}
    {now : Instant}
    (stale : ∀ event at_, .key event at_ ∈ trace → at_ + staleAfter reliable ≤ now) :
    keyActive reliable movement trace now = false := by
  -- The latest event of the key decides, and its timeout is not longer than the longest one.
  have longest : ∀ repeated, keyTimeout reliable repeated ≤ staleAfter reliable := by
    intro repeated
    cases reliable <;> cases repeated <;>
      simp [keyTimeout, staleAfter, teleopRepeatDeadman, teleopInitialRepeatGrace,
        Duration.fromMillis]
  have lapsed : ∀ at_ repeated, at_ + staleAfter reliable ≤ now →
      decide (now < at_ + keyTimeout reliable repeated) = false := by
    intro at_ repeated past
    exact decide_eq_false (Nat.not_lt.mpr
      (Nat.le_trans (Nat.add_le_add_left (longest repeated) at_) past))
  induction trace with
  | nil => rfl
  | cons input older ih =>
    -- Without the latest call nothing is active either.
    have before := ih fun event at_ member => stale event at_ (List.mem_cons_of_mem _ member)
    cases input with
    | clear => rfl
    | velocity at_ speed strafeSpeed turnSpeed speedScale => exact before
    | key event at_ =>
      have past := stale event at_ List.mem_cons_self
      unfold keyActive
      split
      · split
        · rfl
        · exact lapsed at_ _ past
        · exact lapsed at_ _ past
      · exact before

/-- Nothing active asks for zero at every finite speed. -/
theorem balance_idle {speed speedScale : F64} (finite : speed.isFinite = true)
    (scaleFinite : speedScale.isFinite = true) :
    (TeleopControl.balance false false * speed * speedScale).isZero = true := by
  -- A zero times a finite speed is a finite zero, and so is that times a finite scale.
  have zero : (TeleopControl.balance false false).isZero = true := by decide +kernel
  exact (F64.isZero_mul_left (F64.isZero_mul_left zero finite).1 scaleFinite).1

namespace TeleopControl

/-- Every velocity is the one the trace of calls means: reading velocities in between changes
nothing, each axis looks at its own two keys, and stale keys ask for zero. -/
theorem velocity_traced (reliable : Bool) (inputs : List TeleopInput) (now : Instant)
    (speed strafeSpeed turnSpeed speedScale : F64)
    (ordered : (inputs.filterMap TeleopInput.time).Pairwise (· ≤ ·))
    (late : ∀ at_ ∈ inputs.filterMap TeleopInput.time, at_ ≤ now) :
    let read (calls : List TeleopInput) :=
      ((replay reliable calls).velocity now speed strafeSpeed turnSpeed speedScale).1
    read inputs =
      tracedVelocity reliable inputs.reverse now speed strafeSpeed turnSpeed speedScale ∧
    read (inputs.filter TeleopInput.isEvent) = read inputs ∧
    (read (inputs.filter (TeleopInput.concerns .forward .reverse))).forwardMps =
      (read inputs).forwardMps ∧
    (read (inputs.filter (TeleopInput.concerns .strafeLeft .strafeRight))).lateralMps =
      (read inputs).lateralMps ∧
    (read (inputs.filter (TeleopInput.concerns .turnLeft .turnRight))).yawRps =
      (read inputs).yawRps ∧
    ((∀ event at_, .key event at_ ∈ inputs → at_ + staleAfter reliable ≤ now) →
      speedScale.isFinite = true →
      (speed.isFinite = true → (read inputs).forwardMps.isZero = true) ∧
      (strafeSpeed.isFinite = true → (read inputs).lateralMps.isZero = true) ∧
      (turnSpeed.isFinite = true → (read inputs).yawRps.isZero = true)) := by
  intro read
  -- Every part of the calls is ordered and early enough for its state to follow its trace.
  have traced : ∀ calls, calls.Sublist inputs → read calls =
      tracedVelocity reliable calls.reverse now speed strafeSpeed turnSpeed speedScale := by
    intro calls part
    have times := part.filterMap TeleopInput.time
    have tracks := tracks_foldl calls (tracks_new reliable) (Nat.zero_le now)
      (List.pairwise_cons.mpr ⟨fun _ _ => Nat.zero_le _, ordered.sublist times⟩)
      (fun at_ member => late at_ (times.subset member))
    rw [List.append_nil] at tracks
    exact tracks.velocity_eq speed strafeSpeed turnSpeed speedScale
  have whole := traced inputs (List.Sublist.refl inputs)
  refine ⟨whole, ?_, ?_, ?_, ?_, fun stale scaleFinite => ?_⟩
  · rw [traced _ List.filter_sublist, whole, ← List.filter_reverse]
    -- Readings of the velocity are passed over.
    simp only [tracedVelocity, keyActive_filter TeleopInput.isEvent rfl fun _ _ _ => rfl]
  · rw [traced _ List.filter_sublist, whole, ← List.filter_reverse]
    simp only [tracedVelocity, (keyActive_concerns _ .forward .reverse _ _).1,
      (keyActive_concerns _ .forward .reverse _ _).2]
  · rw [traced _ List.filter_sublist, whole, ← List.filter_reverse]
    simp only [tracedVelocity, (keyActive_concerns _ .strafeLeft .strafeRight _ _).1,
      (keyActive_concerns _ .strafeLeft .strafeRight _ _).2]
  · rw [traced _ List.filter_sublist, whole, ← List.filter_reverse]
    simp only [tracedVelocity, (keyActive_concerns _ .turnLeft .turnRight _ _).1,
      (keyActive_concerns _ .turnLeft .turnRight _ _).2]
  · have idle : ∀ movement, keyActive reliable movement inputs.reverse now = false :=
      fun movement => keyActive_stale fun event at_ member =>
        stale event at_ (List.mem_reverse.mp member)
    rw [whole]
    simp only [tracedVelocity, idle]
    exact ⟨fun finite => balance_idle finite scaleFinite,
      fun finite => balance_idle finite scaleFinite,
      fun finite => balance_idle finite scaleFinite⟩

/-- A press and its release by the other letter case, with a reading of the velocity between. -/
def pressAndRelease : List TeleopInput :=
  [.key { code := .char 'w', modifiers := .none, kind := .press } 0,
    .velocity (Duration.fromMillis 10) Scalar.zero Scalar.zero Scalar.zero Scalar.zero,
    .key { code := .char 'W', modifiers := .none, kind := .release } (Duration.fromMillis 20)]

/-- A released key asks for zero speed. -/
theorem velocity_traced_pressAndRelease :
    ((replay false pressAndRelease).velocity (Duration.fromSecs 2) (Scalar.ofRat (2 / 25))
      Scalar.zero Scalar.zero (Scalar.ofRat 1)).1.forwardMps.isZero = true := by
  -- The last event is older than the longest timeout.
  have traced := velocity_traced false pressAndRelease (Duration.fromSecs 2)
    (Scalar.ofRat (2 / 25)) Scalar.zero Scalar.zero (Scalar.ofRat 1) (by decide) (by decide)
  refine (traced.2.2.2.2.2 ?_ (by decide +kernel)).1 (by decide +kernel)
  intro event at_ member
  simp only [pressAndRelease, List.mem_cons, TeleopInput.key.injEq, reduceCtorEq,
    List.not_mem_nil, or_false, false_or] at member
  rcases member with ⟨_, rfl⟩ | ⟨_, rfl⟩ <;> decide

end TeleopControl
end Scout
