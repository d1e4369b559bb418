import Scout.Bridge.PublishLoop
import Scout.Motion.SendVelocity
import Scout.Number.Rounding
import Scout.Teleop.SpeedScale

/-! No conversion of seconds to a duration panics, whatever numbers have passed the checks. -/

namespace Scout

section Conversion

/-- Finite seconds between two finite numbers become a duration between these. -/
theorem Duration.fromSecsF64_between {secs : F64} {low high : Nat} (finite : secs.isFinite = true)
    (above : (low : ℚ) ≤ secs.value * 1000000000) (below : secs.value * 1000000000 ≤ high)
    (small : high < 2 ^ 64) : ∃ duration, Duration.fromSecsF64 secs = some duration ∧
      low ≤ duration ∧ duration ≤ high := by
  -- Finite seconds are converted by their exact value.
  obtain ⟨duration, converted, between⟩ := Duration.fromExactSecs_between above below small
  refine ⟨duration, ?_, between⟩
  rw [← converted, Duration.fromSecsF64, Duration.fromExactSecs, finite]
  simp

/-- A number that is finite and has a value. -/
def F64.Denotes (value : ℚ) (number : F64) : Prop :=
  number.isFinite = true ∧ number.value = value

/-- A number can be compared with a value. -/
instance F64.decidableDenotes (value : ℚ) (number : F64) : Decidable (F64.Denotes value number) :=
  inferInstanceAs (Decidable (number.isFinite = true ∧ number.value = value))

/-- The numbers that bound the arguments, the speed scale and the periods, and their values. -/
theorem bounds_denote :
    (F64.Denotes 0 Scalar.zero ∧ F64.Denotes 0 (F64.signedZero false) ∧
      F64.Denotes 1 Scalar.one ∧ F64.Denotes 60 (Scalar.ofRat 60) ∧
      F64.Denotes 100 (Scalar.ofRat 100)) ∧
    (F64.Denotes (1 / 16384) (F64.ofRat (1 / 16384)) ∧
      F64.Denotes (1 / 128) (F64.ofRat (1 / 128)) ∧ F64.Denotes (1 / 4) quarter ∧
      F64.Denotes 4 (F64.ofRat 4) ∧ F64.Denotes 10000 (F64.ofRat 10000)) ∧
    ∀ increase : Bool, F64.Denotes (if increase then 1 / 4 else -1 / 4)
      (if increase then speedScaleStep else -speedScaleStep) := by
  decide +kernel

/-- The number zero, and its value. -/
theorem zero_value : F64.Denotes 0 Scalar.zero := bounds_denote.1.1

/-- The number one, and its value. -/
theorem one_value : F64.Denotes 1 Scalar.one := bounds_denote.1.2.2.1

/-- The largest rate, and its value. -/
theorem hundred_value : F64.Denotes 100 (Scalar.ofRat 100) := bounds_denote.1.2.2.2.2

/-- A rate that passes its check gives a period of at most a second, which is not zero. -/
theorem exists_period_of_rate {rate : F64} (finite : rate.isFinite = true)
    (least : Scalar.one ≤ rate) (most : rate ≤ Scalar.ofRat 100) :
    ∃ period, Duration.fromSecsF64 (Scalar.one / rate) = some period ∧
      0 < period ∧ period ≤ Duration.fromSecs 1 := by
  -- The quotient stays between two powers of two.
  obtain ⟨oneFinite, one⟩ := one_value
  obtain ⟨hundredFinite, hundred⟩ := hundred_value
  have low : F64.Denotes (1 / 128) (F64.ofRat (1 / 128)) := bounds_denote.2.1.2.1
  have atLeast : 1 ≤ rate.value := one ▸ (F64.le_iff_value oneFinite finite).mp least
  have atMost : rate.value ≤ 100 := hundred ▸ (F64.le_iff_value finite hundredFinite).mp most
  have positive : 0 < rate.value := by linarith
  obtain ⟨quotient, above, below⟩ := F64.div_between oneFinite finite (by rw [one]; norm_num)
    positive low.1 oneFinite
    (by rw [low.2, one, div_le_div_iff₀ (by norm_num) positive]; linarith)
    (by rw [one, div_le_one positive]; exact atLeast)
  rw [low.2] at above
  rw [one] at below
  have lower : ((7812500 : ℕ) : ℚ) ≤ (Scalar.one / rate).value * 1000000000 := by
    push_cast
    linarith
  have upper : (Scalar.one / rate).value * 1000000000 ≤ ((1000000000 : ℕ) : ℚ) := by
    push_cast
    linarith
  obtain ⟨period, found, more, less⟩ :=
    Duration.fromSecsF64_between quotient lower upper (by norm_num)
  exact ⟨period, found, lt_of_lt_of_le (by norm_num) more, less⟩

end Conversion

/-- A number that is finite and lies between two bounds. -/
def F64.Between (low high : ℚ) (number : F64) : Prop :=
  number.isFinite = true ∧ low ≤ number.value ∧ number.value ≤ high

section Scale

open F64

/-- The smallest scale, and the change of one press. -/
theorem quarter_between : F64.Between (1 / 4) (1 / 4) quarter := by
  have found : F64.Denotes (1 / 4) quarter := bounds_denote.2.1.2.2.1
  exact ⟨found.1, found.2.ge, found.2.le⟩

/-- A sum is finite if the exact one is not too large. -/
theorem isFinite_add {a b : F64} (finiteA : a.isFinite = true) (finiteB : b.isFinite = true)
    (small : |a.value + b.value| ≤ 100 * 100) : (a + b).isFinite = true := by
  have same : a + b = F64.add a b := rfl
  rw [same, F64.add, isNaN_of_isFinite finiteA, isNaN_of_isFinite finiteB, finiteA, finiteB]
  have large : F64.Denotes 10000 (F64.ofRat 10000) := bounds_denote.2.1.2.2.2.2
  have zero : F64.Denotes 0 (F64.signedZero false) := bounds_denote.1.2.1
  -- The sign does not matter.
  have rounds : (F64.ofRat (a.value + b.value)).isFinite = true :=
    (@rounded_between (F64.signedZero false) (F64.ofRat 10000) |a.value + b.value| (abs_nonneg _)
      zero.1 large.1 (by rw [zero.2]; exact abs_nonneg _) (by rw [large.2]; linarith)).1
  by_cases vanishes : a.value + b.value = 0
  · simp [vanishes, F64.signedZero, F64.isFinite, infinityMagnitude]
  · simpa [vanishes] using rounds

/-- A number that is no NaN and not below zero, and may be infinite. -/
def F64.Upward (number : F64) : Prop :=
  number.isNaN = false ∧ 0 ≤ number.key

/-- A quotient of positive numbers is upward. -/
theorem upward_div {a b : F64} (finiteA : a.isFinite = true) (finiteB : b.isFinite = true)
    (positiveA : 0 < a.value) (positiveB : 0 < b.value) : F64.Upward (a / b) := by
  -- A quotient of positive numbers is rounded without a sign.
  rw [div_eq_rounded finiteA finiteB positiveA positiveB]
  have small := roundMagnitude_le (a.value / b.value).num.natAbs (a.value / b.value).den
  refine ⟨decide_eq_false (not_lt.mpr small), ?_⟩
  simp [F64.key, rounded]

/-- The smaller of two upward numbers is upward, and not above the second of them. -/
theorem upward_min {a b : F64} (first : F64.Upward a) (second : F64.Upward b) :
    F64.Upward (F64.min a b) ∧ (F64.min a b).key ≤ b.key := by
  -- The smaller number is one of the two.
  unfold F64.min
  rw [first.1, second.1]
  simp only [Bool.false_eq_true, if_false]
  by_cases less : b < a
  · rw [if_pos less]
    exact ⟨second, le_rfl⟩
  · rw [if_neg less]
    exact ⟨first, not_lt.mp fun below => less ⟨second.1, first.1, below⟩⟩

/-- An upward number that is not above a finite one is finite. -/
theorem between_of_upward {a b : F64} (upward : F64.Upward a) (le : a.key ≤ b.key) {high : ℚ}
    (between : F64.Between 0 high b) : F64.Between 0 high a := by
  have value := value_le_iff.mpr le
  obtain ⟨finite, _, below⟩ := between
  have zero : (F64.signedZero false).value = 0 := bounds_denote.1.2.1.2
  have nonneg : 0 ≤ a.value := by
    rw [← zero, value_le_iff]
    exact upward.2
  refine ⟨?_, nonneg, value.trans below⟩
  -- Its magnitude is not larger, since it has no sign or is zero.
  have bound : b.magnitude.val < infinityMagnitude := by simpa [isFinite] using finite
  have order := magnitudeValue_strictMono.le_iff_le.mp
    (value_eq_of_nonneg nonneg ▸ value_eq_of_nonneg (nonneg.trans value) ▸ value)
  exact decide_eq_true (order.trans_lt bound)

/-- The larger of a finite number and a quarter lies between a quarter and its bound. -/
theorem between_max {a : F64} {high : ℚ} (between : F64.Between 0 high a) (large : 1 / 4 ≤ high) :
    F64.Between (1 / 4) high (F64.max a quarter) := by
  -- The larger number is one of the two.
  obtain ⟨finite, least, most⟩ := quarter_between
  unfold F64.max
  rw [isNaN_of_isFinite between.1, isNaN_of_isFinite finite]
  simp only [Bool.false_eq_true, if_false]
  by_cases less : a < quarter
  · rw [if_pos less]
    exact ⟨finite, least, most.trans large⟩
  · rw [if_neg less]
    refine ⟨between.1, ?_, between.2.2⟩
    have order := mt (lt_iff between.1 finite).mpr less
    exact least.trans (value_le_iff.mpr (not_lt.mp order))

/-- A finite number that is greater than zero has a positive value. -/
theorem value_pos {number : F64} (finite : number.isFinite = true)
    (positive : Scalar.zero < number) : 0 < number.value := by
  -- The order of the values is that of the keys.
  have key := (F64.lt_iff zero_value.1 finite).mp positive
  have greater := not_le.mp (mt value_le_iff.mp (not_le.mpr key))
  rwa [zero_value.2] at greater

/-- A speed that passes its check is positive. -/
theorem value_pos_of_accepted {value maximum : F64}
    (speed : SpeedArgs.AcceptedSpeed value maximum) : value.isFinite = true ∧ 0 < value.value := by
  -- A speed that is accepted is finite and not below zero.
  have finite : value.isFinite = true := speed.1
  refine ⟨finite, not_le.mp fun le => speed.2.1 ((F64.le_iff_value finite zero_value.1).mpr ?_)⟩
  rwa [zero_value.2]

/-- A rate that passes its check lies between one and a hundred. -/
theorem rate_between {rate : F64} (finite : rate.isFinite = true) (least : Scalar.one ≤ rate)
    (most : rate ≤ Scalar.ofRat 100) : F64.Between 1 100 rate := by
  -- The bounds are exact numbers.
  obtain ⟨oneFinite, one⟩ := one_value
  obtain ⟨hundredFinite, hundred⟩ := hundred_value
  exact ⟨finite, one ▸ (F64.le_iff_value oneFinite finite).mp least,
    hundred ▸ (F64.le_iff_value finite hundredFinite).mp most⟩

/-- The largest scale of accepted arguments lies between the smallest one and a hundred. -/
theorem maximumSpeedScale_between {args : TeleopArgs} (accepted : args.numbers.Accepted .default) :
    F64.Between (1 / 4) 100 (args.maximumSpeedScale .default) := by
  -- The least of the quotients is upward, and not above the last one.
  have quotient {value maximum : F64} (speed : SpeedArgs.AcceptedSpeed value maximum)
      (limit : maximum.isFinite = true ∧ Scalar.zero < maximum) : F64.Upward (maximum / value) :=
    upward_div limit.1 (value_pos_of_accepted speed).1 (value_pos limit.1 limit.2)
      (value_pos_of_accepted speed).2
  have infinite : F64.Upward (F64.infinity false) := ⟨by decide, by decide⟩
  have rate : F64.Between 1 100 args.rateHz :=
    rate_between accepted.rateHz.1 accepted.rateHz.2.1 accepted.rateHz.2.2
  obtain ⟨hundredFinite, hundred⟩ := hundred_value
  obtain ⟨oneFinite, one⟩ := one_value
  have positive : 0 < args.rateHz.value := by linarith [rate.2.1]
  obtain ⟨lastFinite, above, below⟩ := F64.div_between hundredFinite rate.1
    (by rw [hundred]; norm_num) positive oneFinite hundredFinite
    (by rw [one, hundred, le_div_iff₀ positive]; linarith [rate.2.2])
    (by rw [hundred, div_le_iff₀ positive]; linarith [rate.2.1])
  rw [one] at above
  rw [hundred] at below
  obtain ⟨upward, order⟩ := upward_min (upward_min (upward_min (upward_min infinite
    (quotient accepted.speed (default_positive .forward))).1
    (quotient accepted.strafeSpeed (default_positive .lateral))).1
    (quotient accepted.turnSpeed (default_positive .yaw))).1
    (upward_div hundredFinite rate.1 (by rw [hundred]; norm_num) positive)
  have least : F64.Between 0 100 _ :=
    between_of_upward upward order ⟨lastFinite, by linarith, below⟩
  exact between_max least (by norm_num)

/-- A press keeps the scale between the smallest one and a hundred. -/
theorem adjustedSpeedScale_within {current maximum : F64} (increase : Bool)
    (currently : F64.Between (1 / 4) 100 current) (largest : F64.Between (1 / 4) 100 maximum) :
    F64.Between (1 / 4) 100 (adjustedSpeedScale current increase maximum) := by
  -- The change is a quarter, up or down.
  obtain ⟨stepFinite, step⟩ := bounds_denote.2.2 increase
  have sum := isFinite_add currently.1 stepFinite (by
    rw [step, abs_le]
    split_ifs <;> constructor <;> linarith [currently.2.1, currently.2.2])
  obtain ⟨quarterFinite, least, most⟩ := quarter_between
  -- Clamping leads between the ends, which are in order.
  have ordered : (quarter : F64).key ≤ maximum.key :=
    value_le_iff.mp (most.trans largest.2.1)
  have key := key_clamp sum quarterFinite largest.1
  have low : (quarter : F64).key ≤ (adjustedSpeedScale current increase maximum).key := by
    unfold adjustedSpeedScale
    exact (le_min ordered (le_max_left _ _)).trans_eq key.symm
  have high : (adjustedSpeedScale current increase maximum).key ≤ maximum.key := by
    unfold adjustedSpeedScale
    exact key.trans_le (min_le_left _ _)
  exact ⟨isFinite_clamp sum quarterFinite largest.1, least.trans (value_le_iff.mpr low),
    (value_le_iff.mpr high).trans largest.2.2⟩

/-- Any presses keep the scale between the smallest one and a hundred. -/
theorem presses_within {args : TeleopArgs}
    (largest : F64.Between (1 / 4) 100 (args.maximumSpeedScale .default)) (presses : List Bool)
    {current scale : F64} (currently : F64.Between (1 / 4) 100 current)
    (pressed : presses.foldlM (fun current increase => SpeedArgs.adjustedSpeedScale current increase
      (args.numbers.maximumSpeedScale .default)) current = some scale) :
    F64.Between (1 / 4) 100 scale := by
  -- The induction is on the presses, from any scale in between.
  induction presses generalizing current with
  | nil =>
    cases pressed
    exact currently
  | cons increase later ih =>
    rw [List.foldlM_cons, adjustedSpeedScale_numbers] at pressed
    exact ih (adjustedSpeedScale_within increase currently largest) pressed

/-- The scale that a session starts with lies between the smallest one and a hundred. -/
theorem initialSpeedScale_within {maximum : F64} (largest : F64.Between (1 / 4) 100 maximum) :
    F64.Between (1 / 4) 100 (F64.min Scalar.one maximum) := by
  -- The smaller number is one of the two.
  obtain ⟨oneFinite, one⟩ := one_value
  unfold F64.min
  rw [isNaN_of_isFinite oneFinite, isNaN_of_isFinite largest.1]
  simp only [Bool.false_eq_true, if_false]
  split_ifs
  · exact largest
  · exact ⟨oneFinite, by rw [one]; norm_num, by rw [one]; norm_num⟩

/-- A scale in between gives a period of at most four seconds, which is not zero. -/
theorem exists_period_of_scale {args : TeleopArgs} {scale : F64}
    (rate : F64.Between 1 100 args.rateHz) (within : F64.Between (1 / 4) 100 scale) :
    ∃ period, args.period scale = some period ∧ 0 < period ∧ period ≤ Duration.fromSecs 4 := by
  -- Neither the product nor the quotient leaves its interval.
  obtain ⟨⟨littleFinite, little⟩, _, _, ⟨fourFinite, four⟩, manyFinite, many⟩ := bounds_denote.2.1
  obtain ⟨quarterFinite, least, most⟩ := quarter_between
  obtain ⟨oneFinite, one⟩ := one_value
  obtain ⟨rateFinite, rateLeast, rateMost⟩ := rate
  obtain ⟨scaleFinite, scaleLeast, scaleMost⟩ := within
  obtain ⟨productFinite, above, below⟩ := F64.mul_between rateFinite scaleFinite (by linarith)
    (by linarith) quarterFinite manyFinite (by nlinarith) (by rw [many]; nlinarith)
  have positive : 0 < (args.rateHz * scale).value := by linarith
  obtain ⟨quotientFinite, more, less⟩ := F64.div_between oneFinite productFinite
    (by rw [one]; norm_num) positive littleFinite fourFinite
    (by rw [little, one, div_le_div_iff₀ (by norm_num) positive]; linarith)
    (by rw [one, four, div_le_iff₀ positive]; linarith)
  have lower : ((61035 : ℕ) : ℚ) ≤ (Scalar.one / (args.rateHz * scale)).value * 1000000000 := by
    push_cast
    linarith
  have upper : (Scalar.one / (args.rateHz * scale)).value * 1000000000 ≤ ((4000000000 : ℕ) : ℚ) := by
    push_cast
    linarith
  obtain ⟨period, found, longer, shorter⟩ :=
    Duration.fromSecsF64_between quotientFinite lower upper (by norm_num)
  exact ⟨period, found, lt_of_lt_of_le (by norm_num) longer, shorter⟩

end Scale

section Runs

/-- Teleoperation that has begun has accepted its arguments, unless it has returned. -/
def Teleop.Checked (args : TeleopArgs) (loop : Teleop) : Prop :=
  loop.phase = .checking ∨ loop.phase.Returned ∨ args.validate = .ok ()

/-- Every effect leaves the arguments checked. -/
theorem Teleop.Checked.effect {args : TeleopArgs} {before after : Teleop} {input : TeleopAnswer}
    (checked : before.Checked args) (taken : before.teleop args input = some after) :
    after.Checked args := by
  rcases checked with first | returned | accepted
  · -- The arguments decide where the first step leads.
    unfold Teleop.teleop at taken
    split at taken <;> rename_i was
    case h_1 =>
      split at taken
      · rename_i ok
        exact .inr (.inr ok)
      · cases taken
        exact .inr (.inl trivial)
    all_goals first | cases taken; done | cases first.symm.trans was
  · -- There is nothing more to do after returning.
    unfold Teleop.teleop at taken
    split at taken <;> rename_i was
    all_goals first | cases taken; done | (rw [was] at returned; exact returned.elim)
  · exact .inr (.inr accepted)

/-- In every run the arguments stay checked. -/
theorem Teleop.checked_run {args : TeleopArgs} {events : List TeleopEvent} {loop : Teleop}
    (ran : Machine.run (step args) start events = some loop) : loop.Checked args := by
  -- An interrupt does not move the loop.
  have initially : Checked args start := .inl rfl
  refine Machine.run_invariant (fun _ => True) (Checked args) ?_ (fun _ _ => trivial) initially ran
  intro before event after _ checked taken
  cases event with
  | interrupt =>
    cases taken
    exact checked
  | main input => exact checked.effect taken

/-- While teleoperation drives, its arguments have been accepted. -/
theorem Teleop.Checked.accepted {args : TeleopArgs} {loop : Teleop} (checked : loop.Checked args)
    (driving : loop.phase.Driving) : args.validate = .ok () := by
  -- The robot is driven only after the arguments have been accepted.
  rcases checked with first | returned | accepted
  · rw [first] at driving
    exact driving.elim
  · cases was : loop.phase with
    | returned result =>
      rw [was] at driving
      exact driving.elim
    | _ =>
      rw [was] at returned
      exact returned.elim
  · exact accepted

/-- The rate of a motion that is accepted lies within its limits. -/
theorem MotionRequest.rate_accepted {request : MotionRequest} {command : ScoutTwist F64}
    (accepted : request.command = .ok command) : request.rateHz.isFinite = true ∧
      Scalar.one ≤ request.rateHz ∧ request.rateHz ≤ Scalar.ofRat 100 := by
  -- The rate is checked after the duration.
  unfold MotionRequest.command at accepted
  split_ifs at accepted with zero long refused
  all_goals simpa [not_or] using refused

/-- The rate of a bridge that is accepted lies within its limits. -/
theorem BridgeArgs.rate_accepted {args : BridgeArgs} (accepted : args.validate = .ok ()) :
    args.rateHz.isFinite = true ∧ Scalar.one ≤ args.rateHz ∧ args.rateHz ≤ Scalar.ofRat 100 := by
  -- The rate is checked like this.
  unfold BridgeArgs.validate at accepted
  split_ifs at accepted with refused
  simpa [not_or] using refused

/-- The seconds of a motion become a duration if they pass their check. -/
theorem MotionRequest.moveVelocity_ne_none (vx vy vtheta seconds rateHz : F64) :
    MotionRequest.moveVelocity vx vy vtheta seconds rateHz ≠ none := by
  unfold MotionRequest.moveVelocity
  split
  · exact Option.some_ne_none _
  · -- At most a minute is accepted.
    rename_i accepted
    rw [not_or, not_or] at accepted
    obtain ⟨finite, above, below⟩ := accepted
    have known : seconds.isFinite = true := by simpa using finite
    obtain ⟨zeroFinite, zero⟩ := zero_value
    obtain ⟨sixtyFinite, sixty⟩ := bounds_denote.1.2.2.2.1
    have positive : 0 ≤ seconds.value := zero ▸ (not_le.mp fun le =>
      above ((F64.le_iff_value known zeroFinite).mpr le)).le
    have small : seconds.value ≤ 60 := by
      rw [← sixty, F64.value_le_iff]
      exact not_lt.mp (mt (F64.lt_iff sixtyFinite known).mpr below)
    have upper : seconds.value * 1000000000 ≤ ((60000000000 : ℕ) : ℚ) := by
      push_cast
      linarith
    obtain ⟨duration, found, _⟩ := Duration.fromSecsF64_between known
      (by push_cast; linarith : ((0 : ℕ) : ℚ) ≤ seconds.value * 1000000000) upper (by norm_num)
    rw [found]
    exact Option.some_ne_none _

/-- No conversion of seconds panics in any command: the duration of a motion is converted whatever
its arguments are, the periods of all loops whenever these have accepted their arguments, and the
period of teleoperation at every speed scale that a run can reach. -/
theorem periods_exist :
    (∀ vx vy vtheta seconds rateHz,
      MotionRequest.moveVelocity vx vy vtheta seconds rateHz ≠ none) ∧
    (∀ (request : MotionRequest) (command : ScoutTwist F64), request.command = .ok command →
      ∃ period, Duration.fromSecsF64 (Scalar.one / request.rateHz) = some period ∧
        0 < period ∧ period ≤ Duration.fromSecs 1) ∧
    (∀ args : BridgeArgs, args.validate = .ok () →
      ∃ period, Duration.fromSecsF64 (Scalar.one / args.rateHz) = some period ∧
        0 < period ∧ period ≤ Duration.fromSecs 1) ∧
    ∀ (args : TeleopArgs) (events : List TeleopEvent) (loop : Teleop),
      Machine.run (Teleop.step args) Teleop.start events = some loop → loop.phase.Driving →
        ∃ period, args.period loop.speedScale = some period ∧
          0 < period ∧ period ≤ Duration.fromSecs 4 := by
  refine ⟨MotionRequest.moveVelocity_ne_none, fun request command accepted => ?_,
    fun args accepted => ?_, fun args events loop ran driving => ?_⟩
  · obtain ⟨finite, least, most⟩ := request.rate_accepted accepted
    exact exists_period_of_rate finite least most
  · obtain ⟨finite, least, most⟩ := args.rate_accepted accepted
    exact exists_period_of_rate finite least most
  · -- The scale is the one after some presses, each of which keeps it within its bounds.
    have accepted := validate_numbers args |>.mp ((Teleop.checked_run ran).accepted driving)
    have largest := maximumSpeedScale_between accepted
    obtain ⟨presses, pressed⟩ := Teleop.pressed_run ran driving
    have within := presses_within largest presses (initialSpeedScale_within largest) pressed
    exact exists_period_of_scale
      (rate_between accepted.rateHz.1 accepted.rateHz.2.1 accepted.rateHz.2.2) within

/-- The arguments that teleoperation has by default. -/
def TeleopArgs.default : TeleopArgs where
  speed := Scalar.ofRat (1 / 10)
  strafeSpeed := Scalar.ofRat (1 / 10)
  turnSpeed := Scalar.ofRat 2
  rateHz := Scalar.ofRat 40

/-- The arguments that the bridge has by default. -/
def BridgeArgs.default : BridgeArgs where
  rateHz := Scalar.ofRat 40
  maxCommandTimeoutMs := 1000

/-- A session in which the speed is raised once. -/
def fasterSession : List TeleopEvent :=
  [.main (.loop .proceed), .main (.loop (.outcome (.ok ()))), .main (.terminal (.ok true)),
    .main (.loop (.clock 0)), .main (.loop (.outcome (.ok ()))), .main (.loop (.alive true)),
    .main (.loop (.clock 10)), .main (.polled (.ok true)), .main (.read (.ok (some
      { code := .up, modifiers := .none, kind := .press }))), .main (.loop (.clock 20))]

/-- The test whether a loop is about to show the new speed. -/
def TeleopPhase.isFlushing : TeleopPhase → Bool
  | .flushing => true
  | _ => false

/-- A drive forward with the default rate and duration. -/
def forwardDrive : MotionRequest :=
  .drive (Scalar.ofRat (1 / 10)) Scalar.zero Scalar.zero 500 (Scalar.ofRat 10)

/-- With the default arguments there are all these periods, also after raising the speed. -/
theorem periods_exist_default :
    (∃ period, Duration.fromSecsF64 (Scalar.one / forwardDrive.rateHz) = some period ∧
      0 < period ∧ period ≤ Duration.fromSecs 1) ∧
    (∃ period, Duration.fromSecsF64 (Scalar.one / BridgeArgs.default.rateHz) = some period ∧
      0 < period ∧ period ≤ Duration.fromSecs 1) ∧
    ∃ loop, Machine.run (Teleop.step .default) Teleop.start fasterSession = some loop ∧
      ∃ period, TeleopArgs.default.period loop.speedScale = some period ∧
        0 < period ∧ period ≤ Duration.fromSecs 4 := by
  -- The session is evaluated, and the general result applies to where it is.
  have accepted : BridgeArgs.default.validate = .ok () := by decide +kernel
  have driven : forwardDrive.command.toOption.isSome = true := by decide +kernel
  have played : (Machine.run (Teleop.step .default) Teleop.start fasterSession).any
      (fun loop => loop.phase.isFlushing) = true := by decide +kernel
  obtain ⟨loop, ran, flushing⟩ := (Option.any_eq_true _ _).mp played
  have driving : loop.phase.Driving := by
    cases was : loop.phase with
    | flushing => trivial
    | _ =>
      rw [was] at flushing
      cases flushing
  refine ⟨?_, periods_exist.2.2.1 _ accepted, loop, ran, periods_exist.2.2.2 _ _ _ ran driving⟩
  cases found : forwardDrive.command with
  | ok command => exact periods_exist.2.1 _ _ found
  | error error =>
    rw [found] at driven
    cases driven

end Runs
end Scout
