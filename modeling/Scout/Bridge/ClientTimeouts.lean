import Scout.Bridge.Echo
import Scout.Matlab.Client
import Scout.Number.Nearest
import Scout.Python.Client

/-! The lifetimes that the clients accept for a command are those that the bridge accepts. -/

namespace Scout

/-- The longest lifetime in seconds that a client takes from the greeting of a bridge. -/
def greetedTimeout (maximumTimeout : Duration) : ℚ :=
  durationMilliseconds maximumTimeout / 1000

/-- The milliseconds that the Python client sends for a lifetime, unless it refuses it. -/
def ScoutClient.sentTimeout (maxCommandTimeout timeout : ℚ) : Option ℤ :=
  if timeout ≤ 0 ∨ maxCommandTimeout < timeout then none
  else some (max 1 (roundHalfEven (timeout * 1000)))

/-- The milliseconds that the MATLAB client sends for a lifetime, unless it refuses it. -/
def Matlab.sentTimeout (maxCommandTimeout timeout : ℚ) : Option ℤ :=
  if ¬ 0 < timeout then none
  else if maxCommandTimeout < timeout then none
  else some (max 1 (roundHalfAway (timeout * 1000)))

/-- A lifetime in milliseconds that the bridge accepts for every finite velocity. -/
def BridgeAccepts (maximumTimeout : Duration) (timeoutMs : ℕ) : Prop :=
  ∀ (vx vy vtheta : F64) (state : MotionState) (now : Instant), (Velocity.new vx vy vtheta).Finite →
    (handleRequest (.velocity vx vy vtheta timeoutMs) { value := state } maximumTimeout now).1.isOk =
      true

/-- A client and a bridge with some maximum of whole milliseconds agree about lifetimes. -/
structure TimeoutsAgree (sentTimeout : ℚ → ℚ → Option ℤ) (maximum : ℕ) : Prop where
  /-- What the client sends is a 64-bit number of milliseconds that the bridge accepts. -/
  accepted : ∀ timeout sent,
    sentTimeout (greetedTimeout (Duration.fromMillis maximum)) timeout = some sent →
    ∃ timeoutMs : ℕ, sent = timeoutMs ∧ 1 ≤ timeoutMs ∧ timeoutMs ≤ maximum ∧ timeoutMs < 2 ^ 64 ∧
      BridgeAccepts (Duration.fromMillis maximum) timeoutMs
  /-- It is the lifetime that was asked for, up to half a millisecond. -/
  close : ∀ timeout sent,
    sentTimeout (greetedTimeout (Duration.fromMillis maximum)) timeout = some sent →
    |(sent : ℚ) - timeout * 1000| ≤ 1 / 2 ∨ timeout * 1000 < 1 / 2 ∧ sent = 1
  monotone : ∀ shorter longer sent other,
    sentTimeout (greetedTimeout (Duration.fromMillis maximum)) shorter = some sent →
    sentTimeout (greetedTimeout (Duration.fromMillis maximum)) longer = some other →
    shorter ≤ longer → sent ≤ other

/-- A client that rounds every lifetime it accepts to a nearest number of milliseconds. -/
structure RoundsTimeouts (sentTimeout : ℚ → ℚ → Option ℤ) (rounding : ℚ → ℤ) : Prop where
  nearest : Nearest rounding
  sends : ∀ maximum timeout sent, sentTimeout maximum timeout = some sent ↔
    (0 < timeout ∧ timeout ≤ maximum) ∧ sent = max 1 (rounding (timeout * 1000))

/-- The Python client rounds to the nearest number. -/
theorem ScoutClient.roundsTimeouts : RoundsTimeouts ScoutClient.sentTimeout roundHalfEven where
  -- The client refuses what is not in the range, and rounds the rest.
  nearest := nearest_roundHalfEven
  sends maximum timeout sent := by
    unfold ScoutClient.sentTimeout
    split_ifs with refused
    · refine iff_of_false nofun fun both => ?_
      rcases refused with low | high
      · exact absurd both.1.1 (not_lt.mpr low)
      · exact absurd both.1.2 (not_le.mpr high)
    · rw [not_or, not_le, not_lt] at refused
      simp [refused, eq_comm]

/-- The MATLAB client rounds to the nearest number. -/
theorem Matlab.roundsTimeouts : RoundsTimeouts Matlab.sentTimeout roundHalfAway where
  -- The client refuses what is not in the range, and rounds the rest.
  nearest := nearest_roundHalfAway
  sends maximum timeout sent := by
    unfold Matlab.sentTimeout
    by_cases low : 0 < timeout
    · by_cases high : maximum < timeout
      · rw [if_neg (not_not_intro low), if_pos high]
        exact iff_of_false nofun fun both => absurd both.1.2 (not_le.mpr high)
      · rw [if_neg (not_not_intro low), if_neg high]
        simp [low, not_lt.mp high, eq_comm]
    · rw [if_pos low]
      exact iff_of_false nofun fun both => low both.1.1

/-- The greeting announces a whole number of milliseconds that is no more than the maximum. -/
theorem durationMilliseconds_fromMillis (maximum : ℕ) :
    durationMilliseconds (Duration.fromMillis maximum) = min maximum (2 ^ 64 - 1) := by
  -- Milliseconds that do not fit are cut to the largest number.
  have whole : (Duration.fromMillis maximum).asMillis = maximum :=
    Nat.mul_div_cancel maximum (by decide)
  rw [durationMilliseconds, whole]
  split <;> omega

/-- What the Python client computes from a binary64 product is what it would be exactly. -/
theorem timeoutMillis_eq {timeout : F64} (nonneg : 0 ≤ (timeout * Scalar.ofRat 1000).value) :
    (timeoutMillis timeout : ℤ) = max 1 (roundHalfEven (timeout * Scalar.ofRat 1000).value) := by
  rw [← F64.roundHalfEven_eq nonneg, timeoutMillis]
  exact Nat.cast_max 1 _

/-- What the MATLAB client rounds a binary64 number to is the exact result, as such a number. -/
theorem Matlab.round_eq {number : F64} (finite : number.isFinite = true) :
    Matlab.round number = F64.rounded number.negative |(roundHalfAway number.value : ℚ)| := by
  -- The sign does not matter for the magnitude.
  have nonneg : 0 ≤ ⌊|number.value| + 1 / 2⌋ := Int.floor_nonneg.mpr (by positivity)
  have magnitude : |(roundHalfAway number.value : ℚ)| = (⌊|number.value| + 1 / 2⌋ : ℤ) := by
    unfold roundHalfAway
    split
    · rw [Int.cast_neg, abs_neg, abs_of_nonneg (by exact_mod_cast nonneg)]
    · rw [abs_of_nonneg (by exact_mod_cast nonneg)]
  rw [magnitude, Matlab.round, if_pos finite]
  rfl

/-- The bridge accepts every lifetime from one millisecond to its maximum. -/
theorem bridgeAccepts_of_le {maximum timeoutMs : ℕ} (positive : 1 ≤ timeoutMs)
    (bounded : timeoutMs ≤ maximum) : BridgeAccepts (Duration.fromMillis maximum) timeoutMs := by
  -- The bridge checks the bounds of the lifetime, and that the velocity is finite.
  intro vx vy vtheta state now finite
  refine ((honest_handleRequest _).decided vx vy vtheta timeoutMs rfl).mpr ?_
  exact ⟨positive, Nat.mul_le_mul_right _ bounded, finite⟩

/-- Every client that rounds lifetimes to the nearest millisecond agrees with the bridge. -/
theorem RoundsTimeouts.agree {sentTimeout : ℚ → ℚ → Option ℤ} {rounding : ℚ → ℤ}
    (rounds : RoundsTimeouts sentTimeout rounding) {maximum : ℕ} (positive : 1 ≤ maximum) :
    TimeoutsAgree sentTimeout maximum where
  accepted timeout sent sends := by
    obtain ⟨⟨_, within⟩, rfl⟩ := (rounds.sends _ _ _).mp sends
    rw [greetedTimeout, durationMilliseconds_fromMillis, le_div_iff₀ (by norm_num)] at within
    -- The maximum is a whole number of milliseconds, so that nothing is rounded beyond it.
    have below : rounding (timeout * 1000) ≤ (min maximum (2 ^ 64 - 1) : ℕ) :=
      rounds.nearest.le_of_le (by exact_mod_cast within)
    refine ⟨(max 1 (rounding (timeout * 1000))).toNat, ?_, ?_, ?_, ?_, ?_⟩
    · omega
    · omega
    · omega
    · omega
    · exact bridgeAccepts_of_le (by omega) (by omega)
  close timeout sent sends := by
    obtain ⟨⟨above, _⟩, rfl⟩ := (rounds.sends _ _ _).mp sends
    have near := rounds.nearest (timeout * 1000)
    by_cases small : timeout * 1000 < 1 / 2
    · -- Less than half a millisecond is not rounded up, and one millisecond is sent instead.
      refine .inr ⟨small, ?_⟩
      have below := (abs_le.mp near).2
      have less : (rounding (timeout * 1000) : ℚ) < (1 : ℤ) := by
        push_cast
        linarith
      have := Int.cast_lt.mp less
      omega
    · refine .inl ?_
      rcases lt_or_ge (rounding (timeout * 1000)) 1 with low | high
      · -- Only half a millisecond itself is rounded down to nothing.
        have rounded : (rounding (timeout * 1000) : ℚ) ≤ 0 := by
          exact_mod_cast Int.lt_add_one_iff.mp low
        have half := (abs_le.mp near).1
        rw [max_eq_left low.le, Int.cast_one, abs_le]
        constructor <;> linarith
      · rwa [max_eq_right high]
  monotone shorter longer sent other sends sendsOther le := by
    obtain ⟨_, rfl⟩ := (rounds.sends _ _ _).mp sends
    obtain ⟨_, rfl⟩ := (rounds.sends _ _ _).mp sendsOther
    have ordered := rounds.nearest.mono (mul_le_mul_of_nonneg_right le (by norm_num : (0 : ℚ) ≤ 1000))
    omega

/-- Both clients agree with the bridge about every lifetime. -/
theorem client_timeouts_agree {maximum : ℕ} (positive : 1 ≤ maximum) :
    TimeoutsAgree ScoutClient.sentTimeout maximum ∧ TimeoutsAgree Matlab.sentTimeout maximum :=
  ⟨ScoutClient.roundsTimeouts.agree positive, Matlab.roundsTimeouts.agree positive⟩

/-- With a maximum of one millisecond, both clients send one for a third of it. -/
theorem client_timeouts_agree_third :
    ScoutClient.sentTimeout (greetedTimeout (Duration.fromMillis 1)) (1 / 3000) = some 1 ∧
    Matlab.sentTimeout (greetedTimeout (Duration.fromMillis 1)) (1 / 3000) = some 1 ∧
    TimeoutsAgree ScoutClient.sentTimeout 1 ∧ TimeoutsAgree Matlab.sentTimeout 1 :=
  ⟨by decide +kernel, by decide +kernel, client_timeouts_agree (by decide)⟩

end Scout
