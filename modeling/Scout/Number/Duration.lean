import Scout.Number.Binary64

/-! Durations and clock readings, counted in nanoseconds. -/

namespace Scout

/-- A length of time in nanoseconds. -/
abbrev Duration := Nat

/-- A reading of the monotonic clock, in nanoseconds since an arbitrary origin. -/
abbrev Instant := Nat

namespace Duration

/-- A duration of whole milliseconds. -/
def fromMillis (millis : Nat) : Duration :=
  millis * 1000000

/-- A duration of whole seconds. -/
def fromSecs (secs : Nat) : Duration :=
  secs * 1000000000

/-- Whole milliseconds of a duration, rounded down. -/
def asMillis (duration : Duration) : Nat :=
  duration / 1000000

/-- A duration of floating-point seconds, where none stands for the conversion's panic. -/
def fromSecsF64 (secs : F64) : Option Duration :=
  if !secs.isFinite || secs.value < 0 then none
  else
    let exact := secs.value * 1000000000
    let nanos := F64.roundHalfEven exact.num.natAbs exact.den
    -- The seconds part is stored in sixty-four bits.
    if nanos / 1000000000 < 2 ^ 64 then some nanos else none

/-- The time from an earlier reading to a later one, if it is not the other way round. -/
def since (later earlier : Instant) : Option Duration :=
  if earlier ≤ later then some (later - earlier) else none

end Duration
end Scout
