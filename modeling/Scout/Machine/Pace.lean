import Mathlib.Data.List.Basic

/-! Clocks that never go back and waits that last, in a log, and how often a loop can look. -/

namespace Scout.Machine

/-- What a log tells about time: readings of the clock, and how long the waits are. -/
structure Timing (Event : Type) where
  reading : Event → Option Nat
  pause : Event → Nat

namespace Timing

variable {Event : Type} (timing : Timing Event)

/-- The earliest time after an event, given the earliest time before it. -/
def onward (earliest : Nat) (event : Event) : Nat :=
  (timing.reading event).getD earliest + timing.pause event

/-- The clock never goes back, and every wait lasts at least as long as it was asked to. -/
def Paced : Nat → List Event → Prop
  | _, [] => True
  | earliest, event :: rest =>
    (∀ now, timing.reading event = some now → earliest ≤ now) ∧
      Paced (timing.onward earliest event) rest

/-- The earliest time after some events. -/
def after (earliest : Nat) (events : List Event) : Nat :=
  events.foldl timing.onward earliest

variable {timing}

/-- Every part of a paced log is paced. -/
theorem paced_append {earliest : Nat} {first second : List Event} :
    timing.Paced earliest (first ++ second) ↔
      timing.Paced earliest first ∧ timing.Paced (timing.after earliest first) second := by
  -- The earliest time is carried along.
  induction first generalizing earliest with
  | nil => simp [Paced, after]
  | cons event rest ih => simp only [List.cons_append, Paced, ih, and_assoc, after, List.foldl_cons]

/-- Before a deadline there is only time for so many looks with a pause after each of them. -/
def Fits (timing : Timing Event) (looks : List Event → Nat) (pause deadline : Nat)
    (events : List Event) : Prop :=
  ∀ earliest, timing.Paced earliest events →
    looks events * pause < deadline - earliest + pause

/-- A look before the deadline with a pause after it leaves so much less time for others. -/
theorem Fits.cons {looks : List Event → Nat} {pause deadline now : Nat} {round rest : List Event}
    (fits : timing.Fits looks pause deadline rest) (early : now < deadline)
    (one : looks (round ++ rest) ≤ 1 + looks rest)
    (read : ∀ earliest, timing.Paced earliest round →
      earliest ≤ now ∧ now + pause ≤ timing.after earliest round) :
    timing.Fits looks pause deadline (round ++ rest) := by
  -- The rest begins a pause after the look.
  intro earliest paced
  obtain ⟨here, behind⟩ := paced_append.mp paced
  obtain ⟨forward, later⟩ := read earliest here
  have others := fits _ behind
  have few := Nat.mul_le_mul_right pause one
  rw [Nat.add_mul, Nat.one_mul] at few
  -- Where the deadline has passed meanwhile, there is no other look.
  have late : looks rest * pause < pause → looks rest * pause = 0 := by
    intro less
    cases count : looks rest with
    | zero => rw [Nat.zero_mul]
    | succ more =>
      rw [count, Nat.add_mul] at less
      omega
  omega

end Timing
end Scout.Machine
