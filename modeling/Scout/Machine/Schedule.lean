import Mathlib.Algebra.BigOperators.Group.Finset.Basic

/-! When the calls of a sequence begin and end, and how long some of them take together. -/

namespace Scout.Machine

/-- When each call of a sequence begins and ends, one after the other. -/
structure Schedule where
  start : Nat → Nat
  finish : Nat → Nat
  forward : ∀ place, start place ≤ finish place
  ordered : ∀ place, finish place ≤ start (place + 1)

namespace Schedule

/-- The time that those of the first calls take together that wait. -/
def spent (schedule : Schedule) (waits : Nat → Bool) (count : Nat) : Nat :=
  ∑ place ∈ Finset.range count,
    if waits place then schedule.finish place - schedule.start place else 0

variable {schedule : Schedule} {waits : Nat → Bool}

/-- One more call adds its time if it waits. -/
theorem spent_succ (count : Nat) : schedule.spent waits (count + 1) =
    schedule.spent waits count +
      if waits count then schedule.finish count - schedule.start count else 0 :=
  Finset.sum_range_succ _ count

/-- A call that does not wait adds no time. -/
theorem spent_quiet {count : Nat} (quiet : waits count = false) :
    schedule.spent waits (count + 1) = schedule.spent waits count := by
  simp [spent_succ, quiet]

/-- Calls that do not wait add no time. -/
theorem spent_idle {first count : Nat} (later : first ≤ count)
    (idle : ∀ place, first ≤ place → place < count → waits place = false) :
    schedule.spent waits count = schedule.spent waits first := by
  -- The induction is on the calls that are added.
  induction count, later using Nat.le_induction with
  | base => rfl
  | succ count later ih =>
    have quiet := idle count later (Nat.lt_succ_self count)
    have before := ih fun place from_ below => idle place from_ (Nat.lt_succ_of_lt below)
    rw [spent_quiet quiet, before]

/-- Calls after the first one take no longer than the time that has passed since. -/
theorem finish_add_spent_le (quiet : waits 0 = false) (count : Nat) :
    schedule.finish 0 + schedule.spent waits (count + 1) ≤ schedule.start (count + 1) := by
  -- Each call lies between the end of the previous one and the beginning of the next one.
  induction count with
  | zero =>
    have none : schedule.spent waits (0 + 1) = 0 := by simp [spent, quiet]
    rw [none]
    exact schedule.ordered 0
  | succ count ih =>
    have whole := schedule.forward (count + 1)
    have next := schedule.ordered (count + 1)
    rw [spent_succ]
    split
    · omega
    · omega

/-- A call that ends in time, judged by a reading after which no other call has waited. -/
def InTime (schedule : Schedule) (waits : Nat → Bool) (entry deadline place : Nat) : Prop :=
  ∃ earlier reading, earlier < place ∧
    (∀ between, earlier ≤ between → between < place → waits between = false) ∧
    entry ≤ reading ∧ schedule.start earlier ≤ reading ∧
    reading + (schedule.finish place - schedule.start place) ≤ deadline

/-- If every call that waits ends in time, all of them together take what was left at entry. -/
theorem spent_le {entry deadline : Nat} (quiet : waits 0 = false) (begun : entry ≤ schedule.finish 0)
    (left : entry ≤ deadline) {count : Nat}
    (inTime : ∀ place, place < count → waits place = true →
      schedule.InTime waits entry deadline place) :
    entry + schedule.spent waits count ≤ deadline := by
  -- The last call that waits decides, and what was spent before it had passed at its reading.
  induction count with
  | zero => simpa [spent] using left
  | succ count ih =>
    have before := ih fun place below => inTime place (Nat.lt_succ_of_lt below)
    cases waiting : waits count with
    | false => rwa [spent_quiet waiting]
    | true =>
      obtain ⟨earlier, reading, below, idle, late, passed, enough⟩ :=
        inTime count (Nat.lt_succ_self count) waiting
      have same := @spent_idle schedule waits earlier count (Nat.le_of_lt below) idle
      have sooner : entry + schedule.spent waits earlier ≤ reading := by
        cases earlier with
        | zero => simpa [spent] using late
        | succ previous =>
          have gone := @finish_add_spent_le schedule waits quiet previous
          omega
      rw [spent_succ, waiting, if_pos rfl, same]
      omega

end Schedule
end Scout.Machine
