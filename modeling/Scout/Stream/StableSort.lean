import Mathlib.Data.List.Sort

/-! Sorting by a yes-or-no key, and when it does not matter whether truncation comes first. -/

namespace Scout.Stream

variable {α : Type} (late : α → Bool)

/-- An element that is not late is inserted at the front. -/
theorem orderedInsert_early {element : α} (early : late element = false) (sorted : List α) :
    sorted.orderedInsert (fun first second => late first ≤ late second) element =
      element :: sorted := by
  -- It comes before every other element.
  cases sorted with
  | nil => rfl
  | cons head tail =>
    have first : late element ≤ late head := by
      rw [early]
      exact Bool.false_le _
    exact if_pos first

/-- A late element is inserted behind the others that are not, and before those that are. -/
theorem orderedInsert_late {element : α} (isLate : late element = true) {earlier later : List α}
    (before : ∀ other ∈ earlier, late other = false) (after : ∀ other ∈ later, late other = true) :
    (earlier ++ later).orderedInsert (fun first second => late first ≤ late second) element =
      earlier ++ element :: later := by
  -- The induction passes the elements that are not late one by one.
  induction earlier with
  | nil =>
    cases later with
    | nil => rfl
    | cons head tail =>
      have headLate := after head List.mem_cons_self
      exact if_pos (isLate.trans headLate.symm).le
  | cons head tail ih =>
    have headEarly := before head List.mem_cons_self
    have passed : ¬ late element ≤ late head := by
      rw [isLate, headEarly]
      decide
    rw [List.cons_append, List.orderedInsert, if_neg passed,
      ih fun other member => before other (List.mem_cons_of_mem _ member)]
    rfl

/-- A stable sort puts the elements that are not late first, and keeps both orders. -/
theorem insertionSort_eq_filters (elements : List α) :
    elements.insertionSort (fun first second => late first ≤ late second) =
      elements.filter (fun element => !late element) ++ elements.filter late := by
  -- Each element is inserted at the front of its own part.
  induction elements with
  | nil => rfl
  | cons head tail ih =>
    rw [List.insertionSort_cons, ih]
    by_cases isLate : late head = true
    · rw [orderedInsert_late late isLate (by simp) (by simp)]
      simp [isLate]
    · have early := Bool.not_eq_true _ |>.mp isLate
      rw [orderedInsert_early late early]
      simp [early]

/-- Of two parts, the first is what sorting both leaves at the front if nothing is moved in. -/
theorem filters_take_iff (front back : List α) :
    front.filter (fun element => !late element) ++ front.filter late =
        ((front ++ back).filter (fun element => !late element) ++
          (front ++ back).filter late).take front.length ↔
      (∀ element ∈ back, late element = true) ∨ ∀ element ∈ front, late element = false := by
  have counted : (front.filter fun element => !late element).length + (front.filter late).length =
      front.length := by
    rw [front.length_eq_length_filter_add late]
    exact Nat.add_comm _ _
  rw [List.filter_append, List.filter_append, List.append_assoc, ← counted,
    List.take_length_add_append, List.append_cancel_left_eq]
  constructor
  · -- An element that is moved in would stand where a late one of the first part does.
    intro same
    cases moved : back.filter fun element => !late element with
    | nil =>
      have none := List.filter_eq_nil_iff.mp moved
      exact .inl fun element member => by simpa using none element member
    | cons first others =>
      cases lates : front.filter late with
      | nil =>
        have none := List.filter_eq_nil_iff.mp lates
        exact .inr fun element member => by simpa using none element member
      | cons last behind =>
        rw [moved, lates, List.length_cons, List.cons_append, List.take_succ_cons] at same
        have early : first ∈ back.filter fun element => !late element := by simp [moved]
        have isLate : last ∈ front.filter late := by simp [lates]
        rw [List.mem_filter] at early isLate
        have equal : last = first := (List.cons.inj same).1
        rw [equal] at isLate
        simp [isLate.2] at early
  · intro kept
    rcases kept with behind | before
    · have none : (back.filter fun element => !late element) = [] :=
        List.filter_eq_nil_iff.mpr fun element member => by simp [behind element member]
      rw [none, List.nil_append, List.take_left]
    · have none : front.filter late = [] :=
        List.filter_eq_nil_iff.mpr fun element member => by simp [before element member]
      rw [none, List.length_nil, List.take_zero]

/-- Truncating before the sort agrees with truncating after it exactly if nothing is moved in. -/
theorem sort_take_eq_take_sort_iff (count : Nat) (elements : List α) :
    (elements.take count).insertionSort (fun first second => late first ≤ late second) =
        (elements.insertionSort fun first second => late first ≤ late second).take count ↔
      (∀ element ∈ elements.drop count, late element = true) ∨
        ∀ element ∈ elements.take count, late element = false := by
  -- Both sides are about what stands before the cut and what stands behind it.
  rw [insertionSort_eq_filters, insertionSort_eq_filters]
  rcases Nat.lt_or_ge count elements.length with cut | whole
  · have length : (elements.take count).length = count := by
      rw [List.length_take]
      omega
    have split := List.take_append_drop count elements
    generalize elements.take count = front at length split
    generalize elements.drop count = back at split
    subst split length
    exact filters_take_iff late front back
  · -- Nothing is cut off.
    rw [List.take_of_length_le whole, List.drop_of_length_le whole, List.take_of_length_le]
    · simp
    · rw [List.length_append, Nat.add_comm, ← elements.length_eq_length_filter_add late]
      exact whole

end Scout.Stream
