import Mathlib.Data.List.Induction

/-! A cell that keeps the last value that could be read from a stream of messages. -/

namespace Scout.Machine

variable {Message Value : Type} {read : Message → Option Value}

/-- The last value that any of some messages is read as. -/
def latest (read : Message → Option Value) (messages : List Message) : Option Value :=
  (messages.filterMap read).getLast?

/-- What a cell holds once a message has come. -/
def refresh (read : Message → Option Value) (cell : Option Value) (message : Message) :
    Option Value :=
  (read message).or cell

/-- Before any message there is no value. -/
@[simp] theorem latest_nil : latest read [] = none := rfl

/-- One more message refreshes the last value. -/
theorem latest_concat (messages : List Message) (message : Message) :
    latest read (messages ++ [message]) = refresh read (latest read messages) message := by
  -- A message that is not read leaves the values as they are.
  unfold latest refresh
  cases found : read message with
  | none => simp [List.filterMap_append, found]
  | some value => simp [List.filterMap_append, found]

/-- The last value is read from a message that no other readable one follows. -/
theorem latest_eq_some {messages : List Message} {value : Value} :
    latest read messages = some value ↔ ∃ before message after,
      messages = before ++ message :: after ∧ read message = some value ∧
        ∀ later ∈ after, read later = none := by
  constructor
  · -- The induction is on the messages, the last of which decides if it can be read.
    intro known
    induction messages using List.reverseRecOn with
    | nil => cases known
    | append_singleton messages message ih =>
      rw [latest_concat, refresh] at known
      cases found : read message with
      | some other =>
        rw [found, Option.some_or] at known
        exact ⟨messages, message, [], rfl, known ▸ found, List.forall_mem_nil _⟩
      | none =>
        rw [found, Option.none_or] at known
        obtain ⟨before, last, after, rfl, there, unread⟩ := ih known
        refine ⟨before, last, after ++ [message], by simp, there, ?_⟩
        exact List.forall_mem_append.mpr ⟨unread, List.forall_mem_singleton.mpr found⟩
  · -- Nothing is read from what follows.
    rintro ⟨before, message, after, rfl, found, unread⟩
    have nothing : after.filterMap read = [] := List.filterMap_eq_nil_iff.mpr unread
    rw [latest, List.filterMap_append, List.filterMap_cons_some found, nothing,
      List.getLast?_concat]

/-- There is no last value exactly if no message can be read. -/
theorem latest_eq_none {messages : List Message} :
    latest read messages = none ↔ ∀ message ∈ messages, read message = none := by
  rw [latest, List.getLast?_eq_none_iff, List.filterMap_eq_nil_iff]

end Scout.Machine
