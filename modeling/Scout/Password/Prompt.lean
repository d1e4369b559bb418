import Scout.Password.Input
import Scout.Stream.Utf8

/-! A password that the prompt submits is exactly what was typed. -/

namespace Scout.Password

open Wifi (ErrorKind)

/-- Whether a key is pressed or repeated. -/
def KeyEvent.down (key : KeyEvent) : Bool := key.kind ≠ .release

/-- Whether an event gives up. -/
def Event.givesUp : Event → Bool
  | .key pressed => pressed.down && cancels pressed
  | .other => false

/-- Whether an event submits what was typed. -/
def Event.submits : Event → Bool
  | .key pressed => pressed.down && pressed.code = .enter
  | .other => false

/-- What an editor without limits makes of an event. -/
def edit (buffer : Text) : Event → Text
  | .other => buffer
  | .key key =>
    if key.kind = .release then buffer
    else
      match key.code with
      | .char character =>
        if intersects key.modifiers controlOrAlt then buffer else buffer ++ [character]
      | .backspace => buffer.dropLast
      | _ => buffer

/-- What an editor without limits makes of some events. -/
def edited (events : List Event) : Text := events.foldl edit []

/-- At some moment the editor held more than sixty-three bytes. -/
def Exceeded (events : List Event) : Prop :=
  ∃ earlier, earlier <+: events ∧ 63 < (edited earlier).utf8.length

/-- The prompt holds what the editor does, until that has been too long for once. -/
structure Follows (prompt : Prompt) (events : List Event) : Prop where
  short : prompt.password.utf8.length ≤ 63
  sticky : prompt.tooLong = true ↔ Exceeded events
  same : prompt.tooLong = false → prompt.password = edited events

section Editing

variable {events : List Event} {event : Event}

/-- The last event is edited last. -/
theorem edited_concat : edited (events ++ [event]) = edit (edited events) event := by
  -- The last event is edited last.
  rw [edited, List.foldl_concat]
  rfl

/-- Nothing has been too long at the start. -/
theorem not_exceeded_nil : ¬ Exceeded [] := by
  -- The buffer is empty then.
  intro exceeded
  obtain ⟨earlier, part, long⟩ := exceeded
  rw [List.prefix_nil.mp part] at long
  exact absurd long (by decide)

/-- One more event is too much if it was too much before, or if it makes the buffer too long. -/
theorem exceeded_concat :
    Exceeded (events ++ [event]) ↔
      Exceeded events ∨ 63 < (edit (edited events) event).utf8.length := by
  -- What is typed so far is the whole, or it was typed before the last event.
  rw [← edited_concat]
  constructor
  · intro exceeded
    obtain ⟨earlier, part, long⟩ := exceeded
    rcases List.prefix_concat_iff.mp part with rfl | before
    · exact .inr long
    · exact .inl ⟨earlier, before, long⟩
  · intro exceeded
    rcases exceeded with ⟨earlier, before, long⟩ | long
    · exact ⟨earlier, before.trans (List.prefix_append _ _), long⟩
    · exact ⟨_, List.prefix_refl _, long⟩

/-- A text has at least as many bytes as without its last character. -/
theorem utf8_dropLast_length (text : Text) :
    (Text.utf8 text.dropLast).length ≤ text.utf8.length := by
  -- The bytes of the last character come last.
  cases empty : text.isEmpty with
  | true =>
    rw [List.isEmpty_iff.mp empty]
    exact Nat.le_refl _
  | false =>
    have some := List.isEmpty_eq_false_iff.mp empty
    have whole : text.utf8 = Text.utf8 (text.dropLast ++ [text.getLast some]) := by
      rw [List.dropLast_append_getLast]
    rw [whole, Text.utf8_append, List.length_append]
    omega

end Editing

/-- A text with one more character has the bytes of this character, too. -/
theorem utf8_concat_length (text : Text) (character : Char) :
    (Text.utf8 (text ++ [character])).length = text.utf8.length + lenUtf8 character := by
  -- The bytes of the last character come at the end.
  rw [Text.utf8_append, List.length_append]
  simp [Text.utf8, lenUtf8]

section Keys

variable {prompt next : Prompt} {events : List Event} {event : Event}

/-- Nothing is typed at the start. -/
theorem follows_new : Follows Prompt.new [] :=
  -- Nothing has been typed.
  ⟨Nat.zero_le _, iff_of_false Bool.false_ne_true not_exceeded_nil, fun _ => rfl⟩

/-- An event that leaves both the editor and the prompt as they are changes nothing. -/
theorem Follows.unchanged (follows : Follows prompt events)
    (idle : edit (edited events) event = edited events) : Follows prompt (events ++ [event]) := by
  -- An event that edits nothing makes nothing longer.
  refine ⟨follows.short, ?_, fun fine => ?_⟩
  · rw [exceeded_concat, idle, follows.sticky]
    refine ⟨.inl, fun either => either.elim id fun long => ?_⟩
    exact ⟨events, List.prefix_refl _, long⟩
  · rw [edited_concat, idle]
    exact follows.same fine

/-- What is typed while the buffer is short is typed at the prompt, too. -/
theorem Follows.typed (follows : Follows prompt events) {password : Text}
    (short : password.utf8.length ≤ 63)
    (agrees : prompt.tooLong = false → password = edit (edited events) event) :
    Follows { prompt with password } (events ++ [event]) := by
  refine ⟨short, ?_, fun fine => ?_⟩
  · rw [exceeded_concat, ← follows.sticky]
    refine ⟨.inl, fun either => either.elim id fun long => ?_⟩
    -- A prompt that has never been too long holds what the editor does.
    by_contra fine
    rw [← agrees (Bool.eq_false_iff.mpr fine)] at long
    exact absurd short (Nat.not_le.mpr long)
  · rw [edited_concat]
    exact agrees fine

/-- What is too long for the prompt is too long for the editor. -/
theorem Follows.full (follows : Follows prompt events)
    (long : prompt.tooLong = true ∨ prompt.tooLong = false ∧
      63 < (edit (edited events) event).utf8.length) :
    Follows { prompt with tooLong := true } (events ++ [event]) := by
  -- Once the text has been too long, it is no longer followed.
  refine ⟨follows.short, iff_of_true rfl ?_, fun fine => by cases fine⟩
  rw [exceeded_concat, ← follows.sticky]
  exact long.imp_right fun both => both.2

/-- A character is typed at the prompt, too, or it is too much. -/
theorem Follows.character (follows : Follows prompt events) {character : Char}
    (added : edit (edited events) event = edited events ++ [character])
    (went : (if prompt.tooLong = true ∨ 63 < prompt.password.utf8.length + lenUtf8 character then
      (.inl { prompt with tooLong := true } : Prompt ⊕ Except InputError Text)
      else .inl { prompt with password := prompt.password ++ [character] }) = .inl next) :
    Follows next (events ++ [event]) := by
  -- The prompt checks the length before the character is added.
  by_cases full : prompt.tooLong = true ∨ 63 < prompt.password.utf8.length + lenUtf8 character
  · rw [if_pos full] at went
    cases went
    apply follows.full
    -- Either it has been too long before, or it becomes too long now.
    cases before : prompt.tooLong with
    | true => exact .inl rfl
    | false =>
      rw [before] at full
      rw [added, utf8_concat_length, ← follows.same before]
      exact .inr ⟨rfl, full.resolve_left Bool.false_ne_true⟩
  · rw [if_neg full] at went
    cases went
    -- Otherwise the character is added here and there.
    rw [not_or, Nat.not_lt, ← utf8_concat_length] at full
    exact follows.typed full.2 fun fine => by rw [added, follows.same fine]

/-- A key keeps the prompt with the editor, as long as the prompt is not over. -/
theorem Follows.step (follows : Follows prompt events) {key : KeyEvent}
    (went : promptKey prompt key = .inl next) : Follows next (events ++ [.key key]) := by
  unfold promptKey at went
  by_cases released : key.kind = .release
  · rw [if_pos released] at went
    cases went
    exact follows.unchanged (by rw [edit, if_pos released])
  rw [if_neg released] at went
  by_cases stopped : cancels key = true
  · rw [if_pos stopped] at went
    cases went
  rw [if_neg stopped] at went
  -- Only two kinds of keys change what is typed.
  cases code : key.code with
  | enter =>
    rw [code] at went
    dsimp only at went
    split at went <;> cases went
  | backspace =>
    rw [code] at went
    cases went
    refine follows.typed (Nat.le_trans (utf8_dropLast_length _) follows.short) fun fine => ?_
    rw [edit, if_neg released, code, follows.same fine]
  | char character =>
    rw [code] at went
    dsimp only at went
    by_cases held : intersects key.modifiers controlOrAlt = true
    · rw [if_pos held] at went
      cases went
      exact follows.unchanged (by rw [edit, if_neg released, code]; dsimp only; rw [if_pos held])
    · rw [if_neg held] at went
      refine follows.character ?_ went
      rw [edit, if_neg released, code]
      dsimp only
      rw [if_neg held]
  | esc =>
    rw [code] at went
    cases went
    exact follows.unchanged (by rw [edit, if_neg released, code])
  | other =>
    rw [code] at went
    cases went
    exact follows.unchanged (by rw [edit, if_neg released, code])

/-- A key that neither gives up nor submits leaves the prompt open. -/
theorem promptKey_open {key : KeyEvent} (stays : ¬ (Event.key key).givesUp)
    (going : ¬ (Event.key key).submits) : ∃ next, promptKey prompt key = .inl next := by
  -- The cases are those of the key, as far as it is looked at.
  unfold promptKey
  by_cases released : key.kind = .release
  · exact ⟨prompt, if_pos released⟩
  rw [if_neg released, if_neg fun stopped => stays (by simp [Event.givesUp, KeyEvent.down, *])]
  cases code : key.code with
  | enter => exact absurd (by simp [Event.submits, KeyEvent.down, *]) going
  | backspace => exact ⟨_, rfl⟩
  | char character =>
    dsimp only
    split
    · exact ⟨_, rfl⟩
    · split <;> exact ⟨_, rfl⟩
  | esc => exact ⟨_, rfl⟩
  | other => exact ⟨_, rfl⟩

/-- A key that submits gives what the prompt holds, unless that has been too long. -/
theorem promptKey_submit {key : KeyEvent} (down : key.down = true) (enter : key.code = .enter) :
    promptKey prompt key =
      .inr (if prompt.tooLong then
        .error (.invalidInput "Wi-Fi password exceeds 63 bytes; run setup again to re-enter it")
        else .ok prompt.password) := by
  -- The key neither is released nor cancels.
  have pressed : ¬ key.kind = .release := by simpa [KeyEvent.down] using down
  have stays : ¬ cancels key = true := by simp [cancels, enter]
  rw [promptKey, if_neg pressed, if_neg stays, enter]
  dsimp only
  split <;> rfl

/-- The prompt stays open, and with the editor, while nothing gives up or submits. -/
theorem Follows.run (follows : Follows prompt events) (typed : List Event)
    (stays : ∀ event ∈ typed, ¬ event.givesUp) (going : ∀ event ∈ typed, ¬ event.submits)
    (rest : List (Except ErrorKind Event)) :
    ∃ next, proceed prompt (typed.map .ok ++ rest) = proceed next rest ∧
      Follows next (events ++ typed) := by
  -- The induction is on what is still to be typed.
  induction typed generalizing prompt events with
  | nil => exact ⟨prompt, rfl, by rwa [List.append_nil]⟩
  | cons event typed ih =>
    rw [List.append_cons]
    have still : ∀ event ∈ typed, ¬ event.givesUp := fun event member =>
      stays event (.tail _ member)
    have open' : ∀ event ∈ typed, ¬ event.submits := fun event member =>
      going event (.tail _ member)
    cases event with
    | other =>
      have idle : edit (edited events) .other = edited events := rfl
      exact ih (follows.unchanged idle) still open'
    | key key =>
      obtain ⟨middle, went⟩ := promptKey_open (stays _ (.head _)) (going _ (.head _))
      obtain ⟨next, same, after⟩ := ih (follows.step went) still open'
      refine ⟨next, ?_, after⟩
      rw [List.map_cons, List.cons_append, proceed, went]
      exact same

/-- An open prompt is still with the editor. -/
theorem Follows.proceed (follows : Follows prompt events) {reported : List (Except ErrorKind Event)}
    (still : proceed prompt reported = .inl next) : ∃ typed, Follows next typed := by
  -- The induction is on the events that are reported.
  induction reported generalizing prompt events with
  | nil =>
    cases still
    exact ⟨events, follows⟩
  | cons first reported ih =>
    cases first with
    | error kind => cases still
    | ok event =>
      cases event with
      | other =>
        have idle : edit (edited events) .other = edited events := rfl
        exact ih (follows.unchanged idle) still
      | key key =>
        rw [Password.proceed] at still
        cases went : promptKey prompt key with
        | inl middle =>
          rw [went] at still
          exact ih (follows.step went) still
        | inr result =>
          rw [went] at still
          cases still

end Keys

/-- Behind what has been typed, a submitting key ends the prompt with the text or an error. -/
theorem readHiddenWifiPassword_submit (typed : List Event)
    (stays : ∀ event ∈ typed, ¬ event.givesUp) (going : ∀ event ∈ typed, ¬ event.submits)
    {last : KeyEvent} (enter : (Event.key last).submits) (rest : List (Except ErrorKind Event)) :
    ∃ prompt, Follows prompt typed ∧
      readHiddenWifiPassword (typed.map .ok ++ .ok (.key last) :: rest) =
        .inr (if prompt.tooLong then
          .error (.invalidInput "Wi-Fi password exceeds 63 bytes; run setup again to re-enter it")
          else .ok prompt.password) := by
  -- The prompt follows what is typed up to the last key.
  obtain ⟨prompt, same, follows⟩ := follows_new.run typed stays going (.ok (.key last) :: rest)
  refine ⟨prompt, follows, ?_⟩
  rw [Event.submits, Bool.and_eq_true, decide_eq_true_iff] at enter
  rw [readHiddenWifiPassword, same, proceed, promptKey_submit enter.1 enter.2]

/-- The password is exactly what has been typed, if this has never been too long. -/
theorem readHiddenWifiPassword_never_alters (typed : List Event)
    (stays : ∀ event ∈ typed, ¬ event.givesUp) (going : ∀ event ∈ typed, ¬ event.submits)
    (last : KeyEvent) (enter : (Event.key last).submits) :
    (∀ rest password,
      readHiddenWifiPassword (typed.map .ok ++ .ok (.key last) :: rest) = .inr (.ok password) ↔
        (∀ earlier, earlier <+: typed → (edited earlier).utf8.length ≤ 63) ∧
          password = edited typed) ∧
    (∀ rest earlier, earlier <+: typed → 63 < (edited earlier).utf8.length →
      ∃ error,
        readHiddenWifiPassword (typed.map .ok ++ .ok (.key last) :: rest) = .inr (.error error)) ∧
    ∀ reported prompt, readHiddenWifiPassword reported = .inl prompt →
      prompt.password.utf8.length ≤ 63 := by
  refine ⟨fun rest password => ?_, fun rest earlier part long => ?_,
    fun reported prompt still => ?_⟩
  · obtain ⟨prompt, follows, result⟩ := readHiddenWifiPassword_submit typed stays going enter rest
    rw [result]
    cases fine : prompt.tooLong with
    | true =>
      -- There has been a moment when the buffer was too long.
      obtain ⟨earlier, part, long⟩ := follows.sticky.mp fine
      refine iff_of_false (fun same => by cases same) fun both => ?_
      exact absurd (both.1 earlier part) (Nat.not_le.mpr long)
    | false =>
      have never : ∀ earlier, earlier <+: typed → (edited earlier).utf8.length ≤ 63 := by
        intro earlier part
        by_contra long
        have exceeded := follows.sticky.mpr ⟨earlier, part, Nat.not_le.mp long⟩
        rw [fine] at exceeded
        cases exceeded
      rw [if_neg Bool.false_ne_true, follows.same fine, and_iff_right never, Sum.inr.injEq,
        Except.ok.injEq]
      exact eq_comm
  · obtain ⟨prompt, follows, result⟩ := readHiddenWifiPassword_submit typed stays going enter rest
    rw [follows.sticky.mpr ⟨earlier, part, long⟩] at result
    exact ⟨_, result⟩
  · obtain ⟨typed, follows⟩ := follows_new.proceed still
    exact follows.short

/-- A character and the enter key submit this character. -/
theorem readHiddenWifiPassword_never_alters_character :
    readHiddenWifiPassword
      [.ok (.key ⟨.char 'a', ⟨0⟩, .press⟩), .ok (.key ⟨.enter, ⟨0⟩, .press⟩)] =
        .inr (.ok ['a']) := by
  have agrees := readHiddenWifiPassword_never_alters [.key ⟨.char 'a', ⟨0⟩, .press⟩]
    (by decide) (by decide) ⟨.enter, ⟨0⟩, .press⟩ (by decide)
  refine (agrees.1 [] ['a']).mpr ⟨fun earlier part => ?_, rfl⟩
  -- The buffer is empty, or it has this one character.
  rcases List.prefix_cons_iff.mp part with rfl | ⟨rest, rfl, none⟩
  · decide
  · rw [List.prefix_nil.mp none]
    decide

end Scout.Password
