import Scout.Password.Line
import Scout.Password.Prompt

/-! Which password is read from the place that the user has chosen, and what is shown meanwhile. -/

namespace Scout.Password

open Wifi (ErrorKind)

section Pipe

/-- A line is read from bytes that follow one another, up to the end of the line or of them all. -/
theorem readLine_stream {bytes line : Bytes} {reader rest : Reader}
    (read : readLine bytes reader = (.ok line, rest)) :
    ∃ stream : Bytes, reader = stream.map .ok ++ rest ∧ (rest = [] ∨ stream.getLast? = some 10) ∧
      (readLine bytes (stream.map .ok)).1 = .ok line := by
  -- The induction is on the reads that are made.
  induction reader generalizing bytes with
  | nil =>
    cases read
    exact ⟨[], rfl, .inl rfl, rfl⟩
  | cons first reader ih =>
    cases first with
    | error kind => cases read
    | ok byte =>
      rw [readLine] at read
      dsimp only at read
      by_cases long : 65 < (bytes ++ [byte]).length
      · rw [if_pos long] at read
        cases read
      rw [if_neg long] at read
      by_cases feed : byte = 10
      · rw [if_pos feed] at read
        cases read
        refine ⟨[byte], rfl, .inr (by rw [feed]; rfl), ?_⟩
        rw [List.map_singleton, readLine]
        dsimp only
        rw [if_neg long, if_pos feed]
      · rw [if_neg feed] at read
        obtain ⟨stream, same, ends, again⟩ := ih read
        refine ⟨byte :: stream, by rw [same]; rfl, ends.imp_right fun last => ?_, ?_⟩
        · rw [List.getLast?_cons, last]
          rfl
        · rw [List.map_cons, readLine]
          dsimp only
          rw [if_neg long, if_neg feed]
          exact again

/-- A password that is read is the first line of what is there to read. -/
theorem readWifiPassword_firstLine {reader rest : Reader} {password : Text}
    (read : readWifiPassword reader = (.ok password, rest)) :
    ∃ stream : Bytes, reader = stream.map .ok ++ rest ∧ (rest = [] ∨ stream.getLast? = some 10) ∧
      password.utf8 = firstLine stream := by
  unfold readWifiPassword at read
  cases found : readLine [] reader with
  | mk result behind =>
    rw [found] at read
    cases result with
    | error error => cases read
    | ok line =>
      dsimp only at read
      by_cases long : 63 < line.length
      · rw [if_pos long] at read
        cases read
      rw [if_neg long] at read
      cases text : Text.ofUtf8 line with
      | none =>
        rw [text] at read
        cases read
      | some other =>
        rw [text] at read
        cases read
        obtain ⟨stream, same, ends, again⟩ := readLine_stream found
        refine ⟨stream, same, ends, ?_⟩
        -- The line of these bytes is the first one.
        rcases readLine_line [] stream with whole | ⟨refused, _⟩
        · rw [again] at whole
          rw [Text.ofUtf8_eq_some.mp text]
          exact Except.ok.inj whole
        · rw [again] at refused
          cases refused

end Pipe

section Keys

variable {prompt next : Prompt} {key : KeyEvent} {password : Text}

/-- A key that gives up ends the prompt with an error. -/
theorem promptKey_givesUp (stopped : (Event.key key).givesUp) :
    promptKey prompt key = .inr (.error (.interrupted "Wi-Fi setup cancelled")) := by
  -- The key is down, and it cancels.
  rw [Event.givesUp, Bool.and_eq_true] at stopped
  have pressed : ¬ key.kind = .release := by simpa [KeyEvent.down] using stopped.1
  rw [promptKey, if_neg pressed, if_pos stopped.2]

/-- A key that leaves the prompt open neither gives up nor submits. -/
theorem promptKey_goesOn (went : promptKey prompt key = .inl next) :
    ¬ (Event.key key).givesUp ∧ ¬ (Event.key key).submits := by
  -- Either key would have ended the prompt.
  constructor
  · intro stopped
    rw [promptKey_givesUp stopped] at went
    cases went
  · intro enter
    rw [Event.submits, Bool.and_eq_true, decide_eq_true_iff] at enter
    rw [promptKey_submit enter.1 enter.2] at went
    cases went

/-- A key that ends the prompt with a password submits what the prompt holds. -/
theorem promptKey_ok (ended : promptKey prompt key = .inr (.ok password)) :
    (Event.key key).submits ∧ prompt.tooLong = false ∧ password = prompt.password := by
  -- No other key ends the prompt without an error.
  by_cases stopped : (Event.key key).givesUp
  · rw [promptKey_givesUp stopped] at ended
    cases ended
  by_cases enter : (Event.key key).submits
  · refine ⟨enter, ?_⟩
    rw [Event.submits, Bool.and_eq_true, decide_eq_true_iff] at enter
    rw [promptKey_submit enter.1 enter.2] at ended
    cases long : prompt.tooLong with
    | true =>
      rw [long] at ended
      cases ended
    | false =>
      rw [long] at ended
      cases ended
      exact ⟨rfl, rfl⟩
  · obtain ⟨next, went⟩ := promptKey_open stopped enter
    rw [went] at ended
    cases ended

/-- Keys that are typed, and one that submits them. -/
structure Typed (reported : List (Except ErrorKind Event)) (typed : List Event) : Prop where
  submitted : ∃ last rest, reported = typed.map .ok ++ .ok (.key last) :: rest ∧
    (Event.key last).submits
  open_ : ∀ event ∈ typed, ¬ event.givesUp ∧ ¬ event.submits

/-- What a prompt ends with is what an editor makes of the keys that were typed. -/
theorem submitted_of_follows {events : List Event} (follows : Follows prompt events)
    {reported : List (Except ErrorKind Event)}
    (ended : proceed prompt reported = .inr (.ok password)) :
    ∃ typed, Typed reported typed ∧ password = edited (events ++ typed) := by
  -- The induction is on what is reported.
  induction reported generalizing prompt events with
  | nil => cases ended
  | cons first reported ih =>
    cases first with
    | error kind => cases ended
    | ok event =>
      have later {next : Prompt} (goesOn : ¬ event.givesUp ∧ ¬ event.submits)
          (after : Follows next (events ++ [event]))
          (ended : proceed next reported = .inr (.ok password)) :
          ∃ typed, Typed (.ok event :: reported) typed ∧ password = edited (events ++ typed) := by
        obtain ⟨typed, ⟨⟨last, rest, same, submits⟩, stays⟩, edits⟩ := ih after ended
        refine ⟨event :: typed, ⟨⟨last, rest, by rw [same]; rfl, submits⟩, ?_⟩, ?_⟩
        · exact List.forall_mem_cons.mpr ⟨goesOn, stays⟩
        · rw [edits, ← List.append_cons]
      cases event with
      | other =>
        have idle : edit (edited events) .other = edited events := rfl
        exact later ⟨by decide, by decide⟩ (follows.unchanged idle) ended
      | key key =>
        rw [proceed] at ended
        cases went : promptKey prompt key with
        | inl next =>
          rw [went] at ended
          exact later (promptKey_goesOn went) (follows.step went) ended
        | inr result =>
          rw [went] at ended
          cases ended
          obtain ⟨submits, fine, rfl⟩ := promptKey_ok went
          refine ⟨[], ⟨⟨key, reported, rfl, submits⟩, List.forall_mem_nil _⟩, ?_⟩
          rw [List.append_nil]
          exact follows.same fine

end Keys

/-- The terminal that a hidden prompt needs. -/
structure PromptTerminal where
  /-- Whether the two standard streams are a terminal. -/
  stdin : Bool
  stdout : Bool
  flush : Except ErrorKind Unit
  enableRawMode : Except ErrorKind Unit
  events : List (Except ErrorKind Event)

/-- What is shown before a hidden password is typed. -/
def promptText : String := "Router password (hidden): "

/-- How far a prompt has come: whether its line is over, and what it ends with if it does. -/
abbrev PromptResult := List String × (Prompt ⊕ Except InputError Text)

/-- Ask for a password at a hidden prompt, and say what is shown. -/
def promptWifiPassword (terminal : PromptTerminal) : PromptResult :=
  if !terminal.stdin ∨ !terminal.stdout then
    ([], .inr (.error (.invalidInput
      "A terminal is required for the hidden password prompt; use --password-stdin for a pipe")))
  else
    match terminal.flush with
    | .error kind => ([promptText], .inr (.error (.system kind)))
    | .ok () =>
      match terminal.enableRawMode with
      | .error kind => ([promptText], .inr (.error (.system kind)))
      | .ok () =>
        match readHiddenWifiPassword terminal.events with
        | .inl prompt => ([promptText], .inl prompt)
        -- The terminal is as before once the next line begins.
        | .inr result => ([promptText, "\n"], .inr result)

/-- Where a password may come from. -/
structure PasswordSource where
  stdin : Reader
  terminal : PromptTerminal

/-- Read a password from the place that the user has chosen. -/
def readPassword (passwordStdin : Bool) (source : PasswordSource) : PromptResult :=
  if passwordStdin then ([], .inr (readWifiPassword source.stdin).1)
  else promptWifiPassword source.terminal

/-- A password is the one that a user has entered. -/
def Entered (passwordStdin : Bool) (source : PasswordSource) (password : Text) : Prop :=
  if passwordStdin then
    ∃ stream rest, source.stdin = stream.map .ok ++ rest ∧
      (rest = [] ∨ stream.getLast? = some 10) ∧ password.utf8 = firstLine stream
  else
    source.terminal.stdin = true ∧ source.terminal.stdout = true ∧
      ∃ typed, Typed source.terminal.events typed ∧ password = edited typed

/-- A password that is read is the one that has been entered, and it is not shown. -/
theorem entered_of_readPassword {passwordStdin : Bool} {source : PasswordSource} {shown : List String}
    {password : Text} (read : readPassword passwordStdin source = (shown, .inr (.ok password))) :
    Entered passwordStdin source password ∧
      shown = if passwordStdin then [] else [promptText, "\n"] := by
  -- The cases are the two places that a password is read from.
  unfold readPassword at read
  unfold Entered
  cases passwordStdin with
  | true =>
    simp only [if_true, Prod.mk.injEq, Sum.inr.injEq] at read ⊢
    obtain ⟨rfl, found⟩ := read
    -- From a pipe the first line is read.
    have both : readWifiPassword source.stdin = (.ok password, (readWifiPassword source.stdin).2) := by
      rw [← found]
    obtain ⟨stream, same, ends, line⟩ := readWifiPassword_firstLine both
    exact ⟨⟨stream, _, same, ends, line⟩, rfl⟩
  | false =>
    simp only [Bool.false_eq_true, if_false] at read ⊢
    -- At a terminal the keys are followed until the password is submitted.
    unfold promptWifiPassword at read
    split at read
    · cases read
    next present =>
      rw [not_or, Bool.not_eq_true', Bool.not_eq_false, Bool.not_eq_true', Bool.not_eq_false]
        at present
      split at read
      · cases read
      split at read
      · cases read
      split at read
      · cases read
      next result ended =>
        cases read
        obtain ⟨typed, entered, edits⟩ := submitted_of_follows follows_new ended
        exact ⟨⟨present.1, present.2, typed, entered, edits⟩, rfl⟩

end Scout.Password
