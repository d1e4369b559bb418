import Scout.Stream.Text
import Scout.Teleop.Control
import Scout.Wifi.Credentials

/-! How the password of a network is read, from a pipe or at a hidden prompt. -/

namespace Scout.Password

open Wifi (ErrorKind)

/-- Why no password has been read. -/
inductive InputError where
  /-- Reading itself has failed. -/
  | system (kind : ErrorKind)
  | invalidInput (message : String)
  | interrupted (message : String)
  deriving DecidableEq

/-- What single reads still bring, byte after byte, before the end. -/
abbrev Reader := List (Except ErrorKind UInt8)

/-- The refusal of a line that is too long. -/
def lineTooLong : InputError := .invalidInput "Wi-Fi password exceeds 63 bytes"

/-- Read the bytes of a line behind those that have been read, and say what is left to read. -/
def readLine (bytes : Bytes) : Reader → Except InputError Bytes × Reader
  | [] => (.ok bytes, [])
  -- An interrupted read is not tried again.
  | .error kind :: rest => (.error (.system kind), rest)
  | .ok byte :: rest =>
    let bytes := bytes ++ [byte]
    -- There is room for the two bytes of a line end behind the longest password.
    if 65 < bytes.length then (.error lineTooLong, rest)
    else if byte = 10 then
      let bytes := bytes.dropLast
      (.ok (if bytes.getLast? = some 13 then bytes.dropLast else bytes), rest)
    else readLine bytes rest

/-- Read one bounded line, and say what is left to read. -/
def readWifiPassword (reader : Reader) : Except InputError Text × Reader :=
  match readLine [] reader with
  | (.error error, rest) => (.error error, rest)
  | (.ok bytes, rest) =>
    if 63 < bytes.length then (.error lineTooLong, rest)
    else
      match Text.ofUtf8 bytes with
      | none => (.error (.invalidInput "Wi-Fi password must be printable ASCII"), rest)
      | some password => (.ok password, rest)

/-- The keys the prompt tells apart. -/
inductive KeyCode where
  | enter
  | backspace
  | esc
  | char (character : Char)
  | other
  deriving DecidableEq

/-- A key event. -/
structure KeyEvent where
  code : KeyCode
  modifiers : KeyModifiers
  kind : KeyEventKind
  deriving DecidableEq

/-- What a terminal reports. -/
inductive Event where
  | key (key : KeyEvent)
  | other
  deriving DecidableEq

/-- The alternate key. -/
def alt : KeyModifiers := ⟨4⟩

/-- The modifiers that keep a character from being typed. -/
def controlOrAlt : KeyModifiers := ⟨KeyModifiers.control.bits ||| alt.bits⟩

/-- Whether one of the modifiers of another set is held. -/
def intersects (modifiers other : KeyModifiers) : Bool :=
  modifiers.bits &&& other.bits != 0

/-- What has been typed at the prompt, and whether it has been too long. -/
structure Prompt where
  password : Text
  tooLong : Bool
  deriving DecidableEq

/-- Nothing has been typed. -/
def Prompt.new : Prompt where
  password := []
  tooLong := false

/-- Whether a key gives up. -/
def cancels (key : KeyEvent) : Bool :=
  key.code = .esc ∨ (key.modifiers.contains KeyModifiers.control ∧
    (key.code = .char 'c' ∨ key.code = .char 'd'))

/-- The bytes that a character takes. -/
def lenUtf8 (character : Char) : Nat := (String.utf8EncodeChar character).length

/-- What a key does at the prompt: it is typed on, or the prompt is over. -/
def promptKey (prompt : Prompt) (key : KeyEvent) : Prompt ⊕ Except InputError Text :=
  if key.kind = .release then .inl prompt
  else if cancels key then .inr (.error (.interrupted "Wi-Fi setup cancelled"))
  else
    match key.code with
    | .enter =>
      if prompt.tooLong then
        .inr (.error (.invalidInput
          "Wi-Fi password exceeds 63 bytes; run setup again to re-enter it"))
      else .inr (.ok prompt.password)
    | .backspace => .inl { prompt with password := prompt.password.dropLast }
    | .char character =>
      if intersects key.modifiers controlOrAlt then .inl prompt
      -- What is too long once is never submitted, however much is removed from it later.
      else if prompt.tooLong ∨ 63 < prompt.password.utf8.length + lenUtf8 character then
        .inl { prompt with tooLong := true }
      else .inl { prompt with password := prompt.password ++ [character] }
    | _ => .inl prompt

/-- Go on with the events that a terminal reports, as long as the prompt is not over. -/
def proceed (prompt : Prompt) : List (Except ErrorKind Event) → Prompt ⊕ Except InputError Text
  | [] => .inl prompt
  | .error kind :: _ => .inr (.error (.system kind))
  | .ok .other :: events => proceed prompt events
  | .ok (.key key) :: events =>
    match promptKey prompt key with
    | .inl next => proceed next events
    | .inr result => .inr result

/-- Read a password at a hidden prompt, as far as the events go. -/
def readHiddenWifiPassword (events : List (Except ErrorKind Event)) :
    Prompt ⊕ Except InputError Text :=
  proceed Prompt.new events

end Scout.Password
