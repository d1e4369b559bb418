import Scout.Robot.Lookup
import Scout.Robot.SystemCommand
import Scout.Wifi.AddressDisplay

/-! The name of the robot that is connected, as far as a program of the system tells it. -/

namespace Scout

open SystemCommand

/-- A program that has been run for its output, and how all of that went. -/
structure FinishedCommand where
  events : List OutputEvent
  command : SystemCommand
  output : Option Text
  ran : Machine.run SystemCommand.step SystemCommand.start events = some command
  returned : command.phase = .returned output

namespace FinishedCommand

variable (finished : FinishedCommand)

/-- Everything that the program has written to the pipe. -/
def written : Bytes := finished.command.child.written

/-- Why the output of a program is refused. -/
def Refused : Prop :=
  .spawned false ∈ finished.events ∨ GaveUp finished.events ∨
    finished.command.child.ended = some false ∨ finished.command.reader = .finished none ∨
    maxSystemCommandOutputBytes < finished.written.length

/-- No program is left behind that the system could have been asked about. -/
def Collected : Prop :=
  .spawned false ∈ finished.events ∨ finished.command.child.reaped = true ∨
    .wait false ∈ finished.events

variable {finished}

/-- What is made of the output of a program is explained by the program. -/
theorem told_output : Told finished.events finished.command.child finished.command.reader
    (.returned finished.output) := by
  rw [← finished.returned]
  exact (recounted_run finished.ran).told

/-- A program is left to the system only if it could not be asked about. -/
theorem collected : finished.Collected := by
  -- The cases are those of how the result came about.
  have told := @told_output finished
  rcases told with ⟨failed, _⟩ | ⟨_, _, reaped | unanswered⟩ | ⟨_, _, _, _, reaped, _, _⟩
  · exact .inl failed
  · exact .inr (.inl reaped)
  · exact .inr (.inr unanswered)
  · exact .inr (.inl reaped)

/-- An output that is returned is all that the program has written, and nothing speaks against it. -/
theorem whole {text : Text} (returned : finished.output = some text) :
    ¬ finished.Refused ∧ text = Text.ofUtf8Lossy finished.written := by
  have told := @told_output finished
  have sound := (recounted_run finished.ran).reader
  rw [returned] at told
  rcases told with ⟨_, nothing⟩ | ⟨_, nothing, _⟩ | ⟨untroubled, success, bytes, ended, _, done, same⟩
  · cases nothing
  · cases nothing
  rw [done] at sound
  cases bytes with
  | none => cases same
  | some bytes =>
    rw [SystemCommand.output] at same
    split at same
    · cases same
    next accepted =>
      -- The reader has not come to its limit, so it has come to the end.
      rw [not_or, Bool.not_eq_true', Bool.not_eq_false, Nat.not_lt] at accepted
      obtain ⟨succeeded, short⟩ := accepted
      have all : finished.written = bytes := by
        obtain ⟨written, _, full | closed⟩ := sound
        · rw [readLimit] at full
          omega
        · rwa [closed.1, List.append_nil] at written
      refine ⟨?_, all ▸ Option.some.inj same⟩
      rintro (failed | gaveUp | unsuccessful | unread | long)
      · exact untroubled.1 failed
      · exact untroubled.2 gaveUp
      · rw [ended, succeeded] at unsuccessful
        cases unsuccessful
      · rw [done] at unread
        cases unread
      · rw [all] at long
        exact Nat.not_lt.mpr short long

/-- Without an output there is a reason for it. -/
theorem refused (nothing : finished.output = none) : finished.Refused := by
  have told := @told_output finished
  have sound := (recounted_run finished.ran).reader
  rw [nothing] at told
  rcases told with ⟨failed, _⟩ | ⟨gaveUp, _, _⟩ | ⟨_, success, bytes, ended, _, done, same⟩
  · exact .inl failed
  · exact .inr (.inl gaveUp)
  rw [done] at sound
  cases bytes with
  | none => exact .inr (.inr (.inr (.inl done)))
  | some bytes =>
    rw [SystemCommand.output] at same
    split at same
    next rejected =>
      rcases rejected with unsuccessful | long
      · rw [Bool.not_eq_true'] at unsuccessful
        exact .inr (.inr (.inl (unsuccessful ▸ ended)))
      · -- What was read is the beginning of what was written.
        refine .inr (.inr (.inr (.inr ?_)))
        rw [written, sound.1, List.length_append]
        omega
    · cases same

/-- An output is refused exactly if there is a reason for it, and it is what was written otherwise. -/
theorem output_eq_some {text : Text} : finished.output = some text ↔
    ¬ finished.Refused ∧ text = Text.ofUtf8Lossy finished.written := by
  -- What is returned was not refused, and what was not refused is returned.
  constructor
  · exact whole
  · rintro ⟨accepted, rfl⟩
    cases returned : finished.output with
    | none => exact absurd (refused returned) accepted
    | some text => rw [(whole returned).2]

/-- There is no output exactly if there is a reason for it. -/
theorem output_eq_none : finished.output = none ↔ finished.Refused := by
  -- Either something is returned, or there is a reason.
  refine ⟨refused, fun reason => ?_⟩
  cases returned : finished.output with
  | none => rfl
  | some text => exact absurd reason (whole returned).1

end FinishedCommand

/-- The systems that differ in where their programs are. -/
inductive Platform where
  | windows
  | other
  deriving DecidableEq

/-- The programs of a system: where they are, and how it went when they were run. -/
structure SystemPrograms where
  platform : Platform
  isFile : Text → Bool
  /-- The directory of the system's own programs, if it can be told. -/
  systemDirectory : Option Text
  run : Text → List Text → FinishedCommand

namespace SystemPrograms

variable (programs : SystemPrograms)

/-- A path below a directory. -/
def join (directory filename : Text) : Text :=
  if directory.getLast? = some '\\' then directory ++ filename
  else directory ++ '\\' :: filename

/-- One of the two programs of the system that may be run, if it is there. -/
def windowsSystemProgram (filename : Text) : Option Text :=
  if filename ≠ "netsh.exe".toList ∧ filename ≠ "arp.exe".toList then none
  else
    programs.systemDirectory.bind fun directory =>
      some (join directory filename) |>.filter programs.isFile

/-- Where the program for network neighbours is looked for. -/
def arpPrograms : List Text :=
  ["/usr/sbin/arp".toList, "/sbin/arp".toList, "/usr/bin/arp".toList]

/-- The robot that the output of a program names. -/
def named (program : Text) (arguments : List Text) : Option KnownScout :=
  (programs.run program arguments).output.bind knownScoutInText

/-- The robot that is connected, if a program of the system names it. -/
def detectScout (masterAddress : Wifi.SocketAddr) : Option KnownScout :=
  let address := masterAddress.ip.display
  match programs.platform with
  | .windows =>
    (programs.windowsSystemProgram "netsh.exe".toList).bind fun netsh =>
      match programs.named netsh ["wlan".toList, "show".toList, "interfaces".toList] with
      | some scout => some scout
      | none =>
        (programs.windowsSystemProgram "arp.exe".toList).bind fun arp =>
          programs.named arp ["-a".toList, address]
  | .other =>
    (arpPrograms.find? programs.isFile).bind fun arp => programs.named arp ["-n".toList, address]

/-- The programs that may be asked, and what for, in their order. -/
def asked (masterAddress : Wifi.SocketAddr) : List (Text × List Text) :=
  let address := masterAddress.ip.display
  match programs.platform with
  | .windows =>
    match programs.windowsSystemProgram "netsh.exe".toList with
    | none => []
    | some netsh =>
      (netsh, ["wlan".toList, "show".toList, "interfaces".toList]) ::
        ((programs.windowsSystemProgram "arp.exe".toList).map fun arp =>
          (arp, ["-a".toList, address])).toList
  | .other =>
    ((arpPrograms.find? programs.isFile).map fun arp => (arp, ["-n".toList, address])).toList

/-- The first program that names a robot decides. -/
theorem detectScout_eq (masterAddress : Wifi.SocketAddr) :
    programs.detectScout masterAddress =
      (programs.asked masterAddress).findSome? fun call => programs.named call.1 call.2 := by
  -- The cases are those of the platform and of which programs are there.
  unfold detectScout asked
  cases programs.platform with
  | windows =>
    cases programs.windowsSystemProgram "netsh.exe".toList with
    | none => rfl
    | some netsh =>
      cases programs.windowsSystemProgram "arp.exe".toList with
      | none =>
        dsimp only [Option.bind_some, Option.map_none, Option.toList_none, List.findSome?_cons]
        cases programs.named netsh ["wlan".toList, "show".toList, "interfaces".toList] <;> rfl
      | some arp =>
        dsimp only [Option.bind_some, Option.map_some, Option.toList_some, List.findSome?_cons]
        cases programs.named netsh ["wlan".toList, "show".toList, "interfaces".toList] with
        | some scout => rfl
        | none =>
          dsimp only [List.findSome?_nil]
          cases programs.named arp ["-a".toList, masterAddress.ip.display] <;> rfl
  | other =>
    cases arpPrograms.find? programs.isFile with
    | none => rfl
    | some arp =>
      dsimp only [Option.bind_some, Option.map_some, Option.toList_some, List.findSome?_cons,
        List.findSome?_nil]
      cases programs.named arp ["-n".toList, masterAddress.ip.display] <;> rfl

/-- At most two programs are asked. -/
theorem asked_length (masterAddress : Wifi.SocketAddr) :
    (programs.asked masterAddress).length ≤ 2 := by
  -- There are two programs at most for each platform.
  unfold asked
  cases programs.platform with
  | windows =>
    cases programs.windowsSystemProgram "netsh.exe".toList with
    | none => exact Nat.zero_le _
    | some netsh => cases programs.windowsSystemProgram "arp.exe".toList <;> simp
  | other => cases arpPrograms.find? programs.isFile <;> simp

/-- A robot is spelled in a text, in whichever letters: its address without separators stands
alone there, or another spelling is anywhere. -/
def Spelled (scout : KnownScout) (text : Text) : Prop :=
  scout.colon <:+: text.toAsciiLowercase ∨ scout.hyphen <:+: text.toAsciiLowercase ∨
    Tokens.Stands notHex text.toAsciiLowercase scout.compact ∨
    scout.ssid <:+: text.toAsciiLowercase

/-- Of the robots that are spelled in a text, one comes first in the table. -/
def FirstSpelled (scout : KnownScout) (text : Text) : Prop :=
  ∃ before after, knownScouts = before ++ scout :: after ∧ Spelled scout text ∧
    ∀ earlier ∈ before, ¬ Spelled earlier text

/-- The output of a program is accepted, and it names a robot. -/
def Names (finished : FinishedCommand) (scout : KnownScout) : Prop :=
  ¬ finished.Refused ∧ FirstSpelled scout (Text.ofUtf8Lossy finished.written)

/-- The robot that is found in a text is the first one that is spelled there. -/
theorem knownScoutInText_iff {text : Text} {scout : KnownScout} :
    knownScoutInText text = some scout ↔ FirstSpelled scout text := by
  -- The table is searched from its beginning.
  rw [knownScoutInText, List.find?_eq_some_iff_append]
  constructor
  · rintro ⟨found, before, after, table, passed⟩
    refine ⟨before, after, table, foundIn_iff.mp found, fun earlier member spelled => ?_⟩
    have missed := passed earlier member
    rw [foundIn_iff.mpr spelled] at missed
    cases missed
  · rintro ⟨before, after, table, spelled, passed⟩
    refine ⟨foundIn_iff.mpr spelled, before, after, table, fun earlier member => ?_⟩
    rw [Bool.not_eq_true']
    exact Bool.eq_false_iff.mpr fun found => passed earlier member (foundIn_iff.mp found)

/-- The output of a program names a robot exactly if it is accepted and the robot is the first. -/
theorem named_eq_some {program : Text} {arguments : List Text} {scout : KnownScout} :
    programs.named program arguments = some scout ↔
      Names (programs.run program arguments) scout := by
  -- The robot is looked up in the text of an output that is accepted.
  rw [named, Option.bind_eq_some_iff]
  constructor
  · rintro ⟨text, returned, found⟩
    obtain ⟨accepted, rfl⟩ := FinishedCommand.whole returned
    exact ⟨accepted, knownScoutInText_iff.mp found⟩
  · rintro ⟨accepted, first⟩
    exact ⟨_, FinishedCommand.output_eq_some.mpr ⟨accepted, rfl⟩, knownScoutInText_iff.mpr first⟩

/-- A program that prints a text in UTF-8 names what is spelled in this text. -/
theorem names_of_utf8 {finished : FinishedCommand} {text : Text} {scout : KnownScout}
    (printed : finished.written = text.utf8) :
    Names finished scout ↔ ¬ finished.Refused ∧ FirstSpelled scout text := by
  rw [Names, printed, Text.ofUtf8Lossy_utf8]

/-- All spellings of the robots are plain. -/
theorem spelling_ascii {scout : KnownScout} {spelling : Spelling} (known : scout ∈ knownScouts)
    (spelled : spelling ∈ scout.spellings) : ∀ char ∈ spelling.pattern, char.toNat < 0x80 := by
  -- There are sixteen robots with four spellings.
  have all : (knownScouts.all fun scout => scout.spellings.all fun spelling =>
      spelling.pattern.all fun char => decide (char.toNat < 0x80)) = true := by
    decide +kernel
  have plain := List.all_eq_true.mp (List.all_eq_true.mp (List.all_eq_true.mp all scout known)
    spelling spelled)
  exact fun char member => of_decide_eq_true (plain char member)

/-- What names a robot has printed it, also where other bytes are no text. -/
theorem printed_of_names {finished : FinishedCommand} {scout : KnownScout}
    (names : Names finished scout) : ∃ spelling ∈ scout.spellings, ∃ part,
      part <:+: finished.written ∧ (Text.ofAscii part).toAsciiLowercase = spelling.pattern := by
  -- The spelling consists of characters that every decoding keeps.
  obtain ⟨before, after, table, spelled, _⟩ := names.2
  have known : scout ∈ knownScouts := by
    rw [table]
    exact List.mem_append_right _ (List.mem_cons_self)
  obtain ⟨spelling, member, within⟩ := infix_of_foundIn (foundIn_iff.mpr spelled)
  exact ⟨spelling, member, Text.written_of_lossy (spelling_ascii known member) within⟩

/-- A robot is announced exactly if a program that is asked names it in its accepted output, and
no program that is asked before names any; an output is refused exactly if there is a reason. -/
theorem announced_robot_printed (masterAddress : Wifi.SocketAddr) :
    (∀ scout, programs.detectScout masterAddress = some scout ↔
      ∃ before call after, programs.asked masterAddress = before ++ call :: after ∧
        Names (programs.run call.1 call.2) scout ∧
        ∀ other ∈ before, ∀ robot, ¬ Names (programs.run other.1 other.2) robot) ∧
    (programs.asked masterAddress).length ≤ 2 ∧
    ∀ finished : FinishedCommand, finished.Collected ∧
      (finished.output = none ↔ finished.Refused) ∧
      (∀ scout, Names finished scout → ∃ spelling ∈ scout.spellings, ∃ part,
        part <:+: finished.written ∧ (Text.ofAscii part).toAsciiLowercase = spelling.pattern) ∧
      (∀ text : Text, finished.written = text.utf8 → ∀ scout,
        Names finished scout ↔ ¬ finished.Refused ∧ FirstSpelled scout text) ∧
      ∀ earliest, timing.Paced earliest finished.events →
        finished.events.countP looks ≤ maxLooks := by
  refine ⟨fun scout => ?_, programs.asked_length masterAddress, fun finished =>
    ⟨FinishedCommand.collected, FinishedCommand.output_eq_none, fun _ => printed_of_names,
      fun _ printed _ => names_of_utf8 printed, fun earliest paced => looks_le finished.ran paced⟩⟩
  -- Without a robot that is named there is none.
  have silent : ∀ call : Text × List Text, programs.named call.1 call.2 = none ↔
      ∀ robot, ¬ Names (programs.run call.1 call.2) robot := by
    intro call
    rw [Option.eq_none_iff_forall_ne_some]
    exact forall_congr' fun robot => not_congr programs.named_eq_some
  rw [programs.detectScout_eq, List.findSome?_eq_some_iff]
  constructor
  · rintro ⟨before, call, after, same, found, others⟩
    exact ⟨before, call, after, same, programs.named_eq_some.mp found,
      fun other member => (silent other).mp (others other member)⟩
  · rintro ⟨before, call, after, same, names, others⟩
    exact ⟨before, call, after, same, programs.named_eq_some.mpr names,
      fun other member => (silent other).mpr (others other member)⟩

/-- A program that prints an address in two parts, and is looked at twice. -/
def printing : List OutputEvent :=
  [.spawned true, .write (Text.utf8 "? (10.42.0.1) at b8:2d:28:".toList), .read (.bytes 21),
    .clock 0, .tryWait true, .clock 1, .write (Text.utf8 "56:92:0e".toList), .slept, .exit true,
    .close, .tryWait true, .read .interrupted, .read (.bytes 13), .read .atEnd, .join]

/-- The result of a caller that has returned. -/
def result : OutputPhase → Option (Option Text)
  | .returned output => some output
  | _ => none

/-- A caller with a result has returned it. -/
theorem returned_of_result {phase : OutputPhase} {output : Option Text}
    (ended : result phase = some output) : phase = .returned output := by
  -- Only one phase has a result.
  cases phase with
  | returned other =>
    cases ended
    rfl
  | _ => cases ended

/-- The run of that program. -/
def printed : FinishedCommand where
  events := printing
  command := (Machine.run SystemCommand.step SystemCommand.start printing).get (by decide +kernel)
  output := some "? (10.42.0.1) at b8:2d:28:56:92:0e".toList
  ran := (Option.some_get _).symm
  returned := returned_of_result (by decide +kernel)

/-- A system on which only that program is there. -/
def printingSystem : SystemPrograms where
  platform := .other
  isFile path := path = "/sbin/arp".toList
  systemDirectory := none
  run _ _ := printed

/-- The robot whose address is printed is announced, and it is the first one that is spelled. -/
theorem announced_robot_printed_thorin :
    printingSystem.detectScout { ip := .v4 0x0a2a0001, port := 11311 } =
        some { name := "Thorin", macAddress := "b8:2d:28:56:92:0e" } ∧
      FirstSpelled { name := "Thorin", macAddress := "b8:2d:28:56:92:0e" }
        "? (10.42.0.1) at b8:2d:28:56:92:0e".toList := by
  -- The program is run, and the general result applies to what it has printed.
  have found : printingSystem.detectScout { ip := .v4 0x0a2a0001, port := 11311 } =
        some { name := "Thorin", macAddress := "b8:2d:28:56:92:0e" } ∧
      printed.written = Text.utf8 "? (10.42.0.1) at b8:2d:28:56:92:0e".toList := by
    decide +kernel
  obtain ⟨announced, plain⟩ := found
  obtain ⟨decides, _, programs⟩ :=
    announced_robot_printed printingSystem { ip := .v4 0x0a2a0001, port := 11311 }
  obtain ⟨_, call, _, _, names, _⟩ := (decides _).mp announced
  obtain ⟨_, _, _, texts, _⟩ := programs printed
  exact ⟨announced, ((texts _ plain _).mp names).2⟩

end SystemPrograms
end Scout
