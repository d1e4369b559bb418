import Scout.Password.Input
import Scout.Stream.Utf8

/-! A password that is read from a pipe is exactly the first line. -/

namespace Scout.Password

open Wifi (ErrorKind)

/-- The bytes of a line without the carriage return that belongs to its end. -/
def withoutReturn (ended : Bool) (front : Bytes) : Bytes :=
  if ended ∧ front.getLast? = some 13 then front.dropLast else front

/-- The first line of a stream that follows bytes of the same line. -/
def lineFrom (opened stream : Bytes) : Bytes :=
  withoutReturn (stream.contains 10) (opened ++ stream.takeWhile fun byte => byte ≠ 10)

/-- The first line of a stream, or all of it, without the end of the line. -/
def firstLine (stream : Bytes) : Bytes := lineFrom [] stream

section Lines

variable {opened stream : Bytes} {byte : UInt8}

/-- At most one byte is taken from the front of a line. -/
theorem withoutReturn_length (ended : Bool) (front : Bytes) :
    front.length ≤ (withoutReturn ended front).length + 1 := by
  -- One byte is removed at most.
  unfold withoutReturn
  split
  · rw [List.length_dropLast]
    omega
  · omega

/-- Without more bytes a line is what has been read. -/
theorem lineFrom_nil : lineFrom opened [] = opened := by
  -- Without a line feed nothing is removed.
  rw [lineFrom, withoutReturn, if_neg (by simp), List.takeWhile_nil, List.append_nil]

/-- A line feed ends a line. -/
theorem lineFrom_feed : lineFrom opened (10 :: stream) = withoutReturn true opened := by
  -- The line feed ends the line.
  simp [lineFrom]

/-- Every other byte is part of a line. -/
theorem lineFrom_cons (other : byte ≠ 10) :
    lineFrom opened (byte :: stream) = lineFrom (opened ++ [byte]) stream := by
  -- Another byte belongs to the line.
  simp [lineFrom, other, Ne.symm other]

/-- A line has all bytes that have been read of it, but for one at most. -/
theorem length_le_lineFrom (opened stream : Bytes) :
    opened.length ≤ (lineFrom opened stream).length + 1 := by
  -- Only the last byte of the line may have been removed.
  have whole := withoutReturn_length (stream.contains 10)
    (opened ++ stream.takeWhile fun byte => byte ≠ 10)
  rw [List.length_append] at whole
  rw [lineFrom]
  omega

/-- A line is read, or it is too long. -/
theorem readLine_line (opened stream : Bytes) :
    (readLine opened (stream.map .ok)).1 = .ok (lineFrom opened stream) ∨
      (readLine opened (stream.map .ok)).1 = .error lineTooLong ∧
        63 < (lineFrom opened stream).length := by
  -- The induction passes the bytes of the line one by one.
  induction stream generalizing opened with
  | nil => exact .inl (by rw [lineFrom_nil]; rfl)
  | cons byte stream ih =>
    rw [List.map_cons, readLine]
    by_cases long : 65 < (opened ++ [byte]).length
    · -- At least sixty-five bytes came before.
      refine .inr ⟨by rw [if_pos long], ?_⟩
      have most := length_le_lineFrom opened (byte :: stream)
      rw [List.length_append, List.length_singleton] at long
      omega
    dsimp only
    rw [if_neg long]
    by_cases feed : byte = 10
    · subst feed
      rw [if_pos rfl, lineFrom_feed, List.dropLast_concat, withoutReturn]
      exact .inl (by simp)
    · rw [if_neg feed, lineFrom_cons feed]
      exact ih _

/-- Reading a line takes only its bytes, its end, and never more than there is room for. -/
theorem readLine_used (bytes : Bytes) (reader : Reader) (room : bytes.length ≤ 65) :
    ∃ used, reader = used ++ (readLine bytes reader).2 ∧ bytes.length + used.length ≤ 66 ∧
      .ok 10 ∉ used.dropLast := by
  -- The induction is on the reads that may be made.
  induction reader generalizing bytes with
  | nil => exact ⟨[], rfl, by rw [List.length_nil]; omega, List.not_mem_nil⟩
  | cons first reader ih =>
    have single : bytes.length + [first].length ≤ 66 := by
      rw [List.length_singleton]
      omega
    cases first with
    | error kind => exact ⟨[.error kind], rfl, single, List.not_mem_nil⟩
    | ok byte =>
      rw [readLine]
      dsimp only
      by_cases long : 65 < (bytes ++ [byte]).length
      · rw [if_pos long]
        exact ⟨[.ok byte], rfl, single, List.not_mem_nil⟩
      rw [if_neg long]
      by_cases feed : byte = 10
      · rw [if_pos feed]
        exact ⟨[.ok byte], rfl, single, List.not_mem_nil⟩
      · rw [if_neg feed]
        obtain ⟨used, whole, few, free⟩ := ih _ (Nat.not_lt.mp long)
        refine ⟨.ok byte :: used, by rw [List.cons_append, ← whole], ?_, ?_⟩
        · rw [List.length_append, List.length_singleton] at few
          rw [List.length_cons]
          omega
        · -- The line feed is not the byte that was read first.
          intro member
          cases used with
          | nil => cases member
          | cons second used =>
            rw [List.dropLast_cons_cons, List.mem_cons] at member
            rcases member with same | later
            · cases same
              exact feed rfl
            · exact free later

/-- Reading a password takes what reading its line takes. -/
theorem readWifiPassword_rest (reader : Reader) :
    (readWifiPassword reader).2 = (readLine [] reader).2 := by
  -- The checks come after the reading.
  unfold readWifiPassword
  cases read : readLine [] reader with
  | mk result rest =>
    cases result with
    | error error => rfl
    | ok bytes =>
      dsimp only
      -- Neither check reads on.
      by_cases long : 63 < bytes.length
      · rw [if_pos long]
      · rw [if_neg long]
        cases Text.ofUtf8 bytes <;> rfl

/-- A password is accepted exactly if it is a first line that is not too long. -/
theorem readWifiPassword_ok {password : Text} :
    (readWifiPassword (stream.map .ok)).1 = .ok password ↔
      (firstLine stream).length ≤ 63 ∧ password.utf8 = firstLine stream := by
  -- Either the line is read, or it is so long that the check of its length fails as well.
  unfold readWifiPassword
  have line := readLine_line [] stream
  cases read : readLine [] (stream.map .ok) with
  | mk result rest =>
    rw [read] at line
    rcases line with same | ⟨same, long⟩
    · dsimp only at same
      subst same
      dsimp only
      show _ ↔ (lineFrom [] stream).length ≤ 63 ∧ _ = lineFrom [] stream
      by_cases long : 63 < (lineFrom [] stream).length
      · rw [if_pos long]
        exact iff_of_false (fun same => by cases same) fun both =>
          absurd both.1 (Nat.not_le.mpr long)
      · -- A line of the right length has to be a text.
        rw [if_neg long, and_iff_right (Nat.not_lt.mp long), ← Text.ofUtf8_eq_some]
        cases Text.ofUtf8 (lineFrom [] stream) with
        | none => exact iff_of_false (fun same => by cases same) fun same => by cases same
        | some text =>
          dsimp only
          rw [Except.ok.injEq, Option.some.injEq]
    · dsimp only at same
      subst same
      exact iff_of_false (fun same => by cases same) fun both =>
        absurd both.1 (Nat.not_le.mpr long)

end Lines

/-- A password is exactly the first line, and nothing behind that line is read. -/
theorem readWifiPassword_reads_first_line :
    (∀ (stream : Bytes) password, (readWifiPassword (stream.map .ok)).1 = .ok password ↔
      (firstLine stream).length ≤ 63 ∧ password.utf8 = firstLine stream) ∧
    ∀ reader, ∃ used, reader = used ++ (readWifiPassword reader).2 ∧ used.length ≤ 66 ∧
      .ok 10 ∉ used.dropLast := by
  refine ⟨fun stream password => readWifiPassword_ok, fun reader => ?_⟩
  -- What is used does not depend on what is made of the line.
  obtain ⟨used, whole, few, free⟩ := readLine_used [] reader (Nat.zero_le _)
  rw [readWifiPassword_rest]
  exact ⟨used, whole, by simpa using few, free⟩

end Scout.Password
