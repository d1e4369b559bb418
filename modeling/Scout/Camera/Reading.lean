import Scout.Camera.Client

/-! Everything one effect of a reading client can do, and what its checks let through. -/

namespace Scout

namespace ClientLanguage

/-- Both clients read back the length that heads a record. -/
theorem decodeLength_bigEndian (language : ClientLanguage) {length : Nat} (fits : length < 2 ^ 32) :
    language.reader.decodeLength (Stream.bigEndian 4 length) = length := by
  -- The MATLAB client adds up the four bytes with their weights.
  cases language with
  | python => exact Stream.ofBigEndian_bigEndian fits
  | matlab =>
    simp only [reader, matlabReader, Stream.bigEndian, Stream.littleEndian, List.reverse_cons,
      List.reverse_nil, List.nil_append, List.cons_append, List.getD_cons_zero,
      List.getD_cons_succ, UInt8.toNat_ofNat']
    omega

/-- Both clients accept the length of every image that the bridge passes on. -/
theorem acceptsLength_image (language : ClientLanguage) {jpeg : Bytes}
    (image : ScoutFrame.Image jpeg) : language.reader.acceptsLength jpeg.length = true := by
  -- An image has at least four bytes and at most the limit, which is the clients' own.
  have long := image.long
  have short : ¬ maxJpegBytes < jpeg.length := Nat.not_lt.mpr image.short
  cases language with
  | python =>
    have nonempty : jpeg.length ≠ 0 := by omega
    simp [reader, pythonReader, short, nonempty]
  | matlab =>
    have nonempty : jpeg ≠ [] := List.ne_nil_of_length_pos (by omega)
    simp [reader, matlabReader, short, nonempty]

/-- Both clients accept the markers of every image that the bridge passes on. -/
theorem acceptsJpeg_image (language : ClientLanguage) {jpeg : Bytes}
    (image : ScoutFrame.Image jpeg) : language.reader.acceptsJpeg jpeg = true := by
  -- The MATLAB client looks at the first two and the last two bytes.
  cases language with
  | python =>
    have starts := List.isPrefixOf_iff_prefix.mpr image.starts
    have ends := List.isSuffixOf_iff_suffix.mpr image.ends
    simp [reader, pythonReader, starts, ends]
  | matlab =>
    have long : ¬ jpeg.length < 4 := Nat.not_lt.mpr image.long
    have starts : jpeg.take 2 = ScoutFrame.startMarker :=
      (List.prefix_iff_eq_take.mp image.starts).symm
    have ends : jpeg.drop (jpeg.length - 2) = ScoutFrame.endMarker :=
      (List.suffix_iff_eq_drop.mp image.ends).symm
    simp [reader, matlabReader, long, starts, ends]

end ClientLanguage

namespace CameraClient

variable {Control : Type}

/-- The possible effects of a call with the client and the result they lead to. -/
inductive Reads (language : ClientLanguage) (before : CameraClient Control) :
    ReadJpegInput → CameraClient Control → Option ReadJpegResult → Prop where
  | refuse (was : before.phase = .idle) (shut : before.isOpen language = false) :
      Reads language before .call before (some .closed)
  | begin {phase : ReadJpegPhase} (was : before.phase = .idle)
      (ready : before.isOpen language = true)
      (next : phase = .connecting ∧ before.camera = none ∨
        phase = .asking ∧ before.camera ≠ none) :
      Reads language before .call { before with phase } none
  | connect {connection : Connection} (was : before.phase = .connecting) :
      Reads language before (.connected connection)
        { before with camera := some { connection, asked := 0, received := [] }, phase := .asking }
        none
  | ask (was : before.phase = .asking) :
      Reads language before .sent { before.ask with phase := .header [] } none
  | fail {input : ReadJpegInput} (was : before.phase ≠ .idle) :
      Reads language before input { before with camera := none, phase := .idle } (some .failed)
  | header {header chunk : Bytes} (was : before.phase = .header header)
      (short : (header ++ chunk).length < 4) :
      Reads language before (.received chunk)
        { before.receive chunk with phase := .header (header ++ chunk) } none
  | length {header chunk : Bytes} (was : before.phase = .header header)
      (complete : (header ++ chunk).length = 4)
      (accepted : language.reader.acceptsLength
        (language.reader.decodeLength (header ++ chunk)) = true) :
      Reads language before (.received chunk)
        { before.receive chunk with
          phase := .payload (language.reader.decodeLength (header ++ chunk)) [] } none
  | badLength {header chunk : Bytes} (was : before.phase = .header header)
      (complete : (header ++ chunk).length = 4)
      (refused : language.reader.acceptsLength
        (language.reader.decodeLength (header ++ chunk)) = false) :
      Reads language before (.received chunk)
        { before with camera := none, phase := .idle } (some .refused)
  | payload {length : Nat} {jpeg chunk : Bytes} (was : before.phase = .payload length jpeg)
      (short : (jpeg ++ chunk).length < length) :
      Reads language before (.received chunk)
        { before.receive chunk with phase := .payload length (jpeg ++ chunk) } none
  | finish {length : Nat} {jpeg chunk : Bytes} (was : before.phase = .payload length jpeg)
      (complete : (jpeg ++ chunk).length = length)
      (accepted : language.reader.acceptsJpeg (jpeg ++ chunk) = true) :
      Reads language before (.received chunk)
        { before.receive chunk with phase := .idle } (some (.returned (jpeg ++ chunk)))
  | badJpeg {length : Nat} {jpeg chunk : Bytes} (was : before.phase = .payload length jpeg)
      (complete : (jpeg ++ chunk).length = length)
      (refused : language.reader.acceptsJpeg (jpeg ++ chunk) = false) :
      Reads language before (.received chunk)
        { before with camera := none, phase := .idle } (some .refused)

variable {language : ClientLanguage} {before after : CameraClient Control}
  {input : ReadJpegInput} {result : Option ReadJpegResult}

/-- Going on with a header stays in it, reads its length, or refuses that. -/
theorem receiveHeader_reads {header chunk : Bytes} (was : before.phase = .header header)
    (fits : header.length + chunk.length ≤ 4) {reached : CameraClient Control × Option ReadJpegResult}
    (read : (before.receive chunk).receiveHeader language.reader (header ++ chunk) = reached) :
    Reads language before (.received chunk) reached.1 reached.2 := by
  -- The header is complete once it has four bytes.
  subst read
  unfold receiveHeader
  rw [← List.length_append] at fits
  by_cases short : (header ++ chunk).length < 4
  · rw [if_pos short]
    exact .header was short
  · rw [if_neg short]
    have complete : (header ++ chunk).length = 4 := Nat.le_antisymm fits (Nat.not_lt.mp short)
    cases accepted : language.reader.acceptsLength
        (language.reader.decodeLength (header ++ chunk)) with
    | true =>
      simp only [accepted, if_true]
      exact .length was complete accepted
    | false =>
      simp only [accepted, Bool.false_eq_true, if_false]
      exact .badLength was complete accepted

/-- Going on with an image stays in it, returns it, or refuses it. -/
theorem receivePayload_reads {length : Nat} {jpeg chunk : Bytes}
    (was : before.phase = .payload length jpeg) (fits : jpeg.length + chunk.length ≤ length)
    {reached : CameraClient Control × Option ReadJpegResult}
    (read : (before.receive chunk).receivePayload language.reader length (jpeg ++ chunk) =
      reached) :
    Reads language before (.received chunk) reached.1 reached.2 := by
  -- The image is complete once it has the announced length.
  subst read
  unfold receivePayload
  rw [← List.length_append] at fits
  by_cases short : (jpeg ++ chunk).length < length
  · rw [if_pos short]
    exact .payload was short
  · rw [if_neg short]
    have complete : (jpeg ++ chunk).length = length := Nat.le_antisymm fits (Nat.not_lt.mp short)
    cases accepted : language.reader.acceptsJpeg (jpeg ++ chunk) with
    | true => exact .finish was complete accepted
    | false => exact .badJpeg was complete accepted

/-- Every effect of a call is one of the listed ones. -/
theorem readJpeg_reads (read : before.readJpeg language input = some (after, result)) :
    Reads language before input after result := by
  -- The cases follow the branches, each named by its phase.
  unfold readJpeg at read
  split at read <;> rename_i was
  · by_cases ready : before.isOpen language = true
    · rw [if_pos ready] at read
      cases read
      refine .begin was ready ?_
      cases before.camera <;> simp
    · rw [if_neg ready] at read
      cases read
      exact .refuse was (Bool.eq_false_iff.mpr ready)
  · cases read
    exact .connect was
  · cases read
    exact .ask was
  · cases read
    exact .fail (by simp [was])
  · split at read
    · rename_i fits
      exact receiveHeader_reads was fits (Option.some.inj read)
    · cases read
  · cases read
    exact .fail (by simp [was])
  · split at read
    · rename_i fits
      exact receivePayload_reads was fits (Option.some.inj read)
    · cases read
  · cases read
  · cases read
    exact .fail (by assumption)
  · cases read

/-- The end of the stream always fails the call. -/
theorem readJpeg_close (read : before.readJpeg language (.received []) = some (after, result)) :
    after = { before with camera := none, phase := .idle } ∧ result = some .failed := by
  -- Only a call that waits for bytes can see it.
  unfold readJpeg at read
  cases was : before.phase with
  | header header =>
    simp only [was, Option.some.injEq, fail, Prod.mk.injEq] at read
    exact ⟨read.1.symm, read.2.symm⟩
  | payload length jpeg =>
    simp only [was, Option.some.injEq, fail, Prod.mk.injEq] at read
    exact ⟨read.1.symm, read.2.symm⟩
  | idle => simp [was] at read
  | connecting => simp [was] at read
  | asking => simp [was] at read

/-- No effect of a call touches the control connection or closes the client. -/
theorem Reads.kept (read : Reads language before input after result) :
    after.control = before.control ∧ after.isOpen language = before.isOpen language := by
  -- Only the camera connection and the phase are ever replaced.
  cases read <;> exact ⟨rfl, rfl⟩

/-- A call that raises drops the camera connection, unless the client had been closed. -/
theorem Reads.dropped (read : Reads language before input after result)
    (raised : result = some .refused ∨ result = some .failed) :
    after.camera = none ∧ after.phase = .idle := by
  -- Both results are reached in the failing effects only.
  cases read with
  | fail was => exact ⟨rfl, rfl⟩
  | badLength was complete refused => exact ⟨rfl, rfl⟩
  | badJpeg was complete refused => exact ⟨rfl, rfl⟩
  | refuse was shut => simp at raised
  | finish was complete accepted => simp at raised
  | begin was ready next => simp at raised
  | connect was => simp at raised
  | ask was => simp at raised
  | header was short => simp at raised
  | length was complete accepted => simp at raised
  | payload was short => simp at raised

end CameraClient
end Scout
