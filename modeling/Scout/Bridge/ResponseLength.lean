import Scout.Bridge.Echo
import Scout.Bridge.JsonText
import Scout.Stream.TextParts
import Scout.Stream.Utf8

/-! How long the lines are that the bridge answers requests with. -/

namespace Scout

open Json

/-- The line that a response is written as. -/
def responseLine (format : FloatFormat) (response : Json) : Bytes :=
  Json.print format response ++ [newline]

variable {format : FloatFormat}

namespace Json

/-- Escaping goes on character by character. -/
theorem escape_append (first second : Text) :
    escape (first ++ second) = escape first ++ escape second :=
  List.flatMap_append

/-- What is quoted and the text around it are escaped one after another. -/
theorem length_escape_quoted (lead name trail : String) :
    (escape (lead ++ name ++ trail).toList).length =
      (escape lead.toList).length + (escape name.toList).length + (escape trail.toList).length := by
  rw [String.toList_append, String.toList_append, escape_append, escape_append, List.length_append,
    List.length_append]

/-- A character takes at most six bytes. -/
theorem length_escapeChar_le (char : Char) : (escapeChar char).length ≤ 6 := by
  -- The longest escapes are those by number.
  unfold escapeChar
  split_ifs
  all_goals first | decide | skip
  · have digits : ∀ code : Fin 32,
        (ascii "\\u00" ++
          Text.utf8 [(code.val / 16).digitChar, (code.val % 16).digitChar]).length ≤ 6 := by
      decide
    exact digits ⟨char.toNat, ‹_›⟩
  · rw [String.length_utf8EncodeChar]
    have := char.utf8Size_le_four
    omega

/-- A text takes at most six bytes for each of its characters. -/
theorem length_escape_le (text : Text) : (escape text).length ≤ 6 * text.length := by
  -- The induction is on the text, each character of which takes six bytes at most.
  induction text with
  | nil => rfl
  | cons char rest ih =>
    have first := length_escapeChar_le char
    rw [escape, List.flatMap_cons, List.length_append, List.length_cons]
    change (escape rest).length ≤ _ at ih
    show _ + (escape rest).length ≤ _
    omega

/-- The length of a text in quotes. -/
theorem length_quote (text : Text) : (quote text).length = (escape text).length + 2 := by
  -- There is a quotation mark on either side.
  rw [quote, List.length_append, List.length_append]
  show 1 + _ + 1 = _
  omega

/-- The length of a field. -/
theorem length_printField (name : String) (value : Bytes) :
    (printField (name, value)).length = (escape name.toList).length + value.length + 3 := by
  -- Besides the name and the value there are two quotation marks and a colon.
  rw [printField, List.length_append, List.length_append, length_quote]
  show (escape name.toList).length + 2 + 1 + value.length = _
  omega

/-- Digits take one byte each. -/
theorem length_utf8_digits {text : Text} (digits : ∀ char ∈ text, char.isDigit = true) :
    (Text.utf8 text).length = text.length := by
  -- They are characters of seven bits.
  have small : ∀ char ∈ text, char.toNat < 0x80 := fun char member => by
    have digit : char.toNat ≤ 57 := (Char.isDigit_iff_toNat.mp (digits char member)).2
    omega
  rw [Text.utf8_of_small small, List.length_map]

/-- The text of a number below two to the sixty-fourth power has at most twenty digits. -/
theorem length_toString_le {number : Nat} (small : number < 2 ^ 64) :
    (toString number).toList.length ≤ 20 := by
  -- A 64-bit number has twenty digits at most.
  rw [Nat.toString_eq_ofList_toDigits, String.toList_ofList,
    Nat.length_toDigits_le_iff (by decide) (by decide)]
  omega

/-- Such a number is printed as its digits. -/
theorem length_int_le {number : Nat} (small : number < 2 ^ 64) :
    (Json.print format (.int number)).length ≤ 20 := by
  -- Each digit takes one byte.
  rw [Json.print, ascii, show toString (number : Int) = toString number from rfl,
    length_utf8_digits fun char member => Text.isDigit_of_mem_toString member]
  exact length_toString_le small

/-- A number that is no integer is short. -/
theorem length_float_le (number : F64) : (Json.print format (.float number)).length ≤ 24 := by
  -- A number that is not finite is printed as a short word.
  rw [Json.print]
  split
  · exact format.short number
  · decide

end Json

/-- Every response says whether the request was carried out, and of which type it is. -/
theorem length_responseLine (done : Bool) (kind : String) (fields : List (String × Json)) :
    (responseLine format (.object (("ok", .bool done) :: ("type", .text kind) :: fields))).length =
      (escape kind.toList).length +
        ((printFields format fields).map fun field => (printField field).length).sum +
        (printFields format fields).length + 22 + (!done).toNat := by
  have names : (escape "ok".toList).length = 2 ∧ (escape "type".toList).length = 4 := by decide
  have word : (Json.print format (.bool done)).length = 4 + (!done).toNat := by
    cases done <;> (rw [Json.print]; decide)
  have text : Json.print format (.text kind) = quote kind.toList := by rw [Json.print]
  -- The two fields come with a comma each, and the braces and the line end around them.
  rw [responseLine, List.length_append, length_object, printFields, printFields]
  simp only [List.map_cons, List.sum_cons, List.length_cons, List.length_nil, length_printField,
    word, text, length_quote, names]
  omega

/-- What an error response takes besides its message. -/
theorem length_errorResponse (message : String) :
    (responseLine format (errorResponse message)).length = (escape message.toList).length + 41 := by
  -- The only field besides the two of every response is the message.
  have kind : (escape "error".toList).length = 5 := by decide
  have name : (escape "message".toList).length = 7 := by decide
  rw [errorResponse, length_responseLine, kind]
  simp only [printFields, List.map_cons, List.map_nil, List.sum_cons, List.sum_nil,
    List.length_cons, List.length_nil, length_printField, Json.print, length_quote, name,
    Bool.not_false, Bool.toNat_true]
  omega

/-- A response to a velocity is short. -/
theorem length_velocityResponse_le (command : ScoutTwist F64) {timeoutMs : Nat}
    (small : timeoutMs < 2 ^ 64) :
    (responseLine format (velocityResponse command timeoutMs)).length ≤ maxControlLineBytes := by
  have kind : (escape "velocity".toList).length = 8 := by decide
  have names : (escape "applied".toList).length = 7 ∧ (escape "timeout_ms".toList).length = 10 := by
    decide
  have forward := @length_float_le format command.linearY
  have lateral := @length_float_le format (-command.linearX)
  have yaw := @length_float_le format command.angularZ
  have lifetime := @length_int_le format timeoutMs small
  -- The numbers are the only parts that vary.
  have applied : (Json.print format (.array [.float command.linearY, .float (-command.linearX),
      .float command.angularZ])).length ≤ 76 := by
    rw [length_array]
    simp only [printItems, List.map_cons, List.map_nil, List.sum_cons, List.sum_nil,
      List.length_cons, List.length_nil]
    omega
  rw [velocityResponse, length_responseLine, kind, maxControlLineBytes]
  simp only [printFields, List.map_cons, List.map_nil, List.sum_cons, List.sum_nil,
    List.length_cons, List.length_nil, length_printField, names, Bool.not_true, Bool.toNat_false]
  omega

/-- The response to a stop is short. -/
theorem length_stopResponse_le :
    (responseLine format stopResponse).length ≤ maxControlLineBytes := by
  -- There are no further fields.
  have kind : (escape "stop".toList).length = 4 := by decide
  rw [stopResponse, length_responseLine, kind, printFields, maxControlLineBytes]
  decide

/-- The response to a ping is short. -/
theorem length_pongResponse_le :
    (responseLine format pongResponse).length ≤ maxControlLineBytes := by
  -- The only further field is the version.
  have kind : (escape "pong".toList).length = 4 := by decide
  have name : (escape "protocol".toList).length = 8 := by decide
  have version := @length_int_le format protocolVersion (by decide)
  rw [pongResponse, length_responseLine, kind, maxControlLineBytes]
  simp only [printFields, List.map_cons, List.map_nil, List.sum_cons, List.sum_nil,
    List.length_cons, List.length_nil, length_printField, name, Bool.not_true, Bool.toNat_false]
  omega

/-- An error response with a message of a few hundred characters is short. -/
theorem length_errorResponse_le {message : String} (short : message.toList.length ≤ 600) :
    (responseLine format (errorResponse message)).length ≤ maxControlLineBytes := by
  -- Each character takes six bytes at most.
  have escaped := length_escape_le message.toList
  rw [length_errorResponse, maxControlLineBytes]
  omega

/-- What is said about a velocity that cannot become a command is short. -/
theorem length_display_le {velocity : Velocity F64} {limits : MotionLimits F64}
    {problem : MotionError} (failed : velocity.toScoutTwist limits = .error problem) :
    problem.display.toList.length ≤ 600 := by
  rw [Velocity.toScoutTwist_eq] at failed
  cases found : Check.firstUnsound (velocity.checks limits) with
  | none =>
    rw [found] at failed
    cases failed
  | some check =>
    rw [found] at failed
    cases failed
    -- The problem names one of the six fields.
    have listed := List.mem_of_find?_eq_some found
    have named : check.field.toList.length ≤ 100 := by
      have all : ∀ check ∈ velocity.checks limits, check.field.toList.length ≤ 100 := by
        simp only [Velocity.checks, List.forall_mem_cons]
        exact ⟨by decide, by decide, by decide, by decide, by decide, by decide,
          List.forall_mem_nil _⟩
      exact all check listed
    unfold Check.problem
    split
    · rw [MotionError.display, String.toList_append, List.length_append]
      have rest : " must be greater than zero".toList.length = 26 := by decide
      omega
    · rw [MotionError.display, String.toList_append, List.length_append]
      have rest : " must be finite".toList.length = 15 := by decide
      omega

/-- Milliseconds of a duration are a 64-bit number. -/
theorem durationMilliseconds_lt (duration : Duration) : durationMilliseconds duration < 2 ^ 64 := by
  unfold durationMilliseconds
  split <;> omega

/-- Every response to a request that has been parsed is short. -/
theorem length_handleRequest_le {request : ControlRequest} {motion : Mutex MotionState}
    {maximumTimeout : Duration} {now : Instant}
    (typed : ∀ vx vy vtheta timeoutMs, request = .velocity vx vy vtheta timeoutMs →
      timeoutMs < 2 ^ 64) :
    (responseLine format (handleRequest request motion maximumTimeout now).1).length ≤
      maxControlLineBytes := by
  have unavailable : (responseLine format (errorResponse "motion state is unavailable")).length ≤
      maxControlLineBytes :=
    length_errorResponse_le (by decide)
  -- The cases follow the branches of the handler.
  cases request with
  | velocity vx vy vtheta timeoutMs =>
    simp only [handleRequest]
    by_cases outside : timeoutMs = 0 ∨ maximumTimeout < Duration.fromMillis timeoutMs
    · rw [if_pos outside]
      apply length_errorResponse_le
      have number := length_toString_le (durationMilliseconds_lt maximumTimeout)
      have rest : "timeout_ms must be between 1 and ".toList.length = 33 := by decide
      show ("timeout_ms must be between 1 and " ++
        toString (durationMilliseconds maximumTimeout)).toList.length ≤ 600
      rw [String.toList_append, List.length_append]
      omega
    · rw [if_neg outside]
      cases mapped : (Velocity.new vx vy vtheta).toScoutTwist MotionLimits.default with
      | error problem => exact length_errorResponse_le (length_display_le mapped)
      | ok command =>
        cases motion.lock with
        | none => exact unavailable
        | some state => exact length_velocityResponse_le command (typed vx vy vtheta timeoutMs rfl)
  | stop =>
    simp only [handleRequest]
    cases motion.lock with
    | none => exact unavailable
    | some state => exact length_stopResponse_le
  | ping => exact length_pongResponse_le

/-- How many bytes of a response to a rejected line are left for what the parser says about it. -/
def maxProblemBytes : Nat := maxControlLineBytes - 58

/-- The response to a rejected line fits exactly if what the parser says about it does. -/
theorem length_rejection_le_iff (problem : String) :
    (responseLine format (errorResponse (s!"invalid request: {problem}"))).length ≤
      maxControlLineBytes ↔ (escape problem.toList).length ≤ maxProblemBytes := by
  -- A few words come before what the parser says.
  have lead : (escape "invalid request: ".toList).length = 17 := by decide
  rw [length_errorResponse]
  show (escape ("invalid request: " ++ problem).toList).length + 41 ≤ _ ↔ _
  rw [String.toList_append, escape_append, List.length_append, lead, maxProblemBytes,
    maxControlLineBytes]
  omega

/-- What the parser says about a line, if it rejects it, is not too long for a response. -/
def ControlConfig.ProblemFits (config : ControlConfig) (line : Bytes) : Prop :=
  ∀ problem, config.parse line = .error problem → (escape problem.toList).length ≤ maxProblemBytes

/-- The response to what the parser makes of a line. -/
def ControlConfig.respond (config : ControlConfig) (now : Instant) (motion : Mutex MotionState) :
    Except String ControlRequest → Json
  | .ok request => (handleRequest request motion config.maximumTimeout now).1
  | .error problem => errorResponse (s!"invalid request: {problem}")

section Lines

variable {config : ControlConfig} {now : Instant} {motion : Mutex MotionState} {serve : Serve}
  {line rest : Bytes}

/-- A line that is not too long is answered as the parser decides. -/
theorem drain_response (complete : Stream.takeLine newline serve.pending = some (line, rest))
    (short : line.length ≤ maxControlLineBytes) :
    (serve.drain config now motion).response =
      some (config.respond now motion (config.parse line)) := by
  -- The line is complete and not too long, so it is parsed.
  unfold Serve.drain
  rw [complete]
  dsimp only
  rw [if_neg (Nat.not_lt.mpr short)]
  cases config.parse line with
  | ok request => rfl
  | error problem => rfl

/-- The response to a line fits the limit exactly if what the parser says about the line does. -/
theorem response_fits_iff (format : FloatFormat)
    (complete : Stream.takeLine newline serve.pending = some (line, rest))
    (short : line.length ≤ maxControlLineBytes)
    (typed : ∀ vx vy vtheta timeoutMs,
      config.parse line = .ok (.velocity vx vy vtheta timeoutMs) → timeoutMs < 2 ^ 64) :
    ∃ response, (serve.drain config now motion).response = some response ∧
      ((responseLine format response).length ≤ maxControlLineBytes ↔ config.ProblemFits line) ∧
      ∀ lead name trail, config.parse line = .error (lead ++ name ++ trail) →
        ((responseLine format response).length ≤ maxControlLineBytes ↔
          (escape lead.toList).length + (escape name.toList).length +
            (escape trail.toList).length ≤ maxProblemBytes) := by
  refine ⟨_, drain_response complete short, ?_⟩
  unfold ControlConfig.ProblemFits
  cases parsed : config.parse line with
  | ok request =>
    -- Whatever is answered to a request that has been parsed is short.
    have fits := @length_handleRequest_le format request motion config.maximumTimeout now
      fun vx vy vtheta timeoutMs same => typed vx vy vtheta timeoutMs (same ▸ parsed)
    exact ⟨iff_of_true fits nofun, nofun⟩
  | error problem =>
    have fits := @length_rejection_le_iff format problem
    refine ⟨fits.trans ⟨fun small other same => ?_, fun small => small problem rfl⟩, ?_⟩
    · cases same
      exact small
    · intro lead name trail same
      cases same
      exact length_escape_quoted lead name trail ▸ fits

end Lines

/-- Each letter takes one byte. -/
theorem length_escape_replicate (count : Nat) :
    (escape (String.ofList (List.replicate count 'a')).toList).length = count := by
  -- The induction is on the number of letters.
  rw [String.toList_ofList]
  induction count with
  | zero => rfl
  | succ count ih =>
    rw [List.replicate_succ, ← List.singleton_append, escape_append, List.length_append, ih]
    show 1 + count = count + 1
    omega

/-- A request of an unknown type with a name of four thousand letters. -/
def unknownRequest : Bytes :=
  ascii "\x7b\"type\":\"" ++ List.replicate 4000 97 ++ ascii "\"\x7d\n"

/-- The unknown type. -/
def unknownType : String := String.ofList (List.replicate 4000 'a')

/-- What the parser says before an unknown type. -/
def unknownLead : String := "unknown variant `"

/-- What the parser says after the type of that request. -/
def unknownTrail : String :=
  "`, expected one of `velocity`, `stop`, `ping` at line 1 column 4010"

/-- A request of an unknown type with a short name. -/
def jumpRequest : Bytes := ascii "\x7b\"type\":\"jump\"\x7d\n"

/-- What the parser says after the short name. -/
def jumpTrail : String :=
  "`, expected one of `velocity`, `stop`, `ping` at line 1 column 14"

/-- A bridge whose parser rejects these two requests, and takes every other line for a ping. -/
def quotingConfig : ControlConfig where
  parse line :=
    if line = unknownRequest then
      .error (unknownLead ++ unknownType ++ unknownTrail)
    else if line = jumpRequest then
      .error (unknownLead ++ "jump" ++ jumpTrail)
    else .ok .ping
  maximumTimeout := Duration.fromSecs 1

/-- The request line of a ping. -/
def pingLine : Bytes := ascii "\x7b\"type\":\"ping\"\x7d\n"

/-- A worker that has read a line. -/
def Serve.reading (line : Bytes) : Serve :=
  { Serve.start with phase := .draining, pending := line }

/-- Numbers are not printed at all. -/
def FloatFormat.none : FloatFormat where
  print _ := []
  short _ := Nat.zero_le _

/-- The response to a ping fits the limit, and so does the one to a rejected line that is short. -/
theorem response_fits_iff_ping :
    (∃ response,
      ((Serve.reading pingLine).drain quotingConfig 0 { value := .default }).response =
        some response ∧
      (responseLine .none response).length ≤ maxControlLineBytes) ∧
    quotingConfig.parse jumpRequest = .error (unknownLead ++ "jump" ++ jumpTrail) ∧
    ∃ response,
      ((Serve.reading jumpRequest).drain quotingConfig 0 { value := .default }).response =
        some response ∧
      (responseLine .none response).length ≤ maxControlLineBytes := by
  -- The three lines are different.
  have others : (pingLine ≠ unknownRequest ∧ pingLine ≠ jumpRequest ∧
      jumpRequest ≠ unknownRequest) ∧
      Stream.takeLine newline (Serve.reading pingLine).pending = some (pingLine, []) ∧
      Stream.takeLine newline (Serve.reading jumpRequest).pending = some (jumpRequest, []) ∧
      pingLine.length ≤ maxControlLineBytes ∧ jumpRequest.length ≤ maxControlLineBytes := by
    decide +kernel
  obtain ⟨⟨long, jump, short⟩, complete, complete', few, few'⟩ := others
  have parsed : quotingConfig.parse pingLine = .ok .ping := by
    simp only [quotingConfig, if_neg long, if_neg jump]
  have rejected : quotingConfig.parse jumpRequest =
      .error (unknownLead ++ "jump" ++ jumpTrail) := by
    simp only [quotingConfig, if_neg short, if_true]
  refine ⟨?_, rejected, ?_⟩
  · -- A ping is parsed.
    obtain ⟨response, written, fits, _⟩ := @response_fits_iff quotingConfig 0 { value := .default }
      (Serve.reading pingLine) pingLine [] .none complete few (by simp [parsed])
    exact ⟨response, written, fits.mpr (by simp [ControlConfig.ProblemFits, parsed])⟩
  · -- The short name is quoted, and what is around it takes less than a hundred bytes.
    obtain ⟨response, written, _, quoted⟩ := @response_fits_iff quotingConfig 0
      { value := .default } (Serve.reading jumpRequest) jumpRequest [] .none complete' few'
      (by simp [rejected])
    refine ⟨response, written, (quoted unknownLead "jump" jumpTrail rejected).mpr ?_⟩
    decide +kernel

/-- The response to a request with a long unknown type is longer than a line may be. -/
theorem unknown_type_exceeds_limit : ∃ response,
    ((Serve.reading unknownRequest).drain quotingConfig 0 { value := .default }).response =
      some response ∧
    Stream.takeLine newline (Serve.reading unknownRequest).pending = some (unknownRequest, []) ∧
    unknownRequest.length ≤ maxControlLineBytes ∧
    ∀ format, maxControlLineBytes < (responseLine format response).length := by
  have complete : Stream.takeLine newline (Serve.reading unknownRequest).pending =
      some (unknownRequest, []) := by
    decide +kernel
  have short : unknownRequest.length ≤ maxControlLineBytes := by decide +kernel
  refine ⟨_, drain_response complete short, complete, short, fun format => ?_⟩
  -- The name is quoted in full, and the text around it takes the rest.
  simp only [quotingConfig, ControlConfig.respond]
  refine Nat.lt_of_not_le fun fits => ?_
  have small := (length_rejection_le_iff _).mp fits
  have name : (escape unknownType.toList).length = 4000 := length_escape_replicate 4000
  have around : (escape unknownLead.toList).length = 17 ∧
      (escape unknownTrail.toList).length = 67 := by
    decide +kernel
  rw [length_escape_quoted, maxProblemBytes, maxControlLineBytes] at small
  omega

end Scout
