import Scout.Stream.TextParts

/-! Requests as lines of text with a body, and how they are read back. -/

namespace Scout.Stream

open Text

/-- The end of a line. -/
def crlf : Text := ['\r', '\n']

/-- What precedes and what follows the first occurrence of a pattern. -/
def splitFirst (pattern : Text) : Text → Option (Text × Text)
  | [] => if pattern.isPrefixOf [] then some ([], []) else none
  | char :: rest =>
    if pattern.isPrefixOf (char :: rest) then some ([], (char :: rest).drop pattern.length)
    else (splitFirst pattern rest).map fun parts => (char :: parts.1, parts.2)

/-- A request: the three words of its first line, its fields, and its body. -/
structure Request where
  method : Text
  target : Text
  version : Text
  fields : List (Text × Text)
  body : Text
  deriving DecidableEq

namespace Request

/-- The first line of a request. -/
def requestLine (request : Request) : Text :=
  [' '].intercalate [request.method, request.target, request.version]

/-- The line of a field. -/
def fieldLine (field : Text × Text) : Text := field.1 ++ [':', ' '] ++ field.2

/-- All lines before the body. -/
def lines (request : Request) : List Text :=
  request.requestLine :: request.fields.map fieldLine

/-- The text of a request. -/
def render (request : Request) : Text :=
  crlf.intercalate request.lines ++ (crlf ++ crlf) ++ request.body

/-- Read the fields of a request. -/
def readFields (lines : List Text) : Option (List (Text × Text)) :=
  lines.mapM (splitFirst [':', ' '])

/-- Read a request: the body follows the first empty line. -/
def read (text : Text) : Option Request := do
  let (head, body) ← splitFirst (crlf ++ crlf) text
  match head.split crlf with
  | [] => none
  | first :: others =>
    match first.split [' '] with
    | [method, target, version] => do
      let fields ← readFields others
      return { method, target, version, fields, body }
    | _ => none

/-- A text on a single line. -/
def OneLine (text : Text) : Prop := '\r' ∉ text ∧ '\n' ∉ text

instance (text : Text) : Decidable (OneLine text) := inferInstanceAs (Decidable (_ ∧ _))

/-- A word of the first line. -/
def Word (text : Text) : Prop := OneLine text ∧ ' ' ∉ text

instance (text : Text) : Decidable (Word text) := inferInstanceAs (Decidable (_ ∧ _))

/-- A request that is read back: its words have no spaces, and its lines no ends. -/
structure Plain (request : Request) : Prop where
  method : Word request.method
  target : Word request.target
  version : Word request.version
  names : ∀ field ∈ request.fields, OneLine field.1 ∧ ':' ∉ field.1
  values : ∀ field ∈ request.fields, OneLine field.2

end Request

section First

variable {pattern text before after : Text}

/-- A pattern splits a text around itself where nothing earlier begins with it. -/
theorem splitFirst_append
    (first : ∀ count, count < before.length →
      ¬ pattern <+: (before ++ pattern ++ after).drop count) :
    splitFirst pattern (before ++ pattern ++ after) = some (before, after) := by
  -- The characters before the pattern are passed one by one.
  induction before with
  | nil =>
    have begins : pattern.isPrefixOf (pattern ++ after) = true :=
      List.isPrefixOf_iff_prefix.mpr (List.prefix_append _ _)
    rw [List.nil_append]
    cases whole : pattern ++ after with
    | nil =>
      obtain ⟨rfl, rfl⟩ := List.append_eq_nil_iff.mp whole
      rfl
    | cons char rest =>
      rw [whole] at begins
      rw [splitFirst, if_pos begins, ← whole, List.drop_left]
  | cons char others ih =>
    have later : ¬ pattern.isPrefixOf (char :: (others ++ pattern ++ after)) = true := fun begins =>
      first 0 (Nat.succ_pos _) (List.isPrefixOf_iff_prefix.mp begins)
    rw [List.cons_append, List.cons_append, splitFirst, if_neg later,
      ih fun count within => first (count + 1) (Nat.succ_lt_succ within)]
    rfl

end First

section Head

variable {lines : List Text} {body : Text}

/-- Neither of the characters that end a line is in a text on a single line. -/
theorem crlf_disjoint {line : Text} (single : Request.OneLine line) : ∀ char ∈ crlf, char ∉ line := by
  -- These are two characters.
  simpa [crlf, Request.OneLine] using single

/-- An empty line does not begin inside a text on a single line. -/
theorem not_emptyLine_of_oneLine {line rest : Text} (single : Request.OneLine line) {count : Nat}
    (within : count < line.length) : ¬ crlf ++ crlf <+: (line ++ rest).drop count := by
  -- It would begin with a character of the line.
  intro begins
  rw [List.drop_append_of_le_length (Nat.le_of_lt within), List.drop_eq_getElem_cons within] at begins
  have first := (List.cons_prefix_cons.mp begins).1
  exact single.1 (first ▸ List.getElem_mem within)

/-- Lines that are not empty do not begin with the end of a line. -/
theorem not_crlf_of_lines (some_ : lines ≠ [])
    (plain : ∀ line ∈ lines, Request.OneLine line ∧ line ≠ []) {rest : Text} :
    ¬ crlf <+: crlf.intercalate lines ++ rest := by
  -- They begin with the first character of the first line.
  intro begins
  cases lines with
  | nil => exact some_ rfl
  | cons first others =>
    obtain ⟨single, nonempty⟩ := plain first List.mem_cons_self
    obtain ⟨char, tail, rfl⟩ := List.exists_cons_of_ne_nil nonempty
    rw [List.intercalate_cons_cons_left, List.cons_append] at begins
    have same := (List.cons_prefix_cons.mp begins).1
    exact single.1 (same ▸ List.mem_cons_self)

/-- There is no empty line inside lines that are not empty. -/
theorem not_emptyLine_in_lines (some_ : lines ≠ [])
    (plain : ∀ line ∈ lines, Request.OneLine line ∧ line ≠ []) {rest : Text} {count : Nat}
    (within : count < (crlf.intercalate lines).length) :
    ¬ crlf ++ crlf <+: (crlf.intercalate lines ++ rest).drop count := by
  -- The induction is on the lines, and the end of the first one is followed by another one.
  induction lines generalizing count with
  | nil => exact absurd rfl some_
  | cons first others ih =>
    obtain ⟨single, nonempty⟩ := plain first List.mem_cons_self
    cases others with
    | nil =>
      rw [List.intercalate_singleton] at within ⊢
      exact not_emptyLine_of_oneLine single within
    | cons second more =>
      have others := fun line member => plain line (List.mem_cons_of_mem _ member)
      rw [List.intercalate_cons_cons] at within ⊢
      rw [List.append_assoc, List.append_assoc]
      rcases Nat.lt_or_ge count first.length with inside | behind
      · exact not_emptyLine_of_oneLine single inside
      obtain ⟨place, rfl⟩ := Nat.exists_eq_add_of_le behind
      rw [List.drop_append, List.drop_eq_nil_of_le behind, List.nil_append, Nat.add_sub_cancel_left]
      match place with
      | 0 =>
        -- The second line would have to begin with the end of a line.
        intro begins
        rw [List.drop_zero, List.prefix_append_right_inj] at begins
        exact not_crlf_of_lines (by simp) others begins
      | 1 =>
        intro begins
        exact absurd (List.cons_prefix_cons.mp begins).1 (by decide)
      | place + 2 =>
        refine ih (by simp) others ?_
        have two : crlf.length = 2 := rfl
        rw [List.length_append, List.length_append, two] at within
        omega

/-- The first empty line is the one behind the lines. -/
theorem splitFirst_lines (some_ : lines ≠ [])
    (plain : ∀ line ∈ lines, Request.OneLine line ∧ line ≠ []) :
    splitFirst (crlf ++ crlf) (crlf.intercalate lines ++ (crlf ++ crlf) ++ body) =
      some (crlf.intercalate lines, body) := by
  -- Nothing inside the lines is an empty line.
  apply splitFirst_append
  intro count within
  rw [List.append_assoc]
  exact not_emptyLine_in_lines some_ plain within

end Head

namespace Request

/-- The name of a field ends at the first colon. -/
theorem splitFirst_fieldLine {field : Text × Text} (plain : ':' ∉ field.1) :
    splitFirst [':', ' '] (fieldLine field) = some field := by
  -- No colon is in the name.
  apply splitFirst_append
  intro count within begins
  rw [List.append_assoc, List.drop_append_of_le_length (Nat.le_of_lt within),
    List.drop_eq_getElem_cons within] at begins
  have first := (List.cons_prefix_cons.mp begins).1
  exact plain (first ▸ List.getElem_mem within)

/-- Fields are read back from their lines. -/
theorem readFields_map (fields : List (Text × Text)) (plain : ∀ field ∈ fields, ':' ∉ field.1) :
    readFields (fields.map fieldLine) = some fields := by
  -- One line after another is read.
  induction fields with
  | nil => rfl
  | cons first others ih =>
    have rest := ih fun field member => plain field (List.mem_cons_of_mem _ member)
    unfold readFields at rest ⊢
    rw [List.map_cons, List.mapM_cons, splitFirst_fieldLine (plain first List.mem_cons_self), rest]
    rfl

variable {request : Request}

/-- The first line is split into its words. -/
theorem split_requestLine (plain : request.Plain) :
    request.requestLine.split [' '] = [request.method, request.target, request.version] := by
  -- No word has a space.
  apply split_intercalate (by simp) (by simp)
  simp [plain.method.2, plain.target.2, plain.version.2]

/-- The lines of a plain request are not empty, and none of them has an end. -/
theorem plain_lines (plain : request.Plain) :
    ∀ line ∈ request.lines, OneLine line ∧ line ≠ [] := by
  intro line member
  rcases List.mem_cons.mp member with first | later
  · -- The first line has its spaces.
    rw [first]
    have words := And.intro plain.method.1 (And.intro plain.target.1 plain.version.1)
    simp [requestLine, OneLine] at words ⊢
    simp [words]
  · -- The line of a field has its colon.
    obtain ⟨field, inside, rfl⟩ := List.mem_map.mp later
    have name := (plain.names field inside).1
    have value := plain.values field inside
    simp [fieldLine, OneLine] at name value ⊢
    simp [name, value]

/-- A plain request is read back from its text. -/
theorem read_render (plain : request.Plain) : read request.render = some request := by
  -- The head is split off, taken apart into lines, and each line is read.
  have head : request.lines ≠ [] := by simp [lines]
  have lines := plain_lines plain
  have parts : Text.split (crlf.intercalate request.lines) crlf = request.lines :=
    split_intercalate (by simp [crlf]) head fun line member => crlf_disjoint (lines line member).1
  have fields := readFields_map request.fields fun field member => (plain.names field member).2
  have words := split_requestLine plain
  unfold read render
  rw [splitFirst_lines head lines]
  simp only [Option.bind_eq_bind, Option.bind_some, parts]
  simp only [Request.lines, words, fields, Option.bind_some]
  rfl

/-- What is read is told apart by the first empty line, the ends of lines, and two spaces. -/
theorem read_eq_some {text : Text} (found : read text = some request) :
    ∃ head line others, splitFirst (crlf ++ crlf) text = some (head, request.body) ∧
      Text.split head crlf = line :: others ∧
      Text.split line [' '] = [request.method, request.target, request.version] ∧
      readFields others = some request.fields := by
  -- Reading succeeds only where each of these steps does.
  unfold read at found
  cases first : splitFirst (crlf ++ crlf) text with
  | none => simp [first] at found
  | some parts =>
    obtain ⟨head, body⟩ := parts
    rw [first] at found
    simp only [Option.bind_eq_bind, Option.bind_some] at found
    split at found
    · cases found
    rename_i line others separated
    split at found
    · rename_i method target version words
      obtain ⟨fields, listed, same⟩ := Option.bind_eq_some_iff.mp found
      cases same
      exact ⟨head, line, others, rfl, separated, words, listed⟩
    · cases found

/-- Plain requests with the same text are the same. -/
theorem render_injective {other : Request} (plain : request.Plain) (otherPlain : other.Plain)
    (same : request.render = other.render) : request = other := by
  -- Both are read back from that text.
  have read := read_render plain
  rw [same, read_render otherPlain] at read
  exact (Option.some.inj read).symm

end Request
end Scout.Stream
