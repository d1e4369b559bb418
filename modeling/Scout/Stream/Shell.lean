import Scout.Stream.Text

/-! The words of a command line, with the quoting rules of the POSIX shell. -/

namespace Scout.Stream.Shell

/-- Where in a command line the next character stands. -/
inductive Place where
  | between
  | unquoted
  | single
  | double
  | escaped (begun : Bool)
  | doubleEscaped
  deriving DecidableEq

/-- A character that separates words where it is not quoted. -/
def IsBlank (char : Char) : Prop := char = ' ' ∨ char = '\t'

instance : DecidablePred IsBlank := fun char =>
  inferInstanceAs (Decidable (char = ' ' ∨ char = '\t'))

/-- A character that does not stand for itself where it is not quoted. -/
def IsSpecial (char : Char) : Prop := char ∈ "|&;<>()$`\n*?[#~=%".toList

instance : DecidablePred IsSpecial := fun char =>
  inferInstanceAs (Decidable (char ∈ "|&;<>()$`\n*?[#~=%".toList))

/-- What one character does: a word is ended or not, and the rest of the word is read elsewhere. -/
inductive Step where
  | ends
  | grows (added : Text) (next : Place)
  | refuses
  deriving DecidableEq

/-- What a character does at a place. -/
def step : Place → Char → Step
  | .single, char =>
    -- Every character but the quote itself stands for itself.
    if char = '\'' then .grows [] .unquoted else .grows [char] .single
  | .double, char =>
    if char = '"' then .grows [] .unquoted
    else if char = '\\' then .grows [] .doubleEscaped
    -- An expansion takes more than quoting.
    else if char = '$' ∨ char = '`' then .refuses
    else .grows [char] .double
  | .escaped begun, char =>
    -- A line that is continued neither begins a word nor ends one.
    if char = '\n' then .grows [] (if begun then .unquoted else .between)
    else .grows [char] .unquoted
  | .doubleEscaped, char =>
    if char = '\n' then .grows [] .double
    -- Only before some characters is a backslash taken away.
    else if char ∈ "$`\"\\".toList then .grows [char] .double
    else .grows ['\\', char] .double
  | place, char =>
    if IsBlank char then .ends
    else if char = '\'' then .grows [] .single
    else if char = '"' then .grows [] .double
    else if char = '\\' then .grows [] (.escaped (place = .unquoted))
    else if IsSpecial char then .refuses
    else .grows [char] .unquoted

/-- The words from a place on, when the word there has been begun; none if a quote is left open. -/
def wordsFrom : Place → Text → Text → Option (List Text)
  | .between, _, [] => some []
  | .unquoted, opened, [] => some [opened]
  | _, _, [] => none
  | place, opened, char :: rest =>
    match step place char with
    | .ends =>
      (wordsFrom .between [] rest).map fun words =>
        if place = .between then words else opened :: words
    | .grows added next => wordsFrom next (opened ++ added) rest
    | .refuses => none

/-- The words of a command line, unless it has to do with more than quoting. -/
def words (line : Text) : Option (List Text) :=
  wordsFrom .between [] line

/-- A text between two single quotes. -/
def quoted (text : Text) : Text := '\'' :: text ++ ['\'']

section Quoting

variable {place : Place} {opened text rest : Text}

/-- Up to the next single quote everything stands for itself. -/
theorem wordsFrom_single (free : '\'' ∉ text) :
    wordsFrom .single opened (text ++ '\'' :: rest) = wordsFrom .unquoted (opened ++ text) rest := by
  -- The induction passes the quoted characters one by one.
  induction text generalizing opened with
  | nil =>
    rw [List.nil_append, List.append_nil, wordsFrom, step, if_pos rfl]
    dsimp only
    rw [List.append_nil]
  | cons char text ih =>
    rw [List.mem_cons, not_or] at free
    rw [List.cons_append, wordsFrom, step, if_neg (Ne.symm free.1)]
    dsimp only
    rw [ih free.2, List.append_assoc]
    rfl

/-- A text without single quotes is one word between two of them, whatever stands behind. -/
theorem wordsFrom_quoted (free : '\'' ∉ text) :
    wordsFrom .between [] (quoted text ++ rest) = wordsFrom .unquoted text rest := by
  -- The first quote begins a word, and the second leaves it open for what is behind.
  have opens : step .between '\'' = .grows [] .single := by decide
  rw [quoted, List.cons_append, List.cons_append, wordsFrom, opens]
  dsimp only
  rw [List.append_assoc, List.singleton_append, List.append_nil, wordsFrom_single free,
    List.nil_append]

/-- A text without single quotes is read back as the only word between two of them. -/
theorem words_quoted (free : '\'' ∉ text) : words (quoted text) = some [text] := by
  -- Nothing stands behind.
  rw [words, ← List.append_nil (quoted text), wordsFrom_quoted free]
  rfl

/-- A single quote ends the quotation, so another word may follow. -/
example : words (quoted "a' 'b".toList) = some ["a".toList, "b".toList] := by decide

end Quoting

end Scout.Stream.Shell
