import Scout.Stream.TextParts
import Scout.Stream.Utf8
import Scout.Wifi.Lookup

/-! Which headers of the master's answer announce a body, and how long that body is. -/

namespace Scout.Wifi

/-- A line consists of a name, a colon and a value. -/
def FieldLine (line : Text) (field : Text × Text) : Prop :=
  line = field.1 ++ ':' :: field.2 ∧ ':' ∉ field.1

/-- Whether a field has a name, in whichever case its letters are. -/
def named (name : String) (field : Text × Text) : Bool :=
  Text.eqIgnoreAsciiCase field.1 name.toList

/-- The fields on the lines of a header, of which one announces the length of the body. -/
structure Announces (lines : List Text) (fields : List (Text × Text)) (length : Nat) : Prop where
  written : List.Forall₂ FieldLine (lines.filter fun line => !line.isEmpty) fields
  whole : ∀ field ∈ fields, named "transfer-encoding" field = false
  once : ∃ field, fields.filter (named "content-length") = [field] ∧
    field.2.trim.parseUnsigned 64 = some length

/-- The first line of a header that announces success. -/
def Succeeds (status : Text) : Prop :=
  ∃ version others, status.splitWhitespace = version :: "200".toList :: others ∧
    (version = "HTTP/1.0".toList ∨ version = "HTTP/1.1".toList)

/-- The text of a header that announces a body of a limited length. -/
def HeaderText (text : Text) (length : Nat) : Prop :=
  ∃ status lines fields, text.split "\r\n".toList = status :: lines ∧ Succeeds status ∧
    Announces lines fields length ∧ length ≤ 65536

section Fields

variable {line : Text} {length next : Option Nat}

/-- A line that has a colon is the line of one field. -/
theorem splitOnce_eq_fieldLine {field : Text × Text} :
    line.splitOnce ':' = some field ↔ FieldLine line field :=
  Text.splitOnce_eq_some

/-- What going through one field makes of the length. -/
def Measures (length next : Option Nat) (field : Text × Text) : Prop :=
  named "transfer-encoding" field = false ∧
    ((named "content-length" field = false ∧ next = length) ∨
      named "content-length" field = true ∧ length = none ∧ next ≠ none ∧
        field.2.trim.parseUnsigned 64 = next)

/-- A field that announces a length must be the first, and have a number. -/
theorem measures_of_named {field : Text × Text} (measured : named "content-length" field = true) :
    Measures length next field ↔ named "transfer-encoding" field = false ∧ length = none ∧
      next ≠ none ∧ field.2.trim.parseUnsigned 64 = next := by
  unfold Measures
  simp [measured]

/-- Any other field leaves the length as it is. -/
theorem measures_of_not_named {field : Text × Text}
    (other : ¬ named "content-length" field = true) :
    Measures length next field ↔ named "transfer-encoding" field = false ∧ next = length := by
  unfold Measures
  simp [other]

/-- What a field makes of the length is what is calculated of its two parts. -/
theorem headerField_measures {field : Text × Text} (split : line.splitOnce ':' = some field) :
    headerField length line = .ok next ↔ Measures length next field := by
  obtain ⟨name, value⟩ := field
  unfold headerField
  rw [split]
  dsimp only
  by_cases encoded : Text.eqIgnoreAsciiCase name "transfer-encoding".toList = true
  · rw [if_pos encoded]
    exact iff_of_false (fun same => by cases same) fun measures =>
      absurd (measures.1.symm.trans encoded) Bool.false_ne_true
  rw [if_neg encoded]
  have plain : named "transfer-encoding" (name, value) = false := Bool.eq_false_iff.mpr encoded
  by_cases measured : named "content-length" (name, value) = true
  · -- The length must be the first, and must be a number.
    have first : Text.eqIgnoreAsciiCase name "content-length".toList = true := measured
    rw [if_pos first, measures_of_named measured, and_iff_right plain]
    cases length with
    | some known => exact iff_of_false (fun same => by cases same) fun first => by cases first.1
    | none =>
      simp only [Option.isSome_none, Bool.false_eq_true, if_false]
      cases parsed : value.trim.parseUnsigned 64 with
      | none => exact iff_of_false (fun same => by cases same) fun found => found.2.1 found.2.2.symm
      | some number =>
        constructor
        · intro same
          cases same
          exact ⟨trivial, by simp, rfl⟩
        · intro found
          rw [← found.2.2]
  · -- Other fields leave the length as it is.
    have other : ¬ Text.eqIgnoreAsciiCase name "content-length".toList = true := measured
    rw [if_neg other, measures_of_not_named measured, and_iff_right plain, Except.ok.injEq]
    exact eq_comm

/-- A line is accepted exactly if it has a field that may follow those before it. -/
theorem headerField_ok :
    headerField length line = .ok next ↔ ∃ field, FieldLine line field ∧
      Measures length next field := by
  -- A line without a colon is no field.
  cases split : line.splitOnce ':' with
  | none =>
    unfold headerField
    rw [split]
    refine iff_of_false (fun same => by cases same) fun found => ?_
    obtain ⟨field, written, _⟩ := found
    rw [splitOnce_eq_fieldLine.mpr written] at split
    cases split
  | some field =>
    rw [headerField_measures split]
    constructor
    · exact fun measures => ⟨field, splitOnce_eq_fieldLine.mp split, measures⟩
    · intro found
      obtain ⟨other, written, measures⟩ := found
      rw [splitOnce_eq_fieldLine.mpr written] at split
      cases split
      exact measures

/-- The lines are accepted exactly if their fields announce at most one length. -/
theorem foldlM_headerField_ok {lines : List Text} :
    lines.foldlM headerField length = .ok next ↔ ∃ fields values,
      List.Forall₂ FieldLine lines fields ∧
      (∀ field ∈ fields, named "transfer-encoding" field = false) ∧
      ((fields.filter (named "content-length")).map fun field =>
        field.2.trim.parseUnsigned 64) = values.map some ∧
      next.toList = length.toList ++ values := by
  -- The induction is on the lines, the first of which may announce the length.
  induction lines generalizing length with
  | nil =>
    rw [List.foldlM_nil]
    constructor
    · intro same
      cases same
      exact ⟨[], [], .nil, by simp, rfl, (List.append_nil _).symm⟩
    · intro found
      obtain ⟨fields, values, written, _, parsed, same⟩ := found
      cases written
      obtain rfl : values = [] := List.map_eq_nil_iff.mp parsed.symm
      rw [List.append_nil] at same
      have kept : length = next := by
        cases length <;> cases next <;> simp_all
      rw [kept]
      rfl
  | cons line lines ih =>
    rw [List.foldlM_cons]
    constructor
    · intro same
      cases first : headerField length line with
      | error error =>
        rw [first] at same
        cases same
      | ok middle =>
        rw [first] at same
        obtain ⟨fields, values, written, plain, parsed, rest⟩ := ih.mp same
        obtain ⟨field, own, unencoded, measures⟩ := headerField_ok.mp first
        have all : ∀ other ∈ field :: fields, named "transfer-encoding" other = false :=
          List.forall_mem_cons.mpr ⟨unencoded, plain⟩
        rcases measures with ⟨other, rfl⟩ | ⟨measured, rfl, number, value⟩
        · refine ⟨field :: fields, values, .cons own written, all, ?_, rest⟩
          rw [List.filter_cons_of_neg (by simp [other])]
          exact parsed
        · obtain ⟨known, rfl⟩ := Option.ne_none_iff_exists'.mp number
          refine ⟨field :: fields, known :: values, .cons own written, all, ?_, rest⟩
          rw [List.filter_cons_of_pos measured, List.map_cons, List.map_cons, value, parsed]
    · intro found
      obtain ⟨fields, values, written, plain, parsed, rest⟩ := found
      cases written with
      | @cons _ field _ fields own written =>
        rw [List.forall_mem_cons] at plain
        by_cases measured : named "content-length" field = true
        · rw [List.filter_cons_of_pos measured, List.map_cons] at parsed
          obtain ⟨known, values, rfl, value, parsed⟩ : ∃ known more, values = known :: more ∧
              field.2.trim.parseUnsigned 64 = some known ∧
              (fields.filter (named "content-length")).map
                (fun field => field.2.trim.parseUnsigned 64) = more.map some := by
            cases values with
            | nil => cases parsed
            | cons known more =>
              rw [List.map_cons, List.cons.injEq] at parsed
              exact ⟨known, more, rfl, parsed⟩
          -- A length that was known before would be the first of two.
          have none : length = none := by
            cases length with
            | none => rfl
            | some earlier =>
              have lengths := congrArg List.length rest
              cases next <;> simp at lengths
          subst none
          have first : headerField none line = .ok (some known) :=
            headerField_ok.mpr ⟨field, own, plain.1, .inr ⟨measured, rfl, by simp, value⟩⟩
          rw [first]
          exact ih.mpr ⟨fields, values, written, plain.2, parsed, rest⟩
        · rw [List.filter_cons_of_neg measured] at parsed
          have first : headerField length line = .ok length :=
            headerField_ok.mpr ⟨field, own, plain.1, .inl ⟨by simpa using measured, rfl⟩⟩
          rw [first]
          exact ih.mpr ⟨fields, values, written, plain.2, parsed, rest⟩

end Fields

section Headers

variable {text status : Text} {length : Nat}

/-- The two first words of a line say whether it announces success. -/
theorem statusOk_iff : statusOk status = true ↔ Succeeds status := by
  -- The first two words of the line decide.
  unfold statusOk Succeeds
  cases words : status.splitWhitespace with
  | nil => simp
  | cons version others =>
    cases others with
    | nil => simp
    | cons code others =>
      simp only [List.getElem?_cons_zero, List.getElem?_cons_succ, Bool.and_eq_true, Bool.or_eq_true,
        beq_iff_eq, Option.some.injEq, List.cons.injEq]
      constructor
      · intro both
        exact ⟨version, others, ⟨rfl, both.2, rfl⟩, both.1⟩
      · intro found
        obtain ⟨_, _, ⟨rfl, rfl, rfl⟩, versions⟩ := found
        exact ⟨versions, rfl⟩

/-- The fields of the lines announce one length, and not more. -/
theorem foldlM_announces {lines : List Text} :
    (lines.filter fun line => !line.isEmpty).foldlM headerField none = .ok (some length) ↔
      ∃ fields, Announces lines fields length := by
  rw [foldlM_headerField_ok]
  constructor
  · intro found
    obtain ⟨fields, values, written, plain, parsed, same⟩ := found
    obtain rfl : [length] = values := same
    -- One value comes from one field.
    obtain ⟨field, once, value⟩ := List.map_eq_singleton_iff.mp parsed
    exact ⟨fields, written, plain, field, once, value⟩
  · intro found
    obtain ⟨fields, written, plain, field, once, value⟩ := found
    exact ⟨fields, [length], written, plain, by rw [once]; simp [value], rfl⟩

/-- A header is judged by its first line, and by the length that its other lines announce. -/
theorem headerText_iff {lines : List Text} (split : text.split "\r\n".toList = status :: lines) :
    HeaderText text length ↔ Succeeds status ∧
      (lines.filter fun line => !line.isEmpty).foldlM headerField none = .ok (some length) ∧
        length ≤ 65536 := by
  -- The lines that announce the length are followed by a fold.
  rw [foldlM_announces]
  constructor
  · intro header
    obtain ⟨_, _, fields, same, succeeds, announces, limited⟩ := header
    rw [split] at same
    cases same
    exact ⟨succeeds, ⟨fields, announces⟩, limited⟩
  · intro header
    obtain ⟨succeeds, ⟨fields, announces⟩, limited⟩ := header
    exact ⟨status, lines, fields, split, succeeds, announces, limited⟩

/-- The length of a text is calculated exactly if the text announces it. -/
theorem contentLength_text : contentLength text.utf8 = .ok length ↔ HeaderText text length := by
  unfold contentLength
  rw [Text.ofUtf8_eq_some.mpr rfl]
  dsimp only
  cases split : text.split "\r\n".toList with
  | nil =>
    -- Without a line there is no status.
    rw [if_neg (by decide)]
    refine iff_of_false (fun same => by cases same) fun header => ?_
    obtain ⟨_, _, _, same, _⟩ := header
    rw [split] at same
    cases same
  | cons status lines =>
    rw [headerText_iff split, List.headD_cons, List.tail_cons]
    by_cases succeeds : Succeeds status
    · rw [if_pos (statusOk_iff.mpr succeeds), and_iff_right succeeds]
      cases folded : (lines.filter fun line => !line.isEmpty).foldlM headerField none with
      | error error => exact iff_of_false (fun same => by cases same) fun both => by cases both.1
      | ok measured =>
        cases measured with
        | none => exact iff_of_false (fun same => by cases same) fun both => by cases both.1
        | some known =>
          -- The length is compared with the limit at last.
          show (if maxLookupBody < known then _ else _) = _ ↔ _
          by_cases long : maxLookupBody < known
          · rw [if_pos long]
            refine iff_of_false (fun same => by cases same) fun both => ?_
            cases both.1
            exact absurd both.2 (Nat.not_le.mpr long)
          · rw [if_neg long]
            constructor
            · intro same
              cases same
              exact ⟨rfl, Nat.not_lt.mp long⟩
            · intro both
              cases both.1
              rfl
    · rw [if_neg fun found => succeeds (statusOk_iff.mp found)]
      exact iff_of_false (fun same => by cases same) fun header => succeeds header.1

/-- A header announces a body exactly if it is the text of such a header. -/
theorem contentLength_ok {header : Bytes} :
    contentLength header = .ok length ↔
      ∃ text : Text, header = text.utf8 ∧ HeaderText text length := by
  -- The header has to be a text.
  constructor
  · intro accepted
    cases converted : Text.ofUtf8 header with
    | none =>
      unfold contentLength at accepted
      rw [converted] at accepted
      cases accepted
    | some text =>
      obtain rfl := Text.ofUtf8_eq_some.mp converted
      exact ⟨text, rfl, contentLength_text.mp accepted⟩
  · intro found
    obtain ⟨text, rfl, header⟩ := found
    exact contentLength_text.mpr header

/-- Neither the case of a field's name nor the space around its value matters. -/
example : contentLength
    (Text.utf8 "HTTP/1.0 200 OK\r\ncontent-LENGTH: +2 \r\n\r\n".toList) = .ok 2 := by decide

end Headers

end Scout.Wifi
