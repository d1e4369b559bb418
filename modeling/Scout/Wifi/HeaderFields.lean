import Mathlib.Data.List.Nodup
import Scout.Stream.TextParts
import Scout.Stream.Utf8
import Scout.Wifi.Replies

/-! Which bodies are read as the fields of a header, and for which reason all others are refused. -/

namespace Scout.Wifi

open Machine Dialogue

/-- The text of a field. -/
def fieldText (field : Text × Text) : Text := field.1 ++ '=' :: field.2

/-- The bytes of some fields, each after its length. -/
def fieldsLayout (fields : List (Text × Text)) : Bytes :=
  fields.flatMap fun field => frame (fieldText field).utf8

/-- Fields whose names end where they seem to, and of which no two have the same name. -/
structure WellNamed (fields : List (Text × Text)) : Prop where
  named : ∀ field ∈ fields, '=' ∉ field.1
  distinct : (fields.map Prod.fst).Nodup

/-- A body that consists of not too many well-named fields. -/
structure HeaderBody (body : Bytes) (fields : List (Text × Text)) : Prop where
  laid : body = fieldsLayout fields
  few : fields.length ≤ 128
  wellNamed : WellNamed fields

/-- The first field of a body that is not accepted, behind well-named ones, and what is said of it. -/
inductive FirstDefect (body : Bytes) : (message : String) → Prop
  | encoding {before : List (Text × Text)} {field behind : Bytes} (wellNamed : WellNamed before)
      (few : before.length < 128) (whole : body = fieldsLayout before ++ frame field ++ behind)
      (invalid : Text.ofUtf8 field = none) :
      FirstDefect body "invalid ROS service header encoding"
  | separator {before : List (Text × Text)} {field : Text} {behind : Bytes}
      (wellNamed : WellNamed before) (few : before.length < 128)
      (whole : body = fieldsLayout before ++ frame field.utf8 ++ behind) (missing : '=' ∉ field) :
      FirstDefect body "invalid ROS service header field"
  | duplicate {before : List (Text × Text)} {field : Text × Text} {behind : Bytes}
      (wellNamed : WellNamed before) (few : before.length < 128)
      (whole : body = fieldsLayout before ++ frame (fieldText field).utf8 ++ behind)
      (named : '=' ∉ field.1) (taken : field.1 ∈ before.map Prod.fst) :
      FirstDefect body "duplicate ROS service header field"
  | count {before : List (Text × Text)} {behind : Bytes} (wellNamed : WellNamed before)
      (full : before.length = 128) (whole : body = fieldsLayout before ++ behind)
      (more : behind ≠ []) : FirstDefect body "too many ROS service header fields"

section Lookup

variable {fields : List (Text × Text)} {name value : Text}

/-- A name is found exactly if a field has it. -/
theorem lookup_isSome : (fields.lookup name).isSome = true ↔ name ∈ fields.map Prod.fst := by
  -- The induction is on the fields.
  induction fields with
  | nil => simp
  | cons field others ih =>
    obtain ⟨own, stored⟩ := field
    by_cases same : name = own
    · subst same
      simp
    · have different : (name == own) = false := by simpa using same
      rw [List.lookup_cons, different, List.map_cons, List.mem_cons]
      simp only [ih]
      exact (or_iff_right same).symm

/-- Among fields with different names, a value is found exactly if it stands behind its name. -/
theorem lookup_eq_some (distinct : (fields.map Prod.fst).Nodup) :
    fields.lookup name = some value ↔ (name, value) ∈ fields := by
  -- The induction is on the fields, and only the first of them may have the name of the first.
  induction fields with
  | nil => simp
  | cons field others ih =>
    obtain ⟨own, stored⟩ := field
    rw [List.map_cons, List.nodup_cons] at distinct
    rw [List.lookup_cons, List.mem_cons, Prod.mk.injEq]
    by_cases same : name = own
    · subst same
      have elsewhere : (name, value) ∉ others := fun member =>
        distinct.1 (List.mem_map.mpr ⟨(name, value), member, rfl⟩)
      simp [elsewhere, eq_comm]
    · have different : (name == own) = false := by simpa using same
      simp only [different, ih distinct.2, same, false_and, false_or]

end Lookup

/-- A field is added exactly if it is text, has a separator, and a name that is not taken. -/
theorem insertField_ok {fields grown : List (Text × Text)} {field : Bytes} :
    insertField fields field = .ok grown ↔ ∃ added : Text × Text, field = (fieldText added).utf8 ∧
      '=' ∉ added.1 ∧ added.1 ∉ fields.map Prod.fst ∧ grown = added :: fields := by
  unfold insertField
  cases converted : Text.ofUtf8 field with
  | none =>
    refine iff_of_false (fun same => by cases same) fun added => ?_
    obtain ⟨added, rfl, _⟩ := added
    rw [Text.ofUtf8_eq_some.mpr rfl] at converted
    cases converted
  | some text =>
    obtain rfl := Text.ofUtf8_eq_some.mp converted
    dsimp only
    cases split : text.splitOnce '=' with
    | none =>
      -- A text without a separator is not the text of a field.
      refine iff_of_false (fun same => by cases same) fun added => ?_
      obtain ⟨added, same, _⟩ := added
      have absent := Text.splitOnce_eq_none.mp split
      rw [Text.utf8_injective same] at absent
      exact absent (by simp [fieldText])
    | some parts =>
      obtain ⟨name, value⟩ := parts
      obtain ⟨whole, unsplit⟩ := Text.splitOnce_eq_some.mp split
      dsimp only
      by_cases taken : (fields.lookup name).isSome = true
      · rw [if_pos taken]
        refine iff_of_false (fun same => by cases same) fun added => ?_
        obtain ⟨added, same, named, free, _⟩ := added
        rw [Text.splitOnce_eq_some.mpr ⟨Text.utf8_injective same, named⟩] at split
        cases split
        exact free (lookup_isSome.mp taken)
      · rw [if_neg taken]
        rw [lookup_isSome] at taken
        constructor
        · intro grows
          cases grows
          exact ⟨(name, value), by rw [fieldText, whole], unsplit, taken, rfl⟩
        · intro added
          obtain ⟨added, same, named, _, rfl⟩ := added
          rw [Text.splitOnce_eq_some.mpr ⟨Text.utf8_injective same, named⟩] at split
          cases split
          rfl

section Slices

variable {limit : Nat} {cursor behind field : Bytes}

/-- A frame at the front of a slice is read, and what is behind it is left. -/
theorem readFrame_slice (short : field.length ≤ limit) (fits : field.length < 256 ^ 4) :
    readFrame sliceReadExact limit (frame field ++ behind) = (.returned field, behind) := by
  have four : (Stream.littleEndian 4 field.length).length = 4 := Stream.littleEndian_length 4 _
  -- The length is taken from the front, and then so many bytes.
  have header : (sliceReadExact 4).mapError transportError (frame field ++ behind) =
      (.returned (Stream.littleEndian 4 field.length), field ++ behind) := by
    have enough : ¬ (frame field ++ behind).length < 4 := by
      rw [List.length_append, frame_length]
      omega
    rw [frame, List.append_assoc] at enough ⊢
    rw [mapError, sliceReadExact, if_neg enough, List.take_left' four, List.drop_left' four]
  rw [readFrame, bind_returned header]
  simp only [Stream.ofLittleEndian_littleEndian fits, if_neg (Nat.not_lt.mpr short)]
  have enough : ¬ (field ++ behind).length < field.length := by
    rw [List.length_append]
    omega
  rw [mapError, sliceReadExact, if_neg enough, List.take_left, List.drop_left]

/-- A slice begins with a frame, or reading one fails. -/
theorem readFrame_slice_cases (limit : Nat) (cursor : Bytes) :
    (∃ field behind : Bytes, field.length ≤ limit ∧ field.length < 256 ^ 4 ∧
      cursor = frame field ++ behind) ∨
      ∃ error after, readFrame sliceReadExact limit cursor = (.failed error, after) := by
  by_cases few : cursor.length < 4
  · -- The length is cut.
    have failed : (sliceReadExact 4).mapError transportError cursor =
        (.failed (transportError .unexpectedEof), []) := by
      rw [mapError, sliceReadExact, if_pos few]
    exact .inr ⟨_, _, by rw [readFrame, bind_failed failed]⟩
  have header : (sliceReadExact 4).mapError transportError cursor =
      (.returned (cursor.take 4), cursor.drop 4) := by
    rw [mapError, sliceReadExact, if_neg few]
  have four : (cursor.take 4).length = 4 := by
    rw [List.length_take]
    omega
  have small := Stream.ofLittleEndian_lt (cursor.take 4)
  rw [four] at small
  by_cases long : limit < Stream.ofLittleEndian (cursor.take 4)
  · -- The length is beyond the limit.
    refine .inr ⟨.protocol "ROS service frame exceeds limit", cursor.drop 4, ?_⟩
    rw [readFrame, bind_returned header]
    simp only [if_pos long]
    rfl
  by_cases short : (cursor.drop 4).length < Stream.ofLittleEndian (cursor.take 4)
  · -- The body is cut.
    refine .inr ⟨transportError .unexpectedEof, [], ?_⟩
    rw [readFrame, bind_returned header]
    simp only [if_neg long]
    rw [mapError, sliceReadExact, if_pos short]
  · -- The body is as long as the length says.
    obtain ⟨field, named⟩ : ∃ field, field =
        (cursor.drop 4).take (Stream.ofLittleEndian (cursor.take 4)) := ⟨_, rfl⟩
    have size : field.length = Stream.ofLittleEndian (cursor.take 4) := by
      rw [named, List.length_take]
      omega
    refine .inl ⟨field, (cursor.drop 4).drop field.length, by omega, by omega, ?_⟩
    have front := Stream.littleEndian_ofLittleEndian (cursor.take 4)
    rw [four, ← size] at front
    rw [frame, front, List.append_assoc]
    nth_rewrite 1 [named]
    rw [← size, List.take_append_drop, List.take_append_drop]

end Slices

section Rounds

variable {fields grown : List (Text × Text)} {cursor behind field : Bytes}
  {error : WifiProvisioningError}

/-- Where more than all fields stand, there are too many. -/
theorem fieldRound_full (full : 128 ≤ fields.length) (rest : cursor ≠ []) :
    fieldRound fields cursor =
      (.failed (.protocol "too many ROS service header fields"), cursor) := by
  -- The number of fields is checked before another one is read.
  have more : ¬ cursor.isEmpty = true := fun none => rest (List.isEmpty_iff.mp none)
  rw [fieldRound, bind_returned (rfl : current cursor = (.returned cursor, cursor)), if_neg more,
    if_pos full]
  rfl

/-- Where more is left and not all fields are there, another field is read. -/
theorem fieldRound_some (few : fields.length < 128) (rest : cursor ≠ []) :
    fieldRound fields cursor =
      (readFrame sliceReadExact maxServiceHeader >>= fun field =>
        ofExcept (insertField fields field) >>= fun fields => pure (.inl fields)) cursor := by
  -- Neither of the first two conditions holds.
  have more : ¬ cursor.isEmpty = true := fun none => rest (List.isEmpty_iff.mp none)
  rw [fieldRound, bind_returned (rfl : current cursor = (.returned cursor, cursor)), if_neg more,
    if_neg (Nat.not_le.mpr few)]

/-- A frame is not empty. -/
theorem frame_append_ne_nil : frame field ++ behind ≠ [] := by
  -- Its length alone takes four bytes.
  intro empty
  have lengths := congrArg List.length empty
  rw [List.length_append, frame_length, List.length_nil] at lengths
  omega

/-- A round goes on behind its field, if the field can be added. -/
theorem fieldRound_added (few : fields.length < 128) (short : field.length ≤ maxServiceHeader)
    (added : insertField fields field = .ok grown) :
    fieldRound fields (frame field ++ behind) = (.returned (.inl grown), behind) := by
  -- The length of the field is read correctly.
  have fits : field.length < 256 ^ 4 := Nat.lt_of_le_of_lt short (by decide)
  rw [fieldRound_some few frame_append_ne_nil, bind_returned (readFrame_slice short fits), added]
  rfl

/-- A field that cannot be added ends the reading. -/
theorem fieldRound_refused (few : fields.length < 128) (short : field.length ≤ maxServiceHeader)
    (refused : insertField fields field = .error error) :
    fieldRound fields (frame field ++ behind) = (.failed error, behind) := by
  -- The length of the field is read correctly.
  have fits : field.length < 256 ^ 4 := Nat.lt_of_le_of_lt short (by decide)
  rw [fieldRound_some few frame_append_ne_nil, bind_returned (readFrame_slice short fits), refused]
  rfl

/-- A round ends the reading, or adds a field that stands at the front. -/
theorem fieldRound_cases (fields : List (Text × Text)) (cursor : Bytes) :
    (cursor = [] ∧ fieldRound fields cursor = (.returned (.inr fields), [])) ∨
      (∃ error after, fieldRound fields cursor = (.failed error, after)) ∨
      ∃ field behind grown, cursor = frame field ++ behind ∧ fields.length < 128 ∧
        insertField fields field = .ok grown ∧
        fieldRound fields cursor = (.returned (.inl grown), behind) := by
  -- The cases are the branches of a round.
  by_cases empty : cursor = []
  · subst empty
    exact .inl ⟨rfl, rfl⟩
  by_cases full : 128 ≤ fields.length
  · exact .inr (.inl ⟨_, _, fieldRound_full full empty⟩)
  have few := Nat.not_le.mp full
  rcases readFrame_slice_cases maxServiceHeader cursor with
    ⟨field, behind, short, _, rfl⟩ | ⟨error, after, failed⟩
  · cases inserted : insertField fields field with
    | ok grown =>
      exact .inr (.inr ⟨field, behind, grown, rfl, few, inserted,
        fieldRound_added few short inserted⟩)
    | error error => exact .inr (.inl ⟨_, _, fieldRound_refused few short inserted⟩)
  · refine .inr (.inl ⟨error, after, ?_⟩)
    rw [fieldRound_some few empty, bind_failed failed]

/-- Every round that is not the last one leaves a shorter rest. -/
theorem fieldRound_shrinks (fields : List (Text × Text)) (cursor : Bytes)
    (next : List (Text × Text)) (after : Bytes)
    (ran : fieldRound fields cursor = (.returned (.inl next), after)) :
    after.length < cursor.length := by
  -- A round that goes on has read a field.
  rcases fieldRound_cases fields cursor with ⟨_, ended⟩ | ⟨_, _, failed⟩ |
    ⟨field, behind, grown, rfl, _, _, went⟩
  · rw [ended] at ran
    cases ran
  · rw [failed] at ran
    cases ran
  · rw [went] at ran
    cases ran
    rw [List.length_append, frame_length]
    omega

end Rounds

/-- Read on, when some fields have been read. -/
def readFieldsFrom (fields : List (Text × Text)) :
    Dialogue Bytes WifiProvisioningError (List (Text × Text)) :=
  repeatUntil List.length fieldRound fields

section Reading

variable {fields grown : List (Text × Text)} {cursor behind after : Bytes}
  {error : WifiProvisioningError}

/-- At the end of the body the fields are complete. -/
theorem readFieldsFrom_nil : readFieldsFrom fields [] = (.returned fields, []) := by
  -- The first round is the last one.
  unfold readFieldsFrom
  rw [repeatUntil_eq fieldRound_shrinks,
    bind_returned (rfl : fieldRound fields [] = (.returned (.inr fields), []))]
  rfl

/-- Reading goes on behind a field that has been added. -/
theorem readFieldsFrom_added
    (went : fieldRound fields cursor = (.returned (.inl grown), behind)) :
    readFieldsFrom fields cursor = readFieldsFrom grown behind := by
  -- The round is the first of the loop.
  unfold readFieldsFrom
  rw [repeatUntil_eq fieldRound_shrinks, bind_returned went]

/-- Reading fails where a round does. -/
theorem readFieldsFrom_failed (failed : fieldRound fields cursor = (.failed error, after)) :
    readFieldsFrom fields cursor = (.failed error, after) := by
  -- The round is the first of the loop.
  unfold readFieldsFrom
  rw [repeatUntil_eq fieldRound_shrinks, bind_failed failed]

/-- The loop comes to an end on every body. -/
theorem readFieldsFrom_ends (fields : List (Text × Text)) (cursor : Bytes) :
    (readFieldsFrom fields cursor).1 ≠ .waiting := by
  -- The induction is on the length of what is left.
  induction size : cursor.length using Nat.strongRecOn generalizing fields cursor with
  | _ size ih =>
    rcases fieldRound_cases fields cursor with ⟨rfl, _⟩ | ⟨_, _, failed⟩ |
      ⟨field, behind, grown, _, _, _, went⟩
    · rw [readFieldsFrom_nil]
      intro waits
      cases waits
    · rw [readFieldsFrom_failed failed]
      intro waits
      cases waits
    · rw [readFieldsFrom_added went]
      exact ih behind.length (size ▸ fieldRound_shrinks _ _ _ _ went) grown behind rfl

end Reading

section WellNamed

variable {fields others : List (Text × Text)} {field : Text × Text}

/-- The order of the fields does not matter. -/
theorem WellNamed.reverse (wellNamed : WellNamed fields) : WellNamed fields.reverse where
  -- The order does not matter.
  named := fun field member => wellNamed.named field (List.mem_reverse.mp member)
  distinct := by
    rw [List.map_reverse]
    exact List.nodup_reverse.mpr wellNamed.distinct

/-- The fields at the front of well-named fields are well-named. -/
theorem WellNamed.front (wellNamed : WellNamed (fields ++ others)) : WellNamed fields where
  -- The names of all fields are different.
  named := fun field member => wellNamed.named field (List.mem_append_left _ member)
  distinct := by
    have distinct := wellNamed.distinct
    rw [List.map_append] at distinct
    exact (List.nodup_append.mp distinct).1

/-- A field with a new name can be put in front. -/
theorem WellNamed.cons (wellNamed : WellNamed fields) (named : '=' ∉ field.1)
    (free : field.1 ∉ fields.map Prod.fst) : WellNamed (field :: fields) where
  -- The new name is different from the others.
  named := List.forall_mem_cons.mpr ⟨named, wellNamed.named⟩
  distinct := by
    rw [List.map_cons]
    exact List.nodup_cons.mpr ⟨free, wellNamed.distinct⟩

/-- The last of well-named fields has a name that the fields before it do not have. -/
theorem WellNamed.last (wellNamed : WellNamed (fields ++ [field])) :
    '=' ∉ field.1 ∧ field.1 ∉ fields.map Prod.fst := by
  -- The names before it are not repeated.
  refine ⟨wellNamed.named field (by simp), fun taken => ?_⟩
  have distinct := wellNamed.distinct
  rw [List.map_append, List.map_singleton] at distinct
  exact (List.nodup_append.mp distinct).2.2 field.1 taken field.1 (by simp) rfl

end WellNamed

section Layouts

variable {fields done added : List (Text × Text)}

/-- The first field stands in front of the others. -/
theorem fieldsLayout_cons {field : Text × Text} :
    fieldsLayout (field :: fields) = frame (fieldText field).utf8 ++ fieldsLayout fields :=
  List.flatMap_cons

/-- Fields behind one another are read one after another, and added to those in front. -/
theorem readFieldsFrom_layout (behind : Bytes) (wellNamed : WellNamed (done ++ added))
    (few : (done ++ added).length ≤ 128) (short : (fieldsLayout added).length ≤ maxServiceHeader) :
    readFieldsFrom done.reverse (fieldsLayout added ++ behind) =
      readFieldsFrom (done ++ added).reverse behind := by
  -- The induction is on the fields that are still to be read.
  induction added generalizing done with
  | nil => simp [fieldsLayout]
  | cons field added ih =>
    have next : done ++ field :: added = (done ++ [field]) ++ added := by simp
    rw [next] at wellNamed few ⊢
    rw [fieldsLayout_cons] at short ⊢
    rw [List.length_append, frame_length] at short
    obtain ⟨named, free⟩ := wellNamed.front.last
    -- The field has a new name, so it is added.
    have inserted : insertField done.reverse (fieldText field).utf8 =
        .ok (field :: done.reverse) :=
      insertField_ok.mpr ⟨field, rfl, named, by simpa using free, rfl⟩
    have room : done.reverse.length < 128 := by
      simp only [List.length_append, List.length_singleton] at few
      rw [List.length_reverse]
      omega
    rw [List.append_assoc,
      readFieldsFrom_added (fieldRound_added room (by omega) inserted)]
    have turned : field :: done.reverse = (done ++ [field]).reverse := by simp
    rw [turned]
    exact ih wellNamed few (by omega)

/-- Only well-named fields are read from a body, and they make up the body. -/
theorem readFieldsFrom_returned {fields grown : List (Text × Text)} {cursor : Bytes}
    (wellNamed : WellNamed fields) (few : fields.length ≤ 128)
    (returned : (readFieldsFrom fields cursor).1 = .returned grown) :
    WellNamed grown ∧ grown.length ≤ 128 ∧
      ∃ added, grown = added.reverse ++ fields ∧ cursor = fieldsLayout added := by
  -- The induction is on the length of what is left.
  induction size : cursor.length using Nat.strongRecOn generalizing fields cursor with
  | _ size ih =>
    rcases fieldRound_cases fields cursor with ⟨rfl, _⟩ | ⟨_, _, failed⟩ |
      ⟨field, behind, next, rfl, room, inserted, went⟩
    · rw [readFieldsFrom_nil] at returned
      cases returned
      exact ⟨wellNamed, few, [], rfl, rfl⟩
    · rw [readFieldsFrom_failed failed] at returned
      cases returned
    · rw [readFieldsFrom_added went] at returned
      have shorter := fieldRound_shrinks _ _ _ _ went
      obtain ⟨first, rfl, named, free, rfl⟩ := insertField_ok.mp inserted
      -- The first field is followed by those of the rest.
      obtain ⟨whole, count, added, rfl, rfl⟩ := ih behind.length (size ▸ shorter)
        (wellNamed.cons named free) (by rw [List.length_cons]; omega) returned rfl
      exact ⟨whole, count, first :: added, by simp, fieldsLayout_cons.symm⟩

end Layouts

section Bodies

variable {body : Bytes} {fields : List (Text × Text)}

/-- The fields of a header are read, the last of them first. -/
theorem readFields_of_header (short : body.length ≤ maxServiceHeader)
    (header : HeaderBody body fields) : (readFields body).1 = .returned fields.reverse := by
  -- All fields are read, and nothing is left.
  obtain ⟨rfl, few, wellNamed⟩ := header
  rw [← List.nil_append fields] at wellNamed few
  have all := readFieldsFrom_layout [] wellNamed few short
  rw [List.append_nil, List.nil_append, readFieldsFrom_nil] at all
  exact congrArg Prod.fst all

/-- A body whose fields are read consists of them. -/
theorem header_of_readFields (returned : (readFields body).1 = .returned fields) :
    HeaderBody body fields.reverse := by
  -- No field has been read before.
  have none : WellNamed [] := ⟨by simp, by simp⟩
  obtain ⟨wellNamed, few, added, rfl, rfl⟩ := readFieldsFrom_returned none (by simp) returned
  rw [List.append_nil] at wellNamed few ⊢
  rw [List.reverse_reverse]
  have turned := wellNamed.reverse
  rw [List.reverse_reverse] at turned
  rw [List.length_reverse] at few
  exact ⟨rfl, few, turned⟩

/-- Bytes that are not text are not added. -/
theorem insertField_invalid {field : Bytes} (invalid : Text.ofUtf8 field = none) :
    insertField fields field = .error (.protocol "invalid ROS service header encoding") := by
  rw [insertField, invalid]

/-- A text without a separator is not added. -/
theorem insertField_unsplit {field : Text} (missing : '=' ∉ field) :
    insertField fields field.utf8 = .error (.protocol "invalid ROS service header field") := by
  -- The text is converted, but it has no name.
  unfold insertField
  rw [Text.ofUtf8_eq_some.mpr rfl]
  dsimp only
  rw [Text.splitOnce_eq_none.mpr missing]

/-- A field whose name is taken is not added. -/
theorem insertField_taken {field : Text × Text} (named : '=' ∉ field.1)
    (taken : field.1 ∈ fields.map Prod.fst) :
    insertField fields (fieldText field).utf8 =
      .error (.protocol "duplicate ROS service header field") := by
  -- The text is split into the name and the value.
  unfold insertField
  rw [Text.ofUtf8_eq_some.mpr rfl]
  dsimp only
  have split : (fieldText field).splitOnce '=' = some (field.1, field.2) :=
    Text.splitOnce_eq_some.mpr ⟨rfl, named⟩
  rw [split]
  dsimp only
  rw [if_pos (lookup_isSome.mpr taken)]

/-- A body is refused for its first defect. -/
theorem readFields_of_defect (short : body.length ≤ maxServiceHeader) {message : String}
    (defect : FirstDefect body message) :
    (readFields body).1 = .failed (.protocol message) := by
  -- The fields in front of the defect are read first.
  have reached : ∀ {before : List (Text × Text)} {behind : Bytes}, WellNamed before →
      before.length ≤ 128 → body = fieldsLayout before ++ behind →
      readFields body = readFieldsFrom before.reverse behind := by
    intro before behind wellNamed few whole
    rw [whole, List.length_append] at short
    rw [← List.nil_append before] at wellNamed few
    have all := readFieldsFrom_layout behind wellNamed few (by omega)
    rw [whole]
    exact all
  have refused : ∀ {before : List (Text × Text)} {field behind : Bytes}, WellNamed before →
      before.length < 128 → body = fieldsLayout before ++ frame field ++ behind →
      insertField before.reverse field = .error (.protocol message) →
      (readFields body).1 = .failed (.protocol message) := by
    intro before field behind wellNamed few whole error
    rw [List.append_assoc] at whole
    have fits : field.length ≤ maxServiceHeader := by
      rw [whole] at short
      simp only [List.length_append, frame_length] at short
      omega
    rw [reached wellNamed (Nat.le_of_lt few) whole, readFieldsFrom_failed
      (fieldRound_refused (by rw [List.length_reverse]; exact few) fits error)]
  cases defect with
  | encoding wellNamed few whole invalid =>
    exact refused wellNamed few whole (insertField_invalid invalid)
  | separator wellNamed few whole missing =>
    exact refused wellNamed few whole (insertField_unsplit missing)
  | duplicate wellNamed few whole named taken =>
    exact refused wellNamed few whole (insertField_taken named (by simpa using taken))
  | count wellNamed full whole more =>
    rw [reached wellNamed (Nat.le_of_eq full) whole, readFieldsFrom_failed
      (fieldRound_full (by rw [List.length_reverse, full]) more)]

end Bodies

/-- Fields that come from the service that is meant. -/
structure Compatible (fields : List (Text × Text)) : Prop where
  unfailed : "error".toList ∉ fields.map Prod.fst
  supported : ("md5sum".toList, serviceMd5) ∈ fields
  typed : ∀ value, ("type".toList, value) ∈ fields → value = serviceType

section Compatibility

variable {fields : List (Text × Text)}

/-- The service's own error is reported whatever else the fields say. -/
theorem checkFields_failed (named : "error".toList ∈ fields.map Prod.fst) :
    checkFields fields = .error .serviceFailed := by
  rw [checkFields, if_pos (lookup_isSome.mpr named)]

/-- Fields pass the check exactly if they come from the service that is meant. -/
theorem checkFields_ok (distinct : (fields.map Prod.fst).Nodup) :
    checkFields fields = .ok () ↔ Compatible fields := by
  -- The checks are gone through in their order.
  by_cases failed : "error".toList ∈ fields.map Prod.fst
  · rw [checkFields_failed failed]
    exact iff_of_false (fun same => by cases same) fun compatible => compatible.unfailed failed
  rw [checkFields, if_neg fun found => failed (lookup_isSome.mp found)]
  by_cases supported : fields.lookup "md5sum".toList = some serviceMd5
  · rw [if_neg (not_not_intro supported)]
    have listed := (lookup_eq_some distinct).mp supported
    by_cases foreign : ((fields.lookup "type".toList).any fun value => value ≠ serviceType) = true
    · rw [if_pos foreign]
      refine iff_of_false (fun same => by cases same) fun compatible => ?_
      obtain ⟨value, found, other⟩ := (Option.any_eq_true _ _).mp foreign
      exact of_decide_eq_true other (compatible.typed value ((lookup_eq_some distinct).mp found))
    · rw [if_neg foreign]
      refine iff_of_true rfl ⟨failed, listed, fun value member => ?_⟩
      rw [(lookup_eq_some distinct).mpr member] at foreign
      simpa using foreign
  · rw [if_pos supported]
    exact iff_of_false (fun same => by cases same) fun compatible =>
      supported ((lookup_eq_some distinct).mpr compatible.supported)

/-- The order of the fields does not matter. -/
theorem compatible_reverse : Compatible fields.reverse ↔ Compatible fields := by
  -- The same fields are listed.
  constructor
  · intro compatible
    obtain ⟨unfailed, supported, typed⟩ := compatible
    exact ⟨by simpa using unfailed, by simpa using supported, by simpa using typed⟩
  · intro compatible
    obtain ⟨unfailed, supported, typed⟩ := compatible
    exact ⟨by simpa using unfailed, by simpa using supported, by simpa using typed⟩

end Compatibility

end Scout.Wifi
