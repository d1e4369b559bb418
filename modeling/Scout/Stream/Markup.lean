import Scout.Stream.Text

/-! Marked-up text as tags and the texts between them, and how they are read back. -/

namespace Scout.Stream

/-- A tag, or a text that is not one. -/
inductive Token where
  | tag (content : Text)
  | text (content : Text)
  deriving DecidableEq

namespace Token

/-- The characters of a token. -/
def render : Token → Text
  | tag content => '<' :: content ++ ['>']
  | text content => content

/-- The characters of some tokens, one after another. -/
def renderAll (tokens : List Token) : Text :=
  tokens.flatMap render

/-- The text that has been read outside of tags, if any. -/
def flush (run : Text) : List Token :=
  if run.isEmpty then [] else [text run]

/-- Read tokens, inside of a tag or outside, where a beginning has been read. -/
def scan : Bool → Text → Text → Option (List Token)
  | false, run, [] => some (flush run)
  | true, _, [] => none
  | false, run, char :: rest =>
    if char = '<' then (scan true [] rest).map (flush run ++ ·)
    else if char = '>' then none
    else scan false (run ++ [char]) rest
  | true, run, char :: rest =>
    if char = '>' then (scan false [] rest).map (tag run :: ·)
    else if char = '<' then none
    else scan true (run ++ [char]) rest

/-- The tokens of a text, if all its tags are closed. -/
def readAll (markup : Text) : Option (List Token) :=
  scan false [] markup

/-- A text that neither begins nor ends a tag. -/
def Unmarked (content : Text) : Prop := '<' ∉ content ∧ '>' ∉ content

instance (content : Text) : Decidable (Unmarked content) :=
  inferInstanceAs (Decidable (_ ∧ _))

/-- A token that is read back. -/
def Plain : Token → Prop
  | tag content => Unmarked content
  | text content => Unmarked content ∧ content ≠ []

instance : DecidablePred Plain
  | tag content => inferInstanceAs (Decidable (Unmarked content))
  | text content => inferInstanceAs (Decidable (Unmarked content ∧ content ≠ []))

/-- Texts are told apart by the tags between them. -/
def Separate : Token → Token → Prop
  | text _, text _ => False
  | _, _ => True

/-- Unmarked characters are added to what has been read. -/
theorem scan_unmarked {inside : Bool} {run content rest : Text} (plain : Unmarked content) :
    scan inside run (content ++ rest) = scan inside (run ++ content) rest := by
  -- The induction is on the characters that are added.
  induction content generalizing run with
  | nil => rw [List.append_nil, List.nil_append]
  | cons char others ih =>
    have opens : char ≠ '<' := fun same => plain.1 (same ▸ List.mem_cons_self)
    have closes : char ≠ '>' := fun same => plain.2 (same ▸ List.mem_cons_self)
    have later : Unmarked others := ⟨fun member => plain.1 (List.mem_cons_of_mem _ member),
      fun member => plain.2 (List.mem_cons_of_mem _ member)⟩
    have next : scan inside run (char :: (others ++ rest)) =
        scan inside (run ++ [char]) (others ++ rest) := by
      cases inside with
      | false => rw [scan, if_neg opens, if_neg closes]
      | true => rw [scan, if_neg closes, if_neg opens]
    rw [List.cons_append, next, ih later, List.append_assoc, List.singleton_append]

/-- A tag is read behind what has been read outside of tags. -/
theorem scan_tag {run content rest : Text} (plain : Unmarked content) :
    scan false run (render (tag content) ++ rest) =
      (scan false [] rest).map (flush run ++ tag content :: ·) := by
  -- The tag is opened, its content is read, and it is closed.
  have spelled : render (tag content) ++ rest = '<' :: (content ++ '>' :: rest) := by
    simp [render]
  rw [spelled, scan, if_pos rfl, scan_unmarked plain, List.nil_append, scan, if_pos rfl,
    Option.map_map]
  rfl

/-- Tokens are read back behind a text that has been begun and that no other text follows. -/
theorem scan_renderAll {run : Text} {tokens : List Token} (plain : ∀ token ∈ tokens, token.Plain)
    (separate : tokens.IsChain Separate)
    (behind : run = [] ∨ (text run :: tokens).IsChain Separate) :
    scan false run (renderAll tokens) = some (flush run ++ tokens) := by
  -- The induction is on the tokens that are still to be read.
  induction tokens generalizing run with
  | nil => rw [List.append_nil]; rfl
  | cons token rest ih =>
    have first := plain token List.mem_cons_self
    have later := fun other member => plain other (List.mem_cons_of_mem token member)
    have spelled : renderAll (token :: rest) = token.render ++ renderAll rest := List.flatMap_cons
    rw [spelled]
    cases token with
    | tag content =>
      rw [scan_tag first, ih later separate.of_cons (.inl rfl)]
      rfl
    | text content =>
      -- Another text would have been separated by a tag.
      have fresh : run = [] := behind.resolve_right fun chain =>
        (List.isChain_cons_cons.mp chain).1
      subst fresh
      have whole : flush content = [text content] := by
        simp [flush, first.2]
      rw [render, scan_unmarked first.1, List.nil_append, ih later separate.of_cons (.inr separate),
        whole]
      rfl

/-- Tokens are read back from their characters. -/
theorem readAll_renderAll {tokens : List Token} (plain : ∀ token ∈ tokens, token.Plain)
    (separate : tokens.IsChain Separate) : readAll (renderAll tokens) = some tokens :=
  scan_renderAll plain separate (.inl rfl)

end Token
end Scout.Stream
