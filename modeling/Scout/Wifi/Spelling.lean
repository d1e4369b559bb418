import Scout.Stream.TextParts
import Scout.Stream.Utf8
import Scout.Wifi.Endpoint

/-! How the texts are spelled that are accepted as the master's address and as a node's name. -/

namespace Scout.Wifi

open Text

/-- A character that is neither a space, nor a control character, nor beyond seven bits. -/
def IsVisible (char : Char) : Prop := 32 < char.toNat ∧ char.toNat < 127

namespace Endpoint

/-- What is known of an address that was accepted. -/
structure Spelled (endpoint : Endpoint) (scheme uri : Text) : Prop where
  whole : (uri = scheme ++ endpoint.authority ∧ endpoint.path = ['/']) ∨
    uri = scheme ++ (endpoint.authority ++ endpoint.path)
  root : ∃ below, endpoint.path = '/' :: below
  separate : '/' ∉ endpoint.authority
  ported : ':' ∈ endpoint.authority
  visible : (∀ char ∈ endpoint.authority, IsVisible char) ∧ ∀ char ∈ endpoint.path, IsVisible char

/-- An authority is only accepted with a port. -/
theorem ported_of_parseAuthority {authority host port : Text}
    (accepted : parseAuthority authority = .ok (host, port)) : ':' ∈ authority := by
  -- With brackets the colon follows them, and without it is the last one.
  unfold parseAuthority at accepted
  cases bracket : authority.stripPrefix ['['] with
  | some bracketed =>
    rw [bracket] at accepted
    rw [stripPrefix_eq_some] at bracket
    cases closed : splitOnce ']' bracketed with
    | none => simp [closed] at accepted
    | some parts =>
      obtain ⟨inside, tail⟩ := parts
      by_cases invalid : (IpAddr.parseV6 inside).isNone = true
      · simp [closed, invalid] at accepted
      · cases colon : tail.stripPrefix [':'] with
        | none => simp [closed, invalid, colon] at accepted
        | some port =>
          rw [bracket, (splitOnce_eq_some.mp closed).1, stripPrefix_eq_some.mp colon]
          simp
  | none =>
    rw [bracket] at accepted
    cases split : authority.rsplitOnce ':' with
    | none => simp [split] at accepted
    | some parts =>
      obtain ⟨before, after⟩ := parts
      rw [(rsplitOnce_eq_some.mp split).1]
      simp

/-- The authority and the path that follow the scheme. -/
def separated (rest : Text) : Text × Text :=
  match rest.splitOnce '/' with
  | none => (rest, ['/'])
  | some (authority, path) => (authority, '/' :: path)

/-- Authority and path make up what follows the scheme, unless there is no path. -/
theorem separated_spec (rest : Text) :
    ((rest = (separated rest).1 ∧ (separated rest).2 = ['/']) ∨
      rest = (separated rest).1 ++ (separated rest).2) ∧
      (∃ below, (separated rest).2 = '/' :: below) ∧ '/' ∉ (separated rest).1 := by
  -- The first slash begins the path.
  unfold separated
  cases split : rest.splitOnce '/' with
  | none => exact ⟨.inl ⟨rfl, rfl⟩, ⟨[], rfl⟩, splitOnce_eq_none.mp split⟩
  | some parts =>
    obtain ⟨whole, absent⟩ := splitOnce_eq_some.mp split
    exact ⟨.inr whole, ⟨parts.2, rfl⟩, absent⟩

/-- An accepted address is separated into its authority and its path. -/
theorem separated_of_parse {uri scheme : Text} {allowPath : Bool} {endpoint : Endpoint}
    (accepted : parse uri scheme allowPath = .ok endpoint) :
    (∀ byte ∈ uri.utf8, 32 < byte.toNat ∧ byte.toNat < 127) ∧
      ∃ rest, uri = scheme ++ rest ∧ (endpoint.authority, endpoint.path) = separated rest ∧
        ':' ∈ endpoint.authority := by
  unfold parse at accepted
  by_cases refused : 2048 < uri.utf8.length ∨ uri.utf8.any (fun byte => byte ≤ 32 || 127 ≤ byte)
  · rw [if_pos refused] at accepted
    cases accepted
  rw [if_neg refused] at accepted
  refine ⟨fun byte member => ?_, ?_⟩
  · -- No byte is a space, a control character or beyond seven bits.
    have passed := (not_or.mp refused).2
    simp only [List.any_eq_true, not_exists, not_and, Bool.or_eq_true, decide_eq_true_eq,
      not_or, UInt8.le_iff_toNat_le] at passed
    have bounds := passed byte member
    simp at bounds
    omega
  · cases stripped : uri.stripPrefix scheme with
    | none => simp [stripped] at accepted
    | some rest =>
      refine ⟨rest, stripPrefix_eq_some.mp stripped, ?_⟩
      rw [stripped] at accepted
      dsimp only at accepted
      unfold separated
      cases split : rest.splitOnce '/'
      all_goals
        rw [split] at accepted
        dsimp only at accepted ⊢
        split at accepted
        · cases accepted
        split at accepted
        · cases accepted
        rename_i host port found
        split at accepted
        · cases accepted
        split at accepted
        · cases accepted
        cases accepted
        exact ⟨rfl, ported_of_parseAuthority found⟩

/-- An accepted address is spelled as its parts say. -/
theorem spelled_of_parse {uri scheme : Text} {allowPath : Bool} {endpoint : Endpoint}
    (accepted : parse uri scheme allowPath = .ok endpoint) : endpoint.Spelled scheme uri := by
  obtain ⟨allowed, rest, rfl, parts, ported⟩ := separated_of_parse accepted
  obtain ⟨whole, root, separate⟩ := separated_spec rest
  rw [← parts] at whole root separate
  dsimp only at whole root separate
  -- Every character of the address is visible, and the slash that may be added is, too.
  have visible : ∀ char ∈ scheme ++ rest, IsVisible char :=
    @forall_of_utf8 _ (fun value => 32 < value ∧ value < 127) allowed fun value bounds => by omega
  have slash : IsVisible '/' := ⟨by decide, by decide⟩
  refine ⟨?_, root, separate, ported, ?_⟩
  · rcases whole with ⟨same, path⟩ | same
    · exact .inl ⟨by rw [← same], path⟩
    · exact .inr (by rw [← same])
  · rcases whole with ⟨same, path⟩ | same
    · rw [path]
      refine ⟨fun char member => ?_, by simpa using slash⟩
      rw [← same] at member
      exact visible char (List.mem_append_right _ member)
    · rw [same] at visible
      exact ⟨fun char member => visible char (by simp [member]),
        fun char member => visible char (by simp [member])⟩

end Endpoint

/-- A letter, a digit, a slash, or an underscore, by its code. -/
def IsNameCode (code : Nat) : Prop :=
  (48 ≤ code ∧ code ≤ 57) ∨ (65 ≤ code ∧ code ≤ 90) ∨ (97 ≤ code ∧ code ≤ 122) ∨ code = 47 ∨ code = 95

/-- A text that begins with a slash. -/
def rooted (name : Text) : Text :=
  if name.head? = some '/' then name else '/' :: name

/-- An accepted name is made of letters, digits, slashes and underscores, and given a slash. -/
theorem spelled_of_callerId {name caller : Text} (accepted : callerId name = .ok caller) :
    caller = rooted name ∧ ∀ char ∈ caller, IsNameCode char.toNat := by
  unfold callerId at accepted
  split at accepted
  · cases accepted
  rename_i passed
  cases accepted
  have bytes := (not_or.mp (not_or.mp passed).2).2
  have allowed : ∀ byte ∈ name.utf8, IsNameCode byte.toNat := by
    intro byte member
    simp only [Bool.not_eq_true, Bool.not_eq_false', List.all_eq_true] at bytes
    have kind := bytes byte member
    simp only [isAsciiAlphanumeric, Bool.or_eq_true, Bool.and_eq_true, decide_eq_true_eq,
      beq_iff_eq, UInt8.le_iff_toNat_le, ← UInt8.toNat_inj] at kind
    unfold IsNameCode
    simp at kind
    omega
  -- The slash that may be added is a character of names itself.
  have chars := forall_of_utf8 allowed fun value kind => by unfold IsNameCode at kind; omega
  refine ⟨rfl, fun char member => ?_⟩
  split at member
  · exact chars char member
  · rcases List.mem_cons.mp member with rfl | inside
    · exact .inr (.inr (.inr (.inl rfl)))
    · exact chars char inside

end Scout.Wifi
