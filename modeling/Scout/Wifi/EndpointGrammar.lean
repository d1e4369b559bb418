import Scout.Wifi.AddressText
import Scout.Wifi.Spelling

/-! The grammar of the addresses that are accepted, and which parts they are taken apart into. -/

namespace Scout.Wifi.Endpoint

open Text IpAddr

/-- A letter, a digit, a dot, a hyphen or an underscore. -/
def IsHostChar (char : Char) : Prop :=
  char.isAlphanum = true ∨ char = '.' ∨ char = '-' ∨ char = '_'

instance : DecidablePred IsHostChar := fun char =>
  inferInstanceAs (Decidable (char.isAlphanum = true ∨ char = '.' ∨ char = '-' ∨ char = '_'))

/-- A host with the text of a port behind it. -/
inductive Authority : (authority host port : Text) → Prop
  | name {host port : Text} (some : host ≠ []) (plain : ∀ char ∈ host, IsHostChar char) :
      Authority (host ++ ':' :: port) host port
  | address {host port : Text} (address : (parseV6 host).isSome = true) :
      Authority ('[' :: (host ++ ']' :: ':' :: port)) host port

/-- The path behind an authority: there is none, or it begins with a slash. -/
structure PathText (allowPath : Bool) (path : Text) : Prop where
  rooted : path = [] ∨ ∃ below, path = '/' :: below
  queryless : '?' ∉ path ∧ '#' ∉ path
  allowed : allowPath = false → path = [] ∨ path = ['/']

/-- An address with the parts it is made of, for a given grammar of ports. -/
structure Denotes (Port : Text → Nat → Prop) (scheme : Text) (allowPath : Bool) (uri : Text)
    (endpoint : Endpoint) : Prop where
  small : uri.utf8.length ≤ 2048
  visible : ∀ byte ∈ uri.utf8, 33 ≤ byte.toNat ∧ byte.toNat ≤ 126
  whole : ∃ path, uri = scheme ++ endpoint.authority ++ path ∧ PathText allowPath path ∧
    endpoint.path = if path.isEmpty then ['/'] else path
  reached : ∃ port, Authority endpoint.authority endpoint.host port ∧
    Port port endpoint.port.toNat ∧ endpoint.port ≠ 0

section Characters

variable {authority host port : Text} {number : Nat}

/-- The codes of the characters of hosts. -/
def IsHostCode (code : Nat) : Prop :=
  (48 ≤ code ∧ code ≤ 57) ∨ (65 ≤ code ∧ code ≤ 90) ∨ (97 ≤ code ∧ code ≤ 122) ∨ code = 46 ∨
    code = 45 ∨ code = 95

/-- The characters of hosts are told by their codes. -/
theorem isHostChar_iff {char : Char} : IsHostChar char ↔ IsHostCode char.toNat := by
  have same : ∀ other : Char, char = other ↔ char.toNat = other.toNat := fun other =>
    ⟨congrArg Char.toNat, fun equal => Char.toNat_inj.mp equal⟩
  -- The letters and digits stand in three rows.
  have alphanumeric : char.isAlphanum = true ↔ (48 ≤ char.toNat ∧ char.toNat ≤ 57) ∨
      (65 ≤ char.toNat ∧ char.toNat ≤ 90) ∨ (97 ≤ char.toNat ∧ char.toNat ≤ 122) := by
    show ((decide (65 ≤ char.val ∧ char.val ≤ 90) || 97 ≤ char.val && char.val ≤ 122) ||
      48 ≤ char.val && char.val ≤ 57) = true ↔ (48 ≤ char.val.toNat ∧ char.val.toNat ≤ 57) ∨
      (65 ≤ char.val.toNat ∧ char.val.toNat ≤ 90) ∨ (97 ≤ char.val.toNat ∧ char.val.toNat ≤ 122)
    simp only [Bool.or_eq_true, Bool.and_eq_true, decide_eq_true_eq, UInt32.le_iff_toNat_le]
    simp
    omega
  unfold IsHostChar IsHostCode
  rw [alphanumeric, same, same, same]
  simp only [or_assoc]
  rfl

/-- A host is accepted exactly if its characters are such. -/
theorem host_bytes_iff : (host.utf8.all fun byte =>
    isAsciiAlphanumeric byte || (byte == 46 || byte == 45 || byte == 95)) = true ↔
      ∀ char ∈ host, IsHostChar char := by
  -- Each character is one byte, with its code.
  have bytes : ∀ byte : UInt8, (isAsciiAlphanumeric byte ||
      (byte == 46 || byte == 45 || byte == 95)) = true ↔ IsHostCode byte.toNat := by
    intro byte
    simp only [isAsciiAlphanumeric, Bool.or_eq_true, Bool.and_eq_true, decide_eq_true_eq,
      beq_iff_eq, UInt8.le_iff_toNat_le, ← UInt8.toNat_inj]
    unfold IsHostCode
    simp
    omega
  simp only [List.all_eq_true, bytes, isHostChar_iff]
  exact forall_utf8_iff fun value kind => by
    unfold IsHostCode at kind
    omega

/-- The text of a number has nothing but digits and perhaps a plus sign. -/
theorem not_mem_signed {char : Char} (signed : Signed port number) (plus : char ≠ '+')
    (digitless : char.isDigit = false) : char ∉ port := by
  -- Every character of the digits is a digit.
  intro member
  obtain ⟨digits, rfl | rfl, decimal⟩ := signed
  · rw [decimal.kinds char member] at digitless
    cases digitless
  · rcases List.mem_cons.mp member with same | inside
    · exact plus same
    · rw [decimal.kinds char inside] at digitless
      cases digitless

/-- A character that no part of an authority can have does not stand in an authority. -/
theorem Authority.not_mem {char : Char} (whole : Authority authority host port)
    (portless : char ∉ port) (hostless : ¬ IsHostChar char) (addressless : ¬ IsAddressChar char)
    (plain : char ∉ ['[', ']', ':']) : char ∉ authority := by
  -- The cases are those of the host.
  simp only [List.mem_cons, List.not_mem_nil, or_false, not_or] at plain
  obtain ⟨opening, closing, colon⟩ := plain
  intro member
  cases whole with
  | name some kinds =>
    rcases List.mem_append.mp member with inside | behind
    · exact hostless (kinds char inside)
    · exact (List.mem_cons.mp behind).elim colon portless
  | address address =>
    rcases List.mem_cons.mp member with same | member
    · exact opening same
    rcases List.mem_append.mp member with inside | behind
    · exact addressless (isAddressChar_of_parseV6 address char inside)
    rcases List.mem_cons.mp behind with same | behind
    · exact closing same
    · exact (List.mem_cons.mp behind).elim colon portless

end Characters

section Authorities

variable {authority host port : Text}

/-- What is taken apart is an authority. -/
theorem authority_of_parse (accepted : parseAuthority authority = .ok (host, port)) :
    Authority authority host port := by
  -- The two cases are an address in brackets and a name.
  unfold parseAuthority at accepted
  cases bracket : authority.stripPrefix ['['] with
  | some bracketed =>
    rw [bracket] at accepted
    cases closed : splitOnce ']' bracketed with
    | none => simp [closed] at accepted
    | some parts =>
      obtain ⟨inside, tail⟩ := parts
      by_cases invalid : (parseV6 inside).isNone = true
      · simp [closed, invalid] at accepted
      · cases colon : tail.stripPrefix [':'] with
        | none => simp [closed, invalid, colon] at accepted
        | some behind =>
          simp only [closed, invalid, colon] at accepted
          cases accepted
          rw [stripPrefix_eq_some.mp bracket, (splitOnce_eq_some.mp closed).1,
            stripPrefix_eq_some.mp colon]
          refine .address ?_
          rwa [Bool.not_eq_true, Option.isNone_eq_false_iff] at invalid
  | none =>
    rw [bracket] at accepted
    cases split : authority.rsplitOnce ':' with
    | none => simp [split] at accepted
    | some parts =>
      obtain ⟨before, after⟩ := parts
      simp only [split] at accepted
      split at accepted
      · cases accepted
      · rename_i passed
        cases accepted
        rw [not_or, Bool.not_eq_true, Bool.not_eq_true, Bool.not_eq_false'] at passed
        rw [(rsplitOnce_eq_some.mp split).1]
        exact .name (List.isEmpty_eq_false_iff.mp passed.1) (host_bytes_iff.mp passed.2)

/-- A text that begins with a character of a host does not begin with a bracket. -/
theorem stripPrefix_host {rest : Text} (some : host ≠ []) (kinds : ∀ char ∈ host, IsHostChar char) :
    stripPrefix (host ++ rest) ['['] = none := by
  -- A bracket is no character of a name.
  cases stripped : stripPrefix (host ++ rest) ['['] with
  | none => rfl
  | some behind =>
    have begins := stripPrefix_eq_some.mp stripped
    obtain ⟨first, others, rfl⟩ := List.exists_cons_of_ne_nil some
    have opening : first = '[' := (List.cons.inj begins).1
    have bracketless : ¬ IsHostChar '[' := by decide
    exact absurd (opening ▸ kinds first List.mem_cons_self) bracketless

/-- An authority with a name is taken apart. -/
theorem parseAuthority_name (unsplit : ':' ∉ port) (some : host ≠ [])
    (kinds : ∀ char ∈ host, IsHostChar char) :
    parseAuthority (host ++ ':' :: port) = .ok (host, port) := by
  -- There is no bracket, and the last colon comes before the port.
  have split : (host ++ ':' :: port).rsplitOnce ':' = Option.some (host, port) :=
    rsplitOnce_eq_some.mpr ⟨rfl, unsplit⟩
  unfold parseAuthority
  rw [stripPrefix_host some kinds]
  dsimp only
  rw [split]
  dsimp only
  rw [if_neg]
  rw [not_or]
  refine ⟨fun none => some (List.isEmpty_iff.mp none), ?_⟩
  rw [host_bytes_iff.mpr kinds]
  decide

/-- An authority with an address in brackets is taken apart. -/
theorem parseAuthority_address (address : (parseV6 host).isSome = true) :
    parseAuthority ('[' :: (host ++ ']' :: ':' :: port)) = .ok (host, port) := by
  -- The address has no bracket, so the first closing one ends it.
  have addressless : ¬ IsAddressChar ']' := by decide
  have closing : ']' ∉ host := fun member =>
    addressless (isAddressChar_of_parseV6 address ']' member)
  have bracketed : stripPrefix ('[' :: (host ++ ']' :: ':' :: port)) ['['] =
      some (host ++ ']' :: ':' :: port) := stripPrefix_eq_some.mpr rfl
  have split : splitOnce ']' (host ++ ']' :: ':' :: port) = some (host, ':' :: port) :=
    splitOnce_eq_some.mpr ⟨rfl, closing⟩
  have colon : stripPrefix (':' :: port) [':'] = some port := stripPrefix_eq_some.mpr rfl
  unfold parseAuthority
  rw [bracketed]
  dsimp only
  rw [split]
  dsimp only
  rw [if_neg (by rw [Option.isNone_eq_false_iff.mpr address]; decide), colon]

/-- Where a port has no colon, an authority is taken apart exactly as its grammar says. -/
theorem parseAuthority_ok (unsplit : ':' ∉ port) :
    parseAuthority authority = .ok (host, port) ↔ Authority authority host port := by
  -- The two forms of an authority are parsed in different ways.
  constructor
  · exact authority_of_parse
  · intro whole
    cases whole with
    | name some kinds => exact parseAuthority_name unsplit some kinds
    | address address => exact parseAuthority_address address

end Authorities

section Addresses

variable {uri scheme : Text} {allowPath : Bool} {endpoint : Endpoint}

/-- What is checked of the two parts that follow the scheme. -/
structure Checked (allowPath : Bool) (authority path : Text) : Prop where
  anonymous : '@' ∉ authority ∧ '?' ∉ authority ∧ '#' ∉ authority
  queryless : '?' ∉ path ∧ '#' ∉ path
  allowed : allowPath = false → path = ['/']

/-- The checks of the two parts are passed exactly if the parts are as they should be. -/
theorem checked_iff {authority path : Text} :
    ¬ (authority.any (fun char => char == '@' || char == '?' || char == '#') = true ∨
      path.any (fun char => char == '?' || char == '#') = true ∨
        (!allowPath) = true ∧ path ≠ ['/']) ↔ Checked allowPath authority path := by
  -- No character of either part is one of those that are looked for.
  have found : ∀ (text : Text) (char : Char), char ∉ text ↔ ∀ other ∈ text, other ≠ char :=
    fun text char => ⟨fun absent other member same => absent (same ▸ member),
      fun all member => all char member rfl⟩
  simp only [not_or, not_and, List.any_eq_true, not_exists, Bool.or_eq_true, beq_iff_eq,
    Bool.not_eq_true', ne_eq, not_not]
  constructor
  · intro passed
    obtain ⟨authority, path, allowed⟩ := passed
    refine ⟨⟨?_, ?_, ?_⟩, ⟨?_, ?_⟩, allowed⟩
    all_goals rw [found]
    · exact fun other member => (authority other member).1.1
    · exact fun other member => (authority other member).1.2
    · exact fun other member => (authority other member).2
    · exact fun other member => (path other member).1
    · exact fun other member => (path other member).2
  · intro checked
    obtain ⟨⟨user, query, fragment⟩, ⟨pathQuery, pathFragment⟩, allowed⟩ := checked
    rw [found] at user query fragment pathQuery pathFragment
    exact ⟨fun other member => ⟨⟨user other member, query other member⟩, fragment other member⟩,
      fun other member => ⟨pathQuery other member, pathFragment other member⟩, allowed⟩

/-- An endpoint is made of two parts that follow a scheme. -/
structure Made (allowPath : Bool) (parts : Text × Text) (endpoint : Endpoint) : Prop where
  checked : Checked allowPath parts.1 parts.2
  same : endpoint.authority = parts.1 ∧ endpoint.path = parts.2
  reached : ∃ port, parseAuthority parts.1 = .ok (endpoint.host, port) ∧
    port.parseUnsigned 16 = some endpoint.port.toNat ∧ endpoint.port ≠ 0

/-- The endpoint that is made of an authority and a path. -/
def made (allowPath : Bool) (authority path : Text) : Except WifiProvisioningError Endpoint :=
  if authority.any (fun char => char == '@' || char == '?' || char == '#') ∨
      path.any (fun char => char == '?' || char == '#') ∨ (!allowPath ∧ path ≠ ['/']) then
    .error invalid
  else
    match parseAuthority authority with
    | .error error => .error error
    | .ok (host, port) =>
      match port.parseUnsigned 16 with
      | none => .error invalid
      | some port =>
        if port = 0 then .error invalid
        else .ok { host, port := UInt16.ofNat port, authority, path }

/-- Where an authority has been taken apart, an endpoint is reached at these parts. -/
theorem made_iff {authority path host port : Text} (checked : Checked allowPath authority path)
    (split : parseAuthority authority = .ok (host, port)) :
    Made allowPath (authority, path) endpoint ↔
      (endpoint.authority = authority ∧ endpoint.path = path) ∧ endpoint.host = host ∧
        port.parseUnsigned 16 = some endpoint.port.toNat ∧ endpoint.port ≠ 0 := by
  -- The host and the port are found by splitting the authority.
  constructor
  · intro made
    obtain ⟨_, same, other, accepted, reached⟩ := made
    rw [split] at accepted
    cases accepted
    exact ⟨same, rfl, reached⟩
  · intro parts
    obtain ⟨same, rfl, reached⟩ := parts
    exact ⟨checked, same, port, split, reached⟩

/-- An endpoint is made of two parts exactly if these pass the checks. -/
theorem made_ok {authority path : Text} :
    made allowPath authority path = .ok endpoint ↔ Made allowPath (authority, path) endpoint := by
  unfold made
  by_cases refused : authority.any (fun char => char == '@' || char == '?' || char == '#') = true ∨
      path.any (fun char => char == '?' || char == '#') = true ∨ (!allowPath) = true ∧ path ≠ ['/']
  · rw [if_pos refused]
    exact iff_of_false (fun same => by cases same) fun made =>
      checked_iff.mpr made.checked refused
  rw [if_neg refused]
  cases split : parseAuthority authority with
  | error error =>
    refine iff_of_false (fun same => by cases same) fun made => ?_
    obtain ⟨port, accepted, _⟩ := made.reached
    rw [split] at accepted
    cases accepted
  | ok parts =>
    obtain ⟨host, port⟩ := parts
    rw [made_iff (checked_iff.mp refused) split]
    dsimp only
    cases parsed : port.parseUnsigned 16 with
    | none => exact iff_of_false (fun same => by cases same) fun made => by cases made.2.2.1
    | some number =>
      -- The number of the port fits in sixteen bits.
      have fits := (parseUnsigned_eq_some.mp parsed).2
      have value : (UInt16.ofNat number).toNat = number := by
        rw [UInt16.toNat_ofNat']
        exact Nat.mod_eq_of_lt fits
      dsimp only
      by_cases zero : number = 0
      · rw [if_pos zero]
        refine iff_of_false (fun same => by cases same) fun made => ?_
        obtain ⟨_, _, same, nonzero⟩ := made
        exact nonzero (UInt16.toNat_inj.mp ((Option.some.inj same).symm.trans zero))
      · rw [if_neg zero]
        constructor
        · intro same
          cases same
          refine ⟨⟨rfl, rfl⟩, rfl, congrArg some value.symm, fun none => zero ?_⟩
          exact value.symm.trans (congrArg UInt16.toNat none)
        · intro made
          obtain ⟨⟨sameAuthority, samePath⟩, sameHost, samePort, _⟩ := made
          have reached : endpoint.port = UInt16.ofNat number :=
            UInt16.toNat_inj.mp ((Option.some.inj samePort).symm.trans value.symm)
          obtain ⟨_, _, _, _⟩ := endpoint
          dsimp only at sameAuthority samePath sameHost reached
          rw [sameAuthority, samePath, sameHost, reached]

/-- An address is accepted exactly if it is short and visible, and an endpoint is made of it. -/
theorem parse_ok_made :
    parse uri scheme allowPath = .ok endpoint ↔ uri.utf8.length ≤ 2048 ∧
      (∀ byte ∈ uri.utf8, 33 ≤ byte.toNat ∧ byte.toNat ≤ 126) ∧
        ∃ rest, uri = scheme ++ rest ∧ Made allowPath (separated rest) endpoint := by
  have visible : uri.utf8.any (fun byte => byte ≤ 32 || 127 ≤ byte) = true ↔
      ¬ ∀ byte ∈ uri.utf8, 33 ≤ byte.toNat ∧ byte.toNat ≤ 126 := by
    simp only [List.any_eq_true, Bool.or_eq_true, decide_eq_true_eq, UInt8.le_iff_toNat_le,
      not_forall, exists_prop]
    refine exists_congr fun byte => and_congr_right fun _ => ?_
    show byte.toNat ≤ 32 ∨ 127 ≤ byte.toNat ↔ _
    omega
  unfold parse
  by_cases refused : 2048 < uri.utf8.length ∨
      uri.utf8.any (fun byte => byte ≤ 32 || 127 ≤ byte) = true
  · rw [if_pos refused]
    refine iff_of_false (fun same => by cases same) fun found => ?_
    rcases refused with long | hidden
    · exact absurd found.1 (Nat.not_le.mpr long)
    · exact visible.mp hidden found.2.1
  rw [if_neg refused]
  rw [not_or, visible, not_not, Nat.not_lt] at refused
  rw [← and_assoc, and_iff_right refused]
  cases stripped : uri.stripPrefix scheme with
  | none =>
    refine iff_of_false (fun same => by cases same) fun found => ?_
    obtain ⟨rest, same, _⟩ := found
    rw [stripPrefix_eq_some.mpr same] at stripped
    cases stripped
  | some rest =>
    have only : (∃ rest, uri = scheme ++ rest ∧ Made allowPath (separated rest) endpoint) ↔
        Made allowPath (separated rest) endpoint := by
      constructor
      · intro found
        obtain ⟨other, same, made⟩ := found
        rw [stripPrefix_eq_some.mpr same] at stripped
        cases stripped
        exact made
      · exact fun made => ⟨rest, stripPrefix_eq_some.mp stripped, made⟩
    rw [only]
    -- The two parts are those around the first slash.
    dsimp only
    unfold separated
    cases split : rest.splitOnce '/' with
    | none => exact made_ok
    | some parts => exact made_ok

/-- Behind an authority without a slash, a path begins with the first slash. -/
theorem separated_append {authority path : Text} (separate : '/' ∉ authority)
    (rooted : path = [] ∨ ∃ below, path = '/' :: below) :
    separated (authority ++ path) = (authority, if path.isEmpty then ['/'] else path) := by
  -- The first slash begins the path.
  unfold separated
  rcases rooted with rfl | ⟨below, rfl⟩
  · rw [List.append_nil, splitOnce_eq_none.mpr separate]
    rfl
  · rw [splitOnce_eq_some.mpr ⟨rfl, separate⟩]
    rfl

/-- An address is accepted exactly if it follows the grammar, and as the parts it is made of. -/
theorem parse_ok_denotes :
    parse uri scheme allowPath = .ok endpoint ↔ Denotes Signed scheme allowPath uri endpoint := by
  rw [parse_ok_made]
  constructor
  · intro accepted
    obtain ⟨small, visible, rest, rfl, checked, ⟨sameAuthority, samePath⟩, reached⟩ := accepted
    obtain ⟨port, taken, parsed, nonzero⟩ := reached
    obtain ⟨signed, _⟩ := parseUnsigned_eq_some.mp parsed
    have colonless : ':' ∉ port := not_mem_signed signed (by decide) (by decide)
    refine ⟨small, visible, ?_, port, ?_, signed, nonzero⟩
    · obtain ⟨whole, ⟨below, rooted⟩, _⟩ := separated_spec rest
      rw [sameAuthority, samePath]
      rcases whole with ⟨whole, root⟩ | whole
      · -- No path is written, and the root is meant.
        refine ⟨[], ?_, ⟨.inl rfl, by simp, fun _ => .inl rfl⟩, root⟩
        rw [List.append_nil, ← whole]
      · refine ⟨(separated rest).2, ?_, ⟨.inr ⟨below, rooted⟩, checked.queryless, ?_⟩, ?_⟩
        · rw [List.append_assoc, ← whole]
        · exact fun pathless => .inr (checked.allowed pathless)
        · rw [rooted]
          rfl
    · rw [sameAuthority]
      exact (parseAuthority_ok colonless).mp taken
  · intro denotes
    obtain ⟨small, visible, ⟨path, whole, pathText, samePath⟩, port, reached⟩ := denotes
    obtain ⟨authority, signed, nonzero⟩ := reached
    -- None of the characters that separate the parts stands in the authority.
    have free : ∀ char : Char, char ≠ '+' → char.isDigit = false → ¬ IsHostChar char →
        ¬ IsAddressChar char → char ∉ ['[', ']', ':'] → char ∉ endpoint.authority :=
      fun char plus digitless hostless addressless plain =>
        authority.not_mem (not_mem_signed signed plus digitless) hostless addressless plain
    have slashless : '/' ∉ endpoint.authority :=
      free '/' (by decide) (by decide) (by decide) (by decide) (by decide)
    refine ⟨small, visible, endpoint.authority ++ path, by rw [whole, List.append_assoc], ?_⟩
    rw [separated_append slashless pathText.rooted, ← samePath]
    refine ⟨⟨⟨?_, ?_, ?_⟩, ?_, ?_⟩, ⟨rfl, rfl⟩, port, ?_, ?_, nonzero⟩
    · exact free '@' (by decide) (by decide) (by decide) (by decide) (by decide)
    · exact free '?' (by decide) (by decide) (by decide) (by decide) (by decide)
    · exact free '#' (by decide) (by decide) (by decide) (by decide) (by decide)
    · rw [samePath]
      split
      · exact ⟨by simp, by simp⟩
      · exact pathText.queryless
    · intro pathless
      rw [samePath]
      rcases pathText.allowed pathless with rfl | rfl <;> rfl
    · exact (parseAuthority_ok (not_mem_signed signed (by decide) (by decide))).mpr authority
    · exact parseUnsigned_eq_some.mpr ⟨signed, endpoint.port.toNat_lt⟩

/-- The scheme and the parts make up the address, but for a slash at its end. -/
theorem Denotes.rebuild {Port : Text → Nat → Prop}
    (denotes : Denotes Port scheme allowPath uri endpoint) :
    scheme ++ endpoint.authority ++ endpoint.path = uri ∨
      scheme ++ endpoint.authority ++ endpoint.path = uri ++ ['/'] := by
  -- A path that is not written is the root.
  obtain ⟨path, whole, _, same⟩ := denotes.whole
  rw [same, whole]
  cases path with
  | nil => exact .inr (by simp)
  | cons first rest => exact .inl rfl

end Addresses

/-- Addresses are accepted exactly if they follow the grammar, in which ports may have a sign. -/
theorem parse_follows_grammar (uri scheme : Text) (allowPath : Bool) (endpoint : Endpoint) :
    parse uri scheme allowPath = .ok endpoint ↔
      Denotes Signed scheme allowPath uri endpoint ∧
        (scheme ++ endpoint.authority ++ endpoint.path = uri ∨
          scheme ++ endpoint.authority ++ endpoint.path = uri ++ ['/']) := by
  -- What follows the grammar can be put together again.
  rw [parse_ok_denotes]
  exact ⟨fun denotes => ⟨denotes, denotes.rebuild⟩, And.left⟩

/-- A plus sign before the port is accepted, though a port of digits alone does not have one. -/
theorem parse_accepts_plus_sign :
    parse "http://a:+80".toList "http://".toList true =
        .ok { host := ['a'], port := 80, authority := "a:+80".toList, path := ['/'] } ∧
      ¬ ∃ endpoint, Denotes Decimal "http://".toList true "http://a:+80".toList endpoint := by
  have accepted : parse "http://a:+80".toList "http://".toList true =
      .ok { host := ['a'], port := 80, authority := "a:+80".toList, path := ['/'] } := by decide
  refine ⟨accepted, fun found => ?_⟩
  obtain ⟨endpoint, small, visible, whole, port, authority, decimal, nonzero⟩ := found
  -- With a port of digits the parts would be the same, but they have a sign.
  have signed : Signed port endpoint.port.toNat := ⟨port, .inl rfl, decimal⟩
  have same := parse_ok_denotes.mpr ⟨small, visible, whole, port, authority, signed, nonzero⟩
  rw [accepted] at same
  cases same
  have absent : '+' ∉ "a:+80".toList := by
    refine authority.not_mem (fun member => ?_) (by decide) (by decide) (by decide)
    exact absurd (decimal.kinds '+' member) (by decide)
  exact absent (by decide)

end Scout.Wifi.Endpoint
