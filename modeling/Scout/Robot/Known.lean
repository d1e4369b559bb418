import Scout.Stream.Case

/-! The robots of the classroom fleet, looked up by an identifier or in the output of a command. -/

namespace Scout

open Text

/-- Whether a character is a hexadecimal digit. -/
def isHex (character : Char) : Bool :=
  isAsciiHexdigit character.toNat

/-- A robot whose network identifier is known. -/
structure KnownScout where
  name : String
  macAddress : String
  deriving DecidableEq, Repr

/-- The names and the addresses that come with the classroom materials. -/
def knownScouts : List KnownScout := [
  { name := "Bombur", macAddress := "d4:9c:dd:e9:ea:a0" },
  { name := "Bofur", macAddress := "d4:9c:dd:ea:dc:3a" },
  { name := "Bifur", macAddress := "d4:9c:dd:ea:fd:a4" },
  { name := "Glóin", macAddress := "d4:9c:dd:ea:3b:16" },
  { name := "Thráin", macAddress := "d4:9c:dd:e9:ea:60" },
  { name := "Thrór", macAddress := "d4:9c:dd:ea:dc:a2" },
  { name := "Thorin", macAddress := "b8:2d:28:56:92:0e" },
  { name := "Balin", macAddress := "b8:2d:28:56:87:da" },
  { name := "Dwalin", macAddress := "b8:2d:28:56:91:60" },
  { name := "Fíli", macAddress := "d4:9c:dd:ea:fd:9c" },
  { name := "Kíli", macAddress := "d4:9c:dd:eb:0c:f6" },
  { name := "Dori", macAddress := "d4:9c:dd:e9:fa:2e" },
  { name := "Nori", macAddress := "d4:9c:dd:ea:dc:8c" },
  { name := "Ori", macAddress := "d4:9c:dd:ea:dc:56" },
  { name := "Óin", macAddress := "d4:9c:dd:e9:b9:da" },
  { name := "Dain", macAddress := "d4:9c:dd:ea:5a:d8" }]

/-- The digits of an address without its separators. -/
def compactMac (mac : Text) : Text :=
  mac.filter isHex

/-- Where the separators of an address are. -/
def separatorIndices : List Nat := [2, 5, 8, 11, 14]

/-- Whether a byte is a hexadecimal digit, unless it is in the place of a separator. -/
def placed (entry : UInt8 × Nat) : Bool :=
  separatorIndices.contains entry.2 || isAsciiHexdigit entry.1.toNat

/-- The digits of an address that is written in full, with or without separators. -/
def normalizeMac (value : Text) : Option Text :=
  let bytes := value.utf8
  if bytes.length = 12 ∧ bytes.all fun byte => isAsciiHexdigit byte.toNat then some value
  else if bytes.length ≠ 17 then none
  else
    let separator := bytes.getD 2 0
    if separator.toNat ≠ ':'.toNat ∧ separator.toNat ≠ '-'.toNat then none
    else if separatorIndices.any fun index => bytes.getD index 0 != separator then none
    else if bytes.zipIdx.any fun entry => !placed entry then none
    else some (compactMac value)

namespace KnownScout

variable (scout : KnownScout)

/-- The address with colons, as it is in the table. -/
def colon : Text := scout.macAddress.toList

/-- The address with hyphens. -/
def hyphen : Text := scout.colon.map fun character => if character = ':' then '-' else character

/-- The address without separators. -/
def compact : Text := compactMac scout.colon

/-- The network name of the robot, which ends with the last six digits of its address. -/
def ssid : Text := "robot_scout_".toList ++ scout.compact.drop (scout.compact.length - 6)

/-- Whether one of the spellings is found in a text of small letters. -/
def foundIn (text : Text) : Bool :=
  text.containsText scout.colon || text.containsText scout.hyphen ||
    ((text.splitOnP fun character => !isHex character).any fun token => token == scout.compact) ||
    text.containsText scout.ssid

end KnownScout

/-- Find a known robot from a full address or the name of its network. -/
def knownScout (identifier : Text) : Option KnownScout :=
  let identifier := identifier.trim.toAsciiLowercase
  match normalizeMac identifier with
  | some mac => knownScouts.find? fun scout => scout.compact == mac
  | none =>
    (identifier.stripPrefix "robot_scout_".toList).bind fun suffix =>
      if suffix.utf8.length ≠ 6 ∨ !suffix.utf8.all fun byte => isAsciiHexdigit byte.toNat then none
      else knownScouts.find? fun scout => suffix.isSuffixOf scout.compact

/-- Find a known full address or network name in the output of a command. -/
def knownScoutInText (text : Text) : Option KnownScout :=
  let text := text.toAsciiLowercase
  knownScouts.find? fun scout => scout.foundIn text

end Scout
