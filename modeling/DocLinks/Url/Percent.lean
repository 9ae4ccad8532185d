import DocLinks.Text.Raw

namespace DocLinks.Percent

def octet (b : UInt8) : Text :=
  ['%', (Nat.digitChar (b.toNat / 16)).toUpper, (Nat.digitChar (b.toNat % 16)).toUpper]

/-- Writes the octets of the characters that have to be escaped as percent signs and hexadecimal digits. -/
def encode (escapes : Char → Bool) (t : Text) : Text :=
  t.flatMap fun c => if escapes c then (String.utf8EncodeChar c).flatMap octet else [c]

/-- Control characters, and all that is not ASCII. -/
def control (c : Char) : Bool := c < ' ' || '~' < c

def inFragment (c : Char) : Bool := control c || c ∈ [' ', '"', '<', '>', '\x60']

def inPath (c : Char) : Bool := inFragment c || c ∈ ['#', '?', '\x7b', '\x7d']

def inQuery (c : Char) : Bool := control c || c ∈ [' ', '"', '#', '<', '>']

def inSpecialQuery (c : Char) : Bool := inQuery c || c == '\''

def inUserInfo (c : Char) : Bool := inPath c || c ∈ ['/', ':', ';', '=', '@', '[', '\\', ']', '^', '|']

def hexValue? (b : UInt8) : Option UInt8 :=
  if 0x30 ≤ b ∧ b ≤ 0x39 then some (b - 0x30)
  else if 0x41 ≤ b ∧ b ≤ 0x46 then some (b - 0x41 + 10)
  else if 0x61 ≤ b ∧ b ≤ 0x66 then some (b - 0x61 + 10)
  else none

def decodeOctets : List UInt8 → List UInt8
  | [] => []
  | 0x25 :: high :: low :: rest =>
    match hexValue? high, hexValue? low with
    | some h, some l => (16 * h + l) :: decodeOctets rest
    | _, _ => 0x25 :: decodeOctets (high :: low :: rest)
  | b :: rest => b :: decodeOctets rest

/-- Reads escaped octets; a percent sign without two digits after it stands for itself. -/
def decode (t : Text) : RawText := .ofOctets (decodeOctets (t.flatMap String.utf8EncodeChar))

end DocLinks.Percent
