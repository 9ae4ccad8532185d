import DocLinks.Text.Extender
import DocLinks.Text.Printable
import DocLinks.Text.Raw

namespace DocLinks

namespace Text

def hex (n : Nat) : Text := Nat.toDigits 16 n

/-- How a character is written between double quotes: by itself if it can be seen, else by a backslash and a
letter or its number. -/
def escape (c : Char) : Text :=
  if c = '"' then ['\\', '"']
  else if c = '\\' then ['\\', '\\']
  else if c = '\t' then ['\\', 't']
  else if c = '\r' then ['\\', 'r']
  else if c = '\n' then ['\\', 'n']
  else if c = '\x00' then ['\\', '0']
  else if isExtender c || !isPrintable c then ['\\', 'u', '\x7b'] ++ hex c.toNat ++ ['\x7d']
  else [c]

/-- A text between double quotes, all of it visible. -/
def quoted (t : Text) : Text := '"' :: t.flatMap escape ++ ['"']

end Text

namespace RawText

def escapeOctet (b : UInt8) : Text :=
  ['\\', 'x'] ++ (if b < 16 then ['0'] else []) ++ (Text.hex b.toNat).map Char.toUpper

/-- Text from outside between double quotes; an octet that belongs to no character is written by its number. -/
def quoted (t : RawText) : Text :=
  '"' :: t.flatMap (fun
    | .char c => Text.escape c
    | .stray octets => octets.flatMap escapeOctet) ++ ['"']

end RawText

end DocLinks
