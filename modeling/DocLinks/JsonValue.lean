import DocLinks.Text.Quoted

namespace DocLinks

/-- The part of JSON that a report is written in. -/
inductive JsonValue
  | number (n : Nat)
  | string (t : Text)
  | array (items : List JsonValue)
  | object (fields : List (Text × JsonValue))

namespace JsonValue

/-- Only quotes, backslashes and control characters are escaped, the common ones by a letter. -/
def escape (c : Char) : Text :=
  if c = '"' then ['\\', '"']
  else if c = '\\' then ['\\', '\\']
  else if c = '\x08' then ['\\', 'b']
  else if c = '\t' then ['\\', 't']
  else if c = '\n' then ['\\', 'n']
  else if c = '\x0c' then ['\\', 'f']
  else if c = '\r' then ['\\', 'r']
  else if c.toNat < 0x20 then ['\\', 'u', '0', '0', Nat.digitChar (c.toNat / 16), Nat.digitChar (c.toNat % 16)]
  else [c]

def quote (t : Text) : Text := '"' :: t.flatMap escape ++ ['"']

/-- A new line, indented by two spaces a level. -/
def line (depth : Nat) : Text := '\n' :: List.replicate (2 * depth) ' '

/-- Items between brackets, each on a line of its own. -/
def block (opening closing : Char) (depth : Nat) : List Text → Text
  | [] => [opening, closing]
  | items =>
    opening :: line (depth + 1) ++ List.intercalate (',' :: line (depth + 1)) items ++ line depth ++ [closing]

mutual

/-- The value with its brackets `depth` levels deep. -/
def write (depth : Nat) : JsonValue → Text
  | number n => Text.decimal n
  | string t => quote t
  | array items => block '[' ']' depth (writeItems (depth + 1) items)
  | object fields => block '\x7b' '\x7d' depth (writeFields (depth + 1) fields)

def writeItems (depth : Nat) : List JsonValue → List Text
  | [] => []
  | v :: items => write depth v :: writeItems depth items

def writeFields (depth : Nat) : List (Text × JsonValue) → List Text
  | [] => []
  | (name, v) :: fields => (quote name ++ ':' :: ' ' :: write depth v) :: writeFields depth fields

end

end JsonValue

end DocLinks
