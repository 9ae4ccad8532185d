import DocLinks.Text.Basic

namespace DocLinks

/-- A unit of text that comes from outside: a character, or octets that are no character in UTF-8. -/
inductive RawUnit
  | char (c : Char)
  | stray (octets : List UInt8)
deriving DecidableEq, Repr

/-- Text from outside, such as an argument or the content of a file, with what is not UTF-8 kept as it came. -/
abbrev RawText := List RawUnit

namespace RawUnit

def char? : RawUnit → Option Char
  | .char c => some c
  | .stray _ => none

def octets : RawUnit → List UInt8
  | .char c => String.utf8EncodeChar c
  | .stray octets => octets

end RawUnit

namespace RawText

def ofText (t : Text) : RawText := t.map .char

/-- The text, if every octet of it belongs to a character. -/
def text? : RawText → Option Text
  | [] => some []
  | .char c :: rest => (text? rest).map (c :: ·)
  | .stray _ :: _ => none

theorem text?_ofText (t : Text) : text? (ofText t) = some t := by
  induction t with
  | nil => rfl
  | cons c t ih => exact congrArg (Option.map (c :: ·)) ih

theorem text?_eq_some_iff {t : RawText} {s : Text} : t.text? = some s ↔ t = ofText s := by
  refine ⟨fun read => ?_, fun same => same ▸ text?_ofText s⟩
  induction t generalizing s with
  | nil =>
    cases read
    rfl
  | cons u t ih =>
    cases u with
    | stray octets => cases read
    | char c =>
      obtain ⟨s', read', rfl⟩ := Option.map_eq_some_iff.1 read
      rw [ih read']
      rfl

theorem ofText_append (a b : Text) : ofText (a ++ b) = ofText a ++ ofText b := List.map_append

theorem ofText_cons (c : Char) (t : Text) : ofText (c :: t) = .char c :: ofText t := rfl

theorem text?_ofText_append (a : Text) (t : RawText) : text? (ofText a ++ t) = (text? t).map (a ++ ·) := by
  induction a with
  | nil => simp [ofText]
  | cons c a ih =>
    rw [ofText_cons, List.cons_append, text?, ih, Option.map_map]
    rfl

theorem ofText_inj {a b : Text} : ofText a = ofText b ↔ a = b := by
  refine ⟨fun same => ?_, congrArg ofText⟩
  have texts := congrArg text? same
  rw [text?_ofText, text?_ofText] at texts
  exact Option.some.inj texts

theorem isEmpty_ofText (t : Text) : (ofText t).isEmpty = t.isEmpty := List.isEmpty_map

/-- The text with a replacement character for every unit that is none. -/
def shown (t : RawText) : Text := t.map fun u => u.char?.getD '\ufffd'

def octets (t : RawText) : List UInt8 := t.flatMap RawUnit.octets

/-- A character begun: the octets read, how many are missing, where the next must lie, and the value so far. -/
structure Begun where
  octets : List UInt8
  missing : Nat
  least : UInt8
  most : UInt8
  value : Nat

/-- What an octet says that no character is waiting for. -/
def start (b : UInt8) : RawUnit ⊕ Begun :=
  if b < 0x80 then .inl (.char (Char.ofNat b.toNat))
  else if b < 0xC2 then .inl (.stray [b])
  else if b < 0xE0 then .inr ⟨[b], 1, 0x80, 0xBF, b.toNat - 0xC0⟩
  else if b == 0xE0 then .inr ⟨[b], 2, 0xA0, 0xBF, 0⟩
  else if b == 0xED then .inr ⟨[b], 2, 0x80, 0x9F, b.toNat - 0xE0⟩
  else if b < 0xF0 then .inr ⟨[b], 2, 0x80, 0xBF, b.toNat - 0xE0⟩
  else if b == 0xF0 then .inr ⟨[b], 3, 0x90, 0xBF, 0⟩
  else if b < 0xF4 then .inr ⟨[b], 3, 0x80, 0xBF, b.toNat - 0xF0⟩
  else if b == 0xF4 then .inr ⟨[b], 3, 0x80, 0x8F, b.toNat - 0xF0⟩
  else .inl (.stray [b])

/-- Reads octets as UTF-8. Octets that cannot be continued to a character are cut off as early as that shows,
so that each stray unit is as long as it can be and still begin a character. -/
def read : Option Begun → List UInt8 → RawText
  | none, [] => []
  | some begun, [] => [.stray begun.octets]
  | none, b :: rest =>
    match start b with
    | .inl u => u :: read none rest
    | .inr begun => read (some begun) rest
  | some begun, b :: rest =>
    if begun.least ≤ b ∧ b ≤ begun.most then
      let value := begun.value * 64 + (b.toNat - 0x80)
      if begun.missing = 1 then .char (Char.ofNat value) :: read none rest
      else read (some ⟨begun.octets ++ [b], begun.missing - 1, 0x80, 0xBF, value⟩) rest
    else
      .stray begun.octets ::
        match start b with
        | .inl u => u :: read none rest
        | .inr begun => read (some begun) rest

def ofOctets (octets : List UInt8) : RawText := read none octets

end RawText

end DocLinks
