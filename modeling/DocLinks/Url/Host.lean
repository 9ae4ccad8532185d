import DocLinks.Text.Blank
import DocLinks.Text.Printable
import DocLinks.Url.Percent
import DocLinks.Url.Punycode

namespace DocLinks

/-- Why a text is no address of a page. -/
inductive UrlError
  | emptyHost
  | invalidPort
  | invalidIpv4
  | invalidIpv6
  | invalidName
  | invalidCharacter
  | relativeWithoutBase
  | relativeToFlat
deriving DecidableEq

def UrlError.message : UrlError → Text
  | .emptyHost => "empty host".toList
  | .invalidPort => "invalid port number".toList
  | .invalidIpv4 => "invalid IPv4 address".toList
  | .invalidIpv6 => "invalid IPv6 address".toList
  | .invalidName => "invalid international domain name".toList
  | .invalidCharacter => "invalid domain character".toList
  | .relativeWithoutBase => "relative URL without a base".toList
  | .relativeToFlat => "relative URL with a cannot-be-a-base base".toList

inductive Host
  | name (n : Text)
  | ipv4 (address : Nat)
  /-- Eight numbers of sixteen bits. -/
  | ipv6 (pieces : List Nat)
deriving DecidableEq

namespace Host

def hexDigit? (c : Char) : Option Nat :=
  if '0' ≤ c ∧ c ≤ '9' then some (c.toNat - '0'.toNat)
  else if 'a' ≤ c ∧ c ≤ 'f' then some (c.toNat - 'a'.toNat + 10)
  else if 'A' ≤ c ∧ c ≤ 'F' then some (c.toNat - 'A'.toNat + 10)
  else none

/-- The value of a text in digits of the base. -/
def valueIn? (base : Nat) (t : Text) : Option Nat :=
  t.foldlM (fun n c => (hexDigit? c).bind fun d => if d < base then some (n * base + d) else none) 0

/-- A number of an IPv4 address: hexadecimal after `0x`, octal after `0`, else decimal. -/
def ipv4Number? : Text → Option Nat
  | [] => none
  | '0' :: 'x' :: t => valueIn? 16 t
  | '0' :: 'X' :: t => valueIn? 16 t
  | '0' :: c :: t => valueIn? 8 (c :: t)
  | t => valueIn? 10 t

/-- The parts between the dots, without the empty one after a dot at the end. -/
def ipv4Parts (t : Text) : List Text :=
  match (Text.splitOn '.' t).reverse with
  | [] :: rest => rest.reverse
  | parts => parts.reverse

/-- Whether a name has a number for its last part, so that it must be an address. -/
def endsInNumber (t : Text) : Bool :=
  match (ipv4Parts t).getLast? with
  | none => false
  | some last => !last.isEmpty && (last.all Char.isDigit || (ipv4Number? last).isSome)

/-- Up to four numbers. All but the last stand for one octet each, the last for all that are left. -/
def parseIpv4 (t : Text) : Except UrlError Host :=
  match (ipv4Parts t).mapM ipv4Number? with
  | none => .error .invalidIpv4
  | some numbers =>
    let front := numbers.dropLast
    let last := numbers.getLast?.getD 0
    let range := Nat.pow 256 (4 - front.length)
    if 4 < numbers.length ∨ front.any (255 < ·) ∨ range ≤ last then .error .invalidIpv4
    else .ok (.ipv4 (front.foldl (· * 256 + ·) 0 * range + last))

/-- One octet in decimal, without leading zeros. -/
def octet? (t : Text) : Option Nat :=
  if t.isEmpty || t.length > 1 && t.head? == some '0' then none
  else (valueIn? 10 t).filter (· < 256)

/-- One to four hexadecimal digits. -/
def piece? (t : Text) : Option Nat := if t.isEmpty || t.length > 4 then none else valueIn? 16 t

/-- The pieces of one side of an IPv6 address, the last two perhaps written as an IPv4 address. -/
def pieces? (mayEndInIpv4 : Bool) : List Text → Option (List Nat)
  | [] => some []
  | [last] =>
    match piece? last with
    | some p => some [p]
    | none =>
      match mayEndInIpv4, (Text.splitOn '.' last).mapM octet? with
      | true, some [a, b, c, d] => some [a * 256 + b, c * 256 + d]
      | _, _ => none
  | t :: rest => do return (← piece? t) :: (← pieces? mayEndInIpv4 rest)

/-- The texts before and after the first pair of colons. -/
def splitGap : Text → Option (Text × Text)
  | ':' :: ':' :: rest => some ([], rest)
  | c :: rest => (splitGap rest).map fun (left, right) => (c :: left, right)
  | [] => none

def side? (mayEndInIpv4 : Bool) (t : Text) : Option (List Nat) :=
  if t.isEmpty then some [] else pieces? mayEndInIpv4 (Text.splitOn ':' t)

/-- Eight pieces between colons; a pair of colons stands once for the zeros that make them eight. -/
def parseIpv6 (t : Text) : Except UrlError Host :=
  let pieces? := match splitGap t with
    | none => (side? true t).filter (·.length = 8)
    | some (left, right) => do
      let left ← side? false left
      let right ← side? true right
      let missing := 8 - (left.length + right.length)
      if missing = 0 then none else some (left ++ List.replicate missing 0 ++ right)
  match pieces? with
  | some pieces => .ok (.ipv6 pieces)
  | none => .error .invalidIpv6

/-- How a character of a name counts: in small letters, in ASCII if there is a wide form of it, or not at all. Beyond
ASCII, names are taken to be in the small letters and composed characters that they are registered in. -/
def fold (c : Char) : Text :=
  if 'A' ≤ c ∧ c ≤ 'Z' then [c.toLower]
  else if 0xFF01 ≤ c.toNat ∧ c.toNat ≤ 0xFF5E then [(Char.ofNat (c.toNat - 0xFEE0)).toLower]
  else if c = '\u3002' ∨ c = '\uff61' then ['.']
  else if c ∈ ['\xad', '\u200b', '\u2060', '\ufeff'] then []
  else [c]

/-- Characters that no name can hold. -/
def isForbidden (c : Char) : Bool :=
  c ≤ ' ' || c ∈ ['%', '#', '/', ':', '<', '>', '?', '@', '[', '\\', ']', '^', '|', '\x7f'] ||
    '\x7f' < c && (isBlank c || !isPrintable c)

/-- A label that says it is written in ASCII must be so. -/
def isLabel (label : Text) : Bool :=
  match "xn--".toList.isPrefixOf? label with
  | some rest => (Punycode.decode? rest).isSome
  | none => true

/-- A label in ASCII, marked if it is written so. -/
def asciiLabel (label : Text) : Text :=
  if label.all (· ≤ '\x7f') then label else "xn--".toList ++ Punycode.encode label

/-- Reads the host of a page: an address, or a name with its percent signs read and its labels in ASCII. -/
def parse (t : Text) : Except UrlError Host :=
  match t with
  | '[' :: rest => if rest.getLast? = some ']' then parseIpv6 rest.dropLast else .error .invalidIpv6
  | _ =>
    match (Percent.decode t).text? with
    | none => .error .invalidName
    | some decoded =>
      let folded := decoded.flatMap fold
      let labels := Text.splitOn '.' folded
      if folded.any isForbidden || !labels.all isLabel then .error .invalidName
      else
        let name := List.intercalate ['.'] (labels.map asciiLabel)
        if name.isEmpty then .error .emptyHost
        else if endsInNumber name then parseIpv4 name
        else .ok (.name name)

example : (parse "München.de".toList).toOption = some (.name "xn--mnchen-3ya.de".toList) := by decide +kernel

/-- Characters that the host of an address of an unknown kind cannot hold. -/
def isForbiddenUnknown (c : Char) : Bool :=
  c ∈ ['\x00', '\t', '\n', '\r', ' ', '#', '/', ':', '<', '>', '?', '@', '[', '\\', ']', '^', '|']

/-- Reads the host of an address of an unknown kind, which is kept as it is. -/
def parseUnknown (t : Text) : Except UrlError Host :=
  match t with
  | '[' :: rest => if rest.getLast? = some ']' then parseIpv6 rest.dropLast else .error .invalidIpv6
  | _ =>
    if t.any isForbiddenUnknown then .error .invalidCharacter
    else .ok (.name (Percent.encode Percent.control t))

/-- How many zeros a list begins with. -/
def zeros (pieces : List Nat) : Nat := (pieces.takeWhile (· == 0)).length

/-- Where the longest run of zeros begins, the first of several. -/
def longestZeros : List Nat → Nat × Nat
  | [] => (0, 0)
  | p :: rest =>
    let (start, length) := longestZeros rest
    let here := zeros (p :: rest)
    if here ≠ 0 ∧ length ≤ here then (0, here) else (start + 1, length)

def hexPieces (pieces : List Nat) : Text := List.intercalate [':'] (pieces.map (Nat.toDigits 16))

/-- An IPv6 address with its longest run of zeros left out, if there are two zeros in it or more. -/
def ipv6Text (pieces : List Nat) : Text :=
  let (start, length) := longestZeros pieces
  if length < 2 then hexPieces pieces
  else hexPieces (pieces.take start) ++ "::".toList ++ hexPieces (pieces.drop (start + length))

def text : Host → Text
  | .name n => n
  | .ipv4 a => List.intercalate ['.'] ([a / 16777216, a / 65536 % 256, a / 256 % 256, a % 256].map Text.decimal)
  | .ipv6 pieces => '[' :: ipv6Text pieces ++ [']']

end Host

end DocLinks
