import DocLinks.Text.Basic

namespace DocLinks.Punycode

def digit? (c : Char) : Option Nat :=
  if 'a' ≤ c ∧ c ≤ 'z' then some (c.toNat - 'a'.toNat)
  else if 'A' ≤ c ∧ c ≤ 'Z' then some (c.toNat - 'A'.toNat)
  else if '0' ≤ c ∧ c ≤ '9' then some (c.toNat - '0'.toNat + 26)
  else none

/-- Small letters stand for the numbers below 26, and digits for the ten after them. -/
def digit (d : Nat) : Char := Char.ofNat (if d < 26 then 'a'.toNat + d else '0'.toNat + (d - 26))

/-- Divides by 35 while the number is over 455, and counts 36 for each time. -/
def spread (delta k : Nat) : Nat × Nat := if 455 < delta then spread (delta / 35) (k + 36) else (delta, k)
termination_by delta

/-- The bias after a number, from how large it was and how many characters there are now. -/
def adapt (delta points : Nat) (isFirst : Bool) : Nat :=
  let delta := if isFirst then delta / 700 else delta / 2
  let (delta, k) := spread (delta + delta / points) 0
  k + 36 * delta / (delta + 38)

/-- The least that is not written by one digit at a position, when the digits of a number count in steps of 36. -/
def threshold (k bias : Nat) : Nat := min 26 (max 1 (k - bias))

/-- Reading in the middle of a number: the characters so far, the place and the code of the last one put in,
the number so far, the weight and threshold position of the next digit, and whether a digit is owed. -/
structure State where
  name : List Char
  code : Nat := 128
  place : Nat := 0
  number : Nat := 0
  weight : Nat := 1
  k : Nat := 36
  bias : Nat := 72
  owed : Bool := false

/-- Puts in the character that a finished number stands for. -/
def State.insert? (s : State) (number : Nat) : Option State :=
  let points := s.name.length + 1
  let code := s.code + (s.place + number) / points
  let place := (s.place + number) % points
  if h : code.isValidChar then
    some {
      name := s.name.take place ++ Char.ofNatAux code h :: s.name.drop place
      code
      place := place + 1
      bias := adapt number points (s.place = 0 ∧ s.code = 128) }
  else none

def State.read? : State → List Char → Option State
  | s, [] => if s.owed then none else some s
  | s, c :: rest => do
    let d ← digit? c
    let number := s.number + d * s.weight
    let least := threshold s.k s.bias
    let next := { s with number, weight := s.weight * (36 - least), k := s.k + 36, owed := true }
    if d < least then (← s.insert? number).read? rest else next.read? rest

/-- The name that a text stands for, if it does and is not ASCII throughout. -/
def decode? (t : Text) : Option Text := do
  let ascii := (t.reverse.dropWhile (· != '-')).tail.reverse
  let numbers := (t.reverse.takeWhile (· != '-')).reverse
  let s ← State.read? { name := ascii } numbers
  if numbers.isEmpty then none else some s.name

/-- A number with its last digit below the threshold of its position. -/
def digits (bias k number : Nat) : Text :=
  let least := threshold k bias
  if number < least then [digit number]
  else digit (least + (number - least) % (36 - least)) :: digits bias (k + 36) ((number - least) / (36 - least))
termination_by number
decreasing_by
  have positive : 1 ≤ threshold k bias := by
    unfold threshold
    omega
  have smaller := Nat.div_le_self (number - threshold k bias) (36 - threshold k bias)
  omega

/-- The characters beyond ASCII, each with how many that stand before it are no greater. -/
def insertions (before : Text) : Text → List (Char × Nat)
  | [] => []
  | c :: rest =>
    if c ≤ '\x7f' then insertions (before ++ [c]) rest
    else (c, before.countP (· ≤ c)) :: insertions (before ++ [c]) rest

/-- The numbers of characters that go in one after the other, behind so many that are there, where the last went in
before a place. -/
def numbers (points code place bias : Nat) : List (Char × Nat) → Text
  | [] => []
  | (c, next) :: rest =>
    let number := (c.toNat - code) * (points + 1) + next - place
    digits bias 36 number ++
      numbers (points + 1) c.toNat (next + 1) (adapt number (points + 1) (place = 0 ∧ code = 128)) rest

/-- A name in ASCII: its ASCII characters and, after a hyphen, a number for each of the others that says which one it
is and where it goes in. -/
def encode (t : Text) : Text :=
  let ascii := t.filter (· ≤ '\x7f')
  let later := (insertions [] t).mergeSort fun a b => a.1 ≤ b.1
  ascii ++ (if ascii.isEmpty then [] else ['-']) ++ numbers ascii.length 128 0 72 later

example : encode "münchen".toList = "mnchen-3ya".toList := by cbv

end DocLinks.Punycode
