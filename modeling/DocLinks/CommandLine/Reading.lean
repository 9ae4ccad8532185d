import DocLinks.CommandLine.Invocation
import DocLinks.CommandLine.Shorthand

namespace DocLinks.CommandLine

/-- The arguments read so far: what they ask for, which options they hold, and an option that still waits for
its value or for the check of it. -/
structure Reading where
  invocation : Invocation := {}
  seen : List Flag := []
  pending : Option (Setting × Option RawText) := none
deriving DecidableEq

namespace Reading

/-- Notes an option, which may be given once only. -/
def once (r : Reading) (flag : Flag) : Except Stop Reading :=
  if flag ∈ r.seen then .error .repeated else .ok { r with seen := flag :: r.seen }

def assign (r : Reading) (s : Setting) (v : RawText) : Except Stop Reading := do
  let r ← r.once (.setting s)
  return { r with invocation := ← r.invocation.assign v s }

/-- Checks the option that waits, if there is one. -/
def settle (r : Reading) : Except Stop Reading :=
  match r.pending with
  | none => .ok r
  | some (_, none) => .error .missingValue
  | some (s, some v) => { r with pending := none }.assign s v

def turnOn (r : Reading) (s : Switch) : Except Stop Reading := do
  let r ← (← r.settle).once (.switch s)
  return { r with invocation := ← r.invocation.turnOn s }

/-- Reads an option that has its value attached, or that waits for the next argument. -/
def setting (r : Reading) (s : Setting) : Option RawText → Except Stop Reading
  | some v => do (← r.settle).assign s v
  | none => return { ← r.settle with pending := some (s, none) }

/-- Reads an argument after its two dashes. -/
def long (r : Reading) (arg : RawText) : Except Stop Reading :=
  let name : RawText := arg.takeWhile (· != .char '=')
  let value? : Option RawText := (arg.dropWhile (· != .char '=')).tail?
  match name.text?.bind Flag.ofLong?, value? with
  | none, _ => .error .unknownArgument
  | some (.switch s), none => r.turnOn s
  | some (.switch _), some _ => .error .unwantedValue
  | some (.setting s), value? => r.setting s value?

/-- Reads an argument after its one dash, letter by letter; what follows the letter of an option that takes a
value is the value, with or without an equals sign before it. -/
def short (r : Reading) : RawText → Except Stop Reading
  | [] => .ok r
  | u :: rest =>
    match u.char?.bind Flag.ofShort? with
    | none => .error .unknownArgument
    | some (.switch s) => do (← r.turnOn s).short rest
    | some (.setting s) =>
      match rest with
      | [] => r.setting s none
      | .char '=' :: value => r.setting s (some value)
      | value => r.setting s (some value)

/-- Reads an argument that is no option. -/
def bare (r : Reading) (arg : RawText) : Except Stop Reading :=
  match r.pending with
  | some (s, none) => .ok { r with pending := some (s, some arg) }
  | _ => .error .unknownArgument

def argument (r : Reading) : RawText → Except Stop Reading
  | .char '-' :: .char '-' :: rest => r.long rest
  | .char '-' :: u :: rest => r.short (u :: rest)
  | arg => r.bare arg

/-- Reads all arguments, from left to right. Nothing may follow the end of the options. -/
def arguments (r : Reading) : List RawText → Except Stop Reading
  | [] => r.settle
  | arg :: rest =>
    if arg = endOfOptions then
      if rest.isEmpty then r.settle else .error .unknownArgument
    else do (← r.argument arg).arguments rest

end Reading

/-- What a command line asks for. The first thing that stops the reading decides. -/
def Invocation.parse (args : List RawText) : Except Stop Invocation :=
  (Reading.arguments {} (normalize args)).map Reading.invocation

end DocLinks.CommandLine
