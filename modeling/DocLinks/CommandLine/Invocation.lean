import DocLinks.Config

namespace DocLinks.CommandLine

/-- The options that take a value. -/
inductive Setting
  | path
  | docsRoot
  | staticRoot
  | sitePrefix
  | staticPrefix
  | concurrency
  | timeout
deriving DecidableEq

/-- The options that take none. -/
inductive Switch
  | skipExternal
  | json
  | verbose
  | help
  | version
deriving DecidableEq

inductive Flag
  | setting (s : Setting)
  | switch (s : Switch)
deriving DecidableEq

def Flag.all : List (Text × Option Char × Flag) :=
  [("path".toList, some 'p', .setting .path),
   ("docs-root".toList, some 'r', .setting .docsRoot),
   ("static-root".toList, none, .setting .staticRoot),
   ("site-prefix".toList, some 's', .setting .sitePrefix),
   ("static-prefix".toList, none, .setting .staticPrefix),
   ("skip-external".toList, none, .switch .skipExternal),
   ("json".toList, none, .switch .json),
   ("concurrency".toList, none, .setting .concurrency),
   ("timeout".toList, none, .setting .timeout),
   ("verbose".toList, some 'v', .switch .verbose),
   ("help".toList, some 'h', .switch .help),
   ("version".toList, some 'V', .switch .version)]

def Flag.ofLong? (name : Text) : Option Flag :=
  Flag.all.findSome? fun (long, _, flag) => if long = name then some flag else none

def Flag.ofShort? (letter : Char) : Option Flag :=
  Flag.all.findSome? fun (_, short, flag) => if short = some letter then some flag else none

/-- Why the arguments are not run. -/
inductive Stop
  | unknownArgument
  /-- An option has no value, or an empty one where a path is needed. -/
  | missingValue
  | badNumber
  | repeated
  | unwantedValue
  | notText
  | help
  | version
deriving DecidableEq

/-- Help and the version are what was asked for, all else is a mistake. -/
def Stop.exitCode : Stop → Nat
  | .help | .version => 0
  | _ => 2

/-- What the arguments ask for. -/
structure Invocation where
  path : RawText := .ofText ['.']
  docsRoot : Option RawText := none
  staticRoot : Option RawText := none
  sitePrefix : Text := "docs".toList
  staticPrefix : Text := "static".toList
  skipExternal : Bool := false
  json : Bool := false
  concurrency : Nat := 8
  timeout : Option Nat := none
  verbose : Bool := false
deriving DecidableEq

def Invocation.options (i : Invocation) : Options where
  path := i.path
  docsRoot := i.docsRoot
  staticRoot := i.staticRoot
  sitePrefix := i.sitePrefix
  staticPrefix := i.staticPrefix
  skipExternal := i.skipExternal
  concurrency := i.concurrency
  timeout := i.timeout

/-- The numbers that an option can hold are below this, the 64th power of two. -/
def numberBound : Nat := 18446744073709551616

/-- A number in ASCII digits, perhaps after a plus sign. -/
def number? (t : Text) : Option Nat :=
  let digits := if t.head? = some '+' then t.tail else t
  if digits.isEmpty || !digits.all Char.isDigit then none
  else
    let n := Text.ofDigits digits
    if n < numberBound then some n else none

namespace Value

def path (v : RawText) : Except Stop RawText := if v.isEmpty then .error .missingValue else .ok v

def text (v : RawText) : Except Stop Text :=
  match v.text? with
  | some t => .ok t
  | none => .error .notText

def number (v : RawText) : Except Stop Nat := do
  match number? (← text v) with
  | some n => return n
  | none => throw .badNumber

end Value

def Invocation.assign (i : Invocation) (v : RawText) : Setting → Except Stop Invocation
  | .path => return { i with path := ← Value.path v }
  | .docsRoot => return { i with docsRoot := ← Value.path v }
  | .staticRoot => return { i with staticRoot := ← Value.path v }
  | .sitePrefix => return { i with sitePrefix := ← Value.text v }
  | .staticPrefix => return { i with staticPrefix := ← Value.text v }
  | .concurrency => return { i with concurrency := ← Value.number v }
  | .timeout => return { i with timeout := ← Value.number v }

def Invocation.turnOn (i : Invocation) : Switch → Except Stop Invocation
  | .skipExternal => .ok { i with skipExternal := true }
  | .json => .ok { i with json := true }
  | .verbose => .ok { i with verbose := true }
  | .help => .error .help
  | .version => .error .version

end DocLinks.CommandLine
