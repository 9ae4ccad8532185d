import DocLinks.Check
import DocLinks.Config

namespace DocLinks

/-- What a run writes to its log. -/
inductive Event
  | starting (config : Config)
  | loopSkipped (path : Path)
  | filesFound (files : Nat) (root : Path) (site : Site) (skipExternal : Bool)
  | noted (d : Diagnostic)
  | fileChecked (file : Path) (links broken : Nat)
  | finished (links broken : Nat)
deriving DecidableEq

/-- The value of a field of a log entry. -/
inductive FieldValue
  | number (n : Nat)
  | flag (b : Bool)
  /-- A text that a log line shows as it is. -/
  | plain (t : Text)
  /-- A text that a log line shows in quotes. -/
  | quoted (t : Text)
deriving DecidableEq

def FieldValue.shown : FieldValue → Text
  | .number n => Text.decimal n
  | .flag b => if b then "true".toList else "false".toList
  | .plain t => t
  | .quoted t => Text.quoted t

def Config.shown (c : Config) : Text :=
  "ScanConfig \x7b path: ".toList ++ Text.quoted c.path
    ++ ", docs_root: ".toList ++ Text.quoted c.docsRoot
    ++ ", static_root: ".toList ++ Text.quoted c.staticRoot
    ++ ", site_prefix: ".toList ++ Text.quoted c.sitePrefix
    ++ ", static_prefix: ".toList ++ Text.quoted c.staticPrefix
    ++ ", skip_external: ".toList ++ (FieldValue.flag c.skipExternal).shown
    ++ ", concurrency: ".toList ++ Text.decimal c.concurrency
    ++ ", timeout: ".toList
    ++ (match c.timeout with
      | none => "None".toList
      | some seconds => "Some(".toList ++ Text.decimal seconds ++ "s)".toList)
    ++ " \x7d".toList

def Severity.label : Severity → Text
  | .debug => "DEBUG".toList
  | .info => "INFO".toList
  | .warn => "WARN".toList

namespace Event

def severity : Event → Severity
  | .starting _ => .debug
  | .loopSkipped _ => .warn
  | .filesFound .. => .info
  | .noted d => d.severity
  | .fileChecked .. => .debug
  | .finished .. => .info

def message : Event → Text
  | .starting _ => "Starting scan".toList
  | .loopSkipped _ => "Skipping symlink loop".toList
  | .filesFound .. => "Found markdown files to check".toList
  | .noted d => d.message
  | .fileChecked .. => "Checked file".toList
  | .finished .. => "Scan finished".toList

def fields : Event → List (Text × FieldValue)
  | .starting config => [("config".toList, .plain config.shown)]
  | .loopSkipped path => [("path".toList, .plain ("Some(".toList ++ Text.quoted path ++ ")".toList))]
  | .filesFound files root site skipExternal =>
    [("files".toList, .number files), ("root".toList, .plain root),
     ("site_prefix".toList, .quoted site.segment), ("skip_external".toList, .flag skipExternal)]
  | .noted d => [("link".toList, .quoted d.link), ("file".toList, .plain d.file)]
  | .fileChecked file links broken =>
    [("file".toList, .plain file), ("links".toList, .number links), ("broken".toList, .number broken)]
  | .finished links broken => [("links".toList, .number links), ("broken".toList, .number broken)]

/-- Routine entries are logged on request only. -/
def isLogged (verbose : Bool) (e : Event) : Bool := verbose || e.severity != .debug

/-- The entry as a line of the log. -/
def line (e : Event) : Text :=
  List.replicate (5 - e.severity.label.length) ' ' ++ e.severity.label ++ ' ' :: e.message
    ++ e.fields.flatMap fun (name, value) => ' ' :: name ++ '=' :: value.shown

def diagnostic? : Event → Option Diagnostic
  | .noted d => some d
  | _ => none

end Event

end DocLinks
