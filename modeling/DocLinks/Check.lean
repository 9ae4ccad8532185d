import DocLinks.Context
import DocLinks.Tree

namespace DocLinks

/-- What came of asking for a page. -/
inductive ProbeOutcome
  | status (code : Nat)
  | failed (detail : Text)
deriving DecidableEq

/-- Asks for the page at an address. -/
abbrev Probe := Text → ProbeOutcome

/-- A broken link. -/
structure Failure where
  link : Text
  file : Path
  reason : Text
deriving DecidableEq

def Failure.display (f : Failure) : Text :=
  f.reason ++ ": File: ".toList ++ f.file ++ ", Link: ".toList ++ f.link

inductive Severity
  | debug
  | info
  | warn
deriving DecidableEq

/-- Something noted about a link while it is checked. -/
structure Diagnostic where
  severity : Severity
  link : Text
  file : Path
  message : Text
deriving DecidableEq

/-- What a check finds out: the reason why the link is broken, if it is, the notes taken, and the pages asked
for. -/
structure Finding where
  reason? : Option Text
  notes : List (Severity × Text)
  probed : List Text
deriving DecidableEq

namespace Finding

def good (notes : List (Severity × Text)) : Finding := ⟨none, notes, []⟩

def bad (reason : Text) (notes : List (Severity × Text)) : Finding := ⟨some reason, notes, []⟩

end Finding

/-- Pages that refuse the request make a link broken, and so do pages that cannot be reached. All others count
as found. -/
def ProbeOutcome.finding : ProbeOutcome → Finding
  | .failed detail => .bad ("External link raised a connection error: ".toList ++ detail)
      [(.info, "External link raised a connection error".toList)]
  | .status code =>
    if 400 ≤ code ∧ code < 500 then
      .bad ("External link returned status code: ".toList ++ Text.decimal code)
        [(.info, "External link failed with code ".toList ++ Text.decimal code)]
    else .good [(.debug, "External link successful, response code: ".toList ++ Text.decimal code)]

def FileLink.missing (kind : FileLink) (path : Path) : Text :=
  (if kind.isImage then "Image ".toList else "Linked file ".toList) ++ path ++ " not found".toList

def FileLink.finding (kind : FileLink) (path : Path) (isThere : Bool) : Finding :=
  let checking := (.debug, "Checking ".toList ++ kind.name ++ " resolved to ".toList ++ path)
  if isThere then .good [checking, (.debug, Text.capitalize kind.name ++ " found".toList)]
  else .bad (kind.missing path) [checking, (.info, Text.capitalize kind.name ++ " was not found".toList)]

def malformedReason (isImage : Bool) : Text :=
  if isImage then "Invalid image link format".toList else "Invalid link format".toList

def Aim.finding (t : Tree) (probe : Probe) : Aim → Finding
  | .settled => .good []
  | .pinned version => .good [(.debug, "Skipping absolute link pinned to version ".toList ++ version)]
  | .page url =>
    let found := (probe url).finding
    { found with notes := (.debug, "Checking external link".toList) :: found.notes, probed := [url] }
  | .file kind path => kind.finding path (t.isFile path)
  | .malformed isImage => .bad (malformedReason isImage) [(.info, malformedReason isImage)]

/-- The check of one link, with what it reports. -/
structure Verdict where
  failure? : Option Failure
  diagnostics : List Diagnostic
  probed : List Text
deriving DecidableEq

def Occurrence.verdict (o : Occurrence) (found : Finding) : Verdict where
  failure? := found.reason?.map (⟨o.link, o.file, ·⟩)
  diagnostics := found.notes.map fun (severity, message) => ⟨severity, o.link, o.file, message⟩
  probed := found.probed

namespace Context

def check (ctx : Context) (t : Tree) (probe : Probe) (o : Occurrence) : Verdict :=
  o.verdict ((ctx.aim o).finding t probe)

end Context

/-- The check of all links of a document. -/
structure TextCheck where
  linksChecked : Nat
  broken : List Failure
  diagnostics : List Diagnostic
  probed : List Text
deriving DecidableEq

def TextCheck.ofVerdicts (verdicts : List Verdict) : TextCheck where
  linksChecked := verdicts.length
  broken := verdicts.filterMap (·.failure?)
  diagnostics := verdicts.flatMap (·.diagnostics)
  probed := verdicts.flatMap (·.probed)

/-- Checks the links of a document one after the other. `file` is where the document counts as written. -/
def Context.checkText (ctx : Context) (t : Tree) (probe : Probe) (text : Text) (file : Path) : TextCheck :=
  .ofVerdicts ((occurrences text file).map (ctx.check t probe))

end DocLinks
