import DocLinks.Files
import DocLinks.Log
import DocLinks.Report

namespace DocLinks

/-- What a scan comes to, with its log and the pages it asked for on the way. -/
structure Scan where
  result : Except ScanError Outcome
  events : List Event
  probed : List Text

def TextCheck.events (c : TextCheck) (file : Path) : List Event :=
  c.diagnostics.map .noted ++ [.fileChecked file c.linksChecked c.broken.length]

/-- The result of a scan whose files are all checked. -/
def Outcome.ofChecks (checks : List (Path × TextCheck)) : Outcome where
  filesScanned := checks.length
  linksChecked := checks.foldr (fun check n => check.2.linksChecked + n) 0
  broken := checks.flatMap (·.2.broken)

namespace Context

/-- Reads a file and checks its links. -/
def checkFile (ctx : Context) (t : Tree) (probe : Probe) (file : Path) : Except ScanError TextCheck :=
  match t.read file with
  | .ok text => .ok (ctx.checkText t probe text file)
  | .error cause => .error (.unreadable file cause)

/-- The checks of the files before the first that cannot be read, and what is wrong with that one. -/
def checkFiles (ctx : Context) (t : Tree) (probe : Probe) :
    List Path → List (Path × TextCheck) × Option ScanError
  | [] => ([], none)
  | file :: rest =>
    match ctx.checkFile t probe file with
    | .error e => ([], some e)
    | .ok check =>
      let (checks, failed?) := ctx.checkFiles t probe rest
      ((file, check) :: checks, failed?)

/-- Checks every file that is found under a path. A file that cannot be read leaves the scan without a
result. -/
def scan (ctx : Context) (t : Tree) (probe : Probe) (root : Path) : Scan :=
  let loops := (t.loops root).map Event.loopSkipped
  match t.markdownFiles root with
  | .error e => ⟨.error e, loops, []⟩
  | .ok files =>
    let (checks, failed?) := ctx.checkFiles t probe files
    let events := loops ++ .filesFound files.length root ctx.site ctx.skipExternal ::
      checks.flatMap fun (file, check) => check.events file
    let probed := checks.flatMap (·.2.probed)
    match failed? with
    | some e => ⟨.error e, events, probed⟩
    | none =>
      let outcome := Outcome.ofChecks checks
      ⟨.ok outcome, events ++ [.finished outcome.linksChecked outcome.broken.length], probed⟩

end Context

end DocLinks
