import DocLinks.Scan

namespace DocLinks

/-- A run of the whole check: the exit code, what is printed, the error that ended it if there was one, its
log, and the pages it asked for. -/
structure Run where
  exitCode : Nat
  output : Text
  error? : Option ScanError
  events : List Event
  probed : List Text

/-- Checks the settings, scans and reports. Settings that are refused count as a failed check; a scan without
a result prints nothing. -/
def checkDocs (t : Tree) (o : Options) (asJson : Bool) (probe : Config → Probe) : Run :=
  match Config.ofOptions t o with
  | .error e => ⟨1, e.message ++ ['\n'], none, [], []⟩
  | .ok config =>
    let scan := (config.context t).scan t (probe config) config.path
    let events := .starting config :: scan.events
    match scan.result with
    | .error e => ⟨2, [], some e, events, scan.probed⟩
    | .ok outcome => ⟨outcome.exitCode, outcome.report asJson ++ ['\n'], none, events, scan.probed⟩

end DocLinks
