import DocLinks.CommandLine.Reading
import DocLinks.Http.Client
import DocLinks.Run

namespace DocLinks

/-- What the program shows and how it ends. -/
structure Display where
  exitCode : Nat
  /-- The report, or what was asked for in its place. -/
  output : Text
  /-- The lines of the log, and what went wrong. -/
  notices : List Text
  /-- The pages asked for. -/
  probed : List Text

namespace CommandLine

def programName : Text := "docs-link-check".toList

def programVersion : Text := "0.1.0".toList

def about : Text :=
  ("docs-link-check finds every inline link and image in your markdown docs and checks that it points somewhere: " ++
    "local files must exist, external links must not answer with a 4xx. It's meant for CI: exit code 0 means no " ++
    "broken links, 1 means broken links or an invalid --path/--docs-root, 2 means an unexpected error such as an " ++
    "unreadable markdown file.").toList

/-- What help says of an option, if it says anything. -/
def Flag.description? : Flag → Option Text
  | .setting .path => "Path to markdown file(s) to check".toList
  | .setting .docsRoot =>
    "Root to all docs, used to resolve absolute links (defaults to --path, or its folder for a file)".toList
  | .setting .staticRoot =>
    "Root (static folder) to all images [default: docs/docusaurus/static] (short form: -sr)".toList
  | .setting .sitePrefix => "Top-most folder in the docs URL for resolving absolute paths".toList
  | .setting .staticPrefix => "Top-most folder in the site URL for absolute image paths (short form: -sp)".toList
  | .switch .skipExternal => "Don't check external (http/https) links".toList
  | .switch .json => "Print broken links as JSON instead of the text report".toList
  | .setting .concurrency => "How many files to scan at the same time".toList
  | .setting .timeout => "Timeout in seconds for each external request (no timeout by default)".toList
  | .switch .verbose => "Show every link as it is checked".toList
  | .switch .help | .switch .version => none

/-- What help shows: what the program is for, and a line for each option. -/
def usage : List Text :=
  about :: Flag.all.filterMap fun (long, _, flag) =>
    flag.description?.map fun description => "--".toList ++ long ++ ": ".toList ++ description

/-- A mistake in the arguments shows in the exit code. -/
def Stop.display : Stop → Display
  | .help => ⟨0, usage.flatMap (· ++ ['\n']), [], []⟩
  | .version => ⟨0, programName ++ ' ' :: programVersion ++ ['\n'], [], []⟩
  | s => ⟨s.exitCode, [], [], []⟩

end CommandLine

/-- What a run shows. The log comes before the error that ended it. -/
def Run.display (r : Run) (verbose : Bool) : Display where
  exitCode := r.exitCode
  output := r.output
  notices := (r.events.filter (·.isLogged verbose)).map Event.line ++
    (r.error?.map fun e => "Error: ".toList ++ e.message).toList
  probed := r.probed

/-- The whole program on its arguments. -/
def program (t : Tree) (args : List RawText) (probe : Config → Probe) : Display :=
  match CommandLine.Invocation.parse args with
  | .error s => s.display
  | .ok i => (checkDocs t i.options i.json probe).display i.verbose

end DocLinks
