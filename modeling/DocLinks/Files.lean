import DocLinks.Tree.Walk

namespace DocLinks

/-- Why a scan comes to no result. -/
inductive ScanError
  | unwalkable (root path : Path) (cause : FileError)
  | unreadable (file : Path) (cause : FileError)
deriving DecidableEq

def ScanError.message : ScanError → Text
  | .unwalkable root path cause =>
    "Failed to walk directory ".toList ++ root ++ ": IO error for operation on ".toList ++ path ++
      ": ".toList ++ cause.message ++ ": ".toList ++ cause.message
  | .unreadable file cause => "Failed to read markdown file ".toList ++ file ++ ": ".toList ++ cause.message

namespace Visit

def markdown? : Visit → Option Path
  | .file path => if Path.isMarkdown path then some path else none
  | _ => none

def loop? : Visit → Option Path
  | .loop path => some path
  | _ => none

def broken? : Visit → Option (Path × FileError)
  | .broken path cause => some (path, cause)
  | _ => none

end Visit

namespace Tree

/-- The files to check: a single file as it is, or the markdown files that a walk meets. A link that leads
nowhere spoils the walk, one that leads back does not. -/
def markdownFiles (t : Tree) (root : Path) : Except ScanError (List Path) :=
  if t.isFile root then .ok [root]
  else
    match (t.walk root).findSome? Visit.broken? with
    | some (path, cause) => .error (.unwalkable root path cause)
    | none => .ok ((t.walk root).filterMap Visit.markdown?)

/-- The links back into a folder above them that are met before the walk ends or is spoilt. -/
def loops (t : Tree) (root : Path) : List Path :=
  if t.isFile root then []
  else ((t.walk root).takeWhile (·.broken?.isNone)).filterMap Visit.loop?

end Tree

end DocLinks
