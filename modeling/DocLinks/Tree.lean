import DocLinks.Path
import DocLinks.Text.Raw

namespace DocLinks

/-- What can stand at a place of a file tree. -/
inductive Entry
  | file (content : RawText)
  | folder
  /-- A symbolic link, whose target is read from the folder that holds the link. -/
  | link (target : Path)
deriving DecidableEq

/-- A place in a file tree: its name, the name of its folder, and so on up to the root. -/
abbrev Location := List Name

/-- A file tree, and the folder in it that relative paths start from. -/
structure Tree where
  entries : List (Location × Entry)
  workFolder : Location

/-- Why a path leads nowhere, or not to what is asked for. -/
inductive FileError
  | notFound
  | notFolder
  | isFolder
  | tooManyLinks
  | nameTooLong
  | holdsNul
  | notText
deriving DecidableEq, Repr

def FileError.message : FileError → Text
  | .notFound => "No such file or directory (os error 2)".toList
  | .notFolder => "Not a directory (os error 20)".toList
  | .isFolder => "Is a directory (os error 21)".toList
  | .tooManyLinks => "Too many levels of symbolic links (os error 40)".toList
  | .nameTooLong => "File name too long (os error 36)".toList
  | .holdsNul => "file name contained an unexpected NUL byte".toList
  | .notText => "stream did not contain valid UTF-8".toList

namespace Tree

/-- The entry at a place. The root is always a folder. -/
def lookup? (t : Tree) : Location → Option Entry
  | [] => some .folder
  | place => t.entries.lookup place

/-- The longest name, in octets, that a folder can hold. -/
def nameLimit : Nat := 255

/-- Takes steps from a place, asking `onLink` to go on where a symbolic link is met. -/
def followWith (t : Tree) (onLink : Location → List Name → Except FileError Location) :
    Location → List Name → Except FileError Location
  | place, [] => .ok place
  | place, step :: rest =>
    match t.lookup? place with
    | some .folder =>
      if Path.isIdle step then t.followWith onLink place rest
      else if step = ['.', '.'] then t.followWith onLink place.tail rest
      else if nameLimit < Text.utf8Size step then .error .nameTooLong
      else
        match t.lookup? (step :: place) with
        | none => .error .notFound
        | some (.link target) =>
          onLink (if Path.isAbsolute target then [] else place) (Path.pieces target ++ rest)
        | some _ => t.followWith onLink (step :: place) rest
    | _ => .error .notFolder

/-- Takes steps from a place, through at most `links` symbolic links. -/
def follow (t : Tree) : (links : Nat) → Location → List Name → Except FileError Location
  | 0 => t.followWith fun _ _ => .error .tooManyLinks
  | links + 1 => t.followWith (t.follow links)

/-- How many symbolic links one path may lead through. -/
def linkLimit : Nat := 40

/-- Where a path leads, all symbolic links followed. -/
def locate (t : Tree) (path : Path) : Except FileError Location :=
  if path.isEmpty then .error .notFound
  else if path.contains '\x00' then .error .holdsNul
  else t.follow linkLimit (if path.isAbsolute then [] else t.workFolder) path.pieces

def status (t : Tree) (path : Path) : Except FileError Entry := do
  match t.lookup? (← t.locate path) with
  | some entry => return entry
  | none => throw .notFound

def isFile (t : Tree) (path : Path) : Bool :=
  match t.status path with
  | .ok (.file _) => true
  | _ => false

def isFolder (t : Tree) (path : Path) : Bool :=
  match t.status path with
  | .ok .folder => true
  | _ => false

/-- The text of the file at a path. -/
def read (t : Tree) (path : Path) : Except FileError Text := do
  match ← t.status path with
  | .file content =>
    match content.text? with
    | some text => return text
    | none => throw .notText
  | _ => throw .isFolder

end Tree

end DocLinks
