import DocLinks.Tree

namespace DocLinks.Tree

/-- The folders on the way to a place, and that place. -/
def wayTo : Location → List (Location × Entry)
  | [] => []
  | name :: above => (name :: above, .folder) :: wayTo above

/-- A tree that holds nothing but the way to its work folder. -/
def ofWorkFolder (place : Location) : Tree := ⟨wayTo place, place⟩

def set (t : Tree) (place : Location) (entry : Entry) : Tree :=
  { t with entries := (place, entry) :: t.entries.filter (·.1 != place) }

/-- Takes away a place and all that is below it. -/
def clear (t : Tree) (place : Location) : Tree :=
  { t with entries := t.entries.filter fun e => !place.isSuffixOf e.1 }

/-- Takes steps from a place, making the folders that are missing. -/
def makeFolders (t : Tree) (place : Location) : List Name → Option (Tree × Location)
  | [] => some (t, place)
  | step :: rest =>
    match t.follow linkLimit place [step] with
    | .ok next => t.makeFolders next rest
    | .error .notFound => (t.set (step :: place) .folder).makeFolders (step :: place) rest
    | .error _ => none

/-- Makes the folders above a path, and changes the tree at its last name. -/
def edit (t : Tree) (path : Path) (change : Tree → Location → Tree) : Tree :=
  match path.steps.getLast? with
  | none => t
  | some name =>
    match t.makeFolders (if path.isAbsolute then [] else t.workFolder) path.steps.dropLast with
    | none => t
    | some (t, place) => change t (name :: place)

/-- Writes a file at a place, or where the symbolic links there lead, be there something yet or not. -/
def write (t : Tree) (content : RawText) : (links : Nat) → Location → Tree
  | 0, _ => t
  | links + 1, place =>
    match t.lookup? place with
    | some .folder => t
    | some (.link target) =>
      let origin := if target.isAbsolute then [] else place.tail
      match target.steps.getLast?, t.follow linkLimit origin target.steps.dropLast with
      | some name, .ok folder => t.write content links (name :: folder)
      | _, _ => t
    | _ => t.set place (.file content)

def putFile (t : Tree) (path : Path) (content : RawText) : Tree :=
  t.edit path fun t place => t.write content (linkLimit + 1) place

def putFolder (t : Tree) (path : Path) : Tree :=
  match t.makeFolders (if path.isAbsolute then [] else t.workFolder) path.steps with
  | some (t, _) => t
  | none => t

def putLink (t : Tree) (path target : Path) : Tree :=
  t.edit path fun t place => t.set place (.link target)

/-- Takes away a file, a folder with all in it, or a symbolic link itself. -/
def remove (t : Tree) (path : Path) : Tree := t.edit path clear

end DocLinks.Tree
