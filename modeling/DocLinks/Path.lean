import DocLinks.Text.Basic

namespace DocLinks

/-- A path as it is written. -/
abbrev Path := List Char

/-- What stands between two slashes of a path. -/
abbrev Name := List Char

/-- The order of names by their characters' code points, which is that of their octets in UTF-8. -/
def Name.le : Name → Name → Bool
  | [], _ => true
  | _ :: _, [] => false
  | a :: s, b :: t => a.toNat < b.toNat || a == b && Name.le s t

namespace Path

def isAbsolute (p : Path) : Bool := p.head? == some '/'

def pieces (p : Path) : List Name := Text.splitOn '/' p

/-- A piece that leads nowhere: nothing between two slashes, or a single dot. -/
def isIdle (n : Name) : Bool := n.isEmpty || n == ['.']

/-- The pieces that lead somewhere. -/
def steps (p : Path) : List Name := p.pieces.filter (!isIdle ·)

/-- A path written with nothing idle in it. -/
def ofSteps (absolute : Bool) (steps : List Name) : Path :=
  (if absolute then ['/'] else []) ++ List.intercalate ['/'] steps

/-- Puts `path` after `base` as both are written; an absolute path stays where it is. -/
def join (base path : Path) : Path :=
  if path.isAbsolute then path
  else
    match base.getLast? with
    | none => path
    | some '/' => base ++ path
    | some _ => base ++ '/' :: path

/-- What a path is put together from. -/
inductive Part
  | root
  | dot
  | name (n : Name)
deriving DecidableEq

def Part.text : Part → Path
  | .root => ['/']
  | .dot => ['.']
  | .name n => n

/-- The parts of a path. A single dot is one only where a path begins with it, and nothing between two slashes is. -/
def parts (p : Path) : List Part :=
  match p.pieces with
  | [] => []
  | first :: rest =>
    let start :=
      if p.isAbsolute then [.root]
      else if first = ['.'] then [.dot]
      else if first.isEmpty then []
      else [.name first]
    start ++ (rest.filter (!isIdle ·)).map .name

/-- Puts parts behind a path, one after the other. -/
def push (base : Path) (parts : List Part) : Path := parts.foldl (fun joined part => joined.join part.text) base

/-- Puts the parts of `path` behind those of `base`, without dots. An absolute path stays where it is, since its root
is, and `..` is never cancelled against the step before it, since that step may be a symbolic link. -/
def joinLexically (base path : Path) : Path :=
  push (push [] (base.parts.filter (· ≠ .dot))) (path.parts.filter (· ≠ .dot))

/-- The pieces of a path up to the last that counts. The piece a path begins with counts unless it is empty:
it is then the root, or there is no path at all. -/
def dropIdleEnd : List Name → List Name
  | [] => []
  | first :: rest => first :: (rest.reverse.dropWhile isIdle).reverse

/-- The path without its last step, or nothing for a root and for the empty path. -/
def parent? (p : Path) : Option Path :=
  match dropIdleEnd p.pieces with
  | [] => none
  | [[]] => none
  | [_] => some []
  | first :: rest =>
    match dropIdleEnd (first :: rest.dropLast) with
    | [[]] => some ['/']
    | pieces => some (List.intercalate ['/'] pieces)

/-- The folder that holds the file at a path. -/
def folder (p : Path) : Path := p.parent?.getD []

/-- What follows the last dot of a name, unless the name begins there. -/
def extension? (n : Name) : Option Name :=
  match n.reverse.span (· != '.') with
  | (_, []) => none
  | (_, [_]) => none
  | (ending, _) => some ending.reverse

/-- Whether the last name of a path has the extension of markdown documents. -/
def isMarkdown (p : Path) : Bool := p.pieces.getLast?.bind extension? == some "md".toList

end Path

end DocLinks
