import DocLinks.Pattern
import DocLinks.Shape
import DocLinks.Text.Blank
import DocLinks.Text.Digit
import DocLinks.Text.Word

namespace DocLinks

inductive ShapePart
  | path
  | version
deriving DecidableEq

namespace Pattern

/-- A character of a path inside the site. -/
def pageChar : Pattern ShapePart := one fun c => isWord c || c == '/' || c == '-'

/-- A character of a path to a file. -/
def fileChar : Pattern ShapePart := one fun c => c == '.' || isWord c || c == '/' || c == '-'

def wordChar : Pattern ShapePart := one isWord

def digit : Pattern ShapePart := one isDigit

def text (s : String) : Pattern ShapePart := literal s.toList

/-- A place in the page, at the end of a link. -/
def fragment : Pattern ShapePart :=
  optional (chain [text "#", atLeastOne .greedy (one (!isBlank ·))])

/-- A dot and three or four word characters. -/
def imageExtension : Pattern ShapePart := chain [text ".", wordChar, wordChar, wordChar, optional wordChar]

/-- One dot or two. -/
def dots : Pattern ShapePart := chain [text ".", optional (text ".")]

def external : Pattern ShapePart := chain [text "http", optional (text "s"), text "://"]

def relativeImage : Pattern ShapePart :=
  chain [part .path (chain [dots, atLeastOne .greedy fileChar, imageExtension]), atEnd]

def absoluteImage : Pattern ShapePart :=
  chain [text "/", part .path (chain [atLeastOne .greedy pageChar, imageExtension]), atEnd]

def relativeDoc : Pattern ShapePart :=
  chain [part .path (chain [dots, atLeastOne .greedy fileChar, text ".md"]), fragment, atEnd]

def docroot : Pattern ShapePart :=
  chain [part .path (chain [wordChar, atLeastOne .greedy fileChar, text ".md"]), fragment, atEnd]

/-- One or two digits. -/
def number : Pattern ShapePart := chain [digit, optional digit]

/-- Three numbers between dots. -/
def version : Pattern ShapePart := chain [number, text ".", number, text ".", number]

def absoluteDoc (sitePrefix : Text) : Pattern ShapePart :=
  chain [text "/", literal sitePrefix, optional (chain [text "/", part .version version]),
    text "/", part .path (atLeastOne .lazy pageChar), fragment, atEnd]

def rawAbsoluteFile : Pattern ShapePart :=
  chain [text "/", atLeastOne .greedy (one (!isBlank ·)), text ".md", optional (text "x"),
    optional (chain [text "#", atLeastOne .greedy (one fun c => c != '\'' && c != '"')]), atEnd]

end Pattern

/-- A documentation site, known by the first segment of the paths of its pages. -/
structure Site where
  segment : Text
deriving DecidableEq, Repr

/-- Slashes around the prefix do not belong to it. -/
def Site.ofPrefix (sitePrefix : Text) : Site := ⟨Text.strip '/' sitePrefix⟩

inductive Audience
  | all
  | images
  | docs

def Audience.accepts : Audience → Bool → Bool
  | .all, _ => true
  | .images, isImage => isImage
  | .docs, isImage => !isImage

/-- One way of reading a link. -/
structure Rule where
  name : String
  audience : Audience
  shape? : Site → Text → Option LinkShape

namespace Rule

def path? (p : Pattern ShapePart) (link : Text) : Option Text :=
  (p.matchAt? link).bind (·.parts.text? .path)

def anchor : Rule where
  name := "anchor"
  audience := .all
  shape? _ link := if link.isEmpty || link.head? == some '#' then some .anchor else none

def external : Rule where
  name := "external"
  audience := .all
  shape? _ link := (Pattern.external.matchAt? link).map fun _ => .external link

def relativeImage : Rule where
  name := "relative-image"
  audience := .images
  shape? _ link := (path? .relativeImage link).map .relativeImage

def absoluteImage : Rule where
  name := "absolute-image"
  audience := .images
  shape? _ link := (path? .absoluteImage link).map .absoluteImage

def relativeDoc : Rule where
  name := "relative-doc"
  audience := .docs
  shape? _ link := (path? .relativeDoc link).map .relativeDoc

def absoluteDoc : Rule where
  name := "absolute-doc"
  audience := .docs
  shape? site link := do
    let m ← (Pattern.absoluteDoc site.segment).matchAt? link
    let path ← m.parts.text? .path
    return .absoluteDoc path (m.parts.text? .version)

/-- What lies under the site prefix is left to `absoluteDoc`. -/
def rawAbsoluteFile : Rule where
  name := "raw-absolute-file"
  audience := .docs
  shape? site link :=
    if ('/' :: site.segment ++ ['/']).isPrefixOf link then none
    else (Pattern.rawAbsoluteFile.matchAt? link).map fun _ => .rawAbsoluteFile

def docroot : Rule where
  name := "docroot"
  audience := .docs
  shape? _ link := (path? .docroot link).map .docroot

/-- All rules. The first that matches decides. -/
def table : List Rule :=
  [anchor, external, relativeImage, absoluteImage, relativeDoc, absoluteDoc, rawAbsoluteFile, docroot]

end Rule

namespace Site

/-- The rule that decides about a link, and the shape it reads. -/
def matchingRule? (site : Site) (link : Text) (isImage : Bool) : Option (String × LinkShape) :=
  (Rule.table.filter (·.audience.accepts isImage)).findSome? fun rule =>
    (rule.shape? site link).map fun shape => (rule.name, shape)

def classify (site : Site) (link : Text) (isImage : Bool) : LinkShape :=
  match site.matchingRule? link isImage with
  | some (_, shape) => shape
  | none => .invalid isImage

end Site

end DocLinks
