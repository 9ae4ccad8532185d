import DocLinks.Text.Basic

namespace DocLinks

/-- What kind of thing a link points at, with what the check needs to know of it. -/
inductive LinkShape
  /-- A place in the same page. -/
  | anchor
  | external (url : Text)
  /-- A page below the site prefix, of the current documentation or of a named version. -/
  | absoluteDoc (path : Text) (version : Option Text)
  /-- An image below the static root. -/
  | absoluteImage (path : Text)
  /-- A document named from the folder of the linking file. -/
  | relativeDoc (path : Text)
  | relativeImage (path : Text)
  /-- A document named from the scanned folder. -/
  | docroot (path : Text)
  /-- A document named from the root of the server, outside the site prefix. -/
  | rawAbsoluteFile
  | invalid (isImage : Bool)
deriving DecidableEq, Repr

end DocLinks
