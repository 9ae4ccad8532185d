import DocLinks.Classify
import DocLinks.Occurrence

namespace DocLinks

/-- What a scan knows of the site that its links belong to. -/
structure Context where
  docsRoot : Path
  staticRoot : Path
  sitePrefix : Text
  staticPrefix : Text
  docrootBase : Path
  skipExternal : Bool
deriving DecidableEq

/-- The ways in which a link names a file. -/
inductive FileLink
  | absoluteLink
  | absoluteImage
  | relativeLink
  | relativeImage
  | docrootLink
deriving DecidableEq

def FileLink.name : FileLink → Text
  | .absoluteLink => "absolute link".toList
  | .absoluteImage => "absolute image".toList
  | .relativeLink => "relative link".toList
  | .relativeImage => "relative image".toList
  | .docrootLink => "docroot link".toList

def FileLink.isImage : FileLink → Bool
  | .absoluteImage | .relativeImage => true
  | _ => false

/-- What has to hold for a link to be good. -/
inductive Aim
  /-- Nothing, the link is good as it stands. -/
  | settled
  /-- Nothing, pages of a named version are not checked. -/
  | pinned (version : Text)
  /-- The page must answer. -/
  | page (url : Text)
  /-- The file must exist. -/
  | file (kind : FileLink) (path : Path)
  /-- Nothing would do, the link is not a link. -/
  | malformed (isImage : Bool)
deriving DecidableEq

namespace Context

def site (ctx : Context) : Site := .ofPrefix ctx.sitePrefix

/-- The document of a page, which may be written with slashes at its end. -/
def pagePath (ctx : Context) (page : Text) : Path :=
  Path.joinLexically ctx.docsRoot (Text.dropTrailing '/' page ++ ".md".toList)

def aim (ctx : Context) (o : Occurrence) : Aim :=
  match ctx.site.classify o.link o.isImage with
  | .anchor => .settled
  | .rawAbsoluteFile => .settled
  | .external url => if ctx.skipExternal then .settled else .page url
  | .absoluteDoc page none => .file .absoluteLink (ctx.pagePath page)
  | .absoluteDoc _ (some version) => .pinned version
  | .absoluteImage path => .file .absoluteImage (Path.join ctx.staticRoot path)
  | .relativeDoc path => .file .relativeLink (Path.joinLexically (Path.folder o.file) path)
  | .relativeImage path => .file .relativeImage (Path.joinLexically (Path.folder o.file) path)
  | .docroot path => .file .docrootLink (Path.joinLexically ctx.docrootBase path)
  | .invalid isImage => .malformed isImage

end Context

end DocLinks
