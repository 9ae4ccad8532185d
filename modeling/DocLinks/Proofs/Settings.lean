import DocLinks.Proofs.PageSpellings
import DocLinks.Proofs.RunVerdict

namespace DocLinks

/-- Settings that a check cannot tell apart: the folders that paths are joined to are the same but for idle pieces,
and the rest that it looks at is the same as it is written. -/
structure Context.Alike (ctx ctx' : Context) : Prop where
  docsRoot : ctx.docsRoot.components = ctx'.docsRoot.components
  docrootBase : ctx.docrootBase.components = ctx'.docrootBase.components
  staticRoot : ctx.staticRoot = ctx'.staticRoot
  site : ctx.site = ctx'.site
  skipExternal : ctx.skipExternal = ctx'.skipExternal

namespace Context.Alike

variable {ctx ctx' : Context} (alike : ctx.Alike ctx') (t : Tree) (probe : Probe)
include alike

theorem aim_eq (o : Occurrence) : ctx.aim o = ctx'.aim o := by
  have page (page : Text) : ctx.pagePath page = ctx'.pagePath page := Path.joinLexically_congr alike.docsRoot rfl
  have document (path : Path) : ctx.docrootBase.joinLexically path = ctx'.docrootBase.joinLexically path :=
    Path.joinLexically_congr alike.docrootBase rfl
  simp only [aim, alike.site, alike.staticRoot, alike.skipExternal, page, document]

theorem check_eq (o : Occurrence) : ctx.check t probe o = ctx'.check t probe o := by
  rw [check, check, alike.aim_eq]

theorem checkText_eq (text : Text) (file : Path) :
    ctx.checkText t probe text file = ctx'.checkText t probe text file := by
  rw [checkText, checkText, List.map_congr_left fun o _ => alike.check_eq t probe o]

theorem checkFile_eq (file : Path) : ctx.checkFile t probe file = ctx'.checkFile t probe file := by
  simp only [checkFile, alike.checkText_eq]

theorem checkFiles_eq (files : List Path) : ctx.checkFiles t probe files = ctx'.checkFiles t probe files := by
  induction files with
  | nil => rfl
  | cons file files ih => simp only [checkFiles, alike.checkFile_eq, ih]

theorem scan_eq (root : Path) : ctx.scan t probe root = ctx'.scan t probe root := by
  simp only [scan, alike.checkFiles_eq, alike.site, alike.skipExternal]

end Context.Alike

end DocLinks
