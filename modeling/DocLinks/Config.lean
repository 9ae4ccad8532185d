import DocLinks.Context
import DocLinks.Tree
import DocLinks.Text.Quoted

namespace DocLinks

/-- The settings of a scan as they are asked for. -/
structure Options where
  path : RawText
  docsRoot : Option RawText
  staticRoot : Option RawText
  sitePrefix : Text
  staticPrefix : Text
  skipExternal : Bool
  concurrency : Nat
  timeout : Option Nat
deriving DecidableEq

/-- The settings of a scan that can be run. -/
structure Config where
  path : Path
  docsRoot : Path
  staticRoot : Path
  sitePrefix : Text
  staticPrefix : Text
  skipExternal : Bool
  concurrency : Nat
  /-- Seconds that one request may take. -/
  timeout : Option Nat
deriving DecidableEq

inductive ConfigError
  | docsRootNotFolder (path : RawText)
  | pathNotFound (path : RawText)
  | staticRootNotFolder (path : RawText)
  | zeroConcurrency
deriving DecidableEq

def ConfigError.message : ConfigError → Text
  | .docsRootNotFolder path => "Docs root path: ".toList ++ path.shown ++ " is not a directory".toList
  | .pathNotFound path => "Docs path: ".toList ++ path.shown ++ " is not a directory or file".toList
  | .staticRootNotFolder path => "Static root path: ".toList ++ path.shown ++ " is not a directory".toList
  | .zeroConcurrency => "Concurrency must be at least 1".toList

namespace Tree

/-- The folder that a scan of a path is about: the path itself, or the folder of a file. -/
def folderOf (t : Tree) (path : Path) : Path := if t.isFile path then path.folder else path

end Tree

/-- The path that a setting names, if it passes the test. What is no text names nothing. -/
def RawText.named (setting : RawText) (test : Path → Bool) (error : RawText → ConfigError) :
    Except ConfigError Path :=
  match setting.text? with
  | some path => if test path then .ok path else .error (error setting)
  | none => .error (error setting)

namespace Config

def defaultStaticRoot : Path := "docs/docusaurus/static".toList

/-- Checks the settings and fills in those that are left out. Of several faults the first is told: the docs
root comes before the path, and that before the static root. A default static root need not exist. -/
def ofOptions (t : Tree) (o : Options) : Except ConfigError Config := do
  let docsRoot ← o.docsRoot.mapM (·.named t.isFolder .docsRootNotFolder)
  let path ← o.path.named (fun path => t.isFolder path || t.isFile path) .pathNotFound
  let staticRoot ← o.staticRoot.mapM (·.named t.isFolder .staticRootNotFolder)
  if o.concurrency = 0 then throw .zeroConcurrency
  return {
    path
    docsRoot := docsRoot.getD (t.folderOf path)
    staticRoot := staticRoot.getD defaultStaticRoot
    sitePrefix := Text.strip '/' o.sitePrefix
    staticPrefix := Text.strip '/' o.staticPrefix
    skipExternal := o.skipExternal
    concurrency := o.concurrency
    timeout := o.timeout }

/-- Settings are accepted just if each of them is. -/
theorem ofOptions_eq_ok_iff {t : Tree} {o : Options} {config : Config} :
    ofOptions t o = .ok config ↔
      ∃ docsRoot path staticRoot,
        o.docsRoot.mapM (·.named t.isFolder .docsRootNotFolder) = .ok docsRoot ∧
        o.path.named (fun path => t.isFolder path || t.isFile path) .pathNotFound = .ok path ∧
        o.staticRoot.mapM (·.named t.isFolder .staticRootNotFolder) = .ok staticRoot ∧
        o.concurrency ≠ 0 ∧
        config = ⟨path, docsRoot.getD (t.folderOf path), staticRoot.getD defaultStaticRoot,
          Text.strip '/' o.sitePrefix, Text.strip '/' o.staticPrefix, o.skipExternal, o.concurrency, o.timeout⟩ := by
  unfold ofOptions
  cases o.docsRoot.mapM (·.named t.isFolder .docsRootNotFolder) with
  | error e => simp [bind, Except.bind]
  | ok docsRoot =>
    cases o.path.named (fun path => t.isFolder path || t.isFile path) .pathNotFound with
    | error e => simp [bind, Except.bind]
    | ok path =>
      cases o.staticRoot.mapM (·.named t.isFolder .staticRootNotFolder) with
      | error e => simp [bind, Except.bind]
      | ok staticRoot =>
        by_cases none : o.concurrency = 0
        · simp [bind, Except.bind, none, throw, throwThe, MonadExceptOf.throw]
        · simp [bind, Except.bind, none, pure, Except.pure, eq_comm]

def context (c : Config) (t : Tree) : Context where
  docsRoot := c.docsRoot
  staticRoot := c.staticRoot
  sitePrefix := c.sitePrefix
  staticPrefix := c.staticPrefix
  docrootBase := t.folderOf c.path
  skipExternal := c.skipExternal

end Config

end DocLinks
