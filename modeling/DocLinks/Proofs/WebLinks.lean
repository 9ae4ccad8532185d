import DocLinks.Proofs.RunVerdict
import DocLinks.Proofs.ShapeGrammar

namespace DocLinks

/-- A link to a page of the web. -/
def IsWebLink (link : Text) : Prop := "http://".toList <+: link ∨ "https://".toList <+: link

instance : DecidablePred IsWebLink := fun _ => inferInstanceAs (Decidable (_ ∨ _))

/-- The page that a link of this shape is about, if it is one of the web. -/
def LinkShape.url? : LinkShape → Option Text
  | .external url => some url
  | _ => none

theorem Site.classify_eq_external_iff {site : Site} {link url : Text} {isImage : Bool} :
    site.classify link isImage = .external url ↔ url = link ∧ IsWebLink link :=
  (classify_eq_iff rfl).trans ((and_iff_right rfl).trans reads_external_iff)

/-- Links to the web are read as such in images and documents alike, and no other links are. -/
theorem Site.url?_classify (site : Site) (link : Text) (isImage : Bool) :
    (site.classify link isImage).url? = if IsWebLink link then some link else none := by
  by_cases web : IsWebLink link
  · rw [if_pos web, classify_eq_external_iff.2 ⟨rfl, web⟩, LinkShape.url?]
  · rw [if_neg web]
    cases shape : site.classify link isImage with
    | external url => exact absurd (classify_eq_external_iff.1 shape).2 web
    | _ => rfl

theorem Site.filterMap_url?_classify (site : Site) (links : List Occurrence) :
    (links.filterMap fun o => (site.classify o.link o.isImage).url?) = (links.map (·.link)).filter IsWebLink := by
  rw [← List.filterMap_eq_filter, List.filterMap_map]
  congr 1
  funext o
  simp [url?_classify, Option.guard]

/-- What is left of a verdict when links to the web are passed over. -/
def Verdict.offline (v : Verdict) : Verdict where
  failure? := v.failure?.filter (¬IsWebLink ·.link)
  diagnostics := v.diagnostics.filter (¬IsWebLink ·.link)
  probed := []

def TextCheck.offline (c : TextCheck) : TextCheck where
  linksChecked := c.linksChecked
  broken := c.broken.filter (¬IsWebLink ·.link)
  diagnostics := c.diagnostics.filter (¬IsWebLink ·.link)
  probed := []

def Outcome.offline (o : Outcome) : Outcome := { o with broken := o.broken.filter (¬IsWebLink ·.link) }

theorem Occurrence.offline_verdict (o : Occurrence) (found : Finding) :
    (o.verdict found).offline =
      if IsWebLink o.link then ⟨none, [], []⟩ else { o.verdict found with probed := [] } := by
  obtain ⟨reason?, notes, probed⟩ := found
  by_cases web : IsWebLink o.link
  · cases reason? <;> simp [verdict, Verdict.offline, List.filter_map, Function.comp_def, web]
  · cases reason? <;> simp [verdict, Verdict.offline, List.filter_map, Function.comp_def, web]

theorem TextCheck.offline_ofVerdicts (verdicts : List Verdict) :
    (ofVerdicts verdicts).offline = ofVerdicts (verdicts.map (·.offline)) := by
  simp only [offline, ofVerdicts, List.length_map, List.filterMap_map, List.flatMap_map, List.filter_filterMap,
    List.filter_flatMap, TextCheck.mk.injEq]
  exact ⟨trivial, rfl, rfl, by simp [Verdict.offline]⟩

theorem Outcome.offline_ofChecks (checks : List (Path × TextCheck)) :
    (ofChecks checks).offline = ofChecks (checks.map (Prod.map id TextCheck.offline)) := by
  simp only [offline, ofChecks, List.length_map, List.foldr_map, List.flatMap_map, List.filter_flatMap]
  rfl

theorem Aim.finding_of_no_page {aim : Aim} (noPage : ∀ url, aim ≠ .page url) (t : Tree) (probe probe' : Probe) :
    aim.finding t probe = aim.finding t probe' ∧ (aim.finding t probe).probed = [] := by
  cases aim with
  | page url => exact absurd rfl (noPage url)
  | file kind path =>
    refine ⟨rfl, ?_⟩
    simp only [finding, FileLink.finding]
    split <;> rfl
  | settled | pinned | malformed => exact ⟨rfl, rfl⟩

/-- The files that a scan gets to read when it takes them one after the other: those before the first that cannot
be read. -/
def Tree.filesRead (t : Tree) (root : Path) : List Path :=
  match t.markdownFiles root with
  | .error _ => []
  | .ok files => files.takeWhile fun file => (t.read file).isOk

def notedIn (events : List Event) : List Diagnostic := events.filterMap Event.diagnostic?

/-- What a scan is to the same scan with the pages of the web: it has the same counts and ends with the same error;
broken links to the web and notes about such links are left out, all else stays in order; no page is asked for. -/
structure Scan.IsOffline (skipped asked : Scan) : Prop where
  result : skipped.result = asked.result.map (·.offline)
  noted : notedIn skipped.events = (notedIn asked.events).filter (¬IsWebLink ·.link)
  silent : skipped.probed = []

@[simp] theorem notedIn_nil : notedIn [] = [] := rfl

@[simp] theorem notedIn_append (events events' : List Event) :
    notedIn (events ++ events') = notedIn events ++ notedIn events' :=
  List.filterMap_append

theorem TextCheck.notedIn_events (c : TextCheck) (file : Path) : notedIn (c.events file) = c.diagnostics := by
  simp [events, notedIn, List.filterMap_map, Event.diagnostic?, Function.comp_def]

theorem notedIn_checks (checks : List (Path × TextCheck)) :
    notedIn (checks.flatMap fun (file, check) => check.events file) = checks.flatMap (·.2.diagnostics) := by
  rw [notedIn, List.filterMap_flatMap]
  congr 1
  funext entry
  exact entry.2.notedIn_events entry.1

@[simp] theorem notedIn_filesFound (files : Nat) (root : Path) (site : Site) (skip : Bool) (events : List Event) :
    notedIn (.filesFound files root site skip :: events) = notedIn events := rfl

@[simp] theorem notedIn_finished (links broken : Nat) : notedIn [.finished links broken] = [] := rfl

@[simp] theorem notedIn_loops (loops : List Path) : notedIn (loops.map .loopSkipped) = [] := by
  simp [notedIn, Event.diagnostic?]

namespace Context

/-- The same scan, which passes over links to the web. -/
def skipping (ctx : Context) : Context := { ctx with skipExternal := true }

/-- The same scan, which asks for the pages of the web. -/
def asking (ctx : Context) : Context := { ctx with skipExternal := false }

variable (ctx : Context) (t : Tree) (probe probe' : Probe) {o : Occurrence}

theorem aim_of_web (web : IsWebLink o.link) :
    ctx.aim o = if ctx.skipExternal then .settled else .page o.link := by
  rw [aim, Site.classify_eq_external_iff.2 ⟨rfl, web⟩]

/-- No other link has to do with the setting. -/
theorem aim_of_not_web (noWeb : ¬IsWebLink o.link) :
    ctx.skipping.aim o = ctx.asking.aim o ∧ ∀ url, ctx.asking.aim o ≠ .page url := by
  have same : ctx.skipping.site = ctx.asking.site := rfl
  rw [aim, aim, same]
  cases shape : ctx.asking.site.classify o.link o.isImage with
  | external url => exact absurd (Site.classify_eq_external_iff.1 shape).2 noWeb
  | absoluteDoc page version => cases version <;> exact ⟨rfl, nofun⟩
  | _ => exact ⟨rfl, nofun⟩

theorem check_skipping (o : Occurrence) :
    ctx.skipping.check t probe o = (ctx.asking.check t probe' o).offline := by
  rw [check, check]
  by_cases web : IsWebLink o.link
  · rw [Occurrence.offline_verdict, if_pos web, ctx.skipping.aim_of_web web]
    rfl
  · obtain ⟨same, noPage⟩ := ctx.aim_of_not_web web
    obtain ⟨found, probed⟩ := Aim.finding_of_no_page noPage t probe probe'
    rw [Occurrence.offline_verdict, if_neg web, same, ← found]
    simp only [Occurrence.verdict, probed]

theorem probed_check_asking (o : Occurrence) :
    (ctx.asking.check t probe o).probed = (ctx.site.classify o.link o.isImage).url?.toList := by
  rw [Site.url?_classify]
  by_cases web : IsWebLink o.link
  · rw [if_pos web, check, ctx.asking.aim_of_web web]
    rfl
  · rw [if_neg web]
    exact (Aim.finding_of_no_page (ctx.aim_of_not_web web).2 t probe probe).2

theorem checkText_skipping (text : Text) (file : Path) :
    ctx.skipping.checkText t probe text file = (ctx.asking.checkText t probe' text file).offline := by
  rw [checkText, checkText, TextCheck.offline_ofVerdicts, List.map_map]
  congr 1
  exact List.map_congr_left fun o _ => ctx.check_skipping t probe probe' o

theorem probed_checkText_asking (text : Text) (file : Path) :
    (ctx.asking.checkText t probe text file).probed =
      (occurrences text file).filterMap fun o => (ctx.site.classify o.link o.isImage).url? := by
  simp only [checkText, TextCheck.ofVerdicts, List.flatMap_map, probed_check_asking,
    List.filterMap_eq_flatMap_toList]

theorem checkFile_skipping (file : Path) :
    ctx.skipping.checkFile t probe file = (ctx.asking.checkFile t probe' file).map (·.offline) := by
  rw [checkFile, checkFile]
  cases t.read file with
  | error cause => rfl
  | ok text => exact congrArg Except.ok (ctx.checkText_skipping t probe probe' text file)

theorem checkFiles_skipping (files : List Path) :
    ctx.skipping.checkFiles t probe files =
      ((ctx.asking.checkFiles t probe' files).1.map (Prod.map id TextCheck.offline),
        (ctx.asking.checkFiles t probe' files).2) := by
  induction files with
  | nil => rfl
  | cons file files ih =>
    rw [checkFiles, checkFiles, ctx.checkFile_skipping t probe probe']
    cases ctx.asking.checkFile t probe' file with
    | error e => rfl
    | ok check =>
      simp only [Except.map, ih, List.map_cons]
      rfl

theorem probed_checkFiles_asking (files : List Path) :
    (ctx.asking.checkFiles t probe files).1.flatMap (·.2.probed) =
      (t.occurrencesIn (files.takeWhile fun file => (t.read file).isOk)).filterMap fun o =>
        (ctx.site.classify o.link o.isImage).url? := by
  induction files with
  | nil => rfl
  | cons file files ih =>
    rw [checkFiles, checkFile, List.takeWhile_cons]
    cases read : t.read file with
    | error cause => rfl
    | ok text =>
      simp only [List.flatMap_cons, ih, probed_checkText_asking, Except.isOk, Except.toBool, if_true,
        Tree.occurrencesIn, read, List.filterMap_append]

theorem scan_skipping (root : Path) :
    (ctx.skipping.scan t probe root).IsOffline (ctx.asking.scan t probe' root) := by
  cases listed : t.markdownFiles root with
  | error e =>
    simp only [scan, listed]
    exact ⟨rfl, by simp, rfl⟩
  | ok files =>
    cases checked : ctx.asking.checkFiles t probe' files with | mk checks failed? =>
    have noted : notedIn ((checks.map (Prod.map id TextCheck.offline)).flatMap fun (file, check) =>
          check.events file) =
        (notedIn (checks.flatMap fun (file, check) => check.events file)).filter (¬IsWebLink ·.link) := by
      rw [notedIn_checks, notedIn_checks, List.flatMap_map, List.filter_flatMap]
      rfl
    have silent : (checks.map (Prod.map id TextCheck.offline)).flatMap (·.2.probed) = [] := by
      rw [List.flatMap_map]
      exact List.flatMap_eq_nil_iff.2 fun _ _ => rfl
    simp only [scan, listed, ctx.checkFiles_skipping t probe probe', checked]
    cases failed? with
    | some e => exact ⟨rfl, by simpa using noted, silent⟩
    | none => exact ⟨congrArg Except.ok (Outcome.offline_ofChecks checks).symm, by simpa using noted, silent⟩

theorem probed_scan_asking (root : Path) :
    (ctx.asking.scan t probe root).probed =
      ((t.occurrencesIn (t.filesRead root)).map (·.link)).filter IsWebLink := by
  rw [← ctx.site.filterMap_url?_classify, Tree.filesRead]
  cases listed : t.markdownFiles root with
  | error e => simp only [scan, listed, Tree.occurrencesIn, List.flatMap_nil, List.filterMap_nil]
  | ok files =>
    have probed := ctx.probed_checkFiles_asking t probe files
    cases checked : ctx.asking.checkFiles t probe files with | mk checks failed? =>
    rw [checked] at probed
    simp only [scan, listed, checked]
    cases failed? with
    | some e => exact probed
    | none => exact probed

end Context

end DocLinks
