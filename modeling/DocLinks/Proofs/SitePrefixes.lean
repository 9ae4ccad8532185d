import DocLinks.Proofs.Settings
import DocLinks.Proofs.ShapeGrammar
import DocLinks.Proofs.SiteRoots

namespace DocLinks

/-- A link, not of an image, that lies under a prefix of the site. -/
def Occurrence.IsUnder (o : Occurrence) (sitePrefix : Text) : Prop :=
  o.isImage = false ∧ '/' :: Text.strip '/' sitePrefix ++ ['/'] <+: o.link

instance (o : Occurrence) (sitePrefix : Text) : Decidable (o.IsUnder sitePrefix) :=
  inferInstanceAs (Decidable (_ ∧ _))

theorem LinkShape.rule?_eq_none_iff {shape : LinkShape} : shape.rule? = none ↔ ∃ flag, shape = .invalid flag := by
  cases shape <;> simp [rule?]

namespace Site

variable {sitePrefix sitePrefix' : Text} {o : Occurrence} {shape : LinkShape} {rule : Rule}

/-- What is read in a link that lies under neither prefix is read so whichever is the prefix of the site: only the
rules of pages and of raw files look at it. -/
theorem Reads.of_not_isUnder (reads : (ofPrefix sitePrefix).Reads o.link shape) (named : shape.rule? = some rule)
    (accepts : rule.audience.accepts o.isImage = true) (apart : ¬o.IsUnder sitePrefix)
    (apart' : ¬o.IsUnder sitePrefix') : (ofPrefix sitePrefix').Reads o.link shape := by
  have forDocs (docs : Audience.docs.accepts o.isImage = true) : o.isImage = false := by
    simpa [Audience.accepts] using docs
  cases shape <;> cases named
  case absoluteDoc page version =>
    obtain ⟨-, -, -, place, -, spelled⟩ := reads_absoluteDoc_iff.1 reads
    refine absurd ⟨forDocs accepts, ?_⟩ apart
    rw [spelled]
    cases version with
    | none => exact ⟨page ++ place, by simp [ofPrefix]⟩
    | some v => exact ⟨v ++ '/' :: page ++ place, by simp [ofPrefix]⟩
  case rawAbsoluteFile => exact ⟨fun under => apart' ⟨forDocs accepts, under⟩, reads.2⟩
  all_goals exact reads

theorem classify_of_not_isUnder (apart : ¬o.IsUnder sitePrefix) (apart' : ¬o.IsUnder sitePrefix') :
    (ofPrefix sitePrefix).classify o.link o.isImage = (ofPrefix sitePrefix').classify o.link o.isImage := by
  -- A shape that a rule reads on one site is read on the other, and a link without one is invalid on both.
  have carried {p q : Text} (apart : ¬o.IsUnder p) (apart' : ¬o.IsUnder q) {shape : LinkShape}
      (classified : (ofPrefix p).classify o.link o.isImage = shape) {rule : Rule}
      (named : shape.rule? = some rule) : (ofPrefix q).classify o.link o.isImage = shape := by
    obtain ⟨accepts, reads⟩ := (classify_eq_iff named).1 classified
    exact (classify_eq_iff named).2 ⟨accepts, reads.of_not_isUnder named accepts apart apart'⟩
  cases named : ((ofPrefix sitePrefix).classify o.link o.isImage).rule? with
  | some rule => exact (carried apart apart' rfl named).symm
  | none =>
    cases named' : ((ofPrefix sitePrefix').classify o.link o.isImage).rule? with
    | some rule => exact carried apart' apart rfl named'
    | none =>
      obtain ⟨flag, invalid⟩ := LinkShape.rule?_eq_none_iff.1 named
      obtain ⟨flag', invalid'⟩ := LinkShape.rule?_eq_none_iff.1 named'
      rw [invalid, invalid', flag_of_invalid invalid, flag_of_invalid invalid']

theorem onlyRule_of_isUnder (under : o.IsUnder sitePrefix) :
    (ofPrefix sitePrefix).onlyRule o.link o.isImage = .absoluteDoc := by
  obtain ⟨doc, inside⟩ := under
  obtain ⟨rest, spelled⟩ := id inside
  have first : o.link.head? = some '/' := by rw [← spelled]; rfl
  rw [onlyRule, if_neg (by simp [first]), if_neg (by simp [first]), if_pos first, doc, if_neg Bool.false_ne_true]
  exact if_pos inside

/-- A link under the prefix is a page, or no link at all. -/
theorem classify_of_isUnder (under : o.IsUnder sitePrefix) :
    (∃ page version, (ofPrefix sitePrefix).classify o.link o.isImage = .absoluteDoc page version) ∨
      (ofPrefix sitePrefix).classify o.link o.isImage = .invalid false := by
  have only {rule : Rule} (other : rule.name ≠ Rule.absoluteDoc.name) {shape : LinkShape}
      (named : shape.rule? = some rule) : (ofPrefix sitePrefix).classify o.link o.isImage ≠ shape := by
    intro classified
    obtain ⟨accepts, reads⟩ := (classify_eq_iff named).1 classified
    have decided := reads.onlyRule_eq named accepts
    rw [onlyRule_of_isUnder under] at decided
    exact other (congrArg Rule.name decided.symm)
  cases classified : (ofPrefix sitePrefix).classify o.link o.isImage with
  | absoluteDoc page version => exact .inl ⟨page, version, rfl⟩
  | invalid flag => exact .inr (by rw [flag_of_invalid classified, under.1])
  | _ => exact absurd classified (only (by decide) rfl)

end Site

/-- The same settings for a site with another prefix. -/
def Context.onSite (ctx : Context) (sitePrefix : Text) : Context := { ctx with sitePrefix }

theorem Context.check_of_not_isUnder (ctx : Context) (t : Tree) (probe : Probe) {p q : Text} {o : Occurrence}
    (apart : ¬o.IsUnder p) (apart' : ¬o.IsUnder q) :
    (ctx.onSite p).site.classify o.link o.isImage = (ctx.onSite q).site.classify o.link o.isImage ∧
      (ctx.onSite p).check t probe o = (ctx.onSite q).check t probe o := by
  have same : (ctx.onSite p).site.classify o.link o.isImage = (ctx.onSite q).site.classify o.link o.isImage :=
    Site.classify_of_not_isUnder apart apart'
  have aim : (ctx.onSite p).aim o = (ctx.onSite q).aim o := by
    rw [Context.aim, Context.aim, same]
    rfl
  exact ⟨same, by rw [check, check, aim]⟩

/-- What is found in a list, with that of the entries that pass a test taken to the front. -/
theorem filterMap_perm_of_test {α β : Type} (entries : List α) (found? : α → Option β) (test : α → Bool) :
    (entries.filterMap found?).Perm
      ((entries.filter test).filterMap found? ++ (entries.filter (!test ·)).filterMap found?) := by
  rw [← List.filterMap_append]
  exact ((List.filter_append_perm test entries).filterMap found?).symm

/-- The broken links of a document, on two sites: those that have no page of either prefix in them are the same, and
what is left in each report are links under one of the prefixes. -/
theorem Context.broken_onSite (ctx : Context) (t : Tree) (probe : Probe) (p q text : Text) (file : Path) :
    let touched (o : Occurrence) : Bool := o.IsUnder p ∨ o.IsUnder q
    let report (site : Text) := ((ctx.onSite site).checkText t probe text file).broken
    let under (site : Text) := ((occurrences text file).filter touched).filterMap fun o =>
      ((ctx.onSite site).check t probe o).failure?
    ∃ common, common.Sublist (report p) ∧ common.Sublist (report q) ∧
      (report p).Perm (under p ++ common) ∧ (report q).Perm (under q ++ common) := by
  intro touched report under
  let apart := (occurrences text file).filter (!touched ·)
  let failure? (site : Text) (o : Occurrence) := ((ctx.onSite site).check t probe o).failure?
  have broken (site : Text) : report site = (occurrences text file).filterMap (failure? site) := by
    simp only [report, checkText, TextCheck.ofVerdicts, List.filterMap_map]
    rfl
  have same : apart.filterMap (failure? p) = apart.filterMap (failure? q) := by
    refine List.filterMap_congr fun o member => ?_
    have untouched := (List.mem_filter.1 member).2
    simp only [touched, Bool.not_eq_true', decide_eq_false_iff_not, not_or] at untouched
    exact congrArg Verdict.failure? (ctx.check_of_not_isUnder t probe untouched.1 untouched.2).2
  have part (site : Text) : (apart.filterMap (failure? site)).Sublist (report site) := by
    rw [broken]
    exact List.filter_sublist.filterMap _
  have whole (site : Text) : (report site).Perm (under site ++ apart.filterMap (failure? site)) := by
    rw [broken]
    exact filterMap_perm_of_test _ _ _
  exact ⟨apart.filterMap (failure? p), part p, same ▸ part q, whole p, same ▸ whole q⟩

namespace Options

/-- The same settings with other prefixes. -/
def withPrefixes (o : Options) (sitePrefix staticPrefix : Text) : Options := { o with sitePrefix, staticPrefix }

/-- Whether settings are accepted does not depend on the prefixes. -/
theorem ofOptions_withPrefixes (o : Options) (t : Tree) (sitePrefix staticPrefix : Text) :
    Config.ofOptions t (o.withPrefixes sitePrefix staticPrefix) = (Config.ofOptions t o).map fun config =>
      { config with sitePrefix := Text.strip '/' sitePrefix, staticPrefix := Text.strip '/' staticPrefix } := by
  unfold Config.ofOptions withPrefixes
  cases o.docsRoot.mapM (·.named t.isFolder .docsRootNotFolder) with
  | error e => rfl
  | ok docsRoot =>
    cases o.path.named (fun path => t.isFolder path || t.isFile path) .pathNotFound with
    | error e => rfl
    | ok path =>
      cases o.staticRoot.mapM (·.named t.isFolder .staticRootNotFolder) with
      | error e => rfl
      | ok staticRoot => by_cases none : o.concurrency = 0 <;> simp [bind, Except.bind, none] <;> rfl

/-- The prefix of static files comes into no result, and neither do slashes around the prefix of the site. -/
theorem checkDocs_withPrefixes (o : Options) (t : Tree) (asJson : Bool) (probe : Option Nat → Probe) {p q : Text}
    (same : Text.strip '/' p = Text.strip '/' q) (staticPrefix staticPrefix' : Text) :
    let run (o : Options) := checkDocs t o asJson fun config => probe config.timeout
    (run (o.withPrefixes p staticPrefix)).result = (run (o.withPrefixes q staticPrefix')).result ∧
      (run (o.withPrefixes p staticPrefix)).output = (run (o.withPrefixes q staticPrefix')).output := by
  simp only [checkDocs, ofOptions_withPrefixes, same]
  cases Config.ofOptions t o with
  | error e => exact ⟨rfl, rfl⟩
  | ok config =>
    simp only [Except.map]
    have alike (staticPrefix : Text) : (({ config with
      sitePrefix := Text.strip '/' q, staticPrefix := Text.strip '/' staticPrefix } : Config).context t).Alike
        (({ config with sitePrefix := Text.strip '/' q } : Config).context t) :=
      ⟨rfl, rfl, rfl, rfl, rfl⟩
    simp only [(alike staticPrefix).scan_eq, (alike staticPrefix').scan_eq]
    split <;> exact ⟨rfl, rfl⟩

end Options

/-- What the prefixes come into. The result and the report are the same whatever is the prefix of static files, and
with any number of slashes around the prefix of the site. Images, and links that lie under neither of two prefixes,
are checked alike on both sites, so that two reports on a document only differ in links of pages under one of them.
A link under the prefix of the site is a page of the site or no link, and nothing else. -/
theorem prefixes_decide_only_pages :
    (∀ (t : Tree) (o : Options) (asJson : Bool) (probe : Option Nat → Probe) (segment : Text) (m n m' n' : Nat)
        (staticPrefix staticPrefix' : Text),
      let slashes (n : Nat) : Text := List.replicate n '/'
      let run (sitePrefix staticPrefix : Text) :=
        checkDocs t (o.withPrefixes sitePrefix staticPrefix) asJson fun config => probe config.timeout
      let first := run (slashes m ++ segment ++ slashes n) staticPrefix
      let second := run (slashes m' ++ segment ++ slashes n') staticPrefix'
      first.result = second.result ∧ first.output = second.output) ∧
    (∀ (ctx : Context) (t : Tree) (probe : Probe) (p q : Text) (o : Occurrence), ¬o.IsUnder p → ¬o.IsUnder q →
      (ctx.onSite p).site.classify o.link o.isImage = (ctx.onSite q).site.classify o.link o.isImage ∧
        (ctx.onSite p).check t probe o = (ctx.onSite q).check t probe o) ∧
    (∀ (ctx : Context) (t : Tree) (probe : Probe) (p q text : Text) (file : Path),
      let touched (o : Occurrence) : Bool := o.IsUnder p ∨ o.IsUnder q
      let report (site : Text) := ((ctx.onSite site).checkText t probe text file).broken
      let under (site : Text) := ((occurrences text file).filter touched).filterMap fun o =>
        ((ctx.onSite site).check t probe o).failure?
      ∃ common, common.Sublist (report p) ∧ common.Sublist (report q) ∧
        (report p).Perm (under p ++ common) ∧ (report q).Perm (under q ++ common)) ∧
    ∀ (p : Text) (o : Occurrence), o.IsUnder p →
      (∃ page version, (Site.ofPrefix p).classify o.link o.isImage = .absoluteDoc page version) ∨
        (Site.ofPrefix p).classify o.link o.isImage = .invalid false := by
  refine ⟨?_, fun ctx t probe p q o => ctx.check_of_not_isUnder t probe, Context.broken_onSite,
    fun p o => Site.classify_of_isUnder⟩
  intro t o asJson probe segment m n m' n' staticPrefix staticPrefix' slashes run first second
  have same : Text.strip '/' (slashes m ++ segment ++ slashes n) =
      Text.strip '/' (slashes m' ++ segment ++ slashes n') := by
    rw [Text.strip_surrounded, Text.strip_surrounded]
  exact o.checkDocs_withPrefixes t asJson probe same staticPrefix staticPrefix'

/-- One prefix begins with the other. A link that only looks like one below the shorter prefix is checked alike on
both sites, and one between the two prefixes is no link on the first site and a raw file on the second. -/
theorem prefixes_decide_only_pages_nested :
    let p := "a".toList
    let q := "/a/b/".toList
    let outside : Occurrence := ⟨"/ab/c.md".toList, "d.md".toList, false⟩
    let between : Occurrence := ⟨"/a/c.md".toList, "d.md".toList, false⟩
    let page : Occurrence := ⟨"/a/b/c".toList, "d.md".toList, false⟩
    (Context.usual.onSite p).check ⟨[], []⟩ (fun _ => .status 200) outside =
        (Context.usual.onSite q).check ⟨[], []⟩ (fun _ => .status 200) outside ∧
      (Site.ofPrefix p).classify between.link false = .invalid false ∧
      (Site.ofPrefix q).classify between.link false = .rawAbsoluteFile ∧
      ((∃ path version, (Site.ofPrefix q).classify page.link false = .absoluteDoc path version) ∨
        (Site.ofPrefix q).classify page.link false = .invalid false) := by
  intro p q outside between page
  obtain ⟨-, alike, -, pages⟩ := prefixes_decide_only_pages
  have apart : ¬outside.IsUnder p ∧ ¬outside.IsUnder q := by decide
  have under : page.IsUnder q := by decide
  exact ⟨(alike Context.usual ⟨[], []⟩ (fun _ => .status 200) p q outside apart.1 apart.2).2, by decide +kernel,
    by decide +kernel, pages q page under⟩

end DocLinks
