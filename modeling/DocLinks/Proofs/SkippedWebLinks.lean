import DocLinks.Proofs.ScanSchedules
import DocLinks.Proofs.WebLinks

namespace DocLinks

/-- What is left of the work on a file when links to the web are passed over. -/
def Progress.offline : Progress → Progress
  | .unread => .unread
  | .checking cursor verdicts => .checking cursor (verdicts.map (·.offline))
  | .checked check => .checked check.offline
  | .failed error => .failed error

def Job.offline (job : Job) : Job := ⟨job.file, job.progress.offline⟩

structure JobStep.IsOffline (skipped asked : JobStep) : Prop where
  progress : skipped.progress = asked.progress.offline
  noted : notedIn skipped.events = (notedIn asked.events).filter (¬IsWebLink ·.link)
  silent : skipped.probed = []

theorem Verdict.notedIn_events (v : Verdict) : notedIn v.events = v.diagnostics := by
  simp [events, notedIn, List.filterMap_map, Event.diagnostic?, Function.comp_def]

section

variable {ctx : Context} {t : Tree} {probe probe' : Probe} {job : Job} {step : JobStep}

theorem JobStep.isOffline_resolved (cursor : Cursor) (verdicts : List Verdict) (o : Occurrence) :
    IsOffline
      ⟨.checking cursor (verdicts.map (·.offline) ++ [ctx.skipping.check t probe o]),
        (ctx.skipping.check t probe o).events, (ctx.skipping.check t probe o).probed⟩
      ⟨.checking cursor (verdicts ++ [ctx.asking.check t probe' o]), (ctx.asking.check t probe' o).events,
        (ctx.asking.check t probe' o).probed⟩ := by
  rw [ctx.check_skipping t probe probe']
  refine ⟨?_, ?_, rfl⟩
  · rw [Progress.offline, List.map_append, List.map_singleton]
  · rw [Verdict.notedIn_events, Verdict.notedIn_events, Verdict.offline]

theorem JobStep.isOffline_summed (verdicts : List Verdict) (file : Path) :
    let skipped := TextCheck.ofVerdicts (verdicts.map (·.offline))
    let asked := TextCheck.ofVerdicts verdicts
    IsOffline ⟨.checked skipped, [skipped.closing file], []⟩ ⟨.checked asked, [asked.closing file], []⟩ :=
  ⟨congrArg Progress.checked (TextCheck.offline_ofVerdicts verdicts).symm, rfl, rfl⟩

/-- What is done next for a file can be done just as well without the pages of the web. -/
theorem Job.Advance.skip (advance : job.Advance ctx.asking t probe' step) (probe : Probe) :
    ∃ step', job.offline.Advance ctx.skipping t probe step' ∧ step'.IsOffline step := by
  cases advance with
  | opened read => exact ⟨_, .opened read, rfl, rfl, rfl⟩
  | unreadable read => exact ⟨_, .unreadable read, rfl, rfl, rfl⟩
  | resolved found => exact ⟨_, .resolved found, JobStep.isOffline_resolved _ _ _⟩
  | summed ended => exact ⟨_, .summed ended, JobStep.isOffline_summed _ _⟩

theorem Job.Advance.ask (advance : job.offline.Advance ctx.skipping t probe step) (probe' : Probe) :
    ∃ step', job.Advance ctx.asking t probe' step' ∧ step.IsOffline step' := by
  obtain ⟨file, progress⟩ := job
  cases progress with
  | unread =>
    cases advance with
    | opened read => exact ⟨_, .opened read, rfl, rfl, rfl⟩
    | unreadable read => exact ⟨_, .unreadable read, rfl, rfl, rfl⟩
  | checking cursor verdicts =>
    cases advance with
    | resolved found => exact ⟨_, .resolved found, JobStep.isOffline_resolved _ _ _⟩
    | summed ended => exact ⟨_, .summed ended, JobStep.isOffline_summed _ _⟩
  | checked check => cases advance
  | failed error => cases advance

end

/-- Where each step of one system is matched by a step of the other, each run is matched by a run. -/
theorem exists_run_of_steps {α β : Type} {r : α → α → Prop} {s : β → β → Prop} {R : α → β → Prop}
    (step : ∀ {a a' b}, R a b → r a a' → ∃ b', s b b' ∧ R a' b') {a a' : α} {b : β} (start : R a b)
    (run : Relation.ReflTransGen r a a') : ∃ b', Relation.ReflTransGen s b b' ∧ R a' b' := by
  induction run with
  | refl => exact ⟨b, .refl, start⟩
  | tail _ next ih =>
    obtain ⟨c, run, matched⟩ := ih
    obtain ⟨c', next', matched⟩ := step matched next
    exact ⟨c', run.tail next', matched⟩

namespace Pool

structure IsOffline (skipped asked : Pool) : Prop where
  waiting : skipped.waiting = asked.waiting
  started : skipped.started = asked.started.map (·.offline)
  taken : skipped.taken = asked.taken.map (Prod.map id TextCheck.offline)
  failed : skipped.failed? = asked.failed?
  noted : notedIn skipped.events = (notedIn asked.events).filter (¬IsWebLink ·.link)
  silent : skipped.probed = []

variable {ctx : Context} {t : Tree} {probe probe' : Probe} {width : Nat} {skipped asked next : Pool}

theorem isOffline_opening (root : Path) : (opening ctx.skipping t root).IsOffline (opening ctx.asking t root) := by
  rw [opening, opening]
  cases t.markdownFiles root with
  | error e => exact ⟨rfl, rfl, rfl, rfl, by simp, rfl⟩
  | ok files => exact ⟨rfl, rfl, rfl, rfl, by simp, rfl⟩

/-- A step of the one scan is a step of the other. -/
theorem IsOffline.skip (offline : skipped.IsOffline asked) (step : Step ctx.asking t probe' width asked next)
    (probe : Probe) :
    ∃ next', Step ctx.skipping t probe width skipped next' ∧ next'.IsOffline next := by
  obtain ⟨waiting, started, taken, failed?, events, probed⟩ := skipped
  obtain ⟨rfl, rfl, rfl, rfl, noted, rfl⟩ := offline
  cases step with
  | start room =>
    refine ⟨_, .start (by simpa using room), rfl, ?_, rfl, rfl, noted, rfl⟩
    simp [Job.offline, Progress.offline]
  | advance front advance =>
    obtain ⟨step', advance', progress, noted', silent⟩ := advance.skip probe
    simp only [List.map_append, List.map_cons]
    refine ⟨_, .advance _ advance', rfl, ?_, rfl, rfl, ?_, silent⟩
    · simp [Job.offline, Job.after, progress]
    · simp only [notedIn_append, List.filter_append, noted, noted']
  | take => exact ⟨_, .take, rfl, rfl, by simp, rfl, noted, rfl⟩
  | fail => exact ⟨_, .fail, rfl, rfl, rfl, rfl, noted, rfl⟩

theorem IsOffline.ask (offline : skipped.IsOffline asked) (step : Step ctx.skipping t probe width skipped next)
    (probe' : Probe) :
    ∃ next', Step ctx.asking t probe' width asked next' ∧ next.IsOffline next' := by
  obtain ⟨waiting, started, taken, failed?, events, probed⟩ := skipped
  obtain ⟨rfl, sameStarted, rfl, rfl, noted, rfl⟩ := offline
  obtain ⟨waiting, started', taken, failed?, events', probed'⟩ := asked
  cases step with
  | start room =>
    cases sameStarted
    refine ⟨_, .start (by simpa using room), rfl, ?_, rfl, rfl, noted, rfl⟩
    simp [Job.offline, Progress.offline]
  | advance front advance =>
    obtain ⟨front, later, rfl, rfl, split⟩ := List.map_eq_append_iff.1 sameStarted.symm
    obtain ⟨job, back, rfl, rfl, rfl⟩ := List.map_eq_cons_iff.1 split
    obtain ⟨step', advance', progress, noted', silent⟩ := advance.ask probe'
    refine ⟨_, .advance _ advance', rfl, ?_, rfl, rfl, ?_, silent⟩
    · simp [Job.offline, Job.after, progress]
    · simp only [notedIn_append, List.filter_append, noted, noted']
  | take =>
    obtain ⟨⟨file, progress⟩, started, rfl, first, rfl⟩ := List.map_eq_cons_iff.1 sameStarted.symm
    -- no other progress looks like that of a checked file
    cases progress <;> cases first
    exact ⟨_, .take, rfl, rfl, by simp, rfl, noted, rfl⟩
  | fail =>
    obtain ⟨⟨file, progress⟩, started, rfl, first, rfl⟩ := List.map_eq_cons_iff.1 sameStarted.symm
    cases progress <;> cases first
    exact ⟨_, .fail, rfl, rfl, rfl, rfl, noted, rfl⟩

/-- Two scans that differ by the pages of the web end together. -/
theorem IsOffline.scan?_cases (offline : skipped.IsOffline asked) :
    (skipped.scan? = none ∧ asked.scan? = none) ∨
      ∃ s a, skipped.scan? = some s ∧ asked.scan? = some a ∧ s.IsOffline a := by
  obtain ⟨waiting, started, taken, failed?, events, probed⟩ := skipped
  obtain ⟨rfl, rfl, rfl, rfl, noted, rfl⟩ := offline
  obtain ⟨waiting, started, taken, failed?, events', probed'⟩ := asked
  cases failed? with
  | some e => exact .inr ⟨_, _, rfl, rfl, rfl, noted, rfl⟩
  | none =>
    cases started with
    | cons job started => exact .inl ⟨rfl, rfl⟩
    | nil =>
      cases waiting with
      | cons file waiting => exact .inl ⟨rfl, rfl⟩
      | nil =>
        refine .inr ⟨_, _, rfl, rfl, congrArg Except.ok (Outcome.offline_ofChecks taken).symm, ?_, rfl⟩
        simpa using noted

end Pool

/-- What a scan with `width` places may end with, depending on the order in which files are worked on. -/
def Context.MayEnd (ctx : Context) (t : Tree) (probe : Probe) (width : Nat) (root : Path) (scan : Scan) : Prop :=
  ∃ pool, Relation.ReflTransGen (Pool.Step ctx t probe width) (.opening ctx t root) pool ∧ pool.scan? = some scan

namespace Context

variable {ctx : Context} {t : Tree} {probe probe' : Probe} {width : Nat} {root : Path}

theorem MayEnd.skip {asked : Scan} (ends : ctx.asking.MayEnd t probe' width root asked) (probe : Probe) :
    ∃ skipped, ctx.skipping.MayEnd t probe width root skipped ∧ skipped.IsOffline asked := by
  obtain ⟨pool, reached, ended⟩ := ends
  obtain ⟨pool', reached', offline⟩ := exists_run_of_steps (R := fun asked skipped => Pool.IsOffline skipped asked)
    (fun offline step => offline.skip step probe) (Pool.isOffline_opening root) reached
  rcases offline.scan?_cases with ⟨-, unfinished⟩ | ⟨skipped, asked', ended', same, offline⟩
  · cases ended.symm.trans unfinished
  · cases ended.symm.trans same
    exact ⟨skipped, ⟨pool', reached', ended'⟩, offline⟩

theorem MayEnd.ask {skipped : Scan} (ends : ctx.skipping.MayEnd t probe width root skipped) (probe' : Probe) :
    ∃ asked, ctx.asking.MayEnd t probe' width root asked ∧ skipped.IsOffline asked := by
  obtain ⟨pool, reached, ended⟩ := ends
  obtain ⟨pool', reached', offline⟩ := exists_run_of_steps (R := Pool.IsOffline)
    (fun offline step => offline.ask step probe') (Pool.isOffline_opening root) reached
  rcases offline.scan?_cases with ⟨unfinished, -⟩ | ⟨skipped', asked, same, ended', offline⟩
  · cases ended.symm.trans unfinished
  · cases ended.symm.trans same
    exact ⟨asked, ⟨pool', reached', ended'⟩, offline⟩

/-- Whatever the order, a scan ends as it does file by file, and shows the same of each file. -/
theorem MayEnd.agrees {scan : Scan} (ends : ctx.MayEnd t probe width root scan) (formed : t.WellFormed) :
    scan.result = (ctx.scan t probe root).result ∧ ∀ outcome, scan.result = .ok outcome →
      (∀ file, scan.events.filter (·.isAbout file) = (ctx.scan t probe root).events.filter (·.isAbout file)) ∧
        scan.probed.Perm (ctx.scan t probe root).probed := by
  obtain ⟨pool, reached, ended⟩ := ends
  cases listed : t.markdownFiles root with
  | error e =>
    have failed : (Pool.opening ctx t root).failed? = some e := by rw [Pool.opening, listed]
    cases Pool.eq_of_reach_of_failed failed reached
    rw [Pool.opening, listed] at ended
    cases ended
    refine ⟨by simp only [Context.scan, listed], fun outcome succeeds => ?_⟩
    cases succeeds
  | ok files =>
    have faithful := (Pool.faithful_opening listed).reach (formed.nodup_markdownFiles listed) reached
    exact ⟨faithful.result_eq listed ended, fun outcome => faithful.log_eq listed ended⟩

theorem MayEnd.probed_perm {scan : Scan} (ends : ctx.MayEnd t probe width root scan) (formed : t.WellFormed)
    {outcome : Outcome} (succeeds : scan.result = .ok outcome) :
    scan.probed.Perm (ctx.scan t probe root).probed := ((ends.agrees formed).2 outcome succeeds).2

/-- To pass over the links to the web takes away what is found out about them, and nothing else: the counts stay,
and so do the other broken links and notes, in their order. No page is asked for then; else the links to the web are
asked for as they are written, in their order. It is so for a document, for a scan that takes its files one after the
other, and, run for run, for one that works on several of them at a time. -/
theorem skipping_leaves_out_web_links (ctx : Context) (t : Tree) (probe probe' : Probe) :
    (∀ text file,
      let skipped := ctx.skipping.checkText t probe text file
      let asked := ctx.asking.checkText t probe' text file
      skipped.linksChecked = asked.linksChecked ∧
      skipped.broken = asked.broken.filter (¬IsWebLink ·.link) ∧
      skipped.diagnostics = asked.diagnostics.filter (¬IsWebLink ·.link) ∧
      skipped.probed = [] ∧
      asked.probed = (occurrences text file).filterMap (fun o => (ctx.site.classify o.link o.isImage).url?) ∧
      asked.probed = ((occurrences text file).map (·.link)).filter IsWebLink) ∧
    ∀ root,
      let webLinks := ((t.occurrencesIn (t.filesRead root)).map (·.link)).filter IsWebLink
      (ctx.skipping.scan t probe root).IsOffline (ctx.asking.scan t probe' root) ∧
      (ctx.asking.scan t probe' root).probed = webLinks ∧
      ∀ width,
        (∀ asked, ctx.asking.MayEnd t probe' width root asked →
          ∃ skipped, ctx.skipping.MayEnd t probe width root skipped ∧ skipped.IsOffline asked) ∧
        (∀ skipped, ctx.skipping.MayEnd t probe width root skipped →
          ∃ asked, ctx.asking.MayEnd t probe' width root asked ∧ skipped.IsOffline asked) ∧
        (t.WellFormed → ∀ asked outcome, ctx.asking.MayEnd t probe' width root asked →
          asked.result = .ok outcome → asked.probed.Perm webLinks) := by
  constructor
  · intro text file skipped asked
    have same : skipped = asked.offline := ctx.checkText_skipping t probe probe' text file
    have probed := ctx.probed_checkText_asking t probe' text file
    rw [same]
    exact ⟨rfl, rfl, rfl, rfl, probed, probed.trans (ctx.site.filterMap_url?_classify _)⟩
  · intro root webLinks
    have probed := ctx.probed_scan_asking t probe' root
    refine ⟨ctx.scan_skipping t probe probe' root, probed, fun width => ⟨?_, ?_, ?_⟩⟩
    · exact fun asked ends => ends.skip probe
    · exact fun skipped ends => ends.ask probe'
    · intro formed asked outcome ends succeeds
      have sameOften := ends.probed_perm formed succeeds
      rwa [probed] at sameOften

/-- A document with a page that refuses the request and a file that is not there. -/
theorem skipping_leaves_out_refused_page :
    let t : Tree := ⟨[(["a.md".toList], .file (.ofText "[a](http://a) [b](./b.md)".toList))], []⟩
    let ctx : Context := ⟨"docs".toList, "static".toList, "docs".toList, "static".toList, "docs".toList, true⟩
    let refuse : Probe := fun _ => .status 404
    let file := "a.md".toList
    let refused : Failure := ⟨"http://a".toList, file, "External link returned status code: 404".toList⟩
    let missing : Failure := ⟨"./b.md".toList, file, "Linked file b.md not found".toList⟩
    t.WellFormed ∧ ∃ asked skipped,
      ctx.asking.MayEnd t refuse 1 file asked ∧ asked.result = .ok ⟨1, 2, [refused, missing]⟩ ∧
      asked.probed.Perm ["http://a".toList] ∧
      ctx.skipping.MayEnd t refuse 1 file skipped ∧ skipped.result = .ok ⟨1, 2, [missing]⟩ ∧
      skipped.probed = [] := by
  intro t ctx refuse file refused missing
  have formed : t.WellFormed := by decide +kernel
  have listed : t.markdownFiles file = .ok [file] := by decide +kernel
  have noLoops : t.loops file = [] := by decide +kernel
  have opening : Pool.opening ctx.asking t file =
      ⟨[file], [], [], none, [.filesFound 1 file ctx.site false], []⟩ := by
    simp only [Pool.opening, listed, noLoops]
    rfl
  have read : t.read file = .ok "[a](http://a) [b](./b.md)".toList := by decide +kernel
  have first : (Cursor.start "[a](http://a) [b](./b.md)".toList file).next? =
      some (⟨"http://a".toList, file, false⟩, ⟨file, [], " [b](./b.md)".toList⟩) := by decide +kernel
  have second : (Cursor.mk file [] " [b](./b.md)".toList).next? =
      some (⟨"./b.md".toList, file, false⟩, ⟨file, [], []⟩) := by decide +kernel
  have done : (Cursor.mk file [] []).next? = none := by decide +kernel
  have reached : ∃ pool, Relation.ReflTransGen (Pool.Step ctx.asking t refuse 1) (.opening ctx.asking t file) pool ∧
      ∃ asked, pool.scan? = some asked ∧ asked.result = .ok ⟨1, 2, [refused, missing]⟩ := by
    rw [opening]
    refine ⟨_,
      .head (.start (by decide)) <| .head (.advance [] (.opened read)) <|
        .head (.advance [] (.resolved first)) <| .head (.advance [] (.resolved second)) <|
        .head (.advance [] (.summed done)) <| .head .take .refl, _, rfl, ?_⟩
    exact congrArg Except.ok (by decide +kernel)
  obtain ⟨pool, reached, asked, ended, result⟩ := reached
  have asks : ctx.asking.MayEnd t refuse 1 file asked := ⟨pool, reached, ended⟩
  obtain ⟨-, every⟩ := ctx.skipping_leaves_out_web_links t refuse refuse
  obtain ⟨-, -, schedules⟩ := every file
  obtain ⟨skip, -, perm⟩ := schedules 1
  obtain ⟨skipped, skips, same, -, silent⟩ := skip asked asks
  refine ⟨formed, asked, skipped, asks, result, ?_, skips, ?_, silent⟩
  · have links : ((t.occurrencesIn (t.filesRead file)).map (·.link)).filter IsWebLink = ["http://a".toList] := by
      decide +kernel
    exact links ▸ perm formed asked _ asks result
  · rw [same, result]
    exact congrArg Except.ok (by decide +kernel)

end Context

end DocLinks
