import DocLinks.Proofs.FilePool
import DocLinks.Proofs.MarkdownFiles
import Mathlib.Logic.Relation

namespace DocLinks

namespace Tree

theorem exists_walk_eq_singleton {t : Tree} {root : Path} (noFolder : t.isFolder root ≠ true) :
    ∃ v, t.walk root = [v] := by
  rw [walk]
  cases leads : t.locate root with
  | error cause => exact ⟨_, rfl⟩
  | ok place =>
    cases found : t.lookup? place with
    | none => exact ⟨.file root, by simp only [found]⟩
    | some entry =>
      cases entry with
      | folder => exact absurd (isFolder_iff.2 ⟨place, leads, found⟩) noFolder
      | file | link => exact ⟨.file root, by simp only [found]⟩

/-- No file is checked twice. -/
theorem WellFormed.nodup_markdownFiles {t : Tree} (formed : t.WellFormed) {root : Path} {files : List Path}
    (listed : t.markdownFiles root = .ok files) : files.Nodup := by
  by_cases folder : t.isFolder root = true
  · exact (formed.pairwise_markdownFiles folder listed).imp fun before => Path.ne_of_precedes before
  obtain ⟨v, walked⟩ := exists_walk_eq_singleton folder
  rw [markdownFiles, walked] at listed
  split at listed
  · cases listed
    exact List.nodup_singleton root
  split at listed
  · cases listed
  · cases listed
    rw [List.filterMap_cons]
    cases v.markdown? <;> simp

end Tree

theorem Event.isAbout_unique {e : Event} {file other : Path} (about : e.isAbout file = true)
    (aboutOther : e.isAbout other = true) : file = other := by
  cases e with
  | noted d => exact (beq_iff_eq.1 about).symm.trans (beq_iff_eq.1 aboutOther)
  | fileChecked checked links broken => exact (beq_iff_eq.1 about).symm.trans (beq_iff_eq.1 aboutOther)
  | starting | loopSkipped | filesFound | finished => cases about

namespace Job

variable {ctx : Context} {t : Tree} {probe : Probe} {job : Job} {step : JobStep}

theorem Advance.isAbout (advance : job.Advance ctx t probe step) (sound : job.Sound ctx t probe) :
    ∀ e ∈ step.events, e.isAbout job.file = true := by
  intro e member
  have logged : e ∈ (job.after step).events := advance.events_eq ▸ List.mem_append_right _ member
  exact (advance.sound sound).events_isAbout logged

end Job

theorem filter_isAbout_eq_nil {events : List Event} {file other : Path}
    (about : ∀ e ∈ events, e.isAbout file = true) (ne : file ≠ other) : events.filter (·.isAbout other) = [] := by
  rw [List.filter_eq_nil_iff]
  intro e member aboutOther
  exact ne (Event.isAbout_unique (about e member) aboutOther)

namespace Pool

variable {ctx : Context} {t : Tree} {probe : Probe} {width : Nat} {files : List Path} {pool next : Pool}

/-- What holds of a scan of some files at any time: what has been done of each file agrees with its check, and
what has been logged and asked for is what the files account for, file by file. -/
structure Faithful (ctx : Context) (t : Tree) (probe : Probe) (files : List Path) (pool : Pool) : Prop where
  listed : pool.jobs.map (·.file) = files
  sound : ∀ job ∈ pool.jobs, job.Sound ctx t probe
  logged : ∀ file, pool.events.filter (·.isAbout file) =
    pool.jobs.flatMap fun job => job.events.filter (·.isAbout file)
  asked : pool.probed.Perm (pool.jobs.flatMap (·.probed))
  failed : ∀ e ∈ pool.failed?, ∃ file started, pool.started = ⟨file, .failed e⟩ :: started

/-- The log of the other files is left alone. -/
theorem filter_advance {front back : List Job} {job : Job} {step : JobStep}
    (advance : job.Advance ctx t probe step) (distinct : ((front ++ job :: back).map (·.file)).Nodup)
    (sound : ∀ each ∈ front ++ job :: back, each.Sound ctx t probe) (file : Path) :
    ((front ++ job :: back).flatMap fun job => job.events.filter (·.isAbout file)) ++
        step.events.filter (·.isAbout file) =
      (front ++ job.after step :: back).flatMap fun job => job.events.filter (·.isAbout file) := by
  have about := advance.isAbout (sound job (by simp))
  simp only [List.flatMap_append, List.flatMap_cons, advance.events_eq, List.filter_append, List.append_assoc]
  -- the new entries go before those of the later jobs, but never do both belong to one file
  by_cases same : job.file = file
  · have later : (back.flatMap fun job => job.events.filter (·.isAbout file)) = [] := by
      rw [List.flatMap_eq_nil_iff]
      intro other member
      have about (e : Event) (logged : e ∈ other.events) : e.isAbout other.file = true :=
        (sound other (by simp [member])).events_isAbout logged
      have apart := (List.nodup_cons.1 (List.map_append ▸ distinct).of_append_right).1
      refine filter_isAbout_eq_nil about fun eq => apart ?_
      exact List.mem_map.2 ⟨other, member, eq.trans same.symm⟩
    rw [later, List.nil_append, List.append_nil]
  · rw [filter_isAbout_eq_nil about same, List.append_nil, List.nil_append]

theorem Faithful.step (faithful : Faithful ctx t probe files pool) (distinct : files.Nodup)
    (step : Step ctx t probe width pool next) : Faithful ctx t probe files next := by
  have failed : ∀ e ∈ next.failed?, ∃ file started, next.started = ⟨file, .failed e⟩ :: started := by
    cases step with
    | start | advance | take => simp
    | fail => simp
  rcases step.jobs_cases with ⟨jobs, events, probed⟩ |
    ⟨front, job, back, jobStep, advance, before, after, events, probed⟩
  · exact ⟨jobs ▸ faithful.listed, jobs ▸ faithful.sound, by simpa only [jobs, events] using faithful.logged,
      by simpa only [jobs, probed] using faithful.asked, failed⟩
  · obtain ⟨listed, sound, logged, asked, -⟩ := faithful
    rw [before] at listed sound logged asked
    have nodup : ((front ++ job :: back).map (·.file)).Nodup := listed.symm ▸ distinct
    refine ⟨?_, ?_, ?_, ?_, failed⟩
    · rw [after]
      simpa using listed
    · rw [after]
      simp only [List.forall_mem_append, List.forall_mem_cons] at sound ⊢
      exact ⟨sound.1, advance.sound sound.2.1, sound.2.2⟩
    · intro file
      rw [events, after, List.filter_append, logged]
      exact filter_advance advance nodup sound file
    · have moved : List.Perm ((front ++ job :: back).flatMap (·.probed) ++ jobStep.probed)
          ((front ++ job.after jobStep :: back).flatMap (·.probed)) := by
        simp only [List.flatMap_append, List.flatMap_cons, advance.probed_eq, List.append_assoc]
        exact (List.perm_append_comm.append_left _).append_left _
      rw [probed, after]
      exact (asked.append_right _).trans moved

theorem Faithful.reach (faithful : Faithful ctx t probe files pool) (distinct : files.Nodup)
    (reached : Relation.ReflTransGen (Step ctx t probe width) pool next) : Faithful ctx t probe files next := by
  induction reached with
  | refl => exact faithful
  | tail _ step ih => exact ih.step distinct step

theorem faithful_opening {root : Path} (listed : t.markdownFiles root = .ok files) :
    Faithful ctx t probe files (opening ctx t root) := by
  have opened : opening ctx t root = ⟨files, [], [], none, (t.loops root).map Event.loopSkipped ++
      [.filesFound files.length root ctx.site ctx.skipExternal], []⟩ := by
    rw [opening, listed]
  have jobs : (opening ctx t root).jobs = files.map (⟨·, .unread⟩) := by simp [opened, Pool.jobs]
  refine ⟨?_, ?_, ?_, ?_, ?_⟩
  · rw [jobs, List.map_map]
    exact List.map_id files
  · rw [jobs]
    simp [Job.Sound]
  · intro file
    rw [jobs, opened]
    simp [List.filter_append, List.filter_map, Job.events, Function.comp_def]
  · rw [jobs, opened]
    simp [List.flatMap_map, Job.probed]
  · simp [opened]

theorem Step.running (step : Step ctx t probe width pool next) : pool.failed? = none := by
  cases step <;> rfl

theorem eq_of_reach_of_failed {e : ScanError} (failed : pool.failed? = some e)
    (reached : Relation.ReflTransGen (Step ctx t probe width) pool next) : next = pool := by
  rcases reached.cases_head with same | ⟨_, step, -⟩
  · exact same.symm
  · cases step.running.symm.trans failed

end Pool

namespace Context

variable {ctx : Context} {t : Tree} {probe : Probe} {files : List Path}

/-- Files that are checked come before the first that cannot be read. -/
theorem checkFiles_append {checks : List (Path × TextCheck)}
    (checked : ∀ entry ∈ checks, ctx.checkFile t probe entry.1 = .ok entry.2) (rest : List Path) :
    ctx.checkFiles t probe (checks.map (·.1) ++ rest) =
      (checks ++ (ctx.checkFiles t probe rest).1, (ctx.checkFiles t probe rest).2) := by
  induction checks with
  | nil => rfl
  | cons entry checks ih =>
    obtain ⟨first, checked⟩ := List.forall_mem_cons.1 checked
    simp only [List.map_cons, List.cons_append, checkFiles, first, ih checked]

theorem checkFiles_of_ok {checks : List TextCheck}
    (checked : files.map (ctx.checkFile t probe) = checks.map .ok) :
    ∃ entries, ctx.checkFiles t probe files = (entries, none) ∧
      Outcome.ofChecks entries =
        ⟨files.length, (checks.map (·.linksChecked)).sum, checks.flatMap (·.broken)⟩ := by
  induction files generalizing checks with
  | nil =>
    obtain rfl : checks = [] := List.map_eq_nil_iff.1 checked.symm
    exact ⟨[], rfl, rfl⟩
  | cons file files ih =>
    cases checks with
    | nil => cases checked
    | cons check checks =>
      obtain ⟨first, rest⟩ := List.cons.inj checked
      obtain ⟨entries, checkedRest, outcome⟩ := ih rest
      refine ⟨(file, check) :: entries, by simp only [checkFiles, first, checkedRest], ?_⟩
      simp only [Outcome.ofChecks, Outcome.mk.injEq] at outcome ⊢
      obtain ⟨scanned, links, broken⟩ := outcome
      simp [scanned, links, broken]

theorem checkFiles_of_error {before after : List Path} {file : Path} {e : ScanError}
    (readable : ∀ f ∈ before, ∃ check, ctx.checkFile t probe f = .ok check)
    (fails : ctx.checkFile t probe file = .error e) :
    (ctx.checkFiles t probe (before ++ file :: after)).2 = some e := by
  induction before with
  | nil => simp only [List.nil_append, checkFiles, fails]
  | cons first before ih =>
    obtain ⟨⟨check, checked⟩, readable⟩ := List.forall_mem_cons.1 readable
    simp only [List.cons_append, checkFiles, checked, ih readable]

variable {root : Path} {checks : List (Path × TextCheck)}

theorem scan_of_checked (listed : t.markdownFiles root = .ok files)
    (checked : ctx.checkFiles t probe files = (checks, none)) :
    let outcome := Outcome.ofChecks checks
    ctx.scan t probe root = ⟨.ok outcome,
      (t.loops root).map .loopSkipped ++ .filesFound files.length root ctx.site ctx.skipExternal ::
        (checks.flatMap fun (file, check) => check.events file) ++
        [.finished outcome.linksChecked outcome.broken.length],
      checks.flatMap (·.2.probed)⟩ := by
  simp only [scan, listed, checked]

theorem result_scan_of_failed {e : ScanError} (listed : t.markdownFiles root = .ok files)
    (failed : (ctx.checkFiles t probe files).2 = some e) : (ctx.scan t probe root).result = .error e := by
  simp only [scan, listed, failed]

end Context

namespace Pool

variable {ctx : Context} {t : Tree} {probe : Probe} {width : Nat} {files : List Path} {root : Path} {pool : Pool}
  {scan : Scan}

theorem scan?_cases (ended : pool.scan? = some scan) :
    (∃ e, pool.failed? = some e ∧ scan = ⟨.error e, pool.events, pool.probed⟩) ∨
    pool.failed? = none ∧ pool.jobs = (pool.taken.map fun (file, check) => ⟨file, .checked check⟩) ∧
      scan = ⟨.ok (.ofChecks pool.taken),
        pool.events ++
          [.finished (Outcome.ofChecks pool.taken).linksChecked (Outcome.ofChecks pool.taken).broken.length],
        pool.probed⟩ := by
  obtain ⟨waiting, started, taken, failed?, events, probed⟩ := pool
  cases failed? with
  | some e =>
    cases ended
    exact .inl ⟨e, rfl, rfl⟩
  | none =>
    cases started with
    | cons => cases ended
    | nil =>
      cases waiting with
      | cons => cases ended
      | nil =>
        cases ended
        exact .inr ⟨rfl, by simp [jobs], rfl⟩

/-- What has been taken is what the files before the first unreadable one come to. -/
theorem Faithful.checkFiles_eq (faithful : Faithful ctx t probe files pool) (ended : pool.scan? = some scan) :
    ctx.checkFiles t probe files = (pool.taken, pool.failed?) := by
  have checked : ∀ entry ∈ pool.taken, ctx.checkFile t probe entry.1 = .ok entry.2 := by
    intro entry member
    refine faithful.sound ⟨entry.1, .checked entry.2⟩ ?_
    exact List.mem_append_left _ (List.mem_append_left _ (List.mem_map.2 ⟨entry, member, rfl⟩))
  rw [← faithful.listed]
  rcases scan?_cases ended with ⟨e, failed, -⟩ | ⟨running, jobs, -⟩
  · obtain ⟨file, started, first⟩ := faithful.failed e failed
    have unreadable : ctx.checkFile t probe file = .error e :=
      faithful.sound ⟨file, .failed e⟩ (by simp [Pool.jobs, first])
    have split : pool.jobs.map (·.file) =
        pool.taken.map (·.1) ++ file :: (started.map (·.file) ++ pool.waiting) := by
      simp [Pool.jobs, first, Function.comp_def]
    rw [split, Context.checkFiles_append checked, failed]
    simp [Context.checkFiles, unreadable]
  · have all : pool.jobs.map (·.file) = pool.taken.map (·.1) ++ [] := by
      simp [jobs, Function.comp_def]
    rw [all, Context.checkFiles_append checked, running]
    simp [Context.checkFiles]

theorem Faithful.result_eq (faithful : Faithful ctx t probe files pool) (listed : t.markdownFiles root = .ok files)
    (ended : pool.scan? = some scan) : scan.result = (ctx.scan t probe root).result := by
  have checked := faithful.checkFiles_eq ended
  rcases scan?_cases ended with ⟨e, failed, rfl⟩ | ⟨running, -, rfl⟩
  · rw [Context.result_scan_of_failed listed (e := e) (by rw [checked, failed])]
  · rw [running] at checked
    rw [Context.scan_of_checked listed checked]

/-- The order in which files are worked on shows in the log between files only, and pages are asked for as often
as they would be file by file. -/
theorem Faithful.log_eq (faithful : Faithful ctx t probe files pool) (listed : t.markdownFiles root = .ok files)
    (ended : pool.scan? = some scan) {outcome : Outcome} (succeeds : scan.result = .ok outcome) :
    (∀ file, scan.events.filter (·.isAbout file) = (ctx.scan t probe root).events.filter (·.isAbout file)) ∧
      scan.probed.Perm (ctx.scan t probe root).probed := by
  have checked := faithful.checkFiles_eq ended
  rcases scan?_cases ended with ⟨e, -, rfl⟩ | ⟨running, jobs, rfl⟩
  · cases succeeds
  rw [running] at checked
  rw [Context.scan_of_checked listed checked]
  refine ⟨fun file => ?_, ?_⟩
  · have logged := faithful.logged file
    rw [jobs, List.flatMap_map] at logged
    simp [List.filter_append, List.filter_map, Function.comp_def, List.filter_flatMap, logged, Job.events]
  · have asked := faithful.asked
    rw [jobs] at asked
    simpa [List.flatMap_map, Job.probed] using asked

end Pool

/-- In whatever order the files in hand are worked on, the scan ends, and what it ends with is what the files come
to one after the other: the same counts and broken links, or the error of the first file that cannot be read. The
log is the same file by file, and the same pages are asked for, each as often. -/
theorem scan_of_every_schedule {t : Tree} (formed : t.WellFormed) (ctx : Context) (probe : Probe)
    (concurrency : Nat) (root : Path) :
    let Next := Pool.Step ctx t probe (max concurrency 1)
    (WellFounded fun next pool => Next pool next) ∧
    ∀ pool, Relation.ReflTransGen Next (.opening ctx t root) pool →
      (pool.scan? = none → ∃ next, Next pool next) ∧
      ∀ scan, pool.scan? = some scan →
        scan.result = (ctx.scan t probe root).result ∧
        (∀ (files : List Path) (checks : List TextCheck), t.markdownFiles root = .ok files →
          files.map (ctx.checkFile t probe) = checks.map .ok →
          scan.result = .ok ⟨files.length, (checks.map (·.linksChecked)).sum, checks.flatMap (·.broken)⟩) ∧
        (∀ before file after e, t.markdownFiles root = .ok (before ++ file :: after) →
          (∀ f ∈ before, ∃ check, ctx.checkFile t probe f = .ok check) → ctx.checkFile t probe file = .error e →
          scan.result = .error e) ∧
        ∀ outcome, scan.result = .ok outcome →
          (∀ file, scan.events.filter (·.isAbout file) = (ctx.scan t probe root).events.filter (·.isAbout file)) ∧
          scan.probed.Perm (ctx.scan t probe root).probed := by
  intro Next
  refine ⟨Pool.wellFounded_step, fun pool reached => ⟨Pool.exists_step (by omega), fun scan ended => ?_⟩⟩
  cases listed : t.markdownFiles root with
  | error e =>
    have failed : (Pool.opening ctx t root).failed? = some e := by rw [Pool.opening, listed]
    cases Pool.eq_of_reach_of_failed failed reached
    have sequential : ctx.scan t probe root = ⟨.error e, (t.loops root).map .loopSkipped, []⟩ := by
      simp only [Context.scan, listed]
    have atOnce : scan = ctx.scan t probe root := by
      rw [Pool.opening, listed] at ended
      exact sequential ▸ (Option.some.inj ended).symm
    rw [atOnce, sequential]
    exact ⟨rfl, nofun, nofun, nofun⟩
  | ok files =>
    have faithful := (Pool.faithful_opening listed).reach (formed.nodup_markdownFiles listed) reached
    have result := faithful.result_eq listed ended
    refine ⟨result, ?_, ?_, fun outcome => faithful.log_eq listed ended⟩
    · rintro _ checks ⟨⟩ readable
      obtain ⟨entries, checked, outcome⟩ := Context.checkFiles_of_ok readable
      rw [result, Context.scan_of_checked listed checked, outcome]
    · rintro before file after e ⟨⟩ readable fails
      rw [result, Context.result_scan_of_failed listed (Context.checkFiles_of_error readable fails)]

/-- Two files, the second of which is read, checked and done with before the first is read. -/
theorem scan_of_every_schedule_second_first :
    let t : Tree := ⟨[(["docs".toList], .folder),
      (["a.md".toList, "docs".toList], .file (.ofText "[a](http://a)".toList)),
      (["b.md".toList, "docs".toList], .file (.ofText "[b](http://b)".toList))], []⟩
    let ctx : Context := ⟨"docs".toList, "static".toList, "docs".toList, "static".toList, "docs".toList, false⟩
    let probe : Probe := fun _ => .status 200
    t.WellFormed ∧ ∃ pool scan,
      Relation.ReflTransGen (Pool.Step ctx t probe 2) (.opening ctx t "docs".toList) pool ∧
      pool.scan? = some scan ∧ scan.probed = ["http://b".toList, "http://a".toList] ∧
      scan.probed.Perm (ctx.scan t probe "docs".toList).probed ∧ scan.result = .ok ⟨2, 2, []⟩ := by
  intro t ctx probe
  let a := "docs/a.md".toList
  let b := "docs/b.md".toList
  have formed : t.WellFormed := by decide +kernel
  have folder : t.isFolder "docs".toList = true := by decide +kernel
  have walked : t.walk "docs".toList = [.folder "docs".toList, .file a, .file b] := by
    have place : t.locate "docs".toList = .ok ["docs".toList] := by decide +kernel
    have isFolder : t.lookup? ["docs".toList] = some .folder := by decide +kernel
    have names : t.names ["docs".toList] = ["a.md".toList, "b.md".toList] := by
      rw [Tree.names, show List.eraseDups _ = ["a.md".toList, "b.md".toList] by decide +kernel]
      simp [List.mergeSort, List.MergeSort.Internal.splitInTwo, Name.le]
    have fileA : t.meeting? [] ["docs".toList] "docs".toList "a.md".toList = some .file := by decide +kernel
    have fileB : t.meeting? [] ["docs".toList] "docs".toList "b.md".toList = some .file := by decide +kernel
    simp only [Tree.walk, place, isFolder]
    rw [Tree.walkFolder_eq, names]
    simp only [List.flatMap_cons, List.flatMap_nil, fileA, fileB, Tree.visits]
    rfl
  have listed : t.markdownFiles "docs".toList = .ok [a, b] := by
    rw [Tree.markdownFiles_of_isFolder folder, walked]
    rfl
  have opening : Pool.opening ctx t "docs".toList =
      ⟨[a, b], [], [], none,
        (t.loops "docs".toList).map .loopSkipped ++ [.filesFound 2 "docs".toList ctx.site false], []⟩ := by
    rw [Pool.opening, listed]
    rfl
  have readA : t.read a = .ok "[a](http://a)".toList := by decide +kernel
  have readB : t.read b = .ok "[b](http://b)".toList := by decide +kernel
  have foundA : (Cursor.start "[a](http://a)".toList a).next? =
      some (⟨"http://a".toList, a, false⟩, ⟨a, [], []⟩) := by decide +kernel
  have foundB : (Cursor.start "[b](http://b)".toList b).next? =
      some (⟨"http://b".toList, b, false⟩, ⟨b, [], []⟩) := by decide +kernel
  have endedA : (Cursor.mk a [] []).next? = none := by decide +kernel
  have endedB : (Cursor.mk b [] []).next? = none := by decide +kernel
  have reached : ∃ pool, Relation.ReflTransGen (Pool.Step ctx t probe 2) (.opening ctx t "docs".toList) pool ∧
      (pool.scan?.map fun scan => scan.probed) = some ["http://b".toList, "http://a".toList] := by
    rw [opening]
    refine ⟨_,
      .head (.start (by decide)) <| .head (.start (by decide)) <|
        .head (.advance [⟨a, .unread⟩] (.opened readB)) <|
        .head (.advance [⟨a, .unread⟩] (.resolved foundB)) <|
        .head (.advance [⟨a, .unread⟩] (.summed endedB)) <|
        .head (.advance [] (.opened readA)) <|
        .head (.advance [] (.resolved foundA)) <|
        .head (.advance [] (.summed endedA)) <|
        .head .take <| .head .take .refl, ?_⟩
    decide +kernel
  obtain ⟨pool, reached, asked⟩ := reached
  obtain ⟨scan, ended, asked⟩ := Option.map_eq_some_iff.1 asked
  obtain ⟨-, every⟩ := scan_of_every_schedule formed ctx probe 2 "docs".toList
  obtain ⟨-, result, -, log⟩ := (every pool reached).2 scan ended
  let checks := [ctx.checkText t probe "[a](http://a)".toList a, ctx.checkText t probe "[b](http://b)".toList b]
  have readable : [a, b].map (ctx.checkFile t probe) = checks.map .ok := by
    simp [checks, Context.checkFile, readA, readB]
  have counts : Outcome.mk 2 (checks.map (·.linksChecked)).sum (checks.flatMap (·.broken)) = ⟨2, 2, []⟩ := by
    decide +kernel
  have succeeds : scan.result = .ok ⟨2, 2, []⟩ := counts ▸ result [a, b] checks listed readable
  exact ⟨formed, pool, scan, reached, ended, asked, (log _ succeeds).2, succeeds⟩

end DocLinks
