import DocLinks.Proofs.Settings
import DocLinks.Proofs.SkippedWebLinks

namespace DocLinks

namespace Path

theorem filter_dropWhile_idle (pieces : List Name) :
    (pieces.dropWhile isIdle).filter (!isIdle ·) = pieces.filter (!isIdle ·) := by
  induction pieces with
  | nil => rfl
  | cons piece pieces ih =>
    cases idle : isIdle piece with
    | true => rw [List.dropWhile_cons_of_pos idle, ih, List.filter_cons_of_neg (by simp [idle])]
    | false => rw [List.dropWhile_cons_of_neg (by simp [idle])]

theorem filter_dropIdleEnd (pieces : List Name) :
    (dropIdleEnd pieces).filter (!isIdle ·) = pieces.filter (!isIdle ·) := by
  cases pieces with
  | nil => rfl
  | cons first rest =>
    rw [dropIdleEnd, List.filter_cons, List.filter_cons, List.filter_reverse, filter_dropWhile_idle,
      List.filter_reverse, List.reverse_reverse]

theorem mem_of_mem_dropIdleEnd {pieces : List Name} {n : Name} (member : n ∈ dropIdleEnd pieces) : n ∈ pieces := by
  cases pieces with
  | nil => exact member
  | cons first rest =>
    rcases List.mem_cons.1 member with rfl | later
    · exact List.mem_cons_self
    · have kept := (List.dropWhile_sublist _).mem (List.mem_reverse.1 later)
      exact List.mem_cons_of_mem first (List.mem_reverse.1 kept)

theorem dropIdleEnd_concat (front : List Name) {last : Name} (busy : isIdle last = false) :
    dropIdleEnd (front ++ [last]) = front ++ [last] := by
  cases front with
  | nil => rfl
  | cons first rest => simp [dropIdleEnd, busy]

theorem head?_dropIdleEnd (pieces : List Name) : (dropIdleEnd pieces).head? = pieces.head? := by
  cases pieces <;> rfl

/-- The folder of a path is written with all pieces before the last that counts. -/
theorem folder_of_pieces {p : Path} {front : List Name} {last : Name} (pieces : p.pieces = front ++ [last])
    (busy : isIdle last = false) :
    p.folder = if front = [] then [] else if dropIdleEnd front = [[]] then ['/']
      else List.intercalate ['/'] (dropIdleEnd front) := by
  rw [folder, parent?, pieces, dropIdleEnd_concat front busy]
  cases front with
  | nil => cases last <;> rfl
  | cons first rest =>
    obtain ⟨next, more, eq⟩ := List.exists_cons_of_ne_nil (show rest ++ [last] ≠ [] by simp)
    have back : (next :: more).dropLast = rest := by rw [← eq, List.dropLast_concat]
    simp only [List.cons_append, eq, back, reduceCtorEq, if_false]
    split <;> simp_all

/-- The folder of a path has all components of the path but the last. -/
theorem EndsInStep.components_eq {p : Path} (ends : p.EndsInStep) :
    ∃ last, p.components = p.folder.components ++ [.step last] := by
  obtain ⟨front, last, pieces, busy⟩ := ends
  refine ⟨last, ?_⟩
  have steps := steps_of_pieces pieces busy
  have folder := folder_of_pieces pieces busy
  have absolute : p.isAbsolute = true ↔ front.head? = some [] := by
    rw [isAbsolute_iff_pieces, pieces]
    cases front with
    | nil => simp
    | cons first rest =>
      obtain ⟨next, more, eq⟩ := List.exists_cons_of_ne_nil (show rest ++ [last] ≠ [] by simp)
      simp [eq]
  have kept := filter_dropIdleEnd front
  have head := head?_dropIdleEnd front
  suffices same : p.folder.isAbsolute = p.isAbsolute ∧ p.folder.steps = front.filter (!isIdle ·) by
    simp only [components, same, steps, List.map_append, List.map_cons, List.map_nil, List.append_assoc]
  rw [folder]
  split
  · next empty =>
    rw [empty] at absolute
    simp_all [isAbsolute, Path.steps, Path.pieces, Text.splitOn, isIdle]
  · next nonempty =>
    split
    · next root =>
      rw [root] at kept head
      rw [Bool.eq_iff_iff, absolute, ← head, ← kept]
      exact ⟨iff_of_true rfl rfl, rfl⟩
    · next other =>
      have noSlash : ∀ n ∈ dropIdleEnd front, '/' ∉ n := fun n member =>
        slash_not_mem_piece (p := p) (pieces ▸ List.mem_append_left _ (mem_of_mem_dropIdleEnd member))
      have some : dropIdleEnd front ≠ [] := by
        intro none
        rw [none, eq_comm, List.head?_nil, List.head?_eq_none_iff] at head
        exact nonempty head
      have written := pieces_intercalate noSlash some
      rw [Path.steps, written, kept, Bool.eq_iff_iff, isAbsolute_iff_pieces, written, absolute, ← head]
      refine ⟨?_, rfl⟩
      obtain ⟨first, rest, eq⟩ := List.exists_cons_of_ne_nil some
      rw [eq] at other ⊢
      cases rest with
      | nil => simpa using other
      | cons next rest => simp

end Path

/-- The results of one file, taken out of those of several. -/
theorem filter_flatMap_of_nodup {α β : Type} {checks : List (Path × α)} (distinct : (checks.map (·.1)).Nodup)
    {entry : Path × α} (member : entry ∈ checks) (results : Path × α → List β) (belongs : β → Bool)
    (own : ∀ x ∈ results entry, belongs x = true)
    (apart : ∀ other ∈ checks, other.1 ≠ entry.1 → ∀ x ∈ results other, belongs x = false) :
    (checks.flatMap results).filter belongs = results entry := by
  obtain ⟨front, back, rfl⟩ := List.append_of_mem member
  have silent (part : List (Path × α)) (inside : part ⊆ front ++ entry :: back)
      (elsewhere : ∀ other ∈ part, other.1 ≠ entry.1) : (part.flatMap results).filter belongs = [] := by
    rw [List.filter_eq_nil_iff]
    intro x found
    obtain ⟨other, isPart, result⟩ := List.mem_flatMap.1 found
    simp [apart other (inside isPart) (elsewhere other isPart) x result]
  rw [List.map_append, List.map_cons, List.nodup_append] at distinct
  obtain ⟨-, later, before⟩ := distinct
  have inFront : ∀ other ∈ front, other.1 ≠ entry.1 := fun other isPart =>
    before _ (List.mem_map_of_mem isPart) _ List.mem_cons_self
  have inBack : ∀ other ∈ back, other.1 ≠ entry.1 := fun other isPart same =>
    (List.nodup_cons.1 later).1 (same ▸ List.mem_map_of_mem isPart)
  rw [List.flatMap_append, List.flatMap_cons, List.filter_append, List.filter_append,
    silent front (by simp) inFront, silent back (by simp) inBack, List.filter_eq_self.2 own, List.nil_append,
    List.append_nil]

namespace Context

variable {ctx : Context} {t : Tree} {probe : Probe} {files : List Path} {checks : List (Path × TextCheck)}

theorem checked_of_checkFiles (checked : ctx.checkFiles t probe files = (checks, none)) :
    checks.map (·.1) = files ∧ ∀ entry ∈ checks, ctx.checkFile t probe entry.1 = .ok entry.2 := by
  induction files generalizing checks with
  | nil =>
    cases checked
    exact ⟨rfl, nofun⟩
  | cons file files ih =>
    rw [checkFiles] at checked
    split at checked
    · cases checked
    · next check read =>
      cases rest : ctx.checkFiles t probe files with | mk later failed? =>
      rw [rest] at checked
      cases checked
      obtain ⟨names, sound⟩ := ih rest
      exact ⟨congrArg (file :: ·) names, List.forall_mem_cons.2 ⟨read, sound⟩⟩

theorem file_of_mem_broken {file : Path} {check : TextCheck} (checked : ctx.checkFile t probe file = .ok check)
    {f : Failure} (member : f ∈ check.broken) : f.file = file := by
  obtain ⟨text, -, rfl⟩ := checkFile_eq_ok.1 checked
  obtain ⟨verdict, listed, failure⟩ := List.mem_filterMap.1 member
  obtain ⟨o, found, rfl⟩ := List.mem_map.1 listed
  obtain ⟨reason, -, rfl⟩ := Option.map_eq_some_iff.1 failure
  exact Occurrence.file_of_mem_occurrences found

theorem isAbout_of_mem_events {file : Path} {check : TextCheck} (checked : ctx.checkFile t probe file = .ok check)
    {e : Event} (member : e ∈ check.events file) : e.isAbout file = true := by
  have sound : Job.Sound ctx t probe ⟨file, .checked check⟩ := checked
  exact sound.events_isAbout member

/-- What a scan tells of one of its files. -/
theorem scan_part {root : Path} (distinct : files.Nodup) (listed : t.markdownFiles root = .ok files)
    (checked : ctx.checkFiles t probe files = (checks, none)) {file : Path} {check : TextCheck}
    (member : (file, check) ∈ checks) :
    (ctx.scan t probe root).result = .ok (.ofChecks checks) ∧
      (Outcome.ofChecks checks).broken.filter (·.file = file) = check.broken ∧
      (ctx.scan t probe root).events.filter (·.isAbout file) = check.events file := by
  obtain ⟨names, sound⟩ := checked_of_checkFiles checked
  rw [← names] at distinct
  rw [scan_of_checked listed checked]
  have checkedFile := sound _ member
  refine ⟨rfl, ?_, ?_⟩
  · refine filter_flatMap_of_nodup distinct member (·.2.broken) (fun f => decide (f.file = file)) ?_ ?_
    · exact fun f broken => decide_eq_true (file_of_mem_broken checkedFile broken)
    · intro other isPart apart f broken
      exact decide_eq_false fun same => apart ((file_of_mem_broken (sound other isPart) broken).symm.trans same)
  · let results (entry : Path × TextCheck) := entry.2.events entry.1
    have own : (checks.flatMap results).filter (·.isAbout file) = check.events file := by
      refine filter_flatMap_of_nodup distinct member results (·.isAbout file) ?_ ?_
      · exact fun e logged => isAbout_of_mem_events checkedFile logged
      · intro other isPart apart e logged
        rw [← Bool.not_eq_true]
        exact fun about => apart (Event.isAbout_unique (isAbout_of_mem_events (sound other isPart) logged) about)
    have quiet : ((t.loops root).map Event.loopSkipped).filter (·.isAbout file) = [] := by
      simp [List.filter_map, Function.comp_def, Event.isAbout]
    show List.filter (·.isAbout file) ((t.loops root).map .loopSkipped ++
      .filesFound files.length root ctx.site ctx.skipExternal :: checks.flatMap results ++ [.finished _ _]) = _
    rw [List.filter_append, List.filter_append, quiet, List.filter_cons_of_neg (by simp [Event.isAbout]), own,
      List.filter_cons_of_neg (by simp [Event.isAbout]), List.filter_nil, List.nil_append, List.append_nil]

theorem checkFiles_of_result {root : Path} {outcome : Outcome} (listed : t.markdownFiles root = .ok files)
    (succeeds : (ctx.scan t probe root).result = .ok outcome) :
    ∃ checks, ctx.checkFiles t probe files = (checks, none) ∧ outcome = .ofChecks checks := by
  cases checked : ctx.checkFiles t probe files with | mk checks failed? =>
  cases failed? with
  | some e => cases (result_scan_of_failed listed (congrArg Prod.snd checked)).symm.trans succeeds
  | none =>
    rw [scan_of_checked listed checked] at succeeds
    cases succeeds
    exact ⟨checks, rfl, rfl⟩

end Context

theorem filter_notedIn (events : List Event) (file : Path) :
    (notedIn events).filter (·.file = file) = notedIn (events.filter (·.isAbout file)) := by
  rw [notedIn, notedIn, List.filter_filterMap, List.filterMap_filter]
  congr 1
  funext e
  cases e with
  | noted d => by_cases same : d.file = file <;> simp [Event.diagnostic?, Event.isAbout, same]
  | starting | loopSkipped | filesFound | fileChecked | finished => simp [Event.diagnostic?]

/-- The same settings, but for a file in place of the path. -/
def Options.onFile (o : Options) (file : Path) : Options := { o with path := .ofText file }

theorem Config.ofOptions_onFile {t : Tree} {o : Options} {config : Config} (accepted : ofOptions t o = .ok config)
    {file : Path} (isFile : t.isFile file = true) :
    ofOptions t (o.onFile file) = .ok { config with
      path := file, docsRoot := if o.docsRoot = none then file.folder else config.docsRoot } ∧
    (o.docsRoot = none → config.docsRoot = t.folderOf config.path) := by
  obtain ⟨docsRoot, path, staticRoot, roots, -, statics, places, rfl⟩ := ofOptions_eq_ok_iff.1 accepted
  have named : RawText.named (.ofText file) (fun path => t.isFolder path || t.isFile path) .pathNotFound =
      .ok file := by
    simp [RawText.named, RawText.text?_ofText, isFile]
  refine ⟨?_, ?_⟩
  · rw [ofOptions_eq_ok_iff]
    refine ⟨docsRoot, file, staticRoot, roots, named, statics, places, ?_⟩
    cases given : o.docsRoot with
    | none =>
      rw [given] at roots
      cases roots
      simp [Options.onFile, Tree.folderOf, isFile]
    | some root =>
      rw [given, Option.mapM_some] at roots
      cases read : root.named t.isFolder .docsRootNotFolder with
      | error e =>
        rw [read] at roots
        cases roots
      | ok folder =>
        rw [read] at roots
        cases roots
        rfl
  · intro none
    rw [none] at roots
    cases roots
    rfl

namespace Tree

/-- A name that puts a listed file right into a folder is a proper one. -/
theorem WellFormed.busy_of_mem_markdownFiles {t : Tree} (formed : t.WellFormed) {root : Path}
    (folder : t.isFolder root = true) {files : List Path} (listed : t.markdownFiles root = .ok files) {name : Name}
    (noSlash : '/' ∉ name) (member : root.join name ∈ files) : Path.isIdle name = false := by
  obtain ⟨names, eq, reach, file, -⟩ := (formed.mem_markdownFiles_iff folder listed).1 member
  have below : Path.steps name = names := by
    have steps := congrArg Path.steps eq
    rw [Path.steps_join (Path.isAbsolute_of_not_mem noSlash), Path.steps_descend root reach.proper] at steps
    exact List.append_cancel_left steps
  rw [← Bool.not_eq_true]
  intro idle
  obtain rfl : [] = names := by
    rw [← below, Path.steps, Path.pieces_of_not_mem noSlash]
    simp [idle]
  have isRoot : t.isFile root = true := by rwa [eq] at file
  rw [isFolder_of_isFile isRoot] at folder
  cases folder

end Tree

theorem Path.components_folder_join (base : Path) {name : Name} (noSlash : '/' ∉ name)
    (busy : isIdle name = false) : (folder (base.join name)).components = base.components := by
  have relative := isAbsolute_of_not_mem noSlash
  have pieces := pieces_of_not_mem noSlash
  have ends : EndsInStep name := ⟨[], name, pieces, busy⟩
  obtain ⟨last, eq⟩ := (ends.join relative base).components_eq
  have own : components name = [.step name] := by
    rw [components, relative, steps, pieces]
    simp [busy]
  rw [components_join, relative, if_neg Bool.false_ne_true, own] at eq
  exact (List.append_inj_left' eq rfl).symm

/-- With settings that a check cannot tell apart, a file alone comes to its part of a scan of several. -/
theorem Context.Alike.scan_single {ctx ctx' : Context} (alike : ctx'.Alike ctx) {t : Tree} {probe : Probe}
    {root file : Path} {files : List Path} {checks : List (Path × TextCheck)} (isFile : t.isFile file = true)
    (distinct : files.Nodup) (listed : t.markdownFiles root = .ok files)
    (checked : ctx.checkFiles t probe files = (checks, none)) (member : file ∈ files) :
    let single := ctx'.scan t probe file
    let whole := ctx.scan t probe root
    (∃ links, single.result = .ok ⟨1, links, (Outcome.ofChecks checks).broken.filter (·.file = file)⟩) ∧
      single.events.filter (·.isAbout file) = whole.events.filter (·.isAbout file) ∧
      notedIn single.events = (notedIn whole.events).filter (·.file = file) := by
  intro single whole
  obtain ⟨names, sound⟩ := Context.checked_of_checkFiles checked
  obtain ⟨check, isPart⟩ : ∃ check, (file, check) ∈ checks := by
    obtain ⟨⟨_, check⟩, isPart, rfl⟩ := List.mem_map.1 (names ▸ member)
    exact ⟨check, isPart⟩
  have listedAlone := Tree.markdownFiles_of_isFile isFile
  have checkedAlone : ctx'.checkFiles t probe [file] = ([(file, check)], none) := by
    simp only [Context.checkFiles, alike.checkFile_eq, sound _ isPart]
  obtain ⟨-, broken, events⟩ := Context.scan_part distinct listed checked isPart
  obtain ⟨result, -, eventsAlone⟩ :=
    Context.scan_part (List.nodup_singleton _) listedAlone checkedAlone List.mem_cons_self
  have noted : notedIn single.events = check.diagnostics := by
    simp only [single, Context.scan_of_checked listedAlone checkedAlone, notedIn_append, notedIn_loops,
      notedIn_filesFound, notedIn_finished, List.flatMap_cons, List.flatMap_nil, List.append_nil, List.nil_append]
    exact check.notedIn_events file
  refine ⟨⟨check.linksChecked, ?_⟩, eventsAlone.trans events.symm, ?_⟩
  · rw [result, broken]
    simp [Outcome.ofChecks]
  · rw [noted, filter_notedIn, events, TextCheck.notedIn_events]

/-- A file that lies right in a scanned folder is checked alone as it is checked with the folder, however the folder
is written: its own folder, which links are then resolved against, has the same components. The settings are
accepted, the one file is scanned, its broken links and notes are those that the scan of the folder has of it, in
their order, and so it is with several files at a time. -/
theorem file_alone_agrees_with_folder {t : Tree} (formed : t.WellFormed) {o : Options} {config : Config}
    (accepted : Config.ofOptions t o = .ok config) (folder : t.isFolder config.path = true) (probe : Probe)
    {outcome : Outcome} (succeeds : ((config.context t).scan t probe config.path).result = .ok outcome)
    {files : List Path} (listed : t.markdownFiles config.path = .ok files) {name : Name} (noSlash : '/' ∉ name)
    (member : config.path.join name ∈ files) :
    let file := config.path.join name
    let whole := (config.context t).scan t probe config.path
    ∃ alone, Config.ofOptions t (o.onFile file) = .ok alone ∧ alone.path = file ∧
      let single := (alone.context t).scan t probe file
      (∃ links, single.result = .ok ⟨1, links, outcome.broken.filter (·.file = file)⟩) ∧
      single.events.filter (·.isAbout file) = whole.events.filter (·.isAbout file) ∧
      notedIn single.events = (notedIn whole.events).filter (·.file = file) ∧
      ∀ width width' wholeEnd singleEnd,
        (config.context t).MayEnd t probe width config.path wholeEnd →
        (alone.context t).MayEnd t probe width' file singleEnd →
          singleEnd.result = single.result ∧
          singleEnd.events.filter (·.isAbout file) = wholeEnd.events.filter (·.isAbout file) := by
  intro file whole
  have isFile : t.isFile file = true := formed.isFile_of_mem_markdownFiles (.inl folder) listed member
  have busy := formed.busy_of_mem_markdownFiles folder listed noSlash member
  have beside : file.folder.components = config.path.components :=
    Path.components_folder_join config.path noSlash busy
  obtain ⟨acceptedAlone, defaulted⟩ := Config.ofOptions_onFile accepted isFile
  have folderOf : t.folderOf config.path = config.path := by
    rw [Tree.folderOf, Tree.isFile_of_isFolder folder, if_neg Bool.false_ne_true]
  have folderOfFile : t.folderOf file = file.folder := by rw [Tree.folderOf, if_pos isFile]
  refine ⟨_, acceptedAlone, rfl, ?_⟩
  intro single
  have alike : ((Config.mk file (if o.docsRoot = none then file.folder else config.docsRoot) config.staticRoot
      config.sitePrefix config.staticPrefix config.skipExternal config.concurrency config.timeout).context t).Alike
      (config.context t) := by
    refine ⟨?_, ?_, rfl, rfl, rfl⟩
    -- Only without a docs root are pages looked for in the folder, and then it is the path that was scanned.
    · simp only [Config.context]
      split
      · next none => rw [beside, defaulted none, folderOf]
      · rfl
    · simp only [Config.context, folderOf, folderOfFile, beside]
  have distinct := formed.nodup_markdownFiles listed
  obtain ⟨checks, checked, rfl⟩ := Context.checkFiles_of_result listed succeeds
  obtain ⟨result, events, noted⟩ := alike.scan_single isFile distinct listed checked member
  refine ⟨result, events, noted, fun width width' wholeEnd singleEnd ends endsAlone => ?_⟩
  obtain ⟨sameResult, sameEvents⟩ := ends.agrees formed
  obtain ⟨sameAlone, sameEventsAlone⟩ := endsAlone.agrees formed
  obtain ⟨links, finished⟩ := result
  refine ⟨sameAlone, ?_⟩
  rw [(sameEventsAlone _ (sameAlone.trans finished)).1, (sameEvents _ (sameResult.trans succeeds)).1]
  exact events

/-- A folder written with a dot at its end. Both its files have a link that leads nowhere; the one checked alone also
has a link to the other, which is looked for next to it. -/
theorem file_alone_agrees_with_folder_dotted :
    let t : Tree := ⟨[(["docs".toList], .folder),
      (["a.md".toList, "docs".toList], .file (.ofText "[b](/docs/b) [c](./c.md)".toList)),
      (["b.md".toList, "docs".toList], .file (.ofText "[d](../d.md)".toList))], []⟩
    let o := Options.plain "docs/.".toList
    let file := "docs/./a.md".toList
    let probe : Probe := fun _ => .status 200
    let gone : Failure := ⟨"./c.md".toList, file, "Linked file docs/c.md not found".toList⟩
    t.WellFormed ∧ t.isFolder "docs/.".toList = true ∧
      t.markdownFiles "docs/.".toList = .ok [file, "docs/./b.md".toList] ∧
      ∃ config alone links, Config.ofOptions t o = .ok config ∧
        (∃ other, ((config.context t).scan t probe "docs/.".toList).result = .ok ⟨2, 3, [gone, other]⟩) ∧
        Config.ofOptions t (o.onFile file) = .ok alone ∧
        ((alone.context t).scan t probe file).result = .ok ⟨1, links, [gone]⟩ := by
  intro t o file probe gone
  have formed : t.WellFormed := by decide +kernel
  have folder : t.isFolder "docs/.".toList = true := by decide +kernel
  have place : t.locate "docs/.".toList = .ok ["docs".toList] := by decide +kernel
  have isFolder : t.lookup? ["docs".toList] = some .folder := by decide +kernel
  have names : t.names ["docs".toList] = ["a.md".toList, "b.md".toList] := by
    rw [Tree.names, show List.eraseDups _ = ["a.md".toList, "b.md".toList] by decide +kernel]
    simp [List.mergeSort, List.MergeSort.Internal.splitInTwo, Name.le]
  have first : t.meeting? [] ["docs".toList] "docs/.".toList "a.md".toList = some .file := by decide +kernel
  have second : t.meeting? [] ["docs".toList] "docs/.".toList "b.md".toList = some .file := by decide +kernel
  have listed : t.markdownFiles "docs/.".toList = .ok [file, "docs/./b.md".toList] := by
    rw [Tree.markdownFiles_of_isFolder folder]
    simp only [Tree.walk, place, isFolder]
    rw [Tree.walkFolder_eq, names]
    simp only [List.flatMap_cons, List.flatMap_nil, first, second, Tree.visits]
    rfl
  let config : Config :=
    ⟨"docs/.".toList, "docs/.".toList, Config.defaultStaticRoot, "docs".toList, "static".toList, true, 8, none⟩
  have accepted : Config.ofOptions t o = .ok config := by decide +kernel
  let other : Failure := ⟨"../d.md".toList, "docs/./b.md".toList, "Linked file docs/../d.md not found".toList⟩
  have succeeds : ((config.context t).scan t probe config.path).result = .ok ⟨2, 3, [gone, other]⟩ := by
    simp only [Context.scan, config, listed]
    decide +kernel
  have noSlash : '/' ∉ "a.md".toList := by decide
  have here : config.path.join "a.md".toList = file := by decide +kernel
  have own : [gone, other].filter (·.file = file) = [gone] := by decide +kernel
  obtain ⟨alone, acceptedAlone, -, ⟨links, result⟩, -⟩ :=
    file_alone_agrees_with_folder formed accepted folder probe succeeds listed noSlash (here ▸ List.mem_cons_self)
  rw [here] at acceptedAlone result
  rw [own] at result
  exact ⟨formed, folder, listed, config, alone, links, accepted, ⟨other, succeeds⟩, acceptedAlone, result⟩

end DocLinks
