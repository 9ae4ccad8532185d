import DocLinks.Proofs.JsonReport
import DocLinks.Proofs.MarkdownFiles
import DocLinks.Run

namespace DocLinks

/-- How a run ends: with an exit code, or with the error that broke it off. -/
def Run.result (r : Run) : Except ScanError Nat :=
  match r.error? with
  | none => .ok r.exitCode
  | some e => .error e

theorem RawText.text?_eq_none_iff {t : RawText} : t.text? = none ↔ ∃ octets, .stray octets ∈ t := by
  induction t with
  | nil => simp [text?]
  | cons unit rest ih =>
    cases unit with
    | char c => simp [text?, ih]
    | stray octets => exact iff_of_true rfl ⟨octets, List.mem_cons_self⟩

namespace Tree

/-- The links of files, file by file, each in the order it is written in. -/
def occurrencesIn (t : Tree) (files : List Path) : List Occurrence :=
  files.flatMap fun file =>
    match t.read file with
    | .ok text => occurrences text file
    | .error _ => []

/-- Whether a file holds octets that are no text. -/
def HoldsNoText (t : Tree) (file : Path) : Prop :=
  ∃ content octets, t.status file = .ok (.file content) ∧ .stray octets ∈ content

theorem read_of_isFile {t : Tree} {file : Path} (isFile : t.isFile file = true) :
    (∃ text, t.read file = .ok text) ↔ ¬t.HoldsNoText file := by
  obtain ⟨place, content, leads, found⟩ := isFile_iff.1 isFile
  have status : t.status file = .ok (.file content) := status_eq_ok.2 ⟨place, leads, found⟩
  have only : t.HoldsNoText file ↔ content.text? = none := by
    simp [HoldsNoText, status, RawText.text?_eq_none_iff]
  rw [only]
  cases text : content.text? with
  | none => simp [read, status, text, bind, Except.bind, throw, throwThe, MonadExceptOf.throw]
  | some text => simp_all [read, bind, Except.bind, pure, Except.pure]

/-- What keeps a scan without a result. -/
def Spoilt (t : Tree) (root : Path) : Prop :=
  (∃ names cause, t.Dangling root names cause) ∨
    ∃ files, t.markdownFiles root = .ok files ∧ ∃ file ∈ files, t.HoldsNoText file

theorem WellFormed.not_spoilt {t : Tree} (formed : t.WellFormed) {root : Path}
    (there : t.isFolder root = true ∨ t.isFile root = true) {files : List Path}
    (listed : t.markdownFiles root = .ok files) (texts : ∀ file ∈ files, ¬t.HoldsNoText file) :
    ¬t.Spoilt root := by
  rintro (dangling | ⟨others, same, file, member, noText⟩)
  · obtain ⟨error, fails⟩ := (formed.markdownFiles_eq_error_iff there).2 dangling
    cases listed.symm.trans fails
  · cases listed.symm.trans same
    exact texts file member noText

end Tree

namespace Context

/-- What is found in files that can all be read. -/
def outcome (ctx : Context) (t : Tree) (probe : Probe) (files : List Path) : Outcome where
  filesScanned := files.length
  linksChecked := (t.occurrencesIn files).length
  broken := (t.occurrencesIn files).filterMap fun o => (ctx.check t probe o).failure?

theorem outcome_broken_eq_nil {ctx : Context} {t : Tree} {probe : Probe} {files : List Path} :
    (ctx.outcome t probe files).broken = [] ↔
      ∀ link ∈ t.occurrencesIn files, (ctx.check t probe link).failure? = none :=
  List.filterMap_eq_nil_iff

/-- When all files can be read, nothing that is found in one of them is lost. -/
theorem checkFiles_readable (ctx : Context) {t : Tree} (probe : Probe) {files : List Path}
    (readable : ∀ file ∈ files, ∃ text, t.read file = .ok text) :
    ∃ checks, ctx.checkFiles t probe files = (checks, none) ∧
      Outcome.ofChecks checks = ctx.outcome t probe files := by
  induction files with
  | nil => exact ⟨[], rfl, rfl⟩
  | cons file rest ih =>
    obtain ⟨text, isText⟩ := readable file List.mem_cons_self
    obtain ⟨checks, checked, outcome⟩ := ih fun f member => readable f (List.mem_cons_of_mem file member)
    refine ⟨(file, ctx.checkText t probe text file) :: checks, ?_, ?_⟩
    · simp only [checkFiles, checkFile, isText, checked]
    · simp only [Outcome.ofChecks, Context.outcome, Outcome.mk.injEq] at outcome ⊢
      obtain ⟨scanned, links, broken⟩ := outcome
      simp only [List.length_cons, List.foldr_cons, List.flatMap_cons, scanned, links, broken, checkText,
        TextCheck.ofVerdicts, Tree.occurrencesIn, isText, List.length_map, List.length_append, List.filterMap_append,
        List.filterMap_map, true_and]
      rfl

theorem checkFiles_unreadable (ctx : Context) {t : Tree} (probe : Probe) {files : List Path} {file : Path}
    {cause : FileError} (member : file ∈ files) (unreadable : t.read file = .error cause) :
    ∃ checks e, ctx.checkFiles t probe files = (checks, some e) := by
  induction files with
  | nil => cases member
  | cons first rest ih =>
    cases read : t.read first with
    | error why =>
      simp only [checkFiles, checkFile, read]
      exact ⟨[], _, rfl⟩
    | ok text =>
      rcases List.mem_cons.1 member with rfl | member
      · cases unreadable.symm.trans read
      · obtain ⟨checks, e, checked⟩ := ih member
        simp only [checkFiles, checkFile, read, checked]
        exact ⟨_, e, rfl⟩

end Context

def Config.outcome (c : Config) (t : Tree) (probe : Config → Probe) (files : List Path) : Outcome :=
  (c.context t).outcome t (probe c) files

theorem Outcome.text_eq_iff {o : Outcome} : o.text = "No broken links found".toList ↔ o.broken = [] := by
  constructor
  · intro eq
    by_contra some
    rw [Outcome.text, if_neg (by simpa using some)] at eq
    have first := congrArg List.head? eq
    simp [banner, List.intercalate] at first
  · intro none
    rw [Outcome.text, if_pos (by simpa using none)]

/-- Every line of a text that is put together from lines has its end, if the last one gets it too. -/
theorem intercalate_append_line {lines : List Text} (some : lines ≠ []) :
    List.intercalate ['\n'] lines ++ ['\n'] = lines.flatMap (· ++ ['\n']) := by
  induction lines with
  | nil => exact absurd rfl some
  | cons line lines ih =>
    cases lines with
    | nil => rw [List.intercalate_singleton, List.flatMap_singleton]
    | cons next lines =>
      rw [List.intercalate_cons_cons, List.flatMap_cons, ← ih (List.cons_ne_nil next lines), List.append_assoc]

theorem Outcome.text_append_line {o : Outcome} (broken : o.broken ≠ []) :
    o.text ++ ['\n'] = (banner ++ o.broken.map Failure.display).flatMap (· ++ ['\n']) := by
  rw [Outcome.text, if_neg (by simpa using broken)]
  exact intercalate_append_line (by simp [banner])

theorem head?_append_ne {c d : Char} {front : Text} (first : front.head? = some c) (ne : c ≠ d) (back : Text) :
    (front ++ back).head? ≠ some d := by
  rw [List.head?_append, first, Option.some_or]
  simpa using ne

theorem ConfigError.head?_message (e : ConfigError) : e.message.head? ≠ some 'N' := by
  cases e with
  | docsRootNotFolder path =>
    have first : "Docs root path: ".toList.head? = some 'D' := by decide +kernel
    exact head?_append_ne first (by decide) _
  | pathNotFound path =>
    have first : "Docs path: ".toList.head? = some 'D' := by decide +kernel
    exact head?_append_ne first (by decide) _
  | staticRootNotFolder path =>
    have first : "Static root path: ".toList.head? = some 'S' := by decide +kernel
    exact head?_append_ne first (by decide) _
  | zeroConcurrency => decide +kernel

theorem RawText.named_eq_ok {setting : RawText} {test : Path → Bool} {error : RawText → ConfigError} {path : Path}
    (named : setting.named test error = .ok path) : test path = true := by
  unfold RawText.named at named
  split at named
  · split at named
    · next passes =>
      cases named
      exact passes
    · cases named
  · cases named

theorem Config.there_of_ofOptions {t : Tree} {o : Options} {config : Config}
    (accepted : Config.ofOptions t o = .ok config) :
    t.isFolder config.path = true ∨ t.isFile config.path = true := by
  obtain ⟨docsRoot, path, staticRoot, -, named, -, -, rfl⟩ := Config.ofOptions_eq_ok_iff.1 accepted
  exact (Bool.or_eq_true _ _).mp (RawText.named_eq_ok named)

theorem checkDocs_rejected {t : Tree} {o : Options} {e : ConfigError} (rejected : Config.ofOptions t o = .error e)
    (asJson : Bool) (probe : Config → Probe) :
    (checkDocs t o asJson probe).result = .ok 1 ∧ (checkDocs t o asJson probe).output = e.message ++ ['\n'] := by
  rw [checkDocs, rejected]
  exact ⟨rfl, rfl⟩

theorem checkDocs_unwalkable {t : Tree} {o : Options} {config : Config}
    (accepted : Config.ofOptions t o = .ok config) {error : ScanError}
    (unwalkable : t.markdownFiles config.path = .error error) (asJson : Bool) (probe : Config → Probe) :
    (∃ e, (checkDocs t o asJson probe).result = .error e) ∧ (checkDocs t o asJson probe).output = [] := by
  simp only [checkDocs, accepted, Context.scan, unwalkable]
  exact ⟨⟨error, rfl⟩, trivial⟩

theorem checkDocs_unreadable {t : Tree} {o : Options} {config : Config}
    (accepted : Config.ofOptions t o = .ok config) {files : List Path}
    (listed : t.markdownFiles config.path = .ok files) {file : Path} {cause : FileError} (member : file ∈ files)
    (unreadable : t.read file = .error cause) (asJson : Bool) (probe : Config → Probe) :
    (∃ e, (checkDocs t o asJson probe).result = .error e) ∧ (checkDocs t o asJson probe).output = [] := by
  obtain ⟨checks, e, checked⟩ := (config.context t).checkFiles_unreadable (probe config) member unreadable
  simp only [checkDocs, accepted, Context.scan, listed, checked]
  exact ⟨⟨e, rfl⟩, trivial⟩

theorem checkDocs_finished {t : Tree} {o : Options} {config : Config}
    (accepted : Config.ofOptions t o = .ok config) {files : List Path}
    (listed : t.markdownFiles config.path = .ok files)
    (readable : ∀ file ∈ files, ∃ text, t.read file = .ok text) (asJson : Bool) (probe : Config → Probe) :
    (checkDocs t o asJson probe).result = .ok (config.outcome t probe files).exitCode ∧
      (checkDocs t o asJson probe).output = (config.outcome t probe files).report asJson ++ ['\n'] := by
  obtain ⟨checks, checked, outcome⟩ := (config.context t).checkFiles_readable (probe config) readable
  simp only [checkDocs, accepted, Context.scan, listed, checked, outcome]
  exact ⟨rfl, rfl⟩

/-- The three ways a run goes: the settings are refused, the scan comes to nothing, or a report is printed. -/
theorem checkDocs_cases {t : Tree} (formed : t.WellFormed) (o : Options) (asJson : Bool) (probe : Config → Probe) :
    (∃ e, Config.ofOptions t o = .error e ∧ (checkDocs t o asJson probe).result = .ok 1 ∧
      (checkDocs t o asJson probe).output = e.message ++ ['\n']) ∨
    (∃ config, Config.ofOptions t o = .ok config ∧ t.Spoilt config.path ∧
      (∃ e, (checkDocs t o asJson probe).result = .error e) ∧ (checkDocs t o asJson probe).output = []) ∨
    ∃ config files, Config.ofOptions t o = .ok config ∧ t.markdownFiles config.path = .ok files ∧
      (∀ file ∈ files, ¬t.HoldsNoText file) ∧ ¬t.Spoilt config.path ∧
      (checkDocs t o asJson probe).result = .ok (config.outcome t probe files).exitCode ∧
      (checkDocs t o asJson probe).output = (config.outcome t probe files).report asJson ++ ['\n'] := by
  cases settings : Config.ofOptions t o with
  | error e => exact .inl ⟨e, rfl, checkDocs_rejected settings asJson probe⟩
  | ok config =>
    have there := Config.there_of_ofOptions settings
    refine .inr ?_
    cases listed : t.markdownFiles config.path with
    | error error =>
      have dangling := (formed.markdownFiles_eq_error_iff there).1 ⟨error, listed⟩
      exact .inl ⟨config, rfl, .inl dangling, checkDocs_unwalkable settings listed asJson probe⟩
    | ok files =>
      have isFile : ∀ file ∈ files, t.isFile file = true := fun file member =>
        formed.isFile_of_mem_markdownFiles there listed member
      by_cases texts : ∀ file ∈ files, ¬t.HoldsNoText file
      · have readable : ∀ file ∈ files, ∃ text, t.read file = .ok text := fun file member =>
          (Tree.read_of_isFile (isFile file member)).2 (texts file member)
        exact .inr ⟨config, files, rfl, listed, texts, formed.not_spoilt there listed texts,
          checkDocs_finished settings listed readable asJson probe⟩
      · push Not at texts
        obtain ⟨file, member, noText⟩ := texts
        have spoilt : t.Spoilt config.path := .inr ⟨files, listed, file, member, noText⟩
        cases read : t.read file with
        | ok text => exact absurd noText ((Tree.read_of_isFile (isFile file member)).1 ⟨text, read⟩)
        | error cause =>
          exact .inl ⟨config, rfl, spoilt, checkDocs_unreadable settings listed member read asJson probe⟩

section

variable {t : Tree} (formed : t.WellFormed) (o : Options) (asJson : Bool) (probe : Config → Probe)
include formed

theorem checkDocs_result_eq_error_iff :
    (∃ e, (checkDocs t o asJson probe).result = .error e) ↔
      ∃ config, Config.ofOptions t o = .ok config ∧ t.Spoilt config.path := by
  rcases checkDocs_cases formed o asJson probe with ⟨e, rejected, ended, -⟩ |
    ⟨config, accepted, spoilt, ended, -⟩ | ⟨config, files, accepted, -, -, notSpoilt, ended, -⟩
  · simp [rejected, ended]
  · exact iff_of_true ended ⟨config, accepted, spoilt⟩
  · simp [accepted, ended, notSpoilt]

theorem checkDocs_result_eq_ok_iff {code : Nat} :
    (checkDocs t o asJson probe).result = .ok code ↔
      ((∃ e, Config.ofOptions t o = .error e) ∧ code = 1) ∨
      ∃ config files, Config.ofOptions t o = .ok config ∧ t.markdownFiles config.path = .ok files ∧
        (∀ file ∈ files, ¬t.HoldsNoText file) ∧ (config.outcome t probe files).exitCode = code := by
  rcases checkDocs_cases formed o asJson probe with ⟨e, rejected, ended, -⟩ |
    ⟨config, accepted, spoilt, ⟨e, ended⟩, -⟩ | ⟨config, files, accepted, listed, texts, -, ended, -⟩
  · simp [rejected, ended, eq_comm]
  · refine iff_of_false (by simp [ended]) ?_
    rintro (⟨⟨e, rejected⟩, -⟩ | ⟨other, files, same, listed, texts, -⟩)
    · cases accepted.symm.trans rejected
    · cases accepted.symm.trans same
      exact formed.not_spoilt (Config.there_of_ofOptions accepted) listed texts spoilt
  · rw [ended, Except.ok.injEq]
    constructor
    · exact fun eq => .inr ⟨config, files, accepted, listed, texts, eq⟩
    · rintro (⟨⟨e, rejected⟩, -⟩ | ⟨other, others, same, sameListed, -, eq⟩)
      · cases accepted.symm.trans rejected
      · cases accepted.symm.trans same
        cases listed.symm.trans sameListed
        exact eq

theorem checkDocs_output_of_error {e : ScanError} (ended : (checkDocs t o asJson probe).result = .error e) :
    (checkDocs t o asJson probe).output = [] := by
  rcases checkDocs_cases formed o asJson probe with ⟨_, -, other, -⟩ | ⟨_, -, -, -, printed⟩ |
    ⟨_, _, -, -, -, -, other, -⟩
  · cases ended.symm.trans other
  · exact printed
  · cases ended.symm.trans other

theorem checkDocs_output_of_ok {config : Config} (accepted : Config.ofOptions t o = .ok config) {code : Nat}
    (ended : (checkDocs t o asJson probe).result = .ok code) :
    ∃ files, t.markdownFiles config.path = .ok files ∧
      (checkDocs t o asJson probe).output = (config.outcome t probe files).report asJson ++ ['\n'] := by
  rcases checkDocs_cases formed o asJson probe with ⟨_, rejected, -, -⟩ | ⟨_, -, -, ⟨_, other⟩, -⟩ |
    ⟨_, files, same, listed, -, -, -, printed⟩
  · cases accepted.symm.trans rejected
  · cases ended.symm.trans other
  · cases accepted.symm.trans same
    exact ⟨files, listed, printed⟩

/-- The text that says that all is well is printed for no other run. -/
theorem checkDocs_output_eq_iff :
    (checkDocs t o false probe).output = "No broken links found\n".toList ↔
      (checkDocs t o false probe).result = .ok 0 := by
  have line : "No broken links found\n".toList = "No broken links found".toList ++ ['\n'] := by decide +kernel
  rw [line]
  rcases checkDocs_cases formed o false probe with ⟨e, -, ended, printed⟩ | ⟨_, -, -, ⟨_, ended⟩, printed⟩ |
    ⟨config, files, -, -, -, -, ended, printed⟩
  · refine iff_of_false (fun same => ?_) (by simp [ended])
    rw [printed, List.append_cancel_right_eq] at same
    exact e.head?_message (same ▸ by decide +kernel)
  · refine iff_of_false (fun same => ?_) (by simp [ended])
    rw [printed] at same
    simp at same
  · rw [printed, ended, List.append_cancel_right_eq, Except.ok.injEq, Outcome.exitCode_eq_zero]
    exact Outcome.text_eq_iff

/-- How a run ends, and what it prints, from the settings, the files and the verdicts on their links: a report
is printed as a whole or not at all, and tells all broken links in the order of the files and of the links in
them, under a heading with a line for each, or as one document in JSON from which the outcome is read again. -/
theorem checkDocs_verdict :
    let run := checkDocs t o asJson probe
    (run.result = .ok 0 ↔
      ∃ config files, Config.ofOptions t o = .ok config ∧ t.markdownFiles config.path = .ok files ∧
        (∀ file ∈ files, ¬t.HoldsNoText file) ∧
        ∀ link ∈ t.occurrencesIn files, ((config.context t).check t (probe config) link).failure? = none) ∧
    (run.result = .ok 1 ↔
      (∃ e, Config.ofOptions t o = .error e) ∨
      ∃ config files, Config.ofOptions t o = .ok config ∧ t.markdownFiles config.path = .ok files ∧
        (∀ file ∈ files, ¬t.HoldsNoText file) ∧
        ∃ link ∈ t.occurrencesIn files, ((config.context t).check t (probe config) link).failure? ≠ none) ∧
    ((∃ e, run.result = .error e) ↔
      ∃ config, Config.ofOptions t o = .ok config ∧
        ((∃ names cause, t.Dangling config.path names cause) ∨
          ∃ files, t.markdownFiles config.path = .ok files ∧ ∃ file ∈ files, t.HoldsNoText file)) ∧
    (∀ e, run.result = .error e → run.output = []) ∧
    (∀ e, Config.ofOptions t o = .error e → run.output = e.message ++ ['\n']) ∧
    (∀ config code, Config.ofOptions t o = .ok config → run.result = .ok code →
      ∃ (files : List Path) (outcome : Outcome), t.markdownFiles config.path = .ok files ∧
        run.output = outcome.report asJson ++ ['\n'] ∧
        outcome.filesScanned = files.length ∧ outcome.linksChecked = (t.occurrencesIn files).length ∧
        (outcome.broken = (t.occurrencesIn files).filterMap fun link =>
          ((config.context t).check t (probe config) link).failure?) ∧
        (asJson = false → outcome.broken ≠ [] → run.output =
          (Outcome.banner ++ outcome.broken.map fun f =>
            f.reason ++ ": File: ".toList ++ f.file ++ ", Link: ".toList ++ f.link).flatMap (· ++ ['\n'])) ∧
        (asJson = true → ∃ document, run.output = document ++ ['\n'] ∧
          (∀ v, Json.IsDocument document v ↔ v = outcome.value) ∧ Outcome.ofValue? outcome.value = some outcome)) ∧
    (asJson = false → (run.output = "No broken links found\n".toList ↔ run.result = .ok 0)) := by
  intro run
  refine ⟨?_, ?_, checkDocs_result_eq_error_iff formed o asJson probe,
    fun e => checkDocs_output_of_error formed o asJson probe,
    fun e rejected => (checkDocs_rejected rejected asJson probe).2, ?_, ?_⟩
  · rw [checkDocs_result_eq_ok_iff formed]
    simp only [Nat.zero_ne_one, and_false, false_or, Outcome.exitCode_eq_zero, Config.outcome,
      Context.outcome_broken_eq_nil]
  · rw [checkDocs_result_eq_ok_iff formed]
    simp only [and_true, Outcome.exitCode_eq_one, Ne, Config.outcome, Context.outcome_broken_eq_nil, not_forall,
      exists_prop]
  · intro config code accepted ended
    obtain ⟨files, listed, printed⟩ := checkDocs_output_of_ok formed o asJson probe accepted ended
    refine ⟨files, config.outcome t probe files, listed, printed, rfl, rfl, rfl, ?_, ?_⟩
    · rintro rfl broken
      exact printed.trans (Outcome.text_append_line broken)
    · rintro rfl
      exact ⟨_, printed, Outcome.isDocument_json_iff _, Outcome.ofValue?_value _⟩
  · rintro rfl
    exact checkDocs_output_eq_iff formed o probe

end

/-- Settings that name a path, and leave out all that can be left out. -/
def Options.plain (path : Path) : Options where
  path := .ofText path
  docsRoot := none
  staticRoot := none
  sitePrefix := "docs".toList
  staticPrefix := "static".toList
  skipExternal := true
  concurrency := 8
  timeout := none

/-- A file without links, one with a broken link, one that is no text, and one that is not there. -/
theorem checkDocs_verdict_single_files :
    let t : Tree := ⟨[(["good.md".toList], .file []), (["link.md".toList], .file (.ofText "[x](y.md)".toList)),
      (["octet.md".toList], .file [.stray [0xff]])], []⟩
    let run (path : Path) (asJson : Bool) := checkDocs t (.plain path) asJson fun _ _ => .status 200
    let invalid : Failure := ⟨"y.md".toList, "link.md".toList, "Invalid link format".toList⟩
    t.WellFormed ∧
      ((run "good.md".toList false).result = .ok 0 ∧
        (run "good.md".toList false).output = "No broken links found\n".toList) ∧
      ((run "link.md".toList false).result = .ok 1 ∧
        (run "link.md".toList false).output =
          ("----------------------------------------------\n" ++
            "------------- Broken Link Report -------------\n" ++
            "----------------------------------------------\n" ++
            "Invalid link format: File: link.md, Link: y.md\n").toList) ∧
      (∃ document, (run "link.md".toList true).output = document ++ ['\n'] ∧
        Json.IsDocument document (Outcome.value ⟨1, 1, [invalid]⟩)) ∧
      ((∃ e, (run "octet.md".toList false).result = .error e) ∧ (run "octet.md".toList false).output = []) ∧
      (run "none.md".toList false).result = .ok 1 := by
  intro t run invalid
  have formed : t.WellFormed := by decide +kernel
  let config (path : Path) : Config :=
    ⟨path, [], Config.defaultStaticRoot, "docs".toList, "static".toList, true, 8, none⟩
  have accepted : ∀ path ∈ ["good.md".toList, "link.md".toList, "octet.md".toList],
      Config.ofOptions t (.plain path) = .ok (config path) ∧ t.markdownFiles path = .ok [path] := by decide +kernel
  have verdict (path : Path) (asJson : Bool) :=
    checkDocs_verdict formed (.plain path) asJson fun _ _ => .status 200
  obtain ⟨good, -, -, -, -, -, printed⟩ := verdict "good.md".toList false
  obtain ⟨-, -, failed, silent, -, -, -⟩ := verdict "octet.md".toList false
  obtain ⟨-, refused, -, -, -, -, -⟩ := verdict "none.md".toList false
  have goodEnds : (run "good.md".toList false).result = .ok 0 := by
    obtain ⟨settings, listed⟩ := accepted "good.md".toList (by simp)
    have text : t.read "good.md".toList = .ok [] := by decide +kernel
    have noLinks : t.occurrencesIn ["good.md".toList] = [] := by decide +kernel
    refine good.2 ⟨_, _, settings, listed, List.forall_mem_singleton.2 ?_, by rw [noLinks]; exact nofun⟩
    exact (Tree.read_of_isFile (by decide +kernel)).1 ⟨_, text⟩
  obtain ⟨settings, listed⟩ := accepted "link.md".toList (by simp)
  have links : t.occurrencesIn ["link.md".toList] = [⟨"y.md".toList, "link.md".toList, false⟩] := by decide +kernel
  have checked : ((t.occurrencesIn ["link.md".toList]).filterMap fun link =>
      (((config "link.md".toList).context t).check t (fun _ => .status 200) link).failure?) = [invalid] := by
    decide +kernel
  have linkEnds (asJson : Bool) : (run "link.md".toList asJson).result = .ok 1 := by
    have text : t.read "link.md".toList = .ok "[x](y.md)".toList := by decide +kernel
    obtain ⟨-, bad, -⟩ := verdict "link.md".toList asJson
    refine bad.2 (.inr ⟨_, _, settings, listed, List.forall_mem_singleton.2 ?_, ?_⟩)
    · exact (Tree.read_of_isFile (by decide +kernel)).1 ⟨_, text⟩
    · rw [links]
      exact ⟨_, List.mem_cons_self, by decide +kernel⟩
  have reported (asJson : Bool) : ∃ outcome : Outcome, outcome = ⟨1, 1, [invalid]⟩ ∧
      (asJson = false → outcome.broken ≠ [] → (run "link.md".toList asJson).output =
        (Outcome.banner ++ outcome.broken.map fun f =>
          f.reason ++ ": File: ".toList ++ f.file ++ ", Link: ".toList ++ f.link).flatMap (· ++ ['\n'])) ∧
      (asJson = true → ∃ document, (run "link.md".toList asJson).output = document ++ ['\n'] ∧
        ∀ v, Json.IsDocument document v ↔ v = outcome.value) := by
    obtain ⟨-, -, -, -, -, reports, -⟩ := verdict "link.md".toList asJson
    obtain ⟨files, outcome, sameListed, -, files', count, broken, lines, document⟩ :=
      reports _ _ settings (linkEnds asJson)
    cases listed.symm.trans sameListed
    rw [links] at count
    refine ⟨outcome, ?_, lines, fun json => ?_⟩
    · obtain ⟨scanned, checkedLinks, failures⟩ := outcome
      simp only at files' count broken
      rw [files', count, broken, checked]
      rfl
    · obtain ⟨written, printed, read, -⟩ := document json
      exact ⟨written, printed, read⟩
  obtain ⟨_, rfl, lines, -⟩ := reported false
  obtain ⟨_, rfl, -, document⟩ := reported true
  obtain ⟨written, printedJson, read⟩ := document rfl
  have octetFails : ∃ e, (run "octet.md".toList false).result = .error e := by
    obtain ⟨settings, listed⟩ := accepted "octet.md".toList (by simp)
    exact failed.2 ⟨_, settings, .inr ⟨_, listed, _, List.mem_cons_self, [.stray [0xff]], [0xff],
      by decide +kernel, List.mem_cons_self⟩⟩
  obtain ⟨e, ended⟩ := octetFails
  refine ⟨formed, ⟨goodEnds, (printed rfl).2 goodEnds⟩, ⟨linkEnds false, ?_⟩, ⟨written, printedJson, (read _).2 rfl⟩,
    ⟨⟨e, ended⟩, silent e ended⟩, ?_⟩
  · exact (lines rfl (List.cons_ne_nil invalid [])).trans (by decide +kernel)
  · exact refused.2 (.inl ⟨.pathNotFound (.ofText "none.md".toList), by decide +kernel⟩)

end DocLinks
