import DocLinks.Proofs.FilePool
import DocLinks.Proofs.SiteRoots

namespace DocLinks

/-- The notes of a finding are in line with it: routine ones, and at the end one that is not, just if there is a reason
to report. -/
structure Finding.Tells (found : Finding) : Prop where
  short : found.notes.length ≤ 2
  routine : ∀ note ∈ found.notes.dropLast, note.1 = .debug
  told : (found.notes.filter (·.1 = .info)).length = found.reason?.toList.length

namespace Finding

theorem tells_good_nil : (good []).Tells := ⟨by decide, nofun, rfl⟩

theorem tells_good_debug (message : Text) : (good [(.debug, message)]).Tells := ⟨Nat.le_succ 1, nofun, rfl⟩

theorem tells_bad_info (reason message : Text) : (bad reason [(.info, message)]).Tells :=
  ⟨Nat.le_succ 1, nofun, rfl⟩

/-- A routine note before the note of a finding that has one. -/
theorem Tells.cons {found : Finding} (tells : found.Tells) {note : Severity × Text} (single : found.notes = [note])
    (message : Text) (probed : List Text) :
    Tells { found with notes := (.debug, message) :: found.notes, probed } where
  short := by simp [single]
  routine := by simp [single]
  told := by simpa using tells.told

end Finding

theorem ProbeOutcome.finding_cases (outcome : ProbeOutcome) :
    outcome.finding.Tells ∧ ∃ note, outcome.finding.notes = [note] := by
  cases outcome with
  | failed detail => exact ⟨Finding.tells_bad_info _ _, _, rfl⟩
  | status code =>
    rw [finding]
    split
    · exact ⟨Finding.tells_bad_info _ _, _, rfl⟩
    · exact ⟨Finding.tells_good_debug _, _, rfl⟩

theorem FileLink.finding_tells (kind : FileLink) (path : Path) (isThere : Bool) :
    (kind.finding path isThere).Tells := by
  cases isThere with
  | true => exact (Finding.tells_good_debug _).cons rfl _ []
  | false => exact (Finding.tells_bad_info _ _).cons rfl _ []

namespace Aim

variable (t : Tree) (probe : Probe)

theorem finding_tells (aim : Aim) : (aim.finding t probe).Tells := by
  cases aim with
  | settled => exact Finding.tells_good_nil
  | pinned version => exact Finding.tells_good_debug _
  | page url =>
    obtain ⟨tells, note, single⟩ := (probe url).finding_cases
    exact tells.cons single _ [url]
  | file kind path => exact kind.finding_tells path _
  | malformed isImage => exact Finding.tells_bad_info _ _

/-- Nothing is noted only where there is nothing to check. -/
theorem notes_finding_eq_nil_iff (aim : Aim) : (aim.finding t probe).notes = [] ↔ aim = .settled := by
  cases aim with
  | settled => exact iff_of_true rfl rfl
  | pinned | page | malformed => exact iff_of_false (List.cons_ne_nil _ _) nofun
  | file kind path =>
    refine iff_of_false ?_ nofun
    rw [finding, FileLink.finding]
    split <;> exact List.cons_ne_nil _ _

end Aim

/-- What a report is about. -/
def Failure.subject (f : Failure) : Text × Path := (f.link, f.file)

/-- What a note is about. -/
def Diagnostic.subject (d : Diagnostic) : Text × Path := (d.link, d.file)

/-- The info notes, in their order. -/
def infosIn (noted : List Diagnostic) : List Diagnostic := noted.filter (·.severity = .info)

namespace Occurrence

variable (o : Occurrence) {found : Finding}

theorem subject_of_mem_diagnostics {d : Diagnostic} (noted : d ∈ (o.verdict found).diagnostics) :
    d.subject = (o.link, o.file) := by
  obtain ⟨note, -, rfl⟩ := List.mem_map.1 noted
  rfl

theorem subject_of_failure {f : Failure} (failed : (o.verdict found).failure? = some f) :
    f.subject = (o.link, o.file) := by
  obtain ⟨reason, -, rfl⟩ := Option.map_eq_some_iff.1 failed
  rfl

theorem length_infosIn_verdict :
    (infosIn (o.verdict found).diagnostics).length = (found.notes.filter (·.1 = .info)).length := by
  rw [infosIn, verdict, List.filter_map, List.length_map]
  rfl

theorem routine_verdict (tells : found.Tells) : ∀ d ∈ (o.verdict found).diagnostics.dropLast, d.severity = .debug := by
  rw [verdict, ← List.map_dropLast]
  intro d isNote
  obtain ⟨note, early, rfl⟩ := List.mem_map.1 isNote
  exact tells.routine note early

/-- One link: the info notes are about it and as many as its reports. -/
theorem infosIn_verdict (tells : found.Tells) :
    (infosIn (o.verdict found).diagnostics).map (·.subject) = (o.verdict found).failure?.toList.map (·.subject) := by
  have noted : (infosIn (o.verdict found).diagnostics).map (·.subject) =
      List.replicate found.reason?.toList.length (o.link, o.file) := by
    refine List.eq_replicate_iff.2 ⟨by rw [List.length_map, length_infosIn_verdict, tells.told], ?_⟩
    rintro _ isSubject
    obtain ⟨d, isInfo, rfl⟩ := List.mem_map.1 isSubject
    exact o.subject_of_mem_diagnostics (List.mem_filter.1 isInfo).1
  rw [noted]
  cases reason : found.reason? <;> simp [verdict, reason, Failure.subject]

end Occurrence

/-- What holds link by link of info notes and reports holds of a document. -/
theorem TextCheck.infosIn_ofVerdicts {verdicts : List Verdict}
    (each : ∀ v ∈ verdicts, (infosIn v.diagnostics).map (·.subject) = v.failure?.toList.map (·.subject)) :
    (infosIn (ofVerdicts verdicts).diagnostics).map (·.subject) = (ofVerdicts verdicts).broken.map (·.subject) := by
  simp only [ofVerdicts, infosIn, List.filter_flatMap, List.filterMap_eq_flatMap_toList, List.map_flatMap]
  exact List.flatMap_congr each

/-- What is logged at the end of a document is routine. -/
theorem TextCheck.filter_events (check : TextCheck) (file : Path) :
    (check.events file).filter (·.severity = .info) = (infosIn check.diagnostics).map .noted := by
  rw [events, List.filter_append, List.filter_map, infosIn]
  exact List.append_nil _

namespace Context

variable {ctx : Context} {o : Occurrence}

/-- Whether a link is good as it stands: a place in the same page, a document of another site on the server, or a
page of the web where these are passed over. -/
def IsSettled (ctx : Context) (o : Occurrence) : Prop :=
  ctx.site.classify o.link o.isImage = .anchor ∨ ctx.site.classify o.link o.isImage = .rawAbsoluteFile ∨
    ctx.skipExternal = true ∧ ∃ url, ctx.site.classify o.link o.isImage = .external url

theorem aim_eq_settled_iff : ctx.aim o = .settled ↔ ctx.IsSettled o := by
  rw [aim, IsSettled]
  split <;> simp [*]

theorem check_of_isSettled (settled : ctx.IsSettled o) (t : Tree) (probe : Probe) :
    ctx.check t probe o = ⟨none, [], []⟩ := by
  rw [check, aim_eq_settled_iff.2 settled]
  rfl

variable (t : Tree) (probe : Probe)

theorem diagnostics_check_eq_nil_iff : (ctx.check t probe o).diagnostics = [] ↔ ctx.IsSettled o := by
  rw [check, Occurrence.verdict, List.map_eq_nil_iff, Aim.notes_finding_eq_nil_iff, aim_eq_settled_iff]

/-- The reports of a document are about the links that are reported. -/
theorem subjects_of_broken (ctx : Context) (text : Text) (file : Path) :
    (ctx.checkText t probe text file).broken.map (·.subject) =
      ((occurrences text file).filter fun o => (ctx.check t probe o).failure?.isSome).map fun o => (o.link, file) := by
  rw [← List.filterMap_eq_map (f := fun o : Occurrence => (o.link, file)), List.filterMap_filter, checkText,
    TextCheck.ofVerdicts, List.filterMap_map, List.map_filterMap]
  refine List.filterMap_congr fun o member => ?_
  rw [← Occurrence.file_of_mem_occurrences member]
  show (ctx.check t probe o).failure?.map (·.subject) = _
  cases failed : (ctx.check t probe o).failure? with
  | none => rfl
  | some f => exact congrArg some (o.subject_of_failure failed)

/-- What is noted of the links of a document and what is reported of them tell the same. The reports are those of the
links in their order, each about its link; the info notes are about the same links in the same order, and a link has
one, as its last note, just if it is reported. No more than two notes are taken of a link. Links that are good as they
stand are passed over without a note, without a request and without a look at the files. -/
theorem notes_tell_failures (ctx : Context) (text : Text) (file : Path) :
    let found := occurrences text file
    let verdict := ctx.check t probe
    let check := ctx.checkText t probe text file
    (infosIn check.diagnostics).map (·.subject) = check.broken.map (·.subject) ∧
    (check.events file).filter (·.severity = .info) = (infosIn check.diagnostics).map .noted ∧
    check.diagnostics = found.flatMap (verdict · |>.diagnostics) ∧
    check.broken = found.filterMap (verdict · |>.failure?) ∧
    check.broken.map (·.subject) =
      (found.filter (verdict · |>.failure?.isSome)).map (fun o => (o.link, file)) ∧
    check.broken.length ≤ check.linksChecked ∧ check.linksChecked = found.length ∧
    ∀ o ∈ found,
      (verdict o).diagnostics.length ≤ 2 ∧
      (∀ d ∈ (verdict o).diagnostics, d.subject = (o.link, file)) ∧
      (∀ d ∈ (verdict o).diagnostics.dropLast, d.severity = .debug) ∧
      (infosIn (verdict o).diagnostics).map (·.subject) = (verdict o).failure?.toList.map (·.subject) ∧
      ((verdict o).diagnostics = [] ↔ ctx.IsSettled o) ∧
      (ctx.IsSettled o → ∀ t' probe', ctx.check t' probe' o = ⟨none, [], []⟩) := by
  intro found verdict check
  have told (o : Occurrence) : (infosIn (verdict o).diagnostics).map (·.subject) =
      (verdict o).failure?.toList.map (·.subject) := o.infosIn_verdict ((ctx.aim o).finding_tells t probe)
  refine ⟨TextCheck.infosIn_ofVerdicts ?_, check.filter_events file, ?_, ?_, subjects_of_broken t probe ctx text file,
    List.length_filterMap_le _ _, List.length_map _, fun o member => ?_⟩
  · rintro _ isVerdict
    obtain ⟨o, -, rfl⟩ := List.mem_map.1 isVerdict
    exact told o
  · exact List.flatMap_map _ _ _
  · exact List.filterMap_map
  · have tells := (ctx.aim o).finding_tells t probe
    have short : (verdict o).diagnostics.length ≤ 2 := Nat.le_trans (Nat.le_of_eq (List.length_map _)) tells.short
    refine ⟨short, fun d noted => ?_, o.routine_verdict tells, told o, diagnostics_check_eq_nil_iff t probe,
      check_of_isSettled⟩
    rw [o.subject_of_mem_diagnostics noted, Occurrence.file_of_mem_occurrences member]

/-- Five links, of which a document that is missing and a link that is none are reported. The place in the page inside
the description of the first one, the page of the web and the document of another site are passed over. -/
theorem notes_tell_failures_mixed :
    let tree : Tree := ⟨[], []⟩
    let refuse : Probe := fun _ => .status 404
    let file := "docs/a.md".toList
    let text := "[a [b](#c)](./gone.md) [d](http://d) [e](/blog/e.md) [f](f)".toList
    let gone : Occurrence := ⟨"./gone.md".toList, file, false⟩
    let place : Occurrence := ⟨"#c".toList, file, false⟩
    let check := usual.checkText tree refuse text file
    occurrences text file = [gone, place, ⟨"http://d".toList, file, false⟩, ⟨"/blog/e.md".toList, file, false⟩,
      ⟨"f".toList, file, false⟩] ∧
    (infosIn check.diagnostics).map (·.subject) = [(gone.link, file), ("f".toList, file)] ∧
    check.linksChecked = 5 ∧
    (usual.check tree refuse gone).diagnostics.length = 2 ∧
    (infosIn (usual.check tree refuse gone).diagnostics).map (·.subject) = [(gone.link, file)] ∧
    usual.IsSettled place ∧ usual.check tree refuse place = ⟨none, [], []⟩ := by
  intro tree refuse file text gone place check
  have found : occurrences text file = [gone, place, ⟨"http://d".toList, file, false⟩,
      ⟨"/blog/e.md".toList, file, false⟩, ⟨"f".toList, file, false⟩] := by decide +kernel
  have reported : check.broken.map (·.subject) = [(gone.link, file), ("f".toList, file)] := by decide +kernel
  have failed : (usual.check tree refuse gone).failure?.toList.map (·.subject) = [(gone.link, file)] := by
    decide +kernel
  have settled : usual.IsSettled place := .inl (by decide)
  obtain ⟨same, -, -, -, -, -, counted, each⟩ := notes_tell_failures tree refuse usual text file
  have goneFound : gone ∈ occurrences text file := by simp [found]
  have placeFound : place ∈ occurrences text file := by simp [found]
  obtain ⟨-, -, -, told, -⟩ := each gone goneFound
  obtain ⟨-, -, -, -, -, passed⟩ := each place placeFound
  exact ⟨found, same.trans reported, counted.trans (congrArg List.length found), by decide +kernel,
    told.trans failed, settled, passed settled tree refuse⟩

end Context

end DocLinks
