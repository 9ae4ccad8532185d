import DocLinks.Proofs.Cursors
import DocLinks.Scan
import Mathlib.Algebra.Ring.Nat
import Mathlib.Data.List.Perm.Basic

namespace DocLinks

/-- How far the check of a file has come. -/
inductive Progress
  | unread
  | checking (cursor : Cursor) (verdicts : List Verdict)
  | checked (check : TextCheck)
  | failed (error : ScanError)

/-- A file to check, with what has been done of it. -/
structure Job where
  file : Path
  progress : Progress

/-- What one step of a job comes to: how far it leads, what it logs, and the pages it asks for. -/
structure JobStep where
  progress : Progress
  events : List Event
  probed : List Text

/-- The entry that tells that a file has been checked. -/
def TextCheck.closing (check : TextCheck) (file : Path) : Event :=
  .fileChecked file check.linksChecked check.broken.length

def Verdict.events (v : Verdict) : List Event := v.diagnostics.map .noted

/-- Whether an entry of the log belongs to the check of a file. -/
def Event.isAbout (file : Path) : Event → Bool
  | .noted d => d.file == file
  | .fileChecked checked _ _ => checked == file
  | _ => false

@[simp] theorem Event.isAbout_loopSkipped (file path : Path) : (loopSkipped path).isAbout file = false := rfl

@[simp] theorem Event.isAbout_filesFound (file : Path) (files : Nat) (root : Path) (site : Site) (skip : Bool) :
    (filesFound files root site skip).isAbout file = false := rfl

@[simp] theorem Event.isAbout_finished (file : Path) (links broken : Nat) :
    (finished links broken).isAbout file = false := rfl

namespace Job

/-- One step of a job. The file is read; then its links are resolved one by one; when there are no more, the
check is summed up. -/
inductive Advance (ctx : Context) (t : Tree) (probe : Probe) : Job → JobStep → Prop
  | opened {file : Path} {text : Text} (read : t.read file = .ok text) :
    Advance ctx t probe ⟨file, .unread⟩ ⟨.checking (.start text file) [], [], []⟩
  | unreadable {file : Path} {cause : FileError} (read : t.read file = .error cause) :
    Advance ctx t probe ⟨file, .unread⟩ ⟨.failed (.unreadable file cause), [], []⟩
  | resolved {file : Path} {cursor later : Cursor} {o : Occurrence} {verdicts : List Verdict}
    (found : cursor.next? = some (o, later)) :
    Advance ctx t probe ⟨file, .checking cursor verdicts⟩
      ⟨.checking later (verdicts ++ [ctx.check t probe o]), (ctx.check t probe o).events,
        (ctx.check t probe o).probed⟩
  | summed {file : Path} {cursor : Cursor} {verdicts : List Verdict} (ended : cursor.next? = none) :
    Advance ctx t probe ⟨file, .checking cursor verdicts⟩
      ⟨.checked (.ofVerdicts verdicts), [TextCheck.closing (.ofVerdicts verdicts) file], []⟩

/-- What a job has logged so far. -/
def events (job : Job) : List Event :=
  match job.progress with
  | .checking _ verdicts => verdicts.flatMap (·.events)
  | .checked check => check.events job.file
  | _ => []

/-- The pages that a job has asked for so far. -/
def probed (job : Job) : List Text :=
  match job.progress with
  | .checking _ verdicts => verdicts.flatMap (·.probed)
  | .checked check => check.probed
  | _ => []

/-- Whether what has been done of a job agrees with the check of the file at once. -/
def Sound (ctx : Context) (t : Tree) (probe : Probe) (job : Job) : Prop :=
  match job.progress with
  | .unread => True
  | .checking cursor verdicts => ∃ text, t.read job.file = .ok text ∧
      (occurrences text job.file).map (ctx.check t probe) = verdicts ++ cursor.remaining.map (ctx.check t probe)
  | .checked check => ctx.checkFile t probe job.file = .ok check
  | .failed error => ctx.checkFile t probe job.file = .error error

/-- The steps that a job still takes at most, and the one that takes its result away. -/
def work (t : Tree) (job : Job) : Nat :=
  match job.progress with
  | .unread =>
    match t.read job.file with
    | .ok text => (occurrences text job.file).length + 3
    | .error _ => 2
  | .checking cursor _ => cursor.remaining.length + 2
  | .checked _ => 1
  | .failed _ => 1

end Job

namespace Context

variable {ctx : Context} {t : Tree} {probe : Probe} {file : Path}

theorem checkFile_eq_ok {check : TextCheck} : ctx.checkFile t probe file = .ok check ↔
    ∃ text, t.read file = .ok text ∧ ctx.checkText t probe text file = check := by
  rw [checkFile]
  cases t.read file <;> simp

theorem checkFile_of_error {cause : FileError} (read : t.read file = .error cause) :
    ctx.checkFile t probe file = .error (.unreadable file cause) := by
  rw [checkFile, read]

end Context

theorem Occurrence.file_of_mem_occurrences {text : Text} {file : Path} {o : Occurrence}
    (member : o ∈ occurrences text file) : o.file = file := by
  obtain ⟨m, -, here⟩ := List.mem_flatMap.1 member
  rcases List.mem_cons.1 here with rfl | nested
  · rfl
  · obtain ⟨m', -, rfl⟩ := List.mem_map.1 nested
    rfl

theorem Verdict.events_isAbout {ctx : Context} {t : Tree} {probe : Probe} {o : Occurrence} {e : Event}
    (member : e ∈ (ctx.check t probe o).events) : e.isAbout o.file = true := by
  obtain ⟨d, noted, rfl⟩ := List.mem_map.1 member
  obtain ⟨note, -, rfl⟩ := List.mem_map.1 noted
  exact beq_self_eq_true _

theorem TextCheck.events_ofVerdicts (verdicts : List Verdict) (file : Path) :
    (TextCheck.ofVerdicts verdicts).events file =
      verdicts.flatMap (·.events) ++ [(ofVerdicts verdicts).closing file] := by
  simp [TextCheck.events, ofVerdicts, closing, Verdict.events, List.map_flatMap]

namespace Job

variable {ctx : Context} {t : Tree} {probe : Probe} {job : Job} {step : JobStep}

/-- The job after a step. -/
def after (job : Job) (step : JobStep) : Job := ⟨job.file, step.progress⟩

@[simp] theorem after_file (job : Job) (step : JobStep) : (job.after step).file = job.file := rfl

theorem Advance.sound (advance : Advance ctx t probe job step) (sound : job.Sound ctx t probe) :
    (job.after step).Sound ctx t probe := by
  cases advance with
  | @opened file text read => exact ⟨text, read, by rw [Cursor.remaining_start]; rfl⟩
  | unreadable read => exact Context.checkFile_of_error read
  | resolved found =>
    obtain ⟨text, read, split⟩ := sound
    rw [Cursor.remaining_of_next?_eq_some found, List.map_cons, List.append_cons] at split
    exact ⟨text, read, split⟩
  | summed ended =>
    obtain ⟨text, read, split⟩ := sound
    rw [Cursor.remaining_of_next?_eq_none ended, List.map_nil, List.append_nil] at split
    exact Context.checkFile_eq_ok.2 ⟨text, read, congrArg _ split⟩

theorem Advance.events_eq (advance : Advance ctx t probe job step) :
    (job.after step).events = job.events ++ step.events := by
  cases advance with
  | opened | unreadable => rfl
  | resolved => simp [events, after]
  | summed => exact TextCheck.events_ofVerdicts _ _

theorem Advance.probed_eq (advance : Advance ctx t probe job step) :
    (job.after step).probed = job.probed ++ step.probed := by
  cases advance with
  | opened | unreadable => rfl
  | resolved => simp [probed, after]
  | summed => exact (List.append_nil _).symm

theorem Advance.work_lt (advance : Advance ctx t probe job step) : (job.after step).work t < job.work t := by
  cases advance with
  | opened read => simp [work, after, read, Cursor.remaining_start]
  | unreadable read => simp [work, after, read]
  | resolved found => simp [work, after, Cursor.remaining_of_next?_eq_some found]
  | summed => simp [work, after]

/-- What a job logs is about its file. -/
theorem Sound.events_isAbout (sound : job.Sound ctx t probe) {e : Event} (member : e ∈ job.events) :
    e.isAbout job.file = true := by
  have resolved {text : Text} {file : Path} {verdicts : List Verdict}
      (part : verdicts ⊆ (occurrences text file).map (ctx.check t probe))
      (member : e ∈ verdicts.flatMap (·.events)) : e.isAbout file = true := by
    obtain ⟨verdict, isPart, member⟩ := List.mem_flatMap.1 member
    obtain ⟨o, found, rfl⟩ := List.mem_map.1 (part isPart)
    exact Occurrence.file_of_mem_occurrences found ▸ Verdict.events_isAbout member
  obtain ⟨file, progress⟩ := job
  cases progress with
  | unread => cases member
  | failed => cases member
  | checking cursor verdicts =>
    obtain ⟨text, -, split⟩ := sound
    exact resolved (split ▸ List.subset_append_left _ _) member
  | checked check =>
    have checks : ctx.checkFile t probe file = .ok check := sound
    obtain ⟨text, -, rfl⟩ := Context.checkFile_eq_ok.1 checks
    have logged : e ∈ (ctx.checkText t probe text file).events file := member
    rw [Context.checkText, TextCheck.events_ofVerdicts] at logged
    rcases List.mem_append.1 logged with noted | closing
    · exact resolved (List.Subset.refl _) noted
    · rw [List.mem_singleton.1 closing]
      exact beq_self_eq_true file

end Job

/-- A scan that is under way: the files not yet started, those in hand, and what has been taken of those that
are checked. Log and requests are kept in the order in which they are made. -/
structure Pool where
  waiting : List Path
  started : List Job
  taken : List (Path × TextCheck)
  failed? : Option ScanError
  events : List Event
  probed : List Text

namespace Pool

/-- Where a scan starts, which fails at once if the walk does. -/
def opening (ctx : Context) (t : Tree) (root : Path) : Pool :=
  let loops := (t.loops root).map Event.loopSkipped
  match t.markdownFiles root with
  | .error e => ⟨[], [], [], some e, loops, []⟩
  | .ok files => ⟨files, [], [], none, loops ++ [.filesFound files.length root ctx.site ctx.skipExternal], []⟩

/-- One step of a scan that has `width` places. Files are started in order while there is a place; any file in
hand may advance; results are taken in order, and a file that has failed is the last one taken. -/
inductive Step (ctx : Context) (t : Tree) (probe : Probe) (width : Nat) : Pool → Pool → Prop
  | start {file waiting started taken events probed} (room : started.length < width) :
    Step ctx t probe width ⟨file :: waiting, started, taken, none, events, probed⟩
      ⟨waiting, started ++ [⟨file, .unread⟩], taken, none, events, probed⟩
  | advance (front : List Job) {job step back waiting taken events probed}
    (advance : job.Advance ctx t probe step) :
    Step ctx t probe width ⟨waiting, front ++ job :: back, taken, none, events, probed⟩
      ⟨waiting, front ++ job.after step :: back, taken, none, events ++ step.events, probed ++ step.probed⟩
  | take {file check started waiting taken events probed} :
    Step ctx t probe width ⟨waiting, ⟨file, .checked check⟩ :: started, taken, none, events, probed⟩
      ⟨waiting, started, taken ++ [(file, check)], none, events, probed⟩
  | fail {file error started waiting taken events probed} :
    Step ctx t probe width ⟨waiting, ⟨file, .failed error⟩ :: started, taken, none, events, probed⟩
      ⟨waiting, ⟨file, .failed error⟩ :: started, taken, some error, events, probed⟩

/-- What a scan comes to, when it has ended. -/
def scan? (pool : Pool) : Option Scan :=
  match pool.failed?, pool.started, pool.waiting with
  | some e, _, _ => some ⟨.error e, pool.events, pool.probed⟩
  | none, [], [] =>
    let outcome := Outcome.ofChecks pool.taken
    some ⟨.ok outcome, pool.events ++ [.finished outcome.linksChecked outcome.broken.length], pool.probed⟩
  | none, _, _ => none

variable {ctx : Context} {t : Tree} {probe : Probe} {width : Nat} {pool next : Pool}

/-- A scan that has not ended can go on. -/
theorem exists_step (positive : 0 < width) (unfinished : pool.scan? = none) :
    ∃ next, Step ctx t probe width pool next := by
  obtain ⟨waiting, started, taken, failed?, events, probed⟩ := pool
  cases failed? with
  | some e => cases unfinished
  | none =>
    cases started with
    | nil =>
      cases waiting with
      | nil => cases unfinished
      | cons file waiting => exact ⟨_, .start positive⟩
    | cons job started =>
      obtain ⟨file, progress⟩ := job
      cases progress with
      | unread =>
        cases read : t.read file with
        | ok text => exact ⟨_, .advance [] (.opened read)⟩
        | error cause => exact ⟨_, .advance [] (.unreadable read)⟩
      | checking cursor verdicts =>
        cases found : cursor.next? with
        | some found' => exact ⟨_, .advance [] (.resolved found)⟩
        | none => exact ⟨_, .advance [] (.summed found)⟩
      | checked check => exact ⟨_, .take⟩
      | failed error => exact ⟨_, .fail⟩

/-- The steps that a scan still takes at most. -/
def work (t : Tree) (pool : Pool) : Nat :=
  (pool.started.map (·.work t)).sum + (pool.waiting.map fun file => (Job.mk file .unread).work t + 1).sum +
    if pool.failed?.isNone then 1 else 0

theorem Step.work_lt (step : Step ctx t probe width pool next) : next.work t < pool.work t := by
  cases step with
  | start room =>
    simp only [work, List.map_append, List.map_cons, List.map_nil, List.sum_append, List.sum_cons, List.sum_nil]
    omega
  | advance front advance =>
    have less := advance.work_lt
    simp only [work, List.map_append, List.map_cons, List.sum_append, List.sum_cons]
    omega
  | take =>
    simp only [work, List.map_cons, List.sum_cons, Job.work]
    omega
  | fail => simp [work]

/-- No scan goes on for ever. -/
theorem wellFounded_step : WellFounded fun next pool => Step ctx t probe width pool next :=
  Subrelation.wf (fun step => step.work_lt) (measure (work t)).wf

/-- All files of a scan, each with what has been done of it. -/
def jobs (pool : Pool) : List Job :=
  (pool.taken.map fun (file, check) => ⟨file, .checked check⟩) ++ pool.started ++
    pool.waiting.map (⟨·, .unread⟩)

/-- A step advances one file or moves none. -/
theorem Step.jobs_cases (step : Step ctx t probe width pool next) :
    (next.jobs = pool.jobs ∧ next.events = pool.events ∧ next.probed = pool.probed) ∨
    ∃ front job back jobStep, job.Advance ctx t probe jobStep ∧ pool.jobs = front ++ job :: back ∧
      next.jobs = front ++ job.after jobStep :: back ∧ next.events = pool.events ++ jobStep.events ∧
      next.probed = pool.probed ++ jobStep.probed := by
  cases step with
  | start room => exact .inl ⟨by simp [jobs], rfl, rfl⟩
  | @advance front job jobStep back waiting taken events probed advance =>
    exact .inr ⟨(taken.map fun (file, check) => ⟨file, .checked check⟩) ++ front, job,
      back ++ waiting.map (⟨·, .unread⟩), jobStep, advance, by simp [jobs], by simp [jobs], rfl, rfl⟩
  | take => exact .inl ⟨by simp [jobs], rfl, rfl⟩
  | fail => exact .inl ⟨rfl, rfl, rfl⟩

end Pool

end DocLinks
