import DocLinks.Proofs.NameOrder
import DocLinks.Proofs.TreePlaces

namespace DocLinks

def Visit.path : Visit → Path
  | .file path => path
  | .folder path => path
  | .loop path => path
  | .broken path _ => path

/-- What the walk meets at a name of a folder: something to show, or a folder to go into. -/
inductive Meeting
  | file
  | into (target : Location)
  | loop
  | broken (cause : FileError)
deriving DecidableEq

namespace Tree

/-- What the walk meets where a symbolic link stands, with the folders that it is inside of. -/
def linkMeeting (t : Tree) (inside : List Location) (path : Path) : Meeting :=
  match t.locate path with
  | .error cause => .broken cause
  | .ok target =>
    if t.lookup? target = some .folder then if inside.contains target then .loop else .into target
    else .file

def meeting? (t : Tree) (above : List Location) (place : Location) (path : Path) (name : Name) : Option Meeting :=
  match t.lookup? (name :: place) with
  | none => none
  | some (.file _) => some .file
  | some .folder => some (.into (name :: place))
  | some (.link _) => some (t.linkMeeting (place :: above) (path.join name))

/-- What the walk shows of a meeting, given what it shows of a folder. -/
def visits (path : Path) (inside : Location → List Visit) : Meeting → List Visit
  | .file => [.file path]
  | .into target => inside target
  | .loop => [.loop path]
  | .broken cause => [.broken path cause]

theorem walkFolder_eq (t : Tree) (above : List Location) (place : Location) (path : Path) :
    t.walkFolder above place path =
      .folder path :: (t.names place).flatMap fun name =>
        match t.meeting? above place path name with
        | none => []
        | some meeting =>
          visits (path.join name) (fun target => t.walkFolder (place :: above) target (path.join name)) meeting := by
  rw [walkFolder]
  congr 2
  funext name
  unfold meeting?
  split
  · next own => simp only [own]
  · next own => simp only [own, visits]
  · next own => simp only [own, visits]
  · next own =>
    simp only [own, linkMeeting]
    cases t.locate (path.join name) with
    | error cause => rfl
    | ok target =>
      dsimp only
      split
      · next folder =>
        rw [if_pos folder]
        simp only [List.contains_iff_mem]
        split <;> simp only [visits]
      · next other =>
        rw [if_neg other]
        simp only [visits]

theorem linkMeeting_eq_into {t : Tree} {inside : List Location} {path : Path} {target : Location}
    (goesIn : t.linkMeeting inside path = .into target) : t.lookup? target = some .folder ∧ target ∉ inside := by
  unfold linkMeeting at goesIn
  split at goesIn
  · cases goesIn
  · split at goesIn
    · next folder =>
      split at goesIn
      · cases goesIn
      · next new =>
        cases goesIn
        exact ⟨folder, by simpa using new⟩
    · cases goesIn

/-- What holds of a folder when it holds of all that the walk goes into from there, holds of every folder. -/
theorem walk_induction {t : Tree} {motive : List Location → Location → Path → Prop}
    (step : ∀ above place path,
      (∀ name target, t.meeting? above place path name = some (.into target) →
        motive (place :: above) target (path.join name)) →
      motive above place path)
    (above : List Location) (place : Location) (path : Path) : motive above place path := by
  induction above, place, path using walkFolder.induct t with
  | case1 above place path ofFolder ofLink =>
    refine step above place path fun name target met => ?_
    unfold meeting? at met
    split at met
    · cases met
    · cases met
    · next own =>
      cases met
      exact ofFolder name own
    · obtain ⟨folder, new⟩ := linkMeeting_eq_into (Option.some.inj met)
      exact ofLink name target folder new

/-- The ways a walk takes through the names of folders, and what it shows at their ends. -/
inductive Way (t : Tree) : List Location → Location → Path → List Name → Visit → Prop
  | here {above place path} : Way t above place path [] (.folder path)
  | file {above place path name} : t.meeting? above place path name = some .file →
      Way t above place path [name] (.file (path.join name))
  | into {above place path name target names v} : t.meeting? above place path name = some (.into target) →
      Way t (place :: above) target (path.join name) names v → Way t above place path (name :: names) v
  | loop {above place path name} : t.meeting? above place path name = some .loop →
      Way t above place path [name] (.loop (path.join name))
  | broken {above place path name cause} : t.meeting? above place path name = some (.broken cause) →
      Way t above place path [name] (.broken (path.join name) cause)

theorem mem_names_of_meeting {t : Tree} {above : List Location} {place : Location} {path : Path} {name : Name}
    {meeting : Meeting} (met : t.meeting? above place path name = some meeting) : name ∈ t.names place := by
  rw [mem_names]
  cases own : t.lookup? (name :: place) with
  | none => simp [meeting?, own] at met
  | some entry => exact ⟨entry, rfl⟩

theorem mem_walkFolder_iff_meeting {t : Tree} {above : List Location} {place : Location} {path : Path} {v : Visit} :
    v ∈ t.walkFolder above place path ↔ v = .folder path ∨
      ∃ name meeting, t.meeting? above place path name = some meeting ∧
        v ∈ visits (path.join name) (fun target => t.walkFolder (place :: above) target (path.join name)) meeting := by
  rw [walkFolder_eq, List.mem_cons, List.mem_flatMap]
  refine or_congr_right ⟨?_, ?_⟩
  · rintro ⟨name, -, shown⟩
    split at shown
    · cases shown
    · next meeting met => exact ⟨name, meeting, met, shown⟩
  · rintro ⟨name, meeting, met, shown⟩
    refine ⟨name, mem_names_of_meeting met, ?_⟩
    rw [met]
    exact shown

/-- A walk shows what its ways end at, and nothing else. -/
theorem mem_walkFolder {t : Tree} {above : List Location} {place : Location} {path : Path} {v : Visit} :
    v ∈ t.walkFolder above place path ↔ ∃ names, t.Way above place path names v := by
  constructor
  · intro shown
    induction above, place, path using @walk_induction t with
    | step above place path ih =>
      rcases mem_walkFolder_iff_meeting.1 shown with rfl | ⟨name, meeting, met, shown⟩
      · exact ⟨[], .here⟩
      · cases meeting with
        | file => exact ⟨[name], List.mem_singleton.1 shown ▸ .file met⟩
        | into target =>
          obtain ⟨names, way⟩ := ih name target met shown
          exact ⟨name :: names, .into met way⟩
        | loop => exact ⟨[name], List.mem_singleton.1 shown ▸ .loop met⟩
        | broken cause => exact ⟨[name], List.mem_singleton.1 shown ▸ .broken met⟩
  · rintro ⟨names, way⟩
    induction way with
    | here => exact mem_walkFolder_iff_meeting.2 (.inl rfl)
    | file met => exact mem_walkFolder_iff_meeting.2 (.inr ⟨_, _, met, List.mem_singleton.2 rfl⟩)
    | into met way ih => exact mem_walkFolder_iff_meeting.2 (.inr ⟨_, _, met, ih⟩)
    | loop met => exact mem_walkFolder_iff_meeting.2 (.inr ⟨_, _, met, List.mem_singleton.2 rfl⟩)
    | broken met => exact mem_walkFolder_iff_meeting.2 (.inr ⟨_, _, met, List.mem_singleton.2 rfl⟩)

theorem Way.path_eq {t : Tree} {above : List Location} {place : Location} {path : Path} {names : List Name}
    {v : Visit} (way : t.Way above place path names v) : v.path = path.descend names := by
  induction way with
  | here => rfl
  | file => rfl
  | into met way ih => exact ih
  | loop => rfl
  | broken => rfl

theorem WellFormed.proper_of_mem_names {t : Tree} (formed : t.WellFormed) {place : Location} {name : Name}
    (member : name ∈ t.names place) : name.IsProper := by
  obtain ⟨entry, found⟩ := mem_names.1 member
  exact (formed.holds found).1

theorem Way.proper {t : Tree} (formed : t.WellFormed) {above : List Location} {place : Location} {path : Path}
    {names : List Name} {v : Visit} (way : t.Way above place path names v) : ∀ n ∈ names, n.IsProper := by
  induction way with
  | here => exact fun n member => nomatch member
  | into met way ih => exact List.forall_mem_cons.2 ⟨formed.proper_of_mem_names (mem_names_of_meeting met), ih⟩
  | file met => exact List.forall_mem_singleton.2 (formed.proper_of_mem_names (mem_names_of_meeting met))
  | loop met => exact List.forall_mem_singleton.2 (formed.proper_of_mem_names (mem_names_of_meeting met))
  | broken met => exact List.forall_mem_singleton.2 (formed.proper_of_mem_names (mem_names_of_meeting met))

/-- All that is shown of a name in a folder lies at it or below it. -/
theorem WellFormed.steps_of_mem_visits {t : Tree} (formed : t.WellFormed) {above : List Location}
    {place : Location} {path : Path} {name : Name} {meeting : Meeting} {v : Visit}
    (met : t.meeting? above place path name = some meeting)
    (shown : v ∈ visits (path.join name)
      (fun target => t.walkFolder (place :: above) target (path.join name)) meeting) :
    ∃ names, v.path.steps = path.steps ++ name :: names := by
  have proper := formed.proper_of_mem_names (mem_names_of_meeting met)
  have joined : (path.join name).steps = path.steps ++ [name] := by
    rw [Path.steps_join proper.relative, proper.steps]
  cases meeting with
  | into target =>
    obtain ⟨names, way⟩ := mem_walkFolder.1 shown
    refine ⟨names, ?_⟩
    rw [way.path_eq, Path.steps_descend _ (way.proper formed), joined, List.append_assoc]
    rfl
  | file => exact ⟨[], List.mem_singleton.1 shown ▸ joined⟩
  | loop => exact ⟨[], List.mem_singleton.1 shown ▸ joined⟩
  | broken cause => exact ⟨[], List.mem_singleton.1 shown ▸ joined⟩

/-- A walk shows everything in the order of the paths, and nothing twice. -/
theorem WellFormed.pairwise_walkFolder {t : Tree} (formed : t.WellFormed) (above : List Location)
    (place : Location) (path : Path) :
    (t.walkFolder above place path).Pairwise fun u v => u.path.Precedes v.path := by
  induction above, place, path using @walk_induction t with
  | step above place path ih =>
    rw [walkFolder_eq, List.pairwise_cons, List.pairwise_flatMap]
    refine ⟨fun v shown => ?_, fun name _ => ?_, (t.pairwise_names place).imp fun less u inA v inB => ?_⟩
    · obtain ⟨name, -, shown⟩ := List.mem_flatMap.1 shown
      split at shown
      · cases shown
      · next meeting met =>
        obtain ⟨names, longer⟩ := formed.steps_of_mem_visits met shown
        exact Path.precedes_of_prefix longer
    · split
      · exact .nil
      · next meeting met =>
        cases meeting with
        | into target => exact ih name target met
        | file => exact List.pairwise_singleton _ _
        | loop => exact List.pairwise_singleton _ _
        | broken cause => exact List.pairwise_singleton _ _
    · split at inA
      · cases inA
      · next meetingA metA =>
        split at inB
        · cases inB
        · next meetingB metB =>
          obtain ⟨namesA, left⟩ := formed.steps_of_mem_visits metA inA
          obtain ⟨namesB, right⟩ := formed.steps_of_mem_visits metB inB
          exact Path.precedes_of_lt left right less

end Tree

end DocLinks
