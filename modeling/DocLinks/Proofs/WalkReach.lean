import DocLinks.Files
import DocLinks.Proofs.WalkVisits

namespace DocLinks.Tree

/-- A symbolic link stands at a name of the folder at a path. -/
def HoldsLink (t : Tree) (folder : Path) (name : Name) : Prop :=
  ∃ place target, t.locate folder = .ok place ∧ t.lookup? (name :: place) = some (.link target)

/-- The names below `root` that lead through folders only, and through no symbolic link back to a folder that
lies on the way, or is one of those `above`. -/
structure ReachableFrom (t : Tree) (above : List Location) (root : Path) (names : List Name) : Prop where
  proper : ∀ name ∈ names, name.IsProper
  folders : ∀ front, front <+: names → front ≠ names → t.isFolder (root.descend front) = true
  noReturn : ∀ front name, front ++ [name] <+: names → t.HoldsLink (root.descend front) name →
    ∀ target, t.locate (root.descend (front ++ [name])) = .ok target → t.lookup? target = some .folder →
      target ∉ above ∧ ∀ shorter, shorter <+: front → t.locate (root.descend shorter) ≠ .ok target

/-- The names below `root` that a walk from there can follow. -/
def Reachable (t : Tree) (root : Path) (names : List Name) : Prop := t.ReachableFrom [] root names

theorem ReachableFrom.nil (t : Tree) (above : List Location) (root : Path) : t.ReachableFrom above root [] where
  proper := nofun
  folders := fun front below ne => absurd (List.prefix_nil.1 below) ne
  noReturn := fun front name below => absurd (List.prefix_nil.1 below) (by simp)

section

variable {t : Tree} {above : List Location} {root : Path} {place : Location} {name : Name} {rest : List Name}

theorem ReachableFrom.noReturn_first (reach : t.ReachableFrom above root (name :: rest))
    (leads : t.locate root = .ok place) (link : t.HoldsLink root name) {target : Location}
    (found : t.locate (root.join name) = .ok target) (folder : t.lookup? target = some .folder) :
    target ∉ place :: above := by
  have first : [] ++ [name] <+: name :: rest := List.prefix_iff_eq_append.2 rfl
  obtain ⟨notAbove, notShorter⟩ := reach.noReturn [] name first link target found folder
  intro inside
  rcases List.mem_cons.1 inside with rfl | inside
  · exact notShorter [] List.nil_prefix leads
  · exact notAbove inside

theorem ReachableFrom.tail (reach : t.ReachableFrom above root (name :: rest)) (leads : t.locate root = .ok place) :
    t.ReachableFrom (place :: above) (root.join name) rest where
  proper := fun n member => reach.proper n (List.mem_cons_of_mem name member)
  folders := fun front below ne =>
    reach.folders (name :: front) (List.cons_prefix_cons.2 ⟨rfl, below⟩) (by simpa using ne)
  noReturn := by
    intro front n below link target found folder
    have longer : (name :: front) ++ [n] <+: name :: rest := List.cons_prefix_cons.2 ⟨rfl, below⟩
    obtain ⟨notAbove, notShorter⟩ := reach.noReturn (name :: front) n longer link target found folder
    refine ⟨fun inside => ?_, fun shorter isShorter => ?_⟩
    · rcases List.mem_cons.1 inside with rfl | inside
      · exact notShorter [] List.nil_prefix leads
      · exact notAbove inside
    · exact notShorter (name :: shorter) (List.cons_prefix_cons.2 ⟨rfl, isShorter⟩)

theorem ReachableFrom.cons (reach : t.ReachableFrom (place :: above) (root.join name) rest)
    (leads : t.locate root = .ok place) (proper : name.IsProper) (isFolder : t.isFolder root = true)
    (noReturn : t.HoldsLink root name → ∀ target, t.locate (root.join name) = .ok target →
      t.lookup? target = some .folder → target ∉ place :: above) :
    t.ReachableFrom above root (name :: rest) where
  proper := List.forall_mem_cons.2 ⟨proper, reach.proper⟩
  folders := by
    intro front below ne
    cases front with
    | nil => exact isFolder
    | cons first front =>
      obtain ⟨rfl, under⟩ := List.cons_prefix_cons.1 below
      exact reach.folders front under (by simpa using ne)
  noReturn := by
    intro front n below link target found folder
    cases front with
    | nil =>
      obtain ⟨rfl, -⟩ := List.cons_prefix_cons.1 below
      have outside := noReturn link target found folder
      refine ⟨fun inside => outside (List.mem_cons_of_mem place inside), fun shorter isShorter same => ?_⟩
      rw [List.prefix_nil.1 isShorter] at same
      cases leads.symm.trans same
      exact outside List.mem_cons_self
    | cons first front =>
      obtain ⟨rfl, under⟩ := List.cons_prefix_cons.1 below
      obtain ⟨notAbove, notShorter⟩ := reach.noReturn front n under link target found folder
      refine ⟨fun inside => notAbove (List.mem_cons_of_mem place inside), fun shorter isShorter same => ?_⟩
      -- the folder at `root` has moved from the shorter paths to those above
      cases shorter with
      | nil =>
        cases leads.symm.trans same
        exact notAbove List.mem_cons_self
      | cons head shorter =>
        obtain ⟨rfl, under⟩ := List.cons_prefix_cons.1 isShorter
        exact notShorter shorter under same

/-- The folder a walk is in joins those above it when the walk takes a step. -/
theorem reachableFrom_cons (leads : t.locate root = .ok place) :
    t.ReachableFrom above root (name :: rest) ↔
      name.IsProper ∧ t.isFolder root = true ∧
        (t.HoldsLink root name → ∀ target, t.locate (root.join name) = .ok target →
          t.lookup? target = some .folder → target ∉ place :: above) ∧
        t.ReachableFrom (place :: above) (root.join name) rest := by
  constructor
  · intro reach
    have isFolder := reach.folders [] List.nil_prefix (List.cons_ne_nil _ _).symm
    exact ⟨reach.proper name List.mem_cons_self, isFolder,
      fun link target found folder => reach.noReturn_first leads link found folder, reach.tail leads⟩
  · rintro ⟨proper, isFolder, noReturn, reach⟩
    exact reach.cons leads proper isFolder noReturn

theorem reachableFrom_cons_of_not_folder (leads : t.locate root = .ok place)
    (no : t.isFolder (root.join name) = false) :
    t.ReachableFrom above root (name :: rest) ↔ rest = [] ∧ name.IsProper ∧ t.isFolder root = true := by
  rw [reachableFrom_cons leads]
  constructor
  · rintro ⟨proper, isFolder, -, reach⟩
    refine ⟨?_, proper, isFolder⟩
    by_contra more
    have folder := reach.folders [] List.nil_prefix (Ne.symm more)
    exact absurd folder (by simp [Path.descend, no])
  · rintro ⟨rfl, proper, isFolder⟩
    refine ⟨proper, isFolder, fun _ target found folder => ?_, .nil t _ _⟩
    have yes := isFolder_iff.2 ⟨target, found, folder⟩
    exact absurd yes (by simp [no])

end

/-- What the path to a name of a folder leads to, for each thing that the walk can meet there. -/
theorem WellFormed.meeting_spec {t : Tree} (formed : t.WellFormed) (above : List Location) {place : Location}
    {path : Path} {name : Name} (proper : name.IsProper) (leads : t.locate path = .ok place)
    (folder : t.lookup? place = some .folder) :
    match t.meeting? above place path name with
    | none => t.locate (path.join name) = .error .notFound ∧ ¬t.HoldsLink path name
    | some .file => t.isFile (path.join name) = true
    | some (.into target) => t.locate (path.join name) = .ok target ∧ t.lookup? target = some .folder ∧
        (t.HoldsLink path name → target ∉ place :: above)
    | some .loop => t.HoldsLink path name ∧
        ∃ target ∈ place :: above, t.locate (path.join name) = .ok target ∧ t.lookup? target = some .folder
    | some (.broken cause) => t.HoldsLink path name ∧ t.locate (path.join name) = .error cause := by
  have link_iff : t.HoldsLink path name ↔ ∃ target, t.lookup? (name :: place) = some (.link target) := by
    constructor
    · rintro ⟨found, target, same, own⟩
      cases leads.symm.trans same
      exact ⟨target, own⟩
    · exact fun ⟨target, own⟩ => ⟨place, target, leads, own⟩
  rw [link_iff]
  cases own : t.lookup? (name :: place) with
  | none =>
    simp only [meeting?, own]
    exact ⟨locate_join_of_none proper leads folder own, by simp⟩
  | some entry =>
    cases entry with
    | file content =>
      simp only [meeting?, own]
      exact isFile_iff.2 ⟨_, content, locate_join_of_entry proper leads folder own (by simp), own⟩
    | folder =>
      simp only [meeting?, own]
      exact ⟨locate_join_of_entry proper leads folder own (by simp), trivial, by simp⟩
    | link target =>
      simp only [meeting?, own, linkMeeting]
      cases found : t.locate (path.join name) with
      | error cause => exact ⟨⟨target, rfl⟩, rfl⟩
      | ok place' =>
        simp only
        rcases formed.isEnd_of_locate found with isFolder | ⟨content, isFile⟩
        · rw [if_pos isFolder]
          by_cases inside : place' ∈ place :: above
          · rw [if_pos (List.contains_iff_mem.2 inside)]
            exact ⟨⟨target, rfl⟩, place', inside, rfl, isFolder⟩
          · rw [if_neg fun contains => inside (List.contains_iff_mem.1 contains)]
            exact ⟨rfl, isFolder, fun _ => inside⟩
        · rw [if_neg (by simp [isFile])]
          exact isFile_iff.2 ⟨place', content, found, isFile⟩

/-- The last of the names below `root` is that of a symbolic link. -/
def EndsInLink (t : Tree) (root : Path) (names : List Name) : Prop :=
  ∃ front name, names = front ++ [name] ∧ t.HoldsLink (root.descend front) name

theorem endsInLink_nil (t : Tree) (root : Path) : ¬t.EndsInLink root [] := by
  rintro ⟨front, name, eq, -⟩
  simp at eq

theorem endsInLink_cons {t : Tree} {root : Path} {name : Name} {rest : List Name} :
    t.EndsInLink root (name :: rest) ↔ rest = [] ∧ t.HoldsLink root name ∨ t.EndsInLink (root.join name) rest := by
  constructor
  · rintro ⟨front, last, eq, link⟩
    cases front with
    | nil =>
      cases eq
      exact .inl ⟨rfl, link⟩
    | cons first front =>
      cases eq
      exact .inr ⟨front, last, rfl, link⟩
  · rintro (⟨rfl, link⟩ | ⟨front, last, rfl, link⟩)
    · exact ⟨[], name, rfl, link⟩
    · exact ⟨name :: front, last, rfl, link⟩

/-- What is true of the names below `root` that a walk shows at a visit, loops apart. -/
def Shows (t : Tree) (root : Path) (names : List Name) : Visit → Prop
  | .file path => path = root.descend names ∧ t.isFile path = true
  | .folder path => path = root.descend names ∧ t.isFolder path = true
  | .loop _ => False
  | .broken path cause => path = root.descend names ∧ t.EndsInLink root names ∧ t.locate path = .error cause

theorem shows_nil {t : Tree} {root : Path} (folder : t.isFolder root = true) {v : Visit} :
    t.Shows root [] v ↔ v = .folder root := by
  cases v with
  | file path =>
    refine iff_of_false ?_ (by simp)
    rintro ⟨rfl, file⟩
    exact absurd file (by simp [isFile_of_isFolder folder])
  | folder path =>
    refine ⟨fun ⟨eq, _⟩ => congrArg Visit.folder eq, fun eq => ?_⟩
    cases eq
    exact ⟨rfl, folder⟩
  | loop path => exact iff_of_false id (by simp)
  | broken path cause => exact iff_of_false (fun ⟨_, link, _⟩ => endsInLink_nil t root link) (by simp)

/-- Below a step that leads somewhere nothing new is shown of the names. -/
theorem shows_cons {t : Tree} {root : Path} {name : Name} {rest : List Name} {target : Location}
    (leads : t.locate (root.join name) = .ok target) {v : Visit} :
    t.Shows root (name :: rest) v ↔ t.Shows (root.join name) rest v := by
  cases v with
  | file path => exact Iff.rfl
  | folder path => exact Iff.rfl
  | loop path => exact Iff.rfl
  | broken path cause =>
    refine and_congr_right fun eq => and_congr_left fun none => ?_
    rw [endsInLink_cons]
    refine or_iff_right fun ⟨isLast, _⟩ => ?_
    subst isLast eq
    cases leads.symm.trans none

theorem shows_of_isFile {t : Tree} {root : Path} {name : Name} (file : t.isFile (root.join name) = true) {v : Visit} :
    t.Shows root [name] v ↔ v = .file (root.join name) := by
  cases v with
  | file path =>
    refine ⟨fun ⟨eq, _⟩ => congrArg Visit.file eq, fun eq => ?_⟩
    cases eq
    exact ⟨rfl, file⟩
  | folder path =>
    refine iff_of_false ?_ (by simp)
    rintro ⟨rfl, folder⟩
    exact absurd folder (by simp [Path.descend, isFolder_of_isFile file])
  | loop path => exact iff_of_false id (by simp)
  | broken path cause =>
    refine iff_of_false ?_ (by simp)
    rintro ⟨rfl, -, none⟩
    have noFile : t.isFile (root.join name) = false := isFile_of_locate_eq_error none
    exact absurd file (by simp [noFile])

/-- A step that leads nowhere shows as a broken link, or not at all. -/
theorem shows_of_locate_eq_error {t : Tree} {root : Path} {name : Name} {cause : FileError}
    (none : t.locate (root.join name) = .error cause) {v : Visit} :
    t.Shows root [name] v ↔ t.HoldsLink root name ∧ v = .broken (root.join name) cause := by
  have link_iff : t.EndsInLink root [name] ↔ t.HoldsLink root name := by
    simp [endsInLink_cons, endsInLink_nil]
  cases v with
  | file path =>
    refine iff_of_false ?_ (by simp)
    rintro ⟨rfl, file⟩
    exact absurd file (by simp [Path.descend, isFile_of_locate_eq_error none])
  | folder path =>
    refine iff_of_false ?_ (by simp)
    rintro ⟨rfl, folder⟩
    exact absurd folder (by simp [Path.descend, isFolder_of_locate_eq_error none])
  | loop path => exact iff_of_false id (by simp)
  | broken path why =>
    constructor
    · rintro ⟨rfl, link, same⟩
      cases none.symm.trans same
      exact ⟨link_iff.1 link, rfl⟩
    · rintro ⟨link, eq⟩
      cases eq
      exact ⟨rfl, link_iff.2 link, none⟩

theorem way_cons {t : Tree} {above : List Location} {place : Location} {path : Path} {name : Name}
    {rest : List Name} {v : Visit} :
    t.Way above place path (name :: rest) v ↔
      match t.meeting? above place path name with
      | none => False
      | some .file => rest = [] ∧ v = .file (path.join name)
      | some (.into target) => t.Way (place :: above) target (path.join name) rest v
      | some .loop => rest = [] ∧ v = .loop (path.join name)
      | some (.broken cause) => rest = [] ∧ v = .broken (path.join name) cause := by
  constructor
  · intro way
    cases way with
    | file met => rw [met]; exact ⟨rfl, rfl⟩
    | into met way => rw [met]; exact way
    | loop met => rw [met]; exact ⟨rfl, rfl⟩
    | broken met => rw [met]; exact ⟨rfl, rfl⟩
  · intro shown
    split at shown
    · cases shown
    · next met =>
      obtain ⟨rfl, rfl⟩ := shown
      exact .file met
    · next met => exact .into met shown
    · next met =>
      obtain ⟨rfl, rfl⟩ := shown
      exact .loop met
    · next met =>
      obtain ⟨rfl, rfl⟩ := shown
      exact .broken met

/-- A walk shows along some names what is true of them, if they are reachable, and nothing else but loops. -/
theorem WellFormed.way_iff {t : Tree} (formed : t.WellFormed) {above : List Location} {place : Location}
    {path : Path} {names : List Name} {v : Visit} (leads : t.locate path = .ok place)
    (folder : t.lookup? place = some .folder) (notLoop : v.loop? = none) :
    t.Way above place path names v ↔ t.ReachableFrom above path names ∧ t.Shows path names v := by
  have isFolder : t.isFolder path = true := isFolder_iff.2 ⟨place, leads, folder⟩
  induction names generalizing above place path with
  | nil =>
    rw [shows_nil isFolder]
    constructor
    · intro way
      cases way
      exact ⟨.nil t above path, rfl⟩
    · rintro ⟨-, rfl⟩
      exact .here
  | cons name rest ih =>
    by_cases proper : name.IsProper
    · have spec := formed.meeting_spec above proper leads folder
      rw [way_cons]
      -- what is met: nothing, a file, a folder to go into, a loop, a link that leads nowhere
      split at spec
      · obtain ⟨none, notLink⟩ := spec
        rw [reachableFrom_cons_of_not_folder leads (isFolder_of_locate_eq_error none)]
        refine iff_of_false id ?_
        rintro ⟨⟨rfl, -, -⟩, shows⟩
        exact notLink ((shows_of_locate_eq_error none).1 shows).1
      · rw [reachableFrom_cons_of_not_folder leads (isFolder_of_isFile spec)]
        constructor
        · rintro ⟨rfl, rfl⟩
          exact ⟨⟨rfl, proper, isFolder⟩, (shows_of_isFile spec).2 rfl⟩
        · rintro ⟨⟨rfl, -, -⟩, shows⟩
          exact ⟨rfl, (shows_of_isFile spec).1 shows⟩
      · next target met =>
        obtain ⟨found, goesIn, new⟩ := spec
        have inside : t.Way (place :: above) target (path.join name) rest v ↔ _ :=
          ih found goesIn (isFolder_iff.2 ⟨target, found, goesIn⟩)
        rw [inside, reachableFrom_cons leads, shows_cons found]
        have noReturn : t.HoldsLink path name → ∀ place', t.locate (path.join name) = .ok place' →
            t.lookup? place' = some .folder → place' ∉ place :: above := by
          intro link place' same _
          cases found.symm.trans same
          exact new link
        exact and_congr_left fun _ =>
          ⟨fun reach => ⟨proper, isFolder, noReturn, reach⟩, fun ⟨_, _, _, reach⟩ => reach⟩
      · obtain ⟨link, target, inside, found, goesIn⟩ := spec
        refine iff_of_false ?_ ?_
        · rintro ⟨-, rfl⟩
          cases notLoop
        · rintro ⟨reach, -⟩
          obtain ⟨-, -, noReturn, -⟩ := (reachableFrom_cons leads).1 reach
          exact noReturn link target found goesIn inside
      · obtain ⟨link, none⟩ := spec
        rw [reachableFrom_cons_of_not_folder leads (isFolder_of_locate_eq_error none)]
        constructor
        · rintro ⟨rfl, rfl⟩
          exact ⟨⟨rfl, proper, isFolder⟩, (shows_of_locate_eq_error none).2 ⟨link, rfl⟩⟩
        · rintro ⟨⟨rfl, -, -⟩, shows⟩
          exact ⟨rfl, ((shows_of_locate_eq_error none).1 shows).2⟩
    · refine iff_of_false (fun way => ?_) (fun ⟨reach, _⟩ => ?_)
      · exact proper (way.proper formed name List.mem_cons_self)
      · exact proper (reach.proper name List.mem_cons_self)

end DocLinks.Tree
