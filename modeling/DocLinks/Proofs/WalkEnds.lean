import DocLinks.Proofs.MarkdownFiles
import Mathlib.Logic.Relation

namespace DocLinks

/-- What the walk shows at once of a meeting at a path. -/
def Meeting.visit (path : Path) : Meeting → Visit
  | .file => .file path
  | .into _ => .folder path
  | .loop => .loop path
  | .broken cause => .broken path cause

/-- A folder that a walk has open: the folders above it, where it is, and the names not yet looked at. -/
structure OpenFolder where
  above : List Location
  place : Location
  path : Path
  names : List Name

/-- A walk underway: the open folders, the innermost first, and what has been shown. -/
structure Walker where
  stack : List OpenFolder
  shown : List Visit

namespace Tree

/-- The folder that a meeting opens, if any. -/
def opened (t : Tree) (above : List Location) (path : Path) : Meeting → List OpenFolder
  | .into target => [⟨above, target, path, t.names target⟩]
  | _ => []

/-- A walk looks at one name at a time. It has ended when no folder is open. -/
def next? (t : Tree) : Walker → Option Walker
  | ⟨[], _⟩ => none
  | ⟨⟨_, _, _, []⟩ :: stack, shown⟩ => some ⟨stack, shown⟩
  | ⟨⟨above, place, path, name :: names⟩ :: stack, shown⟩ =>
    let waiting := ⟨above, place, path, names⟩ :: stack
    match t.meeting? above place path name with
    | none => some ⟨waiting, shown⟩
    | some meeting =>
      some ⟨t.opened (place :: above) (path.join name) meeting ++ waiting, shown ++ [meeting.visit (path.join name)]⟩

/-- Where a walk from a path begins. -/
def setOut (t : Tree) (root : Path) : Walker :=
  match t.locate root with
  | .error cause => ⟨[], [.broken root cause]⟩
  | .ok place =>
    match t.lookup? place with
    | some .folder => ⟨[⟨[], place, root, t.names place⟩], [.folder root]⟩
    | _ => ⟨[], [.file root]⟩

/-- The walk goes from one state to the next. -/
def Goes (t : Tree) (walker next : Walker) : Prop := t.next? walker = some next

/-- The folders of a tree, each once. -/
def directories (t : Tree) : List Location := (t.folders.filter (t.lookup? · = some .folder)).eraseDups

/-- How deep the folders of a tree are nested. -/
def nesting (t : Tree) : Nat := (t.directories.map List.length).foldr max 0

theorem mem_directories {t : Tree} {place : Location} :
    place ∈ t.directories ↔ t.lookup? place = some .folder := by
  rw [directories, List.mem_eraseDups, List.mem_filter, decide_eq_true_eq]
  exact and_iff_right_of_imp mem_folders

theorem length_le_nesting {t : Tree} {place : Location} (folder : t.lookup? place = some .folder) :
    place.length ≤ t.nesting :=
  le_foldr_max (List.mem_map.2 ⟨place, mem_directories.2 folder, rfl⟩)

/-- How many folders a walk is not inside of. -/
def outside (t : Tree) (inside : List Location) : Nat := t.directories.countP (!inside.contains ·)

theorem outside_cons_le (t : Tree) (inside : List Location) (place : Location) :
    t.outside (place :: inside) ≤ t.outside inside :=
  List.countP_mono_left (by simp)

theorem outside_cons_lt {t : Tree} {inside : List Location} {place : Location}
    (folder : t.lookup? place = some .folder) (new : place ∉ inside) :
    t.outside (place :: inside) < t.outside inside :=
  countP_lt_of_imp (by simp) (mem_directories.2 folder) (by simp) (by simpa using new)

/-- The walk goes one name deeper, or through a symbolic link into a folder that it is not inside of. -/
theorem meeting?_eq_into {t : Tree} {above : List Location} {place target : Location} {path : Path} {name : Name}
    (met : t.meeting? above place path name = some (.into target)) :
    t.lookup? target = some .folder ∧ (target = name :: place ∨ target ∉ place :: above) := by
  unfold meeting? at met
  split at met
  · cases met
  · cases met
  · next own =>
    cases met
    exact ⟨own, .inl rfl⟩
  · obtain ⟨folder, new⟩ := linkMeeting_eq_into (Option.some.inj met)
    exact ⟨folder, .inr new⟩

/-- Between two links a way goes one name deeper with each step, and each link takes it into one more folder. -/
theorem Way.length_le {t : Tree} {above : List Location} {place : Location} {path : Path} {names : List Name}
    {v : Visit} (way : t.Way above place path names v) (folder : t.lookup? place = some .folder) :
    names.length + place.length ≤ (t.outside (place :: above) + 1) * (t.nesting + 1) := by
  have deep := length_le_nesting folder
  induction way with
  | here => rw [Nat.succ_mul, List.length_nil]; omega
  | file | loop | broken => rw [Nat.succ_mul, List.length_singleton]; omega
  | @into above place path name target names v met way ih =>
    obtain ⟨goesIn, plain | new⟩ := meeting?_eq_into met
    · have bound := ih goesIn (length_le_nesting goesIn)
      have fewer := Nat.add_le_add_right (t.outside_cons_le (place :: above) target) 1
      have more := Nat.mul_le_mul_right (t.nesting + 1) fewer
      rw [plain, List.length_cons] at bound
      rw [plain] at more
      rw [List.length_cons]
      omega
    · have bound := ih goesIn (length_le_nesting goesIn)
      have fewer : t.outside (target :: place :: above) + 1 ≤ t.outside (place :: above) := outside_cons_lt goesIn new
      have more := Nat.mul_le_mul_right (t.nesting + 1) fewer
      rw [Nat.succ_mul, List.length_cons]
      omega

/-- No walk goes on for ever, wherever it is. A folder inside another one is done before the walk goes on in the
outer one. -/
theorem wellFounded_goes (t : Tree) : WellFounded fun next walker => t.Goes walker next := by
  have done (above : List Location) (place : Location) (path : Path) :
      ∀ stack, (∀ shown, Acc (fun next walker => t.Goes walker next) ⟨stack, shown⟩) → ∀ names shown,
        Acc (fun next walker => t.Goes walker next) ⟨⟨above, place, path, names⟩ :: stack, shown⟩ := by
    induction above, place, path using @walk_induction t with
    | step above place path deeper =>
      intro stack outer names
      induction names with
      | nil =>
        refine fun shown => .intro _ fun next goes => ?_
        cases goes
        exact outer shown
      | cons name names later =>
        refine fun shown => .intro _ fun next goes => ?_
        simp only [Goes, next?] at goes
        split at goes
        · cases goes
          exact later shown
        · next meeting met =>
          cases goes
          cases meeting with
          | into target => exact deeper name target met _ later _ _
          | file | loop | broken => exact later _
  refine ⟨fun ⟨stack, shown⟩ => ?_⟩
  induction stack generalizing shown with
  | nil => exact .intro _ fun next goes => nomatch goes
  | cons folder stack ih => exact done _ _ _ stack ih _ shown

/-- What a walk shows of a name in a folder. -/
def visitsAt (t : Tree) (above : List Location) (place : Location) (path : Path) (name : Name) : List Visit :=
  match t.meeting? above place path name with
  | none => []
  | some meeting =>
    visits (path.join name) (fun target => t.walkFolder (place :: above) target (path.join name)) meeting

/-- A walk shows all of an open folder before it goes on in the one around it. -/
theorem reach_walkFolder (t : Tree) (above : List Location) (place : Location) (path : Path)
    (stack : List OpenFolder) (shown : List Visit) :
    Relation.ReflTransGen t.Goes ⟨⟨above, place, path, t.names place⟩ :: stack, shown ++ [.folder path]⟩
      ⟨stack, shown ++ t.walkFolder above place path⟩ := by
  induction above, place, path using @walk_induction t generalizing stack shown with
  | step above place path deeper =>
    have rest (names : List Name) (shown : List Visit) :
        Relation.ReflTransGen t.Goes ⟨⟨above, place, path, names⟩ :: stack, shown⟩
          ⟨stack, shown ++ names.flatMap (t.visitsAt above place path)⟩ := by
      induction names generalizing shown with
      | nil => exact .single (by simp [Goes, next?])
      | cons name names later =>
        rw [List.flatMap_cons, ← List.append_assoc]
        refine .trans ?_ (later _)
        cases met : t.meeting? above place path name with
        | none => exact .single (by simp [Goes, next?, visitsAt, met])
        | some meeting =>
          refine .head (by simp only [Goes, next?, met]; rfl) ?_
          simp only [visitsAt, met]
          cases meeting with
          | into target => exact deeper name target met _ shown
          | file | loop | broken => exact .refl
    have all := rest (t.names place) (shown ++ [.folder path])
    rw [List.append_assoc] at all
    rw [walkFolder_eq]
    exact all

theorem reach_walk (t : Tree) (root : Path) :
    Relation.ReflTransGen t.Goes (t.setOut root) ⟨[], t.walk root⟩ := by
  unfold setOut walk
  cases t.locate root with
  | error cause => exact .refl
  | ok place =>
    dsimp only
    cases t.lookup? place with
    | none => exact .refl
    | some entry =>
      cases entry with
      | folder => exact t.reach_walkFolder [] place root [] []
      | file | link => exact .refl

/-- On a walk from `root`, these names end in a symbolic link that is followed into the folder `target`. -/
def FollowsInto (t : Tree) (root : Path) (names : List Name) (target : Location) : Prop :=
  t.EndsInLink root names ∧ .folder (root.descend names) ∈ t.walk root ∧ t.locate (root.descend names) = .ok target

/-- A walk that shows a folder is a walk of one. -/
theorem isFolder_of_folder_mem_walk {t : Tree} {root path : Path} (shown : .folder path ∈ t.walk root) :
    t.isFolder root = true := by
  unfold walk at shown
  split at shown
  · cases List.mem_singleton.1 shown
  · next place leads =>
    split at shown
    · next folder => exact isFolder_iff.2 ⟨place, leads, folder⟩
    · cases List.mem_singleton.1 shown

/-- A symbolic link is followed into no folder that lies on the way to it. -/
theorem WellFormed.not_back_of_followsInto {t : Tree} (formed : t.WellFormed) {root : Path} {names : List Name}
    {target : Location} (follows : t.FollowsInto root names target) (proper : ∀ n ∈ names, n.IsProper)
    {shorter : List Name} (isShorter : shorter <+: names) (ne : shorter ≠ names) :
    t.locate (root.descend shorter) ≠ .ok target := by
  obtain ⟨⟨front, name, rfl, link⟩, goesIn, found⟩ := follows
  obtain ⟨names, reach, same, isFolder⟩ := (formed.mem_walk_iff (isFolder_of_folder_mem_walk goesIn) rfl).1 goesIn
  obtain rfl := Path.descend_injective proper reach.proper same
  obtain ⟨place, leads, folder⟩ := isFolder_iff.1 isFolder
  cases found.symm.trans leads
  obtain ⟨-, notBack⟩ := reach.noReturn front name (List.prefix_refl _) link _ found folder
  refine notBack shorter ?_
  rcases List.prefix_concat_iff.1 isShorter with whole | before
  · exact absurd whole ne
  · exact before

theorem WellFormed.walk_names {t : Tree} (formed : t.WellFormed) {root : Path} {v : Visit} (shown : v ∈ t.walk root) :
    ∃ names, v.path = root.descend names ∧ (∀ n ∈ names, n.IsProper) ∧
      names.length ≤ t.directories.length * (t.nesting + 1) := by
  unfold walk at shown
  split at shown
  · cases List.mem_singleton.1 shown
    exact ⟨[], rfl, List.forall_mem_nil _, Nat.zero_le _⟩
  · next place leads =>
    split at shown
    · next folder =>
      obtain ⟨names, way⟩ := mem_walkFolder.1 shown
      have bound := way.length_le folder
      have isOut : t.outside [] = t.directories.length := List.countP_eq_length.2 (by simp)
      have fewer : t.outside [place] + 1 ≤ t.outside [] := outside_cons_lt folder (by simp)
      have more := Nat.mul_le_mul_right (t.nesting + 1) fewer
      rw [isOut] at more
      exact ⟨names, way.path_eq, way.proper formed, by omega⟩
    · cases List.mem_singleton.1 shown
      exact ⟨[], rfl, List.forall_mem_nil _, Nat.zero_le _⟩

/-- A walk ends, whatever symbolic links there are, and has then shown all that it meets. On the way to anything it
shows, each link that is followed into a folder leads to one that lies nowhere on the way so far; so no two of
them lead to the same folder, and the way is no longer than the number of folders and their nesting allow. -/
theorem walk_ends {t : Tree} (formed : t.WellFormed) (root : Path) :
    (WellFounded fun next walker => t.Goes walker next) ∧
    Relation.ReflTransGen t.Goes (t.setOut root) ⟨[], t.walk root⟩ ∧
    ∀ v ∈ t.walk root, ∃ names, v.path = root.descend names ∧ v.path.steps = root.steps ++ names ∧
      names.length ≤ (t.directories.length + 1) * (t.nesting + 1) ∧
      ∀ upTo target, upTo <+: names → t.FollowsInto root upTo target →
        (∀ shorter, shorter <+: upTo → shorter ≠ upTo → t.locate (root.descend shorter) ≠ .ok target) ∧
        ∀ other target', other <+: names → other ≠ upTo → t.FollowsInto root other target' → target' ≠ target := by
  refine ⟨t.wellFounded_goes, t.reach_walk root, fun v shown => ?_⟩
  obtain ⟨names, spelled, proper, bound⟩ := formed.walk_names shown
  have notBack {upTo : List Name} {target : Location} (within : upTo <+: names)
      (follows : t.FollowsInto root upTo target) {shorter : List Name} (isShorter : shorter <+: upTo)
      (ne : shorter ≠ upTo) : t.locate (root.descend shorter) ≠ .ok target :=
    formed.not_back_of_followsInto follows (fun n member => proper n (within.subset member)) isShorter ne
  refine ⟨names, spelled, spelled ▸ Path.steps_descend root proper, ?_, ?_⟩
  · exact Nat.le_trans bound (Nat.mul_le_mul_right _ (Nat.le_succ _))
  · intro upTo target within follows
    refine ⟨fun shorter => notBack within follows, fun other target' within' ne follows' same => ?_⟩
    subst same
    -- of two prefixes of the names one is the shorter, and its folder lies on the way of the other
    rcases List.prefix_or_prefix_of_prefix within' within with isShorter | isShorter
    · exact notBack within follows isShorter ne follows'.2.2
    · exact notBack within' follows' isShorter ne.symm follows.2.2

/-- A link to the folder above leads the walk into the folder it began in once more, by its name. The link is met
there again, and not followed a second time. -/
theorem walk_ends_below_link_up :
    let t : Tree := ⟨[(["a".toList], .folder), (["b".toList, "a".toList], .folder),
      (["up".toList, "b".toList, "a".toList], .link "..".toList),
      (["x.md".toList, "b".toList, "a".toList], .file [])], []⟩
    let root : Path := "a/b".toList
    let names := ["up".toList, "b".toList, "x.md".toList]
    t.WellFormed ∧ t.directories.length = 3 ∧ t.nesting = 2 ∧
      .file "a/b/up/b/x.md".toList ∈ t.walk root ∧ .loop "a/b/up/b/up".toList ∈ t.walk root ∧
      t.locate "a/b/up/b".toList = t.locate root ∧ t.FollowsInto root ["up".toList] ["a".toList] ∧
      Relation.ReflTransGen t.Goes (t.setOut root) ⟨[], t.walk root⟩ ∧
      "a/b/up/b/x.md".toList = root.descend names ∧ names.length ≤ (3 + 1) * (2 + 1) ∧
      t.locate root ≠ .ok ["a".toList] := by
  intro t root names
  have formed : t.WellFormed := by decide +kernel
  have many : t.directories.length = 3 := by decide +kernel
  have deep : t.nesting = 2 := by decide +kernel
  have place : t.locate root = .ok ["b".toList, "a".toList] := by decide +kernel
  have isFolder : t.isFolder root = true := by decide +kernel
  have up : t.meeting? [] ["b".toList, "a".toList] root "up".toList = some (.into ["a".toList]) := by
    decide +kernel
  have again : t.meeting? [["b".toList, "a".toList]] ["a".toList] "a/b/up".toList "b".toList =
      some (.into ["b".toList, "a".toList]) := by decide +kernel
  have loop : t.meeting? [["a".toList], ["b".toList, "a".toList]] ["b".toList, "a".toList] "a/b/up/b".toList
      "up".toList = some .loop := by decide +kernel
  have file : t.meeting? [["a".toList], ["b".toList, "a".toList]] ["b".toList, "a".toList]
      "a/b/up/b".toList "x.md".toList = some .file := by decide +kernel
  have shown {v : Visit} {names : List Name} (way : t.Way [] ["b".toList, "a".toList] root names v) :
      v ∈ t.walk root := by
    obtain ⟨here, leads, -, eq⟩ := walk_eq_walkFolder isFolder
    cases place.symm.trans leads
    exact eq ▸ mem_walkFolder.2 ⟨names, way⟩
  have fileShown : .file "a/b/up/b/x.md".toList ∈ t.walk root := shown (.into up (.into again (.file file)))
  have follows : t.FollowsInto root ["up".toList] ["a".toList] :=
    ⟨⟨[], "up".toList, rfl, ["b".toList, "a".toList], "..".toList, place, by decide +kernel⟩,
      shown (.into up .here), by decide +kernel⟩
  obtain ⟨-, ended, ways⟩ := walk_ends formed root
  obtain ⟨taken, spelled, steps, bound, links⟩ := ways _ fileShown
  have split : Path.steps "a/b/up/b/x.md".toList = root.steps ++ names := by decide +kernel
  obtain rfl : names = taken := List.append_cancel_left (split.symm.trans steps)
  rw [many, deep] at bound
  have notBack := (links _ _ (List.prefix_append ["up".toList] _) follows).1 [] List.nil_prefix (by simp)
  exact ⟨formed, many, deep, fileShown, shown (.into up (.into again (.loop loop))), by decide +kernel, follows,
    ended, spelled, bound, notBack⟩

end Tree

end DocLinks
