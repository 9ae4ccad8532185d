import DocLinks.Files
import DocLinks.Proofs.WalkReach

namespace DocLinks

theorem Path.getLast?_pieces_join (base : Path) {name : Name} (proper : name.IsProper) :
    (base.join name).pieces.getLast? = some name := by
  have alone := pieces_of_not_mem proper.noSlash
  by_cases empty : base = []
  · subst empty
    rw [join, if_neg (by simp [proper.relative])]
    exact congrArg List.getLast? alone
  · rcases join_cases empty proper.relative with eq | ⟨front, -, eq⟩
    · rw [eq, pieces_append_slash, alone, List.getLast?_concat]
    · rw [eq, pieces_append_slash, alone, List.getLast?_concat]

theorem Path.isMarkdown_descend (root : Path) {names : List Name} (proper : ∀ n ∈ names, n.IsProper)
    (nonempty : names ≠ []) :
    (root.descend names).isMarkdown = true ↔ names.getLast?.bind extension? = some "md".toList := by
  rw [← List.dropLast_concat_getLast nonempty, List.getLast?_concat, descend, List.foldl_concat, isMarkdown,
    getLast?_pieces_join _ (proper _ (List.getLast_mem nonempty)), beq_iff_eq]

namespace Tree

/-- Names below `root` that are reachable and end in a symbolic link that leads nowhere. -/
def Dangling (t : Tree) (root : Path) (names : List Name) (cause : FileError) : Prop :=
  t.Reachable root names ∧ t.EndsInLink root names ∧ t.locate (root.descend names) = .error cause

theorem walk_eq_walkFolder {t : Tree} {root : Path} (folder : t.isFolder root = true) :
    ∃ place, t.locate root = .ok place ∧ t.lookup? place = some .folder ∧
      t.walk root = t.walkFolder [] place root := by
  obtain ⟨place, leads, isFolder⟩ := isFolder_iff.1 folder
  refine ⟨place, leads, isFolder, ?_⟩
  simp only [walk, leads, isFolder]

theorem WellFormed.mem_walk_iff {t : Tree} (formed : t.WellFormed) {root : Path} (folder : t.isFolder root = true)
    {v : Visit} (notLoop : v.loop? = none) :
    v ∈ t.walk root ↔ ∃ names, t.Reachable root names ∧ t.Shows root names v := by
  obtain ⟨place, leads, isFolder, eq⟩ := walk_eq_walkFolder folder
  rw [eq, mem_walkFolder]
  exact exists_congr fun names => formed.way_iff leads isFolder notLoop

theorem WellFormed.pairwise_walk {t : Tree} (formed : t.WellFormed) {root : Path}
    (folder : t.isFolder root = true) : (t.walk root).Pairwise fun u v => u.path.Precedes v.path := by
  obtain ⟨place, leads, isFolder, eq⟩ := walk_eq_walkFolder folder
  rw [eq]
  exact formed.pairwise_walkFolder [] place root

theorem WellFormed.broken_mem_walk_iff {t : Tree} (formed : t.WellFormed) {root : Path}
    (folder : t.isFolder root = true) {path : Path} {cause : FileError} :
    .broken path cause ∈ t.walk root ↔ ∃ names, path = root.descend names ∧ t.Dangling root names cause := by
  rw [formed.mem_walk_iff folder rfl]
  refine exists_congr fun names => ?_
  constructor
  · rintro ⟨reach, rfl, link, none⟩
    exact ⟨rfl, reach, link, none⟩
  · rintro ⟨rfl, reach, link, none⟩
    exact ⟨reach, rfl, link, none⟩

theorem WellFormed.file_mem_walk_iff {t : Tree} (formed : t.WellFormed) {root : Path}
    (folder : t.isFolder root = true) {path : Path} :
    .file path ∈ t.walk root ↔
      ∃ names, path = root.descend names ∧ t.Reachable root names ∧ t.isFile path = true := by
  rw [formed.mem_walk_iff folder rfl]
  refine exists_congr fun names => ?_
  constructor
  · rintro ⟨reach, rfl, file⟩
    exact ⟨rfl, reach, file⟩
  · rintro ⟨rfl, reach, file⟩
    exact ⟨reach, rfl, file⟩

theorem markdownFiles_of_isFolder {t : Tree} {root : Path} (folder : t.isFolder root = true) :
    t.markdownFiles root =
      match (t.walk root).findSome? Visit.broken? with
      | some (path, cause) => .error (.unwalkable root path cause)
      | none => .ok ((t.walk root).filterMap Visit.markdown?) := by
  unfold markdownFiles
  exact if_neg (by simp [isFile_of_isFolder folder])

theorem markdown?_eq_some {v : Visit} {path : Path} :
    v.markdown? = some path ↔ v = .file path ∧ path.isMarkdown = true := by
  cases v with
  | file p =>
    simp only [Visit.markdown?, Option.ite_none_right_eq_some, Option.some.injEq, Visit.file.injEq]
    constructor
    · rintro ⟨markdown, rfl⟩
      exact ⟨rfl, markdown⟩
    · rintro ⟨rfl, markdown⟩
      exact ⟨markdown, rfl⟩
  | folder => exact iff_of_false nofun nofun
  | loop => exact iff_of_false nofun nofun
  | broken => exact iff_of_false nofun nofun

theorem broken?_eq_some {v : Visit} {path : Path} {cause : FileError} :
    v.broken? = some (path, cause) ↔ v = .broken path cause := by
  cases v <;> simp [Visit.broken?]

theorem WellFormed.mem_markdownFiles_iff {t : Tree} (formed : t.WellFormed) {root : Path}
    (folder : t.isFolder root = true) {files : List Path} (listed : t.markdownFiles root = .ok files) {path : Path} :
    path ∈ files ↔ ∃ names, path = root.descend names ∧ t.Reachable root names ∧ t.isFile path = true ∧
      names.getLast?.bind Path.extension? = some "md".toList := by
  rw [markdownFiles_of_isFolder folder] at listed
  split at listed
  · cases listed
  · cases listed
    have shown_iff : (∃ v ∈ t.walk root, v.markdown? = some path) ↔
        .file path ∈ t.walk root ∧ path.isMarkdown = true := by
      simp only [markdown?_eq_some]
      exact ⟨fun ⟨_, shown, eq, markdown⟩ => ⟨eq ▸ shown, markdown⟩,
        fun ⟨shown, markdown⟩ => ⟨_, shown, rfl, markdown⟩⟩
    rw [List.mem_filterMap, shown_iff, formed.file_mem_walk_iff folder, ← exists_and_right]
    refine exists_congr fun names => ?_
    have ending_iff : path = root.descend names → t.Reachable root names → t.isFile path = true →
        (path.isMarkdown = true ↔ names.getLast?.bind Path.extension? = some "md".toList) := by
      rintro rfl reach file
      refine Path.isMarkdown_descend root reach.proper ?_
      rintro rfl
      exact absurd file (by simp [Path.descend, isFile_of_isFolder folder])
    constructor
    · rintro ⟨⟨eq, reach, file⟩, markdown⟩
      exact ⟨eq, reach, file, (ending_iff eq reach file).1 markdown⟩
    · rintro ⟨eq, reach, file, ending⟩
      exact ⟨⟨eq, reach, file⟩, (ending_iff eq reach file).2 ending⟩

theorem WellFormed.pairwise_markdownFiles {t : Tree} (formed : t.WellFormed) {root : Path}
    (folder : t.isFolder root = true) {files : List Path} (listed : t.markdownFiles root = .ok files) :
    files.Pairwise Path.Precedes := by
  rw [markdownFiles_of_isFolder folder] at listed
  split at listed
  · cases listed
  · cases listed
    rw [List.pairwise_filterMap]
    refine (formed.pairwise_walk folder).imp fun before p isP q isQ => ?_
    obtain ⟨rfl, -⟩ := markdown?_eq_some.1 isP
    obtain ⟨rfl, -⟩ := markdown?_eq_some.1 isQ
    exact before

theorem Dangling.isFolder {t : Tree} {root : Path} {names : List Name} {cause : FileError}
    (dangling : t.Dangling root names cause) : t.isFolder root = true := by
  obtain ⟨reach, link, -⟩ := dangling
  refine reach.folders [] List.nil_prefix ?_
  rintro rfl
  exact endsInLink_nil t root link

theorem markdownFiles_of_isFile {t : Tree} {root : Path} (file : t.isFile root = true) :
    t.markdownFiles root = .ok [root] := by
  rw [markdownFiles, if_pos file]

theorem WellFormed.isFile_of_mem_markdownFiles {t : Tree} (formed : t.WellFormed) {root : Path}
    (there : t.isFolder root = true ∨ t.isFile root = true) {files : List Path}
    (listed : t.markdownFiles root = .ok files) {path : Path} (member : path ∈ files) : t.isFile path = true := by
  rcases there with folder | file
  · obtain ⟨names, -, -, file, -⟩ := (formed.mem_markdownFiles_iff folder listed).1 member
    exact file
  · cases (markdownFiles_of_isFile file).symm.trans listed
    exact List.mem_singleton.1 member ▸ file

theorem WellFormed.markdownFiles_eq_error_iff {t : Tree} (formed : t.WellFormed) {root : Path}
    (there : t.isFolder root = true ∨ t.isFile root = true) :
    (∃ error, t.markdownFiles root = .error error) ↔ ∃ names cause, t.Dangling root names cause := by
  rcases there with folder | file
  case inr =>
    rw [markdownFiles_of_isFile file]
    refine iff_of_false nofun ?_
    rintro ⟨names, cause, dangling⟩
    rw [isFile_of_isFolder dangling.isFolder] at file
    cases file
  rw [markdownFiles_of_isFolder folder]
  split
  · next path cause found =>
    refine iff_of_true ⟨_, rfl⟩ ?_
    obtain ⟨v, shown, broken⟩ := List.exists_of_findSome?_eq_some found
    cases broken?_eq_some.1 broken
    obtain ⟨names, -, dangling⟩ := (formed.broken_mem_walk_iff folder).1 shown
    exact ⟨names, cause, dangling⟩
  · next none =>
    refine iff_of_false nofun ?_
    rintro ⟨names, cause, dangling⟩
    have shown := (formed.broken_mem_walk_iff folder).2 ⟨names, rfl, dangling⟩
    have noBroken := List.findSome?_eq_none_iff.1 none _ shown
    cases noBroken

/-- The link that an error tells comes before all others that lead nowhere. -/
theorem WellFormed.first_of_markdownFiles {t : Tree} (formed : t.WellFormed) {root : Path}
    (folder : t.isFolder root = true) {error : ScanError} (fails : t.markdownFiles root = .error error) :
    ∃ names cause, error = .unwalkable root (root.descend names) cause ∧ t.Dangling root names cause ∧
      ∀ others why, t.Dangling root others why →
        others = names ∨ (root.descend names).Precedes (root.descend others) := by
  rw [markdownFiles_of_isFolder folder] at fails
  split at fails
  · next path cause found =>
    cases fails
    obtain ⟨front, v, back, split, broken, before⟩ := List.findSome?_eq_some_iff.1 found
    cases broken?_eq_some.1 broken
    have shown : .broken path cause ∈ t.walk root := split ▸ List.mem_append_right _ List.mem_cons_self
    obtain ⟨names, rfl, dangling⟩ := (formed.broken_mem_walk_iff folder).1 shown
    refine ⟨names, cause, rfl, dangling, fun others why other => ?_⟩
    have otherShown := (formed.broken_mem_walk_iff folder).2 ⟨others, rfl, other⟩
    have sorted := formed.pairwise_walk folder
    rw [split] at otherShown sorted
    rcases List.mem_append.1 otherShown with early | here
    · cases before _ early
    · rcases List.mem_cons.1 here with same | later
      · have samePath : root.descend others = root.descend names := congrArg Visit.path same
        exact .inl (Path.descend_injective other.1.proper dangling.1.proper samePath)
      · exact .inr ((List.pairwise_cons.1 (List.pairwise_append.1 sorted).2.1).1 _ later)
  · cases fails

/-- The files to check below a folder are the reachable markdown files, in order; there is an answer if every
reachable symbolic link leads somewhere, and else the first that does not is told. -/
theorem markdownFiles_reachable {t : Tree} (formed : t.WellFormed) {root : Path}
    (folder : t.isFolder root = true) :
    (∀ files, t.markdownFiles root = .ok files →
      (∀ path, path ∈ files ↔ ∃ names, path = root.descend names ∧ t.Reachable root names ∧
        t.isFile path = true ∧ names.getLast?.bind Path.extension? = some "md".toList) ∧
      files.Nodup ∧ files.Pairwise Path.Precedes) ∧
    ((∃ error, t.markdownFiles root = .error error) ↔ ∃ names cause, t.Dangling root names cause) ∧
    ∀ error, t.markdownFiles root = .error error →
      ∃ names cause, error = .unwalkable root (root.descend names) cause ∧ t.Dangling root names cause ∧
        ∀ others why, t.Dangling root others why →
          others = names ∨ (root.descend names).Precedes (root.descend others) := by
  refine ⟨fun files listed => ?_, formed.markdownFiles_eq_error_iff (.inl folder),
    fun error fails => formed.first_of_markdownFiles folder fails⟩
  have sorted := formed.pairwise_markdownFiles folder listed
  refine ⟨fun path => formed.mem_markdownFiles_iff folder listed, ?_, sorted⟩
  exact sorted.imp fun before => Path.ne_of_precedes before

/-- A link from a folder to itself is passed over. -/
theorem markdownFiles_reachable_looped :
    let t : Tree := ⟨[(["docs".toList], .folder), (["a.md".toList, "docs".toList], .file []),
      (["up".toList, "docs".toList], .link ".".toList)], []⟩
    t.WellFormed ∧ t.isFolder "docs".toList = true ∧
      t.markdownFiles "docs".toList = .ok ["docs/a.md".toList] ∧
      (∃ names, "docs/a.md".toList = Path.descend "docs".toList names ∧ t.Reachable "docs".toList names) ∧
      ∀ names cause, ¬t.Dangling "docs".toList names cause := by
  intro t
  have formed : t.WellFormed := by decide +kernel
  have folder : t.isFolder "docs".toList = true := by decide +kernel
  have place : t.locate "docs".toList = .ok ["docs".toList] := by decide +kernel
  have names : t.names ["docs".toList] = ["a.md".toList, "up".toList] := by
    rw [Tree.names, show List.eraseDups _ = ["a.md".toList, "up".toList] by decide +kernel]
    simp [List.mergeSort, List.MergeSort.Internal.splitInTwo, Name.le]
  have file : t.meeting? [] ["docs".toList] "docs".toList "a.md".toList = some .file := by decide +kernel
  have loop : t.meeting? [] ["docs".toList] "docs".toList "up".toList = some .loop := by decide +kernel
  have walked : t.walk "docs".toList =
      [.folder "docs".toList, .file "docs/a.md".toList, .loop "docs/up".toList] := by
    have isFolder : t.lookup? ["docs".toList] = some .folder := by decide +kernel
    simp only [walk, place, isFolder]
    rw [walkFolder_eq, names]
    simp only [List.flatMap_cons, List.flatMap_nil, file, loop, visits]
    rfl
  have listed : t.markdownFiles "docs".toList = .ok ["docs/a.md".toList] := by
    rw [markdownFiles_of_isFolder folder, walked]
    rfl
  obtain ⟨good, bad, -⟩ := markdownFiles_reachable formed folder
  obtain ⟨names, eq, reach, -⟩ := ((good _ listed).1 "docs/a.md".toList).1 List.mem_cons_self
  refine ⟨formed, folder, listed, ⟨names, eq, reach⟩, fun names cause dangling => ?_⟩
  obtain ⟨error, fails⟩ := bad.2 ⟨names, cause, dangling⟩
  cases listed.symm.trans fails

end Tree

end DocLinks
