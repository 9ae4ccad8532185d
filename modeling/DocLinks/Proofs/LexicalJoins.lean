import DocLinks.Proofs.LinkGrammar
import DocLinks.Proofs.PathComposition
import DocLinks.Proofs.SiteRoots
import DocLinks.Proofs.TreePlaces

namespace DocLinks

namespace Path

/-- Whether the last piece of a path leads somewhere. -/
def EndsInStep (p : Path) : Prop := ∃ front last, p.pieces = front ++ [last] ∧ isIdle last = false

theorem isIdle_eq_false_of_long {n : Name} (long : 2 ≤ n.length) : isIdle n = false := by
  have nonempty : n ≠ [] := List.ne_nil_of_length_pos (by omega)
  have notDot : n ≠ ['.'] := by
    intro dot
    rw [dot, List.length_singleton] at long
    omega
  simp [isIdle, nonempty, notDot]

theorem endsInStep_append (p : Path) {s : Name} (noSlash : '/' ∉ s) (long : 2 ≤ s.length) :
    EndsInStep (p ++ s) := by
  obtain ⟨front, last, -, after⟩ := pieces_append_of_not_mem p noSlash
  have longer : 2 ≤ (last ++ s).length := by
    rw [List.length_append]
    omega
  exact ⟨front, last ++ s, after, isIdle_eq_false_of_long longer⟩

theorem EndsInStep.isEmpty_eq {p : Path} (ends : p.EndsInStep) : p.isEmpty = false := by
  obtain ⟨front, last, pieces, busy⟩ := ends
  cases p with
  | nil =>
    have only : [[]] = front ++ [last] := pieces
    have isLast := congrArg List.getLast? only
    simp only [List.getLast?_singleton, List.getLast?_concat, Option.some.injEq] at isLast
    rw [← isLast] at busy
    cases busy
  | cons c p => rfl

theorem EndsInStep.join {path : Path} (ends : path.EndsInStep) (relative : path.isAbsolute = false) (base : Path) :
    (base.join path).EndsInStep := by
  obtain ⟨front, last, pieces, busy⟩ := ends
  by_cases empty : base = []
  · have alone : base.join path = path := by simp [empty, Path.join, relative]
    rw [alone]
    exact ⟨front, last, pieces, busy⟩
  rcases join_cases empty relative with eq | ⟨base', -, eq⟩
  · refine ⟨base.pieces ++ front, last, ?_, busy⟩
    rw [eq, pieces_append_slash, pieces, List.append_assoc]
  · refine ⟨base'.pieces ++ front, last, ?_, busy⟩
    rw [eq, pieces_append_slash, pieces, List.append_assoc]

theorem steps_of_pieces {p : Path} {front : List Name} {last : Name} (pieces : p.pieces = front ++ [last])
    (busy : isIdle last = false) : p.steps = front.filter (!isIdle ·) ++ [last] := by
  rw [steps, pieces, List.filter_append]
  simp [busy]

theorem endsInStep_ofSteps (absolute : Bool) {names : List Name} (areSteps : ∀ n ∈ names, IsStep n)
    (nonempty : names ≠ []) : (ofSteps absolute names).EndsInStep := by
  have split : names.dropLast ++ [names.getLast nonempty] = names := List.dropLast_concat_getLast nonempty
  have busy := (areSteps _ (List.getLast_mem nonempty)).1
  refine ⟨(if absolute then [[]] else []) ++ names.dropLast, names.getLast nonempty, ?_, busy⟩
  rw [pieces_ofSteps absolute areSteps nonempty, List.append_assoc, split]

theorem EndsInStep.joinLexically {path : Path} (ends : path.EndsInStep) (base : Path) :
    (base.joinLexically path).EndsInStep := by
  obtain ⟨front, last, pieces, busy⟩ := ends
  have steps := steps_of_pieces pieces busy
  rw [Path.joinLexically_eq]
  split
  · exact endsInStep_ofSteps true (fun n => isStep_of_mem_steps) (by simp [steps])
  · exact endsInStep_ofSteps _ (fun n => isStep_of_mem_append) (by simp [steps])

theorem exists_mem_pieces {c : Char} (notSlash : c ≠ '/') {p : Path} (inside : c ∈ p) : ∃ n ∈ p.pieces, c ∈ n := by
  induction p with
  | nil => cases inside
  | cons d p ih =>
    by_cases isSlash : d = '/'
    · subst isSlash
      obtain ⟨n, piece, inPiece⟩ := ih ((List.mem_cons.1 inside).resolve_left notSlash)
      refine ⟨n, ?_, inPiece⟩
      have split : pieces ('/' :: p) = [] :: pieces p := pieces_append_slash [] p
      rw [split]
      exact List.mem_cons_of_mem [] piece
    · obtain ⟨first, rest, eq⟩ := List.exists_cons_of_ne_nil (pieces_ne_nil p)
      rw [pieces_cons_of_ne isSlash, eq, List.modifyHead_cons]
      rcases List.mem_cons.1 inside with isFirst | later
      · exact ⟨d :: first, List.mem_cons_self, isFirst ▸ List.mem_cons_self⟩
      · obtain ⟨n, piece, inPiece⟩ := ih later
        rw [eq] at piece
        rcases List.mem_cons.1 piece with isFirst | isLater
        · exact ⟨d :: first, List.mem_cons_self, List.mem_cons_of_mem d (isFirst ▸ inPiece)⟩
        · exact ⟨n, List.mem_cons_of_mem _ isLater, inPiece⟩

theorem mem_iff_exists_mem_steps {c : Char} (notSlash : c ≠ '/') (notDot : c ≠ '.') {p : Path} :
    c ∈ p ↔ ∃ n ∈ p.steps, c ∈ n := by
  constructor
  · intro inside
    obtain ⟨n, piece, inPiece⟩ := exists_mem_pieces notSlash inside
    refine ⟨n, mem_steps.2 ⟨piece, ?_⟩, inPiece⟩
    have nonempty : n ≠ [] := List.ne_nil_of_mem inPiece
    have other : n ≠ ['.'] := by
      intro dot
      rw [dot] at inPiece
      exact notDot (List.mem_singleton.1 inPiece)
    simp [isIdle, nonempty, other]
  · intro found
    obtain ⟨n, step, inPiece⟩ := found
    exact (mem_of_mem_pieces (mem_steps.1 step).1 inPiece).1

end Path

namespace Tree

theorem follow_filter_idle (t : Tree) (links : Nat) (place : Location) (front pieces : List Name) (last : Name) :
    t.follow links place (front ++ (pieces ++ [last])) =
      t.follow links place (front ++ (pieces.filter (!Path.isIdle ·) ++ [last])) := by
  induction pieces generalizing front with
  | nil => rfl
  | cons piece pieces ih =>
    by_cases idle : Path.isIdle piece = true
    · have more : pieces ++ [last] ≠ [] := by simp
      obtain ⟨next, rest, eq⟩ := List.exists_cons_of_ne_nil more
      have skipped := t.follow_skip_idle links place front idle next rest
      rw [← eq] at skipped
      rw [List.filter_cons_of_neg (by simp [idle]), List.cons_append, skipped, ih]
    · have goesOn := ih (front ++ [piece])
      rw [List.filter_cons_of_pos (by simp [idle])]
      simpa using goesOn

theorem follow_pieces {p : Path} (ends : p.EndsInStep) (t : Tree) (links : Nat) (place : Location) :
    t.follow links place p.pieces = t.follow links place p.steps := by
  obtain ⟨front, last, pieces, busy⟩ := ends
  rw [pieces, Path.steps_of_pieces pieces busy]
  exact t.follow_filter_idle links place [] front last

/-- A path that ends in a step leads where its components lead, whatever idle pieces are written between them. -/
theorem locate_congr {p q : Path} (endsP : p.EndsInStep) (endsQ : q.EndsInStep)
    (same : p.components = q.components) (t : Tree) : t.locate p = t.locate q := by
  obtain ⟨start, steps⟩ := Path.components_inj.1 same
  have noNul : p.contains '\x00' = q.contains '\x00' := by
    rw [Bool.eq_iff_iff, List.contains_iff_mem, List.contains_iff_mem,
      Path.mem_iff_exists_mem_steps (by decide) (by decide), Path.mem_iff_exists_mem_steps (by decide) (by decide),
      steps]
  simp only [locate, endsP.isEmpty_eq, endsQ.isEmpty_eq, noNul, follow_pieces endsP, follow_pieces endsQ, start, steps]

theorem locate_joinLexically {path : Path} (ends : path.EndsInStep) (relative : path.isAbsolute = false) (t : Tree)
    (base : Path) : t.locate (base.joinLexically path) = t.locate (base.join path) := by
  refine locate_congr (ends.joinLexically base) (ends.join relative base) ?_ t
  rw [Path.components_joinLexically, Path.components_join]

theorem isFile_congr {p q : Path} {t : Tree} (same : t.locate p = t.locate q) : t.isFile p = t.isFile q := by
  rw [isFile, isFile, status, status, same]

end Tree

theorem IsDocumentPath.endsInStep {path : Text} (document : IsDocumentPath path) : Path.EndsInStep path := by
  obtain ⟨front, eq⟩ := document.ending
  rw [← eq]
  exact Path.endsInStep_append front (by decide) (by decide)

theorem IsRelativeImage.endsInStep {path : Text} (image : IsRelativeImage path) : Path.EndsInStep path := by
  obtain ⟨stem, ending, -, -, ⟨length, words⟩, rfl⟩ := image.named
  have noSlash : '/' ∉ '.' :: ending := by
    intro slash
    rcases List.mem_cons.1 slash with dot | inside
    · cases dot
    · exact absurd (words '/' inside) (by decide)
  refine Path.endsInStep_append stem noSlash ?_
  rw [List.length_cons]
  omega

namespace Context

/-- How a link names a file from a folder: the kind of the link, the folder, and the path from there on. -/
inductive NamesFrom (ctx : Context) (o : Occurrence) : FileLink → (base path : Path) → Prop
  | relativeLink {path : Path} : ctx.site.classify o.link o.isImage = .relativeDoc path →
    NamesFrom ctx o .relativeLink (Path.folder o.file) path
  | relativeImage {path : Path} : ctx.site.classify o.link o.isImage = .relativeImage path →
    NamesFrom ctx o .relativeImage (Path.folder o.file) path
  | docrootLink {path : Path} : ctx.site.classify o.link o.isImage = .docroot path →
    NamesFrom ctx o .docrootLink ctx.docrootBase path

variable {ctx : Context} {o : Occurrence} {kind : FileLink} {base path : Path}

theorem NamesFrom.aim_eq (names : ctx.NamesFrom o kind base path) :
    ctx.aim o = .file kind (base.joinLexically path) := by
  cases names with
  | relativeLink classified | relativeImage classified | docrootLink classified => simp only [aim, classified]

/-- A path that is named from a folder is relative and ends in a name. -/
theorem NamesFrom.path_spec (names : ctx.NamesFrom o kind base path) :
    path.isAbsolute = false ∧ path.EndsInStep := by
  have reads := ctx.site.reads_classify o.link o.isImage
  cases names with
  | relativeLink classified =>
    rw [classified] at reads
    obtain ⟨⟨document, dotted⟩, -⟩ := Site.reads_relativeDoc_iff.1 reads
    exact ⟨by simp [Path.isAbsolute, dotted], document.endsInStep⟩
  | relativeImage classified =>
    rw [classified] at reads
    obtain ⟨image, -⟩ := Site.reads_relativeImage_iff.1 reads
    exact ⟨by simp [Path.isAbsolute, image.dotted], image.endsInStep⟩
  | docrootLink classified =>
    rw [classified] at reads
    obtain ⟨⟨document, c, word, first⟩, -⟩ := Site.reads_docroot_iff.1 reads
    have notSlash : c ≠ '/' := ne_of_accepts word (by decide)
    exact ⟨by simp [Path.isAbsolute, first, notSlash], document.endsInStep⟩

end Context

theorem FileLink.reason?_finding (kind : FileLink) (path : Path) (isThere : Bool) :
    (kind.finding path isThere).reason? = if isThere then none else some (kind.missing path) := by
  cases isThere <;> rfl

namespace Context

theorem failure?_of_aim {ctx : Context} {o : Occurrence} {kind : FileLink} {path : Path}
    (aimed : ctx.aim o = .file kind path) (t : Tree) (probe : Probe) :
    (ctx.check t probe o).failure? = if t.isFile path then none else some ⟨o.link, o.file, kind.missing path⟩ := by
  rw [check, aimed, Aim.finding, Occurrence.verdict, FileLink.reason?_finding]
  cases t.isFile path <;> rfl

/-- The file that a link names from a folder is looked for without the idle pieces of the path, which changes its
text but not where it leads, through whatever symbolic links: what is looked for is written from the steps of the
folder and of the path, none of them lost or cancelled and nothing idle between them, and the link is good just if the
path leads to a file as it is written. -/
theorem named_file_as_written (ctx : Context) (t : Tree) (probe : Probe) (o : Occurrence) {kind : FileLink}
    {base path : Path} (names : ctx.NamesFrom o kind base path) :
    ∃ tested, ctx.check t probe o = o.verdict (kind.finding tested (t.isFile tested)) ∧
      path.isAbsolute = false ∧ tested.components = base.components ++ path.components ∧
      tested.IsNormal ∧ tested = Path.ofSteps base.isAbsolute (base.steps ++ path.steps) ∧
      t.locate tested = t.locate (base.join path) ∧ t.isFile tested = t.isFile (base.join path) ∧
      ((ctx.check t probe o).failure? = none ↔ t.isFile (base.join path) = true) := by
  obtain ⟨relative, ends⟩ := names.path_spec
  have located := Tree.locate_joinLexically ends relative t base
  have isFile := Tree.isFile_congr located
  have normal := Path.isNormal_joinLexically base path
  refine ⟨base.joinLexically path, ?_, relative, ?_, normal, ?_, located, isFile, ?_⟩
  · rw [check, names.aim_eq, Aim.finding]
  · rw [Path.components_joinLexically, relative, if_neg Bool.false_ne_true]
  · rw [Path.joinLexically_eq, relative, if_neg Bool.false_ne_true]
  · rw [failure?_of_aim names.aim_eq, isFile]
    cases t.isFile (base.join path) <;> simp

/-- A step back behind a symbolic link leads to the folder above its target, where the page is, and not to the
folder that holds the link. -/
theorem named_file_as_written_behind_link :
    let tree : Tree := ⟨[(["docs".toList], .folder), (["link".toList, "docs".toList], .link "../more/deep".toList),
      (["more".toList], .folder), (["deep".toList, "more".toList], .folder),
      (["x.md".toList, "more".toList], .file [])], []⟩
    let o : Occurrence := ⟨"./link/.././/x.md#top".toList, "./docs/./a.md".toList, false⟩
    let path : Path := "./link/.././/x.md".toList
    let tested : Path := "docs/link/../x.md".toList
    usual.NamesFrom o .relativeLink "./docs".toList path ∧
      usual.check tree (fun _ => .status 200) o =
        o.verdict (FileLink.relativeLink.finding tested (tree.isFile tested)) ∧
      tested.components = [.step "docs".toList, .step "link".toList, .step "..".toList, .step "x.md".toList] ∧
      tested.IsNormal ∧ tree.isFile tested = true ∧
      (usual.check tree (fun _ => .status 200) o).failure? = none ∧ tree.isFile "docs/x.md".toList = false := by
  intro tree o path tested
  have classified : usual.site.classify o.link o.isImage = .relativeDoc path := by decide +kernel
  have folder : Path.folder o.file = "./docs".toList := by decide +kernel
  have names : usual.NamesFrom o .relativeLink "./docs".toList path := folder ▸ .relativeLink classified
  have there : tree.isFile (Path.join "./docs".toList path) = true := by decide +kernel
  have written : Path.ofSteps (Path.isAbsolute "./docs".toList) (Path.steps "./docs".toList ++ path.steps) = tested := by
    decide +kernel
  obtain ⟨_, checked, -, components, normal, rfl, -, same, good⟩ :=
    named_file_as_written usual tree (fun _ => .status 200) o names
  rw [written] at checked components normal same
  exact ⟨names, checked, components.trans (by decide +kernel), normal, same.trans there, good.2 there,
    by decide +kernel⟩

end Context

end DocLinks
