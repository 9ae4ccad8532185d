import DocLinks.Check
import DocLinks.Proofs.PathSteps
import DocLinks.Proofs.ShapeReadings

namespace DocLinks

theorem isPageChar_dot : isPageChar '.' = false := by decide

theorem isWord_slash : isWord '/' = false := by decide

namespace Path

/-- A path that begins with a slash throws the base away, which goes unnoticed only if the base is the root. -/
theorem components_eq_append_iff {base : List Component} {joined path : Path}
    (eq : joined.components = if path.isAbsolute then path.components else base ++ path.components) :
    (joined.components = base ++ path.steps.map .step ↔ path.isAbsolute = false ∨ base = [.root]) ∧
      (path.isAbsolute = true → joined.components = .root :: path.steps.map .step) := by
  rw [eq]
  cases absolute : path.isAbsolute with
  | false => simp [components, absolute]
  | true =>
    have alone : path.components = [.root] ++ path.steps.map .step := by simp [components, absolute]
    refine ⟨?_, fun _ => alone⟩
    rw [if_pos rfl, alone, List.append_cancel_right_eq]
    simp [eq_comm]

end Path

namespace Context

theorem pagePath_components_iff (ctx : Context) {page : Text} (chars : ∀ c ∈ page, isPageChar c = true) :
    ((ctx.pagePath page).components = ctx.docsRoot.components ++
          (Path.segments (Text.dropTrailing '/' page ++ ".md".toList)).map .step ↔
        Path.isAbsolute (Text.dropTrailing '/' page) = false ∨ ctx.docsRoot.components = [.root]) ∧
      (Path.isAbsolute (Text.dropTrailing '/' page) = true → (ctx.pagePath page).components =
        .root :: (Path.segments (Text.dropTrailing '/' page ++ ".md".toList)).map .step) := by
  have noDot : '.' ∉ Text.dropTrailing '/' page := by
    intro dot
    have accepted := chars '.' (Text.mem_of_mem_dropTrailing dot)
    rw [isPageChar_dot] at accepted
    cases accepted
  have absolute : Path.isAbsolute (Text.dropTrailing '/' page ++ ".md".toList) =
      Path.isAbsolute (Text.dropTrailing '/' page) := by
    cases Text.dropTrailing '/' page <;> rfl
  have plain : Path.steps (Text.dropTrailing '/' page ++ ".md".toList) =
      Path.segments (Text.dropTrailing '/' page ++ ".md".toList) :=
    Path.steps_eq_segments noDot (show '/' ∉ ['m', 'd'] by decide) (by decide)
  rw [← absolute, ← plain]
  exact Path.components_eq_append_iff (Path.components_joinLexically _ _)

theorem imagePath_components_iff (ctx : Context) {stem ending : Text} (chars : ∀ c ∈ stem, isPageChar c = true)
    (words : ∀ c ∈ ending, isWord c = true) (nonempty : ending ≠ []) :
    ((Path.join ctx.staticRoot (stem ++ '.' :: ending)).components =
          ctx.staticRoot.components ++ (Path.segments (stem ++ '.' :: ending)).map .step ↔
        Path.isAbsolute (stem ++ '.' :: ending) = false ∨ ctx.staticRoot.components = [.root]) ∧
      (Path.isAbsolute (stem ++ '.' :: ending) = true →
        (Path.join ctx.staticRoot (stem ++ '.' :: ending)).components =
          .root :: (Path.segments (stem ++ '.' :: ending)).map .step) := by
  have noDot : '.' ∉ stem := by
    intro dot
    have accepted := chars '.' dot
    rw [isPageChar_dot] at accepted
    cases accepted
  have noSlash : '/' ∉ ending := by
    intro slash
    have accepted := words '/' slash
    rw [isWord_slash] at accepted
    cases accepted
  rw [← Path.steps_eq_segments noDot noSlash nonempty]
  exact Path.components_eq_append_iff (Path.components_join _ _)

/-- Which file is looked for where a link is written from the root of the site. It lies under the docs root, or
the static root, by the names of the link, exactly when the path that the link holds does not begin with a
slash of its own: such a path is taken to be absolute, and the file is looked for from the root of the disk. -/
theorem site_absolute_components (ctx : Context) (t : Tree) (probe : Probe) (o : Occurrence) :
    (∀ page, ctx.site.classify o.link o.isImage = .absoluteDoc page none →
      ∃ tested, ctx.check t probe o = o.verdict (FileLink.absoluteLink.finding tested (t.isFile tested)) ∧
        (tested.components = ctx.docsRoot.components ++
            (Path.segments (Text.dropTrailing '/' page ++ ".md".toList)).map .step ↔
          Path.isAbsolute (Text.dropTrailing '/' page) = false ∨ ctx.docsRoot.components = [.root]) ∧
        (Path.isAbsolute (Text.dropTrailing '/' page) = true → tested.components =
          .root :: (Path.segments (Text.dropTrailing '/' page ++ ".md".toList)).map .step)) ∧
    (∀ path, ctx.site.classify o.link o.isImage = .absoluteImage path →
      ∃ tested, ctx.check t probe o = o.verdict (FileLink.absoluteImage.finding tested (t.isFile tested)) ∧
        (tested.components = ctx.staticRoot.components ++ (Path.segments path).map .step ↔
          Path.isAbsolute path = false ∨ ctx.staticRoot.components = [.root]) ∧
        (Path.isAbsolute path = true → tested.components = .root :: (Path.segments path).map .step)) := by
  have reads := ctx.site.reads_classify o.link o.isImage
  constructor
  · intro page classified
    rw [classified] at reads
    refine ⟨ctx.pagePath page, ?_, ctx.pagePath_components_iff reads.page_chars⟩
    simp only [check, aim, classified, Aim.finding]
  · intro path classified
    rw [classified] at reads
    obtain ⟨stem, ending, rfl, chars, -, words, length⟩ := reads.image_path
    have nonempty : ending ≠ [] := by
      rintro rfl
      simp at length
    refine ⟨ctx.staticRoot.join (stem ++ '.' :: ending), ?_, ctx.imagePath_components_iff chars words nonempty⟩
    simp only [check, aim, classified, Aim.finding]

/-- The settings of a site under `docs` and `static`. -/
def usual : Context where
  docsRoot := "docs".toList
  staticRoot := "static".toList
  sitePrefix := "docs".toList
  staticPrefix := "static".toList
  docrootBase := "docs".toList
  skipExternal := true

/-- A link with single slashes leads under the root. -/
theorem site_absolute_components_single_slash :
    let tree : Tree := ⟨[], []⟩
    let doc : Occurrence := ⟨"/docs/guide/".toList, "docs/a.md".toList, false⟩
    let image : Occurrence := ⟨"/img/a.png".toList, "docs/a.md".toList, true⟩
    usual.site.classify doc.link doc.isImage = .absoluteDoc "guide/".toList none ∧
      usual.site.classify image.link image.isImage = .absoluteImage "img/a.png".toList ∧
      (∃ tested, usual.check tree (fun _ => .status 200) doc =
          doc.verdict (FileLink.absoluteLink.finding tested (tree.isFile tested)) ∧
        tested.components = [.step "docs".toList, .step "guide.md".toList]) ∧
      ∃ tested, usual.check tree (fun _ => .status 200) image =
          image.verdict (FileLink.absoluteImage.finding tested (tree.isFile tested)) ∧
        tested.components = [.step "static".toList, .step "img".toList, .step "a.png".toList] := by
  intro tree doc image
  have page : usual.site.classify doc.link doc.isImage = .absoluteDoc "guide/".toList none := by decide
  have path : usual.site.classify image.link image.isImage = .absoluteImage "img/a.png".toList := by decide
  obtain ⟨testedDoc, checkedDoc, underDocs, -⟩ :=
    (site_absolute_components usual tree (fun _ => .status 200) doc).1 _ page
  obtain ⟨testedImage, checkedImage, underStatic, -⟩ :=
    (site_absolute_components usual tree (fun _ => .status 200) image).2 _ path
  exact ⟨page, path, ⟨testedDoc, checkedDoc, (underDocs.2 (.inl rfl)).trans (by decide)⟩,
    ⟨testedImage, checkedImage, (underStatic.2 (.inl rfl)).trans (by decide)⟩⟩

/-- With a doubled slash the files are looked for from the root of the disk, so the links are broken although
the page and the image are there. -/
theorem doubled_slash_leaves_roots :
    let tree : Tree := ⟨[(["docs".toList], .folder), (["guide.md".toList, "docs".toList], .file []),
      (["static".toList], .folder), (["img".toList, "static".toList], .folder),
      (["a.png".toList, "img".toList, "static".toList], .file [])], []⟩
    let doc : Occurrence := ⟨"/docs//guide".toList, "docs/a.md".toList, false⟩
    let image : Occurrence := ⟨"//img/a.png".toList, "docs/a.md".toList, true⟩
    usual.site.classify doc.link doc.isImage = .absoluteDoc "/guide".toList none ∧
      usual.aim doc = .file .absoluteLink "/guide.md".toList ∧
      Path.components "/guide.md".toList ≠ usual.docsRoot.components ++
        (Path.segments (Text.dropTrailing '/' "/guide".toList ++ ".md".toList)).map .step ∧
      tree.isFile "docs/guide.md".toList = true ∧
      (usual.check tree (fun _ => .status 200) doc).failure? =
        some ⟨doc.link, doc.file, "Linked file /guide.md not found".toList⟩ ∧
      usual.site.classify image.link image.isImage = .absoluteImage "/img/a.png".toList ∧
      usual.aim image = .file .absoluteImage "/img/a.png".toList ∧
      Path.components "/img/a.png".toList ≠
        usual.staticRoot.components ++ (Path.segments "/img/a.png".toList).map .step ∧
      tree.isFile "static/img/a.png".toList = true ∧
      (usual.check tree (fun _ => .status 200) image).failure? =
        some ⟨image.link, image.file, "Image /img/a.png not found".toList⟩ := by
  intro tree doc image
  have docAim : usual.aim doc = .file .absoluteLink "/guide.md".toList := by decide +kernel
  have imageAim : usual.aim image = .file .absoluteImage "/img/a.png".toList := by decide +kernel
  have noDoc : tree.isFile "/guide.md".toList = false := by decide +kernel
  have noImage : tree.isFile "/img/a.png".toList = false := by decide +kernel
  refine ⟨by decide, docAim, by decide, by decide +kernel, ?_, by decide, imageAim, by decide,
    by decide +kernel, ?_⟩
  · rw [check, docAim, Aim.finding, noDoc]
    rfl
  · rw [check, imageAim, Aim.finding, noImage]
    rfl

end Context

end DocLinks
