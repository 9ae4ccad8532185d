import DocLinks.Proofs.LexicalJoins
import DocLinks.Proofs.ShapeGrammar

namespace DocLinks

/-- A page that a link names from the root of the documents, by words between slashes and dashes. -/
structure IsPageName (page : Text) : Prop where
  word : ∃ c, isWord c = true ∧ page.head? = some c
  chars : ∀ c ∈ page, isPageChar c = true
  closed : page.getLast? ≠ some '/'

theorem isFileChar_of_isPageChar {c : Char} (pageChar : isPageChar c = true) : isFileChar c = true := by
  simp only [isPageChar, Bool.or_eq_true] at pageChar
  simp only [isFileChar, Bool.or_eq_true]
  rcases pageChar with (word | slash) | dash
  · exact .inl (.inl (.inr word))
  · exact .inl (.inr slash)
  · exact .inr dash

namespace IsPageName

variable {page : Text} (name : IsPageName page)
include name

theorem nonempty : page ≠ [] := by
  obtain ⟨c, -, first⟩ := name.word
  intro empty
  rw [empty] at first
  cases first

theorem head?_document : ∃ c, isWord c = true ∧ (page ++ ".md".toList).head? = some c := by
  obtain ⟨c, word, first⟩ := name.word
  exact ⟨c, word, by rw [List.head?_append, first, Option.some_or]⟩

theorem document_relative : Path.isAbsolute (page ++ ".md".toList) = false := by
  obtain ⟨c, word, first⟩ := name.head?_document
  have notSlash : c ≠ '/' := ne_of_accepts word (by decide)
  simp only [Path.isAbsolute, first]
  simpa using notSlash

theorem document_chars : ∀ c ∈ page ++ ".md".toList, isFileChar c = true := by
  have ending : ∀ c ∈ ".md".toList, isFileChar c = true := List.all_eq_true.1 (by decide)
  exact List.forall_mem_append.2 ⟨fun c member => isFileChar_of_isPageChar (name.chars c member), ending⟩

theorem classify_page (site : Site) :
    site.classify ('/' :: site.segment ++ '/' :: page) false = .absoluteDoc page none := by
  have named : (LinkShape.absoluteDoc page none).rule? = some .absoluteDoc := rfl
  have pageLink : IsPageLink site.segment ('/' :: site.segment ++ '/' :: page) page none :=
    ⟨name.nonempty, name.chars, by simp, [], .inl rfl, by simp⟩
  exact (Site.classify_eq_iff named).2 ⟨rfl, Site.reads_absoluteDoc_iff.2 pageLink⟩

theorem classify_beside (site : Site) : site.classify ('.' :: '/' :: (page ++ ".md".toList)) false =
    .relativeDoc ('.' :: '/' :: (page ++ ".md".toList)) := by
  let path := '.' :: '/' :: (page ++ ".md".toList)
  have named : (LinkShape.relativeDoc path).rule? = some .relativeDoc := rfl
  have chars : ∀ c ∈ path, isFileChar c = true :=
    List.forall_mem_cons.2 ⟨by decide, List.forall_mem_cons.2 ⟨by decide, name.document_chars⟩⟩
  have long : 5 ≤ path.length := by simp [path]
  have document : IsDocumentPath path := ⟨chars, long, '.' :: '/' :: page, rfl⟩
  exact (Site.classify_eq_iff named).2
    ⟨rfl, Site.reads_relativeDoc_iff.2 ⟨⟨document, rfl⟩, [], .inl rfl, (List.append_nil _).symm⟩⟩

theorem classify_document (long : 2 ≤ page.length) (site : Site) :
    site.classify (page ++ ".md".toList) false = .docroot (page ++ ".md".toList) := by
  have named : (LinkShape.docroot (page ++ ".md".toList)).rule? = some .docroot := rfl
  have three : ".md".toList.length = 3 := rfl
  have document : IsDocumentPath (page ++ ".md".toList) :=
    ⟨name.document_chars, by rw [List.length_append, three]; omega, page, rfl⟩
  exact (Site.classify_eq_iff named).2
    ⟨rfl, Site.reads_docroot_iff.2 ⟨⟨document, name.head?_document⟩, [], .inl rfl, (List.append_nil _).symm⟩⟩

end IsPageName

/-- A link that begins like a word and has the characters of a path can only name a document from the root. -/
theorem Site.classify_word_initial (site : Site) {link : Text} (chars : ∀ c ∈ link, isFileChar c = true)
    (initial : ∃ c, isWord c = true ∧ link.head? = some c) :
    (∃ path, site.classify link false = .docroot path) ∨ site.classify link false = .invalid false := by
  obtain ⟨c, word, first⟩ := initial
  have other {d : Char} (noWord : isWord d = false) : link.head? ≠ some d := by
    intro same
    exact ne_of_accepts word noWord (Option.some.inj (first.symm.trans same))
  cases shape : site.classify link false with
  | docroot path => exact .inl ⟨path, rfl⟩
  | invalid flag => exact .inr (by rw [flag_of_invalid shape])
  | absoluteImage path => cases ((classify_eq_iff rfl).1 shape).1
  | relativeImage path => cases ((classify_eq_iff rfl).1 shape).1
  | anchor =>
    obtain ⟨-, reads⟩ := (classify_eq_iff rfl).1 shape
    rcases reads with empty | marked
    · rw [empty] at first
      cases first
    · exact absurd marked (other (by decide))
  | external url =>
    obtain ⟨-, reads⟩ := (classify_eq_iff rfl).1 shape
    obtain ⟨-, isUrl⟩ := reads_external_iff.1 reads
    have colon : ':' ∈ link := by
      rcases isUrl with plain | secure
      · exact plain.subset (by decide)
      · exact secure.subset (by decide)
    exact absurd (chars ':' colon) (by decide)
  | absoluteDoc page version =>
    obtain ⟨-, reads⟩ := (classify_eq_iff rfl).1 shape
    obtain ⟨-, -, -, place, -, spelled⟩ := reads_absoluteDoc_iff.1 reads
    have slash : link.head? = some '/' := by rw [spelled]; rfl
    exact absurd slash (other (by decide))
  | relativeDoc path =>
    obtain ⟨-, reads⟩ := (classify_eq_iff rfl).1 shape
    obtain ⟨⟨-, dotted⟩, place, -, spelled⟩ := reads_relativeDoc_iff.1 reads
    have dot : link.head? = some '.' := by rw [spelled, List.head?_append, dotted, Option.some_or]
    exact absurd dot (other (by decide))
  | rawAbsoluteFile =>
    obtain ⟨-, reads⟩ := (classify_eq_iff rfl).1 shape
    obtain ⟨-, stem, ending, place, -, -, -, -, spelled⟩ := reads_rawAbsoluteFile_iff.1 reads
    have slash : link.head? = some '/' := by rw [spelled]; rfl
    exact absurd slash (other (by decide))

/-- A document of four characters is too short for a link to name it from the root. -/
theorem IsPageName.classify_document_of_short {page : Text} (name : IsPageName page) (short : page.length < 2)
    (site : Site) : site.classify (page ++ ".md".toList) false = .invalid false := by
  rcases site.classify_word_initial name.document_chars name.head?_document with ⟨path, classified⟩ | invalid
  · obtain ⟨-, reads⟩ := (Site.classify_eq_iff rfl).1 classified
    obtain ⟨⟨document, -⟩, place, -, spelled⟩ := Site.reads_docroot_iff.1 reads
    have three : ".md".toList.length = 3 := rfl
    have lengths := congrArg List.length spelled
    have long := document.long
    simp only [List.length_append, three] at lengths
    omega
  · exact invalid

theorem Path.joinLexically_congr {base base' path path' : Path} (bases : base.components = base'.components)
    (paths : path.components = path'.components) : base.joinLexically path = base'.joinLexically path' := by
  obtain ⟨baseStart, baseSteps⟩ := components_inj.1 bases
  obtain ⟨start, steps⟩ := components_inj.1 paths
  rw [joinLexically_eq, joinLexically_eq, baseStart, baseSteps, start, steps]

namespace Context

variable {ctx : Context} {file : Path} {page : Text}

theorem aim_page (ctx : Context) (file : Path) (name : IsPageName page) :
    ctx.aim ⟨'/' :: ctx.site.segment ++ '/' :: page, file, false⟩ =
      .file .absoluteLink (ctx.docsRoot.joinLexically (page ++ ".md".toList)) := by
  rw [aim, name.classify_page ctx.site]
  simp only [pagePath, Text.dropTrailing_eq_self name.closed]

theorem aim_beside (beside : (Path.folder file).components = ctx.docsRoot.components) (name : IsPageName page) :
    ctx.aim ⟨'.' :: '/' :: (page ++ ".md".toList), file, false⟩ =
      .file .relativeLink (ctx.docsRoot.joinLexically (page ++ ".md".toList)) := by
  have steps : Path.steps ('.' :: '/' :: (page ++ ".md".toList)) = Path.steps (page ++ ".md".toList) :=
    Path.steps_append_slash ['.'] _
  have same : Path.components ('.' :: '/' :: (page ++ ".md".toList)) = Path.components (page ++ ".md".toList) :=
    Path.components_inj.2 ⟨name.document_relative.symm, steps⟩
  rw [aim, name.classify_beside ctx.site]
  simp only [Path.joinLexically_congr beside same]

theorem aim_document (sameRoot : ctx.docrootBase = ctx.docsRoot) (file : Path) (name : IsPageName page)
    (long : 2 ≤ page.length) : ctx.aim ⟨page ++ ".md".toList, file, false⟩ =
      .file .docrootLink (ctx.docsRoot.joinLexically (page ++ ".md".toList)) := by
  rw [aim, name.classify_document long ctx.site]
  simp only [sameRoot]

theorem failure?_of_invalid {o : Occurrence} (invalid : ctx.site.classify o.link o.isImage = .invalid false)
    (t : Tree) (probe : Probe) :
    (ctx.check t probe o).failure? = some ⟨o.link, o.file, "Invalid link format".toList⟩ := by
  simp only [check, aim, invalid, Aim.finding, Finding.bad, Occurrence.verdict, malformedReason,
    Bool.false_eq_true, if_false, Option.map_some]

/-- A page right below the root of the documents can be linked from a file that lies there too by the site's
address, by its document in the same folder, or by its document from the root. The first two ways always come to
the same: the link is good just if the document is there. The third agrees with them just if the name of the page
has two characters at least; a document with a name of one character is never found from the root. -/
theorem page_spellings_agree_iff (ctx : Context) (t : Tree) (probe : Probe) (file : Path) {page : Text}
    (sameRoot : ctx.docrootBase = ctx.docsRoot)
    (beside : (Path.folder file).components = ctx.docsRoot.components) (name : IsPageName page) :
    let document := page ++ ".md".toList
    let failure? (link : Text) := (ctx.check t probe ⟨link, file, false⟩).failure?
    let told (link : Text) : Option Failure :=
      if t.isFile (ctx.docsRoot.join document) then none
      else some ⟨link, file, "Linked file ".toList ++ ctx.docsRoot.joinLexically document ++ " not found".toList⟩
    let address := '/' :: ctx.site.segment ++ '/' :: page
    let inFolder := '.' :: '/' :: document
    failure? address = told address ∧ failure? inFolder = told inFolder ∧
      (failure? document = told document ↔ 2 ≤ page.length) ∧
      (page.length < 2 → failure? document = some ⟨document, file, "Invalid link format".toList⟩) := by
  intro document failure? told address inFolder
  have ends : Path.EndsInStep document := Path.endsInStep_append page (by decide) (by decide)
  have isFile : t.isFile (ctx.docsRoot.joinLexically document) = t.isFile (ctx.docsRoot.join document) :=
    Tree.isFile_congr (Tree.locate_joinLexically ends name.document_relative t ctx.docsRoot)
  have agrees {link : Text} {kind : FileLink} (isDoc : kind.isImage = false)
      (aimed : ctx.aim ⟨link, file, false⟩ = .file kind (ctx.docsRoot.joinLexically document)) :
      failure? link = told link := by
    simp only [failure?, told, failure?_of_aim aimed, isFile, FileLink.missing, isDoc, Bool.false_eq_true, if_false]
  have refused (short : page.length < 2) :
      failure? document = some ⟨document, file, "Invalid link format".toList⟩ :=
    failure?_of_invalid (name.classify_document_of_short short ctx.site) t probe
  have agreesOnlyIfLong (same : failure? document = told document) : 2 ≤ page.length := by
    rcases Nat.lt_or_ge page.length 2 with short | long
    · rw [refused short] at same
      simp only [told] at same
      split at same
      · cases same
      · have reasons := congrArg Failure.reason (Option.some.inj same)
        have initials := congrArg List.head? reasons
        simp at initials
    · exact long
  exact ⟨agrees rfl (ctx.aim_page file name), agrees rfl (aim_beside beside name),
    ⟨agreesOnlyIfLong, fun long => agrees rfl (aim_document sameRoot file name long)⟩, refused⟩

/-- A page with slashes in its name, linked from a file that is written with idle pieces: all three ways lead to
its document, and without it all are told to lead nowhere. -/
theorem page_spellings_agree_below_folder :
    let tree : Tree := ⟨[(["docs".toList], .folder), (["b".toList, "docs".toList], .folder),
      (["c-1.md".toList, "b".toList, "docs".toList], .file [])], []⟩
    let file := "./docs/./a.md".toList
    let page := "b//c-1".toList
    let failure? (t : Tree) (link : Text) := (usual.check t (fun _ => .status 200) ⟨link, file, false⟩).failure?
    let missing (link : Text) : Failure := ⟨link, file, "Linked file docs/b/c-1.md not found".toList⟩
    usual.docrootBase = usual.docsRoot ∧ (Path.folder file).components = usual.docsRoot.components ∧
      IsPageName page ∧
      ∀ link ∈ ["/docs/b//c-1".toList, "./b//c-1.md".toList, "b//c-1.md".toList],
        failure? tree link = none ∧ failure? ⟨[], []⟩ link = some (missing link) := by
  intro tree file page failure? missing
  have beside : (Path.folder file).components = usual.docsRoot.components := by decide +kernel
  have name : IsPageName page := ⟨⟨'b', by decide, rfl⟩, List.all_eq_true.1 (by decide), by decide⟩
  have there : tree.isFile (usual.docsRoot.join (page ++ ".md".toList)) = true := by decide +kernel
  have notThere : Tree.isFile ⟨[], []⟩ (usual.docsRoot.join (page ++ ".md".toList)) = false := by decide +kernel
  obtain ⟨address, inFolder, fromRoot, -⟩ :=
    page_spellings_agree_iff usual tree (fun _ => .status 200) file rfl beside name
  obtain ⟨address', inFolder', fromRoot', -⟩ :=
    page_spellings_agree_iff usual ⟨[], []⟩ (fun _ => .status 200) file rfl beside name
  rw [there] at address inFolder fromRoot
  rw [notThere] at address' inFolder' fromRoot'
  have reason : "Linked file ".toList ++ usual.docsRoot.joinLexically (page ++ ".md".toList) ++ " not found".toList =
      "Linked file docs/b/c-1.md not found".toList := by decide +kernel
  rw [reason] at address' inFolder' fromRoot'
  simp only [List.forall_mem_cons]
  exact ⟨rfl, beside, name, ⟨address, address'⟩, ⟨inFolder, inFolder'⟩,
    ⟨fromRoot.2 (by decide), fromRoot'.2 (by decide)⟩, nofun⟩

/-- The document of the page `x` is there, and two ways of linking it lead to it. The third is no link. -/
theorem one_letter_page_not_found_from_root :
    let tree : Tree := ⟨[(["docs".toList], .folder), (["a.md".toList, "docs".toList], .file []),
      (["x.md".toList, "docs".toList], .file [])], []⟩
    let file := "docs/a.md".toList
    let failure? (link : Text) := (usual.check tree (fun _ => .status 200) ⟨link, file, false⟩).failure?
    usual.docrootBase = usual.docsRoot ∧ Path.folder file = usual.docsRoot ∧ IsPageName "x".toList ∧
      tree.isFile "docs/x.md".toList = true ∧
      failure? "/docs/x".toList = none ∧ failure? "./x.md".toList = none ∧
      failure? "x.md".toList = some ⟨"x.md".toList, file, "Invalid link format".toList⟩ := by
  intro tree file failure?
  have name : IsPageName "x".toList := ⟨⟨'x', by decide, rfl⟩, List.all_eq_true.1 (by decide), by decide⟩
  have address : usual.aim ⟨"/docs/x".toList, file, false⟩ = .file .absoluteLink "docs/x.md".toList := by
    decide +kernel
  have inFolder : usual.aim ⟨"./x.md".toList, file, false⟩ = .file .relativeLink "docs/x.md".toList := by
    decide +kernel
  have invalid : usual.site.classify "x.md".toList false = .invalid false := by decide +kernel
  have there : tree.isFile "docs/x.md".toList = true := by decide +kernel
  have good {link : Text} {kind : FileLink}
      (aimed : usual.aim ⟨link, file, false⟩ = .file kind "docs/x.md".toList) : failure? link = none :=
    (failure?_of_aim aimed tree _).trans (if_pos there)
  exact ⟨rfl, by decide +kernel, name, there, good address, good inFolder, failure?_of_invalid invalid tree _⟩

end Context

end DocLinks
