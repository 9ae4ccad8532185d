import DocLinks.Proofs.LexicalJoins
import DocLinks.Proofs.SitePrefixes

namespace DocLinks

/-- The same verdict about a link that is written otherwise. -/
def Verdict.relinked (v : Verdict) (link : Text) : Verdict where
  failure? := v.failure?.map fun failure => { failure with link }
  diagnostics := v.diagnostics.map fun diagnostic => { diagnostic with link }
  probed := v.probed

theorem Verdict.failure?_relinked (v : Verdict) (link : Text) :
    (v.relinked link).failure? = v.failure?.map fun failure => { failure with link } := rfl

theorem Occurrence.relinked_verdict (o : Occurrence) (found : Finding) (link : Text) :
    (o.verdict found).relinked link = { o with link }.verdict found := by
  simp only [verdict, Verdict.relinked, Option.map_map, List.map_map, Verdict.mk.injEq, and_true]
  exact ⟨rfl, rfl⟩

/-- Whether a link of this shape names a document, which a place can be named in. -/
def LinkShape.isDocument : LinkShape → Bool
  | .absoluteDoc _ _ | .relativeDoc _ | .docroot _ => true
  | _ => false

namespace Site

/-- What a link to a document is before the place in it. -/
def document? (site : Site) : LinkShape → Option Text
  | .absoluteDoc page version => some ('/' :: site.segment ++ (version.elim [] fun v => '/' :: v) ++ '/' :: page)
  | .relativeDoc path => some path
  | .docroot path => some path
  | _ => none

/-- What the parts of a shape have to be for links to have it. -/
def Allows : LinkShape → Prop
  | .absoluteDoc page version =>
    page ≠ [] ∧ (∀ c ∈ page, isPageChar c = true) ∧ ∀ v ∈ version, IsVersion v
  | .relativeDoc path => IsDocumentPath path ∧ path.head? = some '.'
  | .docroot path => IsDocumentPath path ∧ ∃ c, isWord c = true ∧ path.head? = some c
  | _ => False

theorem exists_document (site : Site) {shape : LinkShape} (isDocument : shape.isDocument = true) :
    ∃ document, site.document? shape = some document := by
  cases shape <;> cases isDocument
  all_goals exact ⟨_, rfl⟩

variable {site : Site} {shape : LinkShape} {link rest document : Text}

theorem reads_document_iff (isDocument : site.document? shape = some document) :
    site.Reads link shape ↔ Allows shape ∧ ∃ place, IsFragment place ∧ link = document ++ place := by
  cases shape <;> cases isDocument
  case absoluteDoc page version =>
    rw [reads_absoluteDoc_iff]
    exact ⟨fun ⟨nonempty, chars, versioned, spelled⟩ => ⟨⟨nonempty, chars, versioned⟩, spelled⟩,
      fun ⟨⟨nonempty, chars, versioned⟩, spelled⟩ => ⟨nonempty, chars, versioned, spelled⟩⟩
  case relativeDoc => exact reads_relativeDoc_iff
  case docroot => exact reads_docroot_iff

theorem mark_not_mem_document (isDocument : site.document? shape = some document) (allowed : Allows shape)
    (noMark : '#' ∉ site.segment) : '#' ∉ document := by
  cases shape <;> cases isDocument
  case absoluteDoc page version =>
    obtain ⟨-, chars, versioned⟩ := allowed
    have inPage : '#' ∉ page := fun mark => absurd (chars _ mark) (by decide)
    cases version with
    | none => simp [noMark, inPage]
    | some v =>
      have inVersion := (versioned v rfl).no_mark
      simp [noMark, inPage, inVersion]
  case relativeDoc => exact allowed.1.plain
  case docroot => exact allowed.1.plain

/-- A text without a mark, and what follows it from a mark on, are the document and the place. -/
theorem exists_fragment_iff (plain : '#' ∉ link) (plainDocument : '#' ∉ document)
    (marked : ∀ c ∈ rest.head?, c = '#') :
    (∃ place, IsFragment place ∧ link ++ rest = document ++ place) ↔ IsFragment rest ∧ link = document := by
  constructor
  · rintro ⟨place, fragment, same⟩
    obtain ⟨rfl, rfl⟩ := append_inj_of_stops (beq_eq_false_of_not_mem plain) (beq_eq_false_of_not_mem plainDocument)
      (fun c first => beq_iff_eq.2 (marked c first)) (fun c first => beq_iff_eq.2 (fragment.head? c first)) same
    exact ⟨fragment, rfl⟩
  · rintro ⟨fragment, rfl⟩
    exact ⟨rest, fragment, rfl⟩

/-- A link with a place after it has just the shapes that the link has without it. -/
theorem classify_append_iff (isDocument : site.document? shape = some document) (noMark : '#' ∉ site.segment)
    (plain : '#' ∉ link) (marked : ∀ c ∈ rest.head?, c = '#') :
    site.classify (link ++ rest) false = shape ↔ IsFragment rest ∧ Allows shape ∧ link = document := by
  obtain ⟨rule, named, accepts⟩ : ∃ rule, shape.rule? = some rule ∧ rule.audience.accepts false = true := by
    cases shape <;> cases isDocument
    all_goals exact ⟨_, rfl, rfl⟩
  rw [classify_eq_iff named, and_iff_right accepts, reads_document_iff isDocument, and_left_comm]
  refine and_congr_right fun allowed => ?_
  exact exists_fragment_iff plain (mark_not_mem_document isDocument allowed noMark) marked

theorem classify_plain_iff (isDocument : site.document? shape = some document) (noMark : '#' ∉ site.segment)
    (plain : '#' ∉ link) : site.classify link false = shape ↔ Allows shape ∧ link = document := by
  have whole : site.classify (link ++ []) false = shape ↔ IsFragment [] ∧ Allows shape ∧ link = document :=
    classify_append_iff isDocument noMark plain (by simp)
  rw [List.append_nil, and_iff_right (.inl rfl)] at whole
  exact whole

end Site

namespace Context

variable {ctx : Context} {o : Occurrence} {link : Text}

/-- What a check comes to hangs on what the link is about. The link as it is written is only told. -/
theorem check_of_aim_eq (same : ctx.aim { o with link } = ctx.aim o) (t : Tree) (probe : Probe) :
    ctx.check t probe { o with link } = (ctx.check t probe o).relinked link := by
  rw [check, check, Occurrence.relinked_verdict, same]

theorem aim_of_classify_eq
    (same : ctx.site.classify link o.isImage = ctx.site.classify o.link o.isImage) :
    ctx.aim { o with link } = ctx.aim o := by
  rw [aim, aim]
  simp only [same]

/-- Slashes at the end of a page do not lead to another document. -/
theorem aim_of_trailing_slashes {page : Text} {version : Option Text} {n : Nat}
    (classified : ctx.site.classify o.link o.isImage = .absoluteDoc page version)
    (longer : ctx.site.classify link o.isImage = .absoluteDoc (page ++ List.replicate n '/') version) :
    ctx.aim { o with link } = ctx.aim o := by
  rw [aim, aim]
  simp only [classified, longer]
  cases version with
  | none => simp only [pagePath, Text.dropTrailing_append_replicate]
  | some v => rfl

/-- A place in a document, written after a link to it, changes neither what the link is read as nor what the check
comes to, and what has the shape of a link to a document with a place has it without. Slashes after a page of the
site, before the place if there is one, are read into the page and lead to the same document. -/
theorem anchors_and_slashes_keep_document (ctx : Context) (t : Tree) (probe : Probe) (file : Path) {link : Text}
    (noMark : '#' ∉ ctx.sitePrefix) (plain : '#' ∉ link) :
    let shape (link : Text) := ctx.site.classify link false
    let verdict (link : Text) := ctx.check t probe ⟨link, file, false⟩
    (∀ f, f ≠ [] → (∀ c ∈ f, isBlank c = false) → (shape link).isDocument = true →
      shape (link ++ '#' :: f) = shape link ∧
        verdict (link ++ '#' :: f) = (verdict link).relinked (link ++ '#' :: f)) ∧
    (∀ f, (shape (link ++ '#' :: f)).isDocument = true → shape link = shape (link ++ '#' :: f)) ∧
    ∀ page version, shape link = .absoluteDoc page version → ∀ n place, IsFragment place →
      let longer := link ++ List.replicate n '/' ++ place
      shape longer = .absoluteDoc (page ++ List.replicate n '/') version ∧
        verdict longer = (verdict link).relinked longer := by
  intro shape verdict
  have noMark : '#' ∉ ctx.site.segment := fun mark => noMark (Text.mem_of_mem_strip mark)
  have marked (f : Text) : ∀ c ∈ ('#' :: f).head?, c = '#' := by simp
  refine ⟨fun f nonempty noBlank isDocument => ?_, fun f isDocument => ?_,
    fun page version classified n place isPlace => ?_⟩
  · obtain ⟨document, found⟩ := ctx.site.exists_document isDocument
    obtain ⟨allowed, spelled⟩ := (Site.classify_plain_iff found noMark plain).1 rfl
    have same : shape (link ++ '#' :: f) = shape link :=
      (Site.classify_append_iff found noMark plain (marked f)).2 ⟨.inr ⟨f, nonempty, noBlank, rfl⟩, allowed, spelled⟩
    exact ⟨same, check_of_aim_eq (o := ⟨link, file, false⟩) (aim_of_classify_eq same) t probe⟩
  · obtain ⟨document, found⟩ := ctx.site.exists_document isDocument
    obtain ⟨-, allowed, spelled⟩ := (Site.classify_append_iff found noMark plain (marked f)).1 rfl
    exact (Site.classify_plain_iff found noMark plain).2 ⟨allowed, spelled⟩
  · intro longer
    obtain ⟨⟨nonempty, chars, versioned⟩, spelled⟩ := (Site.classify_plain_iff rfl noMark plain).1 classified
    have slashed : ∀ c ∈ page ++ List.replicate n '/', isPageChar c = true := by
      refine List.forall_mem_append.2 ⟨chars, fun c member => ?_⟩
      rw [List.eq_of_mem_replicate member]
      decide
    have plainLonger : '#' ∉ link ++ List.replicate n '/' := by simp [plain]
    have same : shape longer = .absoluteDoc (page ++ List.replicate n '/') version :=
      (Site.classify_append_iff rfl noMark plainLonger isPlace.head?).2
        ⟨isPlace, ⟨by simp [nonempty], slashed, versioned⟩, by simp [spelled]⟩
    exact ⟨same, check_of_aim_eq (o := ⟨link, file, false⟩) (aim_of_trailing_slashes classified same) t probe⟩

/-- A place that looks like a version, a document and another place, after a page that is missing and after a document
that is there. -/
theorem anchors_and_slashes_keep_document_missing :
    let tree : Tree := ⟨[(["docs".toList], .folder), (["b.md".toList, "docs".toList], .file [])], []⟩
    let file := "docs/a.md".toList
    let spot := "/1.2.3/x.md#y".toList
    let page := "/docs/gone".toList ++ List.replicate 2 '/' ++ '#' :: spot
    let doc := "./b.md".toList ++ '#' :: spot
    let shape (link : Text) := usual.site.classify link false
    let failure? (link : Text) := (usual.check tree (fun _ => .status 200) ⟨link, file, false⟩).failure?
    '#' ∉ usual.sitePrefix ∧ '#' ∉ "/docs/gone".toList ∧ '#' ∉ "./b.md".toList ∧
      shape page = .absoluteDoc "gone//".toList none ∧
      failure? page = some ⟨page, file, "Linked file docs/gone.md not found".toList⟩ ∧
      shape doc = .relativeDoc "./b.md".toList ∧ failure? doc = none := by
  intro tree file spot page doc shape failure?
  have noMark : '#' ∉ usual.sitePrefix := by decide
  have plainPage : '#' ∉ "/docs/gone".toList := by decide
  have plainDoc : '#' ∉ "./b.md".toList := by decide
  have noneBlank : spot.all (!isBlank ·) = true := by decide +kernel
  have noBlank : ∀ c ∈ spot, isBlank c = false := by simpa only [List.all_eq_true, Bool.not_eq_true'] using noneBlank
  have nonempty : spot ≠ [] := List.cons_ne_nil _ _
  have place : IsFragment ('#' :: spot) := .inr ⟨_, nonempty, noBlank, rfl⟩
  have pageClassified : shape "/docs/gone".toList = .absoluteDoc "gone".toList none := by decide +kernel
  have docClassified : shape "./b.md".toList = .relativeDoc "./b.md".toList := by decide +kernel
  have missing : failure? "/docs/gone".toList =
      some ⟨"/docs/gone".toList, file, "Linked file docs/gone.md not found".toList⟩ := by decide +kernel
  have there : failure? "./b.md".toList = none := by decide +kernel
  obtain ⟨-, -, slashes⟩ :=
    anchors_and_slashes_keep_document usual tree (fun _ => .status 200) file noMark plainPage
  obtain ⟨anchors, -, -⟩ := anchors_and_slashes_keep_document usual tree (fun _ => .status 200) file noMark plainDoc
  obtain ⟨pageShape, pageVerdict⟩ := slashes _ _ pageClassified 2 _ place
  have isDocument : (shape "./b.md".toList).isDocument = true := congrArg LinkShape.isDocument docClassified
  obtain ⟨docShape, docVerdict⟩ := anchors _ nonempty noBlank isDocument
  have pageFailure := (congrArg Verdict.failure? pageVerdict).trans (Verdict.failure?_relinked _ page)
  have docFailure := (congrArg Verdict.failure? docVerdict).trans (Verdict.failure?_relinked _ doc)
  refine ⟨noMark, plainPage, plainDoc, pageShape, ?_, docShape.trans docClassified, ?_⟩
  · exact pageFailure.trans (congrArg (Option.map _) missing)
  · exact docFailure.trans (congrArg (Option.map _) there)

end Context

end DocLinks
