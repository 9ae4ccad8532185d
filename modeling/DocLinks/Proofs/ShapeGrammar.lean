import DocLinks.Proofs.LinkGrammar

namespace DocLinks

/-- The rule that reads links as a shape. -/
def LinkShape.rule? : LinkShape → Option Rule
  | .anchor => some .anchor
  | .external _ => some .external
  | .relativeImage _ => some .relativeImage
  | .absoluteImage _ => some .absoluteImage
  | .relativeDoc _ => some .relativeDoc
  | .absoluteDoc _ _ => some .absoluteDoc
  | .rawAbsoluteFile => some .rawAbsoluteFile
  | .docroot _ => some .docroot
  | .invalid _ => none

namespace Site

variable {site : Site} {link : Text} {isImage : Bool} {shape shape' : LinkShape} {rule rule' : Rule}

theorem rule?_of_map {α : Type} {o : Option α} {f : α → LinkShape} (named : ∀ a, (f a).rule? = some rule)
    (shaped : o.map f = some shape) : shape.rule? = some rule := by
  obtain ⟨a, -, rfl⟩ := Option.map_eq_some_iff.1 shaped
  exact named a

theorem rule?_of_shape? (member : rule ∈ Rule.table) (shaped : rule.shape? site link = some shape) :
    shape.rule? = some rule := by
  simp only [Rule.table, List.mem_cons, List.not_mem_nil, or_false] at member
  rcases member with rfl | rfl | rfl | rfl | rfl | rfl | rfl | rfl
  · simp only [Rule.anchor, Option.ite_none_right_eq_some] at shaped
    cases shaped.2
    rfl
  · exact rule?_of_map (fun _ => rfl) shaped
  · exact rule?_of_map (fun _ => rfl) shaped
  · exact rule?_of_map (fun _ => rfl) shaped
  · exact rule?_of_map (fun _ => rfl) shaped
  · obtain ⟨m, -, rest⟩ := Option.bind_eq_some_iff.1 shaped
    obtain ⟨page, -, eq⟩ := Option.bind_eq_some_iff.1 rest
    cases eq
    rfl
  · simp only [Rule.rawAbsoluteFile, Option.ite_none_left_eq_some] at shaped
    exact rule?_of_map (fun _ => rfl) shaped.2
  · exact rule?_of_map (fun _ => rfl) shaped

/-- What can be read as a shape is read so by the rule of the shape. -/
theorem Reads.shape? (reads : site.Reads link shape) (named : shape.rule? = some rule) :
    rule ∈ Rule.table ∧ rule.shape? site link = some shape := by
  have mapped {α : Type} {o : Option α} (found : o.isSome = true) : (o.map fun _ => shape) = some shape := by
    obtain ⟨a, rfl⟩ := Option.isSome_iff_exists.1 found
    rfl
  cases shape <;> cases named
  case anchor => exact ⟨by simp [Rule.table], if_pos (by simpa [Reads] using reads)⟩
  case external url =>
    obtain ⟨rfl, found⟩ := reads
    exact ⟨by simp [Rule.table], mapped found⟩
  case absoluteDoc page version =>
    obtain ⟨m, matched, paged, rfl⟩ := reads
    exact ⟨by simp [Rule.table], by simp [Rule.absoluteDoc, matched, paged]⟩
  case rawAbsoluteFile =>
    obtain ⟨outside, found⟩ := reads
    exact ⟨by simp [Rule.table], (if_neg (by simpa using outside)).trans (mapped found)⟩
  all_goals exact ⟨by simp [Rule.table], Option.map_eq_some_iff.2 ⟨_, reads, rfl⟩⟩

/-- The rule that is left when the others are ruled out by how a link begins. -/
def onlyRule (site : Site) (link : Text) (isImage : Bool) : Rule :=
  if link.head? = none ∨ link.head? = some '#' then .anchor
  else if link.head? = some '.' then if isImage then .relativeImage else .relativeDoc
  else if link.head? = some '/' then
    if isImage then .absoluteImage
    else if '/' :: site.segment ++ ['/'] <+: link then .absoluteDoc
    else .rawAbsoluteFile
  else if "http://".toList <+: link ∨ "https://".toList <+: link then .external
  else .docroot

/-- The colon of a URL stands where the path of a document has ended. -/
theorem not_url_of_document {path place : Text} (document : IsDocumentPath path) (fragment : IsFragment place) :
    ¬"http://".toList <+: path ++ place ∧ ¬"https://".toList <+: path ++ place := by
  have plain : ∀ c ∈ path, (c == ':' || c == '#') = false := by
    intro c member
    have fileChar := document.chars c member
    rw [Bool.or_eq_false_iff, beq_eq_false_iff_ne, beq_eq_false_iff_ne]
    exact ⟨ne_of_accepts fileChar (by decide), ne_of_accepts fileChar (by decide)⟩
  have ended : ∀ c ∈ place.head?, (c == ':' || c == '#') = true := by
    intro c first
    simp [fragment.head? c first]
  have differ (scheme : Text) (schemePlain : ∀ c ∈ scheme, (c == ':' || c == '#') = false) :
      ¬scheme ++ "://".toList <+: path ++ place := by
    rintro ⟨rest, same⟩
    rw [List.append_assoc] at same
    obtain ⟨-, rfl⟩ := append_inj_of_stops schemePlain plain (by simp) ended same
    cases fragment.head? ':' rfl
  exact ⟨differ "http".toList (by simp), differ "https".toList (by simp)⟩

theorem Reads.onlyRule_eq (reads : site.Reads link shape) (named : shape.rule? = some rule)
    (accepts : rule.audience.accepts isImage = true) : site.onlyRule link isImage = rule := by
  have forDocs (docs : Audience.docs.accepts isImage = true) : isImage = false := by
    simpa [Audience.accepts] using docs
  cases shape <;> cases named
  case anchor => exact if_pos (reads.imp_left List.head?_eq_none_iff.2)
  case external url =>
    obtain ⟨rfl, isUrl⟩ := reads_external_iff.1 reads
    have first : url.head? = some 'h' := by
      rcases isUrl with ⟨rest, rfl⟩ | ⟨rest, rfl⟩
      · rfl
      · rfl
    simp only [onlyRule, first, isUrl, reduceCtorEq, Option.some.injEq, Char.reduceEq, or_self, if_false, if_true]
  case absoluteDoc page version =>
    obtain ⟨-, -, -, place, -, rfl⟩ := reads_absoluteDoc_iff.1 reads
    obtain rfl := forDocs accepts
    have inside : '/' :: site.segment ++ ['/'] <+:
        '/' :: site.segment ++ (version.elim [] fun v => '/' :: v) ++ '/' :: page ++ place := by
      cases version with
      | none => exact ⟨page ++ place, by simp⟩
      | some v => exact ⟨v ++ '/' :: page ++ place, by simp⟩
    rw [onlyRule, if_neg (by simp), if_neg (by simp), if_pos (by simp), if_neg (by simp), if_pos inside]
  case absoluteImage path =>
    obtain ⟨-, rfl⟩ := reads_absoluteImage_iff.1 reads
    obtain rfl : isImage = true := accepts
    simp [onlyRule]
  case relativeDoc path =>
    obtain ⟨⟨-, first⟩, place, -, rfl⟩ := reads_relativeDoc_iff.1 reads
    obtain rfl := forDocs accepts
    simp [onlyRule, first]
  case relativeImage path =>
    obtain ⟨image, rfl⟩ := reads_relativeImage_iff.1 reads
    obtain rfl : isImage = true := accepts
    simp [onlyRule, image.dotted]
  case docroot path =>
    obtain ⟨⟨document, c, word, first⟩, place, fragment, rfl⟩ := reads_docroot_iff.1 reads
    obtain ⟨noUrl, noSecureUrl⟩ := not_url_of_document document fragment
    have other : c ≠ '#' ∧ c ≠ '.' ∧ c ≠ '/' :=
      ⟨ne_of_accepts word (by decide), ne_of_accepts word (by decide), ne_of_accepts word (by decide)⟩
    have head : (path ++ place).head? = some c := by simp [first]
    simp only [onlyRule, head, noUrl, noSecureUrl, other, reduceCtorEq, Option.some.injEq, or_self, if_false]
  case rawAbsoluteFile =>
    obtain ⟨outside, stem, ending, place, -, -, -, -, rfl⟩ := reads_rawAbsoluteFile_iff.1 reads
    obtain rfl := forDocs accepts
    rw [onlyRule, if_neg (by simp), if_neg (by simp), if_pos (by simp), if_neg (by simp), if_neg outside]

theorem Reads.unique (reads : site.Reads link shape) (reads' : site.Reads link shape')
    (named : shape.rule? = some rule) (named' : shape'.rule? = some rule')
    (accepts : rule.audience.accepts isImage = true) (accepts' : rule'.audience.accepts isImage = true) :
    shape = shape' := by
  obtain rfl : rule = rule' := (reads.onlyRule_eq named accepts).symm.trans (reads'.onlyRule_eq named' accepts')
  exact Option.some.inj ((reads.shape? named).2.symm.trans (reads'.shape? named').2)

/-- A link that some rule reads is not invalid. -/
theorem classify_valid (member : rule ∈ Rule.table) (accepts : rule.audience.accepts isImage = true)
    (shaped : rule.shape? site link = some shape) : site.classify link isImage ≠ .invalid isImage := by
  have listed : rule ∈ Rule.table.filter (·.audience.accepts isImage) := List.mem_filter.2 ⟨member, accepts⟩
  unfold classify
  split
  · next name found matched =>
    obtain ⟨rule', member', read⟩ := List.exists_of_findSome?_eq_some matched
    obtain ⟨shape', shaped', eq⟩ := Option.map_eq_some_iff.1 read
    cases eq
    rintro rfl
    cases rule?_of_shape? (List.mem_filter.1 member').1 shaped'
  · next silent =>
    have none := List.findSome?_eq_none_iff.1 silent rule listed
    rw [shaped] at none
    cases none

/-- A link has a shape just if it can be read so, whatever other rules the table has. -/
theorem classify_eq_iff (named : shape.rule? = some rule) :
    site.classify link isImage = shape ↔ rule.audience.accepts isImage = true ∧ site.Reads link shape := by
  constructor
  · intro classified
    have valid : shape ≠ .invalid isImage := by
      rintro rfl
      cases named
    obtain ⟨rule', member, accepts, shaped⟩ := exists_rule_of_classify classified valid
    cases named.symm.trans (rule?_of_shape? member shaped)
    exact ⟨accepts, reads_of_rule member shaped⟩
  · rintro ⟨accepts, reads⟩
    obtain ⟨member, shaped⟩ := reads.shape? named
    have valid := classify_valid member accepts shaped
    obtain ⟨rule', member', accepts', shaped'⟩ := exists_rule_of_classify rfl valid
    have named' := rule?_of_shape? member' shaped'
    exact (reads.unique (reads_of_rule member' shaped') named named' accepts accepts').symm

theorem flag_of_invalid {flag : Bool} (classified : site.classify link isImage = .invalid flag) :
    flag = isImage := by
  refine Decidable.byContradiction fun other => ?_
  have valid : LinkShape.invalid flag ≠ .invalid isImage := fun same => other (LinkShape.invalid.inj same)
  obtain ⟨rule, member, -, shaped⟩ := exists_rule_of_classify classified valid
  cases rule?_of_shape? member shaped

/-- A link is a page of the site just if the grammar of pages divides it, and the grammar divides it in one way
only. -/
theorem classify_absoluteDoc_iff (sitePrefix link : Text) :
    (∀ page version, (ofPrefix sitePrefix).classify link false = .absoluteDoc page version ↔
      IsPageLink (Text.strip '/' sitePrefix) link page version) ∧
    Subsingleton {read : Text × Option Text // IsPageLink (Text.strip '/' sitePrefix) link read.1 read.2} := by
  refine ⟨fun page version => ?_, ⟨?_⟩⟩
  · have named : (LinkShape.absoluteDoc page version).rule? = some .absoluteDoc := rfl
    rw [classify_eq_iff named, reads_absoluteDoc_iff]
    exact and_iff_right rfl
  · rintro ⟨⟨page, version⟩, read⟩ ⟨⟨page', version'⟩, read'⟩
    obtain ⟨rfl, rfl⟩ := read.unique read'
    rfl

example : (ofPrefix "/docs/".toList).classify "/docs/2.10.0/a#b".toList false =
    .absoluteDoc "a".toList (some "2.10.0".toList) := by
  decide +kernel

/-- The grammars of all shapes but that of pages. What no grammar divides is invalid. -/
theorem classify_eq_iff_grammars (sitePrefix link : Text) (isImage : Bool) :
    (∀ path, (ofPrefix sitePrefix).classify link isImage = .relativeDoc path ↔
      isImage = false ∧ (IsDocumentPath path ∧ path.head? = some '.') ∧
        ∃ place, IsFragment place ∧ link = path ++ place) ∧
    (∀ path, (ofPrefix sitePrefix).classify link isImage = .docroot path ↔
      isImage = false ∧ (IsDocumentPath path ∧ ∃ c, isWord c = true ∧ path.head? = some c) ∧
        ∃ place, IsFragment place ∧ link = path ++ place) ∧
    ((ofPrefix sitePrefix).classify link isImage = .rawAbsoluteFile ↔
      isImage = false ∧ ¬('/' :: Text.strip '/' sitePrefix ++ ['/']) <+: link ∧ IsRawFile link) ∧
    (∀ path, (ofPrefix sitePrefix).classify link isImage = .relativeImage path ↔
      isImage = true ∧ IsRelativeImage path ∧ link = path) ∧
    (∀ path, (ofPrefix sitePrefix).classify link isImage = .absoluteImage path ↔
      isImage = true ∧ IsAbsoluteImage path ∧ link = '/' :: path) ∧
    ((ofPrefix sitePrefix).classify link isImage = .anchor ↔ link = [] ∨ link.head? = some '#') ∧
    (∀ url, (ofPrefix sitePrefix).classify link isImage = .external url ↔
      url = link ∧ ("http://".toList <+: link ∨ "https://".toList <+: link)) ∧
    ∀ flag, (ofPrefix sitePrefix).classify link isImage = .invalid flag → flag = isImage := by
  have forDocs : Audience.docs.accepts isImage = true ↔ isImage = false := by simp [Audience.accepts]
  refine ⟨fun path => ?_, fun path => ?_, ?_, fun path => ?_, fun path => ?_, ?_, fun url => ?_, fun flag => ?_⟩
  · exact (classify_eq_iff rfl).trans (and_congr forDocs reads_relativeDoc_iff)
  · exact (classify_eq_iff rfl).trans (and_congr forDocs reads_docroot_iff)
  · exact (classify_eq_iff rfl).trans (and_congr forDocs reads_rawAbsoluteFile_iff)
  · exact (classify_eq_iff rfl).trans (and_congr Iff.rfl reads_relativeImage_iff)
  · exact (classify_eq_iff rfl).trans (and_congr Iff.rfl reads_absoluteImage_iff)
  · exact (classify_eq_iff rfl).trans (and_iff_right rfl)
  · exact (classify_eq_iff rfl).trans ((and_iff_right rfl).trans reads_external_iff)
  · exact flag_of_invalid

end Site

end DocLinks
