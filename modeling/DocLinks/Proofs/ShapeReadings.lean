import DocLinks.Classify
import DocLinks.Proofs.PatternMatches

namespace DocLinks

namespace Site

/-- A link that is not invalid has its shape from a rule of the table. -/
theorem exists_rule_of_classify {site : Site} {link : Text} {isImage : Bool} {shape : LinkShape}
    (classified : site.classify link isImage = shape) (valid : shape ≠ .invalid isImage) :
    ∃ rule ∈ Rule.table, rule.audience.accepts isImage = true ∧ rule.shape? site link = some shape := by
  unfold classify at classified
  split at classified
  · next name found matched =>
    obtain ⟨rule, member, read⟩ := List.exists_of_findSome?_eq_some matched
    obtain ⟨shape', shaped, eq⟩ := Option.map_eq_some_iff.1 read
    cases eq
    obtain ⟨inTable, accepts⟩ := List.mem_filter.1 member
    exact ⟨rule, inTable, accepts, classified ▸ shaped⟩
  · exact absurd classified.symm valid

/-- What a link has to be for some rule to read it as a shape. -/
def Reads (site : Site) (link : Text) : LinkShape → Prop
  | .anchor => link = [] ∨ link.head? = some '#'
  | .external url => url = link ∧ (Pattern.external.matchAt? link).isSome
  | .absoluteDoc page version =>
    ∃ m, (Pattern.absoluteDoc site.segment).matchAt? link = some m ∧ m.parts.text? .path = some page ∧
      m.parts.text? .version = version
  | .absoluteImage path => Rule.path? .absoluteImage link = some path
  | .relativeDoc path => Rule.path? .relativeDoc link = some path
  | .relativeImage path => Rule.path? .relativeImage link = some path
  | .docroot path => Rule.path? .docroot link = some path
  | .rawAbsoluteFile =>
    ¬ ('/' :: site.segment ++ ['/']) <+: link ∧ (Pattern.rawAbsoluteFile.matchAt? link).isSome
  | .invalid _ => True

theorem reads_of_rule {site : Site} {link : Text} {shape : LinkShape} {rule : Rule} (member : rule ∈ Rule.table)
    (shaped : rule.shape? site link = some shape) : site.Reads link shape := by
  simp only [Rule.table, List.mem_cons, List.not_mem_nil, or_false] at member
  rcases member with rfl | rfl | rfl | rfl | rfl | rfl | rfl | rfl
  · simp only [Rule.anchor] at shaped
    split at shaped
    · next anchored =>
      cases shaped
      simpa [Reads] using anchored
    · cases shaped
  · obtain ⟨m, matched, rfl⟩ := Option.map_eq_some_iff.1 shaped
    exact ⟨rfl, by rw [matched]; rfl⟩
  · obtain ⟨path, read, rfl⟩ := Option.map_eq_some_iff.1 shaped
    exact read
  · obtain ⟨path, read, rfl⟩ := Option.map_eq_some_iff.1 shaped
    exact read
  · obtain ⟨path, read, rfl⟩ := Option.map_eq_some_iff.1 shaped
    exact read
  · obtain ⟨m, matched, rest⟩ := Option.bind_eq_some_iff.1 shaped
    obtain ⟨page, paged, eq⟩ := Option.bind_eq_some_iff.1 rest
    cases eq
    exact ⟨m, matched, paged, rfl⟩
  · simp only [Rule.rawAbsoluteFile] at shaped
    split at shaped
    · cases shaped
    · next outside =>
      obtain ⟨m, matched, rfl⟩ := Option.map_eq_some_iff.1 shaped
      exact ⟨by simpa using outside, by rw [matched]; rfl⟩
  · obtain ⟨path, read, rfl⟩ := Option.map_eq_some_iff.1 shaped
    exact read

theorem reads_classify (site : Site) (link : Text) (isImage : Bool) :
    site.Reads link (site.classify link isImage) := by
  by_cases invalid : site.classify link isImage = .invalid isImage
  · rw [invalid]
    trivial
  · obtain ⟨rule, member, -, shaped⟩ := exists_rule_of_classify rfl invalid
    exact reads_of_rule member shaped

end Site

/-- A character of a page's path. -/
def isPageChar (c : Char) : Bool := isWord c || c == '/' || c == '-'

namespace Pattern

variable {parts parts' : Parts ShapePart} {s s' : Text}

theorem matches_fragment : fragment.Matches parts s parts' s' ↔
    parts' = parts ∧ (s = s' ∨ ∃ f, f ≠ [] ∧ (∀ c ∈ f, isBlank c = false) ∧ s = '#' :: f ++ s') := by
  constructor
  · rintro (⟨_, _, mark, _, _, place, rfl, rfl⟩ | ⟨rfl, rfl⟩)
    · obtain ⟨rfl, rfl⟩ := matches_literal.1 mark
      obtain ⟨rfl, f, nonempty, noBlank, rfl⟩ := matches_atLeastOne.1 place
      exact ⟨rfl, .inr ⟨f, nonempty, by simpa using noBlank, rfl⟩⟩
    · exact ⟨rfl, .inl rfl⟩
  · rintro ⟨rfl, rfl | ⟨f, nonempty, noBlank, rfl⟩⟩
    · exact .inr ⟨rfl, rfl⟩
    · exact .inl ⟨_, f ++ s', matches_literal.2 ⟨rfl, rfl⟩, _, s',
        matches_atLeastOne.2 ⟨rfl, f, nonempty, by simpa using noBlank, rfl⟩, rfl, rfl⟩

theorem matches_imageExtension : imageExtension.Matches parts s parts' s' ↔
    parts' = parts ∧ ∃ ending : Text, (ending.length = 3 ∨ ending.length = 4) ∧
      (∀ c ∈ ending, isWord c = true) ∧ s = '.' :: ending ++ s' := by
  constructor
  · rintro ⟨_, _, dot, _, _, ⟨rfl, a, wordA, rfl⟩, _, _, ⟨rfl, b, wordB, rfl⟩, _, _, ⟨rfl, c, wordC, rfl⟩,
      _, _, ⟨rfl, d, wordD, rfl⟩ | ⟨rfl, rfl⟩, rfl, rfl⟩
    · obtain ⟨rfl, rfl⟩ := matches_literal.1 dot
      exact ⟨rfl, [a, b, c, d], .inr rfl, by simp [wordA, wordB, wordC, wordD], rfl⟩
    · obtain ⟨rfl, rfl⟩ := matches_literal.1 dot
      exact ⟨rfl, [a, b, c], .inl rfl, by simp [wordA, wordB, wordC], rfl⟩
  · rintro ⟨rfl, ending, length, words, rfl⟩
    refine ⟨_, ending ++ s', matches_literal.2 ⟨rfl, rfl⟩, ?_⟩
    match ending, length with
    | [a, b, c], _ =>
      simp only [List.forall_mem_cons] at words
      exact ⟨_, _, ⟨rfl, a, words.1, rfl⟩, _, _, ⟨rfl, b, words.2.1, rfl⟩, _, _, ⟨rfl, c, words.2.2.1, rfl⟩,
        _, _, .inr ⟨rfl, rfl⟩, rfl, rfl⟩
    | [a, b, c, d], _ =>
      simp only [List.forall_mem_cons] at words
      exact ⟨_, _, ⟨rfl, a, words.1, rfl⟩, _, _, ⟨rfl, b, words.2.1, rfl⟩, _, _, ⟨rfl, c, words.2.2.1, rfl⟩,
        _, _, .inl ⟨rfl, d, words.2.2.2.1, rfl⟩, rfl, rfl⟩

end Pattern

namespace Site

theorem Reads.page_chars {site : Site} {link page : Text} {version : Option Text}
    (reads : site.Reads link (.absoluteDoc page version)) : ∀ c ∈ page, isPageChar c = true := by
  obtain ⟨m, matched, paged, -⟩ := reads
  obtain ⟨_, _, -, _, _, -, _, _, -, _, _, -, _, _, ⟨_, run, rfl⟩, _, _, place, _, _, ⟨rfl, rfl, -⟩, same, -⟩ :=
    Pattern.matches_of_matchAt? matched
  obtain ⟨rfl, t, -, chars, rfl⟩ := Pattern.matches_atLeastOne.1 run
  obtain ⟨rfl, -⟩ := Pattern.matches_fragment.1 place
  rw [same, Parts.text?_cons_self] at paged
  exact Option.some.inj paged ▸ chars

theorem Reads.image_path {site : Site} {link path : Text} (reads : site.Reads link (.absoluteImage path)) :
    ∃ stem ending, path = stem ++ '.' :: ending ∧ (∀ c ∈ stem, isPageChar c = true) ∧ stem ≠ [] ∧
      (∀ c ∈ ending, isWord c = true) ∧ (ending.length = 3 ∨ ending.length = 4) := by
  obtain ⟨m, matched, pathRead⟩ := Option.bind_eq_some_iff.1 reads
  obtain ⟨_, _, -, _, _, ⟨_, ⟨_, _, run, _, _, extension, rfl, rfl⟩, rfl⟩, _, _, ⟨rfl, rfl, -⟩, same, -⟩ :=
    Pattern.matches_of_matchAt? matched
  obtain ⟨rfl, stem, nonempty, chars, rfl⟩ := Pattern.matches_atLeastOne.1 run
  obtain ⟨rfl, ending, length, words, rfl⟩ := Pattern.matches_imageExtension.1 extension
  refine ⟨stem, ending, ?_, chars, nonempty, words, length⟩
  rw [same, ← List.append_assoc, Parts.text?_cons_self] at pathRead
  exact (Option.some.inj pathRead).symm

end Site

end DocLinks
