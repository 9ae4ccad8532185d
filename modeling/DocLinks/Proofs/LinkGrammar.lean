import DocLinks.Proofs.PatternTakes
import DocLinks.Proofs.ShapeReadings

namespace DocLinks

/-- Nothing, or a mark and the name of a place in a page. -/
def IsFragment (t : Text) : Prop := t = [] ∨ ∃ f, f ≠ [] ∧ (∀ c ∈ f, isBlank c = false) ∧ t = '#' :: f

/-- A character of a path to a file. -/
def isFileChar (c : Char) : Bool := c == '.' || isWord c || c == '/' || c == '-'

/-- A path to a document, as far as the beginning of the path is left open. -/
structure IsDocumentPath (path : Text) : Prop where
  chars : ∀ c ∈ path, isFileChar c = true
  long : 5 ≤ path.length
  ending : ".md".toList <:+ path

/-- What stands after the last dot in the name of an image. -/
def IsImageExtension (t : Text) : Prop := (t.length = 3 ∨ t.length = 4) ∧ ∀ c ∈ t, isWord c = true

def IsNumber (t : Text) : Prop := (t.length = 1 ∨ t.length = 2) ∧ ∀ c ∈ t, isDigit c = true

/-- Three numbers between dots. -/
def IsVersion (t : Text) : Prop :=
  ∃ a b c, IsNumber a ∧ IsNumber b ∧ IsNumber c ∧ t = a ++ '.' :: b ++ '.' :: c

/-- The grammar of a link to a page: the segment of the site, a version if there is one, the path of the page
and a place in it. -/
structure IsPageLink (segment link page : Text) (version : Option Text) : Prop where
  nonempty : page ≠ []
  chars : ∀ c ∈ page, isPageChar c = true
  versioned : ∀ v ∈ version, IsVersion v
  spelled : ∃ place, IsFragment place ∧
    link = '/' :: segment ++ (version.elim [] fun v => '/' :: v) ++ '/' :: page ++ place

/-- A path to an image beside the document. -/
structure IsRelativeImage (path : Text) : Prop where
  chars : ∀ c ∈ path, isFileChar c = true
  dotted : path.head? = some '.'
  named : ∃ stem ending, 2 ≤ stem.length ∧ '.' ∉ ending ∧ IsImageExtension ending ∧ path = stem ++ '.' :: ending

/-- A path to an image below the static root. -/
def IsAbsoluteImage (path : Text) : Prop :=
  ∃ stem ending, stem ≠ [] ∧ (∀ c ∈ stem, isPageChar c = true) ∧ IsImageExtension ending ∧
    path = stem ++ '.' :: ending

/-- A document named from the root of the server. -/
def IsRawFile (link : Text) : Prop :=
  ∃ stem ending place, stem ≠ [] ∧ (∀ c ∈ stem, isBlank c = false) ∧
    (ending = ".md".toList ∨ ending = ".mdx".toList) ∧
    (place = [] ∨ ∃ f, f ≠ [] ∧ (∀ c ∈ f, c ≠ '\'' ∧ c ≠ '"') ∧ place = '#' :: f) ∧
    link = '/' :: stem ++ ending ++ place

theorem beq_eq_false_of_not_mem {a : Char} {t : Text} (absent : a ∉ t) : ∀ c ∈ t, (c == a) = false := by
  intro c member
  rw [beq_eq_false_iff_ne]
  rintro rfl
  exact absent member

theorem ne_of_accepts {accepts : Char → Bool} {c d : Char} (accepted : accepts c = true)
    (refused : accepts d = false) : c ≠ d := by
  rintro rfl
  cases accepted.symm.trans refused

theorem IsFragment.head? {place : Text} (fragment : IsFragment place) : ∀ c ∈ place.head?, c = '#' := by
  rcases fragment with rfl | ⟨f, -, -, rfl⟩
  · simp
  · simp

/-- A path is what stands before the first mark. -/
theorem IsFragment.path_unique {path path' place place' : Text} (fragment : IsFragment place)
    (fragment' : IsFragment place') (plain : '#' ∉ path) (plain' : '#' ∉ path')
    (same : path ++ place = path' ++ place') : path = path' :=
  (append_inj_of_stops (beq_eq_false_of_not_mem plain) (beq_eq_false_of_not_mem plain')
    (fun c first => beq_iff_eq.2 (fragment.head? c first)) (fun c first => beq_iff_eq.2 (fragment'.head? c first))
    same).1

theorem IsNumber.plain {n : Text} (number : IsNumber n) : ∀ c ∈ n, c ≠ '.' ∧ c ≠ '/' ∧ c ≠ '#' := by
  intro c member
  have digit := number.2 c member
  exact ⟨ne_of_accepts digit (by decide), ne_of_accepts digit (by decide), ne_of_accepts digit (by decide)⟩

namespace Pattern

theorem takes_fragment : fragment.Takes IsFragment := by
  intro parts s parts' s'
  rw [matches_fragment]
  refine and_congr_right fun _ => ⟨?_, ?_⟩
  · rintro (rfl | ⟨f, nonempty, noBlank, rfl⟩)
    · exact ⟨[], .inl rfl, rfl⟩
    · exact ⟨'#' :: f, .inr ⟨f, nonempty, noBlank, rfl⟩, rfl⟩
  · rintro ⟨_, rfl | ⟨f, nonempty, noBlank, rfl⟩, rfl⟩
    · exact .inl rfl
    · exact .inr ⟨f, nonempty, noBlank, rfl⟩

theorem takes_number : number.Takes IsNumber := by
  refine ((Takes.one isDigit).andThen ((Takes.one isDigit).optional.andThen .nothing)).congr fun t => ⟨?_, ?_⟩
  · rintro ⟨_, _, ⟨a, digitA, rfl⟩, ⟨_, _, ⟨b, digitB, rfl⟩ | rfl, rfl, rfl⟩, rfl⟩
    · exact ⟨.inr rfl, by simp [digitA, digitB]⟩
    · exact ⟨.inl rfl, by simp [digitA]⟩
  · rintro ⟨length, digits⟩
    match t, length with
    | [a], _ => exact ⟨_, _, ⟨a, digits a (by simp), rfl⟩, ⟨_, _, .inr rfl, rfl, rfl⟩, rfl⟩
    | [a, b], _ =>
      exact ⟨_, _, ⟨a, digits a (by simp), rfl⟩, ⟨_, _, .inl ⟨b, digits b (by simp), rfl⟩, rfl, rfl⟩, rfl⟩

theorem takes_version : version.Takes IsVersion := by
  have dot : (text ".").Takes (· = ['.']) := .literal _
  refine (takes_number.andThen (dot.andThen (takes_number.andThen (dot.andThen
    (takes_number.andThen .nothing))))).congr fun t => ⟨?_, ?_⟩
  · rintro ⟨a, _, numberA, ⟨_, _, rfl, ⟨b, _, numberB, ⟨_, _, rfl, ⟨c, _, numberC, rfl, rfl⟩, rfl⟩, rfl⟩, rfl⟩, rfl⟩
    exact ⟨a, b, c, numberA, numberB, numberC, by simp⟩
  · rintro ⟨a, b, c, numberA, numberB, numberC, rfl⟩
    exact ⟨a, _, numberA, ⟨_, _, rfl, ⟨b, _, numberB, ⟨_, _, rfl, ⟨c, _, numberC, rfl, rfl⟩, rfl⟩, rfl⟩, rfl⟩,
      by simp⟩

theorem takes_imageExtension :
    imageExtension.Takes fun t => ∃ ending, IsImageExtension ending ∧ t = '.' :: ending := by
  intro parts s parts' s'
  rw [matches_imageExtension]
  refine and_congr_right fun _ => ⟨?_, ?_⟩
  · rintro ⟨ending, length, words, rfl⟩
    exact ⟨_, ⟨ending, ⟨length, words⟩, rfl⟩, rfl⟩
  · rintro ⟨_, ⟨ending, ⟨length, words⟩, rfl⟩, rfl⟩
    exact ⟨ending, length, words, rfl⟩

/-- The second dot may as well be taken for a character of the path. -/
theorem takes_dots_andThen {p : Pattern ShapePart} {Other : Text → Prop} (takes : p.Takes Other) :
    (andThen dots (andThen (atLeastOne .greedy fileChar) p)).Takes fun t =>
      ∃ r b, r ≠ [] ∧ (∀ c ∈ r, isFileChar c = true) ∧ Other b ∧ t = '.' :: r ++ b := by
  have dot : (text ".").Takes (· = ['.']) := .literal _
  have run : (atLeastOne .greedy fileChar).Takes fun t => t ≠ [] ∧ ∀ c ∈ t, isFileChar c = true :=
    .atLeastOne .greedy isFileChar
  refine ((dot.andThen (dot.optional.andThen .nothing)).andThen (run.andThen takes)).congr fun t => ⟨?_, ?_⟩
  · rintro ⟨_, _, ⟨_, _, rfl, ⟨_, _, second, rfl, rfl⟩, rfl⟩, ⟨r, b, ⟨nonempty, chars⟩, other, rfl⟩, rfl⟩
    rcases second with rfl | rfl
    · exact ⟨'.' :: r, b, by simp, List.forall_mem_cons.2 ⟨by decide, chars⟩, other, rfl⟩
    · exact ⟨r, b, nonempty, chars, other, rfl⟩
  · rintro ⟨r, b, nonempty, chars, other, rfl⟩
    exact ⟨['.'], r ++ b, ⟨['.'], [], rfl, ⟨[], [], .inr rfl, rfl, rfl⟩, rfl⟩,
      ⟨r, b, ⟨nonempty, chars⟩, other, rfl⟩, rfl⟩

end Pattern

theorem isDocumentPath_iff {c : Char} {path : Text} :
    IsDocumentPath path ∧ path.head? = some c ↔
      ∃ r, isFileChar c = true ∧ r ≠ [] ∧ (∀ d ∈ r, isFileChar d = true) ∧ path = c :: r ++ ".md".toList := by
  constructor
  · rintro ⟨⟨chars, long, front, rfl⟩, first⟩
    match front with
    | [] => simp at long
    | [d] => simp at long
    | d :: e :: r =>
      cases first
      simp only [List.cons_append, List.forall_mem_cons, List.forall_mem_append] at chars
      exact ⟨e :: r, chars.1, by simp, List.forall_mem_cons.2 ⟨chars.2.1, chars.2.2.1⟩, rfl⟩
  · rintro ⟨r, charC, nonempty, chars, rfl⟩
    have ending : ∀ d ∈ ".md".toList, isFileChar d = true := List.all_eq_true.1 (by decide)
    have long := List.length_pos_iff.2 nonempty
    refine ⟨⟨?_, ?_, c :: r, rfl⟩, rfl⟩
    · exact List.forall_mem_append.2 ⟨List.forall_mem_cons.2 ⟨charC, chars⟩, ending⟩
    · have three : ".md".toList.length = 3 := rfl
      simp only [List.length_append, List.length_cons, three]
      omega

namespace Pattern

theorem takes_relativeDocPath : (chain [dots, atLeastOne .greedy fileChar, text ".md"]).Takes fun t =>
    IsDocumentPath t ∧ t.head? = some '.' := by
  have md : (chain [text ".md"]).Takes fun t => ∃ a b, a = ".md".toList ∧ b = [] ∧ t = a ++ b :=
    (Takes.literal _).andThen .nothing
  refine (takes_dots_andThen md).congr fun t => Iff.trans ⟨?_, ?_⟩ isDocumentPath_iff.symm
  · rintro ⟨r, _, nonempty, chars, ⟨_, _, rfl, rfl, rfl⟩, rfl⟩
    exact ⟨r, by decide, nonempty, chars, by simp⟩
  · rintro ⟨r, -, nonempty, chars, rfl⟩
    exact ⟨r, _, nonempty, chars, ⟨_, _, rfl, rfl, rfl⟩, by simp⟩

theorem takes_docrootPath : (chain [wordChar, atLeastOne .greedy fileChar, text ".md"]).Takes fun t =>
    IsDocumentPath t ∧ ∃ c, isWord c = true ∧ t.head? = some c := by
  have run : (atLeastOne .greedy fileChar).Takes fun t => t ≠ [] ∧ ∀ c ∈ t, isFileChar c = true :=
    .atLeastOne .greedy isFileChar
  have word : wordChar.Takes fun t => ∃ c, isWord c = true ∧ t = [c] := .one isWord
  have md : (text ".md").Takes (· = ".md".toList) := .literal _
  refine (word.andThen (run.andThen (md.andThen .nothing))).congr fun t => ⟨?_, ?_⟩
  · rintro ⟨_, _, ⟨c, isWord, rfl⟩, ⟨r, _, ⟨nonempty, chars⟩, ⟨_, _, rfl, rfl, rfl⟩, rfl⟩, rfl⟩
    have fileChar : isFileChar c = true := by simp [isFileChar, isWord]
    obtain ⟨document, first⟩ := isDocumentPath_iff.2 ⟨r, fileChar, nonempty, chars, rfl⟩
    exact ⟨by simpa using document, c, isWord, by simp⟩
  · rintro ⟨document, c, isWord, first⟩
    obtain ⟨r, -, nonempty, chars, rfl⟩ := isDocumentPath_iff.1 ⟨document, first⟩
    exact ⟨[c], _, ⟨c, isWord, rfl⟩, ⟨r, _, ⟨nonempty, chars⟩, ⟨_, _, rfl, rfl, rfl⟩, rfl⟩, by simp⟩

theorem takes_relativeImagePath : (chain [dots, atLeastOne .greedy fileChar, imageExtension]).Takes
    IsRelativeImage := by
  refine (takes_dots_andThen (takes_imageExtension.andThen .nothing)).congr fun t => ⟨?_, ?_⟩
  · rintro ⟨r, _, nonempty, chars, ⟨_, _, ⟨ending, extension, rfl⟩, rfl, rfl⟩, rfl⟩
    have long := List.length_pos_iff.2 nonempty
    have noDot : '.' ∉ ending := fun dot => absurd (extension.2 _ dot) (by decide)
    have words : ∀ c ∈ ending, isFileChar c = true := fun c member => by simp [isFileChar, extension.2 c member]
    refine ⟨?_, rfl, '.' :: r, ending, by simp only [List.length_cons]; omega, noDot, extension, by simp⟩
    simp only [List.append_nil, List.cons_append, List.forall_mem_cons, List.forall_mem_append]
    exact ⟨by decide, chars, by decide, words⟩
  · rintro ⟨chars, dotted, stem, ending, long, -, extension, rfl⟩
    match stem with
    | [] => simp at long
    | [_] => simp at long
    | d :: e :: r =>
      cases dotted
      simp only [List.cons_append, List.forall_mem_cons, List.forall_mem_append] at chars
      exact ⟨e :: r, _, by simp, List.forall_mem_cons.2 ⟨chars.2.1, chars.2.2.1⟩,
        ⟨_, _, ⟨ending, extension, rfl⟩, rfl, rfl⟩, by simp⟩

theorem takes_absoluteImagePath : (chain [atLeastOne .greedy pageChar, imageExtension]).Takes
    IsAbsoluteImage := by
  have run : (atLeastOne .greedy pageChar).Takes fun t => t ≠ [] ∧ ∀ c ∈ t, isPageChar c = true :=
    .atLeastOne .greedy isPageChar
  refine (run.andThen (takes_imageExtension.andThen .nothing)).congr fun t => ⟨?_, ?_⟩
  · rintro ⟨stem, _, ⟨nonempty, chars⟩, ⟨_, _, ⟨ending, extension, rfl⟩, rfl, rfl⟩, rfl⟩
    exact ⟨stem, ending, nonempty, chars, extension, by simp⟩
  · rintro ⟨stem, ending, nonempty, chars, extension, rfl⟩
    exact ⟨stem, _, ⟨nonempty, chars⟩, ⟨_, _, ⟨ending, extension, rfl⟩, rfl, rfl⟩, by simp⟩

theorem takes_external : external.Takes fun t => t = "http://".toList ∨ t = "https://".toList := by
  refine ((Takes.literal _).andThen ((Takes.literal _).optional.andThen ((Takes.literal _).andThen
    .nothing))).congr fun t => ⟨?_, ?_⟩
  · rintro ⟨_, _, rfl, ⟨_, _, secure, ⟨_, _, rfl, rfl, rfl⟩, rfl⟩, rfl⟩
    rcases secure with rfl | rfl
    · exact .inr rfl
    · exact .inl rfl
  · rintro (rfl | rfl)
    · exact ⟨_, _, rfl, ⟨_, _, .inr rfl, ⟨_, _, rfl, rfl, rfl⟩, rfl⟩, rfl⟩
    · exact ⟨_, _, rfl, ⟨_, _, .inl rfl, ⟨_, _, rfl, rfl, rfl⟩, rfl⟩, rfl⟩

theorem takes_rawPlace :
    (optional (chain [text "#", atLeastOne .greedy (one fun c => c != '\'' && c != '"')])).Takes fun t =>
      t = [] ∨ ∃ f, f ≠ [] ∧ (∀ c ∈ f, c ≠ '\'' ∧ c ≠ '"') ∧ t = '#' :: f := by
  refine ((Takes.literal _).andThen (Takes.atLeastOne _ _).single).optional.congr fun t => ⟨?_, ?_⟩
  · rintro (⟨_, f, rfl, ⟨nonempty, noQuote⟩, rfl⟩ | rfl)
    · exact .inr ⟨f, nonempty, by simpa using noQuote, rfl⟩
    · exact .inl rfl
  · rintro (rfl | ⟨f, nonempty, noQuote, rfl⟩)
    · exact .inr rfl
    · exact .inl ⟨_, f, rfl, ⟨nonempty, by simpa using noQuote⟩, rfl⟩

theorem takes_rawFile :
    (chain [text "/", atLeastOne .greedy (one (!isBlank ·)), text ".md", optional (text "x"),
      optional (chain [text "#", atLeastOne .greedy (one fun c => c != '\'' && c != '"')])]).Takes IsRawFile := by
  refine ((Takes.literal _).andThen ((Takes.atLeastOne _ _).andThen ((Takes.literal _).andThen
    ((Takes.literal _).optional.andThen takes_rawPlace.single)))).congr fun t => ⟨?_, ?_⟩
  · rintro ⟨_, _, rfl, ⟨stem, _, ⟨nonempty, noBlank⟩, ⟨_, _, rfl, ⟨x, place, mdx, isPlace, rfl⟩, rfl⟩, rfl⟩, rfl⟩
    refine ⟨stem, ".md".toList ++ x, place, nonempty, by simpa using noBlank, ?_, isPlace, by simp⟩
    rcases mdx with rfl | rfl
    · exact .inr rfl
    · exact .inl rfl
  · rintro ⟨stem, ending, place, nonempty, noBlank, mdx, isPlace, rfl⟩
    obtain ⟨x, isX, rfl⟩ : ∃ x, (x = "x".toList ∨ x = []) ∧ ending = ".md".toList ++ x := by
      rcases mdx with rfl | rfl
      · exact ⟨[], .inr rfl, rfl⟩
      · exact ⟨_, .inl rfl, rfl⟩
    have solid : ∀ c ∈ stem, (!isBlank c) = true := by simpa using noBlank
    exact ⟨_, _, rfl, ⟨stem, _, ⟨nonempty, solid⟩, ⟨_, _, rfl, ⟨x, place, isX, isPlace, rfl⟩, rfl⟩, rfl⟩, by simp⟩

/-- A pattern that names a path between two parts without names. -/
def framed (front : List (Pattern ShapePart)) (body : Pattern ShapePart) (tail : List (Pattern ShapePart)) :
    Pattern ShapePart :=
  chain (front ++ part .path body :: (tail ++ [atEnd]))

section

variable {front tail : List (Pattern ShapePart)} {body : Pattern ShapePart} {Front Kind Tail : Text → Prop}

theorem matches_framed (takesFront : (chain front).Takes Front) (takes : body.Takes Kind)
    (takesTail : (chain tail).Takes Tail) {link rest : Text} {parts : Parts ShapePart} :
    (framed front body tail).Matches [] link parts rest ↔
      rest = [] ∧ ∃ a path b, Front a ∧ Kind path ∧ Tail b ∧ link = a ++ (path ++ b) ∧
        parts = [(.path, ⟨path ++ b, b⟩)] := by
  rw [framed, matches_chain_append]
  constructor
  · rintro ⟨_, _, before, _, b, ⟨inner, taken, rfl⟩, after⟩
    obtain ⟨rfl, a, isFront, rfl⟩ := (takesFront _ _ _ _).1 before
    obtain ⟨rfl, path, kind, rfl⟩ := (takes _ _ _ _).1 taken
    obtain ⟨rfl, rfl, isTail⟩ := (matches_ending takesTail).1 after
    exact ⟨rfl, a, path, b, isFront, kind, isTail, rfl, rfl⟩
  · rintro ⟨rfl, a, path, b, isFront, kind, isTail, rfl, rfl⟩
    exact ⟨[], path ++ b, (takesFront _ _ _ _).2 ⟨rfl, a, isFront, rfl⟩, _, b,
      ⟨[], (takes _ _ _ _).2 ⟨rfl, path, kind, rfl⟩, rfl⟩, (matches_ending takesTail).2 ⟨rfl, rfl, isTail⟩⟩

/-- What a framed pattern names in a link, where the link can be divided in one way only. -/
theorem path?_framed_iff (takesFront : (chain front).Takes Front) (takes : body.Takes Kind)
    (takesTail : (chain tail).Takes Tail) (productive : (framed front body tail).Productive)
    (unique : ∀ {a path b a' path' b'}, Front a → Kind path → Tail b → Front a' → Kind path' → Tail b' →
      a ++ (path ++ b) = a' ++ (path' ++ b') → path = path') {link path : Text} :
    Rule.path? (framed front body tail) link = some path ↔
      ∃ a b, Front a ∧ Kind path ∧ Tail b ∧ link = a ++ (path ++ b) := by
  have matches_iff {parts rest} := @matches_framed _ _ _ _ _ _ takesFront takes takesTail link rest parts
  rw [Rule.path?, Option.bind_eq_some_iff]
  refine (exists_matchAt?_iff (f := (Parts.text? · ShapePart.path)) productive ?_).trans ⟨?_, ?_⟩
  · intro parts rest parts' rest' matched matched'
    obtain ⟨-, a, p, b, isFront, kind, isTail, spelled, rfl⟩ := matches_iff.1 matched
    obtain ⟨-, a', p', b', isFront', kind', isTail', spelled', rfl⟩ := matches_iff.1 matched'
    have same := unique isFront kind isTail isFront' kind' isTail' (spelled.symm.trans spelled')
    rw [Parts.text?_cons_self, Parts.text?_cons_self, same]
  · rintro ⟨parts, rest, matched, read⟩
    obtain ⟨-, a, p, b, isFront, kind, isTail, spelled, rfl⟩ := matches_iff.1 matched
    cases (Parts.text?_cons_self _ _ _ _).symm.trans read
    exact ⟨a, b, isFront, kind, isTail, spelled⟩
  · rintro ⟨a, b, isFront, kind, isTail, spelled⟩
    exact ⟨_, [], matches_iff.2 ⟨rfl, a, path, b, isFront, kind, isTail, spelled, rfl⟩,
      Parts.text?_cons_self _ _ _ _⟩

end

/-- A path with a place after it is what stands before the first mark. -/
theorem path?_fragment_iff {body : Pattern ShapePart} {Kind : Text → Prop} (takes : body.Takes Kind)
    (productive : body.Productive) (plain : ∀ path, Kind path → '#' ∉ path) {link path : Text} :
    Rule.path? (framed [] body [fragment]) link = some path ↔
      Kind path ∧ ∃ place, IsFragment place ∧ link = path ++ place := by
  rw [path?_framed_iff .empty takes takes_fragment.single (by simp [framed, productive, fragment, text])]
  · constructor
    · rintro ⟨_, place, rfl, kind, isFragment, spelled⟩
      exact ⟨kind, place, isFragment, spelled⟩
    · rintro ⟨kind, place, isFragment, spelled⟩
      exact ⟨[], place, rfl, kind, isFragment, spelled⟩
  · rintro _ a p _ b q rfl kindA isFragmentA rfl kindB isFragmentB same
    exact isFragmentA.path_unique isFragmentB (plain a kindA) (plain b kindB) same

/-- A path between a fixed beginning and the end of the link. -/
theorem path?_whole_iff {front : List (Pattern ShapePart)} {opening : Text} {body : Pattern ShapePart}
    {Kind : Text → Prop} (takesFront : (chain front).Takes (· = opening)) (takes : body.Takes Kind)
    (productive : (framed front body []).Productive) {link path : Text} :
    Rule.path? (framed front body []) link = some path ↔ Kind path ∧ link = opening ++ path := by
  rw [path?_framed_iff takesFront takes .empty productive]
  · constructor
    · rintro ⟨_, _, rfl, kind, rfl, spelled⟩
      exact ⟨kind, by rw [spelled, List.append_nil]⟩
    · rintro ⟨kind, spelled⟩
      exact ⟨opening, [], rfl, kind, rfl, by rw [spelled, List.append_nil]⟩
  · rintro _ a _ _ b _ rfl - rfl rfl - rfl same
    simpa using same

end Pattern

theorem IsDocumentPath.plain {path : Text} (document : IsDocumentPath path) : '#' ∉ path :=
  fun mark => absurd (document.chars '#' mark) (by decide)

namespace Site

open Pattern

variable {site : Site} {link path : Text}

theorem reads_relativeDoc_iff : site.Reads link (.relativeDoc path) ↔
    (IsDocumentPath path ∧ path.head? = some '.') ∧ ∃ place, IsFragment place ∧ link = path ++ place :=
  path?_fragment_iff takes_relativeDocPath (by simp [dots, fileChar, text]) fun _ kind => kind.1.plain

theorem reads_docroot_iff : site.Reads link (.docroot path) ↔
    (IsDocumentPath path ∧ ∃ c, isWord c = true ∧ path.head? = some c) ∧
      ∃ place, IsFragment place ∧ link = path ++ place :=
  path?_fragment_iff takes_docrootPath (by simp [wordChar, fileChar, text]) fun _ kind => kind.1.plain

theorem reads_relativeImage_iff : site.Reads link (.relativeImage path) ↔ IsRelativeImage path ∧ link = path :=
  path?_whole_iff .empty takes_relativeImagePath
    (by simp [framed, dots, fileChar, imageExtension, wordChar, text])

theorem reads_absoluteImage_iff :
    site.Reads link (.absoluteImage path) ↔ IsAbsoluteImage path ∧ link = '/' :: path :=
  path?_whole_iff (Takes.literal ['/']).single takes_absoluteImagePath
    (by simp [framed, pageChar, imageExtension, wordChar, text])

theorem reads_external_iff {url : Text} : site.Reads link (.external url) ↔
    url = link ∧ ("http://".toList <+: link ∨ "https://".toList <+: link) := by
  refine and_congr_right fun _ => (takes_external.isSome_matchAt?_iff (by simp [external, text])).trans ?_
  simp only [or_and_right, exists_or, exists_eq_left]

theorem reads_rawAbsoluteFile_iff : site.Reads link .rawAbsoluteFile ↔
    ¬('/' :: site.segment ++ ['/']) <+: link ∧ IsRawFile link :=
  and_congr_right fun _ => takes_rawFile.isSome_matchAt?_ending_iff (by simp [text])

end Site

theorem IsVersion.chars {v : Text} (version : IsVersion v) : ∀ c ∈ v, isDigit c = true ∨ c = '.' := by
  obtain ⟨a, b, c, numberA, numberB, numberC, rfl⟩ := version
  intro d member
  simp only [List.mem_append, List.mem_cons] at member
  rcases member with (inA | rfl | inB) | rfl | inC
  · exact .inl (numberA.2 d inA)
  · exact .inr rfl
  · exact .inl (numberB.2 d inB)
  · exact .inr rfl
  · exact .inl (numberC.2 d inC)

theorem IsVersion.not_mem {v : Text} {c : Char} (version : IsVersion v) (noDigit : isDigit c = false)
    (noDot : c ≠ '.') : c ∉ v := by
  intro member
  rcases version.chars c member with digit | dot
  · cases noDigit.symm.trans digit
  · exact noDot dot

theorem IsVersion.no_slash {v : Text} (version : IsVersion v) : '/' ∉ v :=
  version.not_mem (by decide) (by decide)

theorem IsVersion.no_mark {v : Text} (version : IsVersion v) : '#' ∉ v :=
  version.not_mem (by decide) (by decide)

/-- A page is not a version: the version goes on with a dot after its first number, where the path of a page
has ended. -/
theorem IsVersion.not_page {v page place rest : Text} (version : IsVersion v)
    (chars : ∀ c ∈ page, isPageChar c = true) (fragment : IsFragment place) : page ++ place ≠ v ++ rest := by
  obtain ⟨a, b, c, number, -, -, rfl⟩ := version
  intro same
  have goesOn {c : Char} (noDot : c ≠ '.') (noMark : c ≠ '#') : (c == '.' || c == '#') = false := by
    simp [noDot, noMark]
  have plainPage : ∀ c ∈ page, (c == '.' || c == '#') = false := by
    intro c member
    have pageChar := chars c member
    exact goesOn (ne_of_accepts pageChar (by decide)) (ne_of_accepts pageChar (by decide))
  have plainNumber : ∀ c ∈ a, (c == '.' || c == '#') = false := by
    intro c member
    obtain ⟨noDot, -, noMark⟩ := number.plain c member
    exact goesOn noDot noMark
  have split : page ++ place = a ++ ('.' :: b ++ '.' :: c ++ rest) := by simpa using same
  obtain ⟨-, rest⟩ := append_inj_of_stops plainPage plainNumber
    (fun c first => by simp [fragment.head? c first]) (by simp) split
  have mark := fragment.head? '.' (by simp [rest])
  cases mark

/-- A link to a page can be read in one way only. -/
theorem IsPageLink.unique {segment link page page' : Text} {version version' : Option Text}
    (read : IsPageLink segment link page version) (read' : IsPageLink segment link page' version') :
    page = page' ∧ version = version' := by
  obtain ⟨place, fragment, spelled⟩ := read.spelled
  obtain ⟨place', fragment', spelled'⟩ := read'.spelled
  have same := spelled.symm.trans spelled'
  simp only [List.cons_append, List.append_assoc, List.cons.injEq, true_and, List.append_cancel_left_eq] at same
  have noMark {page : Text} (chars : ∀ c ∈ page, isPageChar c = true) : '#' ∉ page :=
    fun mark => absurd (chars _ mark) (by decide)
  cases version <;> cases version' <;>
    simp only [Option.elim_none, Option.elim_some, List.nil_append, List.cons_append, List.cons.injEq, true_and]
      at same
  case none.none => exact ⟨fragment.path_unique fragment' (noMark read.chars) (noMark read'.chars) same, rfl⟩
  case none.some v' => exact absurd same ((read'.versioned v' rfl).not_page read.chars fragment)
  case some.none v => exact absurd same.symm ((read.versioned v rfl).not_page read'.chars fragment')
  case some.some v v' =>
    obtain ⟨rfl, rest⟩ := append_inj_of_stops (beq_eq_false_of_not_mem (read.versioned v rfl).no_slash)
      (beq_eq_false_of_not_mem (read'.versioned v' rfl).no_slash) (by simp) (by simp) same
    exact ⟨fragment.path_unique fragment' (noMark read.chars) (noMark read'.chars) (List.cons.inj rest).2, rfl⟩

namespace Pattern

theorem matches_versionSegment {s s' : Text} {parts' : Parts ShapePart} :
    (optional (chain [text "/", part .version version])).Matches [] s parts' s' ↔
      ∃ v? : Option Text, (∀ v ∈ v?, IsVersion v) ∧ s = (v?.elim [] fun v => '/' :: v) ++ s' ∧
        parts' = v?.elim [] fun v => [(.version, ⟨v ++ s', s'⟩)] := by
  constructor
  · rintro (⟨_, _, slash, _, _, ⟨inner, taken, rfl⟩, rfl, rfl⟩ | ⟨rfl, rfl⟩)
    · obtain ⟨rfl, rfl⟩ := matches_literal.1 slash
      obtain ⟨rfl, v, isVersion, rfl⟩ := (takes_version _ _ _ _).1 taken
      exact ⟨some v, by simpa using isVersion, rfl, rfl⟩
    · exact ⟨none, by simp, rfl, rfl⟩
  · rintro ⟨none | v, isVersion, rfl, rfl⟩
    · exact .inr ⟨rfl, rfl⟩
    · exact .inl ⟨[], v ++ s', matches_literal.2 ⟨rfl, rfl⟩, _, s',
        ⟨[], (takes_version _ _ _ _).2 ⟨rfl, v, isVersion v rfl, rfl⟩, rfl⟩, rfl, rfl⟩

/-- What the parts of the pattern stand for in a link to a page. -/
def pageParts (page place : Text) (v? : Option Text) : Parts ShapePart :=
  (.path, ⟨page ++ place, place⟩) ::
    v?.elim [] fun v => [(.version, ⟨v ++ '/' :: page ++ place, '/' :: page ++ place⟩)]

@[simp] theorem text?_path_pageParts (page place : Text) (v? : Option Text) :
    (pageParts page place v?).text? .path = some page :=
  Parts.text?_cons_self _ _ _ _

@[simp] theorem text?_version_pageParts (page place : Text) (v? : Option Text) :
    (pageParts page place v?).text? .version = v? := by
  have other (parts : Parts ShapePart) (stretch : Stretch) :
      Parts.text? ((.path, stretch) :: parts) .version = parts.text? .version := rfl
  rw [pageParts, other]
  cases v? with
  | none => rfl
  | some v =>
    rw [Option.elim_some, List.append_assoc]
    exact Parts.text?_cons_self _ _ _ _

theorem matches_absoluteDoc {segment link rest : Text} {parts : Parts ShapePart} :
    (absoluteDoc segment).Matches [] link parts rest ↔
      rest = [] ∧ ∃ (page place : Text) (v? : Option Text), page ≠ [] ∧ (∀ c ∈ page, isPageChar c = true) ∧
        (∀ v ∈ v?, IsVersion v) ∧ IsFragment place ∧
        link = '/' :: segment ++ (v?.elim [] fun v => '/' :: v) ++ '/' :: page ++ place ∧
        parts = pageParts page place v? := by
  constructor
  · rintro ⟨_, _, slash, _, _, literal, _, _, pinned, _, _, slash', _, _, ⟨_, run, rfl⟩, placed⟩
    obtain ⟨rfl, rfl⟩ := matches_literal.1 slash
    obtain ⟨rfl, rfl⟩ := matches_literal.1 literal
    obtain ⟨v?, isVersion, rfl, rfl⟩ := matches_versionSegment.1 pinned
    obtain ⟨rfl, rfl⟩ := matches_literal.1 slash'
    obtain ⟨rfl, page, nonempty, chars, rfl⟩ := matches_atLeastOne.1 run
    obtain ⟨rfl, rfl, fragment⟩ := (matches_ending takes_fragment.single).1 placed
    exact ⟨rfl, page, _, v?, nonempty, chars, isVersion, fragment, by simp, by simp [pageParts]⟩
  · rintro ⟨rfl, page, place, v?, nonempty, chars, isVersion, isFragment, rfl, rfl⟩
    exact ⟨[], segment ++ ((v?.elim [] fun v => '/' :: v) ++ '/' :: (page ++ place)),
      matches_literal.2 ⟨rfl, by simp⟩, [], _, matches_literal.2 ⟨rfl, rfl⟩, _, '/' :: (page ++ place),
      matches_versionSegment.2 ⟨v?, isVersion, rfl, rfl⟩, _, page ++ place, matches_literal.2 ⟨rfl, rfl⟩,
      _, place, ⟨_, matches_atLeastOne.2 ⟨rfl, page, nonempty, chars, rfl⟩, rfl⟩,
      (matches_ending takes_fragment.single).2 ⟨by simp [pageParts], rfl, isFragment⟩⟩

end Pattern

/-- A link is read as a page just where the grammar divides it so. -/
theorem Site.reads_absoluteDoc_iff {site : Site} {link page : Text} {version : Option Text} :
    site.Reads link (.absoluteDoc page version) ↔ IsPageLink site.segment link page version := by
  let read (parts : Parts ShapePart) : Option Text × Option Text := (parts.text? .path, parts.text? .version)
  have reads : site.Reads link (.absoluteDoc page version) ↔
      ∃ m, (Pattern.absoluteDoc site.segment).matchAt? link = some m ∧ read m.parts = (some page, version) := by
    simp only [Reads, read, Prod.mk.injEq]
  have productive : (Pattern.absoluteDoc site.segment).Productive := by
    simp [Pattern.absoluteDoc, Pattern.version, Pattern.number, Pattern.digit, Pattern.pageChar, Pattern.fragment,
      Pattern.text]
  have divides {parts rest} (matched : (Pattern.absoluteDoc site.segment).Matches [] link parts rest) :
      ∃ page version, IsPageLink site.segment link page version ∧ read parts = (some page, version) := by
    obtain ⟨-, page, place, v?, nonempty, chars, isVersion, fragment, spelled, rfl⟩ :=
      Pattern.matches_absoluteDoc.1 matched
    exact ⟨page, v?, ⟨nonempty, chars, isVersion, place, fragment, spelled⟩, by simp [read]⟩
  rw [reads, Pattern.exists_matchAt?_iff productive]
  · constructor
    · rintro ⟨parts, rest, matched, found⟩
      obtain ⟨page', version', pageLink, found'⟩ := divides matched
      cases found.symm.trans found'
      exact pageLink
    · rintro ⟨nonempty, chars, isVersion, place, fragment, spelled⟩
      exact ⟨_, [], Pattern.matches_absoluteDoc.2
        ⟨rfl, page, place, version, nonempty, chars, isVersion, fragment, spelled, rfl⟩, by simp [read]⟩
  · intro parts rest parts' rest' matched matched'
    obtain ⟨p, v, pageLink, found⟩ := divides matched
    obtain ⟨p', v', pageLink', found'⟩ := divides matched'
    obtain ⟨rfl, rfl⟩ := pageLink.unique pageLink'
    rw [found, found']

end DocLinks
