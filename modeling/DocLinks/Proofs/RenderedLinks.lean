import DocLinks.Proofs.BracketScan

namespace DocLinks

/-- A text that holds none of some characters. -/
abbrev Text.Without (barred : List Char) : Type := {t : Text // ∀ c ∈ t, c ∉ barred}

theorem Text.Without.ne {barred : List Char} (t : Text.Without barred) {c d : Char} (member : c ∈ t.val)
    (bar : d ∈ barred) : c ≠ d := by
  rintro rfl
  exact t.property c member bar

/-- A link as an author writes it, with the prose before it. -/
structure WrittenLink (proseBars targetBars : List Char) (Description : Type) where
  prose : Text.Without proseBars
  isImage : Bool
  unmarked : isImage = false → prose.val.getLast? ≠ some '!'
  description : Description
  target : Text.Without targetBars

/-- Links and the prose around them. -/
structure Passage (proseBars targetBars : List Char) (Description : Type) where
  links : List (WrittenLink proseBars targetBars Description)
  closing : Text.Without proseBars

/-- What an author writes between the brackets of a link: links with plain descriptions, all on one line. -/
abbrev WrittenDescription : Type :=
  Passage ['[', ']', '\n'] [')', '[', ']', '\n'] (Text.Without ['[', ']', '\n'])

abbrev WrittenDocument : Type := Passage ['['] [')', '\n'] WrittenDescription

namespace WrittenLink

variable {proseBars targetBars : List Char} {Description : Type}

def mark (link : WrittenLink proseBars targetBars Description) : Text := if link.isImage then ['!'] else []

/-- The link from its mark on, where `inside` writes the descriptions. -/
def body (inside : Description → Text) (link : WrittenLink proseBars targetBars Description) : Text :=
  link.mark ++ '[' :: inside link.description ++ ']' :: '(' :: link.target.val ++ [')']

def occurrence (link : WrittenLink proseBars targetBars Description) (file : Path) : Occurrence :=
  ⟨link.target.val, file, link.isImage⟩

end WrittenLink

/-- The text of a passage, where `inside` writes the descriptions. -/
def Passage.render {proseBars targetBars : List Char} {Description : Type} (inside : Description → Text)
    (passage : Passage proseBars targetBars Description) : Text :=
  (passage.links.flatMap fun link => link.prose.val ++ link.body inside) ++ passage.closing.val

def WrittenDescription.render (description : WrittenDescription) : Text := Passage.render (·.val) description

def WrittenDocument.render (document : WrittenDocument) : Text :=
  Passage.render WrittenDescription.render document

namespace BracketLink

theorem target?_append {t : Text} (plain : ∀ c ∈ t, c ≠ ')' ∧ c ≠ '\n') (rest : Text) :
    target? (t ++ ')' :: rest) = some (t, rest) := by
  induction t with
  | nil => rfl
  | cons c t ih =>
    obtain ⟨⟨notClosing, notBreak⟩, plain⟩ := List.forall_mem_cons.1 plain
    rw [List.cons_append, target?, if_neg notClosing, if_neg notBreak, ih plain]
    rfl

/-- A description may go on with the text, whatever comes after it. -/
def Passes (t : Text) : Prop :=
  ∀ s, description? false (t ++ s) = (description? false s).map fun (d, rest) => (t ++ d, rest)

theorem Passes.nil : Passes [] := by
  intro s
  simp

theorem Passes.append {a b : Text} (first : Passes a) (next : Passes b) : Passes (a ++ b) := by
  intro s
  rw [List.append_assoc, first, next, Option.map_map]
  simp [Function.comp_def]

theorem Passes.flatMap {α : Type} {f : α → Text} {l : List α} (each : ∀ a ∈ l, Passes (f a)) :
    Passes (l.flatMap f) := by
  induction l with
  | nil => exact .nil
  | cons a l ih =>
    obtain ⟨first, rest⟩ := List.forall_mem_cons.1 each
    exact first.append (ih rest)

theorem description?_plain {inGroup : Bool} {t : Text} (plain : ∀ c ∈ t, linkPattern.isPlain c = true) (s : Text) :
    description? inGroup (t ++ s) = (description? inGroup s).map fun (d, rest) => (t ++ d, rest) := by
  induction t with
  | nil => simp
  | cons c t ih =>
    obtain ⟨plainC, plain⟩ := List.forall_mem_cons.1 plain
    simp only [linkPattern.isPlain, Bool.and_eq_true, bne_iff_ne] at plainC
    obtain ⟨⟨notOpening, notClosing⟩, notBreak⟩ := plainC
    rw [List.cons_append, description?, if_neg notBreak, if_neg notClosing, if_neg notOpening, ih plain,
      Option.map_map]
    rfl

theorem passes_plain {t : Text} (plain : ∀ c ∈ t, linkPattern.isPlain c = true) : Passes t :=
  description?_plain plain

theorem passes_group {t : Text} (plain : ∀ c ∈ t, linkPattern.isPlain c = true) : Passes ('[' :: t ++ [']']) := by
  intro s
  have opens : description? false ('[' :: t ++ [']'] ++ s) =
      (description? true (t ++ ']' :: s)).map fun (d, rest) => ('[' :: d, rest) := by
    simp [description?]
  have closes : description? true (']' :: s) = (description? false s).map fun (d, rest) => (']' :: d, rest) := rfl
  rw [opens, description?_plain plain, closes, Option.map_map, Option.map_map]
  simp [Function.comp_def]

theorem Passes.description?_eq {t : Text} (passes : Passes t) (s : Text) :
    description? false (t ++ ']' :: s) = some (t, s) := by
  have ends : description? false (']' :: s) = some ([], s) := rfl
  rw [passes, ends]
  simp

theorem opened?_eq_some {d t rest : Text} (passes : Passes d) (plain : ∀ c ∈ t, c ≠ ')' ∧ c ≠ '\n') :
    opened? ('[' :: d ++ ']' :: '(' :: t ++ ')' :: rest) = some ⟨d, t, rest⟩ := by
  have described : description? false (d ++ (']' :: '(' :: (t ++ ')' :: rest))) =
      some (d, '(' :: (t ++ ')' :: rest)) :=
    passes.description?_eq _
  simp [opened?, described, target?_append plain]

variable {inside : Text → List (Text × Bool)}

/-- Prose is passed over without finding a link. -/
theorem scan_prose {prose s : Text} (noOpening : '[' ∉ prose)
    (unmarked : prose.getLast? = some '!' → s.head? ≠ some '[') (before : Option Char) :
    scan inside before (prose ++ s) = scan inside (prose.getLast?.or before) s := by
  induction prose generalizing before with
  | nil => rfl
  | cons c prose ih =>
    simp only [List.mem_cons, not_or] at noOpening
    have missed : read? (c :: (prose ++ s)) = none := by
      unfold read?
      split
      · next marked =>
        -- a mark reads the link behind it, so there must be none
        cases marked
        refine opened?_eq_none ?_
        cases prose with
        | nil => exact unmarked rfl
        | cons d prose => simpa using fun opening => noOpening.2 (by simp [opening])
      · exact opened?_eq_none (by simpa using Ne.symm noOpening.1)
    have last : (c :: prose).getLast?.or before = prose.getLast?.or (some c) := by
      rw [List.getLast?_cons]
      cases prose.getLast? <;> rfl
    rw [List.cons_append, scan_of_read?_eq_none missed, last]
    refine ih noOpening.2 (fun ends => unmarked ?_) _
    rw [List.getLast?_cons, ends, Option.getD_some]

end BracketLink

open BracketLink

section

variable {proseBars targetBars : List Char} {Description : Type} {render : Description → Text}
  {inside : Text → List (Text × Bool)}

/-- A link that is written is read back, and told from an image by the mark alone. -/
theorem WrittenLink.scan_body (link : WrittenLink proseBars targetBars Description)
    (bars : [')', '\n'] ⊆ targetBars) (passes : Passes (render link.description)) {before : Option Char}
    (unmarked : link.isImage = false → before ≠ some '!') (rest : Text) :
    scan inside before (link.body render ++ rest) =
      (link.target.val, link.isImage) :: inside (render link.description) ++ scan inside (some ')') rest := by
  have plain : ∀ c ∈ link.target.val, c ≠ ')' ∧ c ≠ '\n' := by
    intro c member
    exact ⟨link.target.ne member (bars (by simp)), link.target.ne member (bars (by simp))⟩
  let written := '[' :: render link.description ++ ']' :: '(' :: link.target.val ++ ')' :: rest
  have opened : opened? written = some ⟨render link.description, link.target.val, rest⟩ :=
    opened?_eq_some passes plain
  have spelled : link.body render ++ rest = link.mark ++ written := by simp [body, written]
  rw [spelled]
  cases image : link.isImage with
  | true =>
    have mark : link.mark ++ written = '!' :: written := by simp [WrittenLink.mark, image]
    have found : read? ('!' :: written) = some ⟨render link.description, link.target.val, rest⟩ := opened
    rw [mark, scan_of_read?_eq_some found]
    rfl
  | false =>
    have mark : link.mark ++ written = written := by simp [WrittenLink.mark, image]
    have found : read? written = some ⟨render link.description, link.target.val, rest⟩ := opened
    have plainBefore : (charBefore before written == some '!') = false := by
      simpa [charBefore, written] using unmarked image
    rw [mark, scan_of_read?_eq_some found, plainBefore]

/-- Scanning the text of a passage gives its links back, where every description may stand between brackets. -/
theorem Passage.scan_render (passage : Passage proseBars targetBars Description) (opening : '[' ∈ proseBars)
    (bars : [')', '\n'] ⊆ targetBars) (passes : ∀ d, Passes (render d)) {before : Option Char}
    (unmarked : before ≠ some '!') :
    scan inside before (passage.render render) =
      passage.links.flatMap fun link => (link.target.val, link.isImage) :: inside (render link.description) := by
  obtain ⟨links, closing⟩ := passage
  have noOpening (prose : Text.Without proseBars) : '[' ∉ prose.val :=
    fun member => prose.ne member opening rfl
  unfold Passage.render
  induction links generalizing before with
  | nil =>
    have ended : scan inside before (closing.val ++ []) = scan inside (closing.val.getLast?.or before) [] :=
      scan_prose (noOpening closing) (by simp) before
    simpa [scan_nil] using ended
  | cons link links ih =>
    let later := links.flatMap (fun link => link.prose.val ++ link.body render) ++ closing.val
    have unopened : link.prose.val.getLast? = some '!' → (link.body render ++ later).head? ≠ some '[' := by
      intro ends
      cases image : link.isImage with
      | true => simp [WrittenLink.body, WrittenLink.mark, image]
      | false => exact absurd ends (link.unmarked image)
    have unmarked : link.isImage = false → link.prose.val.getLast?.or before ≠ some '!' := by
      intro image marked
      rcases Option.or_eq_some_iff.1 marked with ends | ⟨-, ends⟩
      · exact link.unmarked image ends
      · exact unmarked ends
    rw [List.flatMap_cons, List.flatMap_cons, List.append_assoc, List.append_assoc,
      scan_prose (noOpening link.prose) unopened, link.scan_body bars (passes _) unmarked, ih (by simp)]

end

theorem Text.Without.isPlain {barred : List Char} (t : Text.Without barred) (bars : ['[', ']', '\n'] ⊆ barred) :
    ∀ c ∈ t.val, linkPattern.isPlain c = true := by
  intro c member
  have free {d : Char} (bar : d ∈ ['[', ']', '\n']) : c ≠ d := t.ne member (bars bar)
  simp [linkPattern.isPlain, free]

/-- A description that is written may stand between the brackets of a link. -/
theorem WrittenDescription.passes (description : WrittenDescription) : Passes description.render := by
  refine Passes.append (.flatMap fun link _ => ?_) (passes_plain (description.closing.isPlain (by simp)))
  have mark : ∀ c ∈ link.mark, linkPattern.isPlain c = true := by
    unfold WrittenLink.mark
    split
    · simp [linkPattern.isPlain]
    · simp
  have target : ∀ c ∈ '(' :: link.target.val ++ [')'], linkPattern.isPlain c = true := by
    have inside := link.target.isPlain (by simp)
    exact List.forall_mem_append.2 ⟨List.forall_mem_cons.2 ⟨rfl, inside⟩, List.forall_mem_singleton.2 rfl⟩
  have spelled : link.body (·.val) = link.mark ++ ('[' :: link.description.val ++ [']']) ++
      ('(' :: link.target.val ++ [')']) := by simp [WrittenLink.body]
  rw [spelled]
  have description := passes_group (link.description.isPlain (by simp))
  exact (passes_plain (link.prose.isPlain (by simp))).append
    (((passes_plain mark).append description).append (passes_plain target))

/-- What is found in a document is what was written: each link, followed by the links of its description. -/
theorem occurrences_render (document : WrittenDocument) (file : Path) :
    let written := document.links.flatMap fun link =>
      link.occurrence file :: link.description.links.map (·.occurrence file)
    occurrences document.render file = written ∧ (Cursor.start document.render file).remaining = written := by
  have plain (t : Text.Without ['[', ']', '\n']) : Passes t.val := passes_plain (t.isPlain (by simp))
  have inner (description : WrittenDescription) : scan (fun _ => []) none description.render =
      description.links.map fun link => (link.target.val, link.isImage) := by
    rw [List.map_eq_flatMap]
    exact Passage.scan_render description (by simp) (by simp) plain (by simp)
  have outer : scan (scan (fun _ => []) none) none document.render =
      document.links.flatMap fun link =>
        (link.target.val, link.isImage) :: scan (fun _ => []) none link.description.render :=
    Passage.scan_render document (by simp) (by simp) WrittenDescription.passes (by simp)
  have all : occurrences document.render file = document.links.flatMap fun link =>
      link.occurrence file :: link.description.links.map (·.occurrence file) := by
    rw [occurrences_eq_scan, outer, List.map_flatMap]
    refine congrArg (List.flatMap · _) (funext fun link => ?_)
    rw [List.map_cons, inner, List.map_map]
    rfl
  refine ⟨all, ?_⟩
  rw [Cursor.remaining_eq_append]
  exact all

/-- A link with an image in its description, between brackets that belong to neither. -/
theorem occurrences_render_nested_image :
    let image : WrittenLink _ _ _ :=
      ⟨⟨"see ".toList, by simp⟩, true, by simp, ⟨"the map".toList, by simp⟩, ⟨"/img/map.png".toList, by simp⟩⟩
    let page : WrittenLink _ _ WrittenDescription :=
      ⟨⟨"(or) ".toList, by simp⟩, false, by simp, ⟨[image], ⟨"!".toList, by simp⟩⟩, ⟨"a[0].md".toList, by simp⟩⟩
    let text := "(or) [see ![the map](/img/map.png)!](a[0].md)]".toList
    let file := "docs/a.md".toList
    WrittenDocument.render ⟨[page], ⟨"]".toList, by simp⟩⟩ = text ∧
      occurrences text file = [⟨"a[0].md".toList, file, false⟩, ⟨"/img/map.png".toList, file, true⟩] := by
  intro image page text file
  have written : WrittenDocument.render ⟨[page], ⟨"]".toList, by simp⟩⟩ = text := by decide
  obtain ⟨found, -⟩ := occurrences_render ⟨[page], ⟨"]".toList, by simp⟩⟩ file
  rw [written] at found
  exact ⟨written, found⟩

end DocLinks
