import DocLinks.Proofs.Cursors
import DocLinks.Proofs.PatternRuns

namespace DocLinks

/-- What one attempt to read a link finds: its description, its target, and the text after it. -/
@[ext] structure BracketLink where
  description : Text
  target : Text
  rest : Text

namespace BracketLink

/-- Reads a description up to the first closing bracket outside a group, character by character and never
going back. A group holds no bracket, and a line break ends the attempt. -/
def description? (inGroup : Bool) : Text → Option (Text × Text)
  | [] => none
  | c :: s =>
    if c = '\n' then none
    else if c = ']' then
      if inGroup then (description? false s).map fun (d, rest) => (c :: d, rest) else some ([], s)
    else if c = '[' then
      if inGroup then none else (description? true s).map fun (d, rest) => (c :: d, rest)
    else (description? inGroup s).map fun (d, rest) => (c :: d, rest)

/-- Reads a target up to the first closing parenthesis on the line. -/
def target? : Text → Option (Text × Text)
  | [] => none
  | c :: s =>
    if c = ')' then some ([], s)
    else if c = '\n' then none
    else (target? s).map fun (t, rest) => (c :: t, rest)

/-- The link whose opening bracket a text begins with. -/
def opened? : Text → Option BracketLink
  | '[' :: s =>
    match description? false s with
    | some (description, '(' :: s) => (target? s).map fun (target, rest) => ⟨description, target, rest⟩
    | _ => none
  | _ => none

/-- The link that a text begins with, an exclamation mark before it or not. -/
def read? : Text → Option BracketLink
  | '!' :: s => opened? s
  | s => opened? s

theorem description?_eq_append {inGroup : Bool} {s d rest : Text}
    (h : description? inGroup s = some (d, rest)) : s = d ++ ']' :: rest := by
  induction s generalizing inGroup d with
  | nil => cases h
  | cons c s ih =>
    have later {inGroup : Bool}
        (h : (description? inGroup s).map (fun (d, rest) => (c :: d, rest)) = some (d, rest)) :
        c :: s = d ++ ']' :: rest := by
      obtain ⟨⟨d', rest'⟩, found, eq⟩ := Option.map_eq_some_iff.1 h
      cases eq
      rw [ih found, List.cons_append]
    unfold description? at h
    split at h
    · cases h
    split at h
    · split at h
      · exact later h
      · next isClosing _ =>
        cases h
        rw [isClosing, List.nil_append]
    split at h
    · split at h
      · cases h
      · exact later h
    · exact later h

theorem target?_eq_append {s t rest : Text} (h : target? s = some (t, rest)) : s = t ++ ')' :: rest := by
  induction s generalizing t with
  | nil => cases h
  | cons c s ih =>
    unfold target? at h
    split at h
    · next isClosing =>
      cases h
      rw [isClosing, List.nil_append]
    split at h
    · cases h
    · obtain ⟨⟨t', rest'⟩, found, eq⟩ := Option.map_eq_some_iff.1 h
      cases eq
      rw [ih found, List.cons_append]

theorem opened?_eq_append {s : Text} {l : BracketLink} (h : opened? s = some l) :
    s = '[' :: l.description ++ ']' :: '(' :: l.target ++ ')' :: l.rest := by
  unfold opened? at h
  split at h
  · split at h
    · next description afterOpening described =>
      obtain ⟨⟨target, rest⟩, targeted, eq⟩ := Option.map_eq_some_iff.1 h
      cases eq
      rw [description?_eq_append described, target?_eq_append targeted]
      simp
    · cases h
  · cases h

theorem opened?_eq_none {s : Text} (other : s.head? ≠ some '[') : opened? s = none := by
  unfold opened?
  split
  · exact absurd rfl other
  · rfl

theorem read?_shorter {s : Text} {l : BracketLink} (h : read? s = some l) : l.rest.length < s.length := by
  unfold read? at h
  split at h
  all_goals
    rw [opened?_eq_append h]
    simp only [List.length_append, List.length_cons]
    omega

/-- A group is a run of plain characters and a closing bracket. -/
theorem description?_group {β : Type} (next : Text → Option β) (s : Text) :
    ((description? true s).bind fun (_, rest) => next rest) =
      match s.dropWhile linkPattern.isPlain with
      | ']' :: s => (description? false s).bind fun (_, rest) => next rest
      | _ => none := by
  induction s with
  | nil => rfl
  | cons c s ih =>
    by_cases isBreak : c = '\n'
    · simp [description?, isBreak, linkPattern.isPlain]
    by_cases isClosing : c = ']'
    · subst isClosing
      rw [List.dropWhile_cons_of_neg (by decide), description?, if_neg isBreak, if_pos rfl, if_pos rfl,
        Option.bind_map]
      rfl
    by_cases isOpening : c = '['
    · simp [description?, isOpening, linkPattern.isPlain]
    · have plain : linkPattern.isPlain c = true := by simp [linkPattern.isPlain, isBreak, isClosing, isOpening]
      rw [List.dropWhile_cons_of_pos plain, ← ih, description?, if_neg isBreak, if_neg isClosing,
        if_neg isOpening, Option.bind_map]
      rfl

/-- What a description is made of: a plain character or a group. -/
def piecePattern : Pattern LinkPart :=
  .orElse (.one linkPattern.isPlain) (.chain
    [.literal ['['], .many .greedy (.one linkPattern.isPlain), .literal [']']])

/-- A link from its opening bracket on. -/
def openedPattern : Pattern LinkPart :=
  .chain [.literal ['['], .part .description (.many .greedy piecePattern), .literal [']', '('],
    .part .target (.many .lazy (.one (· != '\n'))), .literal [')']]

variable {β : Type} {next : Continuation LinkPart β}

theorem run_piecePattern_plain (parts : Parts LinkPart) {c : Char} (plain : linkPattern.isPlain c = true)
    (s : Text) : piecePattern.run parts (c :: s) next = next parts s := by
  have notOpening : c ≠ '[' := by
    rintro rfl
    cases plain
  simp [piecePattern, plain, notOpening]

theorem run_piecePattern_group (parts : Parts LinkPart) (s : Text) :
    piecePattern.run parts ('[' :: s) next =
      match s.dropWhile linkPattern.isPlain with
      | ']' :: s => next parts s
      | _ => none := by
  have stops : ∀ (parts : Parts LinkPart) c s, linkPattern.isPlain c = true →
      (Pattern.chain [.literal [']']]).run parts (c :: s) next = none := by
    intro parts c s plain
    have notClosing : c ≠ ']' := by
      rintro rfl
      cases plain
    simp [notClosing]
  have notPlain : linkPattern.isPlain '[' = false := rfl
  simp only [piecePattern, Pattern.run_orElse, Pattern.run_one_cons, notPlain, Pattern.run_chain_cons,
    Pattern.run_literal_cons, Pattern.run_literal_nil, beq_self_eq_true, if_true]
  rw [Pattern.run_many_greedy_one stops]
  cases s.dropWhile linkPattern.isPlain with
  | nil => rfl
  | cons c s =>
    by_cases isClosing : c = ']'
    · simp [isClosing]
    · simp [isClosing]

/-- A description can end at one place only, so the greedy pattern and the scanner agree on it. -/
theorem run_descriptionPattern (stops : ∀ parts s, s.head? ≠ some ']' → next parts s = none)
    (parts : Parts LinkPart) (s : Text) :
    (Pattern.many .greedy piecePattern).run parts s next =
      (description? false s).bind fun (_, rest) => next parts (']' :: rest) := by
  suffices all : ∀ bound s : Text, s.length ≤ bound.length →
      Appetite.greedy.repeated piecePattern.run bound parts s next =
        (description? false s).bind fun (_, rest) => next parts (']' :: rest) from all s s (Nat.le_refl _)
  intro bound
  induction bound with
  | nil =>
    intro s short
    rw [List.length_eq_zero_iff.1 (Nat.le_zero.1 short)]
    exact stops parts [] (by simp)
  | cons b bound ih =>
    intro s short
    cases s with
    | nil => exact stops parts [] (by simp)
    | cons c s =>
      have shorter : s.length ≤ bound.length := by simpa using short
      simp only [Appetite.repeated, description?]
      by_cases isClosing : c = ']'
      · simp [isClosing, linkPattern.isPlain, piecePattern]
      have ends : next parts (c :: s) = none := stops parts _ (by simpa using isClosing)
      simp only [isClosing, if_false, ends, Option.orElse_eq_orElse, Option.orElse_eq_or, Option.or_none]
      by_cases isBreak : c = '\n'
      · simp [isBreak, linkPattern.isPlain, piecePattern]
      by_cases isOpening : c = '['
      · have bound' : (s.dropWhile linkPattern.isPlain).length ≤ bound.length :=
          Nat.le_trans (List.dropWhile_suffix _).length_le shorter
        have group := description?_group (fun rest => next parts (']' :: rest)) s
        rw [if_neg isBreak, if_pos isOpening, if_neg Bool.false_ne_true, Option.bind_map, isOpening,
          run_piecePattern_group]
        refine Eq.trans ?_ group.symm
        split
        · next s' dropped =>
          rw [dropped] at bound'
          exact ih s' (by simp only [List.length_cons] at bound'; omega)
        · rfl
      · have plain : linkPattern.isPlain c = true := by simp [linkPattern.isPlain, isBreak, isClosing, isOpening]
        rw [run_piecePattern_plain _ plain, ih s shorter, if_neg isBreak, if_neg isOpening, Option.bind_map]
        rfl

/-- Nothing after the first closing parenthesis can fail, so the lazy pattern never looks past it. -/
theorem run_targetPattern (stops : ∀ parts s, s.head? ≠ some ')' → next parts s = none)
    (goesOn : ∀ parts s, (next parts (')' :: s)).isSome) (parts : Parts LinkPart) (s : Text) :
    (Pattern.many .lazy (.one (· != '\n'))).run parts s next =
      (target? s).bind fun (_, rest) => next parts (')' :: rest) := by
  suffices all : ∀ bound s : Text, s.length ≤ bound.length →
      Appetite.lazy.repeated (Pattern.run (.one (· != '\n'))) bound parts s next =
        (target? s).bind fun (_, rest) => next parts (')' :: rest) from all s s (Nat.le_refl _)
  intro bound
  induction bound with
  | nil =>
    intro s short
    rw [List.length_eq_zero_iff.1 (Nat.le_zero.1 short)]
    exact stops parts [] (by simp)
  | cons b bound ih =>
    intro s short
    cases s with
    | nil =>
      simp only [Appetite.repeated, stops parts [] (by simp)]
      rfl
    | cons c s =>
      simp only [Appetite.repeated, target?]
      by_cases isClosing : c = ')'
      · obtain ⟨r, found⟩ := Option.isSome_iff_exists.1 (goesOn parts s)
        simp [isClosing, found]
      have ends : next parts (c :: s) = none := stops parts _ (by simpa using isClosing)
      by_cases isBreak : c = '\n'
      · rw [ends, if_neg isClosing, if_pos isBreak, isBreak]
        rfl
      · have accepted : (c != '\n') = true := by simpa using isBreak
        rw [ends, if_neg isClosing, if_neg isBreak, Pattern.run_one_cons, if_pos accepted,
          ih s (by simpa using short), Option.bind_map]
        rfl

end BracketLink

/-- What a match of the link pattern reads. -/
def Match.link (m : Match LinkPart) : BracketLink where
  description := (m.parts.text? .description).getD []
  target := (m.parts.text? .target).getD []
  rest := m.after

namespace BracketLink

theorem run_openedPattern (whole s : Text) :
    (openedPattern.run [] s fun parts rest => some (Match.mk ⟨whole, rest⟩ parts)).map Match.link =
      opened? s := by
  cases s with
  | nil => rfl
  | cons c s =>
    by_cases isOpening : c = '['
    · subst isOpening
      simp only [openedPattern, Pattern.run_chain_cons, Pattern.run_chain_nil, Pattern.run_literal_cons,
        Pattern.run_literal_nil, Pattern.run_part, Pattern.run_one_cons, beq_self_eq_true, if_true, opened?]
      rw [run_descriptionPattern (by rintro parts (_ | ⟨c, s⟩) other <;> simp_all)]
      cases described : description? false s with
      | none => rfl
      | some read =>
        obtain ⟨d, afterDescription⟩ := read
        simp only [Option.bind_some, Pattern.run_one_cons, beq_self_eq_true, if_true]
        cases afterDescription with
        | nil => rfl
        | cons c afterOpening =>
          by_cases isOpening : c = '('
          · subst isOpening
            simp only [Pattern.run_one_cons, beq_self_eq_true, if_true]
            rw [run_targetPattern (by rintro parts (_ | ⟨c, s⟩) other <;> simp_all) (by simp)]
            cases targeted : target? afterOpening with
            | none => rfl
            | some read =>
              obtain ⟨t, rest⟩ := read
              rw [description?_eq_append described, target?_eq_append targeted]
              simp only [Option.bind_some, Pattern.run_one_cons, beq_self_eq_true, if_true, Option.map_some,
                Option.some.injEq]
              exact BracketLink.ext (Stretch.text_append _ _) (Stretch.text_append _ _) rfl
          · simp [isOpening]
    · simp [openedPattern, isOpening, opened?]

/-- The pattern and the scanner read the same link at the start of a text. -/
theorem matchAt?_linkPattern (s : Text) : (linkPattern.matchAt? s).map Match.link = read? s := by
  have tries : linkPattern.matchAt? s =
      (((Pattern.literal ['!']).run [] s fun parts rest =>
          openedPattern.run parts rest fun parts rest => some (Match.mk ⟨s, rest⟩ parts)) <|>
        openedPattern.run [] s fun parts rest => some (Match.mk ⟨s, rest⟩ parts)) := rfl
  rw [tries]
  cases s with
  | nil => rfl
  | cons c s =>
    by_cases marked : c = '!'
    · have unopened : openedPattern.run [] ('!' :: s) (fun parts rest =>
          some (Match.mk ⟨'!' :: s, rest⟩ parts)) = none := by simp [openedPattern]
      simpa [marked, unopened, read?] using run_openedPattern ('!' :: s) s
    · simpa [marked, read?] using run_openedPattern (c :: s) (c :: s)

/-- The character directly before the opening bracket of a link that is read at the start of a text, where
`before` is the character before the text. -/
def charBefore (before : Option Char) (s : Text) : Option Char :=
  if s.head? = some '[' then before else s.head?

/-- Tries to read a link at each place, from left to right. Where there is one, its target is found, and whether
it is an image, then what `inside` finds in its description alone, and the search goes on after it. -/
def scan (inside : Text → List (Text × Bool)) (before : Option Char) (s : Text) : List (Text × Bool) :=
  match _ : read? s with
  | some l => (l.target, charBefore before s == some '!') :: inside l.description ++ scan inside (some ')') l.rest
  | none =>
    match s with
    | [] => []
    | c :: s => scan inside (some c) s
termination_by s.length
decreasing_by
  · exact read?_shorter ‹_›
  · exact Nat.lt_succ_self _

/-- The links of a text and those in their descriptions, one level deep. -/
def links (text : Text) : List (Text × Bool) := scan (scan (fun _ => []) none) none text

section

variable {inside : Text → List (Text × Bool)}

theorem scan_of_read?_eq_some {s : Text} {l : BracketLink} (found : read? s = some l) (before : Option Char) :
    scan inside before s =
      (l.target, charBefore before s == some '!') :: inside l.description ++ scan inside (some ')') l.rest := by
  rw [scan]
  split
  · next l' found' =>
    cases found.symm.trans found'
    rfl
  · next missed => cases found.symm.trans missed

theorem scan_of_read?_eq_none {c : Char} {s : Text} (missed : read? (c :: s) = none) (before : Option Char) :
    scan inside before (c :: s) = scan inside (some c) s := by
  rw [scan]
  split
  · next l found => cases missed.symm.trans found
  · rfl

theorem scan_nil (before : Option Char) : scan inside before [] = [] := by
  rw [scan]
  split
  · next l found => cases found
  · rfl

end

/-- A search that starts behind an exclamation mark finds no link at once, since the search before it would have
found that link with the mark. So a match begins with the mark wherever one stands before its bracket. -/
theorem findAll_flatMap (inside : Text → List (Text × Bool)) (before : Option Char) (s : Text)
    (marked : before = some '!' → opened? s = none) :
    ((linkPattern.findAll linkPattern_least_pos s).flatMap fun m =>
      (m.link.target, m.onward.head? == some '!') :: inside m.link.description) = scan inside before s := by
  fun_induction scan inside before s with
  | case1 before s l found ih =>
    obtain ⟨m, matched, read⟩ := Option.map_eq_some_iff.1 ((matchAt?_linkPattern s).trans found)
    have behindMark : s.head? = some '[' → before ≠ some '!' := by
      rintro opens rfl
      cases s with
      | nil => cases opens
      | cons c s =>
        cases opens
        cases (marked rfl).symm.trans found
    have image : (m.onward.head? == some '!') = (charBefore before s == some '!') := by
      rw [(Pattern.matchAt?_least matched).1, charBefore]
      split
      · next opens => simp [opens, behindMark opens]
      · rfl
    have after : m.after = l.rest := congrArg rest read
    rw [Pattern.findAll_of_matchAt?_eq_some matched, List.flatMap_cons, after, ih (by simp), image, read]
  | case2 before missed => rw [Pattern.findAll_nil, List.flatMap_nil]
  | case3 before c s missed ih =>
    have unmatched := Option.map_eq_none_iff.1 ((matchAt?_linkPattern (c :: s)).trans missed)
    rw [Pattern.findAll_of_matchAt?_eq_none unmatched]
    apply ih
    rintro ⟨⟩
    exact missed

end BracketLink

/-- The links inside a description that stands alone. -/
theorem Match.nested_eq_scan (m : Match LinkPart) (file : Path) :
    m.nested file = (BracketLink.scan (fun _ => []) none m.link.description).map fun (target, isImage) =>
      Occurrence.mk target file isImage := by
  rw [← BracketLink.findAll_flatMap (fun _ => []) none m.link.description (by simp), List.map_flatMap]
  exact List.map_eq_flatMap

theorem occurrences_eq_scan (text : Text) (file : Path) :
    occurrences text file =
      (BracketLink.scan (BracketLink.scan (fun _ => []) none) none text).map fun (target, isImage) =>
        Occurrence.mk target file isImage := by
  unfold occurrences
  rw [← BracketLink.findAll_flatMap _ none text (by simp), List.map_flatMap]
  refine congrArg (List.flatMap · _) (funext fun m => ?_)
  rw [List.map_cons, ← m.nested_eq_scan]
  rfl

/-- The links that the pattern finds, by the search at once or link by link, are those of the scanner, in its
order. -/
theorem occurrences_eq_links (text : Text) (file : Path) :
    let found := (BracketLink.links text).map fun (target, isImage) => Occurrence.mk target file isImage
    occurrences text file = found ∧ (Cursor.start text file).remaining = found := by
  refine ⟨occurrences_eq_scan text file, ?_⟩
  rw [Cursor.remaining_eq_append]
  exact occurrences_eq_scan text file

end DocLinks
