import DocLinks.Check
import DocLinks.Proofs.BracketScan
import Mathlib.Algebra.Ring.Nat

namespace DocLinks

namespace BracketLink

/-- The same link in a text that goes on with another line. -/
def withLine (line : Text) (l : BracketLink) : BracketLink := { l with rest := l.rest ++ '\n' :: line }

theorem description?_append_line (inGroup : Bool) (s line : Text) :
    description? inGroup (s ++ '\n' :: line) =
      (description? inGroup s).map fun (d, rest) => (d, rest ++ '\n' :: line) := by
  induction s generalizing inGroup with
  | nil => rfl
  | cons c s ih =>
    rw [List.cons_append, description?, description?]
    by_cases isBreak : c = '\n'
    · rw [if_pos isBreak, if_pos isBreak, Option.map_none]
    rw [if_neg isBreak, if_neg isBreak, ih, ih, ih]
    by_cases isClosing : c = ']'
    · cases inGroup <;> simp [isClosing, Function.comp_def]
    rw [if_neg isClosing, if_neg isClosing]
    by_cases isOpening : c = '['
    · cases inGroup <;> simp [isOpening, Function.comp_def]
    · simp [isOpening, Function.comp_def]

theorem target?_append_line (s line : Text) :
    target? (s ++ '\n' :: line) = (target? s).map fun (t, rest) => (t, rest ++ '\n' :: line) := by
  induction s with
  | nil => rfl
  | cons c s ih =>
    rw [List.cons_append, target?, target?, ih]
    by_cases isClosing : c = ')'
    · simp [isClosing]
    rw [if_neg isClosing, if_neg isClosing]
    by_cases isBreak : c = '\n'
    · simp [isBreak]
    · simp [isBreak, Function.comp_def]

theorem opened?_append_line (s line : Text) :
    opened? (s ++ '\n' :: line) = (opened? s).map (withLine line) := by
  cases s with
  | nil => rfl
  | cons c s =>
    by_cases opens : c = '['
    · subst opens
      simp only [List.cons_append, opened?, description?_append_line]
      cases description? false s with
      | none => rfl
      | some read =>
        obtain ⟨d, rest⟩ := read
        cases rest with
        | nil => rfl
        | cons c rest =>
          by_cases opens : c = '('
          · subst opens
            simp only [Option.map_some, List.cons_append, target?_append_line, Option.map_map]
            rfl
          · simp [opens]
    · have closed (s : Text) : opened? (c :: s) = none := opened?_eq_none (by simpa using opens)
      rw [List.cons_append, closed, closed, Option.map_none]

/-- An attempt to read a link never looks past the end of the line. -/
theorem read?_append_line (s line : Text) : read? (s ++ '\n' :: line) = (read? s).map (withLine line) := by
  cases s with
  | nil => rfl
  | cons c s =>
    by_cases marked : c = '!'
    · subst marked
      exact opened?_append_line s line
    · have unmarked (s : Text) : read? (c :: s) = opened? (c :: s) := by simp [read?, marked]
      rw [List.cons_append, unmarked, unmarked, ← List.cons_append, opened?_append_line]

variable {inside : Text → List (Text × Bool)}

/-- All that a search has to know of the text before is whether it ends with an exclamation mark. -/
theorem scan_of_unmarked {before : Option Char} (unmarked : before ≠ some '!') (s : Text) :
    scan inside before s = scan inside none s := by
  cases found : read? s with
  | some l =>
    have image : (charBefore before s == some '!') = (charBefore none s == some '!') := by
      unfold charBefore
      split
      · simpa using unmarked
      · rfl
    rw [scan_of_read?_eq_some found, scan_of_read?_eq_some found, image]
  | none =>
    cases s with
    | nil => rw [scan_nil, scan_nil]
    | cons c s => rw [scan_of_read?_eq_none found, scan_of_read?_eq_none found]

theorem scan_append_line (before : Option Char) (s line : Text) :
    scan inside before (s ++ '\n' :: line) = scan inside before s ++ scan inside none line := by
  fun_induction scan inside before s with
  | case1 before s l found ih =>
    have found' : read? (s ++ '\n' :: line) = some (l.withLine line) := by
      rw [read?_append_line, found, Option.map_some]
    have preceding : charBefore before (s ++ '\n' :: line) = charBefore before s := by
      cases s with
      | nil => cases found
      | cons c s => rfl
    rw [scan_of_read?_eq_some found', preceding]
    simp only [withLine, ih, List.cons_append, List.append_assoc]
  | case2 before missed =>
    have missed' : read? ('\n' :: line) = none := rfl
    rw [List.nil_append, List.nil_append, scan_of_read?_eq_none missed']
    exact scan_of_unmarked (by simp) line
  | case3 before c s missed ih =>
    have missed' : read? (c :: (s ++ '\n' :: line)) = none := by
      rw [← List.cons_append, read?_append_line, missed, Option.map_none]
    rw [List.cons_append, scan_of_read?_eq_none missed', ih]

end BracketLink

theorem occurrences_append_line (s line : Text) (file : Path) :
    occurrences (s ++ '\n' :: line) file = occurrences s file ++ occurrences line file := by
  simp only [occurrences_eq_scan, BracketLink.scan_append_line, List.map_append]

theorem occurrences_intercalate (lines : List Text) (file : Path) :
    occurrences (List.intercalate ['\n'] lines) file = lines.flatMap (occurrences · file) := by
  induction lines with
  | nil => rw [List.intercalate_nil, occurrences_eq_scan, BracketLink.scan_nil, List.map_nil, List.flatMap_nil]
  | cons line lines ih =>
    cases lines with
    | nil => rw [List.intercalate_singleton, List.flatMap_singleton]
    | cons next lines =>
      rw [List.intercalate_cons_cons, List.append_assoc, List.singleton_append, occurrences_append_line, ih]
      rfl

/-- The checks of several documents, taken as one. -/
def TextCheck.concat (checks : List TextCheck) : TextCheck where
  linksChecked := (checks.map (·.linksChecked)).sum
  broken := checks.flatMap (·.broken)
  diagnostics := checks.flatMap (·.diagnostics)
  probed := checks.flatMap (·.probed)

theorem TextCheck.ofVerdicts_flatMap {α : Type} (parts : List α) (verdicts : α → List Verdict) :
    ofVerdicts (parts.flatMap verdicts) = concat (parts.map fun part => ofVerdicts (verdicts part)) := by
  simp [ofVerdicts, concat, List.flatMap_assoc, List.filterMap_flatMap, List.length_flatMap, Function.comp_def,
    List.flatMap_map]

/-- A document is checked as its lines are checked one after the other: no bracket, closed or not, reaches into
another line, be it to make a link or to keep one from being found. -/
theorem checkText_line_by_line (ctx : Context) (t : Tree) (probe : Probe) (file : Path) :
    (∀ a b : Text,
      occurrences (a ++ '\n' :: b) file = occurrences a file ++ occurrences b file ∧
      (Cursor.start (a ++ '\n' :: b) file).remaining =
        (Cursor.start a file).remaining ++ (Cursor.start b file).remaining ∧
      let first := ctx.checkText t probe a file
      let second := ctx.checkText t probe b file
      ctx.checkText t probe (a ++ '\n' :: b) file =
        ⟨first.linksChecked + second.linksChecked, first.broken ++ second.broken,
          first.diagnostics ++ second.diagnostics, first.probed ++ second.probed⟩) ∧
    ∀ text : Text,
      let lines := Text.splitOn '\n' text
      occurrences text file = lines.flatMap (occurrences · file) ∧
      let checks := lines.map (ctx.checkText t probe · file)
      ctx.checkText t probe text file =
        ⟨(checks.map (·.linksChecked)).sum, checks.flatMap (·.broken), checks.flatMap (·.diagnostics),
          checks.flatMap (·.probed)⟩ := by
  have apart (lines : List Text) : ctx.checkText t probe (List.intercalate ['\n'] lines) file =
      .concat (lines.map (ctx.checkText t probe · file)) := by
    rw [Context.checkText, occurrences_intercalate, List.map_flatMap, TextCheck.ofVerdicts_flatMap]
    rfl
  constructor
  · intro a b
    have two : List.intercalate ['\n'] [a, b] = a ++ '\n' :: b := by simp [List.intercalate]
    have all := apart [a, b]
    rw [two] at all
    have found := occurrences_append_line a b file
    refine ⟨found, ?_, ?_⟩
    · simp only [Cursor.remaining_start, found]
    · simpa [TextCheck.concat] using all
  · intro text
    have whole := Text.intercalate_splitOn '\n' text
    have found := occurrences_intercalate (Text.splitOn '\n' text) file
    have all := apart (Text.splitOn '\n' text)
    rw [whole] at found all
    exact ⟨found, all⟩

example : occurrences "[a](b\n[c\n](d) [e](f)".toList [] = [⟨"f".toList, [], false⟩] := by
  decide +kernel

end DocLinks
