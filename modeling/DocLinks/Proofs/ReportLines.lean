import DocLinks.Proofs.JsonReport
import DocLinks.Proofs.LinkPlaces
import DocLinks.Proofs.SingleFiles

namespace DocLinks

/-- A text that stays on its line. -/
def Text.OneLine (t : Text) : Prop := '\n' ∉ t

namespace Text

instance (t : Text) : Decidable t.OneLine := inferInstanceAs (Decidable ('\n' ∉ t))

theorem OneLine.append {a b : Text} (first : a.OneLine) (next : b.OneLine) : OneLine (a ++ b) :=
  fun broken => (List.mem_append.1 broken).elim first next

theorem OneLine.of_chars {t : Text} {accepts : Char → Bool} (chars : ∀ c ∈ t, accepts c = true)
    (refused : accepts '\n' = false) : t.OneLine := by
  intro broken
  rw [chars _ broken] at refused
  cases refused

theorem OneLine.dropTrailing {t : Text} (line : t.OneLine) (c : Char) : (Text.dropTrailing c t).OneLine :=
  fun broken => line (mem_of_mem_dropTrailing broken)

theorem oneLine_decimal (n : Nat) : (decimal n).OneLine :=
  .of_chars (fun _ => isDigit_of_mem_decimal) (by decide)

theorem OneLine.intercalate {sep : Text} (apart : sep.OneLine) {pieces : List Text}
    (lines : ∀ piece ∈ pieces, piece.OneLine) : OneLine (List.intercalate sep pieces) := by
  induction pieces with
  | nil => exact List.not_mem_nil
  | cons piece pieces ih =>
    obtain ⟨first, later⟩ := List.forall_mem_cons.1 lines
    cases pieces with
    | nil =>
      rw [List.intercalate_singleton]
      exact first
    | cons next pieces =>
      rw [List.intercalate_cons_cons]
      exact (first.append apart).append (ih later)

end Text

open Text

namespace Path

theorem oneLine_slash : OneLine ['/'] := by decide

theorem oneLine_of_mem_pieces {p : Path} (line : OneLine p) {n : Name} (piece : n ∈ p.pieces) : OneLine n :=
  fun broken => line (mem_of_mem_pieces piece broken).1

theorem oneLine_ofSteps (absolute : Bool) {names : List Name} (lines : ∀ n ∈ names, OneLine n) :
    OneLine (ofSteps absolute names) := by
  have root : OneLine (if absolute then ['/'] else []) := by
    split <;> decide
  exact root.append (.intercalate oneLine_slash lines)

theorem oneLine_joinLexically {base path : Path} (baseLine : OneLine base) (pathLine : OneLine path) :
    OneLine (joinLexically base path) := by
  have steps {p : Path} (line : OneLine p) : ∀ n ∈ p.steps, OneLine n :=
    fun n step => oneLine_of_mem_pieces line (mem_steps.1 step).1
  rw [joinLexically_eq]
  split
  · exact oneLine_ofSteps true (steps pathLine)
  · refine oneLine_ofSteps _ fun n member => ?_
    exact (List.mem_append.1 member).elim (steps baseLine n) (steps pathLine n)

theorem oneLine_join {base path : Path} (baseLine : OneLine base) (pathLine : OneLine path) :
    OneLine (join base path) := by
  unfold join
  split
  · exact pathLine
  split
  · exact pathLine
  · exact baseLine.append pathLine
  · exact baseLine.append (oneLine_slash.append pathLine)

theorem oneLine_folder {p : Path} (line : OneLine p) : OneLine p.folder := by
  have kept {n : Name} (member : n ∈ dropIdleEnd p.pieces) : OneLine n :=
    oneLine_of_mem_pieces line (mem_of_mem_dropIdleEnd member)
  unfold folder parent?
  split
  · exact List.not_mem_nil
  · exact List.not_mem_nil
  · exact List.not_mem_nil
  · next first rest _ _ eq =>
    split
    · exact oneLine_slash
    · refine OneLine.intercalate oneLine_slash fun n member => kept ?_
      rw [eq]
      rcases List.mem_cons.1 (mem_of_mem_dropIdleEnd member) with rfl | later
      · exact List.mem_cons_self
      · exact List.mem_cons_of_mem first ((List.dropLast_sublist rest).mem later)

end Path

namespace BracketLink

/-- A target ends before the end of its line. -/
theorem oneLine_of_target? {s t rest : Text} (read : target? s = some (t, rest)) : OneLine t := by
  induction s generalizing t with
  | nil => cases read
  | cons c s ih =>
    unfold target? at read
    split at read
    · cases read
      exact List.not_mem_nil
    split at read
    · cases read
    · next notBreak =>
      obtain ⟨t', rfl, found⟩ := eq_cons_of_map read
      exact List.not_mem_cons_of_ne_of_not_mem (Ne.symm notBreak) (ih found)

theorem oneLine_of_opened? {s : Text} {l : BracketLink} (read : opened? s = some l) : OneLine l.target := by
  obtain ⟨_, _, -, -, found⟩ := reads_of_opened? read
  exact oneLine_of_target? found

end BracketLink

/-- No link breaks the line, whatever the document. -/
theorem Occurrence.oneLine_link {text : Text} {file : Path} {o : Occurrence} (found : o ∈ occurrences text file) :
    OneLine o.link := by
  rw [← map_placedLinks] at found
  obtain ⟨p, placed, rfl⟩ := List.mem_map.1 found
  obtain ⟨l, opens, same, -⟩ := placedLinks_holds placed
  exact same ▸ BracketLink.oneLine_of_opened? opens

/-- The settings of a scan whose folders all stay on their line. -/
structure Context.OneLine (ctx : Context) : Prop where
  docsRoot : Text.OneLine ctx.docsRoot
  staticRoot : Text.OneLine ctx.staticRoot
  docrootBase : Text.OneLine ctx.docrootBase

/-- What pages fail with stays on its line. -/
def Probe.OneLine (probe : Probe) : Prop := ∀ url detail, probe url = .failed detail → Text.OneLine detail

namespace Context

variable {ctx : Context} {t : Tree} {probe : Probe} {o : Occurrence}

/-- No path that is looked at breaks the line: what is read from a link holds no line break, and nothing else of the
link gets into a path. -/
theorem oneLine_of_aim (lines : ctx.OneLine) (file : Text.OneLine o.file) {kind : FileLink} {path : Path}
    (aimed : ctx.aim o = .file kind path) : Text.OneLine path := by
  have fileChars {t : Text} (chars : ∀ c ∈ t, isFileChar c = true) : Text.OneLine t := .of_chars chars (by decide)
  have pageChars {t : Text} (chars : ∀ c ∈ t, isPageChar c = true) : Text.OneLine t := .of_chars chars (by decide)
  have reads := ctx.site.reads_classify o.link o.isImage
  rw [aim] at aimed
  generalize ctx.site.classify o.link o.isImage = shape at aimed reads
  cases shape with
  | anchor | rawAbsoluteFile | invalid => cases aimed
  | external url =>
    dsimp only at aimed
    split at aimed <;> cases aimed
  | absoluteDoc page version =>
    cases version with
    | some version => cases aimed
    | none =>
      cases aimed
      have page : Text.OneLine page := pageChars reads.page_chars
      exact Path.oneLine_joinLexically lines.docsRoot ((page.dropTrailing '/').append (by decide))
  | absoluteImage path =>
    cases aimed
    obtain ⟨stem, ending, rfl, stemChars, -, words, -⟩ := reads.image_path
    have dot : Text.OneLine ['.'] := by decide
    have path := (pageChars stemChars).append (dot.append (.of_chars words (by decide)))
    exact Path.oneLine_join lines.staticRoot path
  | relativeDoc path =>
    cases aimed
    have path := fileChars (Site.reads_relativeDoc_iff.1 reads).1.1.chars
    exact Path.oneLine_joinLexically (Path.oneLine_folder file) path
  | relativeImage path =>
    cases aimed
    have path := fileChars (Site.reads_relativeImage_iff.1 reads).1.chars
    exact Path.oneLine_joinLexically (Path.oneLine_folder file) path
  | docroot path =>
    cases aimed
    have path := fileChars (Site.reads_docroot_iff.1 reads).1.1.chars
    exact Path.oneLine_joinLexically lines.docrootBase path

/-- No reason breaks the line. -/
theorem oneLine_of_reason (lines : ctx.OneLine) (words : probe.OneLine) (file : Text.OneLine o.file) {reason : Text}
    (broken : ((ctx.aim o).finding t probe).reason? = some reason) : Text.OneLine reason := by
  cases aimed : ctx.aim o with
  | settled | pinned version =>
    rw [aimed] at broken
    cases broken
  | malformed isImage =>
    rw [aimed] at broken
    cases broken
    cases isImage <;> decide
  | page url =>
    rw [aimed] at broken
    have found : (probe url).finding.reason? = some reason := broken
    cases answer : probe url with
    | failed detail =>
      rw [answer] at found
      cases found
      exact OneLine.append (by decide) (words url detail answer)
    | status code =>
      rw [answer, ProbeOutcome.finding] at found
      split at found
      · cases found
        exact OneLine.append (by decide) (oneLine_decimal code)
      · cases found
  | file kind path =>
    have path := oneLine_of_aim lines file aimed
    rw [aimed, Aim.finding, FileLink.finding] at broken
    split at broken
    · cases broken
    · cases broken
      have opening : Text.OneLine (if kind.isImage then "Image ".toList else "Linked file ".toList) := by
        split <;> decide
      exact (opening.append path).append (by decide)

end Context

/-- A broken link whose texts all stay on their line. -/
structure Failure.OneLine (f : Failure) : Prop where
  link : Text.OneLine f.link
  file : Text.OneLine f.file
  reason : Text.OneLine f.reason

theorem Failure.OneLine.display {f : Failure} (lines : f.OneLine) : Text.OneLine f.display :=
  (((lines.reason.append (by decide)).append lines.file).append (by decide)).append lines.link

theorem Outcome.oneLine_banner : ∀ line ∈ banner, Text.OneLine line := by decide

/-- The report is put together from its lines so that they can be told apart again. -/
theorem Outcome.splitOn_text {o : Outcome} (broken : o.broken ≠ []) (lines : ∀ f ∈ o.broken, f.OneLine) :
    Text.splitOn '\n' o.text = banner ++ o.broken.map Failure.display := by
  have text : o.text = List.intercalate ['\n'] (banner ++ o.broken.map Failure.display) := by
    rw [Outcome.text, if_neg (by simpa using broken)]
  rw [Text.splitOn_eq, text]
  refine List.splitOn_intercalate '\n' (fun line member => ?_) (by simp [banner])
  rcases List.mem_append.1 member with heading | listed
  · exact oneLine_banner line heading
  · obtain ⟨f, isBroken, rfl⟩ := List.mem_map.1 listed
    exact (lines f isBroken).display

namespace Context

variable {ctx : Context} {t : Tree} {probe : Probe}

theorem oneLine_of_check (lines : ctx.OneLine) (words : probe.OneLine) {text : Text} {file : Path}
    (fileLine : Text.OneLine file) {f : Failure} (broken : f ∈ (ctx.checkText t probe text file).broken) :
    f.OneLine := by
  obtain ⟨verdict, listed, failure⟩ := List.mem_filterMap.1 broken
  obtain ⟨o, found, rfl⟩ := List.mem_map.1 listed
  obtain ⟨reason, reasoned, rfl⟩ := Option.map_eq_some_iff.1 failure
  have ofFile : Text.OneLine o.file := Occurrence.file_of_mem_occurrences found ▸ fileLine
  exact ⟨Occurrence.oneLine_link found, ofFile, oneLine_of_reason lines words ofFile reasoned⟩

theorem oneLine_of_scan (lines : ctx.OneLine) (words : probe.OneLine) {root : Path}
    (names : ∀ files, t.markdownFiles root = .ok files → ∀ file ∈ files, Text.OneLine file) {outcome : Outcome}
    (succeeds : (ctx.scan t probe root).result = .ok outcome) : ∀ f ∈ outcome.broken, f.OneLine := by
  cases listed : t.markdownFiles root with
  | error e =>
    rw [scan, listed] at succeeds
    cases succeeds
  | ok files =>
    obtain ⟨checks, checked, rfl⟩ := checkFiles_of_result listed succeeds
    obtain ⟨ofFiles, sound⟩ := checked_of_checkFiles checked
    intro f broken
    obtain ⟨entry, isPart, inEntry⟩ := List.mem_flatMap.1 broken
    obtain ⟨text, -, check⟩ := checkFile_eq_ok.1 (sound entry isPart)
    have isListed : entry.1 ∈ files := ofFiles ▸ List.mem_map_of_mem isPart
    exact oneLine_of_check lines words (names files listed _ isListed) (check ▸ inEntry)

/-- The text report has one line for each broken link. No link holds a line break, whatever the document, and no
reason does where the files, the folders and the words of the network hold none. So the report is the heading
followed by the broken links, line by line, and tells the same ones in the same order as the report in JSON. -/
theorem report_line_by_line (lines : ctx.OneLine) (words : probe.OneLine) {root : Path}
    (names : ∀ files, t.markdownFiles root = .ok files → ∀ file ∈ files, Text.OneLine file) {outcome : Outcome}
    (succeeds : (ctx.scan t probe root).result = .ok outcome) (broken : outcome.broken ≠ []) :
    let reported := Text.splitOn '\n' outcome.text
    reported = Outcome.banner ++ outcome.broken.map Failure.display ∧
    reported.length = 3 + outcome.broken.length ∧
    (∀ i f, outcome.broken[i]? = some f →
      reported[3 + i]? = some (f.reason ++ ": File: ".toList ++ f.file ++ ", Link: ".toList ++ f.link)) ∧
    (∃ v, Json.IsDocument outcome.json v) ∧
    (∀ v, Json.IsDocument outcome.json v → ∃ read, Outcome.ofValue? v = some read ∧
      reported.drop 3 = read.broken.map Failure.display) ∧
    (∀ text file, ∀ o ∈ occurrences text file, Text.OneLine o.link) ∧
    ∀ text file, Text.OneLine file → ∀ o ∈ occurrences text file, ∀ f,
      (ctx.check t probe o).failure? = some f → Text.OneLine f.reason := by
  intro reported
  have split : reported = Outcome.banner ++ outcome.broken.map Failure.display :=
    Outcome.splitOn_text broken (oneLine_of_scan lines words names succeeds)
  have three : Outcome.banner.length = 3 := rfl
  refine ⟨split, ?_, ?_, ⟨_, (outcome.isDocument_json_iff _).2 rfl⟩, ?_, ?_, ?_⟩
  · rw [split, List.length_append, List.length_map, three]
  · intro i f listed
    rw [split, ← three, List.getElem?_append_right (Nat.le_add_right _ _), Nat.add_sub_cancel_left, List.getElem?_map,
      listed]
    rfl
  · intro v document
    obtain rfl := (outcome.isDocument_json_iff v).1 document
    exact ⟨outcome, outcome.ofValue?_value, by rw [split, ← three, List.drop_left]⟩
  · exact fun text file o found => Occurrence.oneLine_link found
  · intro text file fileLine o found f failure
    obtain ⟨reason, reasoned, rfl⟩ := Option.map_eq_some_iff.1 failure
    exact oneLine_of_reason lines words (Occurrence.file_of_mem_occurrences found ▸ fileLine) reasoned

/-- Two broken links of a document whose first link is broken off by the end of its line. -/
theorem report_line_by_line_two :
    let t : Tree := ⟨[(["a.md".toList], .file (.ofText "[x](y\nz.md) [b](./gone.md)\n[c](http://c)".toList))], []⟩
    let ctx : Context := ⟨"docs".toList, "static".toList, "docs".toList, "static".toList, ".".toList, false⟩
    let refuse : Probe := fun _ => .failed "connection closed".toList
    let missing : Failure := ⟨"./gone.md".toList, "a.md".toList, "Linked file gone.md not found".toList⟩
    let silent : Failure :=
      ⟨"http://c".toList, "a.md".toList, "External link raised a connection error: connection closed".toList⟩
    let outcome : Outcome := ⟨1, 2, [missing, silent]⟩
    (ctx.scan t refuse "a.md".toList).result = .ok outcome ∧
      Text.splitOn '\n' outcome.text = Outcome.banner ++ [missing.display, silent.display] := by
  intro t ctx refuse missing silent outcome
  have listed : t.markdownFiles "a.md".toList = .ok ["a.md".toList] := by decide +kernel
  have scanned : (ctx.scan t refuse "a.md".toList).result = .ok outcome := by decide +kernel
  have lines : ctx.OneLine := ⟨by decide, by decide, by decide⟩
  have words : Probe.OneLine refuse := by
    rintro url detail ⟨⟩
    decide
  have names : ∀ files, t.markdownFiles "a.md".toList = .ok files → ∀ file ∈ files, Text.OneLine file := by
    intro files found
    cases listed.symm.trans found
    decide
  exact ⟨scanned, (report_line_by_line lines words names scanned (by simp [outcome])).1⟩

end Context

end DocLinks
