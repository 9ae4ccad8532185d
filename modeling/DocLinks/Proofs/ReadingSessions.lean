import DocLinks.Proofs.Cursors

namespace DocLinks

/-- A way to read links one after the other: from a place, the next link with the place after it, and all links that
are left. -/
structure LinkReader (Place : Type) where
  next? : Place → Option (Occurrence × Place)
  remaining : Place → List Occurrence

namespace LinkReader

/-- Places in a list: how many of its links are behind. -/
def ofList (links : List Occurrence) : LinkReader Nat where
  next? i := links[i]?.map (·, i + 1)
  remaining i := links.drop i

/-- What is asked of a reader. Counting and listing look at a copy; saving keeps one. -/
inductive Call
  | next
  | count
  | list
  | save
  | restore

inductive Answer
  | link (found : Option Occurrence)
  | count (links : Nat)
  | list (links : List Occurrence)
  | saved
  | restored
deriving DecidableEq

/-- The place that is read on from, and the one that was saved last. -/
structure Session (Place : Type) where
  current : Place
  saved : Place

variable {P Q : Type}

def answer (r : LinkReader P) (s : Session P) : Call → Answer × Session P
  | .next =>
    match r.next? s.current with
    | some (o, later) => (.link (some o), { s with current := later })
    | none => (.link none, s)
  | .count => (.count (r.remaining s.current).length, s)
  | .list => (.list (r.remaining s.current), s)
  | .save => (.saved, { s with saved := s.current })
  | .restore => (.restored, { s with current := s.saved })

/-- The answers to calls made one after the other. -/
def answers (r : LinkReader P) : Session P → List Call → List Answer
  | _, [] => []
  | s, call :: calls => (r.answer s call).1 :: r.answers (r.answer s call).2 calls

/-- Where calls made one after the other lead. -/
def afterwards (r : LinkReader P) : Session P → List Call → Session P
  | s, [] => s
  | s, call :: calls => r.afterwards (r.answer s call).2 calls

/-- A relation between the places of two readers that no call can tell apart. -/
structure Simulation (r : LinkReader P) (r' : LinkReader Q) (Alike : P → Q → Prop) : Prop where
  remaining {p : P} {q : Q} : Alike p q → r.remaining p = r'.remaining q
  next {p p' : P} {q : Q} {o : Occurrence} : Alike p q → r.next? p = some (o, p') →
    ∃ q', r'.next? q = some (o, q') ∧ Alike p' q'
  ended {p : P} {q : Q} : Alike p q → r.next? p = none → r'.next? q = none

structure Session.Related (Alike : P → Q → Prop) (s : Session P) (s' : Session Q) : Prop where
  current : Alike s.current s'.current
  saved : Alike s.saved s'.saved

namespace Simulation

variable {r : LinkReader P} {r' : LinkReader Q} {Alike : P → Q → Prop} {s : Session P} {s' : Session Q}

theorem answer (simulation : r.Simulation r' Alike) (alike : Session.Related Alike s s') (call : Call) :
    (r.answer s call).1 = (r'.answer s' call).1 ∧
      Session.Related Alike (r.answer s call).2 (r'.answer s' call).2 := by
  cases call with
  | next =>
    cases found : r.next? s.current with
    | none =>
      have found' := simulation.ended alike.current found
      simp only [LinkReader.answer, found, found']
      exact ⟨trivial, alike⟩
    | some result =>
      obtain ⟨o, later⟩ := result
      obtain ⟨later', found', alikeLater⟩ := simulation.next alike.current found
      simp only [LinkReader.answer, found, found']
      exact ⟨trivial, alikeLater, alike.saved⟩
  | count =>
    simp only [LinkReader.answer, simulation.remaining alike.current]
    exact ⟨trivial, alike⟩
  | list =>
    simp only [LinkReader.answer, simulation.remaining alike.current]
    exact ⟨trivial, alike⟩
  | save => exact ⟨rfl, alike.current, alike.current⟩
  | restore => exact ⟨rfl, alike.saved, alike.saved⟩

theorem answers (simulation : r.Simulation r' Alike) (alike : Session.Related Alike s s') (calls : List Call) :
    r.answers s calls = r'.answers s' calls ∧
      Session.Related Alike (r.afterwards s calls) (r'.afterwards s' calls) := by
  induction calls generalizing s s' with
  | nil => exact ⟨rfl, alike⟩
  | cons call calls ih =>
    obtain ⟨first, later⟩ := simulation.answer alike call
    obtain ⟨rest, last⟩ := ih later
    refine ⟨?_, last⟩
    rw [LinkReader.answers, LinkReader.answers, first, rest]

end Simulation

end LinkReader

namespace Cursor

def reader : LinkReader Cursor := ⟨next?, remaining⟩

variable {text : Text} {file : Path} {c c' : Cursor} {o : Occurrence}

/-- Where a cursor is: the links that it has still to hand out are those of the document without the first `i`, and
what it has still to search is an end of the text. -/
structure Tracks (text : Text) (file : Path) (c : Cursor) (i : Nat) : Prop where
  left : c.remaining = (occurrences text file).drop i
  within : c.rest <:+ text

theorem tracks_start (text : Text) (file : Path) : Tracks text file (start text file) 0 :=
  ⟨remaining_start text file, List.suffix_refl text⟩

theorem rest_suffix (found : c.next? = some (o, c')) : c'.rest <:+ c.rest := by
  unfold next? at found
  split at found
  · cases found
    exact List.suffix_refl c.rest
  · obtain ⟨m, matched, eq⟩ := Option.map_eq_some_iff.1 found
    cases eq
    obtain ⟨begins, ends, -⟩ := Pattern.find?_least matched
    exact ends.trans begins

theorem simulation (text : Text) (file : Path) :
    reader.Simulation (.ofList (occurrences text file)) (Tracks text file) where
  remaining := Tracks.left
  next {c c' i o} tracks found := by
    have left := tracks.left
    rw [remaining_of_next?_eq_some found] at left
    have here : (occurrences text file)[i]? = some o := by
      rw [← List.head?_drop, ← left, List.head?_cons]
    have later : c'.remaining = (occurrences text file).drop (i + 1) := by
      rw [← List.tail_drop, ← left, List.tail_cons]
    exact ⟨i + 1, congrArg (Option.map (·, i + 1)) here, later, (rest_suffix found).trans tracks.within⟩
  ended {c i} tracks ended := by
    have left := tracks.left
    rw [remaining_of_next?_eq_none ended] at left
    have nothing : (occurrences text file)[i]? = none := by
      rw [← List.head?_drop, ← left, List.head?_nil]
    exact congrArg (Option.map (·, i + 1)) nothing

/-- The position of a cursor in octets: it is the size in UTF-8 of a beginning of the text, so that it is between two
characters. -/
def IsAt (text : Text) (c : Cursor) (position : Nat) : Prop :=
  ∃ searched, text = searched ++ c.rest ∧ position = Text.utf8Size searched

/-- A search that finds a link goes past it, which takes four characters at least. -/
theorem search_moves (within : c.rest <:+ text) (searches : c.waiting = []) (found : c.next? = some (o, c')) :
    ∃ n n', IsAt text c n ∧ IsAt text c' n' ∧ n + 4 ≤ n' ∧ n' ≤ Text.utf8Size text := by
  simp only [next?, searches] at found
  obtain ⟨m, matched, eq⟩ := Option.map_eq_some_iff.1 found
  cases eq
  obtain ⟨begins, ends, -⟩ := Pattern.find?_least matched
  obtain ⟨searched, whole⟩ := within
  obtain ⟨passed, split⟩ := ends.trans begins
  have shorter := Pattern.find?_shorter matched
  rw [linkPattern_least, ← split, List.length_append] at shorter
  have size := Text.length_le_utf8Size passed
  have after : text = searched ++ passed ++ m.after := by rw [List.append_assoc, split, whole]
  refine ⟨_, _, ⟨searched, whole.symm, rfl⟩, ⟨searched ++ passed, after, rfl⟩, ?_, ?_⟩
  · rw [Text.utf8Size_append]
    omega
  · rw [after, Text.utf8Size_append (searched ++ passed)]
    omega

end Cursor

open LinkReader in
/-- Whatever is asked of the reader of a document, with copies taken and gone back to at any time, the answers are those
of a place in the list of the document's links. Whenever the reader searches the text for the next link and finds one,
its position moves on by four octets at least, to a place between two characters or at the end of the text. -/
theorem reader_answers_as_list (text : Text) (file : Path) (calls : List Call) :
    let opened : Session Cursor := ⟨.start text file, .start text file⟩
    let reached := (Cursor.reader.afterwards opened calls).current
    Cursor.reader.answers opened calls = (ofList (occurrences text file)).answers ⟨0, 0⟩ calls ∧
    ∀ o later, reached.waiting = [] → reached.next? = some (o, later) →
      ∃ n n', reached.IsAt text n ∧ later.IsAt text n' ∧ n + 4 ≤ n' ∧ n' ≤ Text.utf8Size text := by
  intro opened reached
  have start := Cursor.tracks_start text file
  have alike : Session.Related (Cursor.Tracks text file) opened ⟨0, 0⟩ := ⟨start, start⟩
  obtain ⟨same, related⟩ := (Cursor.simulation text file).answers alike calls
  exact ⟨same, fun o later => Cursor.search_moves related.current.within⟩

open LinkReader in
/-- A copy taken between a link and the image in its description, and used again after the end. -/
theorem reader_answers_as_list_nested :
    let text := "é[![d](e)](f) [g](h)".toList
    let file := "a.md".toList
    let opened : Session Cursor := ⟨.start text file, .start text file⟩
    let outer : Occurrence := ⟨"f".toList, file, false⟩
    let image : Occurrence := ⟨"e".toList, file, true⟩
    let last : Occurrence := ⟨"h".toList, file, false⟩
    Cursor.reader.answers opened [.next, .save, .next, .next, .next, .next, .restore, .count, .list, .next] =
      [.link outer, .saved, .link image, .link last, .link none, .link none, .restored, .count 2,
        .list [image, last], .link image] ∧
    ∃ later, (Cursor.start text file).next? = some (outer, later) ∧
      ∃ n n', (Cursor.start text file).IsAt text n ∧ later.IsAt text n' ∧ n + 4 ≤ n' ∧ n' ≤ 21 := by
  intro text file opened outer image last
  have links : occurrences text file = [outer, image, last] := by decide +kernel
  have found : (Cursor.start text file).next? = some (outer, ⟨file, [image], " [g](h)".toList⟩) := by
    decide +kernel
  obtain ⟨same, -⟩ := reader_answers_as_list text file
    [.next, .save, .next, .next, .next, .next, .restore, .count, .list, .next]
  obtain ⟨-, moves⟩ := reader_answers_as_list text file []
  refine ⟨same.trans ?_, _, found, moves _ _ rfl found⟩
  rw [links]
  rfl

end DocLinks
