import DocLinks.Occurrence

namespace DocLinks

deriving instance DecidableEq for Cursor

theorem occurrences_of_find?_eq_none {text : Text} (file : Path) (none : linkPattern.find? text = none) :
    occurrences text file = [] := by
  unfold occurrences
  rw [Pattern.findAll]
  split
  · rfl
  · next m some => cases some.symm.trans none

theorem occurrences_of_find?_eq_some {text : Text} {m : Match LinkPart} (file : Path)
    (some : linkPattern.find? text = some m) :
    occurrences text file = m.occurrence file :: m.nested file ++ occurrences m.after file := by
  unfold occurrences
  rw [Pattern.findAll]
  split
  · next none => cases none.symm.trans some
  · next m' found =>
    cases found.symm.trans some
    rfl

theorem Cursor.remaining_of_next?_eq_some {cursor cursor' : Cursor} {o : Occurrence}
    (advanced : cursor.next? = some (o, cursor')) : cursor.remaining = o :: cursor'.remaining := by
  rw [remaining]
  split
  · next ended => cases advanced.symm.trans ended
  · next found =>
    cases advanced.symm.trans found
    rfl

theorem Cursor.remaining_of_next?_eq_none {cursor : Cursor} (ended : cursor.next? = none) :
    cursor.remaining = [] := by
  rw [remaining]
  split
  · rfl
  · next found => cases ended.symm.trans found

/-- The links waiting come first, then those of the text not yet searched. -/
theorem Cursor.remaining_eq_append (c : Cursor) : c.remaining = c.waiting ++ occurrences c.rest c.file := by
  fun_induction remaining c with
  | case1 c ended =>
    obtain ⟨file, waiting, rest⟩ := c
    cases waiting with
    | nil =>
      have none : linkPattern.find? rest = none := Option.map_eq_none_iff.1 ended
      rw [occurrences_of_find?_eq_none file none, List.append_nil]
    | cons o waiting => cases ended
  | case2 c o c' advanced ih =>
    obtain ⟨file, waiting, rest⟩ := c
    cases waiting with
    | nil =>
      obtain ⟨m, found, eq⟩ := Option.map_eq_some_iff.1 advanced
      cases eq
      rw [ih, occurrences_of_find?_eq_some file found]
      rfl
    | cons o waiting =>
      cases advanced
      rw [ih]
      rfl

theorem Cursor.remaining_start (text : Text) (file : Path) :
    (start text file).remaining = occurrences text file :=
  remaining_eq_append _

end DocLinks
