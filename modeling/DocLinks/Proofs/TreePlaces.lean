import DocLinks.Proofs.PathSteps
import DocLinks.Tree.Walk

namespace DocLinks

/-- A name that a folder can hold. -/
structure Name.IsProper (n : Name) : Prop where
  busy : Path.isIdle n = false
  notUp : n ≠ ['.', '.']
  noSlash : '/' ∉ n
  noNul : '\x00' ∉ n
  short : Text.utf8Size n ≤ Tree.nameLimit

theorem Name.isProper_iff {n : Name} :
    n.IsProper ↔ Path.isIdle n = false ∧ n ≠ ['.', '.'] ∧ '/' ∉ n ∧ '\x00' ∉ n ∧
      Text.utf8Size n ≤ Tree.nameLimit :=
  ⟨fun ⟨busy, notUp, noSlash, noNul, short⟩ => ⟨busy, notUp, noSlash, noNul, short⟩,
    fun ⟨busy, notUp, noSlash, noNul, short⟩ => ⟨busy, notUp, noSlash, noNul, short⟩⟩

instance (n : Name) : Decidable n.IsProper := decidable_of_iff _ Name.isProper_iff.symm

theorem Name.IsProper.relative {n : Name} (proper : n.IsProper) : Path.isAbsolute n = false :=
  Path.isAbsolute_of_not_mem proper.noSlash

theorem Name.IsProper.steps {n : Name} (proper : n.IsProper) : Path.steps n = [n] := by
  rw [Path.steps, Path.pieces_of_not_mem proper.noSlash]
  simp [proper.busy]

namespace Path

/-- The path of what is reached from `root` by names, one below the other. -/
def descend (root : Path) (names : List Name) : Path := names.foldl join root

theorem steps_descend (root : Path) {names : List Name} (proper : ∀ n ∈ names, n.IsProper) :
    (root.descend names).steps = root.steps ++ names := by
  induction names generalizing root with
  | nil => exact (List.append_nil _).symm
  | cons name names ih =>
    have first := proper name List.mem_cons_self
    have rest := ih (root.join name) fun n member => proper n (List.mem_cons_of_mem name member)
    rw [descend, List.foldl_cons, ← descend, rest, steps_join first.relative, first.steps, List.append_assoc]
    rfl

theorem descend_injective {root : Path} {left right : List Name} (properLeft : ∀ n ∈ left, n.IsProper)
    (properRight : ∀ n ∈ right, n.IsProper) (same : root.descend left = root.descend right) : left = right := by
  have steps := congrArg steps same
  rw [steps_descend root properLeft, steps_descend root properRight] at steps
  exact List.append_cancel_left steps

end Path

namespace Tree

/-- Whether an entry has a proper name and stands in a folder. -/
def Holds (t : Tree) : Location × Entry → Prop
  | ([], _) => True
  | (name :: above, _) => name.IsProper ∧ t.lookup? above = some .folder

instance (t : Tree) : (e : Location × Entry) → Decidable (t.Holds e)
  | ([], _) => inferInstanceAs (Decidable True)
  | (_ :: _, _) => inferInstanceAs (Decidable (_ ∧ _))

/-- What every tree on a disk fulfils. -/
def WellFormed (t : Tree) : Prop := ∀ e ∈ t.entries, t.Holds e

instance (t : Tree) : Decidable t.WellFormed := inferInstanceAs (Decidable (∀ e ∈ t.entries, t.Holds e))

theorem WellFormed.holds {t : Tree} (formed : t.WellFormed) {name : Name} {above : Location} {entry : Entry}
    (found : t.lookup? (name :: above) = some entry) : name.IsProper ∧ t.lookup? above = some .folder :=
  formed _ (mem_entries found)

theorem WellFormed.tail {t : Tree} (formed : t.WellFormed) {place : Location}
    (folder : t.lookup? place = some .folder) : t.lookup? place.tail = some .folder := by
  cases place with
  | nil => exact folder
  | cons name above => exact (formed.holds folder).2

/-- A place where a path can lead: symbolic links are never its end. -/
def IsEnd (t : Tree) (place : Location) : Prop :=
  t.lookup? place = some .folder ∨ ∃ content, t.lookup? place = some (.file content)

/-- Where one piece of a path leads: to a place, or through a symbolic link, whose target is followed from a
place of its own. -/
inductive Turn
  | to (place : Location)
  | through (origin : Location) (target : Path)

def turn (t : Tree) (place : Location) (piece : Name) : Except FileError Turn :=
  match t.lookup? place with
  | some .folder =>
    if Path.isIdle piece then .ok (.to place)
    else if piece = ['.', '.'] then .ok (.to place.tail)
    else if nameLimit < Text.utf8Size piece then .error .nameTooLong
    else
      match t.lookup? (piece :: place) with
      | none => .error .notFound
      | some (.link target) => .ok (.through (if target.isAbsolute then [] else place) target)
      | some _ => .ok (.to (piece :: place))
  | _ => .error .notFolder

theorem followWith_cons (t : Tree) (onLink : Location → List Name → Except FileError Location) (place : Location)
    (piece : Name) (rest : List Name) :
    t.followWith onLink place (piece :: rest) =
      match t.turn place piece with
      | .error cause => .error cause
      | .ok (.to next) => t.followWith onLink next rest
      | .ok (.through origin target) => onLink origin (target.pieces ++ rest) := by
  rw [followWith, turn]
  repeat' split
  all_goals simp_all

theorem turn_idle {t : Tree} {place : Location} {piece : Name} (idle : Path.isIdle piece = true)
    (folder : t.lookup? place = some .folder) : t.turn place piece = .ok (.to place) := by
  simp only [turn, folder, idle, if_true]

theorem turn_of_not_folder {t : Tree} {place : Location} (other : t.lookup? place ≠ some .folder) (piece : Name) :
    t.turn place piece = .error .notFolder := by
  unfold turn
  split
  · contradiction
  · rfl

theorem turn_proper {t : Tree} {place : Location} {name : Name} (proper : name.IsProper)
    (folder : t.lookup? place = some .folder) :
    t.turn place name =
      match t.lookup? (name :: place) with
      | none => .error .notFound
      | some (.link target) => .ok (.through (if target.isAbsolute then [] else place) target)
      | some _ => .ok (.to (name :: place)) := by
  obtain ⟨busy, notUp, -, -, short⟩ := proper
  simp only [turn, folder, busy, notUp, if_false, Nat.not_lt.2 short, Bool.false_eq_true]

theorem WellFormed.isEnd_of_turn {t : Tree} (formed : t.WellFormed) {place next : Location} {piece : Name}
    (leads : t.turn place piece = .ok (.to next)) : t.IsEnd next := by
  unfold turn at leads
  split at leads
  · next folder =>
    split at leads
    · cases leads
      exact .inl folder
    · split at leads
      · cases leads
        exact .inl (formed.tail folder)
      · split at leads
        · cases leads
        · split at leads
          · cases leads
          · cases leads
          · next entry notLink found =>
            cases leads
            cases entry with
            | file content => exact .inr ⟨content, found⟩
            | folder => exact .inl found
            | link target => exact absurd rfl (notLink target)
  · cases leads

theorem follow_nil (t : Tree) (links : Nat) (place : Location) : t.follow links place [] = .ok place := by
  cases links <;> rfl

theorem follow_cons (t : Tree) (links : Nat) (place : Location) (piece : Name) (rest : List Name) :
    t.follow links place (piece :: rest) =
      match t.turn place piece with
      | .error cause => .error cause
      | .ok (.to next) => t.follow links next rest
      | .ok (.through origin target) =>
        match links with
        | 0 => .error .tooManyLinks
        | left + 1 => t.follow left origin (target.pieces ++ rest) := by
  cases links <;> exact t.followWith_cons _ place piece rest

/-- A path is followed piece by piece: what comes later is followed from where the pieces before it lead, with
the symbolic links that these leave. -/
theorem follow_append {t : Tree} {links : Nat} {place found : Location} {front : List Name}
    (leads : t.follow links place front = .ok found) :
    ∃ left, ∀ rest, t.follow links place (front ++ rest) = t.follow left found rest := by
  match front with
  | [] =>
    rw [follow_nil] at leads
    cases leads
    exact ⟨links, fun rest => rfl⟩
  | piece :: front =>
    simp only [List.cons_append, follow_cons] at leads ⊢
    split at leads
    · cases leads
    · exact follow_append leads
    · split at leads
      · cases leads
      · simp only [← List.append_assoc]
        exact follow_append leads
termination_by (links, front.length)

/-- Nothing changes when an idle piece is left out that another piece follows. -/
theorem follow_skip_idle (t : Tree) (links : Nat) (place : Location) (front : List Name) {piece : Name}
    (idle : Path.isIdle piece = true) (next : Name) (rest : List Name) :
    t.follow links place (front ++ piece :: next :: rest) = t.follow links place (front ++ next :: rest) := by
  match front with
  | [] =>
    simp only [List.nil_append]
    rw [follow_cons]
    by_cases folder : t.lookup? place = some .folder
    · rw [turn_idle idle folder]
    · rw [turn_of_not_folder folder, follow_cons, turn_of_not_folder folder]
  | first :: front =>
    simp only [List.cons_append, follow_cons]
    split
    · rfl
    · exact t.follow_skip_idle links _ front idle next rest
    · split
      · rfl
      · simp only [← List.append_assoc]
        exact t.follow_skip_idle _ _ _ idle next rest
termination_by (links, front.length)

theorem WellFormed.isEnd_of_follow {t : Tree} (formed : t.WellFormed) {links : Nat} {place found : Location}
    {pieces : List Name} (starts : pieces = [] → t.IsEnd place)
    (leads : t.follow links place pieces = .ok found) : t.IsEnd found := by
  match pieces with
  | [] =>
    rw [follow_nil] at leads
    cases leads
    exact starts rfl
  | piece :: pieces =>
    rw [follow_cons] at leads
    split at leads
    · cases leads
    · next next goes =>
      exact formed.isEnd_of_follow (fun _ => formed.isEnd_of_turn goes) leads
    · next origin target through =>
      split at leads
      · cases leads
      · refine formed.isEnd_of_follow (fun none => ?_) leads
        exact absurd (List.append_eq_nil_iff.1 none).1 target.pieces_ne_nil
termination_by (links, pieces.length)

theorem locate_eq_ok {t : Tree} {path : Path} {place : Location} (leads : t.locate path = .ok place) :
    path ≠ [] ∧ '\x00' ∉ path ∧
      t.follow linkLimit (if path.isAbsolute then [] else t.workFolder) path.pieces = .ok place := by
  unfold locate at leads
  split at leads
  · cases leads
  · next nonempty =>
    split at leads
    · cases leads
    · next noNul => exact ⟨by simpa using nonempty, by simpa using noNul, leads⟩

theorem WellFormed.isEnd_of_locate {t : Tree} (formed : t.WellFormed) {path : Path} {place : Location}
    (leads : t.locate path = .ok place) : t.IsEnd place :=
  formed.isEnd_of_follow (fun none => absurd none path.pieces_ne_nil) (locate_eq_ok leads).2.2

/-- A name put after a path is followed from where the path leads. -/
theorem locate_join {t : Tree} {path : Path} {place : Location} {name : Name} (proper : name.IsProper)
    (leads : t.locate path = .ok place) : ∃ left, t.locate (path.join name) = t.follow left place [name] := by
  obtain ⟨nonempty, noNul, followed⟩ := locate_eq_ok leads
  obtain ⟨left, later⟩ := follow_append followed
  refine ⟨left, ?_⟩
  have noNul' := proper.noNul
  have start := @Path.isAbsolute_join path name proper.relative
  rcases Path.join_cases nonempty proper.relative with eq | ⟨front, rfl, eq⟩
  · rw [← later, locate, start, eq, Path.pieces_append_slash, Path.pieces_of_not_mem proper.noSlash,
      if_neg (by simp), if_neg (by simp [noNul, noNul'])]
  · rw [← later, locate, start, eq, Path.pieces_append_slash, Path.pieces_append_slash,
      Path.pieces_of_not_mem proper.noSlash, if_neg (by simp), if_neg (by simp_all), List.append_assoc]
    exact (t.follow_skip_idle _ _ _ rfl name []).symm

theorem locate_join_of_none {t : Tree} {path : Path} {place : Location} {name : Name} (proper : name.IsProper)
    (leads : t.locate path = .ok place) (folder : t.lookup? place = some .folder)
    (own : t.lookup? (name :: place) = none) : t.locate (path.join name) = .error .notFound := by
  obtain ⟨left, eq⟩ := locate_join proper leads
  rw [eq, follow_cons, turn_proper proper folder, own]

theorem locate_join_of_entry {t : Tree} {path : Path} {place : Location} {name : Name} (proper : name.IsProper)
    (leads : t.locate path = .ok place) (folder : t.lookup? place = some .folder) {entry : Entry}
    (own : t.lookup? (name :: place) = some entry) (notLink : ∀ target, entry ≠ .link target) :
    t.locate (path.join name) = .ok (name :: place) := by
  obtain ⟨left, eq⟩ := locate_join proper leads
  rw [eq, follow_cons, turn_proper proper folder, own]
  cases entry with
  | link target => exact absurd rfl (notLink target)
  | file content => exact follow_nil t left _
  | folder => exact follow_nil t left _

theorem status_eq_ok {t : Tree} {path : Path} {entry : Entry} :
    t.status path = .ok entry ↔ ∃ place, t.locate path = .ok place ∧ t.lookup? place = some entry := by
  unfold status
  cases t.locate path with
  | error cause => exact ⟨nofun, fun ⟨_, leads, _⟩ => nomatch leads⟩
  | ok place =>
    simp only [bind, Except.bind, Except.ok.injEq, exists_eq_left']
    cases t.lookup? place with
    | none => exact ⟨nofun, nofun⟩
    | some found => exact ⟨fun eq => by cases eq; rfl, fun eq => by cases eq; rfl⟩

theorem isFolder_iff {t : Tree} {path : Path} :
    t.isFolder path = true ↔ ∃ place, t.locate path = .ok place ∧ t.lookup? place = some .folder := by
  rw [← status_eq_ok, isFolder]
  split
  · next eq => simp [eq]
  · next other => exact ⟨nofun, fun eq => absurd eq other⟩

theorem isFile_iff {t : Tree} {path : Path} :
    t.isFile path = true ↔
      ∃ place content, t.locate path = .ok place ∧ t.lookup? place = some (.file content) := by
  rw [exists_comm]
  simp only [← status_eq_ok, isFile]
  split
  · next content eq => simp [eq]
  · next other => exact ⟨nofun, fun ⟨content, eq⟩ => absurd eq (other content)⟩

theorem isFolder_of_locate_eq_error {t : Tree} {path : Path} {cause : FileError}
    (none : t.locate path = .error cause) : t.isFolder path = false := by
  rw [← Bool.not_eq_true, isFolder_iff]
  rintro ⟨place, leads, -⟩
  cases none.symm.trans leads

theorem isFile_of_locate_eq_error {t : Tree} {path : Path} {cause : FileError}
    (none : t.locate path = .error cause) : t.isFile path = false := by
  rw [← Bool.not_eq_true, isFile_iff]
  rintro ⟨place, content, leads, -⟩
  cases none.symm.trans leads

theorem isFile_of_isFolder {t : Tree} {path : Path} (folder : t.isFolder path = true) : t.isFile path = false := by
  rw [← Bool.not_eq_true, isFile_iff]
  rintro ⟨place, content, leads, file⟩
  obtain ⟨found, same, isFolder⟩ := isFolder_iff.1 folder
  cases leads.symm.trans same
  cases file.symm.trans isFolder

theorem isFolder_of_isFile {t : Tree} {path : Path} (file : t.isFile path = true) : t.isFolder path = false := by
  rw [← Bool.not_eq_true]
  intro folder
  rw [isFile_of_isFolder folder] at file
  cases file

end Tree

end DocLinks
