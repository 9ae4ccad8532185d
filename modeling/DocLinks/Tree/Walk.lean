import DocLinks.Tree

namespace DocLinks

/-- What a walk meets. -/
inductive Visit
  | file (path : Path)
  | folder (path : Path)
  /-- A symbolic link to a folder that the walk is inside of. -/
  | loop (path : Path)
  /-- A symbolic link that leads nowhere. -/
  | broken (path : Path) (cause : FileError)
deriving DecidableEq

namespace Tree

/-- The names in a folder, each once and in order. -/
def names (t : Tree) (place : Location) : List Name :=
  (t.entries.filterMap fun
    | (name :: above, _) => if above = place then some name else none
    | ([], _) => none).eraseDups.mergeSort Name.le

def folders (t : Tree) : List Location :=
  [] :: t.entries.filterMap fun
    | (place, .folder) => some place
    | _ => none

/-- How many names deep the tree is. -/
def height (t : Tree) : Nat := (t.entries.map (·.1.length)).foldr max 0

/-- How many folders are not among those given. -/
def unseen (t : Tree) (seen : List Location) : Nat := t.folders.countP (!seen.contains ·)

theorem mem_of_lookup {α β : Type} [BEq α] [LawfulBEq α] {l : List (α × β)} {a : α} {b : β}
    (h : l.lookup a = some b) : (a, b) ∈ l := by
  induction l with
  | nil => cases h
  | cons head rest ih =>
    rw [List.lookup_cons] at h
    split at h
    · next eq =>
      cases h
      rw [eq_of_beq eq]
      exact .head _
    · exact .tail _ (ih h)

theorem mem_entries {t : Tree} {name : Name} {place : Location} {entry : Entry}
    (h : t.lookup? (name :: place) = some entry) : (name :: place, entry) ∈ t.entries := mem_of_lookup h

theorem mem_folders {t : Tree} {place : Location} (h : t.lookup? place = some .folder) :
    place ∈ t.folders := by
  cases place with
  | nil => exact .head _
  | cons name place => exact .tail _ (List.mem_filterMap.2 ⟨_, mem_entries h, rfl⟩)

theorem le_foldr_max {n : Nat} {l : List Nat} (h : n ∈ l) : n ≤ l.foldr max 0 := by
  induction h with
  | head => exact Nat.le_max_left _ _
  | tail _ _ ih => exact Nat.le_trans ih (Nat.le_max_right _ _)

theorem length_le_height {t : Tree} {name : Name} {place : Location} {entry : Entry}
    (h : t.lookup? (name :: place) = some entry) : place.length + 1 ≤ t.height :=
  le_foldr_max (List.mem_map.2 ⟨_, mem_entries h, rfl⟩)

theorem countP_lt_of_imp {α : Type} {p q : α → Bool} (imp : ∀ x, p x = true → q x = true)
    {l : List α} {a : α} (mem : a ∈ l) (new : p a = false) (old : q a = true) : l.countP p < l.countP q := by
  induction mem with
  | head rest =>
    rw [List.countP_cons_of_neg (by simp [new]), List.countP_cons_of_pos old]
    exact Nat.lt_succ_of_le (List.countP_mono_left fun x _ => imp x)
  | tail b mem ih =>
    simp only [List.countP_cons]
    split
    · next h => rw [if_pos (imp _ h)]; omega
    · split <;> omega

theorem unseen_cons_le (t : Tree) (seen : List Location) (place : Location) :
    t.unseen (place :: seen) ≤ t.unseen seen :=
  List.countP_mono_left (by simp)

theorem unseen_cons_lt {t : Tree} {seen : List Location} {place : Location}
    (h : t.lookup? place = some .folder) (new : place ∉ seen) : t.unseen (place :: seen) < t.unseen seen :=
  countP_lt_of_imp (by simp) (mem_folders h) (by simp) (by simpa using new)

/-- Walks a folder, the names in it in order, everything below a folder right after it. Symbolic links are
followed, but not back into a folder that the walk has come through, which `above` lists. That and the depth
of the tree bound the walk: a link followed leads to a folder not met on the way, and between two links each
step goes one name deeper. -/
def walkFolder (t : Tree) (above : List Location) (place : Location) (path : Path) : List Visit :=
  .folder path :: (t.names place).flatMap fun name =>
    match _ : t.lookup? (name :: place) with
    | none => []
    | some (.file _) => [.file (path.join name)]
    | some .folder => t.walkFolder (place :: above) (name :: place) (path.join name)
    | some (.link _) =>
      match t.locate (path.join name) with
      | .error cause => [.broken (path.join name) cause]
      | .ok target =>
        match _ : t.lookup? target with
        | some .folder =>
          if _ : target ∈ place :: above then [.loop (path.join name)]
          else t.walkFolder (place :: above) target (path.join name)
        | _ => [.file (path.join name)]
termination_by (t.unseen (place :: above), t.height - place.length)
decreasing_by
  · have deeper := length_le_height ‹_›
    rcases Nat.lt_or_eq_of_le (t.unseen_cons_le (place :: above) (name :: place)) with fewer | same
    · exact .left _ _ fewer
    · rw [same]
      exact .right _ (by simp only [List.length_cons]; omega)
  · exact .left _ _ (unseen_cons_lt ‹_› ‹_›)

/-- Everything that a walk from a path meets, in order. -/
def walk (t : Tree) (root : Path) : List Visit :=
  match t.locate root with
  | .error cause => [.broken root cause]
  | .ok place =>
    match t.lookup? place with
    | some .folder => t.walkFolder [] place root
    | _ => [.file root]

end Tree

end DocLinks
