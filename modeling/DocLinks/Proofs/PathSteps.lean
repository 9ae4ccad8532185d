import DocLinks.Path

namespace DocLinks

namespace Path

theorem pieces_of_not_mem {n : Name} (noSlash : '/' ∉ n) : pieces n = [n] := by
  rw [pieces, Text.splitOn_eq, List.splitOn_eq_singleton noSlash]

theorem pieces_append_slash (p q : Path) : pieces (p ++ '/' :: q) = p.pieces ++ q.pieces := by
  simp only [pieces, Text.splitOn_eq, List.splitOn_append_cons_self]

theorem pieces_cons_of_ne {c : Char} (notSlash : c ≠ '/') (p : Path) :
    pieces (c :: p) = p.pieces.modifyHead (c :: ·) := by
  simp only [pieces, Text.splitOn_eq]
  rw [List.splitOn_cons_eq_if_modifyHead, if_neg (by simpa using notSlash)]

theorem pieces_ne_nil (p : Path) : p.pieces ≠ [] := Text.splitOn_ne_nil '/' p

/-- A piece holds characters of the path only, and no slash. -/
theorem mem_of_mem_pieces {p : Path} {n : Name} (piece : n ∈ p.pieces) {c : Char} (inside : c ∈ n) :
    c ∈ p ∧ c ≠ '/' := by
  induction p generalizing n with
  | nil =>
    cases List.mem_singleton.1 piece
    cases inside
  | cons d p ih =>
    by_cases isSlash : d = '/'
    · rw [isSlash, show '/' :: p = [] ++ '/' :: p from rfl, pieces_append_slash] at piece
      rcases List.mem_append.1 piece with empty | later
      · cases List.mem_singleton.1 empty
        cases inside
      · exact ⟨List.mem_cons_of_mem d (ih later inside).1, (ih later inside).2⟩
    · rw [pieces_cons_of_ne isSlash] at piece
      obtain ⟨first, rest, eq⟩ := List.exists_cons_of_ne_nil (pieces_ne_nil p)
      rw [eq, List.modifyHead_cons] at piece
      rcases List.mem_cons.1 piece with rfl | later
      · rcases List.mem_cons.1 inside with rfl | inside
        · exact ⟨List.mem_cons_self, isSlash⟩
        · have old := ih (eq ▸ List.mem_cons_self) inside
          exact ⟨List.mem_cons_of_mem d old.1, old.2⟩
      · have old := ih (eq ▸ List.mem_cons_of_mem first later) inside
        exact ⟨List.mem_cons_of_mem d old.1, old.2⟩

theorem slash_not_mem_piece {p : Path} {n : Name} (piece : n ∈ p.pieces) : '/' ∉ n :=
  fun inside => (mem_of_mem_pieces piece inside).2 rfl

/-- What is written at the end of a path and holds no slash belongs to the last piece. -/
theorem pieces_append_of_not_mem (p : Path) {s : Name} (noSlash : '/' ∉ s) :
    ∃ front last, p.pieces = front ++ [last] ∧ pieces (p ++ s) = front ++ [last ++ s] := by
  induction p with
  | nil => exact ⟨[], [], rfl, pieces_of_not_mem noSlash⟩
  | cons c p ih =>
    obtain ⟨front, last, before, after⟩ := ih
    by_cases isSlash : c = '/'
    · refine ⟨[] :: front, last, ?_, ?_⟩
      · rw [isSlash, show '/' :: p = [] ++ '/' :: p from rfl, pieces_append_slash, before]
        rfl
      · rw [isSlash, show '/' :: p ++ s = [] ++ '/' :: (p ++ s) from rfl, pieces_append_slash, after]
        rfl
    · rw [List.cons_append, pieces_cons_of_ne isSlash, pieces_cons_of_ne isSlash, before, after]
      cases front with
      | nil => exact ⟨[], c :: last, rfl, rfl⟩
      | cons first front => exact ⟨(c :: first) :: front, last, rfl, rfl⟩

theorem isAbsolute_of_not_mem {n : Name} (noSlash : '/' ∉ n) : isAbsolute n = false := by
  cases n with
  | nil => rfl
  | cons c n =>
    have notSlash : c ≠ '/' := by
      rintro rfl
      exact noSlash List.mem_cons_self
    simp [isAbsolute, notSlash]

theorem isAbsolute_iff_pieces {p : Path} : p.isAbsolute = true ↔ ∃ next rest, p.pieces = [] :: next :: rest := by
  cases p with
  | nil => simp [isAbsolute, pieces, Text.splitOn]
  | cons c p =>
    obtain ⟨first, rest, eq⟩ := List.exists_cons_of_ne_nil (pieces_ne_nil p)
    by_cases slash : c = '/'
    · subst slash
      have split : pieces ('/' :: p) = [] :: pieces p := pieces_append_slash [] p
      exact iff_of_true rfl ⟨first, rest, by rw [split, eq]⟩
    · simp [isAbsolute, slash, pieces_cons_of_ne slash, eq]

theorem pieces_intercalate {pieces : List Name} (noSlash : ∀ n ∈ pieces, '/' ∉ n) (nonempty : pieces ≠ []) :
    Path.pieces (List.intercalate ['/'] pieces) = pieces := by
  rw [Path.pieces, Text.splitOn_eq]
  exact List.splitOn_intercalate '/' noSlash nonempty

theorem steps_append_slash (p q : Path) : steps (p ++ '/' :: q) = p.steps ++ q.steps := by
  simp only [steps, pieces_append_slash, List.filter_append]

theorem mem_steps {p : Path} {n : Name} : n ∈ p.steps ↔ n ∈ p.pieces ∧ isIdle n = false := by
  simp [steps]

theorem isAbsolute_append {p : Path} (nonempty : p ≠ []) (q : Path) :
    isAbsolute (p ++ q) = p.isAbsolute := by
  cases p with
  | nil => contradiction
  | cons c p => rfl

theorem steps_join {base path : Path} (relative : path.isAbsolute = false) :
    (join base path).steps = base.steps ++ path.steps := by
  unfold join
  rw [if_neg (by simp [relative])]
  split
  · next none =>
    rw [List.getLast?_eq_none_iff.1 none]
    rfl
  · next some =>
    obtain ⟨front, rfl⟩ := List.getLast?_eq_some_iff.1 some
    simp only [List.append_assoc, List.singleton_append]
    rw [steps_append_slash, steps_append_slash]
    simp [steps, pieces, Text.splitOn, isIdle]
  · exact steps_append_slash base path

theorem isAbsolute_join {base path : Path} (relative : path.isAbsolute = false) :
    (join base path).isAbsolute = base.isAbsolute := by
  unfold join
  rw [if_neg (by simp [relative])]
  split
  · next none =>
    rw [List.getLast?_eq_none_iff.1 none, relative]
    rfl
  all_goals
    refine isAbsolute_append ?_ _
    rintro rfl
    simp_all

/-- One slash stands between the two, the base's own if it ends with one. -/
theorem join_cases {base path : Path} (nonempty : base ≠ []) (relative : path.isAbsolute = false) :
    join base path = base ++ '/' :: path ∨
      ∃ front, base = front ++ '/' :: [] ∧ join base path = front ++ '/' :: path := by
  unfold join
  rw [if_neg (by simp [relative])]
  split
  · next none => exact absurd (List.getLast?_eq_none_iff.1 none) nonempty
  · next some =>
    obtain ⟨front, rfl⟩ := List.getLast?_eq_some_iff.1 some
    exact .inr ⟨front, rfl, List.append_assoc front ['/'] path⟩
  · exact .inl rfl

/-- A name that a path can have between two slashes and that is no idle piece. -/
def IsStep (n : Name) : Prop := isIdle n = false ∧ '/' ∉ n

theorem isStep_of_mem_steps {p : Path} {n : Name} (step : n ∈ p.steps) : IsStep n :=
  ⟨(mem_steps.1 step).2, slash_not_mem_piece (mem_steps.1 step).1⟩

theorem isStep_of_mem_append {p q : Path} {n : Name} (member : n ∈ p.steps ++ q.steps) : IsStep n := by
  rcases List.mem_append.1 member with ofP | ofQ
  · exact isStep_of_mem_steps ofP
  · exact isStep_of_mem_steps ofQ

theorem pieces_ofSteps (absolute : Bool) {names : List Name} (areSteps : ∀ n ∈ names, IsStep n)
    (nonempty : names ≠ []) : (ofSteps absolute names).pieces = (if absolute then [[]] else []) ++ names := by
  have relative := pieces_intercalate (fun n member => (areSteps n member).2) nonempty
  cases absolute with
  | false => exact relative
  | true =>
    have rooted := pieces_append_slash [] (List.intercalate ['/'] names)
    rw [relative] at rooted
    exact rooted

theorem steps_ofSteps (absolute : Bool) {names : List Name} (areSteps : ∀ n ∈ names, IsStep n) :
    (ofSteps absolute names).steps = names := by
  cases names with
  | nil => cases absolute <;> rfl
  | cons first rest =>
    have busy : (first :: rest).filter (!isIdle ·) = first :: rest := by
      rw [List.filter_eq_self]
      intro n member
      rw [(areSteps n member).1]
      rfl
    rw [steps, pieces_ofSteps absolute areSteps (List.cons_ne_nil first rest), List.filter_append, busy]
    cases absolute <;> rfl

theorem isAbsolute_ofSteps (absolute : Bool) {names : List Name} (areSteps : ∀ n ∈ names, IsStep n) :
    (ofSteps absolute names).isAbsolute = absolute := by
  cases absolute with
  | true => rfl
  | false =>
    cases names with
    | nil => rfl
    | cons first rest =>
      obtain ⟨busy, noSlash⟩ := areSteps first List.mem_cons_self
      cases first with
      | nil => cases busy
      | cons c first =>
        have notSlash : c ≠ '/' := by
          rintro rfl
          exact noSlash List.mem_cons_self
        cases rest <;> simp [ofSteps, isAbsolute, List.intercalate, notSlash]

/-- A path is its pieces with slashes between them. -/
theorem intercalate_pieces (p : Path) : List.intercalate ['/'] p.pieces = p := Text.intercalate_splitOn '/' p

theorem pieces_inj {p q : Path} : p.pieces = q.pieces ↔ p = q := by
  refine ⟨fun same => ?_, congrArg pieces⟩
  rw [← intercalate_pieces p, same, intercalate_pieces]

/-- A step that is joined to steps is one more of them. -/
theorem join_ofSteps (absolute : Bool) {names : List Name} {n : Name} (areSteps : ∀ m ∈ names, IsStep m)
    (isStep : IsStep n) : join (ofSteps absolute names) n = ofSteps absolute (names ++ [n]) := by
  have relative : isAbsolute n = false := isAbsolute_of_not_mem isStep.2
  by_cases none : names = []
  · subst none
    cases absolute <;> simp [join, ofSteps, relative]
  · have written := pieces_ofSteps absolute areSteps none
    have busy : (ofSteps absolute names).pieces.getLast? ≠ some [] := by
      rw [written, List.getLast?_append, List.getLast?_eq_some_getLast none]
      intro empty
      have last := (areSteps _ (List.getLast_mem none)).1
      rw [Option.some.inj empty] at last
      cases last
    have nonempty : ofSteps absolute names ≠ [] := by
      intro empty
      rw [empty] at busy
      exact busy rfl
    have joined : join (ofSteps absolute names) n = ofSteps absolute names ++ '/' :: n := by
      refine (join_cases nonempty relative).resolve_right ?_
      rintro ⟨front, slash, -⟩
      rw [slash, pieces_append_slash] at busy
      exact busy List.getLast?_concat
    have all : ∀ m ∈ names ++ [n], IsStep m := by
      rw [List.forall_mem_append, List.forall_mem_singleton]
      exact ⟨areSteps, isStep⟩
    refine pieces_inj.1 ?_
    rw [joined, pieces_append_slash, written, pieces_of_not_mem isStep.2, pieces_ofSteps absolute all (by simp),
      List.append_assoc]

/-- Without dots, the parts of a path are its root and its steps. -/
theorem filter_parts (p : Path) :
    p.parts.filter (· ≠ .dot) = (if p.isAbsolute then [.root] else []) ++ p.steps.map .name := by
  obtain ⟨first, rest, eq⟩ := List.exists_cons_of_ne_nil (pieces_ne_nil p)
  have names : ((rest.filter (!isIdle ·)).map Part.name).filter (· ≠ .dot) =
      (rest.filter (!isIdle ·)).map Part.name := by
    refine List.filter_eq_self.2 fun part member => ?_
    obtain ⟨n, -, rfl⟩ := List.mem_map.1 member
    rfl
  rw [parts, eq]
  dsimp only
  rw [List.filter_append, names, steps, eq]
  by_cases absolute : p.isAbsolute = true
  · obtain ⟨next, more, split⟩ := isAbsolute_iff_pieces.1 absolute
    cases eq.symm.trans split
    simp [absolute, isIdle]
  · by_cases dot : first = ['.']
    · simp [absolute, dot, isIdle]
    · by_cases empty : first = [] <;> simp [absolute, dot, empty, isIdle]

theorem push_names (absolute : Bool) {done names : List Name} (areDone : ∀ n ∈ done, IsStep n)
    (areSteps : ∀ n ∈ names, IsStep n) :
    push (ofSteps absolute done) (names.map .name) = ofSteps absolute (done ++ names) := by
  induction names generalizing done with
  | nil => rw [List.append_nil]; rfl
  | cons n names ih =>
    rw [List.forall_mem_cons] at areSteps
    have more : ∀ m ∈ done ++ [n], IsStep m := by
      rw [List.forall_mem_append, List.forall_mem_singleton]
      exact ⟨areDone, areSteps.1⟩
    have pushed := ih more areSteps.2
    rw [← join_ofSteps absolute areDone areSteps.1, List.append_assoc] at pushed
    exact pushed

/-- What is pushed behind steps goes on with its own, or begins again at the root. -/
theorem push_parts (absolute : Bool) {done : List Name} (areDone : ∀ n ∈ done, IsStep n) (p : Path) :
    push (ofSteps absolute done) (p.parts.filter (· ≠ .dot)) =
      if p.isAbsolute then ofSteps true p.steps else ofSteps absolute (done ++ p.steps) := by
  have areSteps : ∀ n ∈ p.steps, IsStep n := fun n => isStep_of_mem_steps
  rw [filter_parts]
  split
  · have rooted := push_names true (List.forall_mem_nil IsStep) areSteps
    exact rooted
  · exact push_names absolute areDone areSteps

/-- Joining writes the root and the steps out, of the base and of the path behind it. -/
theorem joinLexically_eq (base path : Path) :
    joinLexically base path =
      if path.isAbsolute then ofSteps true path.steps else ofSteps base.isAbsolute (base.steps ++ path.steps) := by
  have areSteps : ∀ n ∈ base.steps, IsStep n := fun n => isStep_of_mem_steps
  have written : push [] (base.parts.filter (· ≠ .dot)) = ofSteps base.isAbsolute base.steps := by
    have pushed := push_parts false (List.forall_mem_nil IsStep) base
    refine pushed.trans ?_
    cases base.isAbsolute <;> rfl
  rw [joinLexically, written, push_parts _ areSteps]

/-- What a path is made of, idle pieces left out. -/
inductive Component
  | root
  | step (name : Name)
deriving DecidableEq

def components (p : Path) : List Component := (if p.isAbsolute then [.root] else []) ++ p.steps.map .step

theorem components_ofSteps (absolute : Bool) {names : List Name} (areSteps : ∀ n ∈ names, IsStep n) :
    (ofSteps absolute names).components = (if absolute then [.root] else []) ++ names.map .step := by
  rw [components, isAbsolute_ofSteps absolute areSteps, steps_ofSteps absolute areSteps]

theorem components_inj {p q : Path} :
    p.components = q.components ↔ p.isAbsolute = q.isAbsolute ∧ p.steps = q.steps := by
  have injective : ∀ n m : Name, Component.step n = .step m → n = m := fun _ _ => Component.step.inj
  constructor
  · intro same
    unfold components at same
    cases absoluteP : p.isAbsolute <;> cases absoluteQ : q.isAbsolute
    case false.false =>
      simp only [absoluteP, absoluteQ, Bool.false_eq_true, if_false, List.nil_append] at same
      exact ⟨rfl, (List.map_inj_right injective).1 same⟩
    case true.true =>
      simp only [absoluteP, absoluteQ, if_true, List.cons_append, List.nil_append, List.cons.injEq, true_and] at same
      exact ⟨rfl, (List.map_inj_right injective).1 same⟩
    case false.true => cases steps : p.steps <;> simp [absoluteP, absoluteQ, steps] at same
    case true.false => cases steps : q.steps <;> simp [absoluteP, absoluteQ, steps] at same
  · intro ⟨start, steps⟩
    rw [components, components, start, steps]

/-- Both ways of joining put the components of a relative path after those of the base, and both let an
absolute path stand alone. -/
theorem components_joinLexically (base path : Path) :
    (joinLexically base path).components =
      if path.isAbsolute then path.components else base.components ++ path.components := by
  rw [joinLexically_eq]
  split
  · next absolute =>
    rw [components_ofSteps true fun n => isStep_of_mem_steps]
    simp only [components, absolute]
  · next relative =>
    rw [components_ofSteps _ fun n => isStep_of_mem_append]
    simp [components, relative]

theorem components_join (base path : Path) :
    (join base path).components =
      if path.isAbsolute then path.components else base.components ++ path.components := by
  split
  · next absolute => simp only [join, absolute, if_true]
  · next other =>
    have relative : path.isAbsolute = false := by simpa using other
    simp [components, isAbsolute_join relative, steps_join relative, relative]

/-- The pieces of a path between its slashes, those left out that hold nothing. -/
def segments (p : Path) : List Name := p.pieces.filter (!·.isEmpty)

/-- A path whose only dot is followed by more of the same name has no idle piece but empty ones. -/
theorem steps_eq_segments {stem ending : List Char} (noDot : '.' ∉ stem) (noSlash : '/' ∉ ending)
    (goesOn : ending ≠ []) : steps (stem ++ '.' :: ending) = segments (stem ++ '.' :: ending) := by
  have busy : ∀ n ∈ pieces (stem ++ '.' :: ending), n ≠ ['.'] := by
    obtain ⟨front, last, before, after⟩ := pieces_append_of_not_mem stem
      (show '/' ∉ '.' :: ending by simpa using noSlash)
    rintro n member rfl
    rw [after] at member
    rcases List.mem_append.1 member with early | isLast
    · have piece : ['.'] ∈ pieces stem := by rw [before]; exact List.mem_append_left _ early
      exact noDot (mem_of_mem_pieces piece (List.mem_singleton.2 rfl)).1
    · have length := congrArg List.length (List.mem_singleton.1 isLast)
      have positive := List.length_pos_iff.2 goesOn
      simp only [List.length_append, List.length_cons, List.length_nil] at length
      omega
  refine List.filter_congr fun n member => ?_
  simp [isIdle, busy n member]

end Path

end DocLinks
