import DocLinks.Proofs.PathSteps

namespace DocLinks.Path

theorem nil_mem_tail_of_split (front rest : Path) (empty : rest.pieces.head? = some []) :
    [] ∈ (pieces (front ++ '/' :: rest)).tail := by
  obtain ⟨first, more, eq⟩ := List.exists_cons_of_ne_nil (pieces_ne_nil front)
  rw [pieces_append_slash, eq, List.cons_append, List.tail_cons]
  exact List.mem_append_right more (List.mem_of_mem_head? empty)

/-- Behind the first slash, a piece is empty where another slash follows or the path ends. -/
theorem nil_mem_tail_pieces {p : Path} : [] ∈ p.pieces.tail ↔ p.getLast? = some '/' ∨ ['/', '/'] <:+: p := by
  constructor
  · intro empty
    induction p with
    | nil => cases empty
    | cons c p ih =>
      have later (behind : [] ∈ (pieces p).tail) : (c :: p).getLast? = some '/' ∨ ['/', '/'] <:+: c :: p := by
        rcases ih behind with ends | gap
        · obtain ⟨front, rfl⟩ := List.getLast?_eq_some_iff.1 ends
          rw [← List.cons_append]
          exact .inl List.getLast?_concat
        · exact .inr (List.infix_cons gap)
      by_cases slash : c = '/'
      · subst slash
        cases p with
        | nil => exact .inl rfl
        | cons d p =>
          by_cases again : d = '/'
          · exact .inr ⟨[], p, by rw [again]; rfl⟩
          · obtain ⟨first, rest, eq⟩ := List.exists_cons_of_ne_nil (pieces_ne_nil p)
            have split : pieces ('/' :: d :: p) = [] :: (d :: first) :: rest := by
              rw [show '/' :: d :: p = [] ++ '/' :: d :: p from rfl, pieces_append_slash, pieces_cons_of_ne again, eq]
              rfl
            rw [split] at empty
            refine later ?_
            rw [pieces_cons_of_ne again, eq]
            exact (List.mem_cons.1 empty).resolve_left (List.cons_ne_nil d first).symm
      · rw [pieces_cons_of_ne slash, List.tail_modifyHead] at empty
        exact later empty
  · rintro (ends | ⟨front, back, rfl⟩)
    · obtain ⟨front, rfl⟩ := List.getLast?_eq_some_iff.1 ends
      exact nil_mem_tail_of_split front [] rfl
    · rw [List.append_assoc]
      exact nil_mem_tail_of_split front ('/' :: back) (congrArg List.head? (pieces_append_slash [] back))

/-- Nothing idle is written: no dot that stands alone, no two slashes in a row, and no slash at the end but the root. -/
structure IsNormal (p : Path) : Prop where
  noDot : ['.'] ∉ p.pieces
  noGap : ¬['/', '/'] <:+: p
  noEnd : p.getLast? = some '/' → p = ['/']

theorem isNormal_of_pieces {p : Path} (noDot : ['.'] ∉ p.pieces) (noEmpty : [] ∉ p.pieces.tail) : p.IsNormal where
  noDot := noDot
  noGap := fun gap => noEmpty (nil_mem_tail_pieces.2 (.inr gap))
  noEnd := fun ends => absurd (nil_mem_tail_pieces.2 (.inl ends)) noEmpty

theorem isNormal_ofSteps (absolute : Bool) {names : List Name} (areSteps : ∀ n ∈ names, IsStep n) :
    (ofSteps absolute names).IsNormal := by
  have busy {n : Name} (member : n ∈ names) : n ≠ [] ∧ n ≠ ['.'] := by
    simpa [isIdle] using (areSteps n member).1
  by_cases none : names = []
  · rw [none]
    cases absolute with
    | false => exact ⟨by decide, by decide, by decide⟩
    | true => exact ⟨by decide, by decide, fun _ => rfl⟩
  · have written := pieces_ofSteps absolute areSteps none
    refine isNormal_of_pieces (fun dot => ?_) (fun empty => ?_)
    · rw [written, List.mem_append] at dot
      rcases dot with root | step
      · cases absolute <;> simp at root
      · exact (busy step).2 rfl
    · rw [written] at empty
      cases absolute with
      | false => exact (busy (List.mem_of_mem_tail empty)).1 rfl
      | true => exact (busy empty).1 rfl

theorem IsNormal.isIdle_eq_false {p : Path} (normal : p.IsNormal) (notRoot : p ≠ ['/']) {n : Name}
    (behind : n ∈ p.pieces.tail) : isIdle n = false := by
  have nonempty : n ≠ [] := by
    rintro rfl
    rcases nil_mem_tail_pieces.1 behind with ends | gap
    · exact notRoot (normal.noEnd ends)
    · exact normal.noGap gap
  have other : n ≠ ['.'] := fun dot => normal.noDot (dot ▸ List.mem_of_mem_tail behind)
  simp [isIdle, nonempty, other]

/-- The paths in normal form are those that are written out from their steps. -/
theorem isNormal_iff {p : Path} : p.IsNormal ↔ ofSteps p.isAbsolute p.steps = p := by
  refine ⟨fun normal => ?_, fun same => same ▸ isNormal_ofSteps _ fun n => isStep_of_mem_steps⟩
  by_cases root : p = ['/']
  · rw [root]
    rfl
  obtain ⟨first, rest, eq⟩ := List.exists_cons_of_ne_nil (pieces_ne_nil p)
  have kept : rest.filter (!isIdle ·) = rest := by
    refine List.filter_eq_self.2 fun n member => ?_
    rw [normal.isIdle_eq_false root (by rwa [eq]), Bool.not_false]
  have text : List.intercalate ['/'] (first :: rest) = p := by
    rw [← eq, intercalate_pieces]
  by_cases empty : first = []
  · subst empty
    cases rest with
    | nil =>
      rw [← text]
      rfl
    | cons next rest =>
      have absolute : p.isAbsolute = true := isAbsolute_iff_pieces.2 ⟨next, rest, eq⟩
      have steps : p.steps = next :: rest := by
        rw [steps, eq, List.filter_cons_of_neg (by decide), kept]
      rw [absolute, steps, ← text, List.intercalate_cons_cons]
      rfl
  · have relative : p.isAbsolute = false := by
      rw [Bool.eq_false_iff, Ne, isAbsolute_iff_pieces, eq]
      rintro ⟨next, rest, same⟩
      exact empty (List.cons.inj same).1
    have notDot : first ≠ ['.'] := fun dot => normal.noDot (by rw [eq, dot]; exact List.mem_cons_self)
    have steps : p.steps = first :: rest := by
      rw [steps, eq, List.filter_cons, kept]
      simp [isIdle, empty, notDot]
    rw [relative, steps]
    exact text

theorem IsNormal.eq_of_components {p q : Path} (normalP : p.IsNormal) (normalQ : q.IsNormal)
    (same : p.components = q.components) : p = q := by
  obtain ⟨start, steps⟩ := components_inj.1 same
  rw [← isNormal_iff.1 normalP, start, steps, isNormal_iff.1 normalQ]

theorem isNormal_joinLexically (base path : Path) : (joinLexically base path).IsNormal := by
  rw [joinLexically_eq]
  split
  · exact isNormal_ofSteps true fun n => isStep_of_mem_steps
  · exact isNormal_ofSteps _ fun n => isStep_of_mem_append

theorem isAbsolute_joinLexically (base path : Path) :
    (joinLexically base path).isAbsolute = (path.isAbsolute || base.isAbsolute) := by
  rw [joinLexically_eq]
  split
  · next absolute => rw [isAbsolute_ofSteps true fun n => isStep_of_mem_steps, absolute, Bool.true_or]
  · next relative =>
    rw [isAbsolute_ofSteps _ fun n => isStep_of_mem_append, Bool.eq_false_iff.2 relative, Bool.false_or]

theorem joinLexically_of_isAbsolute {path : Path} (absolute : path.isAbsolute = true) (base base' : Path) :
    joinLexically base path = joinLexically base' path := by
  rw [joinLexically_eq, if_pos absolute, joinLexically_eq, if_pos absolute]

/-- Paths may be put after one another in any grouping, and each of them may be empty: the text that comes out is the
one normal form of the components, which are those of the base and of the path, with no `..` cancelled against the step
before it, or those of an absolute path alone. The paths that are in normal form are those that stand as they are. -/
theorem joinLexically_composes (b p q : Path) :
    joinLexically (joinLexically b p) q = joinLexically b (joinLexically p q) ∧
    joinLexically (joinLexically b p) [] = joinLexically b p ∧
    (joinLexically b p).IsNormal ∧
    (p.IsNormal ↔ joinLexically [] p = p) ∧
    (p.isAbsolute = false → (joinLexically b p).components = b.components ++ p.components) ∧
    (p.isAbsolute = true → (joinLexically b p).components = p.components ∧
      ∀ b', joinLexically b' p = joinLexically b p) := by
  have normal := isNormal_joinLexically
  refine ⟨?_, ?_, normal b p, ⟨fun normalP => ?_, fun same => same ▸ normal [] p⟩, fun relative => ?_,
    fun absolute => ⟨?_, fun b' => joinLexically_of_isAbsolute absolute b' b⟩⟩
  · refine (normal _ _).eq_of_components (normal _ _) ?_
    simp only [components_joinLexically, isAbsolute_joinLexically]
    cases q.isAbsolute <;> cases p.isAbsolute <;> simp
  · refine (normal _ _).eq_of_components (normal _ _) ?_
    rw [components_joinLexically]
    exact List.append_nil _
  · refine (normal _ _).eq_of_components normalP ?_
    rw [components_joinLexically]
    split <;> rfl
  · rw [components_joinLexically, relative, if_neg Bool.false_ne_true]
  · rw [components_joinLexically, if_pos absolute]

/-- A base that ends in slashes, a path with dots in all places, and one that goes back. -/
theorem joinLexically_composes_dotted :
    let b := "./docs//".toList
    let p := "././img/..//".toList
    let q := "../a.md/.".toList
    joinLexically (joinLexically b p) q = "docs/img/../../a.md".toList ∧
    joinLexically b (joinLexically p q) = "docs/img/../../a.md".toList ∧
    (joinLexically b p).IsNormal ∧
    (joinLexically b p).components = [.step "docs".toList, .step "img".toList, .step "..".toList] ∧
    joinLexically b ("/./x//".toList) = "/x".toList ∧ joinLexically q ("/./x//".toList) = "/x".toList := by
  intro b p q
  obtain ⟨grouped, -, normal, -, components, -⟩ := joinLexically_composes b p q
  obtain ⟨-, -, -, -, -, alone⟩ := joinLexically_composes b "/./x//".toList q
  have text : joinLexically (joinLexically b p) q = "docs/img/../../a.md".toList := by decide +kernel
  have atRoot : joinLexically b "/./x//".toList = "/x".toList := by decide +kernel
  exact ⟨text, grouped ▸ text, normal, components (by decide), atRoot, ((alone (by decide)).2 q).trans atRoot⟩

end DocLinks.Path
