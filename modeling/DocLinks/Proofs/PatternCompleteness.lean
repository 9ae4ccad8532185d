import DocLinks.Proofs.PatternMatches

namespace DocLinks

variable {Part α β : Type}

/-- Whether no repetition can go round without taking a character. -/
def Pattern.Productive : Pattern Part → Prop
  | nothing => True
  | atEnd => True
  | one _ => True
  | andThen first next => first.Productive ∧ next.Productive
  | orElse preferred other => preferred.Productive ∧ other.Productive
  | many _ body => 0 < body.least ∧ body.Productive
  | part _ body => body.Productive

/-- A matcher that comes to an answer wherever the relation leads to one. -/
def TriesAll (R : Parts Part × List Char → Parts Part × List Char → Prop)
    (body : Parts Part → List Char → Continuation Part β → Option β) : Prop :=
  ∀ parts s parts' s' next, R (parts, s) (parts', s') → (next parts' s').isSome = true →
    (body parts s next).isSome = true

theorem isSome_orElse {a b : Option β} : (a <|> b).isSome = true ↔ a.isSome = true ∨ b.isSome = true := by
  rw [Option.orElse_eq_orElse, Option.orElse_eq_or, Option.isSome_or, Bool.or_eq_true]

/-- The characters left suffice as a bound, since each round takes at least one of them. -/
theorem TriesAll.repeated {R : Parts Part × List Char → Parts Part × List Char → Prop}
    {body : Parts Part → List Char → Continuation Part β → Option β} (tries : TriesAll R body)
    (shortens : ∀ a b, R a b → b.2.length < a.2.length) (appetite : Appetite) {bound s : List Char}
    (room : s.length ≤ bound.length) {parts parts' : Parts Part} {s' : List Char} {next : Continuation Part β}
    (run : Relation.ReflTransGen R (parts, s) (parts', s')) (goesOn : (next parts' s').isSome = true) :
    (appetite.repeated body bound parts s next).isSome = true := by
  induction bound generalizing parts s with
  | nil =>
    rcases run.cases_head with here | ⟨_, first, -⟩
    · cases here
      exact goesOn
    · have shorter : _ < s.length := shortens _ _ first
      simp only [List.length_nil] at room
      omega
  | cons c bound ih =>
    have branch : (next parts s).isSome = true ∨
        (body parts s fun parts s => appetite.repeated body bound parts s next).isSome = true := by
      rcases run.cases_head with here | ⟨⟨between, s₁⟩, first, rest⟩
      · cases here
        exact .inl goesOn
      · have shorter := shortens _ _ first
        simp only [List.length_cons] at room shorter
        exact .inr (tries _ _ _ _ _ first (ih (by omega) rest))
    cases appetite with
    | greedy => exact isSome_orElse.2 branch.symm
    | lazy => exact isSome_orElse.2 branch

namespace Pattern

theorem Matches.short {p : Pattern Part} {parts parts' : Parts Part} {s s' : List Char}
    (matched : p.Matches parts s parts' s') : s'.length + p.least ≤ s.length := by
  induction p generalizing parts s parts' s' with
  | nothing =>
    obtain ⟨-, rfl⟩ := matched
    exact Nat.le_refl _
  | atEnd =>
    obtain ⟨-, rfl, -⟩ := matched
    exact Nat.le_refl _
  | one accepts =>
    obtain ⟨-, c, -, rfl⟩ := matched
    exact Nat.le_refl _
  | andThen first second ih₁ ih₂ =>
    obtain ⟨between, s₁, m₁, m₂⟩ := matched
    have left := ih₁ m₁
    have right := ih₂ m₂
    simp only [least]
    omega
  | orElse preferred other ih₁ ih₂ =>
    simp only [least]
    rcases matched with matched | matched
    · have := ih₁ matched
      omega
    · have := ih₂ matched
      omega
  | many appetite body ih =>
    refine Relation.ReflTransGen.head_induction_on
      (motive := fun a _ => s'.length ≤ a.2.length) matched (Nat.le_refl _) ?_
    intro a b first _ shorter
    have := ih first
    omega
  | part name body ih =>
    obtain ⟨inner, matched, -⟩ := matched
    exact ih matched

/-- The matcher misses no match: the order in which it tries them decides only which one it comes to. -/
theorem run_of_matches {p : Pattern Part} (productive : p.Productive) :
    TriesAll (fun a b => p.Matches a.1 a.2 b.1 b.2) (p.run (β := β)) := by
  induction p with
  | nothing =>
    rintro parts s _ _ next ⟨rfl, rfl⟩ goesOn
    exact goesOn
  | atEnd =>
    rintro parts s _ _ next ⟨rfl, rfl, rfl⟩ goesOn
    exact goesOn
  | one accepts =>
    rintro parts _ _ s next ⟨rfl, c, accepted, rfl⟩ goesOn
    rw [run_one_cons, if_pos accepted]
    exact goesOn
  | andThen first second ih₁ ih₂ =>
    rintro parts s parts' s' next ⟨between, s₁, m₁, m₂⟩ goesOn
    exact ih₁ productive.1 _ _ _ _ _ m₁ (ih₂ productive.2 _ _ _ _ _ m₂ goesOn)
  | orElse preferred other ih₁ ih₂ =>
    rintro parts s parts' s' next matched goesOn
    rw [run_orElse, isSome_orElse]
    exact matched.imp (ih₁ productive.1 _ _ _ _ _ · goesOn) (ih₂ productive.2 _ _ _ _ _ · goesOn)
  | many appetite body ih =>
    intro parts s parts' s' next matched goesOn
    refine (ih productive.2).repeated (fun a b step => ?_) appetite (Nat.le_refl _) matched goesOn
    have shorter := step.short
    have takes := productive.1
    omega
  | part name body ih =>
    rintro parts s parts' s' next ⟨inner, matched, named⟩ goesOn
    obtain rfl : parts' = (name, ⟨s, s'⟩) :: inner := named
    exact ih productive _ _ _ _ _ matched goesOn

theorem isSome_matchAt?_iff {p : Pattern Part} (productive : p.Productive) {s : List Char} :
    (p.matchAt? s).isSome = true ↔ ∃ parts rest, p.Matches [] s parts rest := by
  constructor
  · intro found
    obtain ⟨m, found⟩ := Option.isSome_iff_exists.1 found
    exact ⟨m.parts, m.after, matches_of_matchAt? found⟩
  · rintro ⟨parts, rest, matched⟩
    exact run_of_matches productive _ _ _ _ _ matched rfl

/-- What is read off the match that is found, where all matches at the start of a text agree on it. -/
theorem exists_matchAt?_iff {p : Pattern Part} (productive : p.Productive) {s : List Char} {f : Parts Part → α}
    (agree : ∀ {parts rest parts' rest'}, p.Matches [] s parts rest → p.Matches [] s parts' rest' →
      f parts = f parts') {a : α} :
    (∃ m, p.matchAt? s = some m ∧ f m.parts = a) ↔ ∃ parts rest, p.Matches [] s parts rest ∧ f parts = a := by
  constructor
  · rintro ⟨m, found, read⟩
    exact ⟨m.parts, m.after, matches_of_matchAt? found, read⟩
  · rintro ⟨parts, rest, matched, read⟩
    have found := (isSome_matchAt?_iff productive).2 ⟨parts, rest, matched⟩
    obtain ⟨m, found⟩ := Option.isSome_iff_exists.1 found
    exact ⟨m, found, (agree (matches_of_matchAt? found) matched).trans read⟩

@[simp] theorem productive_atEnd : (atEnd : Pattern Part).Productive := trivial

@[simp] theorem productive_one (accepts : Char → Bool) : (one accepts : Pattern Part).Productive := trivial

@[simp] theorem productive_part {name : Part} {body : Pattern Part} :
    (part name body).Productive ↔ body.Productive := Iff.rfl

@[simp] theorem productive_optional {p : Pattern Part} : (optional p).Productive ↔ p.Productive :=
  and_iff_left trivial

@[simp] theorem productive_atLeastOne (appetite : Appetite) (accepts : Char → Bool) :
    (atLeastOne appetite (one accepts) : Pattern Part).Productive := ⟨trivial, Nat.one_pos, trivial⟩

@[simp] theorem productive_chain {patterns : List (Pattern Part)} :
    (chain patterns).Productive ↔ ∀ p ∈ patterns, p.Productive := by
  induction patterns with
  | nil => simp [chain, Productive]
  | cons p rest ih => simp [chain, Productive, ih]

@[simp] theorem productive_literal (text : List Char) : (literal text : Pattern Part).Productive := by
  simp [literal]

end Pattern

end DocLinks
