import DocLinks.Proofs.PatternRuns
import Mathlib.Logic.Relation

namespace DocLinks

variable {Part β : Type}

/-- What a pattern matches, whatever order its ways are tried in: from the parts named before and the text to
match it leads to the parts named after and the text left. -/
def Pattern.Matches : Pattern Part → Parts Part → List Char → Parts Part → List Char → Prop
  | nothing, parts, s, parts', s' => parts' = parts ∧ s' = s
  | atEnd, parts, s, parts', s' => parts' = parts ∧ s' = s ∧ s = []
  | one accepts, parts, s, parts', s' => parts' = parts ∧ ∃ c, accepts c = true ∧ s = c :: s'
  | andThen first second, parts, s, parts', s' =>
    ∃ between s₁, first.Matches parts s between s₁ ∧ second.Matches between s₁ parts' s'
  | orElse preferred other, parts, s, parts', s' =>
    preferred.Matches parts s parts' s' ∨ other.Matches parts s parts' s'
  | many _ body, parts, s, parts', s' =>
    Relation.ReflTransGen (fun a b => body.Matches a.1 a.2 b.1 b.2) (parts, s) (parts', s')
  | part name body, parts, s, parts', s' =>
    ∃ inner, body.Matches parts s inner s' ∧ parts' = (name, ⟨s, s'⟩) :: inner

/-- A matcher that hands on only what the relation leads to. -/
def LeadsBy (R : Parts Part × List Char → Parts Part × List Char → Prop)
    (body : Parts Part → List Char → Continuation Part β → Option β) : Prop :=
  ∀ parts s next r, body parts s next = some r →
    ∃ parts' s', R (parts, s) (parts', s') ∧ next parts' s' = some r

theorem LeadsBy.repeated {R : Parts Part × List Char → Parts Part × List Char → Prop}
    {body : Parts Part → List Char → Continuation Part β → Option β} (h : LeadsBy R body)
    (appetite : Appetite) (bound : List Char) :
    LeadsBy (Relation.ReflTransGen R) (appetite.repeated body bound) := by
  induction bound with
  | nil => exact fun parts s next r hr => ⟨parts, s, .refl, hr⟩
  | cons b bound ih =>
    intro parts s next r hr
    have stop (hn : next parts s = some r) :
        ∃ parts' s', Relation.ReflTransGen R (parts, s) (parts', s') ∧ next parts' s' = some r :=
      ⟨parts, s, .refl, hn⟩
    have go (hb : body parts s (fun parts s => appetite.repeated body bound parts s next) = some r) :
        ∃ parts' s', Relation.ReflTransGen R (parts, s) (parts', s') ∧ next parts' s' = some r := by
      obtain ⟨p₁, s₁, first, hr₁⟩ := h _ _ _ _ hb
      obtain ⟨p₂, s₂, rest, hr₂⟩ := ih _ _ _ _ hr₁
      exact ⟨p₂, s₂, .head first rest, hr₂⟩
    cases appetite with
    | greedy => exact (eq_some_or_of_orElse hr).elim go stop
    | lazy => exact (eq_some_or_of_orElse hr).elim stop go

namespace Pattern

theorem matches_of_run (p : Pattern Part) :
    LeadsBy (fun a b => p.Matches a.1 a.2 b.1 b.2) (p.run (β := β)) := by
  induction p with
  | nothing => exact fun parts s next r hr => ⟨parts, s, ⟨rfl, rfl⟩, hr⟩
  | atEnd =>
    intro parts s next r hr
    simp only [run] at hr
    split at hr
    · next atEnd => exact ⟨parts, s, ⟨rfl, rfl, List.isEmpty_iff.1 atEnd⟩, hr⟩
    · cases hr
  | one accepts =>
    intro parts s next r hr
    cases s with
    | nil => cases hr
    | cons c s =>
      simp only [run] at hr
      split at hr
      · next accepted => exact ⟨parts, s, ⟨rfl, c, accepted, rfl⟩, hr⟩
      · cases hr
  | andThen first second ih₁ ih₂ =>
    intro parts s next r hr
    obtain ⟨p₁, s₁, m₁, hr₁⟩ := ih₁ _ _ _ _ hr
    obtain ⟨p₂, s₂, m₂, hr₂⟩ := ih₂ _ _ _ _ hr₁
    exact ⟨p₂, s₂, ⟨p₁, s₁, m₁, m₂⟩, hr₂⟩
  | orElse preferred other ih₁ ih₂ =>
    intro parts s next r hr
    rcases eq_some_or_of_orElse hr with hr | hr
    · obtain ⟨p₁, s₁, m₁, hr₁⟩ := ih₁ _ _ _ _ hr
      exact ⟨p₁, s₁, .inl m₁, hr₁⟩
    · obtain ⟨p₁, s₁, m₁, hr₁⟩ := ih₂ _ _ _ _ hr
      exact ⟨p₁, s₁, .inr m₁, hr₁⟩
  | many appetite body ih => exact fun parts s => ih.repeated appetite s parts s
  | part name body ih =>
    intro parts s next r hr
    obtain ⟨p₁, s₁, m₁, hr₁⟩ := ih _ _ _ _ hr
    exact ⟨(name, ⟨s, s₁⟩) :: p₁, s₁, ⟨p₁, m₁, rfl⟩, hr₁⟩

theorem matches_of_matchAt? {p : Pattern Part} {s : List Char} {m : Match Part} (h : p.matchAt? s = some m) :
    p.Matches [] s m.parts m.after := by
  obtain ⟨parts, rest, matched, eq⟩ := p.matches_of_run _ _ _ _ h
  cases eq
  exact matched

variable {parts parts' : Parts Part} {s s' : List Char}

theorem matches_literal {text : List Char} :
    (literal text).Matches parts s parts' s' ↔ parts' = parts ∧ s = text ++ s' := by
  induction text generalizing s with
  | nil => exact ⟨fun ⟨same, left⟩ => ⟨same, left.symm⟩, fun ⟨same, left⟩ => ⟨same, left.symm⟩⟩
  | cons c text ih =>
    constructor
    · rintro ⟨_, _, ⟨rfl, d, same, rfl⟩, rest⟩
      obtain ⟨rfl, rfl⟩ := ih.1 rest
      exact ⟨rfl, by rw [eq_of_beq same]; rfl⟩
    · rintro ⟨rfl, rfl⟩
      exact ⟨_, _, ⟨rfl, c, beq_self_eq_true c, rfl⟩, ih.2 ⟨rfl, rfl⟩⟩

theorem matches_many_one {appetite : Appetite} {accepts : Char → Bool} :
    (many appetite (one accepts)).Matches parts s parts' s' ↔
      parts' = parts ∧ ∃ t, (∀ c ∈ t, accepts c = true) ∧ s = t ++ s' := by
  constructor
  · intro run
    refine Relation.ReflTransGen.head_induction_on
      (motive := fun a _ => parts' = a.1 ∧ ∃ t, (∀ c ∈ t, accepts c = true) ∧ a.2 = t ++ s') run ?_ ?_
    · exact ⟨rfl, [], by simp, rfl⟩
    · rintro ⟨_, _⟩ ⟨_, _⟩ ⟨same, c, accepted, first⟩ - ⟨rfl, t, all, rest⟩
      exact ⟨same, c :: t, List.forall_mem_cons.2 ⟨accepted, all⟩, by simp_all⟩
  · rintro ⟨rfl, t, all, rfl⟩
    induction t with
    | nil => exact .refl
    | cons c t ih =>
      obtain ⟨accepted, all⟩ := List.forall_mem_cons.1 all
      have first : (one accepts).Matches parts' (c :: t ++ s') parts' (t ++ s') := ⟨rfl, c, accepted, rfl⟩
      exact Relation.ReflTransGen.head (b := (parts', t ++ s')) first (ih all)

theorem matches_atLeastOne {appetite : Appetite} {accepts : Char → Bool} :
    (atLeastOne appetite (one accepts)).Matches parts s parts' s' ↔
      parts' = parts ∧ ∃ t, t ≠ [] ∧ (∀ c ∈ t, accepts c = true) ∧ s = t ++ s' := by
  constructor
  · rintro ⟨_, _, ⟨rfl, c, accepted, rfl⟩, run⟩
    obtain ⟨rfl, t, all, rfl⟩ := matches_many_one.1 run
    exact ⟨rfl, c :: t, List.cons_ne_nil c t, List.forall_mem_cons.2 ⟨accepted, all⟩, rfl⟩
  · rintro ⟨rfl, t, nonempty, all, rfl⟩
    obtain ⟨c, t, rfl⟩ := List.exists_cons_of_ne_nil nonempty
    obtain ⟨accepted, all⟩ := List.forall_mem_cons.1 all
    exact ⟨_, _, ⟨rfl, c, accepted, rfl⟩, matches_many_one.2 ⟨rfl, t, all, rfl⟩⟩

end Pattern

end DocLinks
