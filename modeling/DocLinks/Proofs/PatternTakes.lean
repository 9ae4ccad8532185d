import DocLinks.Proofs.PatternCompleteness
import DocLinks.Text.Basic

namespace DocLinks

namespace Pattern

variable {Part : Type}

/-- The pattern names no part, and takes just the texts of a kind. -/
def Takes (p : Pattern Part) (Kind : Text → Prop) : Prop :=
  ∀ parts s parts' s', p.Matches parts s parts' s' ↔ parts' = parts ∧ ∃ t, Kind t ∧ s = t ++ s'

namespace Takes

variable {p q : Pattern Part} {Kind Other : Text → Prop}

theorem congr (takes : p.Takes Kind) (same : ∀ t, Kind t ↔ Other t) : p.Takes Other := by
  intro parts s parts' s'
  simp only [takes parts s parts' s', same]

theorem nothing : (nothing : Pattern Part).Takes (· = []) := by
  intro parts s parts' s'
  exact and_congr_right fun _ => by simp [eq_comm]

theorem empty : (chain [] : Pattern Part).Takes (· = []) := nothing

theorem one (accepts : Char → Bool) :
    (one accepts : Pattern Part).Takes fun t => ∃ c, accepts c = true ∧ t = [c] := by
  intro parts s parts' s'
  refine and_congr_right fun _ => ⟨?_, ?_⟩
  · rintro ⟨c, accepted, rfl⟩
    exact ⟨[c], ⟨c, accepted, rfl⟩, rfl⟩
  · rintro ⟨_, ⟨c, accepted, rfl⟩, rfl⟩
    exact ⟨c, accepted, rfl⟩

theorem andThen (first : p.Takes Kind) (next : q.Takes Other) :
    (andThen p q).Takes fun t => ∃ a b, Kind a ∧ Other b ∧ t = a ++ b := by
  intro parts s parts' s'
  constructor
  · rintro ⟨between, s₁, m₁, m₂⟩
    obtain ⟨rfl, a, kindA, rfl⟩ := (first _ _ _ _).1 m₁
    obtain ⟨rfl, b, kindB, rfl⟩ := (next _ _ _ _).1 m₂
    exact ⟨rfl, a ++ b, ⟨a, b, kindA, kindB, rfl⟩, (List.append_assoc a b s').symm⟩
  · rintro ⟨rfl, _, ⟨a, b, kindA, kindB, rfl⟩, rfl⟩
    exact ⟨parts', b ++ s', (first _ _ _ _).2 ⟨rfl, a, kindA, List.append_assoc a b s'⟩,
      (next _ _ _ _).2 ⟨rfl, b, kindB, rfl⟩⟩

theorem single (takes : p.Takes Kind) : (chain [p]).Takes Kind := by
  refine (takes.andThen nothing).congr fun t => ⟨?_, ?_⟩
  · rintro ⟨a, _, kind, rfl, rfl⟩
    exact (List.append_nil a).symm ▸ kind
  · exact fun kind => ⟨t, [], kind, rfl, (List.append_nil t).symm⟩

theorem optional (takes : p.Takes Kind) : (optional p).Takes fun t => Kind t ∨ t = [] := by
  intro parts s parts' s'
  simp only [Pattern.optional, Matches, takes parts s parts' s']
  constructor
  · rintro (⟨same, t, kind, rfl⟩ | ⟨same, rfl⟩)
    · exact ⟨same, t, .inl kind, rfl⟩
    · exact ⟨same, [], .inr rfl, rfl⟩
  · rintro ⟨same, t, kind | rfl, rfl⟩
    · exact .inl ⟨same, t, kind, rfl⟩
    · exact .inr ⟨same, rfl⟩

theorem literal (text : Text) : (literal text : Pattern Part).Takes (· = text) := by
  intro parts s parts' s'
  simp only [matches_literal, exists_eq_left]

theorem atLeastOne (appetite : Appetite) (accepts : Char → Bool) :
    (atLeastOne appetite (.one accepts) : Pattern Part).Takes fun t => t ≠ [] ∧ ∀ c ∈ t, accepts c = true := by
  intro parts s parts' s'
  simp only [matches_atLeastOne, and_assoc]

end Takes

theorem matches_chain_append (first next : List (Pattern Part)) {parts parts' : Parts Part} {s s' : Text} :
    (chain (first ++ next)).Matches parts s parts' s' ↔
      ∃ between s₁, (chain first).Matches parts s between s₁ ∧ (chain next).Matches between s₁ parts' s' := by
  induction first generalizing parts s with
  | nil =>
    constructor
    · exact fun later => ⟨parts, s, ⟨rfl, rfl⟩, later⟩
    · rintro ⟨_, _, ⟨rfl, rfl⟩, later⟩
      exact later
  | cons p first ih =>
    constructor
    · rintro ⟨parts₁, s₁, matched, rest⟩
      obtain ⟨parts₂, s₂, before, after⟩ := ih.1 rest
      exact ⟨parts₂, s₂, ⟨parts₁, s₁, matched, before⟩, after⟩
    · rintro ⟨parts₂, s₂, ⟨parts₁, s₁, matched, before⟩, after⟩
      exact ⟨parts₁, s₁, matched, ih.2 ⟨parts₂, s₂, before, after⟩⟩

theorem matches_ending {tail : List (Pattern Part)} {Tail : Text → Prop} (takes : (chain tail).Takes Tail)
    {parts parts' : Parts Part} {s s' : Text} :
    (chain (tail ++ [atEnd])).Matches parts s parts' s' ↔ parts' = parts ∧ s' = [] ∧ Tail s := by
  rw [matches_chain_append]
  constructor
  · rintro ⟨_, _, taken, _, _, ⟨rfl, rfl, rfl⟩, rfl, rfl⟩
    obtain ⟨rfl, t, isTail, rfl⟩ := (takes _ _ _ _).1 taken
    exact ⟨rfl, rfl, (List.append_nil t).symm ▸ isTail⟩
  · rintro ⟨rfl, rfl, isTail⟩
    exact ⟨_, [], (takes _ _ _ _).2 ⟨rfl, s, isTail, (List.append_nil s).symm⟩, _, _, ⟨rfl, rfl, rfl⟩, rfl, rfl⟩

/-- A pattern without names matches just where a text of its kind stands first. -/
theorem Takes.isSome_matchAt?_iff {p : Pattern Part} {Kind : Text → Prop} (takes : p.Takes Kind)
    (productive : p.Productive) {s : Text} : (p.matchAt? s).isSome = true ↔ ∃ t, Kind t ∧ t <+: s := by
  rw [Pattern.isSome_matchAt?_iff productive]
  constructor
  · rintro ⟨parts, rest, matched⟩
    obtain ⟨-, t, kind, rfl⟩ := (takes _ _ _ _).1 matched
    exact ⟨t, kind, List.prefix_append t rest⟩
  · rintro ⟨t, kind, rest, rfl⟩
    exact ⟨[], rest, (takes _ _ _ _).2 ⟨rfl, t, kind, rfl⟩⟩

theorem Takes.isSome_matchAt?_ending_iff {tail : List (Pattern Part)} {Tail : Text → Prop}
    (takes : (chain tail).Takes Tail) (productive : (chain (tail ++ [atEnd])).Productive) {s : Text} :
    ((chain (tail ++ [atEnd])).matchAt? s).isSome = true ↔ Tail s := by
  rw [Pattern.isSome_matchAt?_iff productive]
  constructor
  · rintro ⟨parts, rest, matched⟩
    exact ((matches_ending takes).1 matched).2.2
  · exact fun isTail => ⟨[], [], (matches_ending takes).2 ⟨rfl, rfl, isTail⟩⟩

end Pattern

end DocLinks
