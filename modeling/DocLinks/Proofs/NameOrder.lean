import DocLinks.Tree.Walk
import Mathlib.Data.List.Nodup
import Mathlib.Tactic.SplitIfs

namespace DocLinks

theorem nodup_eraseDups {α : Type} [BEq α] [LawfulBEq α] : (l : List α) → l.eraseDups.Nodup
  | [] => List.nodup_nil
  | a :: l => by
    rw [List.eraseDups_cons, List.nodup_cons]
    refine ⟨fun again => ?_, nodup_eraseDups _⟩
    have kept := (List.mem_filter.1 (List.mem_eraseDups.1 again)).2
    simp at kept
termination_by l => l.length
decreasing_by exact Nat.lt_succ_of_le (List.length_filter_le _ l)

namespace Name

/-- The octets of a name in UTF-8. -/
def octets (n : Name) : List UInt8 := n.flatMap String.utf8EncodeChar

/-- UTF-8 keeps the order of code points: the octets of two characters differ first where the greater code
point has the greater octet, be they equally many or not. -/
theorem encode_append_lt {a b : Char} (less : a.toNat < b.toNat) (s t : List UInt8) :
    String.utf8EncodeChar a ++ s < String.utf8EncodeChar b ++ t := by
  have valid : b.toNat < 0x110000 := by
    rcases b.valid with low | high
    · exact Nat.lt_trans low (by decide)
    · exact high.2
  simp only [Char.toNat] at less valid
  simp only [String.utf8EncodeChar]
  generalize a.val.toNat = m at *
  generalize b.val.toNat = n at *
  split_ifs <;> try omega
  all_goals
    simp only [List.cons_append, List.nil_append, List.cons_lt_cons_iff, UInt8.lt_iff_toNat_lt,
      ← UInt8.toNat_inj, UInt8.toNat_ofNat']
    -- with the bounds of the octets gone, what is left is the order of two numbers by their digits
    simp (disch := omega) only [Nat.mod_eq_of_lt]
    omega

theorem encode_ne_nil (c : Char) : String.utf8EncodeChar c ≠ [] := by
  simp only [String.utf8EncodeChar]
  split_ifs <;> exact List.cons_ne_nil _ _

theorem octets_lt_of_le {a b : Name} (le : Name.le a b = true) (ne : a ≠ b) : a.octets < b.octets := by
  induction a generalizing b with
  | nil =>
    obtain ⟨c, t, rfl⟩ := List.exists_cons_of_ne_nil ne.symm
    obtain ⟨first, rest, eq⟩ := List.exists_cons_of_ne_nil (encode_ne_nil c)
    simp only [octets, List.flatMap_nil, List.flatMap_cons, eq, List.cons_append]
    exact List.nil_lt_cons _ _
  | cons c s ih =>
    cases b with
    | nil => cases le
    | cons d t =>
      simp only [Name.le, Bool.or_eq_true, Bool.and_eq_true, decide_eq_true_eq, beq_iff_eq] at le
      simp only [octets, List.flatMap_cons]
      rcases le with less | ⟨rfl, le⟩
      · exact encode_append_lt less _ _
      · have ne : s ≠ t := by
          rintro rfl
          exact ne rfl
        exact List.append_left_lt (ih le ne)

theorem le_total (a b : Name) : (Name.le a b || Name.le b a) = true := by
  induction a generalizing b with
  | nil => rfl
  | cons c s ih =>
    cases b with
    | nil => rfl
    | cons d t =>
      have tails := ih t
      simp only [Name.le, Bool.or_eq_true, Bool.and_eq_true, decide_eq_true_eq, beq_iff_eq] at tails ⊢
      rcases Nat.lt_trichotomy c.toNat d.toNat with less | same | more
      · exact .inl (.inl less)
      · have same : c = d := Char.toNat_inj.1 same
        rcases tails with le | le
        · exact .inl (.inr ⟨same, le⟩)
        · exact .inr (.inr ⟨same.symm, le⟩)
      · exact .inr (.inl more)

theorem le_iff_octets_le {a b : Name} : Name.le a b = true ↔ a.octets ≤ b.octets := by
  by_cases same : a = b
  · have both := le_total a b
    subst same
    simpa using both
  · constructor
    · exact fun le => List.le_of_lt (octets_lt_of_le le same)
    · intro octetsLe
      rcases Bool.or_eq_true_iff.1 (le_total a b) with le | le
      · exact le
      · exact absurd (octets_lt_of_le le (Ne.symm same)) octetsLe

end Name

namespace Path

/-- The order of paths by their steps, and of steps by their octets. -/
def Precedes (p q : Path) : Prop := p.steps.map Name.octets < q.steps.map Name.octets

theorem precedes_of_prefix {p q : Path} {name : Name} {names : List Name}
    (longer : q.steps = p.steps ++ name :: names) : p.Precedes q := by
  have less : p.steps.map Name.octets ++ [] < p.steps.map Name.octets ++ (name :: names).map Name.octets :=
    List.append_left_lt (List.nil_lt_cons _ _)
  rw [Precedes, longer, List.map_append]
  simpa only [List.append_nil] using less

theorem precedes_of_lt {p q : Path} {front s t : List Name} {a b : Name} (left : p.steps = front ++ a :: s)
    (right : q.steps = front ++ b :: t) (less : a.octets < b.octets) : p.Precedes q := by
  rw [Precedes, left, right, List.map_append, List.map_append]
  exact List.append_left_lt (List.cons_lt_cons_iff.2 (.inl less))

theorem ne_of_precedes {p q : Path} (before : p.Precedes q) : p ≠ q := by
  rintro rfl
  exact List.lt_irrefl _ before

end Path

namespace Tree

theorem mem_names {t : Tree} {place : Location} {name : Name} :
    name ∈ t.names place ↔ ∃ entry, t.lookup? (name :: place) = some entry := by
  rw [names, (List.mergeSort_perm _ _).mem_iff, List.mem_eraseDups, List.mem_filterMap]
  constructor
  · rintro ⟨⟨_ | ⟨first, above⟩, entry⟩, member, eq⟩
    · cases eq
    · dsimp only at eq
      split at eq
      · next same =>
        cases eq
        subst same
        exact Option.isSome_iff_exists.1 (List.lookup_isSome_iff.2 ⟨_, member, beq_self_eq_true _⟩)
      · cases eq
  · rintro ⟨entry, found⟩
    exact ⟨_, mem_entries found, if_pos rfl⟩

/-- The names in a folder stand in the order of their octets, none of them twice. -/
theorem pairwise_names (t : Tree) (place : Location) :
    (t.names place).Pairwise fun a b => a.octets < b.octets := by
  have sorted : (t.names place).Pairwise fun a b => Name.le a b = true := by
    refine List.pairwise_mergeSort (fun a b c ab bc => ?_) Name.le_total _
    rw [Name.le_iff_octets_le] at ab bc ⊢
    exact List.le_trans ab bc
  have once : (t.names place).Nodup := (List.mergeSort_perm _ _).nodup_iff.2 (nodup_eraseDups _)
  exact (sorted.and once).imp fun ⟨le, ne⟩ => Name.octets_lt_of_le le ne

end Tree

end DocLinks
