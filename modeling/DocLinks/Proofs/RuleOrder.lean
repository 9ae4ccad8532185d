import DocLinks.Proofs.ShapeGrammar
import Mathlib.Data.List.Nodup

namespace DocLinks

/-- Where at most one element gives a result, it does not matter in which order they are asked. -/
theorem findSome?_eq_of_mem_iff {α β : Type} {l l' : List α} {f : α → Option β} (same : ∀ a, a ∈ l ↔ a ∈ l')
    (unique : ∀ a ∈ l, ∀ b ∈ l, (f a).isSome = true → (f b).isSome = true → a = b) :
    l.findSome? f = l'.findSome? f := by
  cases found' : l'.findSome? f with
  | none =>
    rw [List.findSome?_eq_none_iff] at found' ⊢
    exact fun a member => found' a ((same a).1 member)
  | some r =>
    obtain ⟨a, member, gives⟩ := List.exists_of_findSome?_eq_some found'
    have inL := (same a).2 member
    cases found : l.findSome? f with
    | none => cases (List.findSome?_eq_none_iff.1 found a inL).symm.trans gives
    | some s =>
      obtain ⟨b, member', gives'⟩ := List.exists_of_findSome?_eq_some found
      obtain rfl := unique a inL b member' (gives ▸ rfl) (gives' ▸ rfl)
      exact gives'.symm.trans gives

namespace Rule

/-- Whether a rule applies to links of a kind and reads this one. -/
def fires (rule : Rule) (site : Site) (link : Text) (isImage : Bool) : Bool :=
  rule.audience.accepts isImage && (rule.shape? site link).isSome

theorem nodup_table : table.Nodup := .of_map Rule.name (by decide)

end Rule

namespace Site

/-- The first of the rules that reads a link, and the shape it reads. -/
def firstOf? (site : Site) (rules : List Rule) (link : Text) (isImage : Bool) : Option (String × LinkShape) :=
  (rules.filter (·.audience.accepts isImage)).findSome? fun rule =>
    (rule.shape? site link).map fun shape => (rule.name, shape)

/-- The shape of a link by a table of rules. -/
def classifyBy (site : Site) (rules : List Rule) (link : Text) (isImage : Bool) : LinkShape :=
  match site.firstOf? rules link isImage with
  | some (_, shape) => shape
  | none => .invalid isImage

variable {site : Site} {link : Text} {isImage : Bool} {rule rule' : Rule}

/-- How a link begins decides which rule can read it. -/
theorem onlyRule_eq_of_fires (member : rule ∈ Rule.table) (fired : rule.fires site link isImage = true) :
    site.onlyRule link isImage = rule := by
  obtain ⟨accepts, shaped⟩ := Bool.and_eq_true_iff.1 fired
  obtain ⟨shape, shaped⟩ := Option.isSome_iff_exists.1 shaped
  exact (reads_of_rule member shaped).onlyRule_eq (rule?_of_shape? member shaped) accepts

theorem rule_unique (member : rule ∈ Rule.table) (member' : rule' ∈ Rule.table)
    (fired : rule.fires site link isImage = true) (fired' : rule'.fires site link isImage = true) :
    rule = rule' :=
  (onlyRule_eq_of_fires member fired).symm.trans (onlyRule_eq_of_fires member' fired')

theorem countP_fires_le_one (site : Site) (link : Text) (isImage : Bool) :
    Rule.table.countP (·.fires site link isImage) ≤ 1 := by
  have once := Rule.nodup_table.filter (·.fires site link isImage)
  have unique : ∀ rule ∈ Rule.table.filter (·.fires site link isImage), site.onlyRule link isImage = rule := by
    intro rule kept
    obtain ⟨member, fired⟩ := List.mem_filter.1 kept
    exact onlyRule_eq_of_fires member fired
  rw [List.countP_eq_length_filter]
  generalize Rule.table.filter (·.fires site link isImage) = kept at once unique
  match kept with
  | [] => exact Nat.zero_le 1
  | [_] => exact Nat.le_refl 1
  | first :: second :: rest =>
    have same := (unique first (by simp)).symm.trans (unique second (by simp))
    simp [same] at once

theorem firstOf?_of_perm {rules : List Rule} (perm : rules.Perm Rule.table) :
    site.firstOf? rules link isImage = site.matchingRule? link isImage := by
  refine findSome?_eq_of_mem_iff (fun rule => (perm.filter _).mem_iff) fun rule kept rule' kept' gives gives' => ?_
  obtain ⟨member, accepts⟩ := List.mem_filter.1 kept
  obtain ⟨member', accepts'⟩ := List.mem_filter.1 kept'
  rw [Option.isSome_map] at gives gives'
  exact rule_unique (perm.mem_iff.1 member) (perm.mem_iff.1 member') (Bool.and_eq_true_iff.2 ⟨accepts, gives⟩)
    (Bool.and_eq_true_iff.2 ⟨accepts', gives'⟩)

/-- At most one rule that applies to a link reads it, so the order of the table decides nothing: in any other order
the same rule reads the same shape. The two rules for links that begin with a slash never meet, whatever the prefix
of the site is made of, and neither do those for the web and for documents below the root. -/
theorem rules_exclude_each_other (sitePrefix link : Text) (isImage : Bool) :
    let site := ofPrefix sitePrefix
    Rule.table.countP (·.fires site link isImage) ≤ 1 ∧
    (∀ rules, rules.Perm Rule.table → site.firstOf? rules link isImage = site.matchingRule? link isImage ∧
      site.classifyBy rules link isImage = site.classify link isImage) ∧
    ¬((Rule.absoluteDoc.shape? site link).isSome = true ∧ (Rule.rawAbsoluteFile.shape? site link).isSome = true) ∧
    ¬((Rule.external.shape? site link).isSome = true ∧ (Rule.docroot.shape? site link).isSome = true) := by
  intro site
  have apart {a b : Rule} (inTable : a ∈ Rule.table ∧ b ∈ Rule.table) (forDocs : a.audience.accepts false = true ∧
      b.audience.accepts false = true) (differ : a.name ≠ b.name) :
      ¬((a.shape? site link).isSome = true ∧ (b.shape? site link).isSome = true) := by
    rintro ⟨shaped, shaped'⟩
    have same := rule_unique inTable.1 inTable.2 (Bool.and_eq_true_iff.2 ⟨forDocs.1, shaped⟩)
      (Bool.and_eq_true_iff.2 ⟨forDocs.2, shaped'⟩)
    exact differ (congrArg Rule.name same)
  refine ⟨site.countP_fires_le_one link isImage, fun rules perm => ?_, ?_, ?_⟩
  · have first : site.firstOf? rules link isImage = site.matchingRule? link isImage := firstOf?_of_perm perm
    exact ⟨first, by simp only [classifyBy, first]; rfl⟩
  · exact apart ⟨by simp [Rule.table], by simp [Rule.table]⟩ ⟨rfl, rfl⟩ (by decide)
  · exact apart ⟨by simp [Rule.table], by simp [Rule.table]⟩ ⟨rfl, rfl⟩ (by decide)

/-- A prefix that looks like a link itself and like a pattern, with the table read from its end. -/
theorem rules_exclude_each_other_reversed :
    let site := ofPrefix "/a.*#b.md/".toList
    Rule.table.reverse.Perm Rule.table ∧
      site.classifyBy Rule.table.reverse "/a.*#b.md/1.2.3/c#d.md".toList false =
        .absoluteDoc "c".toList (some "1.2.3".toList) ∧
      site.classifyBy Rule.table.reverse "/aa#b.md".toList false = .rawAbsoluteFile := by
  intro site
  have perm : Rule.table.reverse.Perm Rule.table := List.reverse_perm _
  have inside : site.classify "/a.*#b.md/1.2.3/c#d.md".toList false =
      .absoluteDoc "c".toList (some "1.2.3".toList) := by decide +kernel
  have outside : site.classify "/aa#b.md".toList false = .rawAbsoluteFile := by decide +kernel
  refine ⟨perm, ?_, ?_⟩
  · rw [((rules_exclude_each_other _ _ _).2.1 _ perm).2, inside]
  · rw [((rules_exclude_each_other _ _ _).2.1 _ perm).2, outside]

end Site

end DocLinks
