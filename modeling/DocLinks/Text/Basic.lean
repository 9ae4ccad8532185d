namespace DocLinks

abbrev Text := List Char

namespace Text

/-- The text without the run of `c` that it ends with. -/
def dropTrailing (c : Char) (t : Text) : Text := (t.reverse.dropWhile (· == c)).reverse

/-- The text without the runs of `c` at its two ends. -/
def strip (c : Char) (t : Text) : Text := dropTrailing c (t.dropWhile (· == c))

theorem mem_of_mem_dropTrailing {c d : Char} {t : Text} (member : c ∈ dropTrailing d t) : c ∈ t :=
  List.mem_reverse.1 ((List.dropWhile_sublist _).mem (List.mem_reverse.1 member))

theorem mem_of_mem_strip {c d : Char} {t : Text} (member : c ∈ strip d t) : c ∈ t :=
  (List.dropWhile_sublist _).mem (mem_of_mem_dropTrailing member)

theorem dropTrailing_eq_self {c : Char} {t : Text} (closed : t.getLast? ≠ some c) :
    dropTrailing c t = t := by
  have kept : t.reverse.dropWhile (· == c) = t.reverse := by
    rw [← List.head?_reverse] at closed
    cases back : t.reverse with
    | nil => rfl
    | cons d back =>
      rw [back] at closed
      exact List.dropWhile_cons_of_neg (by simpa using closed)
  rw [dropTrailing, kept, List.reverse_reverse]

theorem dropTrailing_append_replicate (c : Char) (t : Text) (n : Nat) :
    dropTrailing c (t ++ List.replicate n c) = dropTrailing c t := by
  have ended : (List.replicate n c).dropWhile (· == c) = [] := by simp
  rw [dropTrailing, List.reverse_append, List.reverse_replicate, List.dropWhile_append, ended]
  rfl

/-- The characters that are stripped may stand at the ends of a text in any number. -/
theorem strip_surrounded (c : Char) (t : Text) (m n : Nat) :
    strip c (List.replicate m c ++ t ++ List.replicate n c) = strip c t := by
  have begun : (List.replicate m c).dropWhile (· == c) = [] := by simp
  have ended : (List.replicate n c).dropWhile (· == c) = [] := by simp
  have front : (List.replicate m c ++ t ++ List.replicate n c).dropWhile (· == c) =
      (t ++ List.replicate n c).dropWhile (· == c) := by
    rw [List.append_assoc, List.dropWhile_append, begun]
    rfl
  rw [strip, front, List.dropWhile_append]
  split
  · next allStripped =>
    rw [List.isEmpty_iff] at allStripped
    rw [strip, ended, allStripped]
  · rw [dropTrailing_append_replicate, strip]

/-- The pieces between the occurrences of `c`, always at least one. -/
def splitOn (c : Char) : Text → List Text
  | [] => [[]]
  | d :: t =>
    if d = c then [] :: splitOn c t
    else
      match splitOn c t with
      | [] => [[d]]
      | piece :: pieces => (d :: piece) :: pieces

theorem splitOn_ne_nil (c : Char) (t : Text) : splitOn c t ≠ [] := by
  cases t with
  | nil => simp [splitOn]
  | cons d t =>
    unfold splitOn
    split
    · simp
    · split <;> simp

theorem splitOn_eq (c : Char) (t : Text) : splitOn c t = List.splitOn c t := by
  induction t with
  | nil => rfl
  | cons d t ih =>
    rw [List.splitOn_cons_eq_if_modifyHead, ← ih, splitOn]
    by_cases same : d = c
    · simp [same]
    · rw [if_neg same, if_neg (by simpa using same)]
      obtain ⟨piece, pieces, eq⟩ := List.exists_cons_of_ne_nil (splitOn_ne_nil c t)
      rw [eq, List.modifyHead_cons]

theorem intercalate_splitOn (c : Char) (t : Text) : List.intercalate [c] (splitOn c t) = t := by
  rw [splitOn_eq, List.intercalate_splitOn]

/-- The ASCII capital of a small first letter. -/
def capitalize : Text → Text
  | [] => []
  | c :: t => c.toUpper :: t

/-- The number that ASCII digits write in decimal. -/
def ofDigits (digits : Text) : Nat := digits.foldl (fun n c => 10 * n + (c.toNat - '0'.toNat)) 0

def decimal (n : Nat) : Text := Nat.toDigits 10 n

theorem decimal_ne_nil (n : Nat) : decimal n ≠ [] := Nat.toDigits_ne_nil

theorem isDigit_of_mem_decimal {n : Nat} {c : Char} (member : c ∈ decimal n) : c.isDigit = true :=
  Nat.isDigit_of_mem_toDigits (by decide) (by decide) member

theorem ofDigits_decimal (n : Nat) : ofDigits (decimal n) = n := by
  rw [ofDigits, ← Nat.ofDigitChars_eq_foldl]
  exact Nat.ofDigitChars_ten_toDigits

theorem head?_decimal {n : Nat} (positive : 0 < n) : (decimal n).head? ≠ some '0' := by
  rw [decimal, Nat.toDigits_eq_if (by decide)]
  split
  · next small =>
    have digits : ∀ d < 10, 0 < d → d.digitChar ≠ '0' := by decide
    simpa using digits n small positive
  · next large =>
    have front := head?_decimal (show 0 < n / 10 by omega)
    obtain ⟨d, rest, eq⟩ := List.exists_cons_of_ne_nil (decimal_ne_nil (n / 10))
    rw [eq] at front
    rw [show Nat.toDigits 10 (n / 10) = d :: rest from eq]
    exact front

/-- The number of octets of a text in UTF-8. -/
def utf8Size (t : Text) : Nat := t.foldr (fun c n => c.utf8Size + n) 0

theorem utf8Size_cons (c : Char) (t : Text) : utf8Size (c :: t) = c.utf8Size + utf8Size t := rfl

theorem utf8Size_append (s t : Text) : utf8Size (s ++ t) = utf8Size s + utf8Size t := by
  induction s with
  | nil => exact (Nat.zero_add _).symm
  | cons c s ih => rw [List.cons_append, utf8Size_cons, utf8Size_cons, ih, Nat.add_assoc]

theorem length_le_utf8Size (t : Text) : t.length ≤ utf8Size t := by
  induction t with
  | nil => exact Nat.le_refl 0
  | cons c t ih =>
    have positive := c.utf8Size_pos
    rw [List.length_cons, utf8Size_cons]
    omega

end Text

/-- Texts that go on without a character of some kind until one of them stands there divide in one way. -/
theorem append_inj_of_stops {stops : Char → Bool} {a b p q : Text} (plainA : ∀ c ∈ a, stops c = false)
    (plainB : ∀ c ∈ b, stops c = false) (endA : ∀ c ∈ p.head?, stops c = true)
    (endB : ∀ c ∈ q.head?, stops c = true) (same : a ++ p = b ++ q) : a = b ∧ p = q := by
  have run {t rest : Text} (plain : ∀ c ∈ t, stops c = false) (ended : ∀ c ∈ rest.head?, stops c = true) :
      (t ++ rest).takeWhile (!stops ·) = t := by
    rw [List.takeWhile_append_of_pos (by simpa using plain)]
    cases rest with
    | nil => simp
    | cons c rest => simp [ended c (by simp)]
  have first : a = b := by rw [← run plainA endA, same, run plainB endB]
  subst first
  exact ⟨rfl, List.append_cancel_left same⟩

end DocLinks
