import DocLinks.Pattern

namespace DocLinks

theorem Stretch.text_append (t s : List Char) : (Stretch.mk (t ++ s) s).text = t := by
  simp [Stretch.text]

variable {Part β : Type}

theorem Parts.text?_cons_self [BEq Part] [LawfulBEq Part] (parts : Parts Part) (name : Part)
    (t s : List Char) : Parts.text? ((name, ⟨t ++ s, s⟩) :: parts) name = some t := by
  simp [Parts.text?, Stretch.text_append]

namespace Pattern

@[simp] theorem run_one_nil (accepts : Char → Bool) (parts : Parts Part) (next : Continuation Part β) :
    (one accepts).run parts [] next = none := rfl

@[simp] theorem run_one_cons (accepts : Char → Bool) (parts : Parts Part) (c : Char) (s : List Char)
    (next : Continuation Part β) :
    (one accepts).run parts (c :: s) next = if accepts c then next parts s else none := rfl

@[simp] theorem run_orElse (preferred other : Pattern Part) (parts : Parts Part) (s : List Char)
    (next : Continuation Part β) :
    (orElse preferred other).run parts s next = (preferred.run parts s next <|> other.run parts s next) := rfl

@[simp] theorem run_part (name : Part) (body : Pattern Part) (parts : Parts Part) (s : List Char)
    (next : Continuation Part β) :
    (part name body).run parts s next =
      body.run parts s fun parts rest => next ((name, ⟨s, rest⟩) :: parts) rest := rfl

@[simp] theorem run_chain_nil (parts : Parts Part) (s : List Char) (next : Continuation Part β) :
    (chain []).run parts s next = next parts s := rfl

@[simp] theorem run_chain_cons (p : Pattern Part) (rest : List (Pattern Part)) (parts : Parts Part)
    (s : List Char) (next : Continuation Part β) :
    (chain (p :: rest)).run parts s next = p.run parts s fun parts s => (chain rest).run parts s next := rfl

@[simp] theorem run_literal_nil (parts : Parts Part) (s : List Char) (next : Continuation Part β) :
    (literal []).run parts s next = next parts s := rfl

@[simp] theorem run_literal_cons (a : Char) (text : List Char) (parts : Parts Part) (s : List Char)
    (next : Continuation Part β) :
    (literal (a :: text)).run parts s next =
      (one (· == a)).run parts s fun parts s => (literal text).run parts s next := rfl

/-- Where what follows cannot begin with an accepted character, a greedy run of such characters takes them
all: giving some of them back never helps. -/
theorem run_many_greedy_one {accepts : Char → Bool} {next : Continuation Part β}
    (stops : ∀ parts c s, accepts c = true → next parts (c :: s) = none) (parts : Parts Part) (s : List Char) :
    (many .greedy (one accepts)).run parts s next = next parts (s.dropWhile accepts) := by
  suffices all : ∀ bound s : List Char, s.length ≤ bound.length →
      Appetite.greedy.repeated (one accepts).run bound parts s next = next parts (s.dropWhile accepts) from
    all s s (Nat.le_refl _)
  intro bound
  induction bound with
  | nil =>
    intro s short
    rw [List.length_eq_zero_iff.1 (Nat.le_zero.1 short)]
    rfl
  | cons b bound ih =>
    intro s short
    cases s with
    | nil => rfl
    | cons c s =>
      simp only [Appetite.repeated, run_one_cons]
      by_cases accepted : accepts c = true
      · rw [if_pos accepted, ih s (by simpa using short), stops parts c s accepted,
          List.dropWhile_cons_of_pos accepted]
        simp only [Option.orElse_eq_orElse, Option.orElse_eq_or, Option.or_none]
      · rw [if_neg accepted, List.dropWhile_cons_of_neg accepted]
        rfl

variable {p : Pattern Part} {nonempty : 0 < p.least} {s : List Char}

theorem findAll_of_matchAt?_eq_some {m : Match Part} (found : p.matchAt? s = some m) :
    p.findAll nonempty s = m :: p.findAll nonempty m.after := by
  have first : p.find? s = some m := by cases s <;> simp only [find?, found]
  rw [findAll]
  split
  · next none => cases none.symm.trans first
  · next m' some =>
    cases some.symm.trans first
    rfl

theorem findAll_of_matchAt?_eq_none {c : Char} (missed : p.matchAt? (c :: s) = none) :
    p.findAll nonempty (c :: s) = p.findAll nonempty s := by
  have later : p.find? (c :: s) = p.find? s := by simp only [find?, missed]
  rw [findAll, findAll, later]

theorem findAll_nil : p.findAll nonempty [] = [] := by
  rw [findAll]
  split
  · rfl
  · next m found =>
    have := find?_shorter found
    simp only [List.length_nil] at this
    omega

end Pattern

end DocLinks
