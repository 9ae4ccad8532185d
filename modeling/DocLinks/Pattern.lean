namespace DocLinks

/-- Whether a repetition first tries to go on or first tries to stop. -/
inductive Appetite
  | greedy
  | lazy

/-- Patterns over characters, whose parts may be given names to be read off a match. Where a pattern matches a
text in several ways, the order in which `run` tries them decides: the preferred branch of an alternative
first, and a repetition as its appetite says. -/
inductive Pattern (Part : Type)
  | nothing
  | atEnd
  | one (accepts : Char → Bool)
  | andThen (first next : Pattern Part)
  | orElse (preferred other : Pattern Part)
  | many (appetite : Appetite) (body : Pattern Part)
  | part (name : Part) (body : Pattern Part)

/-- A stretch of a text: the text from its start on, and the text after its end. -/
structure Stretch where
  onward : List Char
  after : List Char

def Stretch.text (s : Stretch) : List Char := s.onward.take (s.onward.length - s.after.length)

/-- The named parts matched so far, the latest first. -/
abbrev Parts (Part : Type) := List (Part × Stretch)

variable {Part β : Type}

def Parts.text? [BEq Part] (parts : Parts Part) (name : Part) : Option (List Char) :=
  (parts.lookup name).map Stretch.text

/-- What is left to match after a pattern: it sees the parts named so far and the rest of the text. -/
abbrev Continuation (Part β : Type) := Parts Part → List Char → Option β

/-- Repetition of a matcher. The first argument bounds the repetitions by the characters that are left, which
loses nothing: a repetition that takes no character leads nowhere new. -/
def Appetite.repeated (appetite : Appetite)
    (body : Parts Part → List Char → Continuation Part β → Option β) :
    List Char → Parts Part → List Char → Continuation Part β → Option β
  | [], parts, s, next => next parts s
  | _ :: bound, parts, s, next =>
    match appetite with
    | .greedy => body parts s (fun parts s => appetite.repeated body bound parts s next) <|> next parts s
    | .lazy => next parts s <|> body parts s (fun parts s => appetite.repeated body bound parts s next)

/-- Tries the ways in which the pattern matches a beginning of the text, in order, until the continuation
accepts one. -/
def Pattern.run : Pattern Part → Parts Part → List Char → Continuation Part β → Option β
  | .nothing, parts, s, next => next parts s
  | .atEnd, parts, s, next => if s.isEmpty then next parts s else none
  | .one _, _, [], _ => none
  | .one accepts, parts, c :: s, next => if accepts c then next parts s else none
  | .andThen first second, parts, s, next => first.run parts s fun parts s => second.run parts s next
  | .orElse preferred other, parts, s, next => preferred.run parts s next <|> other.run parts s next
  | .many appetite body, parts, s, next => appetite.repeated body.run s parts s next
  | .part name body, parts, s, next =>
    body.run parts s fun parts rest => next ((name, ⟨s, rest⟩) :: parts) rest

namespace Pattern

def chain : List (Pattern Part) → Pattern Part
  | [] => nothing
  | p :: rest => andThen p (chain rest)

def literal (text : List Char) : Pattern Part := chain (text.map fun c => one (· == c))

def optional (p : Pattern Part) : Pattern Part := orElse p nothing

def atLeastOne (appetite : Appetite) (p : Pattern Part) : Pattern Part := andThen p (many appetite p)

/-- The fewest characters that a match can have. -/
def least : Pattern Part → Nat
  | nothing => 0
  | atEnd => 0
  | one _ => 1
  | andThen first next => first.least + next.least
  | orElse preferred other => min preferred.least other.least
  | many _ _ => 0
  | part _ body => body.least

end Pattern

/-- A match inside a text: where it begins and ends, and its named parts. -/
structure Match (Part : Type) extends Stretch where
  parts : Parts Part

namespace Pattern

/-- The match at the very start of a text. -/
def matchAt? (p : Pattern Part) (s : List Char) : Option (Match Part) :=
  p.run [] s fun parts rest => some ⟨⟨s, rest⟩, parts⟩

/-- The leftmost match in a text. -/
def find? (p : Pattern Part) : List Char → Option (Match Part)
  | [] => p.matchAt? []
  | c :: s =>
    match p.matchAt? (c :: s) with
    | some m => some m
    | none => p.find? s

end Pattern

theorem eq_some_or_of_orElse {a b : Option β} {r : β} (h : (a <|> b) = some r) :
    a = some r ∨ b = some r := by
  cases a with
  | none => exact .inr h
  | some => exact .inl h

/-- A matcher only ever drops characters from the front, and at least `n` of them. -/
def Advances (n : Nat) (body : Parts Part → List Char → Continuation Part β → Option β) : Prop :=
  ∀ parts s next r, body parts s next = some r →
    ∃ parts' s', s' <:+ s ∧ s'.length + n ≤ s.length ∧ next parts' s' = some r

theorem Advances.repeated {n : Nat} {body : Parts Part → List Char → Continuation Part β → Option β}
    (h : Advances n body) (appetite : Appetite) (bound : List Char) :
    Advances 0 (appetite.repeated body bound) := by
  induction bound with
  | nil => exact fun parts s next r hr => ⟨parts, s, List.suffix_refl s, Nat.le_refl _, hr⟩
  | cons c bound ih =>
    intro parts s next r hr
    have stop : next parts s = some r →
        ∃ parts' s', s' <:+ s ∧ s'.length + 0 ≤ s.length ∧ next parts' s' = some r :=
      fun hn => ⟨parts, s, List.suffix_refl s, Nat.le_refl _, hn⟩
    have go : body parts s (fun parts s => appetite.repeated body bound parts s next) = some r →
        ∃ parts' s', s' <:+ s ∧ s'.length + 0 ≤ s.length ∧ next parts' s' = some r := by
      intro hb
      obtain ⟨p₁, s₁, h₁, l₁, hr₁⟩ := h _ _ _ _ hb
      obtain ⟨p₂, s₂, h₂, l₂, hr₂⟩ := ih _ _ _ _ hr₁
      exact ⟨p₂, s₂, h₂.trans h₁, by omega, hr₂⟩
    cases appetite with
    | greedy =>
      rcases eq_some_or_of_orElse hr with hb | hn
      · exact go hb
      · exact stop hn
    | lazy =>
      rcases eq_some_or_of_orElse hr with hn | hb
      · exact stop hn
      · exact go hb

theorem Pattern.run_advances (p : Pattern Part) : Advances p.least (p.run (β := β)) := by
  induction p with
  | nothing => exact fun parts s next r hr => ⟨parts, s, List.suffix_refl s, Nat.le_refl _, hr⟩
  | atEnd =>
    intro parts s next r hr
    simp only [run] at hr
    split at hr
    · exact ⟨parts, s, List.suffix_refl s, Nat.le_refl _, hr⟩
    · cases hr
  | one accepts =>
    intro parts s next r hr
    cases s with
    | nil => cases hr
    | cons c s =>
      simp only [run] at hr
      split at hr
      · exact ⟨parts, s, List.suffix_cons c s, Nat.le_refl _, hr⟩
      · cases hr
  | andThen first second ih₁ ih₂ =>
    intro parts s next r hr
    obtain ⟨p₁, s₁, h₁, l₁, hr₁⟩ := ih₁ _ _ _ _ hr
    obtain ⟨p₂, s₂, h₂, l₂, hr₂⟩ := ih₂ _ _ _ _ hr₁
    exact ⟨p₂, s₂, h₂.trans h₁, by simp only [least]; omega, hr₂⟩
  | orElse preferred other ih₁ ih₂ =>
    intro parts s next r hr
    rcases eq_some_or_of_orElse hr with hr | hr
    · obtain ⟨p₁, s₁, h₁, l₁, hr₁⟩ := ih₁ _ _ _ _ hr
      exact ⟨p₁, s₁, h₁, by simp only [least]; omega, hr₁⟩
    · obtain ⟨p₁, s₁, h₁, l₁, hr₁⟩ := ih₂ _ _ _ _ hr
      exact ⟨p₁, s₁, h₁, by simp only [least]; omega, hr₁⟩
  | many appetite body ih => exact fun parts s => ih.repeated appetite s parts s
  | part name body ih =>
    intro parts s next r hr
    obtain ⟨p₁, s₁, h₁, l₁, hr₁⟩ := ih _ _ _ _ hr
    exact ⟨_, s₁, h₁, l₁, hr₁⟩

theorem Pattern.matchAt?_least {p : Pattern Part} {s : List Char} {m : Match Part} (h : p.matchAt? s = some m) :
    m.onward = s ∧ m.after <:+ s ∧ m.after.length + p.least ≤ s.length := by
  obtain ⟨parts, rest, suffix, short, eq⟩ := p.run_advances _ _ _ _ h
  cases eq
  exact ⟨rfl, suffix, short⟩

theorem Pattern.find?_least {p : Pattern Part} {s : List Char} {m : Match Part} (h : p.find? s = some m) :
    m.onward <:+ s ∧ m.after <:+ m.onward ∧ m.after.length + p.least ≤ m.onward.length := by
  induction s with
  | nil =>
    obtain ⟨eq, suffix, short⟩ := matchAt?_least h
    exact ⟨eq ▸ List.suffix_refl _, eq ▸ suffix, eq ▸ short⟩
  | cons c s ih =>
    simp only [find?] at h
    split at h
    · next found =>
      cases h
      obtain ⟨eq, suffix, short⟩ := matchAt?_least found
      exact ⟨eq ▸ List.suffix_refl _, eq ▸ suffix, eq ▸ short⟩
    · obtain ⟨suffix, rest⟩ := ih h
      exact ⟨suffix.trans (List.suffix_cons c s), rest⟩

theorem Pattern.find?_shorter {p : Pattern Part} {s : List Char} {m : Match Part} (h : p.find? s = some m) :
    m.after.length + p.least ≤ s.length :=
  Nat.le_trans (find?_least h).2.2 (find?_least h).1.length_le

/-- All matches from left to right, each search beginning where the last match ended. -/
def Pattern.findAll (p : Pattern Part) (nonempty : 0 < p.least) (s : List Char) : List (Match Part) :=
  match _ : p.find? s with
  | none => []
  | some m => m :: p.findAll nonempty m.after
termination_by s.length
decreasing_by have := find?_shorter ‹_›; omega

end DocLinks
