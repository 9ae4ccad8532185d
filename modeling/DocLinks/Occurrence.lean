import DocLinks.Path
import DocLinks.Pattern

namespace DocLinks

/-- A link or image found in a document: the target as written, and where it was found. -/
structure Occurrence where
  link : Text
  file : Path
  isImage : Bool
deriving DecidableEq, Repr

inductive LinkPart
  | description
  | target
deriving DecidableEq

/-- An inline link: an exclamation mark if it is an image, a description in brackets that may hold bracketed
groups of its own, one level deep, and a target in parentheses that ends at the first closing one. No part
holds a line break. -/
def linkPattern : Pattern LinkPart :=
  .chain [
    .optional (.literal ['!']),
    .literal ['['],
    .part .description (.many .greedy (.orElse (.one isPlain) (.chain
      [.literal ['['], .many .greedy (.one isPlain), .literal [']']]))),
    .literal [']', '('],
    .part .target (.many .lazy (.one (· != '\n'))),
    .literal [')']]
where
  /-- Whether a character of a description stands for itself. -/
  isPlain (c : Char) : Bool := c != '[' && c != ']' && c != '\n'

theorem linkPattern_least : linkPattern.least = 4 := by decide

theorem linkPattern_least_pos : 0 < linkPattern.least := by decide

namespace Match

def occurrence (m : Match LinkPart) (file : Path) : Occurrence where
  link := (m.parts.text? .target).getD []
  file := file
  isImage := m.onward.head? == some '!'

/-- The links inside the description, from left to right. -/
def nested (m : Match LinkPart) (file : Path) : List Occurrence :=
  (linkPattern.findAll linkPattern_least_pos ((m.parts.text? .description).getD [])).map (·.occurrence file)

end Match

/-- Every link of a document in order, the links inside a description right after the link that has it. -/
def occurrences (text : Text) (file : Path) : List Occurrence :=
  (linkPattern.findAll linkPattern_least_pos text).flatMap fun m => m.occurrence file :: m.nested file

/-- A place in a document between two links: the links found already and not yet handed out, and the text not
yet searched. -/
structure Cursor where
  file : Path
  waiting : List Occurrence
  rest : Text

namespace Cursor

def start (text : Text) (file : Path) : Cursor := ⟨file, [], text⟩

/-- The next link and the place after it. The text is only searched when no link is waiting. -/
def next? (c : Cursor) : Option (Occurrence × Cursor) :=
  match c.waiting with
  | o :: waiting => some (o, { c with waiting })
  | [] => (linkPattern.find? c.rest).map fun m =>
      (m.occurrence c.file, { c with waiting := m.nested c.file, rest := m.after })

theorem next?_decreases {c c' : Cursor} {o : Occurrence} (h : c.next? = some (o, c')) :
    c'.rest.length < c.rest.length ∨ c'.rest = c.rest ∧ c'.waiting.length < c.waiting.length := by
  unfold next? at h
  split at h
  · next waiting eq =>
    cases h
    exact .inr ⟨rfl, by simp [eq]⟩
  · obtain ⟨m, found, eq⟩ := Option.map_eq_some_iff.1 h
    cases eq
    have := Pattern.find?_shorter found
    rw [linkPattern_least] at this
    exact .inl (show m.after.length < c.rest.length by omega)

/-- The links still to come. -/
def remaining (c : Cursor) : List Occurrence :=
  match _ : c.next? with
  | none => []
  | some (o, c') => o :: c'.remaining
termination_by (c.rest.length, c.waiting.length)
decreasing_by
  rcases next?_decreases ‹_› with shorter | ⟨same, fewer⟩
  · exact .left _ _ shorter
  · rw [same]
    exact .right _ fewer

end Cursor

end DocLinks
