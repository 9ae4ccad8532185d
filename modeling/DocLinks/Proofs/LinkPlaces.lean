import DocLinks.Proofs.FilePool
import DocLinks.Proofs.RenderedLinks

namespace DocLinks

namespace Pattern

variable {Part : Type} {p : Pattern Part} {nonempty : 0 < p.least} {s : List Char} {m : Match Part}

theorem matchAt?_of_find?_eq_some (found : p.find? s = some m) : p.matchAt? m.onward = some m := by
  induction s with
  | nil =>
    have matched : p.matchAt? [] = some m := found
    rwa [(matchAt?_least matched).1]
  | cons c s ih =>
    rw [find?] at found
    split at found
    · next first =>
      cases found
      rwa [(matchAt?_least first).1]
    · exact ih found

theorem onward_suffix_of_mem_findAll (member : m ∈ p.findAll nonempty s) : m.onward <:+ s := by
  fun_induction findAll p nonempty s with
  | case1 => cases member
  | case2 s first found ih =>
    obtain ⟨begins, ends, -⟩ := find?_least found
    rcases List.mem_cons.1 member with rfl | later
    · exact begins
    · exact (ih later).trans (ends.trans begins)

theorem matchAt?_of_mem_findAll (member : m ∈ p.findAll nonempty s) : p.matchAt? m.onward = some m := by
  fun_induction findAll p nonempty s with
  | case1 => cases member
  | case2 s first found ih =>
    rcases List.mem_cons.1 member with rfl | later
    · exact matchAt?_of_find?_eq_some found
    · exact ih later

/-- Every match begins where all matches before it have ended. -/
theorem pairwise_findAll : (p.findAll nonempty s).Pairwise fun a b => b.onward <:+ a.after := by
  fun_induction findAll p nonempty s with
  | case1 => exact .nil
  | case2 s first found ih => exact .cons (fun _ later => onward_suffix_of_mem_findAll later) ih

end Pattern

namespace BracketLink

/-- How many characters of a link come before its opening bracket. -/
def markLength (s : Text) : Nat := if s.head? = some '!' then 1 else 0

theorem opened?_of_read? {s : Text} {l : BracketLink} (found : read? s = some l) :
    opened? (s.drop (markLength s)) = some l := by
  unfold read? at found
  split at found
  · exact found
  · next unmarked =>
    have length : markLength s = 0 := if_neg fun marked => by
      obtain ⟨s', rfl⟩ := List.head?_eq_some_iff.1 marked
      exact unmarked s' rfl
    rwa [length, List.drop_zero]

/-- What is read after a character that is kept. -/
theorem eq_cons_of_map {c : Char} {read : Option (Text × Text)} {d rest : Text}
    (kept : read.map (fun (d, rest) => (c :: d, rest)) = some (d, rest)) :
    ∃ d', d = c :: d' ∧ read = some (d', rest) := by
  obtain ⟨⟨d', rest'⟩, found, eq⟩ := Option.map_eq_some_iff.1 kept
  cases eq
  exact ⟨d', rfl, found⟩

theorem description?_extend {inGroup : Bool} {s d rest : Text} (read : description? inGroup s = some (d, rest))
    (more : Text) : description? inGroup (s ++ more) = some (d, rest ++ more) := by
  induction s generalizing inGroup d with
  | nil => cases read
  | cons c s ih =>
    rw [List.cons_append]
    unfold description? at read ⊢
    split at read
    · cases read
    next notBreak =>
    rw [if_neg notBreak]
    split at read
    · next isClosing =>
      rw [if_pos isClosing]
      split at read
      · next closesGroup =>
        obtain ⟨d', rfl, found⟩ := eq_cons_of_map read
        rw [if_pos closesGroup, ih found, Option.map_some]
      · next closesLink =>
        cases read
        rw [if_neg closesLink]
    next notClosing =>
    rw [if_neg notClosing]
    split at read
    · next isOpening =>
      rw [if_pos isOpening]
      split at read
      · cases read
      · next notInGroup =>
        obtain ⟨d', rfl, found⟩ := eq_cons_of_map read
        rw [if_neg notInGroup, ih found, Option.map_some]
    · next notOpening =>
      obtain ⟨d', rfl, found⟩ := eq_cons_of_map read
      rw [if_neg notOpening, ih found, Option.map_some]

theorem target?_extend {s t rest : Text} (read : target? s = some (t, rest)) (more : Text) :
    target? (s ++ more) = some (t, rest ++ more) := by
  induction s generalizing t with
  | nil => cases read
  | cons c s ih =>
    rw [List.cons_append]
    unfold target? at read ⊢
    split at read
    · next isClosing =>
      cases read
      rw [if_pos isClosing]
    next notClosing =>
    rw [if_neg notClosing]
    split at read
    · cases read
    next notBreak =>
    obtain ⟨t', rfl, found⟩ := eq_cons_of_map read
    rw [if_neg notBreak, ih found, Option.map_some]

/-- A link is read in two parts, the description and the target. -/
theorem reads_of_opened? {s : Text} {l : BracketLink} (read : opened? s = some l) :
    ∃ d t, s = '[' :: d ∧ description? false d = some (l.description, '(' :: t) ∧
      target? t = some (l.target, l.rest) := by
  unfold opened? at read
  split at read
  · split at read
    · next described =>
      obtain ⟨⟨target, rest⟩, found, rfl⟩ := Option.map_eq_some_iff.1 read
      exact ⟨_, _, rfl, described, found⟩
    · cases read
  · cases read

/-- A link is read without looking past its end. -/
theorem opened?_extend {s : Text} {l : BracketLink} (read : opened? s = some l) (more : Text) :
    opened? (s ++ more) = some { l with rest := l.rest ++ more } := by
  obtain ⟨d, t, rfl, described, found⟩ := reads_of_opened? read
  simp [opened?, description?_extend described more, target?_extend found more]

/-- A group holds no bracket before the one that closes it. -/
theorem plain_of_group {s d rest : Text} (read : description? true s = some (d, rest)) :
    ∃ plain later, (∀ c ∈ plain, linkPattern.isPlain c = true) ∧ d = plain ++ ']' :: later := by
  induction s generalizing d with
  | nil => cases read
  | cons c s ih =>
    unfold description? at read
    split at read
    · cases read
    next notBreak =>
    split at read
    · next isClosing =>
      obtain ⟨later, rfl, -⟩ := eq_cons_of_map read
      exact ⟨[], later, by simp, by rw [isClosing, List.nil_append]⟩
    next notClosing =>
    split at read
    · cases read
    next notOpening =>
    obtain ⟨d', rfl, found⟩ := eq_cons_of_map read
    obtain ⟨plain, later, isPlain, rfl⟩ := ih found
    have plainC : linkPattern.isPlain c = true := by
      simp [linkPattern.isPlain, notBreak, notClosing, notOpening]
    exact ⟨c :: plain, later, List.forall_mem_cons.2 ⟨plainC, isPlain⟩, rfl⟩

/-- Every opening bracket of a description opens a group. -/
theorem plain_of_opening {inGroup : Bool} {s d rest u : Text} (read : description? inGroup s = some (d, rest))
    (inside : '[' :: u <:+ d) :
    ∃ plain later, (∀ c ∈ plain, linkPattern.isPlain c = true) ∧ u = plain ++ ']' :: later := by
  induction s generalizing inGroup d with
  | nil => cases read
  | cons c s ih =>
    -- inside a group no bracket opens, so where one does the scanner stands outside
    have behind {d' : Text} (notOpening : c ≠ '[') (inside : '[' :: u <:+ c :: d') : '[' :: u <:+ d' := by
      refine (List.suffix_cons_iff.1 inside).resolve_left fun here => notOpening ?_
      exact (List.cons.inj here).1.symm
    unfold description? at read
    split at read
    · cases read
    split at read
    · next isClosing =>
      split at read
      · obtain ⟨d', rfl, found⟩ := eq_cons_of_map read
        exact ih found (behind (by simp [isClosing]) inside)
      · cases read
        cases List.suffix_nil.1 inside
    split at read
    · split at read
      · cases read
      · obtain ⟨d', rfl, found⟩ := eq_cons_of_map read
        rcases List.suffix_cons_iff.1 inside with here | later
        · cases here
          exact plain_of_group found
        · exact ih found later
    · next notOpening =>
      obtain ⟨d', rfl, found⟩ := eq_cons_of_map read
      exact ih found (behind notOpening inside)

/-- A link inside a description has a description without brackets, wherever in it the link begins. -/
theorem plain_of_inner {s d rest u : Text} {l : BracketLink} (read : description? false s = some (d, rest))
    (inside : u <:+ d) (inner : opened? u = some l) : ∀ c ∈ l.description, linkPattern.isPlain c = true := by
  obtain ⟨_, t, rfl, described, -⟩ := reads_of_opened? inner
  obtain ⟨plain, later, isPlain, rfl⟩ := plain_of_opening read inside
  rw [(passes_plain isPlain).description?_eq] at described
  cases described
  exact isPlain

end BracketLink

open BracketLink

/-- The places where a closing bracket and an opening parenthesis meet. -/
def dividers (text : Text) : List Nat :=
  (List.range text.length).filter fun i => [']', '('].isPrefixOf (text.drop i)

/-- Where a link stands in a text, counted in characters: its opening bracket, and the bracket that closes its
description. -/
structure LinkPlace where
  opening : Nat
  closing : Nat
deriving DecidableEq

namespace LinkPlace

/-- One link opens before another, which comes after its description or lies in it. -/
def Precedes (a b : LinkPlace) : Prop := a.opening < b.opening ∧ (a.closing < b.opening ∨ b.closing < a.closing)

/-- A link with the target that was found stands at the place. -/
def Holds (place : LinkPlace) (text : Text) (o : Occurrence) : Prop :=
  ∃ l, opened? (text.drop place.opening) = some l ∧ l.target = o.link ∧
    place.closing = place.opening + 1 + l.description.length

theorem Holds.closing_mem {place : LinkPlace} {text : Text} {o : Occurrence} (holds : place.Holds text o) :
    place.closing ∈ dividers text := by
  obtain ⟨l, opens, -, closes⟩ := holds
  have written := opened?_eq_append opens
  have divided : text.drop place.closing = [']', '('] ++ (l.target ++ ')' :: l.rest) := by
    have length : place.closing = place.opening + ('[' :: l.description).length := by
      rw [closes, List.length_cons]
      omega
    rw [length, ← List.drop_drop, written, List.append_assoc, List.drop_left]
    rfl
  refine List.mem_filter.2 ⟨List.mem_range.2 ?_, List.isPrefixOf_iff_prefix.2 (divided ▸ List.prefix_append _ _)⟩
  have long := congrArg List.length divided
  simp only [List.length_drop, List.length_append, List.length_cons] at long
  omega

end LinkPlace

namespace Match

/-- Where the opening bracket of a match stands in the text that was searched. -/
def opening (m : Match LinkPart) (s : Text) : Nat := s.length - m.onward.length + markLength m.onward

/-- The place of a match of a text that begins at `start`. -/
def place (m : Match LinkPart) (start : Nat) (s : Text) : LinkPlace where
  opening := start + m.opening s
  closing := start + m.opening s + 1 + m.link.description.length

end Match

/-- The links of a text that begins at `start`, without those in their descriptions. -/
def outerLinks (start : Nat) (s : Text) (file : Path) : List (LinkPlace × Occurrence) :=
  (linkPattern.findAll linkPattern_least_pos s).map fun m => (m.place start s, m.occurrence file)

/-- A link and those in its description. -/
def Match.placed (m : Match LinkPart) (text : Text) (file : Path) : List (LinkPlace × Occurrence) :=
  (m.place 0 text, m.occurrence file) :: outerLinks (m.opening text + 1) m.link.description file

/-- The links of a document with their places, in the order in which they are found. -/
def placedLinks (text : Text) (file : Path) : List (LinkPlace × Occurrence) :=
  (linkPattern.findAll linkPattern_least_pos text).flatMap (·.placed text file)

theorem map_placedLinks (text : Text) (file : Path) :
    (placedLinks text file).map Prod.snd = occurrences text file := by
  unfold placedLinks occurrences
  rw [List.map_flatMap]
  refine congrArg (List.flatMap · _) (funext fun m => ?_)
  rw [Match.placed, List.map_cons, outerLinks, List.map_map]
  rfl

section

variable {s : Text} {m : Match LinkPart}

namespace Match

theorem opened?_of_matchAt? (matched : linkPattern.matchAt? s = some m) :
    opened? (s.drop (markLength s)) = some m.link := by
  refine opened?_of_read? ?_
  rw [← matchAt?_linkPattern, matched, Option.map_some]

theorem opened?_drop (found : m ∈ linkPattern.findAll linkPattern_least_pos s) :
    opened? (s.drop (m.opening s)) = some m.link := by
  have onward := List.suffix_iff_eq_drop.1 (Pattern.onward_suffix_of_mem_findAll found)
  rw [opening, ← List.drop_drop, ← onward]
  exact opened?_of_matchAt? (Pattern.matchAt?_of_mem_findAll found)

theorem opening_add (found : m ∈ linkPattern.findAll linkPattern_least_pos s) :
    m.opening s + m.link.description.length + m.link.target.length + m.after.length + 4 = s.length := by
  have after : m.link.rest = m.after := rfl
  have written := congrArg List.length (opened?_eq_append (opened?_drop found))
  simp only [List.length_drop, List.length_append, List.length_cons, after] at written
  omega

/-- A link inside the description of another holds no bracket in its own. -/
theorem inner_plain {s u : Text} {m inner : Match LinkPart} (outer : linkPattern.matchAt? s = some m)
    (inside : u <:+ m.link.description) (found : linkPattern.matchAt? u = some inner) :
    ∀ c ∈ inner.link.description, linkPattern.isPlain c = true := by
  obtain ⟨_, _, -, described, -⟩ := reads_of_opened? (opened?_of_matchAt? outer)
  exact plain_of_inner described ((List.drop_suffix _ _).trans inside) (opened?_of_matchAt? found)

end Match

variable {start : Nat} {file : Path} {p : LinkPlace × Occurrence}

theorem outerLinks_bounds (member : p ∈ outerLinks start s file) :
    start ≤ p.1.opening ∧ p.1.opening < p.1.closing ∧ p.1.closing < start + s.length := by
  obtain ⟨m, found, rfl⟩ := List.mem_map.1 member
  have length := m.opening_add found
  simp only [Match.place]
  omega

theorem pairwise_outerLinks : (outerLinks start s file).Pairwise fun a b => a.1.closing < b.1.opening := by
  refine List.pairwise_map.2 (Pattern.pairwise_findAll.imp_of_mem fun {a b} found _ later => ?_)
  have length := a.opening_add found
  have short := later.length_le
  simp only [Match.place, Match.opening] at length ⊢
  omega

theorem outerLinks_holds {text more : Text} (here : text.drop start = s ++ more)
    (member : p ∈ outerLinks start s file) : p.1.Holds text p.2 := by
  obtain ⟨m, found, rfl⟩ := List.mem_map.1 member
  have length := m.opening_add found
  refine ⟨{ m.link with rest := m.link.rest ++ more }, ?_, rfl, rfl⟩
  rw [Match.place, ← List.drop_drop, here, List.drop_append_of_le_length (by omega)]
  exact opened?_extend (m.opened?_drop found) more

namespace Match

theorem placed_bounds (member : p ∈ m.placed s file) :
    m.opening s ≤ p.1.opening ∧ p.1.opening < p.1.closing ∧
      p.1.closing ≤ m.opening s + 1 + m.link.description.length := by
  rcases List.mem_cons.1 member with rfl | inner
  · simp only [place]
    omega
  · have bounds := outerLinks_bounds inner
    omega

theorem pairwise_placed : (m.placed s file).Pairwise fun a b => a.1.Precedes b.1 := by
  refine .cons (fun inner member => ?_) (pairwise_outerLinks.imp_of_mem fun {a b} first _ before => ?_)
  · have bounds := outerLinks_bounds member
    simp only [LinkPlace.Precedes, place]
    omega
  · have bounds := outerLinks_bounds first
    exact ⟨Nat.lt_trans bounds.2.1 before, .inl before⟩

theorem placed_holds (found : m ∈ linkPattern.findAll linkPattern_least_pos s) (member : p ∈ m.placed s file) :
    p.1.Holds s p.2 := by
  have opens := m.opened?_drop found
  rcases List.mem_cons.1 member with rfl | inner
  · refine ⟨m.link, ?_, rfl, rfl⟩
    rwa [place, Nat.zero_add]
  · have behind : s.drop (m.opening s + 1) =
        m.link.description ++ (']' :: '(' :: m.link.target ++ ')' :: m.link.rest) := by
      rw [← List.drop_drop, opened?_eq_append opens]
      simp
    exact outerLinks_holds behind inner

end Match

end

theorem pairwise_placedLinks (text : Text) (file : Path) :
    (placedLinks text file).Pairwise fun a b => a.1.Precedes b.1 := by
  refine List.pairwise_flatMap.2 ⟨fun m _ => m.pairwise_placed, ?_⟩
  -- all that belongs to one match lies before its end, and the next search only begins there
  refine Pattern.pairwise_findAll.imp_of_mem fun {a b} found _ later x inA y inB => ?_
  have length := a.opening_add found
  have short := later.length_le
  have ofA := Match.placed_bounds inA
  have ofB := Match.placed_bounds inB
  simp only [LinkPlace.Precedes, Match.opening] at *
  omega

theorem placedLinks_holds {text : Text} {file : Path} {p : LinkPlace × Occurrence}
    (member : p ∈ placedLinks text file) : p.1.Holds text p.2 := by
  obtain ⟨m, found, inM⟩ := List.mem_flatMap.1 member
  exact Match.placed_holds found inM

/-- The links of a text, each followed by those in its description, down to a depth. -/
def linksTo : Nat → Text → Path → List Occurrence
  | 0, _, _ => []
  | depth + 1, text, file =>
    (linkPattern.findAll linkPattern_least_pos text).flatMap fun m =>
      m.occurrence file :: linksTo depth m.link.description file

theorem occurrences_eq_linksTo (text : Text) (file : Path) : occurrences text file = linksTo 2 text file := by
  unfold occurrences
  refine congrArg (List.flatMap · _) (funext fun m => ?_)
  rw [Match.nested, List.map_eq_flatMap]
  rfl

theorem linksTo_of_plain {text : Text} (plain : ∀ c ∈ text, linkPattern.isPlain c = true) (depth : Nat)
    (file : Path) : linksTo depth text file = [] := by
  cases depth with
  | zero => rfl
  | succ depth =>
    refine List.flatMap_eq_nil_iff.2 fun m found => ?_
    -- a link needs a bracket to open with
    have opens := opened?_eq_append (m.opened?_drop found)
    have bracket : '[' ∈ text.drop (m.opening text) := by
      rw [opens]
      exact List.mem_cons_self
    cases plain _ (List.mem_of_mem_drop bracket)

theorem linksTo_eq_occurrences (depth : Nat) (text : Text) (file : Path) :
    linksTo (depth + 2) text file = occurrences text file := by
  rw [occurrences_eq_linksTo]
  refine List.flatMap_congr fun m found => congrArg _ (List.flatMap_congr fun inner nested => congrArg _ ?_)
  have outer := Pattern.matchAt?_of_mem_findAll found
  have plain := Match.inner_plain outer (Pattern.onward_suffix_of_mem_findAll nested)
    (Pattern.matchAt?_of_mem_findAll nested)
  rw [linksTo_of_plain plain, linksTo_of_plain plain]

/-- What so many calls for the next link hand out. -/
def Cursor.handedOut : Nat → Cursor → List Occurrence
  | 0, _ => []
  | calls + 1, c =>
    match c.next? with
    | none => []
    | some (o, later) => o :: handedOut calls later

theorem Cursor.handedOut_eq_take (calls : Nat) (c : Cursor) : c.handedOut calls = c.remaining.take calls := by
  induction calls generalizing c with
  | zero => rfl
  | succ calls ih =>
    rw [handedOut]
    split
    · next ended => rw [remaining_of_next?_eq_none ended, List.take_nil]
    · next o later found => rw [remaining_of_next?_eq_some found, ih, List.take_succ_cons]

/-- Links are looked for one level deep, which finds all there are: a link inside a description has a description
without brackets, so that going down further would find no more. No link is found twice: they come in the order of
their opening brackets, and each has the divider between its description and its target for itself. So there are no
more of them than dividers, and calling for the next one comes to an end. -/
theorem links_found_once_at_all_depths (text : Text) (file : Path) :
    (∀ s m u inner, s <:+ text → linkPattern.matchAt? s = some m → u <:+ m.link.description →
      linkPattern.matchAt? u = some inner → '[' ∉ inner.link.description ∧ ']' ∉ inner.link.description) ∧
    (∀ depth, linksTo (depth + 2) text file = occurrences text file) ∧
    (placedLinks text file).map Prod.snd = occurrences text file ∧
    (∀ p ∈ placedLinks text file, p.1.Holds text p.2 ∧ p.1.closing ∈ dividers text) ∧
    ((placedLinks text file).map fun p => p.1.opening).Pairwise (· < ·) ∧
    ((placedLinks text file).map fun p => p.1.closing).Nodup ∧
    (occurrences text file).length ≤ (dividers text).length ∧
    ∀ calls, (Cursor.start text file).handedOut calls = (occurrences text file).take calls := by
  have precedes := pairwise_placedLinks text file
  have own : ((placedLinks text file).map fun p => p.1.closing).Nodup := by
    refine List.pairwise_map.2 (precedes.imp_of_mem fun {a b} _ inB before same => ?_)
    obtain ⟨l, -, -, closes⟩ := placedLinks_holds inB
    have apart := before.2
    omega
  have divided : (placedLinks text file).map (fun p => p.1.closing) ⊆ dividers text := by
    intro place member
    obtain ⟨p, found, rfl⟩ := List.mem_map.1 member
    exact (placedLinks_holds found).closing_mem
  refine ⟨?_, fun depth => linksTo_eq_occurrences depth text file, map_placedLinks text file, ?_, ?_, own, ?_, ?_⟩
  · intro s m u inner _ outer inside found
    have plain := Match.inner_plain outer inside found
    constructor
    · intro opens
      cases plain _ opens
    · intro closes
      cases plain _ closes
  · exact fun p found => ⟨placedLinks_holds found, (placedLinks_holds found).closing_mem⟩
  · exact List.pairwise_map.2 (precedes.imp And.left)
  · rw [← map_placedLinks, List.length_map]
    simpa using own.length_le_of_subset divided
  · intro calls
    rw [Cursor.handedOut_eq_take, Cursor.remaining_start]

theorem links_found_once_at_all_depths_nested :
    let text := "[![d](e)](f)".toList
    let file := "a.md".toList
    (∃ m inner, linkPattern.matchAt? text = some m ∧ m.link.description = "![d](e)".toList ∧
      linkPattern.matchAt? m.link.description = some inner ∧
      '[' ∉ inner.link.description ∧ ']' ∉ inner.link.description) ∧
    linksTo 3 text file = [⟨"f".toList, file, false⟩, ⟨"e".toList, file, true⟩] ∧
    placedLinks text file =
      [(⟨0, 8⟩, ⟨"f".toList, file, false⟩), (⟨2, 4⟩, ⟨"e".toList, file, true⟩)] ∧
    (occurrences text file).length ≤ 2 := by
  intro text file
  have places : placedLinks text file =
      [(⟨0, 8⟩, ⟨"f".toList, file, false⟩), (⟨2, 4⟩, ⟨"e".toList, file, true⟩)] := by decide +kernel
  have two : (dividers text).length = 2 := by decide +kernel
  have outer : read? text = some ⟨"![d](e)".toList, "f".toList, []⟩ := rfl
  have image : read? "![d](e)".toList = some ⟨"d".toList, "e".toList, []⟩ := rfl
  obtain ⟨m, outer, reads⟩ := Option.map_eq_some_iff.1 ((matchAt?_linkPattern text).trans outer)
  have description : m.link.description = "![d](e)".toList := congrArg BracketLink.description reads
  obtain ⟨inner, nested, -⟩ := Option.map_eq_some_iff.1 ((matchAt?_linkPattern _).trans image)
  rw [← description] at nested
  obtain ⟨plain, deeper, listed, -, -, -, few, -⟩ := links_found_once_at_all_depths text file
  refine ⟨⟨m, inner, outer, description, nested, ?_⟩, ?_, places, two ▸ few⟩
  · exact plain text m _ inner (List.suffix_refl _) outer (List.suffix_refl _) nested
  · rw [deeper 1, ← listed, places]
    rfl

end DocLinks
