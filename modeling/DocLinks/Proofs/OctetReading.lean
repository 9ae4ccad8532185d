import DocLinks.Text.Raw
import Mathlib.Tactic.SplitIfs

namespace DocLinks.RawText

/-- The character begun, with one more octet. -/
def Begun.on (begun : Begun) (o : UInt8) : Begun where
  octets := begun.octets ++ [o]
  missing := begun.missing - 1
  least := 0x80
  most := 0xBF
  value := begun.value * 64 + (o.toNat - 0x80)

/-- The octets that complete a character begun, and its value then. -/
inductive Begun.Completes : Begun → List UInt8 → Nat → Prop
  | last {begun : Begun} {o : UInt8} (one : begun.missing = 1) (fits : begun.least ≤ o ∧ o ≤ begun.most) :
    Completes begun [o] (begun.on o).value
  | more {begun : Begun} {o : UInt8} {rest : List UInt8} {value : Nat} (more : begun.missing ≠ 1)
    (fits : begun.least ≤ o ∧ o ≤ begun.most) (completes : Completes (begun.on o) rest value) :
    Completes begun (o :: rest) value

theorem read_of_completes {begun : Begun} {octets : List UInt8} {value : Nat}
    (completes : begun.Completes octets value) (rest : List UInt8) :
    read (some begun) (octets ++ rest) = .char (Char.ofNat value) :: read none rest := by
  induction completes with
  | last one fits =>
    rw [List.cons_append, read, if_pos fits, if_pos one]
    rfl
  | more more fits _ ih =>
    rw [List.cons_append, read, if_pos fits, if_neg more]
    exact ih

/-- Whether the octets read of a character and those that complete it are its octets in UTF-8. -/
def Begun.Sound (begun : Begun) : Prop :=
  ∀ rest value, begun.Completes rest value → String.utf8EncodeChar (Char.ofNat value) = begun.octets ++ rest

theorem Begun.Sound.on {begun : Begun} (sound : begun.Sound) {o : UInt8} (more : begun.missing ≠ 1)
    (fits : begun.least ≤ o ∧ o ≤ begun.most) : (begun.on o).Sound := by
  intro rest value completes
  rw [sound _ _ (.more more fits completes), Begun.on, List.append_assoc, List.singleton_append]

section

variable {a b c d : UInt8}

/-- The first of two octets. -/
def Begun.two (a : UInt8) : Begun := ⟨[a], 1, 0x80, 0xBF, a.toNat - 0xC0⟩

/-- The first of three octets, which may narrow down the second. -/
def Begun.three (a : UInt8) : Begun :=
  ⟨[a], 2, if a = 0xE0 then 0xA0 else 0x80, if a = 0xED then 0x9F else 0xBF, a.toNat - 0xE0⟩

/-- The first of four octets, which may narrow down the second. -/
def Begun.four (a : UInt8) : Begun :=
  ⟨[a], 3, if a = 0xF0 then 0x90 else 0x80, if a = 0xF4 then 0x8F else 0xBF, a.toNat - 0xF0⟩

theorem start_eq (a : UInt8) :
    start a =
      if a < 0x80 then .inl (.char (Char.ofNat a.toNat))
      else if a < 0xC2 then .inl (.stray [a])
      else if a < 0xE0 then .inr (.two a)
      else if a < 0xF0 then .inr (.three a)
      else if a < 0xF5 then .inr (.four a)
      else .inl (.stray [a]) := by
  by_cases leastThree : a = 0xE0
  · rw [leastThree]
    rfl
  by_cases mostThree : a = 0xED
  · rw [mostThree]
    rfl
  by_cases leastFour : a = 0xF0
  · rw [leastFour]
    rfl
  by_cases mostFour : a = 0xF4
  · rw [mostFour]
    rfl
  have belowFive : a < 0xF5 ↔ a < 0xF4 := by
    simp only [UInt8.lt_iff_toNat_lt, ← UInt8.toNat_inj, UInt8.reduceToNat] at mostFour ⊢
    omega
  simp only [start, Begun.two, Begun.three, Begun.four, beq_iff_eq, leastThree, mostThree, leastFour, mostFour,
    if_false, belowFive]

theorem toNat_ofNat {value : Nat} (valid : value.isValidChar) : (Char.ofNat value).val.toNat = value := by
  rw [Char.ofNat, dif_pos valid]
  rfl

theorem encode_one (ascii : a < 0x80) : String.utf8EncodeChar (Char.ofNat a.toNat) = [a] := by
  simp only [UInt8.lt_iff_toNat_lt, UInt8.reduceToNat] at ascii
  simp only [String.utf8EncodeChar, toNat_ofNat (show a.toNat.isValidChar from .inl (by omega))]
  rw [if_pos (by omega), UInt8.ofNat_toNat]

theorem encode_two (lead : 0xC2 ≤ a ∧ a < 0xE0) (second : 0x80 ≤ b ∧ b ≤ 0xBF) :
    String.utf8EncodeChar (Char.ofNat ((a.toNat - 0xC0) * 64 + (b.toNat - 0x80))) = [a, b] := by
  simp only [UInt8.lt_iff_toNat_lt, UInt8.le_iff_toNat_le, UInt8.reduceToNat] at lead second
  have valid : ((a.toNat - 0xC0) * 64 + (b.toNat - 0x80)).isValidChar := .inl (by omega)
  simp only [String.utf8EncodeChar, toNat_ofNat valid]
  rw [if_neg (by omega), if_pos (by omega)]
  simp only [List.cons.injEq, ← UInt8.toNat_inj, UInt8.toNat_ofNat', and_true]
  omega

theorem encode_three (lead : 0xE0 ≤ a ∧ a < 0xF0)
    (second : (if a = 0xE0 then 0xA0 else 0x80) ≤ b ∧ b ≤ if a = 0xED then 0x9F else 0xBF)
    (third : 0x80 ≤ c ∧ c ≤ 0xBF) :
    String.utf8EncodeChar
      (Char.ofNat (((a.toNat - 0xE0) * 64 + (b.toNat - 0x80)) * 64 + (c.toNat - 0x80))) = [a, b, c] := by
  simp only [UInt8.lt_iff_toNat_lt, UInt8.le_iff_toNat_le, ← UInt8.toNat_inj, apply_ite UInt8.toNat,
    UInt8.reduceToNat] at lead second third
  replace second : 128 ≤ b.toNat ∧ b.toNat ≤ 191 ∧ (a.toNat = 224 → 160 ≤ b.toNat) ∧
      (a.toNat = 237 → b.toNat ≤ 159) := by
    split_ifs at second <;> omega
  have valid : (((a.toNat - 0xE0) * 64 + (b.toNat - 0x80)) * 64 + (c.toNat - 0x80)).isValidChar := by
    show _ < 55296 ∨ 57343 < _ ∧ _ < 1114112
    omega
  simp only [String.utf8EncodeChar, toNat_ofNat valid]
  rw [if_neg (by omega), if_neg (by omega), if_pos (by omega)]
  simp only [List.cons.injEq, ← UInt8.toNat_inj, UInt8.toNat_ofNat', and_true]
  omega

theorem encode_four (lead : 0xF0 ≤ a ∧ a < 0xF5)
    (second : (if a = 0xF0 then 0x90 else 0x80) ≤ b ∧ b ≤ if a = 0xF4 then 0x8F else 0xBF)
    (third : 0x80 ≤ c ∧ c ≤ 0xBF) (fourth : 0x80 ≤ d ∧ d ≤ 0xBF) :
    String.utf8EncodeChar (Char.ofNat
      ((((a.toNat - 0xF0) * 64 + (b.toNat - 0x80)) * 64 + (c.toNat - 0x80)) * 64 + (d.toNat - 0x80))) =
      [a, b, c, d] := by
  simp only [UInt8.lt_iff_toNat_lt, UInt8.le_iff_toNat_le, ← UInt8.toNat_inj, apply_ite UInt8.toNat,
    UInt8.reduceToNat] at lead second third fourth
  replace second : 128 ≤ b.toNat ∧ b.toNat ≤ 191 ∧ (a.toNat = 240 → 144 ≤ b.toNat) ∧
      (a.toNat = 244 → b.toNat ≤ 143) := by
    split_ifs at second <;> omega
  have valid : ((((a.toNat - 0xF0) * 64 + (b.toNat - 0x80)) * 64 + (c.toNat - 0x80)) * 64 +
      (d.toNat - 0x80)).isValidChar := by
    show _ < 55296 ∨ 57343 < _ ∧ _ < 1114112
    omega
  simp only [String.utf8EncodeChar, toNat_ofNat valid]
  rw [if_neg (by omega), if_neg (by omega), if_neg (by omega)]
  simp only [List.cons.injEq, ← UInt8.toNat_inj, UInt8.toNat_ofNat', and_true]
  omega

theorem sound_two (lead : 0xC2 ≤ a ∧ a < 0xE0) : (Begun.two a).Sound := by
  intro rest value completes
  cases completes with
  | last _ second => exact encode_two lead second
  | more more => exact absurd rfl more

theorem sound_three (lead : 0xE0 ≤ a ∧ a < 0xF0) : (Begun.three a).Sound := by
  intro rest value completes
  cases completes with
  | last one => cases one
  | more _ second completes =>
    cases completes with
    | last _ third => exact encode_three lead second third
    | more more => exact absurd rfl more

theorem sound_four (lead : 0xF0 ≤ a ∧ a < 0xF5) : (Begun.four a).Sound := by
  intro rest value completes
  cases completes with
  | last one => cases one
  | more _ second completes =>
    cases completes with
    | last one => cases one
    | more _ third completes =>
      cases completes with
      | last _ fourth => exact encode_four lead second third fourth
      | more more => exact absurd rfl more

/-- An octet that no character is waiting for stands in what is read of it, now or when the character is complete. -/
theorem start_sound (a : UInt8) :
    (∃ u, start a = .inl u ∧ u.octets = [a]) ∨
      ∃ begun, start a = .inr begun ∧ begun.octets = [a] ∧ begun.Sound := by
  rw [start_eq]
  split
  · next ascii => exact .inl ⟨_, rfl, encode_one ascii⟩
  split
  · exact .inl ⟨_, rfl, rfl⟩
  split
  · next low high => exact .inr ⟨_, rfl, rfl, sound_two ⟨UInt8.not_lt.1 low, high⟩⟩
  split
  · next low high => exact .inr ⟨_, rfl, rfl, sound_three ⟨UInt8.not_lt.1 low, high⟩⟩
  split
  · next low high => exact .inr ⟨_, rfl, rfl, sound_four ⟨UInt8.not_lt.1 low, high⟩⟩
  · exact .inl ⟨_, rfl, rfl⟩

theorem not_lt_of_lead {low bound : UInt8} (lead : low ≤ a) (below : bound ≤ low) : ¬a < bound :=
  UInt8.not_lt.2 (UInt8.le_trans below lead)

theorem read_two (lead : 0xC2 ≤ a ∧ a < 0xE0) (second : 0x80 ≤ b ∧ b ≤ 0xBF) (rest : List UInt8) :
    read none (a :: b :: rest) =
      .char (Char.ofNat ((a.toNat - 0xC0) * 64 + (b.toNat - 0x80))) :: read none rest := by
  rw [read, start_eq, if_neg (not_lt_of_lead lead.1 (by decide)), if_neg (not_lt_of_lead lead.1 (by decide)),
    if_pos lead.2]
  have completes : (Begun.two a).Completes [b] _ := .last rfl second
  exact read_of_completes completes rest

theorem read_three (lead : 0xE0 ≤ a ∧ a < 0xF0)
    (second : (if a = 0xE0 then 0xA0 else 0x80) ≤ b ∧ b ≤ if a = 0xED then 0x9F else 0xBF)
    (third : 0x80 ≤ c ∧ c ≤ 0xBF) (rest : List UInt8) :
    read none (a :: b :: c :: rest) =
      .char (Char.ofNat (((a.toNat - 0xE0) * 64 + (b.toNat - 0x80)) * 64 + (c.toNat - 0x80))) ::
        read none rest := by
  rw [read, start_eq, if_neg (not_lt_of_lead lead.1 (by decide)), if_neg (not_lt_of_lead lead.1 (by decide)),
    if_neg (not_lt_of_lead lead.1 (by decide)), if_pos lead.2]
  have completes : (Begun.three a).Completes [b, c] _ := .more (show 2 ≠ 1 by decide) second (.last rfl third)
  exact read_of_completes completes rest

theorem read_four (lead : 0xF0 ≤ a ∧ a < 0xF5)
    (second : (if a = 0xF0 then 0x90 else 0x80) ≤ b ∧ b ≤ if a = 0xF4 then 0x8F else 0xBF)
    (third : 0x80 ≤ c ∧ c ≤ 0xBF) (fourth : 0x80 ≤ d ∧ d ≤ 0xBF) (rest : List UInt8) :
    read none (a :: b :: c :: d :: rest) =
      .char (Char.ofNat
        ((((a.toNat - 0xF0) * 64 + (b.toNat - 0x80)) * 64 + (c.toNat - 0x80)) * 64 + (d.toNat - 0x80))) ::
        read none rest := by
  rw [read, start_eq, if_neg (not_lt_of_lead lead.1 (by decide)), if_neg (not_lt_of_lead lead.1 (by decide)),
    if_neg (not_lt_of_lead lead.1 (by decide)), if_neg (not_lt_of_lead lead.1 (by decide)), if_pos lead.2]
  have completes : (Begun.four a).Completes [b, c, d] _ :=
    .more (show 3 ≠ 1 by decide) second (.more (show 2 ≠ 1 by decide) third (.last rfl fourth))
  exact read_of_completes completes rest

end

theorem octets_cons (u : RawUnit) (t : RawText) : octets (u :: t) = u.octets ++ octets t := List.flatMap_cons

theorem octets_read (octets : List UInt8) (state : Option Begun) (sound : ∀ begun ∈ state, begun.Sound) :
    (read state octets).octets = state.elim [] Begun.octets ++ octets := by
  induction octets generalizing state with
  | nil =>
    cases state with
    | none => rfl
    | some begun => simp [read, RawText.octets, RawUnit.octets]
  | cons o rest ih =>
    have fresh : (read none (o :: rest)).octets = o :: rest := by
      rcases start_sound o with ⟨u, is, own⟩ | ⟨begun, begins, first, sound⟩
      · rw [read, is]
        show RawText.octets (u :: read none rest) = o :: rest
        rw [octets_cons, own, ih none nofun]
        rfl
      · rw [read, begins]
        show (read (some begun) rest).octets = o :: rest
        rw [ih (some begun) (by simpa using sound), Option.elim_some, first]
        rfl
    cases state with
    | none => exact fresh
    | some begun =>
      replace sound := sound begun rfl
      by_cases fits : begun.least ≤ o ∧ o ≤ begun.most
      · by_cases one : begun.missing = 1
        · have completed := sound _ _ (.last one fits)
          rw [read, if_pos fits, if_pos one, octets_cons, ih none nofun]
          refine (congrArg (· ++ rest) completed).trans ?_
          rw [List.append_assoc]
          rfl
        · have goesOn := ih (some (begun.on o)) (by simpa using sound.on one fits)
          rw [read, if_pos fits, if_neg one]
          refine goesOn.trans ?_
          rw [Option.elim_some, Begun.on, List.append_assoc]
          rfl
      · rw [read, if_neg fits, octets_cons]
        exact congrArg (begun.octets ++ ·) fresh

/-- Nothing is lost by reading. -/
theorem octets_ofOctets (octets : List UInt8) : (ofOctets octets).octets = octets :=
  octets_read octets none nofun

theorem read_encode (c : Char) (rest : List UInt8) :
    read none (String.utf8EncodeChar c ++ rest) = .char c :: read none rest := by
  have valid : c.val.toNat.isValidChar := c.valid
  have code : Char.ofNat c.val.toNat = c := Char.ofNat_toNat c
  simp only [String.utf8EncodeChar]
  generalize c.val.toNat = n at *
  have octet {m : Nat} (small : m < 256) : (UInt8.ofNat m).toNat = m := by
    rw [UInt8.toNat_ofNat']
    omega
  split_ifs with one two three
  · have lead := octet (show n < 256 by omega)
    generalize UInt8.ofNat n = a at *
    have ascii : a < 0x80 := by
      simp only [UInt8.lt_iff_toNat_lt, UInt8.reduceToNat]
      omega
    rw [List.singleton_append, read, start_eq, if_pos ascii, lead, code]
  · have lead := octet (show n / 64 % 32 + 192 < 256 by omega)
    have second := octet (show n % 64 + 128 < 256 by omega)
    generalize UInt8.ofNat (n / 64 % 32 + 192) = a, UInt8.ofNat (n % 64 + 128) = b at *
    have fits : (0xC2 ≤ a ∧ a < 0xE0) ∧ 0x80 ≤ b ∧ b ≤ 0xBF := by
      simp only [UInt8.lt_iff_toNat_lt, UInt8.le_iff_toNat_le, UInt8.reduceToNat]
      omega
    have value : (a.toNat - 0xC0) * 64 + (b.toNat - 0x80) = n := by omega
    refine (read_two fits.1 fits.2 rest).trans ?_
    rw [value, code]
  · have lead := octet (show n / 4096 % 16 + 224 < 256 by omega)
    have second := octet (show n / 64 % 64 + 128 < 256 by omega)
    have third := octet (show n % 64 + 128 < 256 by omega)
    generalize UInt8.ofNat (n / 4096 % 16 + 224) = a, UInt8.ofNat (n / 64 % 64 + 128) = b,
      UInt8.ofNat (n % 64 + 128) = c at *
    have fits : (0xE0 ≤ a ∧ a < 0xF0) ∧ 0x80 ≤ c ∧ c ≤ 0xBF := by
      simp only [UInt8.lt_iff_toNat_lt, UInt8.le_iff_toNat_le, UInt8.reduceToNat]
      omega
    have narrow : (if a = 0xE0 then 0xA0 else 0x80) ≤ b ∧ b ≤ if a = 0xED then 0x9F else 0xBF := by
      constructor <;> split_ifs <;>
        simp only [UInt8.le_iff_toNat_le, ← UInt8.toNat_inj, UInt8.reduceToNat] at * <;> omega
    have value : ((a.toNat - 0xE0) * 64 + (b.toNat - 0x80)) * 64 + (c.toNat - 0x80) = n := by omega
    refine (read_three fits.1 narrow fits.2 rest).trans ?_
    rw [value, code]
  · have small : n < 1114112 := by
      rcases valid with low | high
      · omega
      · exact high.2
    have lead := octet (show n / 262144 % 8 + 240 < 256 by omega)
    have second := octet (show n / 4096 % 64 + 128 < 256 by omega)
    have third := octet (show n / 64 % 64 + 128 < 256 by omega)
    have fourth := octet (show n % 64 + 128 < 256 by omega)
    generalize UInt8.ofNat (n / 262144 % 8 + 240) = a, UInt8.ofNat (n / 4096 % 64 + 128) = b,
      UInt8.ofNat (n / 64 % 64 + 128) = c, UInt8.ofNat (n % 64 + 128) = d at *
    have fits : (0xF0 ≤ a ∧ a < 0xF5) ∧ (0x80 ≤ c ∧ c ≤ 0xBF) ∧ 0x80 ≤ d ∧ d ≤ 0xBF := by
      simp only [UInt8.lt_iff_toNat_lt, UInt8.le_iff_toNat_le, UInt8.reduceToNat]
      omega
    have narrow : (if a = 0xF0 then 0x90 else 0x80) ≤ b ∧ b ≤ if a = 0xF4 then 0x8F else 0xBF := by
      constructor <;> split_ifs <;>
        simp only [UInt8.le_iff_toNat_le, ← UInt8.toNat_inj, UInt8.reduceToNat] at * <;> omega
    have value : (((a.toNat - 0xF0) * 64 + (b.toNat - 0x80)) * 64 + (c.toNat - 0x80)) * 64 + (d.toNat - 0x80) = n := by
      omega
    refine (read_four fits.1 narrow fits.2.1 fits.2.2 rest).trans ?_
    rw [value, code]

/-- A text is read back from its octets. -/
theorem ofOctets_octets_ofText (t : Text) : ofOctets (ofText t).octets = ofText t := by
  induction t with
  | nil => rfl
  | cons c t ih =>
    rw [ofText_cons, octets_cons]
    exact (read_encode c _).trans (congrArg (RawUnit.char c :: ·) ih)

/-- Octets are read as text just if they are that of the text in UTF-8. -/
theorem text?_ofOctets_iff {octets : List UInt8} {t : Text} :
    (ofOctets octets).text? = some t ↔ octets = t.flatMap String.utf8EncodeChar := by
  have encoded : (ofText t).octets = t.flatMap String.utf8EncodeChar := List.flatMap_map ..
  rw [text?_eq_some_iff, ← encoded]
  constructor
  · intro read
    rw [← read, octets_ofOctets]
  · intro same
    rw [same, ofOctets_octets_ofText]

end DocLinks.RawText
