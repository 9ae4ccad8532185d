import DocLinks.Text.Basic

namespace DocLinks

/-- A value of JSON. A number is a whole number times a power of ten. -/
inductive Json
  | null
  | bool (b : Bool)
  | number (mantissa exponent : Int)
  | string (t : Text)
  | array (items : List Json)
  | object (fields : List (Text × Json))

namespace Json

def isSpace (c : Char) : Bool := c == ' ' || c == '\t' || c == '\n' || c == '\r'

/-- Leads over the blanks before the rest of a text. -/
def Skips (t rest : Text) : Prop := ∃ blanks, (∀ c ∈ blanks, isSpace c = true) ∧ t = blanks ++ rest

def IsDigits (t : Text) : Prop := t ≠ [] ∧ ∀ c ∈ t, c.isDigit = true

/-- Digits after a point, which is only there if they are. -/
inductive IsFraction : Text → Text → Prop
  | absent : IsFraction [] []
  | present {digits : Text} (isDigits : IsDigits digits) : IsFraction ('.' :: digits) digits

/-- The signs of an exponent. -/
def signs : List (Text × Int) := [([], 1), (['+'], 1), (['-'], -1)]

inductive IsExponent : Text → Int → Prop
  | absent : IsExponent [] 0
  | present {mark : Char} {t sign digits : Text} {factor : Int} (isMark : mark = 'e' ∨ mark = 'E')
    (isSign : (sign, factor) ∈ signs) (isDigits : IsDigits digits) (spelled : t = sign ++ digits) :
    IsExponent (mark :: t) (factor * Text.ofDigits digits)

/-- A number as it is written, its digits with the point left out, and how far they are from the point. No zero stands
before other digits, and no plus sign before the number. -/
inductive IsNumeral : Text → Int → Int → Prop
  | intro {t sign whole fraction digits exponent : Text} {factor power : Int} (isSign : (sign, factor) ∈ signs)
    (noPlus : sign ≠ ['+']) (isWhole : IsDigits whole) (noZero : whole.head? = some '0' → whole = ['0'])
    (isFraction : IsFraction fraction digits) (isExponent : IsExponent exponent power)
    (spelled : t = sign ++ (whole ++ (fraction ++ exponent))) :
    IsNumeral t (factor * Text.ofDigits (whole ++ digits)) (power - digits.length)

def isNumeralChar (c : Char) : Bool := c.isDigit || c == '.' || c == 'e' || c == 'E' || c == '+' || c == '-'

/-- The value of a hexadecimal digit. -/
def hexValue? (c : Char) : Option Nat := "0123456789abcdef".toList.idxOf? c.toLower

/-- A code unit in four hexadecimal digits. -/
def unit? (a b c d : Char) : Option Nat := do
  return 4096 * (← hexValue? a) + 256 * (← hexValue? b) + 16 * (← hexValue? c) + (← hexValue? d)

/-- The letters that stand for characters after a backslash. -/
def letters : List (Char × Char) :=
  [('"', '"'), ('\\', '\\'), ('/', '/'), ('b', '\x08'), ('f', '\x0c'), ('n', '\n'), ('r', '\r'), ('t', '\t')]

/-- The characters of a string, up to its closing quote. Control characters are never written as they are; code units
in hexadecimal digits are characters alone, or two of them are one. -/
inductive Characters : Text → Text → Text → Prop
  | close (rest : Text) : Characters ('"' :: rest) [] rest
  | plain {c : Char} {t s rest : Text} (visible : 0x20 ≤ c.toNat) (noQuote : c ≠ '"') (noEscape : c ≠ '\\')
    (more : Characters t s rest) : Characters (c :: t) (c :: s) rest
  | letter {l c : Char} {t s rest : Text} (known : (l, c) ∈ letters) (more : Characters t s rest) :
    Characters ('\\' :: l :: t) (c :: s) rest
  | unit {a b c d : Char} {n : Nat} {t s rest : Text} (written : unit? a b c d = some n)
    (alone : n < 0xD800 ∨ 0xE000 ≤ n) (more : Characters t s rest) :
    Characters ('\\' :: 'u' :: a :: b :: c :: d :: t) (Char.ofNat n :: s) rest
  | pair {a b c d a' b' c' d' : Char} {high low : Nat} {t s rest : Text} (first : unit? a b c d = some high)
    (isHigh : 0xD800 ≤ high ∧ high < 0xDC00) (second : unit? a' b' c' d' = some low)
    (isLow : 0xDC00 ≤ low ∧ low < 0xE000) (more : Characters t s rest) :
    Characters ('\\' :: 'u' :: a :: b :: c :: d :: '\\' :: 'u' :: a' :: b' :: c' :: d' :: t)
      (Char.ofNat (0x10000 + 0x400 * (high - 0xD800) + (low - 0xDC00)) :: s) rest

/-- What a part of a document can be: a value, the items of an array from one of them on or from what follows one of
them on, and the same for the fields of an object. -/
inductive Kind
  | value
  | items
  | moreItems
  | fields
  | moreFields

abbrev Kind.Meaning : Kind → Type
  | .value => Json
  | .items | .moreItems => List Json
  | .fields | .moreFields => List (Text × Json)

/-- The grammar of RFC 8259: a text, what it begins with, and what follows that. A number goes on as long as it can. -/
inductive Spells : (kind : Kind) → Text → kind.Meaning → Text → Prop
  | nullWord (rest : Text) : Spells .value ('n' :: 'u' :: 'l' :: 'l' :: rest) .null rest
  | trueWord (rest : Text) : Spells .value ('t' :: 'r' :: 'u' :: 'e' :: rest) (.bool true) rest
  | falseWord (rest : Text) : Spells .value ('f' :: 'a' :: 'l' :: 's' :: 'e' :: rest) (.bool false) rest
  | number {t numeral rest : Text} {mantissa exponent : Int} (isNumeral : IsNumeral numeral mantissa exponent)
    (ended : ∀ c ∈ rest.head?, isNumeralChar c = false) (spelled : t = numeral ++ rest) :
    Spells .value t (.number mantissa exponent) rest
  | string {t s rest : Text} (characters : Characters t s rest) : Spells .value ('"' :: t) (.string s) rest
  | emptyArray {t rest : Text} (closed : Skips t (']' :: rest)) : Spells .value ('[' :: t) (.array []) rest
  | array {t t' rest : Text} {items : List Json} (begun : Skips t t') (more : Spells .items t' items rest) :
    Spells .value ('[' :: t) (.array items) rest
  | emptyObject {t rest : Text} (closed : Skips t ('\x7d' :: rest)) : Spells .value ('\x7b' :: t) (.object []) rest
  | object {t t' rest : Text} {fields : List (Text × Json)} (begun : Skips t t')
    (more : Spells .fields t' fields rest) : Spells .value ('\x7b' :: t) (.object fields) rest
  | item {t t' t'' rest : Text} {v : Json} {items : List Json} (first : Spells .value t v t') (ended : Skips t' t'')
    (more : Spells .moreItems t'' items rest) : Spells .items t (v :: items) rest
  | lastItem (rest : Text) : Spells .moreItems (']' :: rest) [] rest
  | nextItem {t t' rest : Text} {items : List Json} (begun : Skips t t') (more : Spells .items t' items rest) :
    Spells .moreItems (',' :: t) items rest
  | field {t t' t'' u u' u'' rest : Text} {name : Text} {v : Json} {fields : List (Text × Json)}
    (named : Characters t name t') (parted : Skips t' (':' :: t'')) (begun : Skips t'' u) (first : Spells .value u v u')
    (ended : Skips u' u'') (more : Spells .moreFields u'' fields rest) :
    Spells .fields ('"' :: t) ((name, v) :: fields) rest
  | lastField (rest : Text) : Spells .moreFields ('\x7d' :: rest) [] rest
  | nextField {t t' rest : Text} {fields : List (Text × Json)} (begun : Skips t t')
    (more : Spells .fields t' fields rest) : Spells .moreFields (',' :: t) fields rest

/-- A text that is one value, perhaps between blanks. -/
def IsDocument (t : Text) (v : Json) : Prop :=
  ∃ t' rest, Skips t t' ∧ Spells .value t' v rest ∧ Skips rest []

section

variable {t a b : Text}

theorem Skips.refl (t : Text) : Skips t t := ⟨[], nofun, rfl⟩

theorem Skips.of_append {blanks : Text} (isBlank : ∀ c ∈ blanks, isSpace c = true) (rest : Text) :
    Skips (blanks ++ rest) rest := ⟨blanks, isBlank, rfl⟩

theorem Skips.unique (skips : Skips t a) (skips' : Skips t b) (ended : ∀ c ∈ a.head?, isSpace c = false)
    (ended' : ∀ c ∈ b.head?, isSpace c = false) : a = b := by
  obtain ⟨blanks, isBlank, rfl⟩ := skips
  obtain ⟨blanks', isBlank', same⟩ := skips'
  have divided : blanks = blanks' ∧ a = b := by
    refine @append_inj_of_stops (!isSpace ·) _ _ _ _ ?_ ?_ ?_ ?_ same
    · simpa using isBlank
    · simpa using isBlank'
    · simpa using ended
    · simpa using ended'
  exact divided.2

end

theorem IsDigits.head? {t : Text} (isDigits : IsDigits t) (rest : Text) :
    ∀ c ∈ (t ++ rest).head?, c.isDigit = true := by
  obtain ⟨some, digits⟩ := isDigits
  cases t with
  | nil => exact absurd rfl some
  | cons c t => simpa using digits c List.mem_cons_self

theorem IsFraction.head? {fraction digits : Text} (isFraction : IsFraction fraction digits) :
    ∀ c ∈ fraction.head?, c = '.' := by
  cases isFraction with
  | absent => exact nofun
  | present => simp

theorem IsExponent.head? {exponent : Text} {power : Int} (isExponent : IsExponent exponent power) :
    ∀ c ∈ exponent.head?, c = 'e' ∨ c = 'E' := by
  cases isExponent with
  | absent => exact nofun
  | present isMark => simpa using isMark

theorem IsExponent.not_isDigit {exponent : Text} {power : Int} (isExponent : IsExponent exponent power) :
    ∀ c ∈ exponent.head?, c.isDigit = false := by
  intro c first
  rcases isExponent.head? c first with rfl | rfl <;> rfl

/-- Digits end where something else begins. -/
theorem digits_inj {a b p q : Text} (digits : IsDigits a) (digits' : IsDigits b)
    (ended : ∀ c ∈ p.head?, c.isDigit = false) (ended' : ∀ c ∈ q.head?, c.isDigit = false) (same : a ++ p = b ++ q) :
    a = b ∧ p = q := by
  refine @append_inj_of_stops (!Char.isDigit ·) _ _ _ _ ?_ ?_ ?_ ?_ same
  · simpa using digits.2
  · simpa using digits'.2
  · simpa using ended
  · simpa using ended'

/-- A sign ends where digits begin. -/
theorem sign_inj {sign sign' a b : Text} {factor factor' : Int} (isSign : (sign, factor) ∈ signs)
    (isSign' : (sign', factor') ∈ signs) (begun : ∀ c ∈ a.head?, c.isDigit = true)
    (begun' : ∀ c ∈ b.head?, c.isDigit = true) (same : sign ++ a = sign' ++ b) : factor = factor' ∧ a = b := by
  have plain : ∀ entry ∈ signs, ∀ c ∈ entry.1, c.isDigit = false := by simp [signs]
  have apart : ∀ entry ∈ signs, ∀ other ∈ signs, entry.1 = other.1 → entry.2 = other.2 := by decide
  obtain ⟨sameSign, rest⟩ := append_inj_of_stops (plain _ isSign) (plain _ isSign') begun begun' same
  exact ⟨apart _ isSign _ isSign' sameSign, rest⟩

theorem IsExponent.unique {exponent : Text} {power power' : Int} (isExponent : IsExponent exponent power)
    (isExponent' : IsExponent exponent power') : power = power' := by
  cases isExponent with
  | absent =>
    cases isExponent'
    rfl
  | present isMark isSign isDigits spelled =>
    cases isExponent' with
    | present isMark' isSign' isDigits' spelled' =>
      have begun := isDigits.head? []
      have begun' := isDigits'.head? []
      rw [List.append_nil] at begun begun'
      obtain ⟨rfl, rfl⟩ := sign_inj isSign isSign' begun begun' (spelled.symm.trans spelled')
      rfl

theorem IsFraction.unique {fraction fraction' digits digits' exponent exponent' : Text} {power power' : Int}
    (isFraction : IsFraction fraction digits) (isFraction' : IsFraction fraction' digits')
    (isExponent : IsExponent exponent power) (isExponent' : IsExponent exponent' power')
    (same : fraction ++ exponent = fraction' ++ exponent') : digits = digits' ∧ exponent = exponent' := by
  have noPoint {exponent t : Text} {power : Int} (isExponent : IsExponent exponent power)
      (point : exponent = '.' :: t) : False := by
    rw [point] at isExponent
    simpa using isExponent.head? '.' rfl
  cases isFraction with
  | absent =>
    cases isFraction' with
    | absent => exact ⟨rfl, same⟩
    | present => exact (noPoint isExponent same).elim
  | present isDigits =>
    cases isFraction' with
    | absent => exact (noPoint isExponent' same.symm).elim
    | present isDigits' =>
      exact digits_inj isDigits isDigits' isExponent.not_isDigit isExponent'.not_isDigit (List.cons.inj same).2

theorem IsNumeral.unique {numeral : Text} {m m' e e' : Int} (isNumeral : IsNumeral numeral m e)
    (isNumeral' : IsNumeral numeral m' e') : m = m' ∧ e = e' := by
  obtain ⟨isSign, -, isWhole, -, isFraction, isExponent, rfl⟩ := isNumeral
  obtain ⟨isSign', -, isWhole', -, isFraction', isExponent', spelled⟩ := isNumeral'
  have ended {fraction digits exponent : Text} {power : Int} (isFraction : IsFraction fraction digits)
      (isExponent : IsExponent exponent power) : ∀ c ∈ (fraction ++ exponent).head?, c.isDigit = false := by
    cases isFraction with
    | absent => exact isExponent.not_isDigit
    | present => simp
  obtain ⟨rfl, afterSign⟩ := sign_inj isSign isSign' (isWhole.head? _) (isWhole'.head? _) spelled
  obtain ⟨rfl, afterWhole⟩ :=
    digits_inj isWhole isWhole' (ended isFraction isExponent) (ended isFraction' isExponent') afterSign
  obtain ⟨rfl, rfl⟩ := isFraction.unique isFraction' isExponent isExponent' afterWhole
  obtain rfl := isExponent.unique isExponent'
  exact ⟨rfl, rfl⟩

theorem IsNumeral.chars {numeral : Text} {m e : Int} (isNumeral : IsNumeral numeral m e) :
    ∀ c ∈ numeral, isNumeralChar c = true := by
  obtain ⟨isSign, -, isWhole, -, isFraction, isExponent, rfl⟩ := isNumeral
  have ofSign : ∀ entry ∈ signs, ∀ c ∈ entry.1, isNumeralChar c = true := by simp [signs, isNumeralChar]
  have ofDigits {t : Text} (isDigits : IsDigits t) : ∀ c ∈ t, isNumeralChar c = true := by
    intro c member
    simp [isNumeralChar, isDigits.2 c member]
  simp only [List.forall_mem_append]
  refine ⟨ofSign _ isSign, ofDigits isWhole, ?_, ?_⟩
  · cases isFraction with
    | absent => exact nofun
    | present isDigits => exact List.forall_mem_cons.2 ⟨by decide, ofDigits isDigits⟩
  · cases isExponent with
    | absent => exact nofun
    | present isMark isSign isDigits spelled =>
      rw [spelled, List.forall_mem_cons, List.forall_mem_append]
      refine ⟨?_, ofSign _ isSign, ofDigits isDigits⟩
      rcases isMark with rfl | rfl <;> decide

theorem IsNumeral.head? {numeral : Text} {m e : Int} (isNumeral : IsNumeral numeral m e) (rest : Text) :
    ∃ c t, numeral ++ rest = c :: t ∧ isNumeralChar c = true := by
  obtain ⟨c, t, eq⟩ : ∃ c t, numeral = c :: t := by
    obtain ⟨-, -, isWhole, -, -, -, rfl⟩ := isNumeral
    refine List.exists_cons_of_ne_nil ?_
    simp [isWhole.1]
  exact ⟨c, t ++ rest, by rw [eq]; rfl, isNumeral.chars c (eq ▸ List.mem_cons_self)⟩

theorem Characters.unique {t s s' rest rest' : Text} (characters : Characters t s rest)
    (characters' : Characters t s' rest') : s = s' ∧ rest = rest' := by
  have noUnit (c : Char) : ('u', c) ∉ letters := by simp [letters]
  have unique : ∀ entry ∈ letters, ∀ other ∈ letters, entry.1 = other.1 → entry.2 = other.2 := by decide
  induction characters generalizing s' with
  | close rest =>
    cases characters' with
    | close => exact ⟨rfl, rfl⟩
    | plain _ noQuote => exact absurd rfl noQuote
  | plain visible noQuote noEscape more ih =>
    cases characters' with
    | close => exact absurd rfl noQuote
    | plain _ _ _ more' =>
      obtain ⟨rfl, rfl⟩ := ih more'
      exact ⟨rfl, rfl⟩
    | letter => exact absurd rfl noEscape
    | unit => exact absurd rfl noEscape
    | pair => exact absurd rfl noEscape
  | letter known more ih =>
    cases characters' with
    | plain _ _ noEscape => exact absurd rfl noEscape
    | letter known' more' =>
      obtain ⟨rfl, rfl⟩ := ih more'
      obtain rfl := unique _ known _ known' rfl
      exact ⟨rfl, rfl⟩
    | unit => exact absurd known (noUnit _)
    | pair => exact absurd known (noUnit _)
  | unit written alone more ih =>
    cases characters' with
    | plain _ _ noEscape => exact absurd rfl noEscape
    | letter known => exact absurd known (noUnit _)
    | unit written' alone' more' =>
      obtain ⟨rfl, rfl⟩ := ih more'
      obtain rfl := Option.some.inj (written.symm.trans written')
      exact ⟨rfl, rfl⟩
    | pair first isHigh =>
      obtain rfl := Option.some.inj (written.symm.trans first)
      omega
  | pair first isHigh second isLow more ih =>
    cases characters' with
    | plain _ _ noEscape => exact absurd rfl noEscape
    | letter known => exact absurd known (noUnit _)
    | unit written alone =>
      obtain rfl := Option.some.inj (written.symm.trans first)
      omega
    | pair first' isHigh' second' isLow' more' =>
      obtain ⟨rfl, rfl⟩ := ih more'
      obtain rfl := Option.some.inj (first.symm.trans first')
      obtain rfl := Option.some.inj (second.symm.trans second')
      exact ⟨rfl, rfl⟩

/-- No part begins with a blank, and only the end of a part with a closing bracket. -/
theorem Spells.begins {kind : Kind} {t rest : Text} {m : kind.Meaning} (spells : Spells kind t m rest) :
    ∃ c u, t = c :: u ∧ isSpace c = false ∧ (c = ']' ∨ c = '\x7d' → kind = .moreItems ∨ kind = .moreFields) := by
  induction spells with
  | @number t numeral rest m e isNumeral ended spelled =>
    obtain ⟨c, u, eq, numeralChar⟩ := isNumeral.head? rest
    have other (d : Char) (refused : isNumeralChar d = false) : c ≠ d := by
      rintro rfl
      cases numeralChar.symm.trans refused
    refine ⟨c, u, spelled.trans eq, ?_, ?_⟩
    · simp [isSpace, other ' ' (by decide), other '\t' (by decide), other '\n' (by decide), other '\r' (by decide)]
    · simp [other ']' (by decide), other '\x7d' (by decide)]
  | item first ended more ih =>
    obtain ⟨c, u, eq, noSpace, closing⟩ := ih
    exact ⟨c, u, eq, noSpace, fun closes => by simpa using closing closes⟩
  | _ => exact ⟨_, _, rfl, by decide, by simp⟩

theorem Spells.noSpace {kind : Kind} {t rest : Text} {m : kind.Meaning} (spells : Spells kind t m rest) :
    ∀ c ∈ t.head?, isSpace c = false := by
  obtain ⟨c, u, rfl, noSpace, -⟩ := spells.begins
  simpa using noSpace

/-- What begins after an opening bracket does not begin with the closing one. -/
theorem Spells.not_closed {kind : Kind} {t t' rest rest' : Text} {m : kind.Meaning} {close : Char}
    (spells : Spells kind t' m rest) (begins : kind ≠ .moreItems ∧ kind ≠ .moreFields)
    (closes : close = ']' ∨ close = '\x7d') (begun : Skips t t') (closed : Skips t (close :: rest')) : False := by
  have noSpace : ∀ c ∈ (close :: rest').head?, isSpace c = false := by
    rcases closes with rfl | rfl <;> simp [isSpace]
  obtain ⟨c, u, eq, -, closing⟩ := spells.begins
  have same := begun.unique closed spells.noSpace noSpace
  rw [eq, List.cons.injEq] at same
  rcases closing (same.1 ▸ closes) with isEnd | isEnd
  · exact begins.1 isEnd
  · exact begins.2 isEnd

/-- A text begins with one value, items or fields at most, and they end in one place. -/
theorem Spells.unique {kind : Kind} {t rest rest' : Text} {m m' : kind.Meaning} (spells : Spells kind t m rest)
    (spells' : Spells kind t m' rest') : m = m' ∧ rest = rest' := by
  -- The rule of numbers is the only one for values that does not say how they begin.
  have noNumeral {c : Char} {t numeral rest : Text} {m e : Int} (isNumeral : IsNumeral numeral m e)
      (spelled : c :: t = numeral ++ rest) (other : isNumeralChar c = false) : False := by
    obtain ⟨d, u, eq, numeralChar⟩ := isNumeral.head? rest
    obtain rfl : c = d := (List.cons.inj (spelled.trans eq)).1
    cases numeralChar.symm.trans other
  induction spells generalizing rest' with
  | nullWord rest =>
    cases spells' with
    | nullWord => exact ⟨rfl, rfl⟩
    | number isNumeral _ spelled => exact (noNumeral isNumeral spelled (by decide)).elim
  | trueWord rest =>
    cases spells' with
    | trueWord => exact ⟨rfl, rfl⟩
    | number isNumeral _ spelled => exact (noNumeral isNumeral spelled (by decide)).elim
  | falseWord rest =>
    cases spells' with
    | falseWord => exact ⟨rfl, rfl⟩
    | number isNumeral _ spelled => exact (noNumeral isNumeral spelled (by decide)).elim
  | number isNumeral ended spelled =>
    cases spells' with
    | number isNumeral' ended' spelled' =>
      have divided := @append_inj_of_stops (!isNumeralChar ·) _ _ _ _ (by simpa using isNumeral.chars)
        (by simpa using isNumeral'.chars) (by simpa using ended) (by simpa using ended') (spelled.symm.trans spelled')
      obtain ⟨rfl, rfl⟩ := divided
      obtain ⟨rfl, rfl⟩ := isNumeral.unique isNumeral'
      exact ⟨rfl, rfl⟩
    | _ => exact (noNumeral isNumeral spelled (by decide)).elim
  | string characters =>
    cases spells' with
    | number isNumeral _ spelled => exact (noNumeral isNumeral spelled (by decide)).elim
    | string characters' =>
      obtain ⟨rfl, rfl⟩ := characters.unique characters'
      exact ⟨rfl, rfl⟩
  | emptyArray closed =>
    cases spells' with
    | number isNumeral _ spelled => exact (noNumeral isNumeral spelled (by decide)).elim
    | emptyArray closed' =>
      have same := closed.unique closed' (by simp [isSpace]) (by simp [isSpace])
      exact ⟨rfl, (List.cons.inj same).2⟩
    | array begun more => exact (more.not_closed (by simp) (.inl rfl) begun closed).elim
  | array begun more ih =>
    cases spells' with
    | number isNumeral _ spelled => exact (noNumeral isNumeral spelled (by decide)).elim
    | emptyArray closed => exact (more.not_closed (by simp) (.inl rfl) begun closed).elim
    | array begun' more' =>
      obtain rfl := begun.unique begun' more.noSpace more'.noSpace
      obtain ⟨rfl, rfl⟩ := ih more'
      exact ⟨rfl, rfl⟩
  | emptyObject closed =>
    cases spells' with
    | number isNumeral _ spelled => exact (noNumeral isNumeral spelled (by decide)).elim
    | emptyObject closed' =>
      have same := closed.unique closed' (by simp [isSpace]) (by simp [isSpace])
      exact ⟨rfl, (List.cons.inj same).2⟩
    | object begun more => exact (more.not_closed (by simp) (.inr rfl) begun closed).elim
  | object begun more ih =>
    cases spells' with
    | number isNumeral _ spelled => exact (noNumeral isNumeral spelled (by decide)).elim
    | emptyObject closed => exact (more.not_closed (by simp) (.inr rfl) begun closed).elim
    | object begun' more' =>
      obtain rfl := begun.unique begun' more.noSpace more'.noSpace
      obtain ⟨rfl, rfl⟩ := ih more'
      exact ⟨rfl, rfl⟩
  | item first ended more ih ihMore =>
    cases spells' with
    | item first' ended' more' =>
      obtain ⟨rfl, rfl⟩ := ih first'
      obtain rfl := ended.unique ended' more.noSpace more'.noSpace
      obtain ⟨rfl, rfl⟩ := ihMore more'
      exact ⟨rfl, rfl⟩
  | lastItem rest =>
    cases spells'
    exact ⟨rfl, rfl⟩
  | nextItem begun more ih =>
    cases spells' with
    | nextItem begun' more' =>
      obtain rfl := begun.unique begun' more.noSpace more'.noSpace
      exact ih more'
  | field named parted begun first ended more ih ihMore =>
    cases spells' with
    | field named' parted' begun' first' ended' more' =>
      obtain ⟨rfl, rfl⟩ := named.unique named'
      have colon := parted.unique parted' (by simp [isSpace]) (by simp [isSpace])
      obtain ⟨-, rfl⟩ := List.cons.inj colon
      obtain rfl := begun.unique begun' first.noSpace first'.noSpace
      obtain ⟨rfl, rfl⟩ := ih first'
      obtain rfl := ended.unique ended' more.noSpace more'.noSpace
      obtain ⟨rfl, rfl⟩ := ihMore more'
      exact ⟨rfl, rfl⟩
  | lastField rest =>
    cases spells'
    exact ⟨rfl, rfl⟩
  | nextField begun more ih =>
    cases spells' with
    | nextField begun' more' =>
      obtain rfl := begun.unique begun' more.noSpace more'.noSpace
      exact ih more'

/-- A text is one document at most. -/
theorem IsDocument.unique {t : Text} {v v' : Json} (document : IsDocument t v) (document' : IsDocument t v') :
    v = v' := by
  obtain ⟨u, rest, begun, spells, -⟩ := document
  obtain ⟨u', rest', begun', spells', -⟩ := document'
  obtain rfl := begun.unique begun' spells.noSpace spells'.noSpace
  exact (spells.unique spells').1

end Json

end DocLinks
