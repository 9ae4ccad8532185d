import DocLinks.Proofs.JsonGrammar
import DocLinks.Report

namespace DocLinks

namespace JsonValue

mutual

/-- The value that is meant. -/
def json : JsonValue → Json
  | number n => .number n 0
  | string t => .string t
  | array items => .array (jsonItems items)
  | object fields => .object (jsonFields fields)

def jsonItems : List JsonValue → List Json
  | [] => []
  | v :: items => v.json :: jsonItems items

def jsonFields : List (Text × JsonValue) → List (Text × Json)
  | [] => []
  | (name, v) :: fields => (name, v.json) :: jsonFields fields

end

/-- An escaped character is read back, whichever way it is escaped. -/
theorem characters_escape (c : Char) {t s rest : Text} (more : Json.Characters t s rest) :
    Json.Characters (escape c ++ t) (c :: s) rest := by
  have byLetter {l : Char} (known : (l, c) ∈ Json.letters) (escaped : escape c = ['\\', l]) :
      Json.Characters (escape c ++ t) (c :: s) rest := by
    rw [escaped]
    exact .letter known more
  by_cases lettered : c ∈ ['"', '\\', '\x08', '\t', '\n', '\x0c', '\r']
  · simp only [List.mem_cons, List.not_mem_nil, or_false] at lettered
    rcases lettered with rfl | rfl | rfl | rfl | rfl | rfl | rfl
    all_goals exact byLetter (by decide) rfl
  · simp only [List.mem_cons, List.not_mem_nil, or_false, not_or] at lettered
    by_cases control : c.toNat < 0x20
    · have digits : ∀ n < 0x20, Json.unit? '0' '0' (Nat.digitChar (n / 16)) (Nat.digitChar (n % 16)) = some n := by
        decide
      have written := Json.Characters.unit (digits c.toNat control) (.inl (by omega)) more
      rw [Char.ofNat_toNat] at written
      have escaped : escape c = ['\\', 'u', '0', '0', Nat.digitChar (c.toNat / 16), Nat.digitChar (c.toNat % 16)] := by
        simp only [escape, lettered, control, if_true, if_false]
      rw [escaped]
      exact written
    · have escaped : escape c = [c] := by simp only [escape, lettered, control, if_false]
      rw [escaped]
      exact .plain (Nat.le_of_not_lt control) lettered.1 lettered.2.1 more

theorem characters_quote (t rest : Text) : Json.Characters (t.flatMap escape ++ '"' :: rest) t rest := by
  induction t with
  | nil => exact .close rest
  | cons c t ih =>
    rw [List.flatMap_cons, List.append_assoc]
    exact characters_escape c ih

theorem quote_append (t rest : Text) : quote t ++ rest = '"' :: (t.flatMap escape ++ '"' :: rest) := by
  simp [quote]

theorem isNumeral_decimal (n : Nat) : Json.IsNumeral (Text.decimal n) n 0 := by
  have isWhole : Json.IsDigits (Text.decimal n) :=
    ⟨Text.decimal_ne_nil n, fun c member => Text.isDigit_of_mem_decimal member⟩
  have noZero (zero : (Text.decimal n).head? = some '0') : Text.decimal n = ['0'] := by
    rcases Nat.eq_zero_or_pos n with rfl | positive
    · rfl
    · exact absurd zero (Text.head?_decimal positive)
  have unsigned : ([], 1) ∈ Json.signs := by decide
  have spelled : Text.decimal n = [] ++ (Text.decimal n ++ ([] ++ [])) := by simp
  have isNumeral := Json.IsNumeral.intro unsigned (by decide) isWhole noZero .absent .absent spelled
  simpa [Text.ofDigits_decimal] using isNumeral

theorem skips_line (depth : Nat) (rest : Text) : Json.Skips (line depth ++ rest) rest := by
  refine .of_append ?_ rest
  rw [line, List.forall_mem_cons]
  refine ⟨by decide, fun c member => ?_⟩
  rw [List.eq_of_mem_replicate member]
  decide

theorem skips_space (rest : Text) : Json.Skips (' ' :: rest) rest :=
  .of_append (List.forall_mem_singleton.2 (by decide)) rest

theorem line_ends (depth : Nat) (rest : Text) :
    ∀ c ∈ (line depth ++ rest).head?, Json.isNumeralChar c = false := by
  intro c first
  obtain rfl : '\n' = c := Option.some.inj first
  decide

theorem comma_ends (rest : Text) : ∀ c ∈ (',' :: rest).head?, Json.isNumeralChar c = false := by
  intro c first
  obtain rfl : ',' = c := Option.some.inj first
  decide

mutual

/-- What is written is read back, up to where it ends. -/
theorem spells_write (depth : Nat) : ∀ (v : JsonValue) (rest : Text),
    (∀ c ∈ rest.head?, Json.isNumeralChar c = false) → Json.Spells .value (v.write depth ++ rest) v.json rest
  | number n, rest, ended => .number (isNumeral_decimal n) ended rfl
  | string t, rest, _ => by
    rw [write, quote_append, json]
    exact .string (characters_quote t rest)
  | array [], rest, _ => .emptyArray (.refl _)
  | array (v :: items), rest, _ => by
    have more := spells_items (depth + 1) (depth + 1) depth (v :: items) (List.cons_ne_nil _ _) rest
    have array := Json.Spells.array (skips_line (depth + 1) _) more
    simpa only [write, block, writeItems, List.cons_append, List.append_assoc, List.nil_append, json] using array
  | object [], rest, _ => .emptyObject (.refl _)
  | object ((name, v) :: fields), rest, _ => by
    have more := spells_fields (depth + 1) (depth + 1) depth ((name, v) :: fields) (List.cons_ne_nil _ _) rest
    have object := Json.Spells.object (skips_line (depth + 1) _) more
    simpa only [write, block, writeFields, List.cons_append, List.append_assoc, List.nil_append, json] using object

theorem spells_items (depth indent outer : Nat) : ∀ items : List JsonValue, items ≠ [] → ∀ rest : Text,
    Json.Spells .items (List.intercalate (',' :: line indent) (writeItems depth items) ++ (line outer ++ ']' :: rest))
      (jsonItems items) rest
  | [], nonempty, _ => absurd rfl nonempty
  | [v], _, rest => by
    have first := spells_write depth v _ (line_ends outer (']' :: rest))
    simpa only [writeItems, List.intercalate_singleton, jsonItems] using
      Json.Spells.item first (skips_line outer _) (.lastItem rest)
  | v :: w :: items, _, rest => by
    have more := spells_items depth indent outer (w :: items) (List.cons_ne_nil _ _) rest
    have item := Json.Spells.item (spells_write depth v _ (comma_ends _)) (.refl _)
      (.nextItem (skips_line indent _) more)
    simpa only [writeItems, List.intercalate_cons_cons, List.cons_append, List.append_assoc, jsonItems] using item

theorem spells_fields (depth indent outer : Nat) : ∀ fields : List (Text × JsonValue), fields ≠ [] → ∀ rest : Text,
    Json.Spells .fields
      (List.intercalate (',' :: line indent) (writeFields depth fields) ++ (line outer ++ '\x7d' :: rest))
      (jsonFields fields) rest
  | [], nonempty, _ => absurd rfl nonempty
  | [(name, v)], _, rest => by
    have field := Json.Spells.field (characters_quote name _) (.refl _) (skips_space _)
      (spells_write depth v _ (line_ends outer _)) (skips_line outer _) (.lastField rest)
    simpa only [writeFields, List.intercalate_singleton, quote, List.cons_append, List.append_assoc, List.nil_append,
      jsonFields] using field
  | (name, v) :: field :: fields, _, rest => by
    have more := spells_fields depth indent outer (field :: fields) (List.cons_ne_nil _ _) rest
    have field := Json.Spells.field (characters_quote name _) (.refl _) (skips_space _)
      (spells_write depth v _ (comma_ends _)) (.refl _) (.nextField (skips_line indent _) more)
    simpa only [writeFields, List.intercalate_cons_cons, quote, List.cons_append, List.append_assoc, List.nil_append,
      jsonFields] using field

end

/-- A value that is written is a document, and no other value is written so. -/
theorem isDocument_write_iff (v : JsonValue) (value : Json) : Json.IsDocument (v.write 0) value ↔ value = v.json := by
  have spells := spells_write 0 v [] nofun
  rw [List.append_nil] at spells
  have document : Json.IsDocument (v.write 0) v.json := ⟨_, [], .refl _, spells, .refl _⟩
  constructor
  · exact fun other => other.unique document
  · rintro rfl
    exact document

end JsonValue

namespace Json

def field? (name : Text) : Json → Option Json
  | object fields => fields.lookup name
  | _ => none

def natural? : Json → Option Nat
  | number (.ofNat n) 0 => some n
  | _ => none

def text? : Json → Option Text
  | string t => some t
  | _ => none

def items? : Json → Option (List Json)
  | array items => some items
  | _ => none

end Json

namespace Failure

/-- A broken link as an object of its three texts. -/
def value (f : Failure) : Json :=
  .object [("link".toList, .string f.link), ("file".toList, .string f.file), ("reason".toList, .string f.reason)]

def ofValue? (v : Json) : Option Failure := do
  let link ← (← v.field? "link".toList).text?
  let file ← (← v.field? "file".toList).text?
  let reason ← (← v.field? "reason".toList).text?
  return ⟨link, file, reason⟩

theorem ofValue?_value (f : Failure) : ofValue? f.value = some f := rfl

theorem mapM_ofValue? (broken : List Failure) : (broken.map value).mapM ofValue? = some broken := by
  induction broken with
  | nil => rfl
  | cons f broken ih =>
    rw [List.map_cons, List.mapM_cons, ofValue?_value, ih]
    rfl

theorem jsonItems_json (broken : List Failure) : JsonValue.jsonItems (broken.map json) = broken.map value := by
  induction broken with
  | nil => rfl
  | cons f broken ih =>
    rw [List.map_cons, JsonValue.jsonItems, ih]
    rfl

end Failure

namespace Outcome

/-- An outcome as an object of its two counts and of the broken links in their order. -/
def value (o : Outcome) : Json :=
  .object [("files_scanned".toList, .number o.filesScanned 0), ("links_checked".toList, .number o.linksChecked 0),
    ("broken".toList, .array (o.broken.map Failure.value))]

def ofValue? (v : Json) : Option Outcome := do
  let filesScanned ← (← v.field? "files_scanned".toList).natural?
  let linksChecked ← (← v.field? "links_checked".toList).natural?
  let items ← (← v.field? "broken".toList).items?
  return ⟨filesScanned, linksChecked, ← items.mapM Failure.ofValue?⟩

theorem ofValue?_value (o : Outcome) : ofValue? o.value = some o := by
  have read : ofValue? o.value = ((o.broken.map Failure.value).mapM Failure.ofValue?).bind fun broken =>
      some ⟨o.filesScanned, o.linksChecked, broken⟩ := rfl
  rw [read, Failure.mapM_ofValue?]
  rfl

theorem isDocument_json_iff (o : Outcome) (v : Json) : Json.IsDocument o.json v ↔ v = o.value := by
  have meant : o.jsonValue.json = o.value := by
    simp only [jsonValue, JsonValue.json, JsonValue.jsonFields, Failure.jsonItems_json, value]
  rw [json, JsonValue.isDocument_write_iff, meant]

/-- The report in JSON loses nothing. It is one document and no other, an object of the counts and of the broken links,
with every text as it is; what is read from it is the outcome again, so that no two outcomes have one report, and no
broken links are read from it just if the exit code is zero. -/
theorem json_lossless :
    (∀ o : Outcome, (∀ v, Json.IsDocument o.json v ↔ v = o.value) ∧
      ∃ read, ofValue? o.value = some read ∧ read = o ∧ (read.broken = [] ↔ o.exitCode = 0)) ∧
    Function.Injective json := by
  refine ⟨fun o => ⟨o.isDocument_json_iff, o, o.ofValue?_value, rfl, exitCode_eq_zero.symm⟩, ?_⟩
  intro o o' same
  have document : Json.IsDocument o.json o.value := (o.isDocument_json_iff _).2 rfl
  rw [same] at document
  have values : o.value = o'.value := (o'.isDocument_json_iff _).1 document
  have outcomes := congrArg ofValue? values
  rw [ofValue?_value, ofValue?_value] at outcomes
  exact Option.some.inj outcomes

end Outcome

end DocLinks
