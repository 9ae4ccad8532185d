import DocLinks.CommandLine.Reading
import Mathlib.Data.List.Basic

namespace DocLinks.CommandLine

theorem number?_decimal {n : Nat} (small : n < numberBound) : number? (Text.decimal n) = some n := by
  obtain ⟨d, rest, eq⟩ := List.exists_cons_of_ne_nil (Text.decimal_ne_nil n)
  have digits : (Text.decimal n).all Char.isDigit = true :=
    List.all_eq_true.2 fun c member => Text.isDigit_of_mem_decimal member
  have noSign : (Text.decimal n).head? ≠ some '+' := by
    intro sign
    cases Text.isDigit_of_mem_decimal (List.mem_of_mem_head? sign)
  have nonempty : (Text.decimal n).isEmpty = false := by rw [eq]; rfl
  simp only [number?, if_neg noSign, nonempty, digits, Text.ofDigits_decimal, if_pos small]
  rfl

namespace Value

theorem path_ofText {v : Text} (nonempty : v ≠ []) : path (.ofText v) = .ok (.ofText v) := by
  rw [path, RawText.isEmpty_ofText, List.isEmpty_eq_false_iff.2 nonempty]
  rfl

theorem text_ofText (v : Text) : text (.ofText v) = .ok v := by
  rw [text, RawText.text?_ofText]

theorem number_decimal {n : Nat} (small : n < numberBound) : number (.ofText (Text.decimal n)) = .ok n := by
  simp only [number, text_ofText, bind, Except.bind, number?_decimal small]
  rfl

end Value

/-- What may stand for an option on the command line. -/
def Flag.labels : Flag → List Text
  | .setting .path => ["--path".toList, "-p".toList]
  | .setting .docsRoot => ["--docs-root".toList, "-r".toList]
  | .setting .staticRoot => ["--static-root".toList, "-sr".toList]
  | .setting .sitePrefix => ["--site-prefix".toList, "-s".toList]
  | .setting .staticPrefix => ["--static-prefix".toList, "-sp".toList]
  | .setting .concurrency => ["--concurrency".toList]
  | .setting .timeout => ["--timeout".toList]
  | .switch .skipExternal => ["--skip-external".toList]
  | .switch .json => ["--json".toList]
  | .switch .verbose => ["--verbose".toList, "-v".toList]
  | .switch .help => ["--help".toList, "-h".toList]
  | .switch .version => ["--version".toList, "-V".toList]

/-- The option that a label is read as once the two-letter labels are written out. -/
def Flag.ofLabel? : Text → Option Flag
  | '-' :: '-' :: name => if '=' ∈ name then none else ofLong? name
  | ['-', letter] => ofShort? letter
  | _ => none

theorem Flag.ofLabel?_cases {label : Text} {flag : Flag} (known : ofLabel? label = some flag) :
    (∃ name, label = '-' :: '-' :: name ∧ '=' ∉ name ∧ ofLong? name = some flag) ∨
      ∃ letter, label = ['-', letter] ∧ letter ≠ '-' ∧ ofShort? letter = some flag := by
  unfold ofLabel? at known
  split at known
  · next name =>
    rw [Option.ite_none_left_eq_some] at known
    exact .inl ⟨name, rfl, known⟩
  · next letter noDash => exact .inr ⟨letter, rfl, noDash, known⟩
  · cases known

theorem Flag.label_cases : ∀ (flag : Flag), ∀ label ∈ flag.labels,
    ofLabel? label = some flag ∨ ∃ long, (label, long) ∈ shorthands ∧ ofLabel? long = some flag := by
  have written : ∀ (flag : Flag), ∀ label ∈ flag.labels, ofLabel? label = some flag ∨
      ∃ entry ∈ shorthands, entry.1 = label ∧ ofLabel? entry.2 = some flag := by
    rintro (s | s) <;> cases s <;> decide
  intro flag label isLabel
  refine (written flag label isLabel).imp_right ?_
  rintro ⟨⟨_, long⟩, member, rfl, known⟩
  exact ⟨long, member, known⟩

/-- What stands after a label in the same argument: nothing, or a value after an equals sign. -/
def Attached (rest : Text) : Prop := rest = [] ∨ ∃ v, rest = '=' :: v

theorem expand_shorthand {short long rest : Text} (member : (short, long) ∈ shorthands) (attached : Attached rest) :
    expand (.ofText (short ++ rest)) = .ofText (long ++ rest) := by
  simp only [shorthands, List.mem_cons, List.not_mem_nil, or_false, Prod.mk.injEq] at member
  rw [expand, RawText.text?_ofText]
  rcases member with ⟨rfl, rfl⟩ | ⟨rfl, rfl⟩ <;> rcases attached with rfl | ⟨v, rfl⟩ <;> rfl

/-- An argument that begins like no two-letter label stands as it is. -/
theorem expand_eq_self {arg : Text} (other : ∀ entry ∈ shorthands, ¬entry.1 <+: arg) :
    expand (.ofText arg) = .ofText arg := by
  rw [expand, RawText.text?_ofText, Option.bind_some, List.findSome?_eq_none_iff.2]
  rintro ⟨short, long⟩ member
  have noPrefix : short.isPrefixOf? arg = none := by
    rw [← Option.not_isSome_iff_eq_none, List.isSome_isPrefixOf?_eq_isPrefixOf, List.isPrefixOf_iff_prefix]
    exact other _ member
  show expandAs? short long arg = none
  rw [expandAs?, noPrefix]

theorem expand_label {label rest : Text} {flag : Flag} (known : Flag.ofLabel? label = some flag)
    (attached : Attached rest) : expand (.ofText (label ++ rest)) = .ofText (label ++ rest) := by
  refine expand_eq_self ?_
  rcases Flag.ofLabel?_cases known with ⟨name, rfl, -, -⟩ | ⟨letter, rfl, -, -⟩
  · simp [shorthands]
  · rcases attached with rfl | ⟨v, rfl⟩ <;> simp [shorthands]

/-- Only text is looked at for two-letter labels. -/
theorem expand_of_no_text {arg : RawText} (noText : arg.text? = none) : expand arg = arg := by
  rw [expand, noText]
  rfl

theorem expand_value {v : RawText} (noDash : v.head? ≠ some (.char '-')) : expand v = v := by
  cases read : v.text? with
  | none => exact expand_of_no_text read
  | some t =>
    cases RawText.text?_eq_some_iff.1 read
    refine expand_eq_self ?_
    cases t with
    | nil => simp [shorthands]
    | cons c t =>
      have other : '-' ≠ c := by
        rintro rfl
        exact noDash rfl
      simp [shorthands, other]

theorem ne_endOfOptions {flag : Flag} {label : Text} (known : Flag.ofLabel? label = some flag) (rest : Text) :
    RawText.ofText (label ++ rest) ≠ endOfOptions := by
  rw [endOfOptions, Ne, RawText.ofText_inj]
  rcases Flag.ofLabel?_cases known with ⟨name, rfl, -, known⟩ | ⟨letter, rfl, noDash, -⟩
  · have named : name ≠ [] := by
      rintro rfl
      cases known
    simp [named]
  · simp [noDash]

/-- However an option is written, it is read as its label without two-letter forms. -/
theorem Flag.exists_label {flag : Flag} {label : Text} (isLabel : label ∈ flag.labels) :
    ∃ read, ofLabel? read = some flag ∧ ∀ rest, Attached rest →
      RawText.ofText (label ++ rest) ≠ endOfOptions ∧
        expand (.ofText (label ++ rest)) = .ofText (read ++ rest) := by
  rcases flag.label_cases label isLabel with known | ⟨long, member, known⟩
  · exact ⟨label, known, fun rest attached => ⟨ne_endOfOptions known rest, expand_label known attached⟩⟩
  · refine ⟨long, known, fun rest attached => ⟨?_, expand_shorthand member attached⟩⟩
    simp only [shorthands, List.mem_cons, List.not_mem_nil, or_false, Prod.mk.injEq] at member
    rw [endOfOptions, Ne, RawText.ofText_inj]
    rcases member with ⟨rfl, -⟩ | ⟨rfl, -⟩ <;> simp

/-- An argument that gives an option its value, which need not be text. -/
def withValue (label : Text) (v : RawText) : RawText := .ofText label ++ .char '=' :: v

theorem withValue_ofText (label v : Text) : withValue label (.ofText v) = .ofText (label ++ '=' :: v) := by
  rw [withValue, RawText.ofText_append, RawText.ofText_cons]

/-- The name of an option ends where its value begins. -/
theorem ofText_divided {name : Text} {rest : RawText} (noEq : '=' ∉ name)
    (attached : rest = [] ∨ ∃ v, rest = .char '=' :: v) :
    (RawText.ofText name ++ rest).takeWhile (· != .char '=') = RawText.ofText name ∧
      (RawText.ofText name ++ rest).dropWhile (· != .char '=') = rest := by
  have passes : ∀ u ∈ RawText.ofText name, (u != .char '=') = true := by
    intro u member
    obtain ⟨c, isPart, rfl⟩ := List.mem_map.1 member
    have other : c ≠ '=' := fun eq => noEq (eq ▸ isPart)
    simpa using other
  rw [List.takeWhile_append_of_pos passes, List.dropWhile_append_of_pos passes]
  rcases attached with rfl | ⟨v, rfl⟩
  · exact ⟨List.append_nil _, rfl⟩
  · exact ⟨List.append_nil _, rfl⟩

theorem normalize_cons {arg : RawText} (goesOn : arg ≠ endOfOptions) (args : List RawText) :
    normalize (arg :: args) = expand arg :: normalize args := if_neg goesOn

namespace Reading

variable {r : Reading} {s : Setting} {label : Text}

theorem long_setting {name : Text} {rest : RawText} {s : Setting} (known : Flag.ofLong? name = some (.setting s))
    (noEq : '=' ∉ name) (attached : rest = [] ∨ ∃ v, rest = .char '=' :: v) :
    r.long (.ofText name ++ rest) = r.setting s rest.tail? := by
  obtain ⟨named, valued⟩ := ofText_divided noEq attached
  simp only [long, named, valued, RawText.text?_ofText, Option.bind_some, known]

theorem long_switch {name : Text} {s : Switch} (known : Flag.ofLong? name = some (.switch s)) (noEq : '=' ∉ name) :
    r.long (.ofText name) = r.turnOn s := by
  obtain ⟨named, valued⟩ := ofText_divided noEq (.inl rfl)
  rw [List.append_nil] at named valued
  simp only [long, named, valued, RawText.text?_ofText, Option.bind_some, known]
  rfl

theorem argument_short {letter : Char} (noDash : letter ≠ '-') (rest : RawText) :
    r.argument (.char '-' :: .char letter :: rest) = r.short (.char letter :: rest) := by
  have other : RawUnit.char letter ≠ .char '-' := by simpa using noDash
  rw [argument]
  exact other

theorem argument_switch {s : Switch} (known : Flag.ofLabel? label = some (.switch s)) :
    r.argument (.ofText label) = r.turnOn s := by
  rcases Flag.ofLabel?_cases known with ⟨name, rfl, noEq, known⟩ | ⟨letter, rfl, noDash, known⟩
  · exact long_switch known noEq
  · refine (argument_short noDash []).trans ?_
    rw [short, RawUnit.char?, Option.bind_some, known]
    dsimp only
    cases r.turnOn s <;> rfl

theorem argument_setting {s : Setting} (known : Flag.ofLabel? label = some (.setting s)) :
    r.argument (.ofText label) = r.setting s none ∧
      ∀ v, r.argument (withValue label v) = r.setting s (some v) := by
  rcases Flag.ofLabel?_cases known with ⟨name, rfl, noEq, known⟩ | ⟨letter, rfl, noDash, known⟩
  · have alone := long_setting (r := r) known noEq (.inl rfl)
    rw [List.append_nil] at alone
    exact ⟨alone, fun v => long_setting known noEq (.inr ⟨v, rfl⟩)⟩
  · refine ⟨?_, fun v => ?_⟩
    · refine (argument_short noDash []).trans ?_
      rw [short, RawUnit.char?, Option.bind_some, known]
    · refine (argument_short noDash (.char '=' :: v)).trans ?_
      rw [short, RawUnit.char?, Option.bind_some, known]
      rfl

theorem argument_value {v : RawText} (noDash : v.head? ≠ some (.char '-')) : r.argument v = r.bare v := by
  cases v with
  | nil => rfl
  | cons u v =>
    have other : u ≠ .char '-' := by simpa using noDash
    rw [argument]
    · exact fun rest dash => other (List.cons.inj dash).1
    · exact fun u rest dash => other (List.cons.inj dash).1

theorem arguments_cons {arg : RawText} (goesOn : arg ≠ endOfOptions) (args : List RawText) :
    r.arguments (arg :: args) = (r.argument arg).bind (·.arguments args) := by
  rw [arguments, if_neg goesOn]
  rfl

theorem arguments_value {v : RawText} (noDash : v.head? ≠ some (.char '-')) (args : List RawText) :
    r.arguments (normalize (v :: args)) = (r.bare v).bind (·.arguments (normalize args)) := by
  have goesOn : v ≠ endOfOptions := by
    rintro rfl
    exact noDash rfl
  rw [normalize_cons goesOn, expand_value noDash, arguments_cons goesOn, argument_value noDash]

theorem arguments_label {flag : Flag} (isLabel : label ∈ flag.labels) :
    ∃ head, Flag.ofLabel? head = some flag ∧ ∀ rest, Attached rest → ∀ (r : Reading) (args : List RawText),
      r.arguments (normalize (.ofText (label ++ rest) :: args)) =
        (r.argument (.ofText (head ++ rest))).bind (·.arguments (normalize args)) := by
  obtain ⟨head, known, spelled⟩ := Flag.exists_label isLabel
  refine ⟨head, known, fun rest attached r args => ?_⟩
  obtain ⟨goesOn, expanded⟩ := spelled rest attached
  rw [normalize_cons goesOn, expanded, arguments_cons (ne_endOfOptions known rest)]

theorem arguments_attached (isLabel : label ∈ (Flag.setting s).labels) (v : Text) (args : List RawText) :
    r.arguments (normalize (.ofText (label ++ '=' :: v) :: args)) =
      (r.setting s (some (.ofText v))).bind (·.arguments (normalize args)) := by
  obtain ⟨head, known, read⟩ := arguments_label isLabel
  rw [read _ (.inr ⟨v, rfl⟩), ← withValue_ofText, (argument_setting known).2]

theorem arguments_waiting (isLabel : label ∈ (Flag.setting s).labels) (args : List RawText) :
    r.arguments (normalize (.ofText label :: args)) = (r.setting s none).bind (·.arguments (normalize args)) := by
  obtain ⟨head, known, read⟩ := arguments_label isLabel
  have alone := read [] (.inl rfl) r args
  rw [List.append_nil, List.append_nil, (argument_setting known).1] at alone
  exact alone

theorem arguments_switch {s : Switch} (isLabel : label ∈ (Flag.switch s).labels) (args : List RawText) :
    r.arguments (normalize (.ofText label :: args)) = (r.turnOn s).bind (·.arguments (normalize args)) := by
  obtain ⟨head, known, read⟩ := arguments_label isLabel
  have alone := read [] (.inl rfl) r args
  rw [List.append_nil, List.append_nil, argument_switch known] at alone
  exact alone

end Reading

end DocLinks.CommandLine
