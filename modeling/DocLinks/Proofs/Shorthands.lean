import DocLinks.Proofs.ArgumentSpellings

namespace DocLinks.CommandLine

/-- What stands before the end of the options is written out apart from what comes after it. -/
theorem normalize_append {front : List RawText} (noEnd : endOfOptions ∉ front) (back : List RawText) :
    normalize (front ++ back) = normalize front ++ normalize back := by
  induction front with
  | nil => rfl
  | cons arg front ih =>
    rw [List.mem_cons, not_or] at noEnd
    rw [List.cons_append, normalize_cons (Ne.symm noEnd.1), normalize_cons (Ne.symm noEnd.1), ih noEnd.2,
      List.cons_append]

theorem exists_flag_of_mem_shorthands {short long : Text} (entry : (short, long) ∈ shorthands) :
    ∃ flag : Flag, short ∈ flag.labels ∧ Flag.ofLabel? long = some flag := by
  simp only [shorthands, List.mem_cons, List.not_mem_nil, or_false, Prod.mk.injEq] at entry
  rcases entry with ⟨rfl, rfl⟩ | ⟨rfl, rfl⟩
  · exact ⟨.setting .staticRoot, by decide⟩
  · exact ⟨.setting .staticPrefix, by decide⟩

/-- The short form and the long form come to the same argument, alone and with a value that is text. -/
theorem normalize_cons_shorthand {short long rest : Text} (entry : (short, long) ∈ shorthands)
    (attached : Attached rest) (args : List RawText) :
    normalize (.ofText (short ++ rest) :: args) = normalize (.ofText (long ++ rest) :: args) := by
  obtain ⟨flag, isLabel, known⟩ := exists_flag_of_mem_shorthands entry
  obtain ⟨_, -, spelled⟩ := Flag.exists_label isLabel
  rw [normalize_cons (spelled rest attached).1, expand_shorthand entry attached,
    normalize_cons (ne_endOfOptions known rest), expand_label known attached]

theorem withValue_ne_endOfOptions (label : Text) (v : RawText) : withValue label v ≠ endOfOptions := by
  intro same
  have sign : RawUnit.char '=' ∈ endOfOptions := same ▸ List.mem_append_right _ List.mem_cons_self
  exact absurd sign (by decide)

theorem text?_withValue_eq_none (label : Text) {v : RawText} (noText : v.text? = none) :
    (withValue label v).text? = none := by
  rw [withValue, RawText.text?_ofText_append, RawText.text?, noText]
  rfl

/-- A value that is no text keeps the argument it stands in from being written out. -/
theorem normalize_cons_of_no_text (label : Text) {v : RawText} (noText : v.text? = none) (args : List RawText) :
    normalize (withValue label v :: args) = withValue label v :: normalize args := by
  rw [normalize_cons (withValue_ne_endOfOptions label v), expand_of_no_text (text?_withValue_eq_none label noText)]

/-- An option in its long form keeps its value, be it text or not. -/
theorem normalize_cons_withValue {label : Text} {flag : Flag} (known : Flag.ofLabel? label = some flag) (v : RawText)
    (args : List RawText) : normalize (withValue label v :: args) = withValue label v :: normalize args := by
  cases read : v.text? with
  | none => exact normalize_cons_of_no_text label read args
  | some t =>
    rw [RawText.text?_eq_some_iff.1 read, withValue_ofText, normalize_cons (ne_endOfOptions known _),
      expand_label known (.inr ⟨t, rfl⟩)]

namespace Reading

variable {r : Reading} {arg arg' v : RawText}

/-- Two arguments that are read in the same way may stand for each other on any command line. -/
theorem arguments_congr (same : ∀ r : Reading, r.argument arg = r.argument arg') (goesOn : arg ≠ endOfOptions)
    (goesOn' : arg' ≠ endOfOptions) (front back : List RawText) :
    r.arguments (front ++ arg :: back) = r.arguments (front ++ arg' :: back) := by
  induction front generalizing r with
  | nil => rw [List.nil_append, List.nil_append, arguments_cons goesOn, arguments_cons goesOn', same]
  | cons first front ih =>
    by_cases ended : first = endOfOptions
    · simp [arguments, ended]
    · rw [List.cons_append, List.cons_append, arguments_cons ended, arguments_cons ended]
      exact congrArg _ (funext fun _ => ih)

/-- An argument that cannot be read stops the reading, if nothing before it does. -/
theorem arguments_stopped (stops : ∀ r : Reading, ∃ s, r.argument arg = .error s) (goesOn : arg ≠ endOfOptions)
    (front back : List RawText) : ∃ s, r.arguments (front ++ arg :: back) = .error s := by
  induction front generalizing r with
  | nil =>
    obtain ⟨s, stopped⟩ := stops r
    exact ⟨s, by rw [List.nil_append, arguments_cons goesOn, stopped]; rfl⟩
  | cons first front ih =>
    by_cases ended : first = endOfOptions
    · exact ⟨.unknownArgument, by simp [arguments, ended]⟩
    · rw [List.cons_append, arguments_cons ended]
      cases r.argument first with
      | error s => exact ⟨s, rfl⟩
      | ok r' => exact ih

theorem short_value {letter : Char} {s : Setting} (known : Flag.ofShort? letter = some (.setting s)) {u : RawUnit}
    (noEq : u ≠ .char '=') (v : RawText) : r.short (.char letter :: u :: v) = r.setting s (some (u :: v)) := by
  rw [short, RawUnit.char?, Option.bind_some, known]
  dsimp only
  split
  · next nothing => cases nothing
  · next eq => exact absurd (List.cons.inj eq).1 noEq
  · rfl

/-- Of a short form that is not written out, the first letter is an option and the second belongs to its value. -/
theorem argument_shorthand {short long : Text} (entry : (short, long) ∈ shorthands) (v : RawText) :
    r.argument (withValue short v) = r.setting .sitePrefix (some (withValue (short.drop 2) v)) := by
  have known : Flag.ofShort? 's' = some (.setting .sitePrefix) := by decide
  have read {letter : Char} (noEq : RawUnit.char letter ≠ .char '=') :
      r.argument (withValue ['-', 's', letter] v) = r.setting .sitePrefix (some (withValue [letter] v)) :=
    short_value known noEq (.char '=' :: v)
  simp only [shorthands, List.mem_cons, List.not_mem_nil, or_false, Prod.mk.injEq] at entry
  rcases entry with ⟨rfl, -⟩ | ⟨rfl, -⟩
  · exact read (by decide)
  · exact read (by decide)

/-- The site prefix must be text. -/
theorem setting_sitePrefix_of_no_text (noText : v.text? = none) : ∃ s, r.setting .sitePrefix (some v) = .error s := by
  rw [setting]
  cases r.settle with
  | error s => exact ⟨s, rfl⟩
  | ok r' =>
    simp only [bind, Except.bind, assign]
    cases r'.once (.setting .sitePrefix) with
    | error s => exact ⟨s, rfl⟩
    | ok r'' =>
      refine ⟨.notText, ?_⟩
      simp only [Invocation.assign, Value.text, noText, bind, Except.bind]

end Reading

namespace Invocation

/-- The reading of an argument that is no text in its place on the command line. -/
theorem parse_of_no_text {front : List RawText} (noEnd : endOfOptions ∉ front) (back : List RawText) (label : Text)
    {v : RawText} (noText : v.text? = none) :
    parse (front ++ withValue label v :: back) =
      (Reading.arguments {} (normalize front ++ withValue label v :: normalize back)).map (·.invocation) := by
  rw [parse, normalize_append noEnd, normalize_cons_of_no_text label noText]

/-- A static root is taken from any value that is not empty, if it follows the long form, or stands alone after either
form. -/
theorem parse_staticRoot {v : RawText} (nonempty : v ≠ []) :
    parse [withValue "--static-root".toList v] = .ok { staticRoot := some v } ∧
      (v.head? ≠ some (.char '-') → parse [.ofText "-sr".toList, v] = .ok { staticRoot := some v }) := by
  have accepted : Value.path v = .ok v := by
    rw [Value.path, List.isEmpty_eq_false_iff.2 nonempty]
    rfl
  have assigned : Reading.assign {} .staticRoot v =
      .ok { invocation := { staticRoot := some v }, seen := [.setting .staticRoot] } := by
    have fresh : Reading.once {} (.setting .staticRoot) = .ok { seen := [.setting .staticRoot] } := rfl
    rw [Reading.assign, fresh]
    simp only [bind, Except.bind, assign, accepted]
    rfl
  have known : Flag.ofLabel? "--static-root".toList = some (.setting .staticRoot) := by decide
  have isLabel : "-sr".toList ∈ (Flag.setting .staticRoot).labels := by decide
  constructor
  · have given : Reading.setting {} .staticRoot (some v) = Reading.assign {} .staticRoot v := rfl
    rw [parse, normalize_cons_withValue known, Reading.arguments_cons (withValue_ne_endOfOptions _ v),
      (Reading.argument_setting known).2, given, assigned]
    rfl
  · intro noDash
    -- The value is only checked at the end of the arguments.
    let waiting : Reading := { pending := some (.staticRoot, none) }
    let filled : Reading := { pending := some (.staticRoot, some v) }
    have labelRead : Reading.setting {} .staticRoot none = .ok waiting := rfl
    have valueRead : waiting.bare v = .ok filled := rfl
    have settled : filled.arguments [] = Reading.assign {} .staticRoot v := rfl
    rw [parse, Reading.arguments_waiting isLabel, labelRead]
    show (waiting.arguments (normalize [v])).map _ = _
    rw [Reading.arguments_value noDash, valueRead]
    show (filled.arguments []).map _ = _
    rw [settled, assigned]
    rfl

end Invocation

/-- A short form means its long form wherever it stands before the end of the options: alone, whatever comes after it,
and with a value in the same argument, if that is text. If it is not, the argument is taken for the option of the first
letter, whose value has to be text, and the command line is refused, though every other way of giving the static root
accepts the value. -/
theorem shorthands_mean_long_forms {front : List RawText} (noEnd : endOfOptions ∉ front) (back : List RawText) :
    (∀ short long, (short, long) ∈ shorthands →
      Invocation.parse (front ++ .ofText short :: back) = Invocation.parse (front ++ .ofText long :: back) ∧
      ∀ v : RawText,
        (v.text?.isSome → Invocation.parse (front ++ withValue short v :: back) =
          Invocation.parse (front ++ withValue long v :: back)) ∧
        (v.text? = none →
          Invocation.parse (front ++ withValue short v :: back) =
            Invocation.parse (front ++ withValue "--site-prefix".toList (withValue (short.drop 2) v) :: back) ∧
          ∃ s, Invocation.parse (front ++ withValue short v :: back) = .error s)) ∧
    ∀ v : RawText, v ≠ [] →
      Invocation.parse [withValue "--static-root".toList v] = .ok { staticRoot := some v } ∧
      (v.head? ≠ some (.char '-') →
        Invocation.parse [.ofText "-sr".toList, v] = .ok { staticRoot := some v }) := by
  refine ⟨fun short long entry => ?_, fun v => Invocation.parse_staticRoot⟩
  have spelled {rest : Text} (attached : Attached rest) :
      Invocation.parse (front ++ .ofText (short ++ rest) :: back) =
        Invocation.parse (front ++ .ofText (long ++ rest) :: back) := by
    rw [Invocation.parse, Invocation.parse, normalize_append noEnd, normalize_append noEnd,
      normalize_cons_shorthand entry attached]
  refine ⟨by simpa using spelled (.inl rfl), fun v => ⟨fun isText => ?_, fun noText => ⟨?_, ?_⟩⟩⟩
  · obtain ⟨t, read⟩ := Option.isSome_iff_exists.1 isText
    rw [RawText.text?_eq_some_iff.1 read, withValue_ofText, withValue_ofText]
    exact spelled (.inr ⟨t, rfl⟩)
  · have known : Flag.ofLabel? "--site-prefix".toList = some (.setting .sitePrefix) := by decide
    have same (r : Reading) : r.argument (withValue short v) =
        r.argument (withValue "--site-prefix".toList (withValue (short.drop 2) v)) := by
      rw [Reading.argument_shorthand entry, (Reading.argument_setting known).2]
    rw [Invocation.parse_of_no_text noEnd back short noText,
      Invocation.parse_of_no_text noEnd back _ (text?_withValue_eq_none _ noText),
      Reading.arguments_congr same (withValue_ne_endOfOptions _ _) (withValue_ne_endOfOptions _ _)]
  · have stops (r : Reading) : ∃ s, r.argument (withValue short v) = .error s := by
      rw [Reading.argument_shorthand entry]
      exact Reading.setting_sitePrefix_of_no_text (text?_withValue_eq_none _ noText)
    obtain ⟨s, stopped⟩ := Reading.arguments_stopped stops (withValue_ne_endOfOptions _ _) (normalize front)
      (normalize back)
    exact ⟨s, by rw [Invocation.parse_of_no_text noEnd back short noText, stopped]; rfl⟩

/-- A value that is text, and one that is none, between other options. -/
theorem shorthands_mean_long_forms_verbose :
    let front : List RawText := [.ofText "-v".toList]
    let back : List RawText := [.ofText "--json".toList]
    let undecodable : RawText := [.char 'a', .stray [0xff]]
    endOfOptions ∉ front ∧
    Invocation.parse (front ++ withValue "-sr".toList (.ofText "-sp".toList) :: back) =
      .ok { staticRoot := some (.ofText "-sp".toList), verbose := true, json := true } ∧
    (∃ s, Invocation.parse (front ++ withValue "-sr".toList undecodable :: back) = .error s) ∧
    Invocation.parse [.ofText "-sr".toList, undecodable] = .ok { staticRoot := some undecodable } := by
  intro front back undecodable
  have noEnd : endOfOptions ∉ front := by decide
  obtain ⟨forms, taken⟩ := shorthands_mean_long_forms noEnd back
  obtain ⟨-, values⟩ := forms "-sr".toList "--static-root".toList (by decide)
  have long : Invocation.parse (front ++ withValue "--static-root".toList (.ofText "-sp".toList) :: back) =
      .ok { staticRoot := some (.ofText "-sp".toList), verbose := true, json := true } := by decide
  exact ⟨noEnd, ((values _).1 (by decide)).trans long, ((values undecodable).2 (by decide)).2,
    (taken undecodable (by decide)).2 (by decide)⟩

/-- A folder whose name is no text cannot be given as the static root behind the equals sign of the short form. -/
theorem undecodable_value_refused_after_shorthand :
    let folder : RawText := [.stray [0xff]]
    Invocation.parse [withValue "-sr".toList folder] = .error .notText ∧
    Invocation.parse [withValue "--static-root".toList folder] = .ok { staticRoot := some folder } := by
  decide

end DocLinks.CommandLine
