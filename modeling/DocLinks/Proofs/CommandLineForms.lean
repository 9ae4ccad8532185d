import DocLinks.Proofs.ArgumentSpellings

namespace DocLinks.CommandLine

/-- The values that a command line gives, as far as it gives them. Paths are not empty, and numbers can be held. -/
structure Choices where
  path : Option Text
  docsRoot : Option Text
  staticRoot : Option Text
  sitePrefix : Option Text
  staticPrefix : Option Text
  concurrency : Option Nat
  timeout : Option Nat
  skipExternal : Bool
  json : Bool
  verbose : Bool
  path_nonempty : [] ∉ path
  docsRoot_nonempty : [] ∉ docsRoot
  staticRoot_nonempty : [] ∉ staticRoot
  concurrency_small : ∀ n ∈ concurrency, n < numberBound
  timeout_small : ∀ n ∈ timeout, n < numberBound

namespace Choices

/-- What is asked for, where values that are not given have their defaults. -/
def invocation (c : Choices) : Invocation where
  path := .ofText (c.path.getD ".".toList)
  docsRoot := c.docsRoot.map .ofText
  staticRoot := c.staticRoot.map .ofText
  sitePrefix := c.sitePrefix.getD "docs".toList
  staticPrefix := c.staticPrefix.getD "static".toList
  skipExternal := c.skipExternal
  json := c.json
  concurrency := c.concurrency.getD 8
  timeout := c.timeout
  verbose := c.verbose

/-- The value of an option as it is written. -/
def value? (c : Choices) : Setting → Option Text
  | .path => c.path
  | .docsRoot => c.docsRoot
  | .staticRoot => c.staticRoot
  | .sitePrefix => c.sitePrefix
  | .staticPrefix => c.staticPrefix
  | .concurrency => c.concurrency.map Text.decimal
  | .timeout => c.timeout.map Text.decimal

def isOn (c : Choices) : Switch → Bool
  | .skipExternal => c.skipExternal
  | .json => c.json
  | .verbose => c.verbose
  | .help | .version => false

def gives (c : Choices) : Flag → Bool
  | .setting s => (c.value? s).isSome
  | .switch s => c.isOn s

/-- The ways to write one option: with its value in the same argument, with its value in the next one, or without a
value. A value that begins with a dash cannot stand alone. -/
inductive Writes (c : Choices) : Flag → List Text → Prop
  | attached {s : Setting} {label v : Text} (isLabel : label ∈ (Flag.setting s).labels) (given : c.value? s = some v) :
    Writes c (.setting s) [label ++ '=' :: v]
  | apart {s : Setting} {label v : Text} (isLabel : label ∈ (Flag.setting s).labels) (given : c.value? s = some v)
    (noDash : v.head? ≠ some '-') : Writes c (.setting s) [label, v]
  | switch {s : Switch} {label : Text} (isLabel : label ∈ (Flag.switch s).labels) (on : c.isOn s = true) :
    Writes c (.switch s) [label]

/-- Arguments that write every option that is given once, in some order. -/
def WrittenAs (c : Choices) (args : List Text) : Prop :=
  ∃ pieces : List (Flag × List Text), (pieces.map (·.1)).Nodup ∧ (∀ piece ∈ pieces, c.Writes piece.1 piece.2) ∧
    (∀ flag, c.gives flag → flag ∈ pieces.map (·.1)) ∧ args = pieces.flatMap (·.2)

theorem exists_writes {c : Choices} {flag : Flag} (given : c.gives flag = true) : ∃ piece, c.Writes flag piece := by
  obtain ⟨label, isLabel⟩ : ∃ label, label ∈ flag.labels := by
    rcases flag with s | s <;> cases s <;> exact ⟨_, List.mem_cons_self⟩
  cases flag with
  | setting s =>
    obtain ⟨v, given⟩ := Option.isSome_iff_exists.1 given
    exact ⟨_, .attached isLabel given⟩
  | switch s => exact ⟨_, .switch isLabel given⟩

/-- All values can be written. -/
theorem exists_writtenAs (c : Choices) : ∃ args, c.WrittenAs args := by
  let flags := Flag.all.map (·.2.2)
  have all : ∀ flag, flag ∈ flags := by
    rintro (s | s) <;> cases s <;> decide
  have distinct : flags.Nodup := by decide
  have written (flags : List Flag) (given : ∀ flag ∈ flags, c.gives flag = true) :
      ∃ pieces : List (Flag × List Text), pieces.map (·.1) = flags ∧ ∀ piece ∈ pieces, c.Writes piece.1 piece.2 := by
    induction flags with
    | nil => exact ⟨[], rfl, nofun⟩
    | cons flag flags ih =>
      rw [List.forall_mem_cons] at given
      obtain ⟨pieces, eq, writes⟩ := ih given.2
      obtain ⟨piece, writesFirst⟩ := exists_writes given.1
      exact ⟨(flag, piece) :: pieces, by rw [List.map_cons, eq], List.forall_mem_cons.2 ⟨writesFirst, writes⟩⟩
  obtain ⟨pieces, eq, writes⟩ := written (flags.filter c.gives) fun flag member => (List.mem_filter.1 member).2
  refine ⟨pieces.flatMap (·.2), pieces, ?_, writes, fun flag given => ?_, rfl⟩
  · rw [eq]
    exact distinct.filter _
  · rw [eq]
    exact List.mem_filter.2 ⟨all flag, given⟩

/-- What is asked for by some of the options. -/
def among (c : Choices) (seen : List Flag) : Invocation where
  path := if .setting .path ∈ seen then c.invocation.path else .ofText ".".toList
  docsRoot := if .setting .docsRoot ∈ seen then c.invocation.docsRoot else none
  staticRoot := if .setting .staticRoot ∈ seen then c.invocation.staticRoot else none
  sitePrefix := if .setting .sitePrefix ∈ seen then c.invocation.sitePrefix else "docs".toList
  staticPrefix := if .setting .staticPrefix ∈ seen then c.invocation.staticPrefix else "static".toList
  skipExternal := if .switch .skipExternal ∈ seen then c.invocation.skipExternal else false
  json := if .switch .json ∈ seen then c.invocation.json else false
  concurrency := if .setting .concurrency ∈ seen then c.invocation.concurrency else 8
  timeout := if .setting .timeout ∈ seen then c.invocation.timeout else none
  verbose := if .switch .verbose ∈ seen then c.invocation.verbose else false

variable {c : Choices} {seen : List Flag}

theorem among_nil : c.among [] = {} := rfl

/-- Taking in an option leaves the others as they are. -/
theorem assign_among {s : Setting} {v : Text} (given : c.value? s = some v) :
    (c.among seen).assign (.ofText v) s = .ok (c.among (.setting s :: seen)) := by
  have nonempty {value? : Option Text} (given : value? = some v) (refused : [] ∉ value?) :
      Value.path (.ofText v) = .ok (.ofText v) := by
    refine Value.path_ofText ?_
    rintro rfl
    exact refused given
  cases s with
  | path =>
    replace given : c.path = some v := given
    rw [Invocation.assign, nonempty given c.path_nonempty]
    simp only [among, List.mem_cons, Flag.setting.injEq, reduceCtorEq, false_or, true_or, if_true, invocation,
      given, Option.getD_some]
    rfl
  | docsRoot =>
    replace given : c.docsRoot = some v := given
    rw [Invocation.assign, nonempty given c.docsRoot_nonempty]
    simp only [among, List.mem_cons, Flag.setting.injEq, reduceCtorEq, false_or, true_or, if_true, invocation,
      given, Option.map_some]
    rfl
  | staticRoot =>
    replace given : c.staticRoot = some v := given
    rw [Invocation.assign, nonempty given c.staticRoot_nonempty]
    simp only [among, List.mem_cons, Flag.setting.injEq, reduceCtorEq, false_or, true_or, if_true, invocation,
      given, Option.map_some]
    rfl
  | sitePrefix =>
    replace given : c.sitePrefix = some v := given
    rw [Invocation.assign, Value.text_ofText]
    simp only [among, List.mem_cons, Flag.setting.injEq, reduceCtorEq, false_or, true_or, if_true, invocation,
      given, Option.getD_some]
    rfl
  | staticPrefix =>
    replace given : c.staticPrefix = some v := given
    rw [Invocation.assign, Value.text_ofText]
    simp only [among, List.mem_cons, Flag.setting.injEq, reduceCtorEq, false_or, true_or, if_true, invocation,
      given, Option.getD_some]
    rfl
  | concurrency =>
    obtain ⟨n, isNumber, rfl⟩ := Option.map_eq_some_iff.1 given
    rw [Invocation.assign, Value.number_decimal (c.concurrency_small n isNumber)]
    simp only [among, List.mem_cons, Flag.setting.injEq, reduceCtorEq, false_or, true_or, if_true, invocation,
      isNumber, Option.getD_some]
    rfl
  | timeout =>
    obtain ⟨n, isNumber, rfl⟩ := Option.map_eq_some_iff.1 given
    rw [Invocation.assign, Value.number_decimal (c.timeout_small n isNumber)]
    simp only [among, List.mem_cons, Flag.setting.injEq, reduceCtorEq, false_or, true_or, if_true, invocation,
      isNumber]
    rfl

theorem turnOn_among {s : Switch} (on : c.isOn s = true) :
    (c.among seen).turnOn s = .ok (c.among (.switch s :: seen)) := by
  cases s with
  | skipExternal =>
    replace on : c.skipExternal = true := on
    rw [Invocation.turnOn]
    simp only [among, List.mem_cons, Flag.switch.injEq, reduceCtorEq, false_or, true_or, if_true, invocation, on]
  | json =>
    replace on : c.json = true := on
    rw [Invocation.turnOn]
    simp only [among, List.mem_cons, Flag.switch.injEq, reduceCtorEq, false_or, true_or, if_true, invocation, on]
  | verbose =>
    replace on : c.verbose = true := on
    rw [Invocation.turnOn]
    simp only [among, List.mem_cons, Flag.switch.injEq, reduceCtorEq, false_or, true_or, if_true, invocation, on]
  | help => cases on
  | version => cases on

theorem among_eq_invocation (all : ∀ flag, c.gives flag → flag ∈ seen) : c.among seen = c.invocation := by
  have absent (s : Setting) (missing : .setting s ∉ seen) : c.value? s = none := by
    rw [← Option.not_isSome_iff_eq_none]
    exact fun given => missing (all _ given)
  have noPath : .setting .path ∉ seen → c.path = none := absent .path
  have noDocsRoot : .setting .docsRoot ∉ seen → c.docsRoot = none := absent .docsRoot
  have noStaticRoot : .setting .staticRoot ∉ seen → c.staticRoot = none := absent .staticRoot
  have noSitePrefix : .setting .sitePrefix ∉ seen → c.sitePrefix = none := absent .sitePrefix
  have noStaticPrefix : .setting .staticPrefix ∉ seen → c.staticPrefix = none := absent .staticPrefix
  have noConcurrency (missing : .setting .concurrency ∉ seen) : c.concurrency = none :=
    Option.map_eq_none_iff.1 (absent .concurrency missing)
  have noTimeout (missing : .setting .timeout ∉ seen) : c.timeout = none :=
    Option.map_eq_none_iff.1 (absent .timeout missing)
  have onSkip : c.skipExternal = true → .switch .skipExternal ∈ seen := all (.switch .skipExternal)
  have onJson : c.json = true → .switch .json ∈ seen := all (.switch .json)
  have onVerbose : c.verbose = true → .switch .verbose ∈ seen := all (.switch .verbose)
  simp +contextual [among, invocation, noPath, noDocsRoot, noStaticRoot, noSitePrefix, noStaticPrefix, noConcurrency,
    noTimeout, onSkip, onJson, onVerbose]

end Choices

namespace Reading

variable {c : Choices} {seen : List Flag} {r : Reading}

/-- The reading of some of the options, with nothing left to be checked. -/
def afterwards (c : Choices) (seen : List Flag) : Reading := ⟨c.among seen, seen, none⟩

theorem assign_afterwards {s : Setting} {v : Text} (given : c.value? s = some v) (fresh : .setting s ∉ seen) :
    (afterwards c seen).assign s (.ofText v) = .ok (afterwards c (.setting s :: seen)) := by
  have noted : (afterwards c seen).once (.setting s) = .ok ⟨c.among seen, .setting s :: seen, none⟩ := if_neg fresh
  rw [assign, noted]
  simp only [bind, Except.bind, Choices.assign_among given]
  rfl

theorem turnOn_of_settle {s : Switch} (on : c.isOn s = true) (fresh : .switch s ∉ seen)
    (settled : r.settle = .ok (afterwards c seen)) : r.turnOn s = .ok (afterwards c (.switch s :: seen)) := by
  have noted : (afterwards c seen).once (.switch s) = .ok ⟨c.among seen, .switch s :: seen, none⟩ := if_neg fresh
  rw [turnOn, settled]
  simp only [bind, Except.bind, noted, Choices.turnOn_among on]
  rfl

/-- Another option takes the reading from the options before it to those with it. -/
theorem arguments_piece {flag : Flag} {piece : List Text} (writes : c.Writes flag piece) (fresh : flag ∉ seen)
    (settled : r.settle = .ok (afterwards c seen)) (args : List RawText) :
    ∃ r' : Reading, r'.settle = .ok (afterwards c (flag :: seen)) ∧
      r.arguments (normalize (piece.map .ofText ++ args)) = r'.arguments (normalize args) := by
  cases writes with
  | @attached s label v isLabel given =>
    have read : r.setting s (some (.ofText v)) = .ok (afterwards c (.setting s :: seen)) := by
      rw [setting, settled]
      exact assign_afterwards given fresh
    exact ⟨_, rfl, by rw [List.map_singleton, List.singleton_append, arguments_attached isLabel, read]; rfl⟩
  | @apart s label v isLabel given noDash =>
    -- The value is kept as it came until the next option, or the end, has it checked.
    let waiting : Reading := ⟨c.among seen, seen, some (s, none)⟩
    let filled : Reading := ⟨c.among seen, seen, some (s, some (.ofText v))⟩
    have readLabel : r.setting s none = .ok waiting := by
      rw [setting, settled]
      rfl
    have readValue : waiting.bare (.ofText v) = .ok filled := rfl
    have noDash : (RawText.ofText v).head? ≠ some (.char '-') := by simpa [RawText.ofText] using noDash
    refine ⟨filled, assign_afterwards given fresh, ?_⟩
    rw [List.map_cons, List.map_singleton, List.cons_append, List.singleton_append, arguments_waiting isLabel,
      readLabel]
    show waiting.arguments _ = _
    rw [arguments_value noDash, readValue]
    rfl
  | @switch s label isLabel on =>
    refine ⟨afterwards c (.switch s :: seen), rfl, ?_⟩
    rw [List.map_singleton, List.singleton_append, arguments_switch isLabel, turnOn_of_settle on fresh settled]
    rfl

theorem arguments_pieces {pieces : List (Flag × List Text)} (written : ∀ piece ∈ pieces, c.Writes piece.1 piece.2)
    (distinct : (pieces.map (·.1)).Nodup) (fresh : ∀ flag ∈ pieces.map (·.1), flag ∉ seen)
    (settled : r.settle = .ok (afterwards c seen)) :
    r.arguments (normalize ((pieces.flatMap (·.2)).map .ofText)) =
      .ok (afterwards c ((pieces.map (·.1)).reverse ++ seen)) := by
  induction pieces generalizing r seen with
  | nil => exact settled
  | cons piece pieces ih =>
    rw [List.map_cons, List.nodup_cons] at distinct
    rw [List.map_cons, List.forall_mem_cons] at fresh
    rw [List.forall_mem_cons] at written
    obtain ⟨r', settled', read⟩ :=
      arguments_piece written.1 fresh.1 settled ((pieces.flatMap (·.2)).map .ofText)
    have later : ∀ flag ∈ pieces.map (·.1), flag ∉ piece.1 :: seen := by
      intro flag member seenBefore
      rcases List.mem_cons.1 seenBefore with rfl | before
      · exact distinct.1 member
      · exact fresh.2 flag member before
    have rest := ih written.2 distinct.2 later settled'
    rw [List.flatMap_cons, List.map_append, read, rest, List.map_cons, List.reverse_cons, List.append_assoc,
      List.singleton_append]

end Reading

/-- All values can be given on a command line, and are read back however that is done: it does not matter in which
order the options stand, how each of them is spelled, or what the values look like. What is not given has its default,
and the settings of the scan are the values as they are given. -/
theorem parse_of_writtenAs (c : Choices) :
    (∃ args, c.WrittenAs args) ∧ ∀ args : List Text, c.WrittenAs args →
      Invocation.parse (args.map .ofText) = .ok c.invocation ∧
      c.invocation.options = {
        path := .ofText (c.path.getD ".".toList)
        docsRoot := c.docsRoot.map .ofText
        staticRoot := c.staticRoot.map .ofText
        sitePrefix := c.sitePrefix.getD "docs".toList
        staticPrefix := c.staticPrefix.getD "static".toList
        skipExternal := c.skipExternal
        concurrency := c.concurrency.getD 8
        timeout := c.timeout } := by
  refine ⟨c.exists_writtenAs, ?_⟩
  rintro args ⟨pieces, distinct, writes, all, rfl⟩
  have start : Reading.settle {} = .ok (Reading.afterwards c []) := by
    rw [Reading.afterwards, Choices.among_nil]
    rfl
  have read := Reading.arguments_pieces writes distinct (fun _ _ => List.not_mem_nil) start
  have complete : ∀ flag, c.gives flag → flag ∈ (pieces.map (·.1)).reverse ++ [] := by
    intro flag given
    rw [List.append_nil, List.mem_reverse]
    exact all flag given
  refine ⟨?_, rfl⟩
  rw [Invocation.parse, read]
  exact congrArg Except.ok (Choices.among_eq_invocation complete)

/-- Values that look like options, or are empty, or have equals signs and blanks in them. -/
theorem parse_of_writtenAs_mixed :
    let args := ["-v".toList, "-s=-sp".toList, "-sp".toList, "".toList, "--timeout".toList, "10".toList, "-r".toList,
      "a b".toList, "-sr==-sr".toList, "--json".toList]
    ∃ c : Choices, c.WrittenAs args ∧ Invocation.parse (args.map .ofText) = .ok {
      docsRoot := some (.ofText "a b".toList)
      staticRoot := some (.ofText "=-sr".toList)
      sitePrefix := "-sp".toList
      staticPrefix := []
      json := true
      timeout := some 10
      verbose := true } := by
  intro args
  let c : Choices :=
    { path := none
      docsRoot := some "a b".toList
      staticRoot := some "=-sr".toList
      sitePrefix := some "-sp".toList
      staticPrefix := some []
      concurrency := none
      timeout := some 10
      skipExternal := false
      json := true
      verbose := true
      path_nonempty := by decide
      docsRoot_nonempty := by decide
      staticRoot_nonempty := by decide
      concurrency_small := by decide
      timeout_small := by decide }
  let pieces : List (Flag × List Text) :=
    [(.switch .verbose, ["-v".toList]), (.setting .sitePrefix, ["-s".toList ++ '=' :: "-sp".toList]),
      (.setting .staticPrefix, ["-sp".toList, []]), (.setting .timeout, ["--timeout".toList, Text.decimal 10]),
      (.setting .docsRoot, ["-r".toList, "a b".toList]),
      (.setting .staticRoot, ["-sr".toList ++ '=' :: "=-sr".toList]), (.switch .json, ["--json".toList])]
  have writes : ∀ piece ∈ pieces, c.Writes piece.1 piece.2 := by
    simp only [pieces, List.forall_mem_cons]
    exact ⟨.switch (by decide) rfl, .attached (by decide) rfl, .apart (by decide) rfl (by decide),
      .apart (by decide) rfl (by decide), .apart (by decide) rfl (by decide), .attached (by decide) rfl,
      .switch (by decide) rfl, nofun⟩
  have all : ∀ flag, c.gives flag → flag ∈ pieces.map (·.1) := by
    rintro (s | s) <;> cases s <;> decide
  have written : c.WrittenAs args := ⟨pieces, by decide, writes, all, by decide +kernel⟩
  exact ⟨c, written, ((parse_of_writtenAs c).2 args written).1⟩

end DocLinks.CommandLine
