import DocLinks.Proofs.OctetReading
import DocLinks.Proofs.Shorthands

namespace DocLinks.CommandLine

/-- Whether an argument is a label, alone or with a value after an equals sign. -/
def Bears (label : Text) (arg : RawText) : Prop := arg = .ofText label ∨ RawText.ofText (label ++ ['=']) <+: arg

instance (label : Text) (arg : RawText) : Decidable (Bears label arg) := inferInstanceAs (Decidable (_ ∨ _))

theorem bears_iff {label : Text} {arg : RawText} :
    arg.text?.isSome ∧ Bears label arg ↔ ∃ rest, Attached rest ∧ arg = .ofText (label ++ rest) := by
  constructor
  · rintro ⟨isText, rfl | ⟨v, rfl⟩⟩
    · exact ⟨[], .inl rfl, by rw [List.append_nil]⟩
    · rw [RawText.text?_ofText_append, Option.isSome_map] at isText
      obtain ⟨t, read⟩ := Option.isSome_iff_exists.1 isText
      refine ⟨'=' :: t, .inr ⟨t, rfl⟩, ?_⟩
      rw [RawText.text?_eq_some_iff.1 read, ← RawText.ofText_append, List.append_assoc, List.singleton_append]
  · rintro ⟨rest, attached, rfl⟩
    refine ⟨by rw [RawText.text?_ofText]; rfl, ?_⟩
    rcases attached with rfl | ⟨t, rfl⟩
    · exact .inl (by rw [List.append_nil])
    · refine .inr ⟨RawText.ofText t, ?_⟩
      rw [← RawText.ofText_append, List.append_assoc, List.singleton_append]

/-- What becomes of an argument: the long form with what stands after the short one, or the argument itself. -/
theorem expand_cases (arg : RawText) :
    (∃ short long rest, (short, long) ∈ shorthands ∧ Attached rest ∧ arg = .ofText (short ++ rest) ∧
      expand arg = .ofText (long ++ rest)) ∨
    ((∀ short long, (short, long) ∈ shorthands → ¬(arg.text?.isSome ∧ Bears short arg)) ∧ expand arg = arg) := by
  by_cases shortened : ∃ short long, (short, long) ∈ shorthands ∧ arg.text?.isSome ∧ Bears short arg
  · obtain ⟨short, long, entry, bears⟩ := shortened
    obtain ⟨rest, attached, rfl⟩ := bears_iff.1 bears
    exact .inl ⟨short, long, rest, entry, attached, rfl, expand_shorthand entry attached⟩
  · have other : ∀ short long, (short, long) ∈ shorthands → ¬(arg.text?.isSome ∧ Bears short arg) :=
      fun short long entry bears => shortened ⟨short, long, entry, bears⟩
    refine .inr ⟨other, ?_⟩
    cases read : arg.text? with
    | none => exact expand_of_no_text read
    | some t =>
      rw [RawText.text?_eq_some_iff.1 read] at other ⊢
      have unmatched : ∀ entry ∈ shorthands, expandAs? entry.1 entry.2 t = none := by
        rintro ⟨short, long⟩ entry
        have apart {rest : Text} (attached : Attached rest) : short.isPrefixOf? t ≠ some rest := fun found =>
          other short long entry (bears_iff.2 ⟨rest, attached, by rw [List.isPrefixOf?_eq_some_iff_append_eq.1 found]⟩)
        unfold expandAs?
        split
        · next alone => exact absurd alone (apart (.inl rfl))
        · next valued => exact absurd valued (apart (.inr ⟨_, rfl⟩))
        · rfl
      rw [expand, RawText.text?_ofText, Option.bind_some, List.findSome?_eq_none_iff.2 unmatched]

theorem expand_ne_endOfOptions {arg : RawText} (goesOn : arg ≠ endOfOptions) : expand arg ≠ endOfOptions := by
  rcases expand_cases arg with ⟨short, long, rest, entry, -, -, written⟩ | ⟨-, same⟩
  · obtain ⟨flag, -, known⟩ := exists_flag_of_mem_shorthands entry
    rw [written]
    exact ne_endOfOptions known rest
  · rwa [same]

theorem expand_expand (arg : RawText) : expand (expand arg) = expand arg := by
  rcases expand_cases arg with ⟨short, long, rest, entry, attached, -, written⟩ | ⟨-, same⟩
  · obtain ⟨flag, -, known⟩ := exists_flag_of_mem_shorthands entry
    rw [written, expand_label known attached]
  · rw [same, same]

/-- The short forms are all that changes. -/
theorem expand_ne_iff {arg : RawText} :
    expand arg ≠ arg ↔ arg.text?.isSome ∧ ∃ entry ∈ shorthands, Bears entry.1 arg := by
  rcases expand_cases arg with ⟨short, long, rest, entry, attached, rfl, written⟩ | ⟨other, same⟩
  · obtain ⟨isText, bears⟩ := bears_iff.2 ⟨rest, attached, rfl⟩
    refine iff_of_true ?_ ⟨isText, (short, long), entry, bears⟩
    rw [written, Ne, RawText.ofText_inj, List.append_left_inj]
    simp only [shorthands, List.mem_cons, List.not_mem_nil, or_false, Prod.mk.injEq] at entry
    rcases entry with ⟨rfl, rfl⟩ | ⟨rfl, rfl⟩ <;> decide
  · refine iff_of_false (fun changed => changed same) ?_
    rintro ⟨isText, ⟨short, long⟩, entry, bears⟩
    exact other short long entry ⟨isText, bears⟩

theorem octets_ofText_append (s t : Text) :
    (RawText.ofText (s ++ t)).octets = (RawText.ofText s).octets ++ (RawText.ofText t).octets := by
  rw [RawText.ofText_append, RawText.octets, List.flatMap_append]
  rfl

/-- From the first equals sign on, an argument keeps its octets. -/
theorem octets_expand_dropWhile (arg : RawText) :
    (expand arg).octets.dropWhile (· != 0x3D) = arg.octets.dropWhile (· != 0x3D) := by
  rcases expand_cases arg with ⟨short, long, rest, entry, -, rfl, written⟩ | ⟨-, same⟩
  · have plain : (∀ u ∈ (RawText.ofText short).octets, (u != 0x3D) = true) ∧
        ∀ u ∈ (RawText.ofText long).octets, (u != 0x3D) = true := by
      simp only [shorthands, List.mem_cons, List.not_mem_nil, or_false, Prod.mk.injEq] at entry
      rcases entry with ⟨rfl, rfl⟩ | ⟨rfl, rfl⟩ <;> decide +kernel
    rw [written, octets_ofText_append, octets_ofText_append, List.dropWhile_append_of_pos plain.1,
      List.dropWhile_append_of_pos plain.2]
  · rw [same]

/-- What an argument was can be told from what becomes of it, unless it might have been the long form already. -/
theorem expand_inj {a b : RawText} (plainA : ∀ entry ∈ shorthands, ¬Bears entry.2 a)
    (plainB : ∀ entry ∈ shorthands, ¬Bears entry.2 b) (same : expand a = expand b) : a = b := by
  have long {short long rest : Text} {arg : RawText} (entry : (short, long) ∈ shorthands) (attached : Attached rest)
      (plain : ∀ entry ∈ shorthands, ¬Bears entry.2 arg) : arg ≠ .ofText (long ++ rest) := fun eq =>
    plain _ entry (bears_iff.2 ⟨rest, attached, eq⟩).2
  rcases expand_cases a with ⟨shortA, longA, restA, entryA, attachedA, rfl, writtenA⟩ | ⟨-, sameA⟩ <;>
    rcases expand_cases b with ⟨shortB, longB, restB, entryB, attachedB, rfl, writtenB⟩ | ⟨-, sameB⟩
  · have texts := RawText.ofText_inj.1 (writtenA.symm.trans (same.trans writtenB))
    simp only [shorthands, List.mem_cons, List.not_mem_nil, or_false, Prod.mk.injEq] at entryA entryB
    rcases entryA with ⟨rfl, rfl⟩ | ⟨rfl, rfl⟩ <;> rcases entryB with ⟨rfl, rfl⟩ | ⟨rfl, rfl⟩
    · rw [List.append_cancel_left texts]
    · simp at texts
    · simp at texts
    · rw [List.append_cancel_left texts]
  · exact absurd (sameB.symm.trans (same.symm.trans writtenA)) (long entryA attachedA plainB)
  · exact absurd (sameA.symm.trans (same.trans writtenB)) (long entryB attachedB plainA)
  · rw [← sameA, same, sameB]

/-- The end of the options is no short form, so that the first argument is written out in any case. -/
theorem normalize_cons_eq (arg : RawText) (args : List RawText) :
    normalize (arg :: args) = expand arg :: if arg = endOfOptions then args else normalize args := by
  by_cases ended : arg = endOfOptions
  · rw [normalize, if_pos ended, if_pos ended, ended]
    rfl
  · rw [normalize_cons ended, if_neg ended]

theorem length_normalize (args : List RawText) : (normalize args).length = args.length := by
  induction args with
  | nil => rfl
  | cons arg args ih =>
    rw [normalize_cons_eq]
    split
    · rfl
    · rw [List.length_cons, ih, List.length_cons]

theorem normalize_normalize (args : List RawText) : normalize (normalize args) = normalize args := by
  induction args with
  | nil => rfl
  | cons arg args ih =>
    by_cases ended : arg = endOfOptions
    · simp only [normalize, if_pos ended]
    · rw [normalize_cons ended, normalize_cons (expand_ne_endOfOptions ended), expand_expand, ih]

/-- What stands behind the end of the options is left alone. -/
theorem normalize_append_of_mem {front : List RawText} (ended : endOfOptions ∈ front) (back : List RawText) :
    normalize (front ++ back) = normalize front ++ back := by
  induction front with
  | nil => cases ended
  | cons arg front ih =>
    by_cases here : arg = endOfOptions
    · simp only [List.cons_append, normalize, if_pos here]
    · rw [List.cons_append, normalize_cons here, normalize_cons here, List.cons_append,
        ih ((List.mem_cons.1 ended).resolve_left (Ne.symm here))]

/-- The argument in each place is what comes of the one that stood there, or that argument itself. -/
theorem getElem?_normalize {args : List RawText} {i : Nat} {arg : RawText} (here : args[i]? = some arg) :
    (normalize args)[i]? = some (if endOfOptions ∈ args.take i then arg else expand arg) := by
  induction args generalizing i with
  | nil => cases here
  | cons first args ih =>
    rw [normalize_cons_eq]
    cases i with
    | zero =>
      cases here
      rfl
    | succ i =>
      rw [List.getElem?_cons_succ] at here ⊢
      by_cases ended : first = endOfOptions
      · rw [if_pos ended, here, if_pos (ended ▸ List.mem_cons_self)]
      · have later : endOfOptions ∈ (first :: args).take (i + 1) ↔ endOfOptions ∈ args.take i := by
          rw [List.take_succ_cons, List.mem_cons, or_iff_right (Ne.symm ended)]
        rw [if_neg ended, ih here]
        simp only [later]

theorem normalize_inj {args others : List RawText} (plain : ∀ arg ∈ args, ∀ entry ∈ shorthands, ¬Bears entry.2 arg)
    (plain' : ∀ arg ∈ others, ∀ entry ∈ shorthands, ¬Bears entry.2 arg) (same : normalize args = normalize others) :
    args = others := by
  induction args generalizing others with
  | nil =>
    have length := congrArg List.length same
    rw [length_normalize, length_normalize] at length
    exact (List.length_eq_zero_iff.1 length.symm).symm
  | cons arg args ih =>
    cases others with
    | nil =>
      have length := congrArg List.length same
      rw [length_normalize, length_normalize] at length
      cases length
    | cons other others =>
      rw [List.forall_mem_cons] at plain plain'
      rw [normalize_cons_eq, normalize_cons_eq, List.cons.injEq] at same
      obtain ⟨first, rest⟩ := same
      obtain rfl := expand_inj plain.1 plain'.1 first
      by_cases ended : arg = endOfOptions
      · rw [if_pos ended, if_pos ended] at rest
        rw [rest]
      · rw [if_neg ended, if_neg ended] at rest
        rw [ih plain.2 plain'.2 rest]

/-- What is read from its own octets stays so. -/
theorem ofOctets_octets_normalize {args : List RawText} (whole : ∀ arg ∈ args, RawText.ofOctets arg.octets = arg) :
    ∀ arg ∈ normalize args, RawText.ofOctets arg.octets = arg := by
  intro arg member
  obtain ⟨i, place⟩ := List.mem_iff_getElem?.1 member
  obtain ⟨within, -⟩ := List.getElem?_eq_some_iff.1 place
  rw [length_normalize] at within
  have came := getElem?_normalize (List.getElem?_eq_getElem within)
  rw [place, Option.some.injEq] at came
  have old := whole _ (List.getElem_mem within)
  rw [came]
  split
  · exact old
  · rcases expand_cases args[i] with ⟨-, long, rest, -, -, -, written⟩ | ⟨-, same⟩
    · rw [written, RawText.ofOctets_octets_ofText]
    · rw [same, old]

/-- The pass can be made on any command line, and again on what it made of it. It goes over the arguments up to the end
of the options, and can be made in parts. An argument changes just if it is a short form and text, and keeps its octets
from the equals sign on; so no two command lines come out the same, unless the long forms were there before. Arguments
that were read from octets are told from them before the pass and after it. -/
theorem normalize_changes_only_shorthands (args : List RawText) :
    (normalize args).length = args.length ∧
    normalize (normalize args) = normalize args ∧
    (∀ more, normalize (args ++ endOfOptions :: more) = normalize args ++ endOfOptions :: more) ∧
    (∀ more, normalize (args ++ more) = normalize args ++ if endOfOptions ∈ args then more else normalize more) ∧
    (∀ i arg, args[i]? = some arg → ∃ arg', (normalize args)[i]? = some arg' ∧
      (arg' ≠ arg ↔ endOfOptions ∉ args.take i ∧ arg.text?.isSome ∧ ∃ entry ∈ shorthands, Bears entry.1 arg) ∧
      arg'.octets.dropWhile (· != 0x3D) = arg.octets.dropWhile (· != 0x3D)) ∧
    (∀ others, (∀ arg ∈ args, ∀ entry ∈ shorthands, ¬Bears entry.2 arg) →
      (∀ arg ∈ others, ∀ entry ∈ shorthands, ¬Bears entry.2 arg) → normalize args = normalize others →
      args = others) ∧
    (∀ octets : List (List UInt8), args = octets.map RawText.ofOctets →
      args.map RawText.octets = octets ∧
      ((normalize args).map RawText.octets).map RawText.ofOctets = normalize args) := by
  have parts (more : List RawText) :
      normalize (args ++ more) = normalize args ++ if endOfOptions ∈ args then more else normalize more := by
    split
    · next ended => exact normalize_append_of_mem ended more
    · next goesOn => exact normalize_append goesOn more
  refine ⟨length_normalize args, normalize_normalize args, fun more => ?_, parts, fun i arg here => ?_,
    fun others => normalize_inj, ?_⟩
  · have ending : normalize (endOfOptions :: more) = endOfOptions :: more := if_pos rfl
    rw [parts, ending, ite_self]
  · refine ⟨_, getElem?_normalize here, ?_⟩
    split
    · next ended => exact ⟨iff_of_false (fun changed => changed rfl) (fun ⟨goesOn, _⟩ => goesOn ended), rfl⟩
    · next goesOn => exact ⟨expand_ne_iff.trans (and_iff_right goesOn).symm, octets_expand_dropWhile arg⟩
  · rintro octets rfl
    have whole : ∀ arg ∈ octets.map RawText.ofOctets, RawText.ofOctets arg.octets = arg := by
      rw [List.forall_mem_map]
      exact fun o _ => congrArg RawText.ofOctets (RawText.octets_ofOctets o)
    rw [List.map_map, List.map_map]
    exact ⟨(List.map_congr_left (g := id) fun o _ => RawText.octets_ofOctets o).trans (List.map_id _),
      (List.map_congr_left (g := id) (ofOctets_octets_normalize whole)).trans (List.map_id _)⟩

/-- Values with equals signs, near misses of the short forms, one that is no text, and one behind the end. -/
theorem normalize_changes_only_shorthands_mixed :
    let undecodable : RawText := withValue "-sr".toList [.stray [0xff]]
    let args : List RawText := [.ofText "-sr=a=é".toList, .ofText "-srx".toList, undecodable, .ofText "-s=r".toList,
      .ofText "-sp".toList, endOfOptions, .ofText "-sr".toList]
    let written : List RawText := [.ofText "--static-root=a=é".toList, .ofText "-srx".toList, undecodable,
      .ofText "-s=r".toList, .ofText "--static-prefix".toList, endOfOptions, .ofText "-sr".toList]
    normalize args = written ∧ normalize written = written ∧
    (∀ others, (∀ arg ∈ others, ∀ entry ∈ shorthands, ¬Bears entry.2 arg) → normalize others = written →
      others = args) ∧
    (written.map RawText.octets).map RawText.ofOctets = written := by
  intro undecodable args written
  have out : normalize args = written := by decide +kernel
  have came : args = (args.map RawText.octets).map RawText.ofOctets := by decide +kernel
  obtain ⟨-, again, -, -, -, unique, octets⟩ := normalize_changes_only_shorthands args
  obtain ⟨-, kept⟩ := octets _ came
  rw [out] at again unique kept
  refine ⟨out, again, fun others plain same => ?_, kept⟩
  exact (unique others (by decide +kernel) plain same.symm).symm

end DocLinks.CommandLine
