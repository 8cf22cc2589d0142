import DumpReplay.Proofs.CommandLine.MissingValue

/-!
# Lines of flags only

A line that is accepted as it stands and has no trailing tokens consists of flags and their values.
Splitting leaves it as it is, with one exception: behind a bundle of letters whose last flag takes a
value, the next token is moved, if it is not recognised itself.  The flag of the bundle is then left
without its value.

Main results:

- `divide_tail_ne_nil` : a value behind an open bundle is moved.
- `readSettled_arrange` : tokens that are read to the end are read alike after splitting, or an open
  bundle loses its value.
- `parseKnown_of_parse` : a line of flags only says the same after splitting, unless an open bundle
  loses its value; then it is refused.
-/

namespace DumpReplay.CommandLine

/-! ## Values that are moved -/

/-- Where a flag may stand, an open bundle stands in front of a value that is not recognised. -/
def DetachesValue (args : List String) : Prop :=
  ∃ before bundle value after, args = before ++ bundle :: value :: after ∧ Complete before ∧
    IsOpenBundle bundle ∧ IsForeign value

/-- What stands in front of a flag has no part in the moving of values. -/
theorem DetachesValue.append {tokens args : List String} (h : DetachesValue args)
    (hfront : ∀ rest, Complete rest → Complete (tokens ++ rest)) :
    DetachesValue (tokens ++ args) := by
  obtain ⟨before, bundle, value, after, rfl, hbefore, hbundle, hvalue⟩ := h
  refine ⟨tokens ++ before, bundle, value, after, ?_, hfront before hbefore, hbundle, hvalue⟩
  rw [List.append_assoc]

/-- A value behind an open bundle is moved. -/
theorem divide_tail_ne_nil {args : List String} (h : DetachesValue args) :
    (divide args).tail ≠ [] := by
  obtain ⟨before, bundle, value, after, rfl, hbefore, hbundle, hne, hvalue⟩ := h
  obtain ⟨recognized, hrecognized, hawaits⟩ := hbundle.recognized
  rw [divide_append hbefore,
    divide_alone _ (ne_separator_of_recognized hrecognized) hrecognized hawaits,
    divide_unrecognized _ hne hvalue]
  simp [Split.prependHead, Split.prependTail]

/-! ## A flag without its value -/

/-- A flag that is read where none waits is refused where the value of another one is awaited: that
one lacks its value. -/
theorem readLong_awaiting_of_ok {progress next : Progress} {flag : Flag} {attached : Option String}
    (h : readLong progress flag attached = .ok next) (given : Given) (waiting : Flag) :
    readLong ⟨given, some (waiting, none)⟩ flag attached = .error (.valueRequired waiting) := by
  unfold readLong at h ⊢
  split
  · rfl
  · rfl
  · rename_i hkind
    simp [hkind] at h
  · split <;> rfl

/-- A token that is no flag stands in a line without trailing tokens only where it is a value. -/
theorem isSome_awaiting_of_plain {progress : Progress} (hprogress : progress.Guarded)
    {token : String} (hclass : classify token = .plain) {rest : List String} {settled : Given}
    (h : readSettled progress (token :: rest) = .ok (settled, [])) :
    progress.awaiting.isSome := by
  cases hpending : progress.awaiting with
  | some waiting => rfl
  | none =>
    rw [readSettled_eq_ok_iff, readTokens_guarded hprogress, hclass, hpending] at h
    obtain ⟨_, hread, _⟩ := h
    simp at hread

/-- Where a token that is not recognised is moved away from a flag that waits for it, another flag or
the separator comes instead, and the flag lacks its value. -/
theorem readSettled_detached {given : Given} {waiting : Flag} (hany : waiting.takesAnything = false)
    {progress : Progress} (hprogress : progress.awaiting = none) {args : List String}
    {settled : Given} (haccepted : readSettled progress args = .ok (settled, []))
    {value : String} (hvalue : IsForeign value) :
    readSettled ⟨given, some (waiting, none)⟩ (divide (value :: args)).arrange =
      .error (.valueRequired waiting) := by
  have hread := readTokens_guarded (Progress.guarded_of_awaiting_none hprogress)
  have hwaiting := readTokens_guarded (guarded_of_waiting given hany)
  rw [divide_unrecognized _ hvalue.1 hvalue.2, arrange_prependTail]
  cases args with
  | nil => exact readSettled_separator given _ hany
  | cons token rest =>
    cases hclass : classify token with
    | separator =>
      rw [eq_separator_of_classify hclass, divide_separator]
      exact readSettled_separator given _ hany
    | long flag attached =>
      obtain ⟨others, hothers⟩ := head_of_recognized (recognize?_of_classify_long hclass) rest
      obtain ⟨last, htokens, -⟩ := readSettled_eq_ok_iff.mp haccepted
      simp only [hread, hclass] at htokens
      obtain ⟨next, hlong, -⟩ := bind_eq_ok_iff.mp htokens
      rw [hothers]
      refine readSettled_of_error ?_
      rw [List.cons_append, hwaiting, hclass]
      simp [readLong_awaiting_of_ok hlong, bind, Except.bind]
    | letters letters =>
      obtain ⟨recognized, hrecognized⟩ := recognize?_of_classify_letters hclass
      obtain ⟨others, hothers⟩ := head_of_recognized hrecognized rest
      obtain ⟨letter, following, flag, rfl, hflag⟩ := letters_of_classify hclass
      rw [hothers]
      refine readSettled_of_error ?_
      rw [List.cons_append, hwaiting, hclass]
      simp [readLetters_awaiting given waiting following hflag, bind, Except.bind]
    | plain =>
      have hwaits := isSome_awaiting_of_plain (Progress.guarded_of_awaiting_none hprogress) hclass
        haccepted
      rw [hprogress] at hwaits
      exact absurd hwaits (by simp)

/-! ## Whole runs -/

/-- What splitting does to tokens that are read to the end without a trailing one. -/
inductive Resplit (progress : Progress) (args : List String) (settled : Given) : Prop
  /-- Nothing is moved, and the tokens are read as before. -/
  | kept (htail : (divide args).tail = [])
      (h : readSettled progress (divide args).arrange = .ok (settled, []))
  /-- The value of an open bundle is moved, and its flag lacks it. -/
  | detached (hvalue : DetachesValue args) (flag : Flag)
      (h : readSettled progress (divide args).arrange = .error (.valueRequired flag))
  /-- The first token, for which a flag waited, is moved, and the flag lacks it. -/
  | orphaned (waiting : Flag) (value : String) (rest : List String)
      (hwaiting : progress.awaiting = some waiting) (hargs : args = value :: rest)
      (hvalue : IsForeign value)
      (h : readSettled progress (divide args).arrange = .error (.valueRequired waiting))

/-- Tokens that are read by themselves change nothing in what splitting does to those behind
them. -/
theorem Resplit.prepend {progress next : Progress} {tokens args : List String} {settled : Given}
    (hread : ∀ rest, readSettled progress (tokens ++ rest) = readSettled next rest)
    (hdivide : divide (tokens ++ args) = (divide args).prependHead tokens)
    (hfront : ∀ rest, Complete rest → Complete (tokens ++ rest))
    (hwaiting : ∀ flag value rest, next.awaiting = some flag → args = value :: rest →
      IsForeign value → DetachesValue (tokens ++ args))
    (h : Resplit next args settled) : Resplit progress (tokens ++ args) settled := by
  have harrange : readSettled progress (divide (tokens ++ args)).arrange =
      readSettled next (divide args).arrange := by
    rw [hdivide, arrange_prependHead, hread]
  cases h with
  | kept htail h =>
    refine .kept ?_ (harrange.trans h)
    rw [hdivide]
    exact htail
  | detached hvalue flag h => exact .detached (hvalue.append hfront) flag (harrange.trans h)
  | orphaned flag value rest hflag hargs hvalue h =>
    exact .detached (hwaiting flag value rest hflag hargs hvalue) flag (harrange.trans h)

/-- Tokens that are read to the end are read alike after splitting, or a value is moved away from
its flag. -/
theorem readSettled_arrange (args : List String) {progress : Progress}
    (hprogress : progress.Guarded) {settled : Given}
    (haccepted : readSettled progress args = .ok (settled, [])) :
    Resplit progress args settled := by
  induction args using divide.induct generalizing progress with
  | case1 => exact .kept rfl haccepted
  | case2 rest =>
    have hclass : classify "--" = .separator := by decide
    obtain ⟨last, hread, hsettle⟩ := readSettled_eq_ok_iff.mp haccepted
    rw [readTokens_guarded hprogress, hclass] at hread
    obtain ⟨rfl, rfl⟩ : progress = last ∧ rest = [] := by simpa using hread
    refine .kept (by rw [divide_separator]) ?_
    rw [divide_separator]
    exact readSettled_eq_ok_iff.mpr ⟨progress, rfl, hsettle⟩
  | case3 value rest hne hvalue =>
    have hclass := classify_of_not_recognized hne hvalue
    have hwaits := isSome_awaiting_of_plain hprogress hclass haccepted
    obtain ⟨waiting, hpending⟩ := Option.isSome_iff_exists.mp hwaits
    have hread := readTokens_guarded hprogress value rest
    simp only [hclass, hpending] at hread
    rw [readSettled_congr hread] at haccepted
    have hany := hprogress waiting hpending
    refine .orphaned waiting value rest hpending rfl ⟨hne, hvalue⟩ ?_
    rw [eq_of_awaiting hpending]
    exact readSettled_detached hany rfl haccepted ⟨hne, hvalue⟩
  | case4 token _ recognized hrecognized hawaits =>
    obtain ⟨hspelled, hkind⟩ := Flag.spelled?_of_awaitsValue hrecognized hawaits
    have hsettled := (readSettled_open hprogress hspelled hkind
      (fun _ h => absurd h List.not_mem_nil)).mp haccepted
    obtain ⟨_, _, _, _, hne, _⟩ := hsettled
    exact absurd rfl hne
  | case5 token hne recognized hrecognized hawaits value rest ih =>
    have hunit := readsOn_valued hrecognized hawaits hprogress value (fun _ => False)
    obtain ⟨next, hnext, hread⟩ := hunit.through_of_ok haccepted
    have hguarded : next.Guarded := fun flag hflag => (hnext flag hflag).elim
    have hrest := ih hguarded ((hread rest).symm.trans haccepted)
    exact .prepend hread (divide_valued rest hne hrecognized hawaits)
      (fun _ h => .valued hrecognized hawaits h)
      (fun flag _ _ hflag _ _ => (hnext flag hflag).elim) hrest
  | case6 token rest hne recognized hrecognized hawaits ih =>
    have halone : recognized.awaitsValue = false := by simpa using hawaits
    have hunit := readsOn_alone hrecognized halone hprogress
    obtain ⟨next, hnext, hread⟩ := hunit.through_of_ok haccepted
    have hguarded : next.Guarded := fun flag hflag => (hnext flag hflag).1
    have hrest := ih hguarded ((hread rest).symm.trans haccepted)
    refine .prepend hread (divide_alone rest hne hrecognized halone)
      (fun _ h => .alone hrecognized halone h) ?_ hrest
    rintro flag value behind hflag rfl hvalue
    exact ⟨[], token, value, behind, rfl, .nil, (hnext flag hflag).2, hvalue⟩

/-- The tokens of a split line behind the program name. -/
theorem tail_split (line : List String) : (split line).tail = (divide line.tail).arrange := by
  cases line with
  | nil => rfl
  | cons program args => rfl

/-- A line of flags only, which is accepted as it stands without trailing tokens, says the same after
splitting, and nothing of it is moved; unless an open bundle stands before a value that is not
recognised: then the line is refused, since the flag of the bundle lacks its value. -/
theorem parseKnown_of_parse {environment : List (String × String)} {line : List String}
    {accepted : CommandLine} (h : parse environment line.tail = .ok accepted)
    (hrest : accepted.rest = []) :
    (¬ DetachesValue line.tail →
        (divide line.tail).tail = [] ∧ parseKnown environment line = .ok accepted) ∧
      (DetachesValue line.tail →
        ∃ flag, parseKnown environment line = .error (.valueRequired flag)) := by
  obtain ⟨settled, rest, all, hread, hall, rfl⟩ := parse_eq_ok_iff.mp h
  obtain rfl : rest = [] := hrest
  have hstart : (Progress.mk [] none).Guarded := Progress.guarded_of_awaiting_none rfl
  have hrefused : ∀ flag, readSettled ⟨[], none⟩ (divide line.tail).arrange =
      .error (.valueRequired flag) →
      parseKnown environment line = .error (.valueRequired flag) := by
    intro flag hflag
    rw [parseKnown, tail_split, parse_eq_readSettled, hflag]
    rfl
  cases readSettled_arrange line.tail hstart hread with
  | kept htail hkept =>
    refine ⟨fun _ => ⟨htail, ?_⟩, fun hdetaches => absurd htail (divide_tail_ne_nil hdetaches)⟩
    rw [parseKnown, tail_split]
    exact parse_eq_ok_iff.mpr ⟨settled, [], all, hkept, hall, rfl⟩
  | detached hvalue flag hflag =>
    exact ⟨fun hnot => absurd hvalue hnot, fun _ => ⟨flag, hrefused flag hflag⟩⟩
  | orphaned waiting value rest hwaiting hargs hvalue hflag =>
    exact absurd hwaiting (by simp [Progress.awaiting])

/-- A bundle of a switch and the flag for the dump, in front of the dump: the line is accepted as it
stands, and refused after splitting. -/
theorem parseKnown_of_parse_bundle :
    ∃ accepted, parse [] ["-qd", "dump.zip"] = .ok accepted ∧ accepted.rest = [] ∧
      accepted.dump = some ⟨"dump.zip"⟩ ∧
      DetachesValue ["-qd", "dump.zip"] ∧
      ∃ flag, parseKnown [] ["compiledump", "-qd", "dump.zip"] = .error (.valueRequired flag) := by
  have hswitch : ∀ c ∈ ['q'], ∃ other, Flag.ofShort? c = some other ∧ other.takesValue = false := by
    intro c hc
    obtain rfl := List.mem_singleton.mp hc
    exact ⟨.quiet, by decide, rfl⟩
  have hbundle : IsOpenBundle "-qd" :=
    ⟨['q'], 'd', .dump, by decide, by simp, hswitch, by decide, rfl⟩
  have hdetaches : DetachesValue ["-qd", "dump.zip"] :=
    ⟨[], "-qd", "dump.zip", [], rfl, .nil, hbundle, by decide, by decide⟩
  have hrefused := (@parseKnown_of_parse [] ["compiledump", "-qd", "dump.zip"] _ rfl rfl).2 hdetaches
  exact ⟨_, rfl, rfl, rfl, hdetaches, hrefused⟩

end DumpReplay.CommandLine
