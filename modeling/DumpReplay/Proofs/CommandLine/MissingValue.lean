import DumpReplay.Proofs.CommandLine.Position
import DumpReplay.Proofs.CommandLine.Variables

/-!
# A flag at the end without its value

A flag that takes a value may be the last token of a line.  Nothing is left to be its value, and the
line is refused; but for two kinds of lines.  Where a token before the flag is kept in front and yet
read as the first trailing token, the flag is a trailing token itself.  And where tokens that are
not recognised came before, the separator that splitting puts in behind the flag becomes its value,
if the flag takes just anything.

Main results:

- `divide_open` : a flag that lacks its value stays in front, and is the last one there.
- `readSettled_open` : when a flag without a value of its own is settled all the same.
- `parseKnown_open_eq_ok_iff` : which lines with such a flag at their end are accepted, and what they
  say.
-/

namespace DumpReplay.CommandLine

/-! ## Splitting -/

/-- A flag that lacks its value stays in front, and is the last one there. -/
theorem divide_open {args : List String} (h : Complete args) {token : String} {flag : Flag}
    (hspelled : Flag.spelled? token.toList = some flag) (hkind : flag.takesValue = true) :
    divide (args ++ [token]) =
      Split.prependHead ⟨[token], (divide args).tail⟩ (divide args).head := by
  have hne := Flag.ne_separator_of_spelled hspelled
  have hlast : divide [token] = ⟨[token], []⟩ := by
    rw [divide_cons]
    simp [hne, Flag.recognize?_of_spelled hspelled, Flag.Recognized.awaitsValue, hkind]
  rw [divide_append h, hlast, List.append_nil]
  rfl

/-! ## Reading -/

/-- Only the flag for the JVM takes just anything. -/
theorem Flag.takesAnything_iff {flag : Flag} : flag.takesAnything = true ↔ flag = .jvmFlags :=
  beq_iff_eq

/-- Behind a flag that takes just anything, the separator is its value, and the first token that is
not recognised the first trailing one. -/
theorem readSettled_separator_value (given : Given) {flag : Flag} {first : String}
    {others : List String} (h : flag.takesAnything = true) (hfirst : IsForeign first) :
    readSettled ⟨given, some (flag, none)⟩ ("--" :: first :: others) =
      (accept given flag "--").map fun next => (next, first :: others) := by
  have hstep : readTokens ⟨given, some (flag, none)⟩ ("--" :: first :: others) =
      readTokens ⟨given, some (flag, some "--")⟩ (first :: others) := by
    rw [readTokens]
    simp [Progress.awaiting, h]
  have hguarded : (Progress.mk given (some (flag, some "--"))).Guarded :=
    Progress.guarded_of_awaiting_none rfl
  rw [readSettled_congr hstep, readSettled, readTokens_guarded hguarded,
    classify_of_not_recognized hfirst.1 hfirst.2]
  cases haccept : accept given flag "--" <;>
    simp [Progress.awaiting, settle, haccept, bind, Except.bind, Except.map]

/-- A flag that waits for its value is settled only if it takes just anything and tokens that are
not recognised stand behind the separator; the separator is then its value. -/
theorem readSettled_waiting (given : Given) {flag : Flag} {tail : List String}
    (htail : ∀ other ∈ tail, IsForeign other) {next : Given}
    {rest : List String} :
    readSettled ⟨given, some (flag, none)⟩ (Split.arrange ⟨[], tail⟩) = .ok (next, rest) ↔
      flag = .jvmFlags ∧ given.lookup flag = none ∧ tail ≠ [] ∧ next = (flag, "--") :: given ∧
        rest = tail := by
  cases tail with
  | nil =>
    have hend : readSettled ⟨given, some (flag, none)⟩ (Split.arrange ⟨[], []⟩) =
        .error (.valueRequired flag) := rfl
    simp [hend]
  | cons first others =>
    have hlist : Split.arrange ⟨[], first :: others⟩ = "--" :: first :: others := rfl
    have hfirst := htail first (by simp)
    rw [hlist]
    cases hany : flag.takesAnything with
    | false =>
      have hflag : flag ≠ .jvmFlags := by
        rintro rfl
        exact absurd hany (by decide)
      simp [readSettled_separator given _ hany, hflag]
    | true =>
      have hflag := Flag.takesAnything_iff.mp hany
      have hcheck : checkValue flag "--" = .ok () := by
        rw [hflag]
        rfl
      rw [readSettled_separator_value given hany hfirst, map_eq_ok_iff]
      constructor
      · rintro ⟨settled, haccept, hresult⟩
        obtain ⟨rfl, rfl⟩ := Prod.mk.inj hresult
        obtain ⟨hfresh, -, hsettled⟩ := accept_eq_ok_iff.mp haccept
        exact ⟨hflag, hfresh, by simp, hsettled, rfl⟩
      · rintro ⟨-, hfresh, -, rfl, rfl⟩
        exact ⟨_, accept_eq_ok_iff.mpr ⟨hfresh, hcheck, rfl⟩, rfl⟩

/-- What is settled at the end of a line when its last flag has no value of its own. -/
theorem readSettled_open {progress : Progress} (hprogress : progress.Guarded) {token : String}
    {flag : Flag} (hspelled : Flag.spelled? token.toList = some flag)
    (hkind : flag.takesValue = true) {tail : List String}
    (htail : ∀ other ∈ tail, IsForeign other) {next : Given}
    {rest : List String} :
    readSettled progress (Split.arrange ⟨[token], tail⟩) = .ok (next, rest) ↔
      ∃ given, settle progress = .ok given ∧ flag = .jvmFlags ∧ given.lookup flag = none ∧
        tail ≠ [] ∧ next = (flag, "--") :: given ∧ rest = tail := by
  have hfront : Split.arrange ⟨[token], tail⟩ = token :: Split.arrange ⟨[], tail⟩ :=
    arrange_prependHead ⟨[], tail⟩ [token]
  rw [hfront]
  cases hpending : progress.awaiting with
  | some waiting =>
    obtain ⟨error, herror⟩ := readSettled_spelled_awaiting hprogress hpending hspelled
    have hsettle : settle progress = .error (.valueRequired waiting) := by
      rw [eq_of_awaiting hpending]
      rfl
    simp [herror, hsettle]
  | none =>
    have hread := readTokens_spelled hspelled hpending
    cases hsettle : settle progress with
    | error error =>
      have hrefused : ∀ behind, readSettled progress (token :: behind) = .error error := by
        intro behind
        refine readSettled_of_error ?_
        simp [hread, readLong, hkind, await, hsettle, bind, Except.bind]
      simp [hrefused]
    | ok given =>
      have hstep : ∀ behind, readSettled progress (token :: behind) =
          readSettled ⟨given, some (flag, none)⟩ behind := by
        intro behind
        refine readSettled_congr ?_
        simp [hread, readLong, hkind, await, hsettle, bind, Except.bind]
      rw [hstep, readSettled_waiting given htail]
      simp

/-! ## Whole lines -/

/-- Settled flags to which the one for the JVM is added say the same, but for that flag. -/
theorem ofGiven_agreeBut {given others : Given} (h : Given.AgreeBut .jvmFlags given others)
    {value : String} (hvalue : others.lookup .jvmFlags = some value) (rest trailing : List String) :
    ofGiven others trailing =
      { ofGiven given rest with jvmFlags := some value, rest := trailing } := by
  have hlookup : ∀ flag, flag ≠ .jvmFlags → others.lookup flag = given.lookup flag := h
  simp [ofGiven, Given.has, Given.path?, Given.toggle, hlookup, hvalue]

/-- With the flag for the JVM settled, variables are added as they are without it, and the line says
the same but for that flag. -/
theorem withVariables_jvmFlags {environment : List (String × String)} {given : Given}
    (value : String) (rest trailing : List String) {accepted : CommandLine} :
    (∃ all, withVariables environment ((.jvmFlags, value) :: given) = .ok all ∧
        accepted = ofGiven all trailing) ↔
      ∃ all, withVariables environment given = .ok all ∧
        accepted = { ofGiven all rest with jvmFlags := some value, rest := trailing } := by
  have hagree := Given.agreeBut_cons .jvmFlags value given
  have hadded : List.lookup Flag.jvmFlags ((.jvmFlags, value) :: given) = some value :=
    List.lookup_cons_self
  constructor
  · rintro ⟨all, hall, rfl⟩
    obtain ⟨without, hwithout, hrest, -⟩ := withVariables_agree rfl hagree.symm hall
    have hvalue := (lookup_withVariables rfl hall).trans hadded
    exact ⟨without, hwithout, ofGiven_agreeBut hrest.symm hvalue rest trailing⟩
  · rintro ⟨without, hwithout, rfl⟩
    obtain ⟨all, hall, hrest, hkept⟩ := withVariables_agree rfl hagree hwithout
    exact ⟨all, hall, (ofGiven_agreeBut hrest (hkept.trans hadded) rest trailing).symm⟩

/-- Which lines are accepted that end with a flag without its value, and what they say.  What stands
before the flag must be accepted; then either one of its tokens is read as a trailing one, and so is
the flag, or the flag is the one for the JVM, not given before, and the separator that stands between
it and the tokens that are not recognised is its value. -/
theorem parseKnown_open_eq_ok_iff {args : List String} (h : Complete args) {token : String}
    {flag : Flag} (hspelled : Flag.spelled? token.toList = some flag)
    (hkind : flag.takesValue = true) (environment : List (String × String)) (program : String)
    (accepted : CommandLine) :
    parseKnown environment (program :: (args ++ [token])) = .ok accepted ↔
      ∃ line, parse environment (divide args).head = .ok line ∧
        ((line.rest ≠ [] ∧
            accepted =
              { line with rest := line.rest ++ Split.arrange ⟨[token], (divide args).tail⟩ }) ∨
          (line.rest = [] ∧ flag = .jvmFlags ∧ line.jvmFlags = none ∧ (divide args).tail ≠ [] ∧
            accepted = { line with jvmFlags := some "--", rest := (divide args).tail })) := by
  have hstart : (Progress.mk [] none).Guarded := Progress.guarded_of_awaiting_none rfl
  rw [parseKnown, split_cons, List.tail_cons, divide_open h hspelled hkind, arrange_prependHead]
  cases readsOn_head h hstart with
  | refused error herror =>
    have hbefore := herror []
    rw [List.append_nil] at hbefore
    simp [parse_eq_ok_iff, herror, hbefore]
  | trailing last first others hread =>
    have hbefore := hread []
    simp only [List.append_nil] at hbefore
    simp only [parse_eq_ok_iff, hread, hbefore, map_eq_ok_iff, Prod.mk.injEq]
    constructor
    · rintro ⟨_, _, all, ⟨given, hsettle, rfl, rfl⟩, hall, rfl⟩
      exact ⟨_, ⟨given, first :: others, all, ⟨given, hsettle, rfl, rfl⟩, hall, rfl⟩,
        .inl ⟨List.cons_ne_nil first others, rfl⟩⟩
    · rintro ⟨_, ⟨_, _, all, ⟨given, hsettle, rfl, rfl⟩, hall, rfl⟩, ⟨-, rfl⟩ | ⟨hnil, -⟩⟩
      · exact ⟨given, _, all, ⟨given, hsettle, rfl, rfl⟩, hall, rfl⟩
      · exact absurd hnil (List.cons_ne_nil first others)
  | through next hnext hread =>
    have hbefore := hread []
    rw [List.append_nil, readSettled_nil] at hbefore
    have hopen := @readSettled_open next hnext token flag hspelled hkind _ (foreign_of_mem_tail h)
    simp only [parse_eq_ok_iff, hread, hopen, hbefore, map_eq_ok_iff, Prod.mk.injEq]
    constructor
    · rintro ⟨_, _, all, ⟨given, hsettle, rfl, hfresh, htail, rfl, rfl⟩, hall, rfl⟩
      obtain ⟨without, hwithout, hsame⟩ :=
        (withVariables_jvmFlags "--" [] (divide args).tail).mp ⟨all, hall, rfl⟩
      exact ⟨_, ⟨given, [], without, ⟨given, hsettle, rfl, rfl⟩, hwithout, rfl⟩, .inr ⟨rfl, rfl,
        (lookup_withVariables rfl hwithout).trans hfresh, htail, hsame⟩⟩
    · rintro ⟨_, ⟨_, _, without, ⟨given, hsettle, rfl, rfl⟩, hwithout, rfl⟩,
        ⟨hne, -⟩ | ⟨-, rfl, hfresh, htail, rfl⟩⟩
      · exact absurd rfl hne
      · obtain ⟨all, hall, hsame⟩ :=
          (withVariables_jvmFlags "--" [] (divide args).tail).mpr ⟨without, hwithout, rfl⟩
        have hgiven := (lookup_withVariables rfl hwithout).symm.trans hfresh
        exact ⟨_, _, all, ⟨given, hsettle, rfl, hgiven, htail, rfl, rfl⟩, hall, hsame⟩

/-- Behind a token that is not recognised, the flag for the JVM takes the separator for its value. -/
theorem parseKnown_open_jvmFlags :
    Complete ["foo"] ∧ Flag.spelled? "--r8-flags".toList = some .jvmFlags ∧
      Flag.takesValue .jvmFlags = true ∧
      ∃ accepted, parseKnown [] ["compiledump", "foo", "--r8-flags"] = .ok accepted ∧
        accepted.jvmFlags = some "--" ∧ accepted.rest = ["foo"] := by
  have hcomplete : Complete ["foo"] := .foreign ⟨by decide, by decide⟩ .nil
  have hspelled : Flag.spelled? "--r8-flags".toList = some .jvmFlags := by decide
  have haccepted := (parseKnown_open_eq_ok_iff hcomplete hspelled rfl [] "compiledump" _).mpr
    ⟨_, rfl, .inr ⟨rfl, rfl, rfl, by decide, rfl⟩⟩
  exact ⟨hcomplete, hspelled, rfl, _, haccepted, rfl, rfl⟩

end DumpReplay.CommandLine
