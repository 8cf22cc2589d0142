import DumpReplay.Proofs.CommandLine.Spelling

/-!
# Foreign tokens between flags

A command line is made of pieces: flags, each with its value, and foreign tokens that are no flags.
Foreign tokens may stand between any two flags.  They change nothing that the flags say, and end up
among the trailing tokens in the order in which they came.

Main results:

- `divide_line` : splitting puts the flags of a line on one side and its foreign tokens on the
  other.
- `readSettled_pieces` : a run of flags either fails whatever stands behind it, or hands the rest
  of the line on.
- `parseKnown_interleave` : foreign tokens do not interfere with the flags.
-/

namespace DumpReplay.CommandLine

/-! ## Pieces of a line -/

/-- The tokens of one flag, with the value that it takes. -/
inductive IsFlagUnit : List String → Prop
  /-- A flag that takes no value. -/
  | switch {token : String} {flag : Flag} (hspelled : Flag.spelled? token.toList = some flag)
      (hkind : flag.takesValue = false) : IsFlagUnit [token]
  /-- A flag and, in the next token, its value. -/
  | valued {token : String} {flag : Flag} (hspelled : Flag.spelled? token.toList = some flag)
      (hkind : flag.takesValue = true) (value : String) : IsFlagUnit [token, value]
  /-- A long flag with a value behind an equals sign. -/
  | attached {name : List Char} {flag : Flag}
      (hname : Flag.ofLong? (String.ofList name) = some flag) (value : List Char) :
      IsFlagUnit [Flag.attachedToken name value]

/-- A piece of a command line. -/
inductive Piece where
  /-- A flag with its value. -/
  | unit (tokens : List String)
  /-- A token that is no flag. -/
  | foreign (token : String)

namespace Piece

/-- The tokens of a piece. -/
def tokens : Piece → List String
  | unit tokens => tokens
  | foreign token => [token]

/-- The tokens of a piece that belong to a flag. -/
def known : Piece → List String
  | unit tokens => tokens
  | foreign _ => []

/-- The tokens of a piece that belong to no flag. -/
def unknown : Piece → List String
  | unit _ => []
  | foreign token => [token]

/-- Whether a piece is a flag. -/
def isUnit : Piece → Bool
  | unit _ => true
  | foreign _ => false

/-- A piece is a whole flag, or a token that is neither the separator nor recognised. -/
def WellFormed : Piece → Prop
  | unit tokens => IsFlagUnit tokens
  | foreign token => token ≠ "--" ∧ Flag.recognize? token = none

end Piece

/-- The end of a line: nothing, or the separator with trailing tokens. -/
def closing : Option (List String) → List String
  | none => []
  | some trailing => "--" :: trailing

/-! ## Splitting -/

/-- A flag in front of a line goes to the recognised tokens. -/
theorem divide_unit {tokens : List String} (h : IsFlagUnit tokens) (rest : List String) :
    divide (tokens ++ rest) = (divide rest).prependHead tokens := by
  cases h with
  | switch hspelled hkind =>
    have hne := Flag.ne_separator_of_spelled hspelled
    apply divide_alone rest hne (Flag.recognize?_of_spelled hspelled)
    simp [Flag.Recognized.awaitsValue, hkind]
  | valued hspelled hkind value =>
    have hne := Flag.ne_separator_of_spelled hspelled
    apply divide_valued rest hne (Flag.recognize?_of_spelled hspelled)
    simp [Flag.Recognized.awaitsValue, hkind]
  | @attached name flag hname value =>
    have hne := Flag.attachedToken_ne_separator name value
    apply divide_alone rest hne (Flag.recognize?_attached value hname)
    simp [Flag.Recognized.awaitsValue]

/-- The end of a line goes to the other tokens, without its separator. -/
theorem divide_closing (ending : Option (List String)) :
    divide (closing ending) = ⟨[], ending.getD []⟩ := by
  cases ending with
  | none => rfl
  | some trailing => exact divide_separator trailing

/-- Splitting puts the flags of a line on one side and its foreign tokens on the other. -/
theorem divide_line {pieces : List Piece} (h : ∀ piece ∈ pieces, piece.WellFormed)
    (ending : Option (List String)) :
    divide (pieces.flatMap Piece.tokens ++ closing ending) =
      ⟨pieces.flatMap Piece.known, pieces.flatMap Piece.unknown ++ ending.getD []⟩ := by
  induction pieces with
  | nil => simpa using divide_closing ending
  | cons piece pieces ih =>
    have hpiece := h piece (by simp)
    have hrest := ih fun other hother => h other (by simp [hother])
    simp only [List.flatMap_cons, List.append_assoc]
    cases piece with
    | unit tokens =>
      rw [Piece.tokens, divide_unit hpiece, hrest]
      simp [Split.prependHead, Piece.known, Piece.unknown]
    | foreign token =>
      rw [Piece.tokens, List.singleton_append, divide_unrecognized _ hpiece.1 hpiece.2, hrest]
      simp [Split.prependTail, Piece.known, Piece.unknown]

/-- A line without its foreign tokens has the flags of the line and nothing else. -/
theorem flatMap_filter_isUnit (pieces : List Piece) :
    (pieces.filter Piece.isUnit).flatMap Piece.tokens = pieces.flatMap Piece.known ∧
      (pieces.filter Piece.isUnit).flatMap Piece.known = pieces.flatMap Piece.known ∧
      (pieces.filter Piece.isUnit).flatMap Piece.unknown = [] := by
  induction pieces with
  | nil => simp
  | cons piece pieces ih =>
    obtain ⟨htokens, hknown, hunknown⟩ := ih
    cases piece with
    | unit tokens =>
      rw [List.filter_cons_of_pos rfl]
      simp only [List.flatMap_cons, htokens, hknown, hunknown]
      simp [Piece.tokens, Piece.known, Piece.unknown]
    | foreign token =>
      rw [List.filter_cons_of_neg (by simp [Piece.isUnit])]
      exact ⟨htokens, hknown, hunknown⟩

/-- A line without its foreign tokens is divided into its flags and its end. -/
theorem divide_flags {pieces : List Piece} (h : ∀ piece ∈ pieces, piece.WellFormed)
    (ending : Option (List String)) :
    divide (pieces.flatMap Piece.known ++ closing ending) =
      ⟨pieces.flatMap Piece.known, ending.getD []⟩ := by
  obtain ⟨htokens, hknown, hunknown⟩ := flatMap_filter_isUnit pieces
  have hunits : ∀ piece ∈ pieces.filter Piece.isUnit, piece.WellFormed :=
    fun piece hpiece => h piece (List.mem_filter.mp hpiece).1
  have hline := divide_line hunits ending
  rwa [htokens, hknown, hunknown, List.nil_append] at hline

/-! ## Steps that succeed -/

section Steps

variable {α β : Type}

/-- Two steps succeed if the first one does, and the second one with its result. -/
theorem bind_eq_ok_iff {first : Except UsageError α} {next : α → Except UsageError β} {result : β} :
    first >>= next = .ok result ↔ ∃ value, first = .ok value ∧ next value = .ok result := by
  cases first with
  | error error => simp [bind, Except.bind]
  | ok value => simp [bind, Except.bind]

/-- A result that is passed on comes from a step that succeeds. -/
theorem map_eq_ok_iff {first : Except UsageError α} {f : α → β} {result : β} :
    first.map f = .ok result ↔ ∃ value, first = .ok value ∧ f value = result := by
  cases first with
  | error error => simp [Except.map]
  | ok value => simp [Except.map]

end Steps

/-! ## Reading flags -/

/-- Read tokens to the first trailing one, and settle the flag that waits at the end. -/
def readSettled (progress : Progress) (tokens : List String) :
    Except UsageError (Given × List String) := do
  let (progress, rest) ← readTokens progress tokens
  .ok (← settle progress, rest)

/-- At the end of the line, the flag that waits is settled. -/
theorem readSettled_nil (progress : Progress) :
    readSettled progress [] = (settle progress).map fun given => (given, []) := by
  rw [readSettled, readTokens]
  cases hsettle : settle progress <;> simp [hsettle, bind, Except.bind, Except.map]

/-- Tokens are read and settled when they are read, and the flag that then waits is settled. -/
theorem readSettled_eq_ok_iff {progress : Progress} {tokens rest : List String} {given : Given} :
    readSettled progress tokens = .ok (given, rest) ↔
      ∃ last, readTokens progress tokens = .ok (last, rest) ∧ settle last = .ok given := by
  simp only [readSettled, bind_eq_ok_iff, Prod.exists, Except.ok.injEq, Prod.mk.injEq]
  constructor
  · rintro ⟨last, _, hread, _, hsettle, rfl, rfl⟩
    exact ⟨last, hread, hsettle⟩
  · rintro ⟨last, hread, hsettle⟩
    exact ⟨last, rest, hread, given, hsettle, rfl, rfl⟩

/-- A line is read by settling its flags and adding those that variables give. -/
theorem parse_eq_readSettled (environment : List (String × String)) (arguments : List String) :
    parse environment arguments = (do
      let (given, rest) ← readSettled ⟨[], none⟩ arguments
      let given ← withVariables environment given
      .ok (ofGiven given rest)) := by
  unfold parse readSettled
  cases readTokens ⟨[], none⟩ arguments with
  | error error => rfl
  | ok outcome =>
    obtain ⟨progress, rest⟩ := outcome
    cases hsettle : settle progress <;> simp [hsettle, bind, Except.bind]

/-- What reading some tokens comes to when no flag waits for a value before them: a failure whatever
follows, or progress with which the reading of what follows goes on. -/
inductive Reads (progress : Progress) (tokens : List String) : Prop
  /-- The tokens are refused. -/
  | refused (error : UsageError)
      (h : ∀ rest, readSettled progress (tokens ++ rest) = .error error)
  /-- The tokens are read. -/
  | through (next : Progress) (hnext : next.awaiting = none)
      (h : ∀ rest, readSettled progress (tokens ++ rest) = readSettled next rest)

/-- Nothing is read through. -/
theorem Reads.nil {progress : Progress} (h : progress.awaiting = none) : Reads progress [] :=
  .through progress h fun _ => rfl

/-- What is read in two parts is read. -/
theorem Reads.append {progress : Progress} {tokens others : List String}
    (hfirst : Reads progress tokens)
    (hsecond : ∀ next : Progress, next.awaiting = none → Reads next others) :
    Reads progress (tokens ++ others) := by
  cases hfirst with
  | refused error h =>
    refine .refused error fun rest => ?_
    rw [List.append_assoc, h]
  | through next hnext h =>
    cases hsecond next hnext with
    | refused error h' =>
      refine .refused error fun rest => ?_
      rw [List.append_assoc, h, h']
    | through last hlast h' =>
      refine .through last hlast fun rest => ?_
      rw [List.append_assoc, h, h']

/-- A flag for which a value is awaited is refused where another flag comes instead. -/
theorem readLong_awaiting (given : Given) (waiting flag : Flag) (attached : Option String) :
    ∃ error, readLong ⟨given, some (waiting, none)⟩ flag attached = .error error := by
  unfold readLong
  split
  · exact ⟨.valueRequired waiting, rfl⟩
  · exact ⟨.valueRequired waiting, rfl⟩
  · exact ⟨_, rfl⟩
  · split <;> exact ⟨.valueRequired waiting, rfl⟩

/-- A flag for which a value is awaited lacks it where letters of flags come instead. -/
theorem readLetters_awaiting (given : Given) (waiting : Flag) {flag : Flag} {letter : Char}
    (rest : List Char) (h : Flag.ofShort? letter = some flag) :
    readLetters ⟨given, some (waiting, none)⟩ (letter :: rest) =
      .error (.valueRequired waiting) := by
  unfold readLetters
  simp only [h]
  split
  · split <;> rfl
  · split <;> rfl

/-- A failing step fails the reading. -/
theorem readSettled_of_error {progress : Progress} {tokens : List String} {error : UsageError}
    (h : readTokens progress tokens = .error error) :
    readSettled progress tokens = .error error := by
  simp [readSettled, h, bind, Except.bind]

/-- Equal readings of tokens settle equally. -/
theorem readSettled_congr {progress next : Progress} {tokens rest : List String}
    (h : readTokens progress tokens = readTokens next rest) :
    readSettled progress tokens = readSettled next rest := by
  simp [readSettled, h]

/-- The token behind a flag that awaits a value is its value, or the line is refused. -/
theorem reads_value (given : Given) (waiting : Flag) (value : String) :
    Reads ⟨given, some (waiting, none)⟩ [value] := by
  have hawaiting : (Progress.mk given (some (waiting, none))).awaiting = some waiting := rfl
  by_cases hany : waiting.takesAnything
  · refine .through ⟨given, some (waiting, some value)⟩ rfl fun rest => readSettled_congr ?_
    rw [List.singleton_append, readTokens]
    simp [hawaiting, hany]
  · cases hclass : classify value with
    | separator =>
      refine .refused (.valueRequired waiting) fun rest => ?_
      rw [List.singleton_append, readSettled, readTokens]
      simp [hawaiting, hany, hclass, settle, bind, Except.bind]
    | long flag attached =>
      obtain ⟨error, herror⟩ := readLong_awaiting given waiting flag attached
      refine .refused error fun rest => readSettled_of_error ?_
      rw [List.singleton_append, readTokens]
      simp [hawaiting, hany, hclass, herror, bind, Except.bind]
    | letters letters =>
      obtain ⟨letter, others, flag, rfl, hflag⟩ := letters_of_classify hclass
      have herror := readLetters_awaiting given waiting others hflag
      refine .refused (.valueRequired waiting) fun rest => readSettled_of_error ?_
      rw [List.singleton_append, readTokens]
      simp [hawaiting, hany, hclass, herror, bind, Except.bind]
    | plain =>
      refine .through ⟨given, some (waiting, some value)⟩ rfl fun rest => readSettled_congr ?_
      rw [List.singleton_append, readTokens]
      simp [hawaiting, hany, hclass]

/-- Behind a flag that is settled at once, none awaits a value. -/
theorem awaiting_of_settleWith {progress next : Progress} {flag : Flag} {value : String}
    (h : settleWith progress flag value = .ok next) : next.awaiting = none := by
  simp only [settleWith, bind_eq_ok_iff, Except.ok.injEq] at h
  obtain ⟨_, _, given, _, rfl⟩ := h
  rfl

/-- Asking for help ends the reading. -/
theorem askHelp_ne_ok (progress next : Progress) : askHelp progress ≠ .ok next := by
  simp [askHelp, bind_eq_ok_iff]

/-- Behind a flag that is spelled out and awaits no further token, none awaits a value. -/
theorem awaiting_of_readLong {progress next : Progress} {flag : Flag} {attached : Option String}
    (h : readLong progress flag attached = .ok next)
    (hawaits : Flag.Recognized.awaitsValue ⟨flag, attached.isSome⟩ = false) :
    next.awaiting = none := by
  unfold readLong at h
  split at h
  · exact awaiting_of_settleWith h
  · rename_i hkind
    simp [Flag.Recognized.awaitsValue, hkind] at hawaits
  · exact absurd h (by simp)
  · split at h
    · exact absurd h (askHelp_ne_ok progress next)
    · exact awaiting_of_settleWith h

/-- A single letter is read like the flag spelled out. -/
theorem readLetters_singleton {letter : Char} {flag : Flag} (progress : Progress)
    (h : Flag.ofShort? letter = some flag) :
    readLetters progress [letter] = readLong progress flag none := by
  unfold readLetters readLong
  cases hkind : flag.takesValue with
  | true => simp [h, hkind]
  | false =>
    by_cases hhelp : flag = .help
    · subst hhelp
      simp [h, hkind]
    · cases hsettle : settleWith progress flag "" <;>
        simp [h, hkind, hhelp, hsettle, readLetters, bind, Except.bind]

/-- A flag that is spelled out is read by itself, where none awaits a value. -/
theorem readTokens_spelled {token : String} {flag : Flag} {progress : Progress}
    (h : Flag.spelled? token.toList = some flag) (hprogress : progress.awaiting = none)
    (rest : List String) :
    readTokens progress (token :: rest) = (do
      readTokens (← readLong progress flag none) rest) := by
  rw [readTokens, hprogress]
  rcases classify_of_spelled h with hclass | ⟨letter, hclass, hletter⟩
  · simp [hclass]
  · simp [hclass, readLetters_singleton progress hletter]

/-- A long flag with its value in its token is read by itself, where none awaits a value. -/
theorem readTokens_attached {name : List Char} {flag : Flag} {progress : Progress}
    (h : Flag.ofLong? (String.ofList name) = some flag) (hprogress : progress.awaiting = none)
    (value : List Char) (rest : List String) :
    readTokens progress (Flag.attachedToken name value :: rest) = (do
      readTokens (← readLong progress flag (some (String.ofList value))) rest) := by
  rw [readTokens, hprogress]
  simp [classify_attached value h]

/-- A token that takes one step, after which no flag awaits a value, is read. -/
theorem reads_step {progress : Progress} {token : String} {step : Except UsageError Progress}
    (hread : ∀ rest, readTokens progress (token :: rest) = (do readTokens (← step) rest))
    (hstep : ∀ next, step = .ok next → next.awaiting = none) : Reads progress [token] := by
  cases h : step with
  | error error =>
    refine .refused error fun rest => readSettled_of_error ?_
    rw [List.singleton_append, hread, h]
    rfl
  | ok next =>
    refine .through next (hstep next h) fun rest => readSettled_congr ?_
    rw [List.singleton_append, hread, h]
    rfl

/-- A flag with its value is read, where no flag awaits a value. -/
theorem reads_unit {tokens : List String} (h : IsFlagUnit tokens) {progress : Progress}
    (hprogress : progress.awaiting = none) : Reads progress tokens := by
  cases h with
  | @switch token flag hspelled hkind =>
    refine reads_step (readTokens_spelled hspelled hprogress) fun next hnext => ?_
    exact awaiting_of_readLong hnext (by simp [Flag.Recognized.awaitsValue, hkind])
  | @valued token flag hspelled hkind value =>
    have hread := readTokens_spelled hspelled hprogress
    cases hsettle : settle progress with
    | error error =>
      refine .refused error fun rest => readSettled_of_error ?_
      rw [List.cons_append, hread]
      simp [readLong, hkind, await, hsettle, bind, Except.bind]
    | ok given =>
      have hstep : ∀ rest, readTokens progress (token :: rest) =
          readTokens ⟨given, some (flag, none)⟩ rest := by
        intro rest
        rw [hread]
        simp [readLong, hkind, await, hsettle, bind, Except.bind]
      cases reads_value given flag value with
      | refused error herror =>
        refine .refused error fun rest => ?_
        rw [List.cons_append, readSettled_congr (hstep _)]
        exact herror rest
      | through next hnext hgoes =>
        refine .through next hnext fun rest => ?_
        rw [List.cons_append, readSettled_congr (hstep _)]
        exact hgoes rest
  | @attached name flag hname value =>
    refine reads_step (readTokens_attached hname hprogress value) fun next hnext => ?_
    exact awaiting_of_readLong hnext (by simp [Flag.Recognized.awaitsValue])

/-- A run of flags either fails whatever stands behind it, or hands the rest of the line on. -/
theorem readSettled_pieces {pieces : List Piece} (h : ∀ piece ∈ pieces, piece.WellFormed)
    {progress : Progress} (hprogress : progress.awaiting = none) :
    Reads progress (pieces.flatMap Piece.known) := by
  induction pieces generalizing progress with
  | nil => exact .nil hprogress
  | cons piece pieces ih =>
    have hpiece := h piece (by simp)
    have hrest : ∀ next : Progress, next.awaiting = none →
        Reads next (pieces.flatMap Piece.known) := by
      intro next hnext
      exact ih (fun other hother => h other (by simp [hother])) hnext
    rw [List.flatMap_cons]
    cases piece with
    | unit tokens => exact (reads_unit hpiece hprogress).append hrest
    | foreign token => exact hrest progress hprogress

/-! ## Whole lines -/

/-- Trailing tokens behind flags that are read, with or without the separator before them. -/
theorem readSettled_trailing {progress : Progress} (h : progress.awaiting = none)
    (trailing : List String) :
    readSettled progress ("--" :: trailing) = (do .ok (← settle progress, trailing)) ∧
      readSettled progress [] = (do .ok (← settle progress, [])) := by
  refine ⟨?_, rfl⟩
  have hclass : classify "--" = .separator := by decide
  rw [readSettled, readTokens, h]
  simp [hclass, bind, Except.bind]

/-- What a split line says is what its flags say, with its other tokens as the trailing ones: the
flags alone decide whether it is accepted. -/
theorem parse_arrange {pieces : List Piece} (h : ∀ piece ∈ pieces, piece.WellFormed)
    (environment : List (String × String)) :
    ∃ outcome : Except UsageError Given, ∀ trailing,
      parse environment (Split.arrange ⟨pieces.flatMap Piece.known, trailing⟩) =
        outcome.map fun given => ofGiven given trailing := by
  have hstart : (Progress.mk [] none).awaiting = none := rfl
  cases readSettled_pieces h hstart with
  | refused error herror =>
    refine ⟨.error error, fun trailing => ?_⟩
    have hnothing := herror []
    rw [List.append_nil] at hnothing
    rw [parse_eq_readSettled, Split.arrange]
    split
    · simp [hnothing, bind, Except.bind, Except.map]
    · simp [herror, bind, Except.bind, Except.map]
  | through next hnext hgoes =>
    refine ⟨do withVariables environment (← settle next), fun trailing => ?_⟩
    have hnothing := hgoes []
    rw [List.append_nil] at hnothing
    have hend := readSettled_trailing hnext trailing
    rw [parse_eq_readSettled, Split.arrange]
    cases trailing with
    | nil =>
      simp only [List.isEmpty_nil, if_true, hnothing, hend.2]
      cases settle next with
      | error error => rfl
      | ok given => cases hgiven : withVariables environment given <;>
          simp [hgiven, bind, Except.bind, Except.map]
    | cons token trailing =>
      simp only [List.isEmpty_cons, Bool.false_eq_true, if_false, hgoes, hend.1]
      cases settle next with
      | error error => rfl
      | ok given => cases hgiven : withVariables environment given <;>
          simp [hgiven, bind, Except.bind, Except.map]

/-- Foreign tokens do not interfere with the flags: where a line of flags is accepted, so is every
line that has foreign tokens between its flags, in front of them or behind them; it says the same,
but for the trailing tokens, which are the foreign ones in order and then those behind the
separator. -/
theorem parseKnown_interleave {pieces : List Piece} (h : ∀ piece ∈ pieces, piece.WellFormed)
    (environment : List (String × String)) (program : String) (ending : Option (List String))
    {line : CommandLine}
    (haccepted : parseKnown environment
      (program :: (pieces.flatMap Piece.known ++ closing ending)) = .ok line) :
    parseKnown environment (program :: (pieces.flatMap Piece.tokens ++ closing ending)) =
      .ok { line with rest := pieces.flatMap Piece.unknown ++ ending.getD [] } := by
  obtain ⟨outcome, houtcome⟩ := parse_arrange h environment
  simp only [parseKnown, split_cons, List.tail_cons, divide_flags h, houtcome] at haccepted
  simp only [parseKnown, split_cons, List.tail_cons, divide_line h, houtcome]
  cases outcome with
  | error error => exact absurd haccepted (by simp [Except.map])
  | ok given =>
    simp only [Except.map, Except.ok.injEq] at haccepted
    rw [← haccepted]
    rfl

/-- A line in which a foreign token stands in front of the flags, between them, and behind them; one
of the values looks like a flag. -/
theorem parseKnown_interleave_jvmFlags :
    let pieces : List Piece := [.foreign "--no-tree-shaking", .unit ["-d", "dump.zip"],
      .foreign "-x", .unit ["--r8-flags", "-q"], .unit ["--threads=4"], .foreign "a=b"]
    ∃ line, parseKnown [] ["compiledump", "-d", "dump.zip", "--r8-flags", "-q", "--threads=4",
        "--", "-q"] = .ok line ∧ line.quiet = false ∧ line.jvmFlags = some "-q" ∧
      parseKnown [] ("compiledump" :: (pieces.flatMap Piece.tokens ++ closing (some ["-q"]))) =
        .ok { line with rest := ["--no-tree-shaking", "-x", "a=b", "-q"] } := by
  intro pieces
  have hdump : IsFlagUnit ["-d", "dump.zip"] :=
    @IsFlagUnit.valued "-d" .dump (by decide) rfl "dump.zip"
  have hflags : IsFlagUnit ["--r8-flags", "-q"] :=
    @IsFlagUnit.valued "--r8-flags" .jvmFlags (by decide) rfl "-q"
  have hthreads : IsFlagUnit ["--threads=4"] :=
    @IsFlagUnit.attached "threads".toList .threads (by decide) ['4']
  have hwell : ∀ piece ∈ pieces, piece.WellFormed := by
    simp only [pieces, List.forall_mem_cons]
    exact ⟨⟨by decide, by decide⟩, hdump, ⟨by decide, by decide⟩, hflags, hthreads,
      ⟨by decide, by decide⟩, by simp⟩
  exact ⟨_, rfl, rfl, rfl, parseKnown_interleave hwell [] "compiledump" (some ["-q"]) rfl⟩

end DumpReplay.CommandLine
