import DumpReplay.Proofs.CommandLine.Position
import DumpReplay.Proofs.CommandLine.Variables

/-!
# Values in the token of a letter

The value of a flag with a letter may stand in the next token.  Written directly behind the letter
it is kept in front with it, but it is read as a value only if each of its characters is the letter
of a flag.  Otherwise the token is read as the first trailing one, and so is everything behind it.

Main results:

- `readSettled_settled` : where the flag that waits has its value, it can be settled at once.
- `parseKnown_attached_of_letters` : a value made of letters of flags may stand in either place.
- `parseKnown_attached_of_text` : any other value makes its token the first trailing one.
- `parseKnown_attached_same_iff` : when the place of the value makes no difference.
-/

namespace DumpReplay.CommandLine

/-! ## Results that are the same -/

/-- The sorts of faults that a command line can have. -/
inductive UsageError.Kind where
  /-- A value is missing, or not one that the flag takes. -/
  | invalidValue
  /-- A flag that takes no value has one. -/
  | unexpectedValue
  /-- A flag was given twice. -/
  | repeated
  /-- The help text was asked for. -/
  | helpRequested
deriving DecidableEq, Repr

/-- The sort of a fault. -/
def UsageError.kind : UsageError → UsageError.Kind
  | .valueRequired _ | .invalidValue _ _ => .invalidValue
  | .unexpectedValue _ _ => .unexpectedValue
  | .repeated _ => .repeated
  | .helpRequested => .helpRequested

/-- Two readings say the same, or fail with faults of one sort. -/
def SameResult (a b : Except UsageError CommandLine) : Prop :=
  a.mapError UsageError.kind = b.mapError UsageError.kind

/-- A reading says the same as itself. -/
theorem sameResult_refl (a : Except UsageError CommandLine) : SameResult a a := rfl

/-- Accepted lines are the same only if they are equal. -/
theorem eq_of_sameResult_ok {line other : CommandLine} (h : SameResult (.ok line) (.ok other)) :
    line = other :=
  Except.ok.inj h

/-- An accepted line is not the same as a refused one. -/
theorem not_sameResult_ok_error (line : CommandLine) (error : UsageError) :
    ¬ SameResult (.ok line) (.error error) :=
  nofun

/-! ## Settling early -/

/-- Where the flag that waits has its value, it can be settled at once: what follows is read the
same. -/
theorem readSettled_settled {progress : Progress} {given : Given}
    (hprogress : progress.awaiting = none) (hsettle : settle progress = .ok given)
    (tokens : List String) :
    readSettled progress tokens = readSettled ⟨given, none⟩ tokens := by
  cases tokens with
  | nil => rw [readSettled_nil, readSettled_nil, hsettle, settle_none]
  | cons token rest =>
    have hread := readTokens_guarded (Progress.guarded_of_awaiting_none hprogress) token rest
    have hsettled : (Progress.mk given none).Guarded := Progress.guarded_of_awaiting_none rfl
    have hread' := readTokens_guarded hsettled token rest
    cases hclass : classify token with
    | separator =>
      rw [readSettled, readSettled, hread, hread']
      simp [hclass, hsettle, bind, Except.bind]
    | long flag attached =>
      have hstep : readLong progress flag attached = readLong ⟨given, none⟩ flag attached := by
        simp [readLong, settleWith, await, askHelp, hsettle]
      refine readSettled_congr ?_
      rw [hread, hread', hclass]
      simp [hstep]
    | letters letters =>
      obtain ⟨letter, others, flag, rfl, hflag⟩ := letters_of_classify hclass
      have hstep : readLetters progress (letter :: others) =
          readLetters ⟨given, none⟩ (letter :: others) := by
        simp [readLetters, hflag, settleWith, await, askHelp, hsettle]
      refine readSettled_congr ?_
      rw [hread, hread', hclass]
      simp [hstep]
    | plain =>
      rw [readSettled, readSettled, hread, hread', hclass, hprogress]
      simp [Progress.awaiting, hsettle, bind, Except.bind]

/-- What is trailing is no longer than what was read. -/
theorem length_of_readTokens {tokens : List String} {progress last : Progress} {rest : List String}
    (h : readTokens progress tokens = .ok (last, rest)) : rest.length ≤ tokens.length := by
  induction tokens generalizing progress with
  | nil =>
    simp only [readTokens, Except.ok.injEq, Prod.mk.injEq] at h
    simp [← h.2]
  | cons token tokens ih =>
    have hstep : ∀ step : Except UsageError Progress,
        (do readTokens (← step) tokens) = .ok (last, rest) → rest.length ≤ tokens.length + 1 := by
      intro step hrest
      obtain ⟨next, -, hnext⟩ := bind_eq_ok_iff.mp hrest
      exact Nat.le_succ_of_le (ih hnext)
    rw [List.length_cons]
    unfold readTokens at h
    cases hwaiting : progress.awaiting with
    | none =>
      simp only [hwaiting] at h
      split at h
      · simp only [Except.ok.injEq, Prod.mk.injEq] at h
        rw [← h.2]
        exact Nat.le_succ _
      · exact hstep _ h
      · exact hstep _ h
      · simp only [Except.ok.injEq, Prod.mk.injEq] at h
        simp [← h.2]
    | some waiting =>
      simp only [hwaiting] at h
      split at h
      · exact Nat.le_succ_of_le (ih h)
      · split at h
        · simp only [Except.ok.injEq, Prod.mk.injEq] at h
          rw [← h.2]
          exact Nat.le_succ _
        · exact hstep _ h
        · exact hstep _ h
        · exact Nat.le_succ_of_le (ih h)

/-- The trailing tokens of an accepted line are no more than its tokens. -/
theorem length_rest_of_readSettled {progress : Progress} {tokens rest : List String}
    {settled : Given} (h : readSettled progress tokens = .ok (settled, rest)) :
    rest.length ≤ tokens.length := by
  obtain ⟨last, hread, -⟩ := readSettled_eq_ok_iff.mp h
  exact length_of_readTokens hread

/-! ## A value behind a letter -/

section Values

variable {letter : Char} {flag : Flag} {value : List Char}

/-- A flag with a letter takes any value that is not empty. -/
theorem accept_of_ofShort? (hletter : Flag.ofShort? letter = some flag)
    (hkind : flag.takesValue = true) (hne : value ≠ []) :
    accept [] flag (String.ofList value) = .ok [(flag, String.ofList value)] := by
  have hshort := Flag.short?_of_ofShort? hletter
  have hexpects : flag.kind = .path ∨ flag.kind = .text := by
    cases flag <;> simp_all [Flag.short?, Flag.kind, Flag.takesValue]
  have htext : String.ofList value ≠ "" := by
    intro hempty
    apply hne
    simpa using congrArg String.toList hempty
  have hcheck : checkValue flag (String.ofList value) = .ok () := by
    rcases hexpects with hexpects | hexpects <;> simp [checkValue, hexpects, htext]
  exact accept_eq_ok_iff.mpr ⟨rfl, hcheck, rfl⟩

/-- The token of a letter with its value. -/
def letterToken (letter : Char) (value : List Char) : String :=
  String.ofList ('-' :: letter :: value)

/-- A letter with its value in the token stays in front, alone. -/
theorem divide_letterToken (hletter : Flag.ofShort? letter = some flag) (hne : value ≠ [])
    (rest : List String) :
    divide (letterToken letter value :: rest) =
      (divide rest).prependHead [letterToken letter value] := by
  cases value with
  | nil => exact absurd rfl hne
  | cons c cs =>
    have hrecognized : Flag.recognize? (letterToken letter (c :: cs)) = some ⟨flag, true⟩ :=
      recognize?_letter_text (String.toList_ofList) hletter
    apply divide_alone rest (ne_separator_of_recognized hrecognized) hrecognized
    simp [Flag.Recognized.awaitsValue]

/-- A letter and its value in the next token stay in front together. -/
theorem divide_letter (hletter : Flag.ofShort? letter = some flag)
    (hkind : flag.takesValue = true) (next : String) (rest : List String) :
    divide (letterToken letter [] :: next :: rest) =
      (divide rest).prependHead [letterToken letter [], next] := by
  have hspelled : Flag.spelled? (letterToken letter []).toList = some flag := by
    simpa [letterToken] using Flag.spelled?_letter hletter
  exact divide_unit (.valued hspelled hkind next) rest

/-- A letter with its value in the next token is settled with it, if the value does not start with
a dash. -/
theorem readSettled_letter (hletter : Flag.ofShort? letter = some flag)
    (hkind : flag.takesValue = true) (hne : value ≠ []) (hdash : value.head? ≠ some '-')
    (rest : List String) :
    readSettled ⟨[], none⟩ (letterToken letter [] :: String.ofList value :: rest) =
      readSettled ⟨[(flag, String.ofList value)], none⟩ rest := by
  have hspelled : Flag.spelled? (letterToken letter []).toList = some flag := by
    simpa [letterToken] using Flag.spelled?_letter hletter
  have hclass : classify (String.ofList value) = .plain := by
    cases value with
    | nil => exact absurd rfl hne
    | cons c cs =>
      have hc : c ≠ '-' := by simpa using hdash
      simp [classify, hc]
  have hstart : (Progress.mk [] none).awaiting = none := rfl
  have hwaiting := guarded_of_waiting [] (Flag.takesAnything_of_ofShort? hletter)
  have hsettle : settle ⟨[], some (flag, some (String.ofList value))⟩ =
      .ok [(flag, String.ofList value)] := accept_of_ofShort? hletter hkind hne
  have hread : readTokens ⟨[], none⟩ (letterToken letter [] :: String.ofList value :: rest) =
      readTokens ⟨[], some (flag, some (String.ofList value))⟩ rest := by
    rw [readTokens_spelled hspelled hstart]
    simp only [readLong, hkind, await, settle_none, bind, Except.bind]
    rw [readTokens_guarded hwaiting, hclass]
    rfl
  rw [readSettled_congr hread]
  exact readSettled_settled rfl hsettle rest

/-- A letter with a value of letters of flags in its token is settled with it. -/
theorem readSettled_letterToken (hletter : Flag.ofShort? letter = some flag)
    (hkind : flag.takesValue = true) (hne : value ≠ [])
    (hletters : ∀ c ∈ value, (Flag.ofShort? c).isSome) (rest : List String) :
    readSettled ⟨[], none⟩ (letterToken letter value :: rest) =
      readSettled ⟨[(flag, String.ofList value)], none⟩ rest := by
  have hall : ∀ c ∈ letter :: value, (Flag.ofShort? c).isSome := by
    intro c hc
    rcases List.mem_cons.mp hc with rfl | hc
    · simp [hletter]
    · exact hletters c hc
  have hclass : classify (letterToken letter value) = .letters (letter :: value) :=
    classify_letters (by simp [letterToken]) hall
  have hstart : (Progress.mk [] none).Guarded := Progress.guarded_of_awaiting_none rfl
  refine readSettled_congr ?_
  rw [readTokens_guarded hstart, hclass]
  simp [readLetters, hletter, hkind, hne, settleWith, accept_of_ofShort? hletter hkind hne, bind,
    Except.bind]

/-- A letter with any other value in its token is the first trailing token. -/
theorem readSettled_letterToken_of_text (hletter : Flag.ofShort? letter = some flag)
    (htext : ¬ ∀ c ∈ value, (Flag.ofShort? c).isSome) (rest : List String) :
    readSettled ⟨[], none⟩ (letterToken letter value :: rest) =
      .ok ([], letterToken letter value :: rest) := by
  have hdash : letter ≠ '-' := Flag.ne_dash_of_ofShort? (by simp [hletter])
  have hclass : classify (letterToken letter value) = .plain := by
    cases hclass : classify (letterToken letter value) with
    | separator =>
      have htoken := congrArg String.toList (eq_separator_of_classify hclass)
      simp [letterToken, hdash] at htoken
    | long other attached =>
      obtain ⟨name, -, htoken⟩ := toList_of_classify_long hclass
      simp [letterToken, hdash] at htoken
    | letters letters =>
      obtain ⟨htoken, hall⟩ := toList_of_classify_letters hclass
      refine absurd (fun c hc => hall c ?_) htext
      simp only [letterToken, String.toList_ofList, List.cons.injEq, true_and] at htoken
      rw [← htoken]
      exact List.mem_cons_of_mem letter hc
    | plain => rfl
  have hstart : (Progress.mk [] none).Guarded := Progress.guarded_of_awaiting_none rfl
  rw [readSettled, readTokens_guarded hstart, hclass]
  rfl

/-! ## Whole lines -/

/-- A value made of letters of flags may stand in the token of its letter or in the next one. -/
theorem parseKnown_attached_of_letters (hletter : Flag.ofShort? letter = some flag)
    (hkind : flag.takesValue = true) (hne : value ≠ []) (hdash : value.head? ≠ some '-')
    (hletters : ∀ c ∈ value, (Flag.ofShort? c).isSome) (environment : List (String × String))
    (program : String) (rest : List String) :
    parseKnown environment (program :: letterToken letter value :: rest) =
      parseKnown environment (program :: letterToken letter [] :: String.ofList value :: rest) := by
  simp only [parseKnown, split_cons, List.tail_cons, divide_letterToken hletter hne,
    divide_letter hletter hkind, arrange_prependHead, parse_eq_readSettled, List.cons_append,
    List.nil_append, readSettled_letterToken hletter hkind hne hletters,
    readSettled_letter hletter hkind hne hdash]

/-- Any other value in the token of its letter makes that token the first trailing one: the line
says what the empty line says. -/
theorem parseKnown_attached_of_text (hletter : Flag.ofShort? letter = some flag)
    (hne : value ≠ []) (htext : ¬ ∀ c ∈ value, (Flag.ofShort? c).isSome)
    (environment : List (String × String)) (program : String) (rest : List String) :
    parseKnown environment (program :: letterToken letter value :: rest) =
      (parse environment []).map fun line =>
        { line with rest := letterToken letter value :: (divide rest).arrange } := by
  have hempty : readSettled ⟨[], none⟩ [] = .ok ([], []) := rfl
  simp only [parseKnown, split_cons, List.tail_cons, divide_letterToken hletter hne,
    arrange_prependHead, parse_eq_readSettled, List.cons_append, List.nil_append,
    readSettled_letterToken_of_text hletter htext, hempty, bind, Except.bind]
  cases withVariables environment [] <;> rfl

/-- The place of a value behind a letter makes no difference exactly where the value is made of
letters of flags, or where the line is refused in any case: the empty line is refused, and so, for
a fault of the same sort, is the line with the value in the next token. -/
theorem parseKnown_attached_same_iff (hletter : Flag.ofShort? letter = some flag)
    (hkind : flag.takesValue = true) (hne : value ≠ []) (hdash : value.head? ≠ some '-')
    (environment : List (String × String)) (program : String) (rest : List String) :
    SameResult (parseKnown environment (program :: letterToken letter value :: rest))
        (parseKnown environment
          (program :: letterToken letter [] :: String.ofList value :: rest)) ↔
      (∀ c ∈ value, (Flag.ofShort? c).isSome) ∨
        ∃ error, parse environment [] = .error error ∧
          SameResult (.error error) (parseKnown environment
            (program :: letterToken letter [] :: String.ofList value :: rest)) := by
  by_cases hletters : ∀ c ∈ value, (Flag.ofShort? c).isSome
  · have hsame := parseKnown_attached_of_letters hletter hkind hne hdash hletters environment
      program rest
    rw [hsame]
    exact ⟨fun _ => .inl hletters, fun _ => sameResult_refl _⟩
  · rw [parseKnown_attached_of_text hletter hne hletters]
    cases hempty : parse environment [] with
    | error error => simp [hletters, Except.map]
    | ok line =>
      simp only [hletters, false_or, reduceCtorEq, false_and, exists_false, iff_false]
      intro hsame
      -- the line with the value in its token has more trailing tokens than the other line can have
      cases hseparate : parseKnown environment
          (program :: letterToken letter [] :: String.ofList value :: rest) with
      | error error =>
        rw [hseparate] at hsame
        exact not_sameResult_ok_error _ error hsame
      | ok other =>
        rw [hseparate] at hsame
        simp only [parseKnown, split_cons, List.tail_cons, divide_letter hletter hkind,
          arrange_prependHead] at hseparate
        obtain ⟨settled, trailing, all, hread, -, rfl⟩ := parse_eq_ok_iff.mp hseparate
        rw [List.cons_append, List.cons_append, List.nil_append,
          readSettled_letter hletter hkind hne hdash] at hread
        have hlength := length_rest_of_readSettled hread
        have hrest := congrArg CommandLine.rest (eq_of_sameResult_ok hsame)
        simp only [ofGiven] at hrest
        rw [← hrest, List.length_cons] at hlength
        exact absurd hlength (Nat.not_succ_le_self _)

end Values

/-- The dump may not stand in the token of its letter, unless it has a name like `q`. -/
theorem parseKnown_attached_dump :
    Flag.ofShort? 'd' = some .dump ∧ Flag.takesValue .dump = true ∧
      ¬ SameResult (parseKnown [] ["compiledump", "-ddump.zip"])
        (parseKnown [] ["compiledump", "-d", "dump.zip"]) ∧
      SameResult (parseKnown [] ["compiledump", "-dq"]) (parseKnown [] ["compiledump", "-d", "q"]) := by
  have hletter : Flag.ofShort? 'd' = some .dump := by decide
  have hempty : ∃ line, parse [] [] = .ok line := ⟨_, rfl⟩
  have htext := @parseKnown_attached_same_iff 'd' .dump "dump.zip".toList hletter rfl (by decide)
    (by decide) [] "compiledump" []
  have hword := @parseKnown_attached_same_iff 'd' .dump ['q'] hletter rfl (by decide) (by decide) []
    "compiledump" []
  have hquiet : ∀ c ∈ ['q'], (Flag.ofShort? c).isSome := by
    intro c hc
    obtain rfl := List.mem_singleton.mp hc
    decide
  refine ⟨hletter, rfl, ?_, hword.mpr (.inl hquiet)⟩
  intro hsame
  rcases htext.mp hsame with hletters | ⟨error, herror, -⟩
  · have hdot : '.' ∈ "dump.zip".toList := by decide
    exact absurd (hletters '.' hdot) (by decide)
  · obtain ⟨line, hline⟩ := hempty
    rw [hline] at herror
    exact absurd herror (by simp)

end DumpReplay.CommandLine
