import DumpReplay.Proofs.CommandLine.Interleaving

/-!
# Flag positions

A token stands in the position of a flag when no flag before it waits for a value and no separator
came before.  Splitting looks for flags in these positions only, and reading sees every token that
splitting keeps in front, but not always as the same thing: a letter with more text behind it is
kept in front, and read as a bundle of letters, as a value, or as the first trailing token.

Main results:

- `recognize?_of_classify_long`, `recognize?_of_classify_letters`, `classify_of_not_recognized` :
  what a token read in its place is for the splitting.
- `divide_append` : a line is divided where a flag may stand.
- `readsOn_alone`, `readsOn_valued` : what one recognised flag does to the reading.
- `readsOn_head` : what the recognised tokens of a line do to the reading.
-/

namespace DumpReplay.CommandLine

/-! ## From the reading to the splitting -/

namespace Flag

/-- A flag that is found by a letter has it. -/
theorem short?_of_ofShort? {letter : Char} {flag : Flag} (h : ofShort? letter = some flag) :
    flag.short? = some letter := by
  have hfound := List.find?_some h
  simpa using hfound

/-- No flag with a letter takes just anything for its value. -/
theorem takesAnything_of_ofShort? {letter : Char} {flag : Flag} (h : ofShort? letter = some flag) :
    flag.takesAnything = false := by
  have hshort := short?_of_ofShort? h
  cases flag <;> first | rfl | exact absurd hshort (by simp [short?])

/-- The dash is no letter of a flag. -/
theorem ne_dash_of_ofShort? {letter : Char} (h : (ofShort? letter).isSome) : letter ≠ '-' := by
  rintro rfl
  rw [ofShort?_equals_dash.2] at h
  exact absurd h (by simp)

/-- A letter behind a dash spells its flag. -/
theorem spelled?_letter {letter : Char} {flag : Flag} (h : ofShort? letter = some flag) :
    spelled? ['-', letter] = some flag := by
  have hdash : letter ≠ '-' := ne_dash_of_ofShort? (by simp [h])
  simp [spelled?, h]

/-- The separator is not recognised. -/
theorem recognize?_separator : recognize? "--" = none := by
  decide

/-- A token without a value of its own that is recognised spells its flag. -/
theorem spelled?_of_recognize? {token : String} {recognized : Recognized}
    (h : recognize? token = some recognized) (hattached : recognized.attached = false) :
    spelled? token.toList = some recognized.flag := by
  unfold recognize? at h
  cases hcut : Text.cutFirst '=' token.toList with
  | some cut =>
    simp only [hcut, Option.map_some, Option.getD_some, Option.isSome_some] at h
    split at h
    · simp only [Option.some.injEq] at h
      simp [← h] at hattached
    · obtain ⟨flag, -, hflag⟩ := Option.map_eq_some_iff.mp h
      simp [← hflag] at hattached
  | none =>
    simp only [hcut, Option.map_none, Option.getD_none, Option.isSome_none] at h
    split at h
    · rename_i flag hspelled
      simp only [Option.some.injEq] at h
      rw [hspelled, ← h]
    · obtain ⟨flag, -, hflag⟩ := Option.map_eq_some_iff.mp h
      simp [← hflag] at hattached

/-- A flag that awaits its value is spelled out, and takes one. -/
theorem spelled?_of_awaitsValue {token : String} {recognized : Recognized}
    (h : recognize? token = some recognized) (hawaits : recognized.awaitsValue = true) :
    spelled? token.toList = some recognized.flag ∧ recognized.flag.takesValue = true := by
  simp only [Recognized.awaitsValue, Bool.and_eq_true, Bool.not_eq_true'] at hawaits
  exact ⟨spelled?_of_recognize? h hawaits.2, hawaits.1⟩

end Flag

/-- Only the separator is read as the separator. -/
theorem eq_separator_of_classify {token : String} (h : classify token = .separator) :
    token = "--" := by
  unfold classify at h
  split at h
  · rename_i htoken
    rw [← String.ofList_toList (s := token), htoken]
  · split at h <;> split at h <;> exact absurd h (by simp)
  · split at h <;> exact absurd h (by simp)
  · exact absurd h (by simp)

/-- What a token that is read as a long flag looks like. -/
theorem toList_of_classify_long {token : String} {flag : Flag} {attached : Option String}
    (h : classify token = .long flag attached) :
    ∃ name, Flag.ofLong? (String.ofList name) = some flag ∧
      ((attached = none ∧ token.toList = '-' :: '-' :: name) ∨
        ∃ value, attached = some (String.ofList value) ∧
          token.toList = '-' :: '-' :: (name ++ '=' :: value)) := by
  unfold classify at h
  split at h
  · exact absurd h (by simp)
  · rename_i name _ htoken
    split at h
    · rename_i before after hcut
      split at h
      · rename_i found hfound
        simp only [Token.long.injEq] at h
        obtain ⟨rfl, rfl⟩ := h
        refine ⟨before, hfound, .inr ⟨after, rfl, ?_⟩⟩
        rw [htoken, (Text.cutFirst_eq_some_iff.mp hcut).1]
      · exact absurd h (by simp)
    · split at h
      · rename_i found hfound
        simp only [Token.long.injEq] at h
        obtain ⟨rfl, rfl⟩ := h
        exact ⟨name, hfound, .inl ⟨rfl, htoken⟩⟩
      · exact absurd h (by simp)
  · split at h <;> exact absurd h (by simp)
  · exact absurd h (by simp)

/-- A token that is read as a long flag is recognised as that flag. -/
theorem recognize?_of_classify_long {token : String} {flag : Flag} {attached : Option String}
    (h : classify token = .long flag attached) :
    Flag.recognize? token = some ⟨flag, attached.isSome⟩ := by
  obtain ⟨name, hname, ⟨rfl, htoken⟩ | ⟨value, rfl, htoken⟩⟩ := toList_of_classify_long h
  · apply Flag.recognize?_of_spelled
    rw [htoken]
    exact hname
  · have hattached : token = Flag.attachedToken name value := by
      rw [← String.ofList_toList (s := token), htoken, Flag.attachedToken]
    rw [hattached]
    exact Flag.recognize?_attached value hname

/-- What a token that is read as letters looks like. -/
theorem toList_of_classify_letters {token : String} {letters : List Char}
    (h : classify token = .letters letters) :
    token.toList = '-' :: letters ∧ ∀ letter ∈ letters, (Flag.ofShort? letter).isSome := by
  unfold classify at h
  split at h
  · exact absurd h (by simp)
  · split at h <;> split at h <;> exact absurd h (by simp)
  · rename_i letter rest _ _ htoken
    split at h
    · rename_i hall
      simp only [Token.letters.injEq] at h
      rw [← h]
      exact ⟨htoken, List.all_eq_true.mp hall⟩
    · exact absurd h (by simp)
  · exact absurd h (by simp)

/-- Letters of flags, with a dash before them, are read as letters. -/
theorem classify_letters {token : String} {letter : Char} {rest : List Char}
    (htoken : token.toList = '-' :: letter :: rest)
    (h : ∀ c ∈ letter :: rest, (Flag.ofShort? c).isSome) :
    classify token = .letters (letter :: rest) := by
  have hdash : letter ≠ '-' := Flag.ne_dash_of_ofShort? (h letter (by simp))
  have hall : (letter :: rest).all (fun c => (Flag.ofShort? c).isSome) = true :=
    List.all_eq_true.mpr h
  unfold classify
  rw [htoken]
  split
  · rename_i hlist
    exact absurd (List.cons.inj (List.cons.inj hlist).2).1 hdash
  · rename_i hlist
    exact absurd (List.cons.inj (List.cons.inj hlist).2).1 hdash
  · rename_i hlist
    rw [← (List.cons.inj hlist).2, if_pos hall]
  · rename_i hother
    exact absurd rfl (hother letter rest)

/-- A letter of a flag with more text behind it is recognised, as if the text were its value. -/
theorem recognize?_letter_text {token : String} {letter other : Char} {rest : List Char}
    {flag : Flag} (htoken : token.toList = '-' :: letter :: other :: rest)
    (hflag : Flag.ofShort? letter = some flag) :
    Flag.recognize? token = some ⟨flag, true⟩ := by
  have hdash : letter ≠ '-' := Flag.ne_dash_of_ofShort? (by simp [hflag])
  have hequals : letter ≠ '=' := by
    rintro rfl
    rw [Flag.ofShort?_equals_dash.1] at hflag
    exact absurd hflag (by simp)
  have hclustered : Flag.clustered? token.toList = some flag := by
    rw [htoken]
    simp [Flag.clustered?, hdash, hflag]
  have hspelled : ∀ c cs, Flag.spelled? ('-' :: letter :: c :: cs) = none := by
    intro c cs
    simp [Flag.spelled?, hdash]
  have hcut : Text.cutFirst '=' token.toList = (Text.cutFirst '=' (other :: rest)).map
      fun cut => ('-' :: letter :: cut.1, cut.2) := by
    rw [htoken, Text.cutFirst, if_neg (by decide), Text.cutFirst, if_neg hequals, Option.map_map]
    rfl
  unfold Flag.recognize?
  rw [hcut]
  cases Text.cutFirst '=' (other :: rest) with
  | none =>
    simp only [Option.map_none, Option.getD_none, htoken, hspelled]
    rw [← htoken, hclustered]
    rfl
  | some cut =>
    obtain ⟨before, after⟩ := cut
    cases before with
    | nil => simp [Flag.spelled?_letter hflag]
    | cons c cs => simp [hspelled, hclustered]

/-- A token that is read as letters is recognised. -/
theorem recognize?_of_classify_letters {token : String} {letters : List Char}
    (h : classify token = .letters letters) :
    ∃ recognized, Flag.recognize? token = some recognized := by
  obtain ⟨htoken, -⟩ := toList_of_classify_letters h
  obtain ⟨letter, rest, flag, rfl, hflag⟩ := letters_of_classify h
  cases rest with
  | nil =>
    refine ⟨⟨flag, false⟩, Flag.recognize?_of_spelled ?_⟩
    rw [htoken]
    exact Flag.spelled?_letter hflag
  | cons other rest => exact ⟨⟨flag, true⟩, recognize?_letter_text htoken hflag⟩

/-- A token that is neither the separator nor recognised is read as a value or a trailing token. -/
theorem classify_of_not_recognized {token : String} (hne : token ≠ "--")
    (h : Flag.recognize? token = none) : classify token = .plain := by
  cases hclass : classify token with
  | separator => exact absurd (eq_separator_of_classify hclass) hne
  | long flag attached =>
    rw [recognize?_of_classify_long hclass] at h
    exact absurd h (by simp)
  | letters letters =>
    obtain ⟨recognized, hrecognized⟩ := recognize?_of_classify_letters hclass
    rw [hrecognized] at h
    exact absurd h (by simp)
  | plain => rfl

/-! ## Positions of flags -/

/-- A token that is neither the separator nor recognised. -/
def IsForeign (token : String) : Prop :=
  token ≠ "--" ∧ Flag.recognize? token = none

/-- Tokens behind which a flag may stand: no separator stands among them in the position of a flag,
and every flag among them that takes its value from the next token has it. -/
inductive Complete : List String → Prop
  /-- The start of the line. -/
  | nil : Complete []
  /-- A token that is no flag, in front. -/
  | foreign {token : String} {rest : List String} (h : IsForeign token)
      (hrest : Complete rest) : Complete (token :: rest)
  /-- A flag that awaits no further token, in front. -/
  | alone {token : String} {recognized : Flag.Recognized} {rest : List String}
      (h : Flag.recognize? token = some recognized) (hawaits : recognized.awaitsValue = false)
      (hrest : Complete rest) : Complete (token :: rest)
  /-- A flag and its value, in front. -/
  | valued {token value : String} {recognized : Flag.Recognized} {rest : List String}
      (h : Flag.recognize? token = some recognized) (hawaits : recognized.awaitsValue = true)
      (hrest : Complete rest) : Complete (token :: value :: rest)

/-- A recognised token is not the separator. -/
theorem ne_separator_of_recognized {token : String} {recognized : Flag.Recognized}
    (h : Flag.recognize? token = some recognized) : token ≠ "--" := by
  rintro rfl
  rw [Flag.recognize?_separator] at h
  exact absurd h (by simp)

/-- A line is divided where a flag may stand. -/
theorem divide_append {args : List String} (h : Complete args) (rest : List String) :
    divide (args ++ rest) =
      ⟨(divide args).head ++ (divide rest).head, (divide args).tail ++ (divide rest).tail⟩ := by
  induction h with
  | nil => rfl
  | foreign h _ ih =>
    rw [List.cons_append, divide_unrecognized _ h.1 h.2, divide_unrecognized _ h.1 h.2, ih]
    rfl
  | alone h hawaits _ ih =>
    have hne := ne_separator_of_recognized h
    rw [List.cons_append, divide_alone _ hne h hawaits, divide_alone _ hne h hawaits, ih]
    simp [Split.prependHead]
  | valued h hawaits _ ih =>
    have hne := ne_separator_of_recognized h
    rw [List.cons_append, List.cons_append, divide_valued _ hne h hawaits,
      divide_valued _ hne h hawaits, ih]
    simp [Split.prependHead]

/-- Before a position of a flag, only tokens that are not recognised are moved. -/
theorem foreign_of_mem_tail {args : List String} (h : Complete args) :
    ∀ token ∈ (divide args).tail, IsForeign token := by
  induction h with
  | nil => exact fun _ hmem => absurd hmem (by simp [divide, Split.empty])
  | foreign h _ ih =>
    rw [divide_unrecognized _ h.1 h.2]
    intro token hmem
    rcases List.mem_cons.mp hmem with rfl | hmem
    · exact h
    · exact ih token hmem
  | alone h hawaits _ ih =>
    rw [divide_alone _ (ne_separator_of_recognized h) h hawaits]
    exact ih
  | valued h hawaits _ ih =>
    rw [divide_valued _ (ne_separator_of_recognized h) h hawaits]
    exact ih

/-- Tokens in front of a split stay in front when it is written in one line. -/
theorem arrange_prependHead (split : Split) (tokens : List String) :
    (split.prependHead tokens).arrange = tokens ++ split.arrange := by
  unfold Split.arrange Split.prependHead
  split <;> simp

/-- A recognised token is the first of those in front. -/
theorem head_of_recognized {token : String} {recognized : Flag.Recognized}
    (h : Flag.recognize? token = some recognized) (rest : List String) :
    ∃ others, (divide (token :: rest)).head = token :: others := by
  rw [divide_cons]
  simp only [ne_separator_of_recognized h, if_false, h]
  split
  · cases rest <;> exact ⟨_, rfl⟩
  · exact ⟨_, rfl⟩

/-- With a moved token, the tokens in front end at the separator. -/
theorem arrange_prependTail (split : Split) (token : String) :
    (split.prependTail token).arrange = split.head ++ "--" :: token :: split.tail := rfl

/-! ## Open bundles -/

/-- A bundle of at least two letters of which only the last belongs to a flag that takes a value:
the value is in the next token. -/
def IsOpenBundle (token : String) : Prop :=
  ∃ switches letter flag, token.toList = '-' :: (switches ++ [letter]) ∧ switches ≠ [] ∧
    (∀ c ∈ switches, ∃ other, Flag.ofShort? c = some other ∧ other.takesValue = false) ∧
    Flag.ofShort? letter = some flag ∧ flag.takesValue = true

/-- An open bundle is recognised as if it held a value. -/
theorem IsOpenBundle.recognized {token : String} (h : IsOpenBundle token) :
    ∃ recognized, Flag.recognize? token = some recognized ∧ recognized.awaitsValue = false := by
  obtain ⟨switches, letter, flag, htoken, hne, hswitches, -⟩ := h
  cases switches with
  | nil => exact absurd rfl hne
  | cons first others =>
    obtain ⟨other, hother, -⟩ := hswitches first (by simp)
    refine ⟨⟨other, true⟩, ?_, by simp [Flag.Recognized.awaitsValue]⟩
    cases others with
    | nil => exact recognize?_letter_text htoken hother
    | cons second others => exact recognize?_letter_text htoken hother

/-- Behind letters that are read, no flag awaits a value but the last of them. -/
theorem awaiting_of_readLetters {letters : List Char} {progress next : Progress}
    (hprogress : progress.awaiting = none) (h : readLetters progress letters = .ok next) {flag : Flag}
    (hflag : next.awaiting = some flag) :
    ∃ switches letter, letters = switches ++ [letter] ∧
      (∀ c ∈ switches, ∃ other, Flag.ofShort? c = some other ∧ other.takesValue = false) ∧
      Flag.ofShort? letter = some flag ∧ flag.takesValue = true := by
  induction letters generalizing progress with
  | nil =>
    simp only [readLetters, Except.ok.injEq] at h
    rw [← h, hprogress] at hflag
    exact absurd hflag (by simp)
  | cons letter rest ih =>
    unfold readLetters at h
    cases hletter : Flag.ofShort? letter with
    | none =>
      simp only [hletter, Except.ok.injEq] at h
      rw [← h, hprogress] at hflag
      exact absurd hflag (by simp)
    | some found =>
      simp only [hletter] at h
      cases hkind : found.takesValue with
      | true =>
        simp only [hkind, if_true] at h
        cases rest with
        | cons other rest =>
          rw [awaiting_of_settleWith h] at hflag
          exact absurd hflag (by simp)
        | nil =>
          simp only [List.isEmpty_nil, if_true, await, bind_eq_ok_iff, Except.ok.injEq] at h
          obtain ⟨given, -, rfl⟩ := h
          simp only [Progress.awaiting, Option.some.injEq] at hflag
          subst hflag
          exact ⟨[], letter, rfl, by simp, hletter, hkind⟩
      | false =>
        simp only [hkind, Bool.false_eq_true, if_false] at h
        split at h
        · exact absurd h (askHelp_ne_ok progress next)
        · obtain ⟨following, hsettle, hrest⟩ := bind_eq_ok_iff.mp h
          obtain ⟨switches, last, rfl, hswitches, hlast, hvalue⟩ :=
            ih (awaiting_of_settleWith hsettle) hrest
          refine ⟨letter :: switches, last, rfl, ?_, hlast, hvalue⟩
          intro c hc
          rcases List.mem_cons.mp hc with rfl | hc
          · exact ⟨found, hletter, hkind⟩
          · exact hswitches c hc

/-! ## Reading recognised tokens -/

/-- Whether the flag that waits, if there is one, looks at the next token before it takes it. -/
def Progress.Guarded (progress : Progress) : Prop :=
  ∀ flag, progress.awaiting = some flag → flag.takesAnything = false

/-- Where no flag waits, none takes just anything. -/
theorem Progress.guarded_of_awaiting_none {progress : Progress} (h : progress.awaiting = none) :
    progress.Guarded := by
  intro flag hflag
  rw [h] at hflag
  exact absurd hflag (by simp)

/-- The flag that waits is the one to be settled, and it has no value. -/
theorem eq_of_awaiting {progress : Progress} {flag : Flag} (h : progress.awaiting = some flag) :
    progress = ⟨progress.given, some (flag, none)⟩ := by
  obtain ⟨given, pending⟩ := progress
  unfold Progress.awaiting at h
  split at h
  · rename_i waiting hpending
    simp only [Option.some.injEq] at h
    simp only at hpending
    rw [hpending, h]
  · exact absurd h (by simp)

/-- One token, where the flag that waits looks at it first. -/
theorem readTokens_guarded {progress : Progress} (h : progress.Guarded) (token : String)
    (rest : List String) :
    readTokens progress (token :: rest) =
      match classify token with
      | .separator => .ok (progress, rest)
      | .long flag attached => do readTokens (← readLong progress flag attached) rest
      | .letters letters => do readTokens (← readLetters progress letters) rest
      | .plain =>
        match progress.awaiting with
        | some waiting => readTokens { progress with pending := some (waiting, some token) } rest
        | none => .ok (progress, token :: rest) := by
  rw [readTokens]
  cases hawaiting : progress.awaiting with
  | none => cases classify token <;> rfl
  | some waiting =>
    have hany := h waiting hawaiting
    cases classify token <;> simp [hany]

/-- A flag that waits looks at the next token, unless it takes just anything. -/
theorem guarded_of_waiting (given : Given) {waiting : Flag} (h : waiting.takesAnything = false) :
    (Progress.mk given (some (waiting, none))).Guarded := by
  intro flag hflag
  simp only [Progress.awaiting, Option.some.injEq] at hflag
  rw [← hflag, h]

/-- Where a flag waits for its value, the separator leaves it without one. -/
theorem readSettled_separator (given : Given) {waiting : Flag} (trailing : List String)
    (h : waiting.takesAnything = false) :
    readSettled ⟨given, some (waiting, none)⟩ ("--" :: trailing) =
      .error (.valueRequired waiting) := by
  have hclass : classify "--" = .separator := by decide
  rw [readSettled, readTokens_guarded (guarded_of_waiting given h), hclass]
  rfl

/-- What reading some tokens comes to, whatever follows them: a failure, a trailing token among
them, or progress with which the reading of what follows goes on; `awaits` says which flags may then
wait for a value. -/
inductive ReadsOn (awaits : Flag → Prop) (progress : Progress) (tokens : List String) : Prop
  /-- The tokens are refused. -/
  | refused (error : UsageError)
      (h : ∀ rest, readSettled progress (tokens ++ rest) = .error error)
  /-- One of the tokens is the first trailing one. -/
  | trailing (last : Progress) (first : String) (others : List String)
      (h : ∀ rest, readSettled progress (tokens ++ rest) =
        (settle last).map fun given => (given, first :: (others ++ rest)))
  /-- The tokens are read. -/
  | through (next : Progress) (hnext : ∀ flag, next.awaiting = some flag → awaits flag)
      (h : ∀ rest, readSettled progress (tokens ++ rest) = readSettled next rest)

/-- What is read in two parts is read. -/
theorem ReadsOn.append {awaits others : Flag → Prop} {progress : Progress}
    {tokens further : List String} (hfirst : ReadsOn awaits progress tokens)
    (hsecond : ∀ next : Progress, (∀ flag, next.awaiting = some flag → awaits flag) →
      ReadsOn others next further) :
    ReadsOn others progress (tokens ++ further) := by
  cases hfirst with
  | refused error h =>
    refine .refused error fun rest => ?_
    rw [List.append_assoc, h]
  | trailing last first remaining h =>
    refine .trailing last first (remaining ++ further) fun rest => ?_
    rw [List.append_assoc, h, List.append_assoc]
  | through next hnext h =>
    cases hsecond next hnext with
    | refused error h' =>
      refine .refused error fun rest => ?_
      rw [List.append_assoc, h, h']
    | trailing last first remaining h' =>
      refine .trailing last first remaining fun rest => ?_
      rw [List.append_assoc, h, h']
    | through last hlast h' =>
      refine .through last hlast fun rest => ?_
      rw [List.append_assoc, h, h']

/-- In a line without trailing tokens that is accepted, the tokens are read. -/
theorem ReadsOn.through_of_ok {awaits : Flag → Prop} {progress : Progress}
    {tokens rest : List String} {settled : Given} (h : ReadsOn awaits progress tokens)
    (haccepted : readSettled progress (tokens ++ rest) = .ok (settled, [])) :
    ∃ next : Progress, (∀ flag, next.awaiting = some flag → awaits flag) ∧
      ∀ rest, readSettled progress (tokens ++ rest) = readSettled next rest := by
  cases h with
  | refused error herror =>
    rw [herror] at haccepted
    exact absurd haccepted (by simp)
  | trailing last first others hread =>
    rw [hread] at haccepted
    obtain ⟨_, _, hrest⟩ := map_eq_ok_iff.mp haccepted
    exact absurd (congrArg Prod.snd hrest) (List.cons_ne_nil _ _)
  | through next hnext hread => exact ⟨next, hnext, hread⟩

/-- What is read without a flag waiting behind it is read. -/
theorem Reads.readsOn {progress : Progress} {tokens : List String} (h : Reads progress tokens)
    (awaits : Flag → Prop) : ReadsOn awaits progress tokens := by
  cases h with
  | refused error h => exact .refused error h
  | through next hnext h =>
    refine .through next (fun flag hflag => ?_) h
    rw [hnext] at hflag
    exact absurd hflag (by simp)

/-- A token that takes one step is read. -/
theorem readsOn_step {awaits : Flag → Prop} {progress : Progress} {token : String}
    {step : Except UsageError Progress}
    (hread : ∀ rest, readTokens progress (token :: rest) = (do readTokens (← step) rest))
    (hstep : ∀ next, step = .ok next → ∀ flag, next.awaiting = some flag → awaits flag) :
    ReadsOn awaits progress [token] := by
  cases h : step with
  | error error =>
    refine .refused error fun rest => readSettled_of_error ?_
    rw [List.singleton_append, hread, h]
    rfl
  | ok next =>
    refine .through next (hstep next h) fun rest => readSettled_congr ?_
    rw [List.singleton_append, hread, h]
    rfl

/-- Behind a token of letters that awaits no further token, a flag waits for its value only if the
token is an open bundle. -/
theorem isOpenBundle_of_readLetters {token : String} {recognized : Flag.Recognized}
    (h : Flag.recognize? token = some recognized) (hawaits : recognized.awaitsValue = false)
    {letters : List Char} (hclass : classify token = .letters letters) {progress next : Progress}
    (hread : readLetters progress letters = .ok next) {waiting : Flag}
    (hwaiting : next.awaiting = some waiting) :
    waiting.takesAnything = false ∧ IsOpenBundle token := by
  obtain ⟨htoken, -⟩ := toList_of_classify_letters hclass
  obtain ⟨letter, others, found, rfl, hfound⟩ := letters_of_classify hclass
  cases hpending : progress.awaiting with
  | some flag =>
    rw [eq_of_awaiting hpending, readLetters_awaiting progress.given flag others hfound] at hread
    exact absurd hread (by simp)
  | none =>
    obtain ⟨switches, last, hletters, hswitches, hlast, hkind⟩ :=
      awaiting_of_readLetters hpending hread hwaiting
    rw [hletters] at htoken
    refine ⟨Flag.takesAnything_of_ofShort? hlast, switches, last, waiting, htoken, ?_, hswitches,
      hlast, hkind⟩
    -- a single letter of a flag with a value would await it
    rintro rfl
    have hspelled : Flag.spelled? token.toList = some waiting := by
      rw [htoken]
      exact Flag.spelled?_letter hlast
    rw [Flag.recognize?_of_spelled hspelled, Option.some.injEq] at h
    simp [← h, Flag.Recognized.awaitsValue, hkind] at hawaits

/-- A flag that awaits no further token is refused, or read as a trailing token or as a value, or it
is read as flags; then a flag waits for its value only behind an open bundle. -/
theorem readsOn_alone {token : String} {recognized : Flag.Recognized} {progress : Progress}
    (h : Flag.recognize? token = some recognized) (hawaits : recognized.awaitsValue = false)
    (hprogress : progress.Guarded) :
    ReadsOn (fun flag => flag.takesAnything = false ∧ IsOpenBundle token) progress [token] := by
  have hread := readTokens_guarded hprogress token
  cases hclass : classify token with
  | separator => exact absurd (eq_separator_of_classify hclass) (ne_separator_of_recognized h)
  | long flag attached =>
    simp only [hclass] at hread
    refine readsOn_step hread fun next hnext waiting hwaiting => ?_
    have hrecognized := recognize?_of_classify_long hclass
    rw [h, Option.some.injEq] at hrecognized
    subst hrecognized
    rw [awaiting_of_readLong hnext hawaits] at hwaiting
    exact absurd hwaiting (by simp)
  | letters letters =>
    simp only [hclass] at hread
    exact readsOn_step hread fun next hnext waiting hwaiting =>
      isOpenBundle_of_readLetters h hawaits hclass hnext hwaiting
  | plain =>
    simp only [hclass] at hread
    cases hpending : progress.awaiting with
    | none =>
      refine .trailing progress token [] fun rest => ?_
      rw [List.singleton_append, readSettled, hread, hpending]
      cases hsettle : settle progress <;> simp [hsettle, bind, Except.bind, Except.map]
    | some waiting =>
      refine .through { progress with pending := some (waiting, some token) } ?_ fun rest => ?_
      · intro flag hflag
        exact absurd hflag (by simp [Progress.awaiting])
      · refine readSettled_congr ?_
        rw [List.singleton_append, hread, hpending]

/-- A flag that comes where the value of another one is awaited is refused. -/
theorem readSettled_spelled_awaiting {progress : Progress} (hprogress : progress.Guarded)
    {waiting : Flag} (hwaiting : progress.awaiting = some waiting) {token : String} {flag : Flag}
    (hspelled : Flag.spelled? token.toList = some flag) :
    ∃ error, ∀ rest, readSettled progress (token :: rest) = .error error := by
  have hread := readTokens_guarded hprogress token
  rw [eq_of_awaiting hwaiting] at hread ⊢
  rcases classify_of_spelled hspelled with hclass | ⟨letter, hclass, hletter⟩
  · obtain ⟨error, herror⟩ := readLong_awaiting progress.given waiting flag none
    refine ⟨error, fun rest => readSettled_of_error ?_⟩
    simp [hread, hclass, herror, bind, Except.bind]
  · have herror := readLetters_awaiting progress.given waiting [] hletter
    refine ⟨.valueRequired waiting, fun rest => readSettled_of_error ?_⟩
    simp [hread, hclass, herror, bind, Except.bind]

/-- A flag and its value are refused, or read so that no flag waits. -/
theorem readsOn_valued {token : String} {recognized : Flag.Recognized} {progress : Progress}
    (h : Flag.recognize? token = some recognized) (hawaits : recognized.awaitsValue = true)
    (hprogress : progress.Guarded) (value : String) (awaits : Flag → Prop) :
    ReadsOn awaits progress [token, value] := by
  obtain ⟨hspelled, hkind⟩ := Flag.spelled?_of_awaitsValue h hawaits
  cases hpending : progress.awaiting with
  | none => exact (reads_unit (.valued hspelled hkind value) hpending).readsOn awaits
  | some waiting =>
    obtain ⟨error, herror⟩ := readSettled_spelled_awaiting hprogress hpending hspelled
    exact .refused error fun rest => herror (value :: rest)

/-- The recognised tokens before a position of a flag are refused, or one of them is read as a
trailing token, or they are read, and the flag that then waits, if there is one, looks at the next
token before it takes it. -/
theorem readsOn_head {args : List String} (h : Complete args) {progress : Progress}
    (hprogress : progress.Guarded) :
    ReadsOn (fun flag => flag.takesAnything = false) progress (divide args).head := by
  induction h generalizing progress with
  | nil => exact .through progress hprogress fun _ => rfl
  | foreign h _ ih =>
    rw [divide_unrecognized _ h.1 h.2]
    exact ih hprogress
  | alone h hawaits _ ih =>
    rw [divide_alone _ (ne_separator_of_recognized h) h hawaits]
    refine (readsOn_alone h hawaits hprogress).append fun next hnext => ih ?_
    exact fun flag hflag => (hnext flag hflag).1
  | @valued token value _ _ h hawaits _ ih =>
    rw [divide_valued _ (ne_separator_of_recognized h) h hawaits]
    exact (readsOn_valued h hawaits hprogress value _).append fun next hnext => ih hnext

end DumpReplay.CommandLine
