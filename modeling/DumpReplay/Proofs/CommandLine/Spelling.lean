import DumpReplay.CommandLine.Reading

/-!
# Two views of a flag

A token is looked at twice: once to tell the flags from the other tokens, and once to read the
line.  For a flag that is spelled out, or spelled out with a value behind an equals sign, the two
views agree.

Main results:

- `recognize?_of_spelled`, `classify_of_spelled` : what a flag is in the two views.
- `recognize?_attached`, `classify_attached` : the same for a flag with a value in its token.
-/

namespace DumpReplay.CommandLine

namespace Flag

/-! ## Names -/

/-- A flag that is found by a name has it as its long name or as its alias. -/
theorem long_or_alias_of_ofLong? {name : String} {flag : Flag} (h : ofLong? name = some flag) :
    flag.long = name ∨ flag.alias? = some name := by
  have hfound := List.find?_some h
  simpa using hfound

/-- The names of flags are not empty and hold no equals sign. -/
theorem long_wellFormed (flag : Flag) : flag.long ≠ "" ∧ '=' ∉ flag.long.toList := by
  cases flag <;> decide

/-- The aliases of flags are not empty and hold no equals sign. -/
theorem alias_wellFormed {flag : Flag} {name : String} (h : flag.alias? = some name) :
    name ≠ "" ∧ '=' ∉ name.toList := by
  cases flag <;> simp only [alias?, reduceCtorEq, Option.some.injEq] at h
  subst h
  decide

/-- A name that leads to a flag is not empty and holds no equals sign. -/
theorem wellFormed_of_ofLong? {name : List Char} {flag : Flag}
    (h : ofLong? (String.ofList name) = some flag) : name ≠ [] ∧ '=' ∉ name := by
  have hname : String.ofList name ≠ "" ∧ '=' ∉ (String.ofList name).toList := by
    rcases long_or_alias_of_ofLong? h with hlong | halias
    · rw [← hlong]
      exact long_wellFormed flag
    · exact alias_wellFormed halias
  exact ⟨fun hnil => hname.1 (by rw [hnil]), by simpa using hname.2⟩

/-- No flag has the equals sign or the dash for its letter. -/
theorem ofShort?_equals_dash : ofShort? '=' = none ∧ ofShort? '-' = none := by
  decide

/-! ## Spelled out -/

/-- What a token that spells a flag looks like. -/
theorem spelled?_cases {token : List Char} {flag : Flag} (h : spelled? token = some flag) :
    (∃ name, token = '-' :: '-' :: name ∧ ofLong? (String.ofList name) = some flag) ∨
      ∃ letter, token = ['-', letter] ∧ ofShort? letter = some flag := by
  unfold spelled? at h
  split at h
  · exact .inl ⟨_, rfl, h⟩
  · exact .inr ⟨_, rfl, h⟩
  · exact absurd h (by simp)

/-- A token that spells a flag holds no equals sign. -/
theorem equals_not_mem_of_spelled {token : List Char} {flag : Flag}
    (h : spelled? token = some flag) : '=' ∉ token := by
  rcases spelled?_cases h with ⟨name, rfl, hname⟩ | ⟨letter, rfl, hletter⟩
  · have hfree := (wellFormed_of_ofLong? hname).2
    simp [hfree]
  · have hne : letter ≠ '=' := by
      rintro rfl
      rw [ofShort?_equals_dash.1] at hletter
      exact absurd hletter (by simp)
    simp [hne.symm]

/-- The separator spells no flag. -/
theorem spelled?_separator : spelled? ['-', '-'] = none := by
  decide

/-- A token that spells a flag is not the separator. -/
theorem ne_separator_of_spelled {token : String} {flag : Flag}
    (h : spelled? token.toList = some flag) : token ≠ "--" := by
  rintro rfl
  exact absurd (spelled?_separator.symm.trans h) (by simp)

/-- A flag that is spelled out is recognised, without a value in its token. -/
theorem recognize?_of_spelled {token : String} {flag : Flag}
    (h : spelled? token.toList = some flag) : recognize? token = some ⟨flag, false⟩ := by
  have hcut := Text.cutFirst_eq_none_iff.mpr (equals_not_mem_of_spelled h)
  simp [recognize?, hcut, h]

/-! ## With a value in the token -/

/-- The token of a long flag with a value behind an equals sign. -/
def attachedToken (name value : List Char) : String :=
  String.ofList ('-' :: '-' :: (name ++ '=' :: value))

/-- A long flag with a value behind an equals sign is recognised as such. -/
theorem recognize?_attached {name : List Char} {flag : Flag} (value : List Char)
    (h : ofLong? (String.ofList name) = some flag) :
    recognize? (attachedToken name value) = some ⟨flag, true⟩ := by
  have hfree := (wellFormed_of_ofLong? h).2
  have hcut : Text.cutFirst '=' (attachedToken name value).toList =
      some ('-' :: '-' :: name, value) := by
    rw [Text.cutFirst_eq_some_iff]
    simp [attachedToken, hfree]
  simp [recognize?, hcut, spelled?, h]

/-- A long flag with a value behind an equals sign is not the separator. -/
theorem attachedToken_ne_separator (name value : List Char) :
    attachedToken name value ≠ "--" := by
  intro h
  have hlist := congrArg String.toList h
  simp [attachedToken] at hlist

end Flag

/-! ## In its place -/

/-- What a flag that is spelled out is in its place. -/
theorem classify_of_spelled {token : String} {flag : Flag}
    (h : Flag.spelled? token.toList = some flag) :
    classify token = .long flag none ∨
      ∃ letter, classify token = .letters [letter] ∧ Flag.ofShort? letter = some flag := by
  rcases Flag.spelled?_cases h with ⟨name, htoken, hname⟩ | ⟨letter, htoken, hletter⟩
  · have hwell := Flag.wellFormed_of_ofLong? hname
    have hcut := Text.cutFirst_eq_none_iff.mpr hwell.2
    left
    cases name with
    | nil => exact absurd rfl hwell.1
    | cons c cs => simp only [classify, htoken, hcut, hname]
  · right
    have hdash : letter ≠ '-' := by
      rintro rfl
      rw [Flag.ofShort?_equals_dash.2] at hletter
      exact absurd hletter (by simp)
    refine ⟨letter, ?_, hletter⟩
    simp [classify, htoken, hletter, hdash]

/-- What a long flag with a value behind an equals sign is in its place. -/
theorem classify_attached {name : List Char} {flag : Flag} (value : List Char)
    (h : Flag.ofLong? (String.ofList name) = some flag) :
    classify (Flag.attachedToken name value) = .long flag (some (String.ofList value)) := by
  have hwell := Flag.wellFormed_of_ofLong? h
  have hcut : Text.cutFirst '=' (name ++ '=' :: value) = some (name, value) := by
    rw [Text.cutFirst_eq_some_iff]
    exact ⟨rfl, hwell.2⟩
  cases name with
  | nil => exact absurd rfl hwell.1
  | cons c cs =>
    rw [List.cons_append] at hcut
    simp only [classify, Flag.attachedToken, String.toList_ofList, List.cons_append, hcut, h]

/-- Letters of a token in its place: there is at least one, and each is the letter of a flag. -/
theorem letters_of_classify {token : String} {letters : List Char}
    (h : classify token = .letters letters) :
    ∃ letter rest flag, letters = letter :: rest ∧ Flag.ofShort? letter = some flag := by
  unfold classify at h
  split at h
  · exact absurd h (by simp)
  · split at h <;> split at h <;> exact absurd h (by simp)
  · rename_i letter rest _ _ _
    split at h
    · rename_i hall
      simp only [List.all_cons, Bool.and_eq_true, Option.isSome_iff_exists] at hall
      obtain ⟨flag, hflag⟩ := hall.1
      exact ⟨letter, rest, flag, by simpa using h.symm, hflag⟩
    · exact absurd h (by simp)
  · exact absurd h (by simp)

end DumpReplay.CommandLine
