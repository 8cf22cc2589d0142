import DumpReplay.Proofs.Toolchain.Expansion
import DumpReplay.Toolchain.Settings

/-!
# Scanning for placeholders

A scan takes the placeholders of a text from the left.  Each is the one that starts first in what the
ones before it have left of the text, and the scan ends where none is left.  What is scanned is the text
as it was given, so that values which are put in have no part in it.

Main results:

- `placeholder?_eq_some_iff` : what is read as a placeholder at the start of a text.
- `Scanned.unique`, `scanned_placeholderNames` : a text has one scan, which gives the names that are
  looked for.
- `expand_eq_error_iff` : the names that are reported, if there are any.
- `expand_fails_iff_unset` : when a text cannot be expanded, and what is reported then.
-/

namespace DumpReplay.Toolchain

variable {text after name : List Char} {names : List (List Char)}
variable {environment : List (String × String)} {content : String}

/-! ## Placeholders -/

/-- A placeholder has a name of at least one character, and without a closing brace. -/
structure IsVariable (name : List Char) : Prop where
  /-- There is a character. -/
  ne_nil : name ≠ []
  /-- None of them is a closing brace. -/
  brace_not_mem : '\x7d' ∉ name

/-- What is read at the start of a text is a dollar sign and a name in braces. -/
theorem placeholder?_eq_some_iff :
    placeholder? text = some (name, after) ↔
      IsVariable name ∧ text = placeholderOf name ++ after := by
  constructor
  · intro h
    obtain ⟨htext, hbrace⟩ := eq_append_of_placeholder? h
    refine ⟨⟨?_, hbrace⟩, htext⟩
    rintro rfl
    rw [htext] at h
    exact absurd h (by simp [placeholder?, placeholderOf, Text.cutFirst])
  · rintro ⟨hname, rfl⟩
    have hcut : Text.cutFirst '\x7d' (name ++ '\x7d' :: after) = some (name, after) :=
      Text.cutFirst_eq_some_iff.mpr ⟨rfl, hname.brace_not_mem⟩
    obtain ⟨c, rest, rfl⟩ := List.exists_cons_of_ne_nil hname.ne_nil
    have htext : placeholderOf (c :: rest) ++ after =
        '$' :: '\x7b' :: (c :: rest ++ '\x7d' :: after) := by simp [placeholderOf]
    rw [htext, placeholder?, hcut]

/-- Nothing is read at the start of a text exactly if no placeholder stands there. -/
theorem placeholder?_eq_none_iff :
    placeholder? text = none ↔ ∀ name, IsVariable name → ¬placeholderOf name <+: text := by
  constructor
  · rintro h name hname ⟨after, htext⟩
    rw [placeholder?_eq_some_iff.mpr ⟨hname, htext.symm⟩] at h
    exact absurd h (by simp)
  · intro h
    cases hread : placeholder? text with
    | none => rfl
    | some found =>
      obtain ⟨hname, htext⟩ := placeholder?_eq_some_iff.mp hread
      exact absurd ⟨found.2, htext.symm⟩ (h found.1 hname)

/-! ## Scans -/

/-- The names of the placeholders of a text, from the left and without overlaps. -/
inductive Scanned : List Char → List (List Char) → Prop where
  /-- No placeholder is left. -/
  | done {text : List Char} (hfree : ∀ name, IsVariable name → ¬placeholderOf name <:+: text) :
      Scanned text []
  /-- A placeholder is taken before which no other one starts, and the scan goes on behind it. -/
  | next {before name after : List Char} {names : List (List Char)} (hname : IsVariable name)
      (hfirst : ∀ front other back, IsVariable other →
        before ++ placeholderOf name ++ after = front ++ placeholderOf other ++ back →
        before.length ≤ front.length)
      (hafter : Scanned after names) :
      Scanned (before ++ placeholderOf name ++ after) (name :: names)

/-- A character at which no placeholder starts is passed over. -/
theorem Scanned.cons {c : Char} (hnone : placeholder? (c :: text) = none) (h : Scanned text names) :
    Scanned (c :: text) names := by
  rw [placeholder?_eq_none_iff] at hnone
  cases h with
  | done hfree =>
    refine .done fun name hname hread => ?_
    rcases List.infix_cons_iff.mp hread with hstart | hlater
    · exact hnone name hname hstart
    · exact hfree name hname hlater
  | @next before name after names hname hfirst hafter =>
    refine @Scanned.next (c :: before) name after names hname (fun front other back hother hsame => ?_)
      hafter
    cases front with
    | nil => exact absurd ⟨back, hsame.symm⟩ (hnone other hother)
    | cons d front =>
      have hshorter := hfirst front other back hother (List.cons.inj hsame).2
      exact Nat.succ_le_succ hshorter

/-- The names that are looked for are those of a scan. -/
theorem scanned_placeholderNames (text : List Char) : Scanned text (placeholderNames text) := by
  induction text using segments.induct with
  | case1 =>
    rw [placeholderNames]
    exact .done fun name _ hread => by simp [placeholderOf] at hread
  | case2 c rest name after hread ih =>
    obtain ⟨hname, htext⟩ := placeholder?_eq_some_iff.mp hread
    rw [placeholderNames_of_placeholder hread, htext]
    exact @Scanned.next [] name after _ hname (fun _ _ _ _ _ => Nat.zero_le _) ih
  | case3 c rest hnone ih =>
    rw [placeholderNames_of_literal hnone]
    exact ih.cons hnone

/-- A text has one scan only. -/
theorem Scanned.unique {others : List (List Char)} (h : Scanned text names)
    (hother : Scanned text others) : others = names := by
  induction h generalizing others with
  | done hfree =>
    cases hother with
    | done => rfl
    | next hname => exact absurd ⟨_, _, rfl⟩ (hfree _ hname)
  | @next before name after names hname hfirst hafter ih =>
    generalize hsame : before ++ placeholderOf name ++ after = text at hother
    cases hother with
    | done hfree => exact absurd ⟨_, _, hsame⟩ (hfree _ hname)
    | @next before' name' after' others hname' hfirst' hafter' =>
      -- neither placeholder starts before the other one
      have hlength : before.length = before'.length :=
        Nat.le_antisymm (hfirst _ _ _ hname' hsame) (hfirst' _ _ _ hname hsame.symm)
      rw [List.append_assoc, List.append_assoc] at hsame
      obtain ⟨-, hrest⟩ := List.append_inj hsame hlength
      have hnames : name = name' := by
        have hopening := eq_of_append_brace (brace_not_mem_opening hname.brace_not_mem)
          (brace_not_mem_opening hname'.brace_not_mem)
          (by simpa [placeholderOf] using hrest)
        simpa using hopening
      subst hnames
      obtain rfl := List.append_cancel_left hrest
      rw [ih hafter']

/-! ## Names that are reported -/

/-- The names that are reported are those of the placeholders without a value, in the order in which the
placeholders stand, and a text is expanded exactly if there are none. -/
theorem expand_eq_error_iff (h : Scanned content.toList names) {missing : List String} :
    expand environment content = .error missing ↔
      (∃ name ∈ names, valueOf? environment name = none) ∧
        missing =
          (names.filter fun name => (valueOf? environment name).isNone).map String.ofList := by
  obtain rfl := h.unique (scanned_placeholderNames content.toList)
  have hempty : (unsetNames environment content.toList).isEmpty = false ↔
      ∃ name ∈ placeholderNames content.toList, valueOf? environment name = none := by
    rw [unsetNames, List.isEmpty_eq_false_iff_exists_mem]
    simp only [List.mem_filter, Option.isNone_iff_eq_none]
  rw [← hempty, ← unsetNames]
  cases hunset : (unsetNames environment content.toList).isEmpty with
  | true => simp [expand, hunset]
  | false => simp [expand, hunset, eq_comm]

/-- Settings that cannot be expanded are refused with the names of the variables that are not set. -/
theorem ofSettings_of_expand_error {home : Option String} {missing : List String}
    (h : expand environment content = .error missing) :
    ofSettings environment home content = .error (.configuration (.unsetVariables missing)) := by
  rw [ofSettings, h]

/-- A text has one scan for placeholders, whatever the environment is.  It cannot be expanded exactly if a
placeholder of the scan has no value.  Then the names of all of those are reported, in the order of the
text and once for each time they occur, whatever the values of the others are.  A text without placeholders
is left as it is. -/
theorem expand_fails_iff_unset (content : String) :
    ∃ names, Scanned content.toList names ∧
      (∀ others, Scanned content.toList others → others = names) ∧
      (∀ environment, (∃ missing, expand environment content = .error missing) ↔
        ∃ name ∈ names, valueOf? environment name = none) ∧
      (∀ environment missing, expand environment content = .error missing →
        missing = (names.filter fun name => (valueOf? environment name).isNone).map String.ofList ∧
        ∀ home, ∃ failure, ofSettings environment home content = .error failure ∧
          failure.message = "Configuration error: Missing environment variables: " ++
            String.intercalate ", " missing) ∧
      (∀ environment values,
        (∀ name ∈ names, valueOf? values name = none ↔ valueOf? environment name = none) →
        ∀ missing, expand values content = .error missing ↔
          expand environment content = .error missing) ∧
      (names = [] → ∀ environment, expand environment content = .ok content) := by
  have hscan := scanned_placeholderNames content.toList
  refine ⟨_, hscan, fun others => hscan.unique, ?_, ?_, ?_, ?_⟩
  · intro environment
    simp only [expand_eq_error_iff hscan, exists_and_left, exists_eq, and_true]
  · intro environment missing h
    exact ⟨((expand_eq_error_iff hscan).mp h).2, fun home => ⟨_, ofSettings_of_expand_error h, rfl⟩⟩
  · intro environment values hsame missing
    have hfilter : ((placeholderNames content.toList).filter fun name =>
          (valueOf? values name).isNone) =
        (placeholderNames content.toList).filter fun name =>
          (valueOf? environment name).isNone :=
      List.filter_congr fun name hname => by
        rw [Bool.eq_iff_iff, Option.isNone_iff_eq_none, Option.isNone_iff_eq_none, hsame name hname]
    have hexists : (∃ name ∈ placeholderNames content.toList, valueOf? values name = none) ↔
        ∃ name ∈ placeholderNames content.toList, valueOf? environment name = none :=
      exists_congr fun name => and_congr_right (hsame name)
    rw [expand_eq_error_iff hscan, expand_eq_error_iff hscan, hfilter, hexists]
  · exact fun hnone environment => expand_of_names_eq_nil hnone

/-- Empty braces are no placeholder, an opening brace may stand in a name, and a placeholder in a value
is not looked at. -/
example : expand [("B", "$\x7bC\x7d")] "$\x7bA\x7d-$\x7b\x7d$\x7bB\x7d$\x7b$\x7bA\x7d" =
    .error ["A", "$\x7bA"] := by cbv

end DumpReplay.Toolchain
