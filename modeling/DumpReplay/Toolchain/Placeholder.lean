import DumpReplay.Text.Line

/-!
# Placeholders

A placeholder is a dollar sign with a name in braces.  Expanding a text takes its placeholders from
the left and puts the value of each variable in place of every occurrence of the placeholder in the
text as it then stands.

Main results:

- `expand_of_names_eq_nil` : a text without placeholders is unchanged.
-/

namespace DumpReplay.Toolchain

open Text

/-! ## Finding placeholders -/

/-- The name of a placeholder that a text starts with, and what follows the placeholder. -/
def placeholder? : List Char → Option (List Char × List Char)
  | '$' :: '\x7b' :: rest =>
    match cutFirst '\x7d' rest with
    | some ([], _) => none
    | some (name, after) => some (name, after)
    | none => none
  | _ => none

theorem length_lt_of_placeholder? {text name after : List Char}
    (h : placeholder? text = some (name, after)) : after.length < text.length := by
  unfold placeholder? at h
  split at h
  · split at h
    · simp at h
    · rename_i rest name' after' _ hcut
      obtain ⟨rfl, rfl⟩ : name' = name ∧ after' = after := by simpa using h
      have := (cutFirst_eq_some_iff.1 hcut).1
      subst this
      simp only [List.length_cons, List.length_append]
      omega
    · simp at h
  · simp at h

/-- The names of the placeholders of a text, from the left and without overlaps. -/
def placeholderNames : List Char → List (List Char)
  | [] => []
  | c :: rest =>
    match _h : placeholder? (c :: rest) with
    | some (name, after) => name :: placeholderNames after
    | none => placeholderNames rest
termination_by text => text.length
decreasing_by
  · exact length_lt_of_placeholder? _h
  · simp

/-- The placeholder with a given name. -/
def placeholderOf (name : List Char) : List Char :=
  '$' :: '\x7b' :: name ++ ['\x7d']

/-! ## Expanding -/

/-- The value of a variable. -/
def valueOf? (environment : List (String × String)) (name : List Char) : Option String :=
  environment.lookup (String.ofList name)

/-- The names of the placeholders whose variables are not set, once for each occurrence. -/
def unsetNames (environment : List (String × String)) (text : List Char) : List (List Char) :=
  (placeholderNames text).filter fun name => (valueOf? environment name).isNone

/-- Put the value of a variable in place of its placeholder, everywhere in a text. -/
def substitute (environment : List (String × String)) (text name : List Char) : List Char :=
  match valueOf? environment name with
  | some value => replaceAll (placeholderOf name) value.toList text
  | none => text

/-- Substitute the placeholders of a text, one after the other. -/
def substituteAll (environment : List (String × String)) (text : List Char) : List Char :=
  (placeholderNames text).foldl (substitute environment) text

/-- Expand the placeholders of a text, or give the names of those whose variables are not set. -/
def expand (environment : List (String × String)) (text : String) : Except (List String) String :=
  let unset := unsetNames environment text.toList
  if unset.isEmpty then .ok (String.ofList (substituteAll environment text.toList))
  else .error (unset.map String.ofList)

/-- A text without placeholders is unchanged. -/
theorem expand_of_names_eq_nil {environment : List (String × String)} {text : String}
    (h : placeholderNames text.toList = []) : expand environment text = .ok text := by
  simp [expand, unsetNames, substituteAll, h]

end DumpReplay.Toolchain
