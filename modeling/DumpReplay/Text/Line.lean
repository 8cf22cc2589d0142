/-!
# Lines, cuts and replacement

Plain text operations on lists of characters: lines with and without their ends, the cut at a
first or last separator, the search for a text inside another, and its replacement everywhere.

Main results:

- `flatten_pieces` : the pieces of a text, each with its line end, join to the text.
- `cutFirst_eq_some_iff` : a cut at the first separator gives back the text it was made from.
- `afterStart_eq_some_iff` : what is left behind the start of a text.
- `occursIn_iff` : the search finds a text exactly where it is an infix.
-/

namespace DumpReplay.Text

/-! ## Lines -/

/-- Cut a text after every line feed; the last piece may lack one. -/
def pieces : List Char → List (List Char)
  | [] => []
  | c :: cs =>
    if c = '\n' then [c] :: pieces cs
    else
      match pieces cs with
      | [] => [[c]]
      | p :: ps => (c :: p) :: ps

/-- The pieces of a text join to the text. -/
@[simp] theorem flatten_pieces (text : List Char) : (pieces text).flatten = text := by
  induction text with
  | nil => rfl
  | cons c cs ih =>
    unfold pieces
    split
    · simp_all
    · split <;> rename_i h <;> simp_all

/-- A piece without its line feed and, before that, one carriage return. -/
def withoutEnd (piece : List Char) : List Char :=
  match piece.reverse with
  | '\n' :: '\r' :: rest => rest.reverse
  | '\n' :: rest => rest.reverse
  | _ => piece

/-- The lines of a text, each without the line feed or carriage return and line feed that ends it. -/
def lines (text : List Char) : List (List Char) :=
  (pieces text).map withoutEnd

/-- Drop every line feed and carriage return at the end of a text. -/
def chompAll (text : List Char) : List Char :=
  (text.reverse.dropWhile fun c => c == '\n' || c == '\r').reverse

/-! ## Cuts -/

/-- The texts before and after the first occurrence of a separator. -/
def cutFirst (separator : Char) : List Char → Option (List Char × List Char)
  | [] => none
  | c :: cs =>
    if c = separator then some ([], cs)
    else (cutFirst separator cs).map fun (before, after) => (c :: before, after)

/-- The texts before and after the last occurrence of a separator. -/
def cutLast (separator : Char) (text : List Char) : Option (List Char × List Char) :=
  (cutFirst separator text.reverse).map fun (after, before) => (before.reverse, after.reverse)

/-- A cut at the first separator gives back the text it was made from. -/
theorem cutFirst_eq_some_iff {separator : Char} {text before after : List Char} :
    cutFirst separator text = some (before, after) ↔
      text = before ++ separator :: after ∧ separator ∉ before := by
  induction text generalizing before with
  | nil => simp [cutFirst]
  | cons c cs ih =>
    by_cases hc : c = separator
    · subst hc
      cases before <;> simp [cutFirst, eq_comm]
      grind
    · cases before with
      | nil => simp [cutFirst, hc]
      | cons b bs =>
        simp only [cutFirst, hc, if_false, Option.map_eq_some_iff, Prod.exists, Prod.mk.injEq,
          List.cons.injEq, List.cons_append, List.mem_cons, not_or]
        constructor
        · rintro ⟨x, y, hxy, ⟨rfl, rfl⟩, rfl⟩
          have := ih.1 hxy
          grind
        · rintro ⟨⟨rfl, h⟩, hb, hn⟩
          exact ⟨bs, after, ih.2 ⟨h, hn⟩, ⟨rfl, rfl⟩, rfl⟩

/-- A text is not cut exactly if it does not have the separator. -/
theorem cutFirst_eq_none_iff {separator : Char} {text : List Char} :
    cutFirst separator text = none ↔ separator ∉ text := by
  induction text with
  | nil => simp [cutFirst]
  | cons c cs ih =>
    by_cases hc : c = separator
    · simp [cutFirst, hc]
    · simp [cutFirst, hc, ih, Ne.symm hc]

/-! ## Search and replacement -/

/-- The text after a given beginning, if the text has it. -/
def afterStart : List Char → List Char → Option (List Char)
  | [], text => some text
  | _ :: _, [] => none
  | w :: ws, c :: cs => if w = c then afterStart ws cs else none

/-- Whether a text occurs inside another. -/
def occursIn (wanted : List Char) : List Char → Bool
  | [] => wanted.isEmpty
  | c :: cs => (afterStart wanted (c :: cs)).isSome || occursIn wanted cs

/-- A text has a beginning exactly if the beginning is one of its prefixes. -/
theorem isSome_afterStart_iff {wanted text : List Char} :
    (afterStart wanted text).isSome ↔ wanted <+: text := by
  induction wanted generalizing text with
  | nil => simp [afterStart]
  | cons w ws ih =>
    cases text with
    | nil => simp [afterStart]
    | cons c cs =>
      by_cases hc : w = c
      · simp [afterStart, hc, ih, List.cons_prefix_cons]
      · simp [afterStart, hc, List.cons_prefix_cons]

/-- What is left behind a beginning is the text without the beginning. -/
theorem afterStart_eq_some_iff {wanted text rest : List Char} :
    afterStart wanted text = some rest ↔ text = wanted ++ rest := by
  induction wanted generalizing text with
  | nil => simp [afterStart, eq_comm]
  | cons w ws ih =>
    cases text with
    | nil => simp [afterStart]
    | cons c cs =>
      by_cases hc : w = c
      · simp [afterStart, hc, ih]
      · simp [afterStart, hc, Ne.symm hc]

/-- A text occurs inside another exactly if it is one of its infixes. -/
theorem occursIn_iff {wanted text : List Char} : occursIn wanted text = true ↔ wanted <:+: text := by
  induction text with
  | nil => simp [occursIn]
  | cons c cs ih => rw [occursIn, Bool.or_eq_true, isSome_afterStart_iff, ih, List.infix_cons_iff]

/-- Replace every occurrence of a text, from the left and without overlaps; `skip` counts the
characters of an occurrence that are still to be passed over. -/
def replaceFrom (wanted replacement : List Char) : Nat → List Char → List Char
  | _, [] => []
  | skip + 1, _ :: cs => replaceFrom wanted replacement skip cs
  | 0, c :: cs =>
    if (afterStart wanted (c :: cs)).isSome then
      replacement ++ replaceFrom wanted replacement (wanted.length - 1) cs
    else c :: replaceFrom wanted replacement 0 cs

/-- Replace every occurrence of a text that is not empty, from the left and without overlaps. -/
def replaceAll (wanted replacement text : List Char) : List Char :=
  replaceFrom wanted replacement 0 text

/-- Whether a text ends with another. -/
def endsWith (ending text : List Char) : Bool :=
  (afterStart ending.reverse text.reverse).isSome

/-- A text ends with another exactly if that one is one of its suffixes. -/
theorem endsWith_iff {ending text : List Char} : endsWith ending text = true ↔ ending <:+ text := by
  rw [endsWith, isSome_afterStart_iff, List.reverse_prefix]

/-! ## Case of the basic letters -/

/-- Equality of two texts that takes the basic Latin letters without regard to case. -/
def equalIgnoringCase (a b : List Char) : Bool :=
  a.map Char.toLower == b.map Char.toLower

end DumpReplay.Text
