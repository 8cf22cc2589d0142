/-!
# White space

The characters with the Unicode property `White_Space`, and the two operations on text that depend
on it: dropping blanks at the ends and cutting text into words.

Main results:

- `trim_eq_nil_iff` : trimming leaves nothing exactly when every character is blank.
-/

namespace DumpReplay.Text

/-! ## The property -/

/-- Whether a character has the Unicode property `White_Space`. -/
def isBlank (c : Char) : Bool :=
  let n := c.toNat
  (9 ≤ n && n ≤ 13) || n == 0x20 || n == 0x85 || n == 0xA0 || n == 0x1680
    || (0x2000 ≤ n && n ≤ 0x200A) || n == 0x2028 || n == 0x2029 || n == 0x202F || n == 0x205F
    || n == 0x3000

/-! ## Trimming -/

/-- Drop the blanks at the start of a text. -/
def trimStart (text : List Char) : List Char :=
  text.dropWhile isBlank

/-- Drop the blanks at the end of a text. -/
def trimEnd (text : List Char) : List Char :=
  (text.reverse.dropWhile isBlank).reverse

/-- Drop the blanks at both ends of a text. -/
def trim (text : List Char) : List Char :=
  trimEnd (trimStart text)

theorem dropWhile_eq_nil_iff_all {p : Char → Bool} {text : List Char} :
    text.dropWhile p = [] ↔ text.all p = true := by
  induction text with
  | nil => simp
  | cons c cs ih =>
    by_cases h : p c <;> simp [List.dropWhile, h, ih]

/-- Trimming leaves nothing exactly when every character is blank. -/
theorem trim_eq_nil_iff {text : List Char} : trim text = [] ↔ text.all isBlank = true := by
  have key : ∀ (l : List Char), l.dropWhile isBlank = [] ∨
      ∃ c cs, l.dropWhile isBlank = c :: cs ∧ isBlank c = false := by
    intro l
    induction l with
    | nil => simp
    | cons c cs ih =>
      by_cases h : isBlank c
      · simpa [List.dropWhile, h] using ih
      · simp [List.dropWhile, h]
  unfold trim trimEnd trimStart
  rw [List.reverse_eq_nil_iff, dropWhile_eq_nil_iff_all, ← @dropWhile_eq_nil_iff_all isBlank text]
  rcases key text with h | ⟨c, cs, h, hc⟩
  · simp [h]
  · simp [h, hc]

/-! ## Words -/

/-- Cut a text into its maximal runs of characters that are not blank, given the run read so far. -/
def wordsFrom (run : List Char) : List Char → List (List Char)
  | [] => if run.isEmpty then [] else [run.reverse]
  | c :: cs =>
    if isBlank c then
      if run.isEmpty then wordsFrom [] cs else run.reverse :: wordsFrom [] cs
    else wordsFrom (c :: run) cs

/-- The maximal runs of characters that are not blank, in order. -/
def words (text : List Char) : List (List Char) :=
  wordsFrom [] text

end DumpReplay.Text
