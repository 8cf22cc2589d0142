import DumpReplay.Proofs.CommandLine.MissingValue
import DumpReplay.Proofs.CommandLine.Sorting

/-!
# Splitting again

A line that was split consists of flags with their values and, behind one separator, of all other
tokens.  Splitting it again finds the same flags and the same separator, and changes nothing.  Only
where the line ends with a flag that lacks its value, and tokens were moved behind it, is the separator
that splitting put in taken for the value, and another one is put in.

Main results:

- `ending` : the three ways in which a line can end.
- `divide_arrange` : a line that was split, and does not end with a flag that lacks its value, is
  divided into the same parts again.
- `split_split_of_lacksValue` : what splitting again does to the other lines.
- `split_split_eq_iff` : which lines are split once and for all.
-/

namespace DumpReplay.CommandLine

variable {args before front tail : List String}

/-! ## Ends of lines -/

/-- A line ends with a flag that awaits its value. -/
def LacksValue (args : List String) : Prop :=
  ∃ before token recognized, args = before ++ [token] ∧ Complete before ∧
    Flag.recognize? token = some recognized ∧ recognized.awaitsValue = true

/-- How the search for flags ends. -/
inductive Ending (args : List String) : Prop
  /-- A flag might stand behind the last token. -/
  | complete (h : Complete args)
  /-- A separator ends the search. -/
  | separated (before after : List String) (hargs : args = before ++ "--" :: after)
      (h : Complete before)
  /-- The last token is a flag that awaits its value. -/
  | lacking (h : LacksValue args)

/-- Tokens behind which a flag may stand do not change how the search ends behind them. -/
theorem Ending.prepend (hfront : Complete front) (h : Ending args) : Ending (front ++ args) := by
  cases h with
  | complete h => exact .complete (hfront.append_iff.mpr h)
  | separated before after hargs h =>
    refine .separated (front ++ before) after ?_ (hfront.append_iff.mpr h)
    rw [hargs, List.append_assoc]
  | lacking h =>
    obtain ⟨before, token, recognized, hargs, hbefore, hrecognized⟩ := h
    refine .lacking ⟨front ++ before, token, recognized, ?_, hfront.append_iff.mpr hbefore,
      hrecognized⟩
    rw [hargs, List.append_assoc]

/-- The search for flags ends in one of the three ways. -/
theorem ending (args : List String) : Ending args := by
  fun_induction divide args with
  | case1 => exact .complete .nil
  | case2 rest => exact .separated [] rest rfl .nil
  | case3 token rest hne hunknown ih => exact ih.prepend (.foreign ⟨hne, hunknown⟩ .nil)
  | case4 token hne recognized h hawaits =>
    exact .lacking ⟨[], token, recognized, rfl, .nil, h, hawaits⟩
  | case5 token hne recognized h hawaits value rest ih =>
    exact ih.prepend (.valued h hawaits .nil)
  | case6 token rest hne recognized h hawaits ih =>
    exact ih.prepend (.alone h (by simpa using hawaits) .nil)

/-! ## Dividing what was split -/

/-- The flags of a line with their values stay in front when they are divided again. -/
theorem Complete.divide_head_append (h : Complete before) (rest : List String) :
    divide ((divide before).head ++ rest) = (divide rest).prependHead (divide before).head := by
  induction h with
  | nil => rfl
  | foreign h _ ih =>
    rw [divide_unrecognized _ h.1 h.2]
    exact ih
  | alone h hawaits _ ih =>
    have hne := ne_separator_of_recognized h
    rw [divide_alone _ hne h hawaits, Split.prependHead, List.append_assoc, List.singleton_append,
      divide_alone _ hne h hawaits, ih]
    rfl
  | valued h hawaits _ ih =>
    have hne := ne_separator_of_recognized h
    rw [divide_valued _ hne h hawaits, Split.prependHead, List.append_assoc, List.cons_append,
      List.singleton_append, divide_valued _ hne h hawaits, ih]
    rfl

/-- Behind a separator, nothing is taken for a flag. -/
theorem divide_arrange_tail (tail : List String) :
    divide (Split.arrange ⟨[], tail⟩) = ⟨[], tail⟩ := by
  cases tail with
  | nil => rfl
  | cons first others => exact divide_separator (first :: others)

/-- Flags with their values and, behind a separator, any other tokens are divided into these two
parts. -/
theorem Complete.divide_arrange_head (h : Complete before) (tail : List String) :
    divide (Split.arrange ⟨(divide before).head, tail⟩) = ⟨(divide before).head, tail⟩ := by
  have harrange := arrange_prependHead ⟨[], tail⟩ (divide before).head
  rw [Split.prependHead, List.append_nil] at harrange
  rw [harrange, h.divide_head_append, divide_arrange_tail, Split.prependHead, List.append_nil]

/-- A line that was split, and does not end with a flag that lacks its value, is divided into the same
parts again. -/
theorem divide_arrange (h : ¬ LacksValue args) : divide (divide args).arrange = divide args := by
  cases ending args with
  | complete hcomplete => exact hcomplete.divide_arrange_head _
  | separated before after hargs hbefore =>
    have hdivide : divide args = ⟨(divide before).head, (divide before).tail ++ after⟩ := by
      rw [hargs, divide_append hbefore, divide_separator, List.append_nil]
    rw [hdivide]
    exact hbefore.divide_arrange_head _
  | lacking hlacks => exact absurd hlacks h

/-! ## A flag that lacks its value -/

/-- Tokens that are no flags are all moved. -/
theorem divide_foreign (h : ∀ token ∈ tail, IsForeign token) : divide tail = ⟨[], tail⟩ := by
  induction tail with
  | nil => rfl
  | cons token tail ih =>
    obtain ⟨htoken, hrest⟩ := List.forall_mem_cons.mp h
    rw [divide_unrecognized _ htoken.1 htoken.2, ih hrest]
    rfl

/-- A flag that lacks its value is found again, where nothing was moved behind it. -/
theorem divide_arrange_of_tail_eq_nil (h : LacksValue args) (htail : (divide args).tail = []) :
    divide (divide args).arrange = divide args := by
  obtain ⟨before, token, recognized, rfl, hbefore, hrecognized, hawaits⟩ := h
  obtain ⟨hspelled, hkind⟩ := Flag.spelled?_of_awaitsValue hrecognized hawaits
  have hdivide := divide_open hbefore hspelled hkind
  have halone : divide [token] = ⟨[token], []⟩ := divide_open .nil hspelled hkind
  have hnone : (divide before).tail = [] := by
    rwa [hdivide] at htail
  rw [hdivide, hnone, arrange_prependHead, hbefore.divide_head_append]
  exact congrArg (Split.prependHead · _) halone

/-- Where a flag lacks its value and tokens were moved behind it, the separator between them becomes the
value. -/
theorem divide_arrange_of_lacksValue (h : LacksValue args) (htail : (divide args).tail ≠ []) :
    divide (divide args).arrange = ⟨(divide args).head ++ ["--"], (divide args).tail⟩ := by
  obtain ⟨before, token, recognized, rfl, hbefore, hrecognized, hawaits⟩ := h
  obtain ⟨hspelled, hkind⟩ := Flag.spelled?_of_awaitsValue hrecognized hawaits
  have hforeign := foreign_of_mem_tail hbefore
  rw [divide_open hbefore hspelled hkind] at htail ⊢
  rw [arrange_prependHead, hbefore.divide_head_append]
  generalize (divide before).tail = tail at htail hforeign ⊢
  cases tail with
  | nil => exact absurd rfl htail
  | cons first others =>
    have hvalued : divide (token :: "--" :: first :: others) =
        (divide (first :: others)).prependHead [token, "--"] :=
      divide_valued _ (ne_separator_of_recognized hrecognized) hrecognized hawaits
    have harrange : Split.arrange ⟨[token], first :: others⟩ = token :: "--" :: first :: others :=
      rfl
    rw [harrange, hvalued, divide_foreign hforeign]
    simp [Split.prependHead]

/-! ## Whole lines -/

/-- Where a flag lacks its value and tokens were moved behind it, splitting again puts one more separator
between them. -/
theorem split_split_of_lacksValue (program : String) (h : LacksValue args)
    (htail : (divide args).tail ≠ []) :
    split (split (program :: args)) =
      program :: ((divide args).head ++ "--" :: "--" :: (divide args).tail) := by
  rw [split_cons, split_cons, divide_arrange_of_lacksValue h htail]
  simp [Split.arrange, htail]

/-- Splitting a line again changes nothing, unless the line ends with a flag that lacks its value and
some token was moved behind it; and then it does change the line. -/
theorem split_split_eq_iff (line : List String) :
    split (split line) = split line ↔
      ¬ (LacksValue line.tail ∧ (divide line.tail).tail ≠ []) := by
  cases line with
  | nil =>
    have hnone : (divide []).tail = [] := rfl
    exact iff_of_true rfl fun h => h.2 hnone
  | cons program args =>
    rw [List.tail_cons]
    constructor
    · rintro hsame ⟨hlacks, htail⟩
      rw [split_split_of_lacksValue program hlacks htail, split_cons] at hsame
      have hlength := congrArg List.length hsame
      simp [Split.arrange, htail] at hlength
    · intro h
      rw [split_cons, split_cons]
      by_cases hlacks : LacksValue args
      · have htail : (divide args).tail = [] := by
          by_contra htail
          exact h ⟨hlacks, htail⟩
        rw [divide_arrange_of_tail_eq_nil hlacks htail]
      · rw [divide_arrange hlacks]

/-- The value that `-d` lacks is taken from the separator, and splitting puts in another one. -/
example : split ["compiledump", "a", "-d"] = ["compiledump", "-d", "--", "a"] ∧
    split ["compiledump", "-d", "--", "a"] = ["compiledump", "-d", "--", "--", "a"] := by
  decide

end DumpReplay.CommandLine
