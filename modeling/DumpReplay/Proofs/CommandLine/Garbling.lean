import DumpReplay.CommandLine.Splitting

/-!
# Splitting tokens that are no text

Splitting looks at a token only to see whether it is a flag or the separator.  A token that is no text is
neither, so that it goes where any text goes that is neither: to the value of a flag in front of it, or
behind the `--`.

Main results:

- `divideBy_map` : tokens that are changed without a change of their roles are divided alike.
- `splitRaw_texts` : a line that is all text is split as a line of texts.
- `split_readBy` : tokens that are no text are split like texts that are no flags.
-/

namespace DumpReplay.CommandLine

variable {α β : Type}

section Dividing

variable {role : α → Role} {token value : α} {recognized : Flag.Recognized}

theorem divideBy_cons (role : α → Role) (token : α) (rest : List α) :
    divideBy role (token :: rest) =
      match role token with
      | .separator => ([], rest)
      | .other => ((divideBy role rest).1, token :: (divideBy role rest).2)
      | .flag recognized =>
        if recognized.awaitsValue then
          match rest with
          | [] => ([token], [])
          | value :: rest => (token :: value :: (divideBy role rest).1, (divideBy role rest).2)
        else (token :: (divideBy role rest).1, (divideBy role rest).2) :=
  divideBy.eq_def role (token :: rest)

theorem divideBy_separator (rest : List α) (h : role token = .separator) :
    divideBy role (token :: rest) = ([], rest) := by
  rw [divideBy_cons]
  simp [h]

theorem divideBy_other (rest : List α) (h : role token = .other) :
    divideBy role (token :: rest) =
      ((divideBy role rest).1, token :: (divideBy role rest).2) := by
  rw [divideBy_cons]
  simp [h]

theorem divideBy_alone (rest : List α) (h : role token = .flag recognized)
    (hawaits : ¬recognized.awaitsValue = true) :
    divideBy role (token :: rest) =
      (token :: (divideBy role rest).1, (divideBy role rest).2) := by
  rw [divideBy_cons]
  simp [h, hawaits]

theorem divideBy_valued (rest : List α) (h : role token = .flag recognized)
    (hawaits : recognized.awaitsValue = true) :
    divideBy role (token :: value :: rest) =
      (token :: value :: (divideBy role rest).1, (divideBy role rest).2) := by
  rw [divideBy_cons]
  simp [h, hawaits]

theorem divideBy_open (h : role token = .flag recognized) (hawaits : recognized.awaitsValue = true) :
    divideBy role [token] = ([token], []) := by
  rw [divideBy_cons]
  simp [h, hawaits]

end Dividing

/-- Tokens that are changed without a change of their roles are divided alike. -/
theorem divideBy_map {role : α → Role} {role' : β → Role} {change : α → β}
    (hrole : ∀ token, role' (change token) = role token) (tokens : List α) :
    divideBy role' (tokens.map change) =
      ((divideBy role tokens).1.map change, (divideBy role tokens).2.map change) := by
  fun_induction divideBy role tokens with
  | case1 => rfl
  | case2 token rest hseparator =>
    exact divideBy_separator _ ((hrole token).trans hseparator)
  | case3 token rest hother ih =>
    rw [List.map_cons, divideBy_other _ ((hrole token).trans hother), ih, List.map_cons]
  | case4 token recognized hflag hawaits =>
    exact divideBy_open ((hrole token).trans hflag) hawaits
  | case5 token recognized hflag hawaits value rest ih =>
    rw [List.map_cons, List.map_cons, divideBy_valued _ ((hrole token).trans hflag) hawaits, ih,
      List.map_cons, List.map_cons]
  | case6 token rest recognized hflag hawaits ih =>
    rw [List.map_cons, divideBy_alone _ ((hrole token).trans hflag) hawaits, ih, List.map_cons]

theorem roleOf_of_recognized {text : String} {recognized : Flag.Recognized} (hne : text ≠ "--")
    (h : Flag.recognize? text = some recognized) : roleOf text = .flag recognized := by
  simp [roleOf, hne, h]

/-- Texts are divided by their roles. -/
theorem divide_eq_divideBy (args : List String) :
    divide args = ⟨(divideBy roleOf args).1, (divideBy roleOf args).2⟩ := by
  fun_induction divide args with
  | case1 => rfl
  | case2 rest => rw [divideBy_separator rest (if_pos rfl)]
  | case3 token rest hne hforeign ih =>
    have hother : roleOf token = .other := by simp [roleOf, hne, hforeign]
    rw [divideBy_other rest hother, ih, Split.prependTail]
  | case4 token hne recognized hrecognized hawaits =>
    rw [divideBy_open (roleOf_of_recognized hne hrecognized) hawaits]
  | case5 token hne recognized hrecognized hawaits value rest ih =>
    rw [divideBy_valued rest (roleOf_of_recognized hne hrecognized) hawaits, ih]
    rfl
  | case6 token rest hne recognized hrecognized hawaits ih =>
    rw [divideBy_alone rest (roleOf_of_recognized hne hrecognized) hawaits, ih]
    rfl

/-- Tokens that are changed without a change of their roles are split alike. -/
theorem splitBy_map {role : α → Role} {role' : β → Role} {change : α → β}
    (hrole : ∀ token, role' (change token) = role token) (separator : α) (line : List α) :
    splitBy role' (change separator) (line.map change) = (splitBy role separator line).map change := by
  cases line with
  | nil => rfl
  | cons program arguments =>
    simp only [List.map_cons, splitBy, divideBy_map hrole, List.isEmpty_map]
    split
    · rfl
    · rw [List.map_append, List.map_cons]

/-- A line of texts is split by the roles of its tokens. -/
theorem split_eq_splitBy (line : List String) : split line = splitBy roleOf "--" line := by
  cases line with
  | nil => rfl
  | cons program arguments => rw [split_cons, divide_eq_divideBy, Split.arrange, splitBy]

/-! ## Lines as the system passes them on -/

/-- A line that is all text is split as a line of texts. -/
theorem splitRaw_texts (line : List String) :
    splitRaw (line.map .text) = (split line).map .text := by
  rw [split_eq_splitBy]
  exact splitBy_map (fun _ => rfl) "--" line

/-- A token as a text, given texts in the place of those that are none. -/
def RawToken.readBy (standIn : ByteArray → String) : RawToken → String
  | .text content => content
  | .garbled bytes => standIn bytes

/-- Tokens that are no text are split like texts that are neither flags nor the separator. -/
theorem split_readBy {standIn : ByteArray → String} (hother : ∀ bytes, roleOf (standIn bytes) = .other)
    (line : List RawToken) :
    split (line.map (RawToken.readBy standIn)) = (splitRaw line).map (RawToken.readBy standIn) := by
  rw [split_eq_splitBy]
  refine splitBy_map (fun token => ?_) (.text "--") line
  cases token with
  | text content => rfl
  | garbled bytes => exact hother bytes

example : roleOf "x" = .other := rfl

end DumpReplay.CommandLine
