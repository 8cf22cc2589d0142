import DumpReplay.CommandLine.Flag

/-!
# Splitting a command line

Tokens that are no flags of the library may stand anywhere.  Splitting moves them, in order, behind
one `--`, so that the flags and their values stand together in front.

The system may pass on tokens that are no text.  They are split like all others, but what comes behind
splitting reads texts, so that lines are lists of texts everywhere else.

Main results:

- `split_cons` : the program name stays first.
-/

namespace DumpReplay.CommandLine

/-- The two parts of a command line. -/
structure Split where
  /-- Recognised flags and their values. -/
  head : List String
  /-- All other tokens. -/
  tail : List String
deriving DecidableEq, Repr

namespace Split

/-- Nothing on either side. -/
def empty : Split :=
  ⟨[], []⟩

/-- Put tokens in front of the recognised ones. -/
def prependHead (split : Split) (tokens : List String) : Split :=
  ⟨tokens ++ split.head, split.tail⟩

/-- Put a token in front of the others. -/
def prependTail (split : Split) (token : String) : Split :=
  ⟨split.head, token :: split.tail⟩

end Split

/-- Whether the token behind a recognised flag is its value. -/
def Flag.Recognized.awaitsValue (recognized : Flag.Recognized) : Bool :=
  recognized.flag.takesValue && !recognized.attached

/-- Divide the tokens behind the program name.  The first `--` in the place of a flag ends the
search; it is dropped, and everything behind it belongs to the other tokens. -/
def divide : List String → Split
  | [] => .empty
  | token :: rest =>
    if token = "--" then ⟨[], rest⟩
    else
      match Flag.recognize? token with
      | none => (divide rest).prependTail token
      | some recognized =>
        if recognized.awaitsValue then
          match rest with
          | [] => ⟨[token], []⟩
          | value :: rest => (divide rest).prependHead [token, value]
        else (divide rest).prependHead [token]

theorem divide_cons (token : String) (rest : List String) :
    divide (token :: rest) =
      if token = "--" then ⟨[], rest⟩
      else
        match Flag.recognize? token with
        | none => (divide rest).prependTail token
        | some recognized =>
          if recognized.awaitsValue then
            match rest with
            | [] => ⟨[token], []⟩
            | value :: rest => (divide rest).prependHead [token, value]
          else (divide rest).prependHead [token] :=
  divide.eq_def (token :: rest)

/-- The separator ends the search. -/
theorem divide_separator (rest : List String) : divide ("--" :: rest) = ⟨[], rest⟩ := by
  rw [divide_cons, if_pos rfl]

/-- A token that is not recognised goes to the other tokens. -/
theorem divide_unrecognized {token : String} (rest : List String) (hne : token ≠ "--")
    (h : Flag.recognize? token = none) :
    divide (token :: rest) = (divide rest).prependTail token := by
  rw [divide_cons]
  simp [hne, h]

/-- A flag that awaits no value goes to the recognised tokens. -/
theorem divide_alone {token : String} {recognized : Flag.Recognized} (rest : List String)
    (hne : token ≠ "--") (h : Flag.recognize? token = some recognized)
    (hawaits : recognized.awaitsValue = false) :
    divide (token :: rest) = (divide rest).prependHead [token] := by
  rw [divide_cons]
  simp [hne, h, hawaits]

/-- A flag that awaits a value goes to the recognised tokens together with the next token. -/
theorem divide_valued {token value : String} {recognized : Flag.Recognized} (rest : List String)
    (hne : token ≠ "--") (h : Flag.recognize? token = some recognized)
    (hawaits : recognized.awaitsValue = true) :
    divide (token :: value :: rest) = (divide rest).prependHead [token, value] := by
  rw [divide_cons]
  simp [hne, h, hawaits]

/-- The two parts in one line, with `--` between them if there is a second part. -/
def Split.arrange (split : Split) : List String :=
  if split.tail.isEmpty then split.head else split.head ++ "--" :: split.tail

/-- Move every token that is neither a flag nor its value behind `--`.  The first token, the name of
the program, stays first. -/
def split : List String → List String
  | [] => []
  | program :: arguments => program :: (divide arguments).arrange

/-- The program name stays first. -/
@[simp] theorem split_cons (program : String) (arguments : List String) :
    split (program :: arguments) = program :: (divide arguments).arrange := rfl

/-! ## Tokens that may be no text -/

/-- A token as the system passes it on. -/
inductive RawToken where
  /-- A token that is a text. -/
  | text (text : String)
  /-- A token that is no text. -/
  | garbled (bytes : ByteArray)

/-- What a token is in the place of a flag. -/
inductive Role where
  /-- It ends the search for flags. -/
  | separator
  /-- It is recognised as a flag. -/
  | flag (recognized : Flag.Recognized)
  /-- It is neither. -/
  | other

/-- What a text is in the place of a flag. -/
def roleOf (text : String) : Role :=
  if text = "--" then .separator
  else (Flag.recognize? text).elim .other .flag

/-- What a token is in the place of a flag; one that is no text is never a flag. -/
def RawToken.role : RawToken → Role
  | .text content => roleOf content
  | .garbled _ => .other

/-- Divide the tokens behind the program name, given what each is in the place of a flag: the flags with
their values, and the others. -/
def divideBy {α : Type} (role : α → Role) : List α → List α × List α
  | [] => ([], [])
  | token :: rest =>
    match role token with
    | .separator => ([], rest)
    | .other => ((divideBy role rest).1, token :: (divideBy role rest).2)
    | .flag recognized =>
      if recognized.awaitsValue then
        match rest with
        | [] => ([token], [])
        | value :: rest => (token :: value :: (divideBy role rest).1, (divideBy role rest).2)
      else (token :: (divideBy role rest).1, (divideBy role rest).2)

/-- Move every token that is neither a flag nor its value behind a separator, given what each token is
in the place of a flag. -/
def splitBy {α : Type} (role : α → Role) (separator : α) : List α → List α
  | [] => []
  | program :: arguments =>
    let (head, tail) := divideBy role arguments
    program :: if tail.isEmpty then head else head ++ separator :: tail

/-- Split a line as the system passes it on. -/
def splitRaw (line : List RawToken) : List RawToken :=
  splitBy RawToken.role (.text "--") line

end DumpReplay.CommandLine
