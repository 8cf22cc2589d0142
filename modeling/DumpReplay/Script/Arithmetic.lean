/-!
# Arithmetic in scripts

Whole numbers, variables, and the usual operators in their usual order of precedence.  Every step
takes at least one symbol, so the number of symbols bounds the number of steps.
-/

namespace DumpReplay.Script.Arithmetic

/-! ## Symbols -/

/-- A symbol of an expression. -/
inductive Symbol where
  /-- A number. -/
  | number (value : Int)
  /-- An operator or parenthesis. -/
  | operator (text : String)
deriving DecidableEq, Repr

/-- The operators of two characters. -/
def longOperators : List (List Char) :=
  ["||", "&&", "==", "!=", "<=", ">="].map String.toList

/-- The value of a text of digits, in base eight if it starts with a zero. -/
def numberOf (digits : List Char) : Int :=
  let base := if digits.head? = some '0' then 8 else 10
  digits.foldl (fun value c => value * base + (c.toNat - 48 : Nat)) 0

/-- The symbols of a text; a name stands for the number that it is bound to. -/
def symbols (bound : String → Int) : Nat → List Char → Option (List Symbol)
  | 0, _ => none
  | _, [] => some []
  | fuel + 1, c :: rest =>
    if c = ' ' || c = '\t' || c = '\n' then symbols bound fuel rest
    else if c.isDigit then
      let digits := (c :: rest).takeWhile Char.isDigit
      (symbols bound fuel ((c :: rest).drop digits.length)).map (.number (numberOf digits) :: ·)
    else if c.isAlpha || c = '_' then
      let name := (c :: rest).takeWhile fun d => d.isAlphanum || d == '_'
      (symbols bound fuel ((c :: rest).drop name.length)).map
        (.number (bound (String.ofList name)) :: ·)
    else if longOperators.contains ((c :: rest).take 2) then
      (symbols bound fuel (rest.drop 1)).map (.operator (String.ofList ((c :: rest).take 2)) :: ·)
    else if "+-*/%<>!()".toList.contains c then
      (symbols bound fuel rest).map (.operator c.toString :: ·)
    else none

/-! ## Operators -/

/-- The operators between two operands, by precedence, those that bind least first. -/
def levels : List (List String) :=
  [["||"], ["&&"], ["==", "!="], ["<", ">", "<=", ">="], ["+", "-"], ["*", "/", "%"]]

/-- The number that stands for the truth of a condition. -/
def truth (condition : Bool) : Int :=
  if condition then 1 else 0

/-- The result of an operator; nothing divides by zero. -/
def result? (operator : String) (a b : Int) : Option Int :=
  match operator with
  | "||" => some (truth (a != 0 || b != 0))
  | "&&" => some (truth (a != 0 && b != 0))
  | "==" => some (truth (a == b))
  | "!=" => some (truth (a != b))
  | "<" => some (truth (a < b))
  | ">" => some (truth (a > b))
  | "<=" => some (truth (a ≤ b))
  | ">=" => some (truth (a ≥ b))
  | "+" => some (a + b)
  | "-" => some (a - b)
  | "*" => some (a * b)
  | "/" => if b = 0 then none else some (a.tdiv b)
  | "%" => if b = 0 then none else some (a.tmod b)
  | _ => none

/-! ## Evaluation -/

mutual

/-- The value of the operand that some symbols start with, and the symbols behind it. -/
def readOperand : Nat → List Symbol → Option (Int × List Symbol)
  | 0, _ => none
  | fuel + 1, symbols =>
    match symbols with
    | .number value :: rest => some (value, rest)
    | .operator "(" :: rest =>
      match readLevels fuel levels rest with
      | some (value, .operator ")" :: rest) => some (value, rest)
      | _ => none
    | .operator "-" :: rest => (readOperand fuel rest).map fun (value, rest) => (-value, rest)
    | .operator "+" :: rest => readOperand fuel rest
    | .operator "!" :: rest =>
      (readOperand fuel rest).map fun (value, rest) => (truth (value == 0), rest)
    | _ => none

/-- The value of what some symbols start with, with the operators of the given levels. -/
def readLevels : Nat → List (List String) → List Symbol → Option (Int × List Symbol)
  | 0, _, _ => none
  | fuel + 1, [], symbols => readOperand fuel symbols
  | fuel + 1, level :: tighter, symbols =>
    match readLevels fuel tighter symbols with
    | some (value, rest) => readMore fuel level tighter value rest
    | none => none

/-- Go on with a value as long as operators of a level follow. -/
def readMore : Nat → List String → List (List String) → Int → List Symbol →
    Option (Int × List Symbol)
  | 0, _, _, _, _ => none
  | fuel + 1, level, tighter, value, symbols =>
    match symbols with
    | .operator text :: rest =>
      if level.contains text then
        match readLevels fuel tighter rest with
        | some (operand, rest) =>
          match result? text value operand with
          | some value => readMore fuel level tighter value rest
          | none => none
        | none => none
      else some (value, symbols)
    | symbols => some (value, symbols)

end

/-- The value of an expression, if it has one. -/
def evaluate (bound : String → Int) (text : List Char) : Option Int :=
  match symbols bound (text.length + 1) text with
  | none => none
  | some symbols =>
    match readLevels (16 * symbols.length + 16) levels symbols with
    | some (value, []) => some value
    | _ => none

end DumpReplay.Script.Arithmetic
