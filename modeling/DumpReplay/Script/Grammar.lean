/-!
# Scripts

The commands of a small shell language: simple commands with redirections, conditions, loops,
choices between patterns, groups and pipes.
-/

namespace DumpReplay.Script

/-! ## Words -/

/-- A part of a word. -/
inductive Part where
  /-- Characters that stand for themselves; quoted ones are never split and match only themselves. -/
  | text (characters : List Char) (quoted : Bool)
  /-- The value of a parameter. -/
  | parameter (name : String) (quoted : Bool)
  /-- The number of characters in the value of a parameter. -/
  | size (name : String) (quoted : Bool)
  /-- A text if a parameter is not set, else its value. -/
  | fallback (name : String) (emptyCounts : Bool) (text : List Char) (quoted : Bool)
  /-- A text if a parameter is set, else nothing. -/
  | substitute (name : String) (emptyCounts : Bool) (text : List Char) (quoted : Bool)
  /-- The value of an arithmetic expression. -/
  | number (expression : List Char) (quoted : Bool)
  /-- What a script writes. -/
  | output (script : List Char) (quoted : Bool)
deriving DecidableEq, Repr

/-- A word, as the parts that it is made of. -/
abbrev Word := List Part

/-- The characters of a word that is a single unquoted text. -/
def plainWord? : Word → Option String
  | parts =>
    if parts.all fun part => match part with
      | .text _ quoted => !quoted
      | _ => false
    then
      some (String.ofList (parts.flatMap fun part => match part with
        | .text characters _ => characters
        | _ => []))
    else none

/-! ## Commands -/

/-- What a redirection does with a descriptor. -/
inductive Direction where
  /-- Reads from a file. -/
  | input
  /-- Writes to a file, from its start. -/
  | output
  /-- Writes to a file, at its end. -/
  | append
  /-- Writes to where another descriptor writes. -/
  | same
deriving DecidableEq, Repr

/-- A redirection of a descriptor. -/
structure Redirection where
  /-- The descriptor. -/
  descriptor : Nat
  /-- What is done with it. -/
  direction : Direction
  /-- The file or the other descriptor. -/
  target : Word
deriving DecidableEq, Repr

/-- A simple command: assignments, words and redirections, with its line in the script. -/
structure Simple where
  /-- The line. -/
  line : Nat
  /-- The assignments before the words. -/
  assignments : List (String × Word)
  /-- The name of the command and its arguments. -/
  words : List Word
  /-- The redirections. -/
  redirections : List Redirection
deriving DecidableEq, Repr

/-- A command. -/
inductive Command where
  /-- A simple command. -/
  | simple (command : Simple)
  /-- The first body whose condition succeeds. -/
  | conditional (branches : List (List Command × List Command)) (otherwise : List Command)
  /-- A body for each of some words, or for each argument of the script. -/
  | forEach (name : String) (items : Option (List Word)) (body : List Command)
  /-- A body as long as a condition succeeds, or as long as it fails. -/
  | loop (expected : Bool) (condition body : List Command)
  /-- The first body with a pattern that a word matches. -/
  | choice (subject : Word) (arms : List (List Word × List Command))
  /-- Commands one after the other. -/
  | group (body : List Command)
  /-- Commands whose changes of variables are forgotten. -/
  | isolated (body : List Command)
  /-- A command with redirections. -/
  | redirected (command : Command) (redirections : List Redirection)
  /-- A second command if the first succeeds. -/
  | both (first second : Command)
  /-- A second command if the first fails. -/
  | either (first second : Command)
  /-- A command whose success and failure are exchanged. -/
  | negated (command : Command)
  /-- Two commands of which the second reads what the first writes. -/
  | piped (first second : Command)

end DumpReplay.Script
