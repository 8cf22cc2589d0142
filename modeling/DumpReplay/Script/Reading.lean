import DumpReplay.Script.Grammar

/-!
# Reading scripts

A script is cut into words and operators, and these are put together to commands.  Every step takes
at least one character or token, so the length of the script bounds the number of steps.
-/

namespace DumpReplay.Script

/-! ## Tokens -/

/-- A token of a script. -/
inductive Token where
  /-- A word, with its line. -/
  | word (word : Word) (line : Nat)
  /-- An operator between commands. -/
  | operator (text : String)
  /-- A redirection of a descriptor, whose target follows. -/
  | redirect (descriptor : Nat) (direction : Direction)
deriving DecidableEq, Repr

/-- Whether a character ends a word. -/
def endsWord (c : Char) : Bool :=
  " \t\n;&|()<>".toList.contains c

/-- Whether a character can be part of the name of a parameter. -/
def isNameCharacter (c : Char) : Bool :=
  c.isAlphanum || c == '_'

/-- The text up to the parenthesis that closes the one before it, and what follows. -/
def upToParenthesis : Nat → Nat → List Char → Option (List Char × List Char)
  | 0, _, _ => none
  | _, _, [] => none
  | fuel + 1, depth, c :: rest =>
    if c = ')' && depth = 0 then some ([], rest)
    else
      let quotedUpTo := fun (quote : Char) =>
        let inside := rest.takeWhile (· ≠ quote)
        (upToParenthesis fuel depth (rest.drop (inside.length + 1))).map fun (text, rest) =>
          (c :: inside ++ quote :: text, rest)
      if c = '\x27' || c = '\x22' then quotedUpTo c
      else
        let depth := if c = '(' then depth + 1 else if c = ')' then depth - 1 else depth
        (upToParenthesis fuel depth rest).map fun (text, rest) => (c :: text, rest)

/-- The part of a word that stands in braces behind a dollar sign. -/
def readBraces (quoted : Bool) (content : List Char) : Part :=
  match content with
  | '#' :: name@(_ :: _) => .size (String.ofList name) quoted
  | content =>
    let name := content.takeWhile isNameCharacter
    let nameText := String.ofList name
    match content.drop name.length with
    | ':' :: '-' :: text => .fallback nameText true text quoted
    | '-' :: text => .fallback nameText false text quoted
    | ':' :: '+' :: text => .substitute nameText true text quoted
    | '+' :: text => .substitute nameText false text quoted
    | _ => .parameter (String.ofList content) quoted

/-- The part of a word that stands in parentheses behind a dollar sign: an expression, if it is all
in a second pair of parentheses, else a script. -/
def readInside (quoted : Bool) (inside : List Char) : Part :=
  match inside with
  | '(' :: rest =>
    match upToParenthesis (rest.length + 1) 0 rest with
    | some (expression, []) => .number expression quoted
    | _ => .output inside quoted
  | _ => .output inside quoted

/-- The part of a word that follows a dollar sign. -/
def readDollar (quoted : Bool) (rest : List Char) : Part × List Char :=
  match rest with
  | '(' :: rest' =>
    match upToParenthesis (rest'.length + 1) 0 rest' with
    | some (inside, rest) => (readInside quoted inside, rest)
    | none => (.text ['$'] quoted, rest)
  | '\x7b' :: rest' =>
    let content := rest'.takeWhile (· ≠ '\x7d')
    (readBraces quoted content, rest'.drop (content.length + 1))
  | c :: rest' =>
    if "@*#?$!-".toList.contains c || c.isDigit then (.parameter c.toString quoted, rest')
    else if isNameCharacter c then
      let name := rest.takeWhile isNameCharacter
      (.parameter (String.ofList name) quoted, rest.drop name.length)
    else (.text ['$'] quoted, rest)
  | [] => (.text ['$'] quoted, [])

/-- Read up to the closing double quote, given the parts before, the last one first. -/
def readDouble : Nat → List Part → List Char → List Part × List Char
  | 0, parts, rest => (parts, rest)
  | _, parts, [] => (parts, [])
  | fuel + 1, parts, c :: rest =>
    if c = '\x22' then (.text [] true :: parts, rest)
    else if c = '$' then
      let (part, rest) := readDollar true rest
      readDouble fuel (part :: parts) rest
    else if c = '\x60' then
      let script := rest.takeWhile (· ≠ '\x60')
      readDouble fuel (.output script true :: parts) (rest.drop (script.length + 1))
    else if c = '\\' then
      match rest with
      | '\n' :: rest => readDouble fuel parts rest
      | d :: rest =>
        if "$\x60\x22\\".toList.contains d then readDouble fuel (.text [d] true :: parts) rest
        else readDouble fuel (.text [c, d] true :: parts) rest
      | [] => (.text [c] true :: parts, [])
    else readDouble fuel (.text [c] true :: parts) rest

/-- The parts of a text that stands as if between double quotes. -/
def partsOf (text : List Char) : List Part :=
  (readDouble (text.length + 1) [] text).1.reverse

/-- Read up to the end of a word, given the parts before, the last one first. -/
def readWord : Nat → List Part → List Char → Word × List Char
  | 0, parts, rest => (parts.reverse, rest)
  | _, parts, [] => (parts.reverse, [])
  | fuel + 1, parts, c :: rest =>
    if endsWord c then (parts.reverse, c :: rest)
    else if c = '\\' then
      match rest with
      | '\n' :: rest => readWord fuel parts rest
      | d :: rest => readWord fuel (.text [d] true :: parts) rest
      | [] => ((.text [c] true :: parts).reverse, [])
    else if c = '\x27' then
      let text := rest.takeWhile (· ≠ '\x27')
      readWord fuel (.text text true :: parts) (rest.drop (text.length + 1))
    else if c = '\x22' then
      let (parts, rest) := readDouble fuel parts rest
      readWord fuel parts rest
    else if c = '$' then
      let (part, rest) := readDollar false rest
      readWord fuel (part :: parts) rest
    else if c = '\x60' then
      let script := rest.takeWhile (· ≠ '\x60')
      readWord fuel (.output script false :: parts) (rest.drop (script.length + 1))
    else readWord fuel (.text [c] false :: parts) rest

/-- The redirection or operator that a text starts with, and what follows. -/
def readOperator? : List Char → Option (Token × List Char)
  | '>' :: '>' :: rest => some (.redirect 1 .append, rest)
  | '>' :: '&' :: rest => some (.redirect 1 .same, rest)
  | '>' :: rest => some (.redirect 1 .output, rest)
  | '<' :: rest => some (.redirect 0 .input, rest)
  | '&' :: '&' :: rest => some (.operator "&&", rest)
  | '|' :: '|' :: rest => some (.operator "||", rest)
  | ';' :: ';' :: rest => some (.operator ";;", rest)
  | '\n' :: rest => some (.operator "\n", rest)
  | ';' :: rest => some (.operator ";", rest)
  | '&' :: rest => some (.operator "&", rest)
  | '|' :: rest => some (.operator "|", rest)
  | '(' :: rest => some (.operator "(", rest)
  | ')' :: rest => some (.operator ")", rest)
  | _ => none

/-- The tokens of a script, from a line on. -/
def tokens : Nat → Nat → List Char → List Token
  | 0, _, _ => []
  | _, _, [] => []
  | fuel + 1, line, c :: rest =>
    if c = ' ' || c = '\t' then tokens fuel line rest
    else if c = '#' then tokens fuel line (rest.dropWhile (· ≠ '\n'))
    else if c = '\\' && rest.head? = some '\n' then tokens fuel (line + 1) (rest.drop 1)
    else
      match readOperator? (c :: rest) with
      | some (token, rest) =>
        token :: tokens fuel (if token = .operator "\n" then line + 1 else line) rest
      | none =>
        let redirect := if c.isDigit then readOperator? rest else none
        match redirect with
        | some (.redirect _ direction, rest) =>
          .redirect (c.toNat - 48) direction :: tokens fuel line rest
        | _ =>
          let (word, behind) := readWord (rest.length + 2) [] (c :: rest)
          let read := (c :: rest).take (rest.length + 1 - behind.length)
          .word word line :: tokens fuel (line + read.count '\n') behind

/-! ## Commands -/

/-- The reserved word that a token is, where a command may start. -/
def reserved? : Token → Option String
  | .word word _ => plainWord? word
  | _ => none

/-- Whether some tokens start with a reserved word. -/
def startsWith (reserved : String) (tokens : List Token) : Bool :=
  (tokens.head?.bind reserved?) == some reserved

/-- Pass over line ends. -/
def skipLines (tokens : List Token) : List Token :=
  tokens.dropWhile fun token => token = .operator "\n"

/-- Pass over the separators between commands. -/
def skipSeparators (tokens : List Token) : List Token :=
  tokens.dropWhile fun token =>
    token = .operator "\n" || token = .operator ";" || token = .operator "&"

/-- Pass over a reserved word. -/
def expect (reserved : String) (tokens : List Token) : Option (List Token) :=
  if startsWith reserved tokens then some (tokens.drop 1) else none

/-- The assignment that a word is, if its unquoted start is a name and an equals sign. -/
def assignment? (word : Word) : Option (String × Word) :=
  let characters := word.takeWhile fun part => match part with
    | .text _ quoted => !quoted
    | _ => false
  let text := characters.flatMap fun part => match part with
    | .text characters _ => characters
    | _ => []
  let name := text.takeWhile isNameCharacter
  let follower := (text.drop name.length).head?
  if name.isEmpty || name.head?.any Char.isDigit || follower ≠ some '=' then none
  else
    let value : Word := [.text (text.drop (name.length + 1)) false]
    some (String.ofList name, value ++ word.drop characters.length)

/-- Read the redirections that some tokens start with. -/
def readRedirections : List Token → List Redirection × List Token
  | .redirect descriptor direction :: .word target _ :: rest =>
    let (others, rest) := readRedirections rest
    (⟨descriptor, direction, target⟩ :: others, rest)
  | rest => ([], rest)

/-- Read the words and redirections of a simple command, given what was read of it. -/
def readSimple (command : Simple) : List Token → Simple × List Token
  | .redirect descriptor direction :: .word target _ :: rest =>
    readSimple
      { command with redirections := command.redirections ++ [⟨descriptor, direction, target⟩] }
      rest
  | .word word _ :: rest =>
    match command.words.isEmpty, assignment? word with
    | true, some assignment =>
      readSimple { command with assignments := command.assignments ++ [assignment] } rest
    | _, _ => readSimple { command with words := command.words ++ [word] } rest
  | rest => (command, rest)

/-- Read the words before a separator. -/
def readItems : List Token → List Word × List Token
  | .word word _ :: rest =>
    let (items, rest) := readItems rest
    (word :: items, rest)
  | rest => ([], rest)

/-- Read the patterns of an arm, up to its parenthesis. -/
def readPatterns : List Token → Option (List Word × List Token)
  | .word word _ :: .operator ")" :: rest => some ([word], rest)
  | .word word _ :: .operator "|" :: rest => do
    let (patterns, rest) ← readPatterns rest
    some (word :: patterns, rest)
  | _ => none

/-- The words that end a list of commands. -/
def listEnds : List String :=
  ["then", "elif", "else", "fi", "do", "done", "esac", "\x7d"]

mutual

/-- Read commands up to a word or operator that ends them. -/
def readList : Nat → List Token → Option (List Command × List Token)
  | 0, _ => none
  | fuel + 1, tokens =>
    match skipSeparators tokens with
    | [] => some ([], [])
    | .operator ")" :: rest => some ([], .operator ")" :: rest)
    | .operator ";;" :: rest => some ([], .operator ";;" :: rest)
    | token :: rest =>
      if (reserved? token).any listEnds.contains then some ([], token :: rest)
      else do
        let (command, rest) ← readChain fuel (token :: rest)
        match rest with
        | [] => some ([command], [])
        | .operator text :: rest' =>
          if text = ";" || text = "&" || text = "\n" then
            let (commands, rest) ← readList fuel rest'
            some (command :: commands, rest)
          else if text = ")" || text = ";;" then some ([command], rest)
          else none
        | _ => none

/-- Read commands that depend on one another. -/
def readChain : Nat → List Token → Option (Command × List Token)
  | 0, _ => none
  | fuel + 1, tokens => do
    let (first, rest) ← readPipe fuel tokens
    readChainFrom fuel first rest

/-- Read what depends on a command. -/
def readChainFrom : Nat → Command → List Token → Option (Command × List Token)
  | 0, _, _ => none
  | fuel + 1, first, tokens =>
    match tokens with
    | .operator "&&" :: rest => do
      let (second, rest) ← readPipe fuel (skipLines rest)
      readChainFrom fuel (.both first second) rest
    | .operator "||" :: rest => do
      let (second, rest) ← readPipe fuel (skipLines rest)
      readChainFrom fuel (.either first second) rest
    | rest => some (first, rest)

/-- Read commands that read what others write. -/
def readPipe : Nat → List Token → Option (Command × List Token)
  | 0, _ => none
  | fuel + 1, tokens => do
    if startsWith "!" tokens then
      let (command, rest) ← readPipe fuel (tokens.drop 1)
      some (.negated command, rest)
    else
      let (first, rest) ← readCommand fuel tokens
      match rest with
      | .operator "|" :: rest =>
        let (second, rest) ← readPipe fuel (skipLines rest)
        some (.piped first second, rest)
      | rest => some (first, rest)

/-- Read the branches of a condition, up to its end. -/
def readBranches : Nat → List Token →
    Option (List (List Command × List Command) × List Command × List Token)
  | 0, _ => none
  | fuel + 1, tokens => do
    let (condition, rest) ← readList fuel tokens
    let rest ← expect "then" rest
    let (body, rest) ← readList fuel rest
    if startsWith "elif" rest then
      let (branches, otherwise, rest) ← readBranches fuel (rest.drop 1)
      some ((condition, body) :: branches, otherwise, rest)
    else if startsWith "else" rest then
      let (otherwise, rest) ← readList fuel (rest.drop 1)
      some ([(condition, body)], otherwise, ← expect "fi" rest)
    else some ([(condition, body)], [], ← expect "fi" rest)

/-- Read the arms of a choice, up to its end. -/
def readArms : Nat → List Token → Option (List (List Word × List Command) × List Token)
  | 0, _ => none
  | fuel + 1, tokens =>
    let tokens := skipSeparators tokens
    if startsWith "esac" tokens then some ([], tokens.drop 1)
    else do
      let tokens := if tokens.head? = some (.operator "(") then tokens.drop 1 else tokens
      let (patterns, rest) ← readPatterns tokens
      let (body, rest) ← readList fuel rest
      match rest with
      | .operator ";;" :: rest =>
        let (arms, rest) ← readArms fuel rest
        some ((patterns, body) :: arms, rest)
      | rest => some ([(patterns, body)], ← expect "esac" rest)

/-- Read a command with its redirections. -/
def readCommand : Nat → List Token → Option (Command × List Token)
  | 0, _ => none
  | fuel + 1, tokens => do
    let compound := fun (command : Command) (rest : List Token) =>
      match readRedirections rest with
      | ([], rest) => (command, rest)
      | (redirections, rest) => (.redirected command redirections, rest)
    match tokens with
    | .operator "(" :: rest =>
      let (body, rest) ← readList fuel rest
      match rest with
      | .operator ")" :: rest => some (compound (.isolated body) rest)
      | _ => none
    | .word word line :: rest =>
      match plainWord? word with
      | some "if" =>
        let (branches, otherwise, rest) ← readBranches fuel rest
        some (compound (.conditional branches otherwise) rest)
      | some "for" =>
        match rest with
        | .word name _ :: rest =>
          let rest := skipLines rest
          let (items, rest) :=
            if startsWith "in" rest then
              let (items, rest) := readItems (rest.drop 1)
              (some items, rest)
            else (none, rest)
          let rest ← expect "do" (skipSeparators rest)
          let (body, rest) ← readList fuel rest
          let rest ← expect "done" rest
          some (compound (.forEach ((plainWord? name).getD "") items body) rest)
        | _ => none
      | some "while" | some "until" =>
        let (condition, rest) ← readList fuel rest
        let rest ← expect "do" rest
        let (body, rest) ← readList fuel rest
        let rest ← expect "done" rest
        some (compound (.loop (plainWord? word == some "while") condition body) rest)
      | some "case" =>
        match rest with
        | .word subject _ :: rest =>
          let rest ← expect "in" (skipLines rest)
          let (arms, rest) ← readArms fuel rest
          some (compound (.choice subject arms) rest)
        | _ => none
      | some "\x7b" =>
        let (body, rest) ← readList fuel rest
        let rest ← expect "\x7d" rest
        some (compound (.group body) rest)
      | _ =>
        let (command, rest) := readSimple ⟨line, [], [], []⟩ (.word word line :: rest)
        some (.simple command, rest)
    | .redirect descriptor direction :: rest =>
      let (command, rest) := readSimple ⟨1, [], [], []⟩ (.redirect descriptor direction :: rest)
      if command.redirections.isEmpty then none else some (.simple command, rest)
    | _ => none

end

/-- The commands of a script. -/
def parse (script : List Char) : Option (List Command) := do
  let tokens := tokens (script.length + 1) 1 script
  let (commands, rest) ← readList (8 * tokens.length + 8) tokens
  if rest.isEmpty then some commands else none

end DumpReplay.Script
