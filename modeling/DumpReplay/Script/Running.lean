import DumpReplay.Script.Arithmetic
import DumpReplay.Script.Builtin
import DumpReplay.Script.Pattern
import DumpReplay.Script.Programs
import DumpReplay.Script.Reading

/-!
# Running scripts

Scripts are run command by command.  Words are expanded first: parameters and the output of other
scripts are put in, and what is not quoted is split at blanks.  Fuel bounds how deep commands nest
and how often loops go round; a script that needs more is taken to be killed.
-/

namespace DumpReplay.Script

/-! ## Fields -/

/-- A field of an expanded word; each character is marked as quoted or not. -/
abbrev Field := List (Char × Bool)

/-- The text of a field. -/
def Field.text (field : Field) : String :=
  String.ofList (field.map Prod.fst)

/-- What a part of a word expands to. -/
inductive Piece where
  /-- Characters that are not split. -/
  | fixed (characters : Field)
  /-- Text that is split at blanks. -/
  | splitting (text : List Char)
  /-- The end of a field. -/
  | boundary

/-- Split a text at blanks, given the field read so far: the fields that are finished, and the one
that is not. -/
def splitText (current : Option Field) : List Char → List Field × Option Field
  | [] => ([], current)
  | c :: rest =>
    if c = ' ' || c = '\t' || c = '\n' then
      let (fields, last) := splitText none rest
      (current.toList ++ fields, last)
    else splitText (some (current.getD [] ++ [(c, false)])) rest

/-- The fields of some pieces, given the field read so far. -/
def splitFields (current : Option Field) : List Piece → List Field
  | [] => current.toList
  | .fixed characters :: rest => splitFields (some (current.getD [] ++ characters)) rest
  | .boundary :: rest => current.toList ++ splitFields none rest
  | .splitting text :: rest =>
    let (fields, last) := splitText current text
    fields ++ splitFields last rest

/-- All characters of some pieces, without splitting. -/
def joinPieces (pieces : List Piece) : Field :=
  pieces.flatMap fun piece => match piece with
    | .fixed characters => characters
    | .splitting text => text.map fun c => (c, false)
    | .boundary => [(' ', false)]

/-! ## Programs -/

/-- The content of a program that the machine has without any script. -/
def machineCode : ByteArray :=
  ⟨#[0x7F, 0x45, 0x4C, 0x46]⟩

/-- Whether a file is a program that the machine has without any script. -/
def isMachineCode (bytes : ByteArray) : Bool :=
  bytes.extract 0 4 == machineCode

/-- The interpreter that the first line of a script names. -/
def interpreter? (bytes : ByteArray) : Option Path :=
  match (Text.ofBytesLenient bytes).toList with
  | '#' :: '!' :: rest =>
    let line := rest.takeWhile (· ≠ '\n')
    (Text.words line).head?.map Path.ofList
  | _ => none

/-- The first path of a program in the directories of a search path. -/
def findProgram (files : FileTree) (here : Location) (searchPath name : String) : Option Path :=
  let paths := (Path.splitAt ':' searchPath.toList).map fun directory =>
    (Path.ofList directory).child name
  paths.find? fun path =>
    match files.status here path with
    | .ok node => node.isProgram
    | .error _ => false

/-! ## Running -/

/-- A state in which the script is killed. -/
def Shell.kill (shell : Shell) : Shell :=
  { shell with halt := some .killed }

/-- Take over the files and output of a part of the script that ran for itself. -/
def Shell.rejoin (shell part : Shell) : Shell :=
  { shell with
    files := part.files
    buffers := part.buffers
    status := match part.halt with
      | some (.exited code) => code
      | _ => part.status
    halt := if part.halt = some .killed then some .killed else shell.halt
    struck := part.struck }

/-- Drop the line ends at the end of a text. -/
def withoutLineEnds (text : List Char) : List Char :=
  (text.reverse.dropWhile (· = '\n')).reverse

mutual

/-- The pieces that the parts of a word expand to. -/
def expandParts : Nat → Streams → Shell → List Part → List Piece × Shell
  | 0, _, shell, _ => ([], shell.kill)
  | _, _, shell, [] => ([], shell)
  | fuel + 1, streams, shell, part :: rest =>
    let value := fun (quoted : Bool) (text : List Char) =>
      if quoted then [Piece.fixed (text.map fun c => (c, true))] else [.splitting text]
    let (pieces, shell) := match part with
      | .text characters quoted => ([Piece.fixed (characters.map fun c => (c, quoted))], shell)
      | .parameter "@" true =>
        ((shell.arguments.map fun a => Piece.fixed (a.toList.map fun c => (c, true))).intersperse
          .boundary, shell)
      | .parameter name quoted => (value quoted (shell.parameter name).toList, shell)
      | .size name quoted => (value quoted (toString (shell.parameter name).length).toList, shell)
      | .fallback name emptyCounts text quoted =>
        match shell.present? name emptyCounts with
        | some present => (value quoted present.toList, shell)
        | none =>
          let (field, shell) := expandJoined fuel streams shell (partsOf text)
          (value quoted (field.map Prod.fst), shell)
      | .substitute name emptyCounts text quoted =>
        match shell.present? name emptyCounts with
        | some _ =>
          let (field, shell) := expandJoined fuel streams shell (partsOf text)
          (value quoted (field.map Prod.fst), shell)
        | none => (value quoted [], shell)
      | .number expression quoted =>
        let (field, shell) := expandJoined fuel streams shell (partsOf expression)
        match Arithmetic.evaluate shell.numberOf (field.map Prod.fst) with
        | some number => (value quoted (toString number).toList, shell)
        | none =>
          let shell := shell.complain streams
            (shell.name ++ ": 1: arithmetic expression: expecting primary: \x22"
              ++ String.ofList (field.map Prod.fst) ++ "\x22") 2
          ([], { shell with halt := some (.exited 2) })
      | .output script quoted =>
        let (text, shell) := capture fuel streams shell script
        (value quoted text, shell)
    let (others, shell) := expandParts fuel streams shell rest
    (pieces ++ others, shell)

/-- What a script writes, without the line ends at its end. -/
def capture : Nat → Streams → Shell → List Char → List Char × Shell
  | 0, _, shell, _ => ([], shell.kill)
  | fuel + 1, streams, shell, script =>
    let index := shell.buffers.size
    let inside := { shell with buffers := shell.buffers.push ByteArray.empty }
    let part := match parse script with
      | some commands => runList fuel { streams with output := .buffer index } inside commands
      | none => inside.complain streams (shell.name ++ ": Syntax error") 2
    let bytes := (part.buffers[index]?).getD ByteArray.empty
    let part := { part with buffers := part.buffers.extract 0 index }
    (withoutLineEnds (Text.ofBytesLenient bytes).toList, shell.rejoin part)

/-- Expand a word to a single text. -/
def expandJoined : Nat → Streams → Shell → Word → Field × Shell
  | 0, _, shell, _ => ([], shell.kill)
  | fuel + 1, streams, shell, word =>
    let (pieces, shell) := expandParts fuel streams shell word
    (joinPieces pieces, shell)

/-- Expand words to fields. -/
def expandWords : Nat → Streams → Shell → List Word → List String × Shell
  | 0, _, shell, _ => ([], shell.kill)
  | _, _, shell, [] => ([], shell)
  | fuel + 1, streams, shell, word :: rest =>
    let (pieces, shell) := expandParts fuel streams shell word
    let (others, shell) := expandWords fuel streams shell rest
    ((splitFields none pieces).map Field.text ++ others, shell)

/-- Set variables. -/
def assign : Nat → Streams → Shell → List (String × Word) → Shell
  | 0, _, shell, _ => shell.kill
  | _, _, shell, [] => shell
  | fuel + 1, streams, shell, (name, word) :: rest =>
    let (field, shell) := expandJoined fuel streams shell word
    assign fuel streams (shell.setVariable name field.text) rest

/-- Redirect descriptors, or complain about the first that cannot be. -/
def redirect : Nat → Nat → Streams → Shell → List Redirection → Option Streams × Shell
  | 0, _, _, shell, _ => (none, shell.kill)
  | _, _, streams, shell, [] => (some streams, shell)
  | fuel + 1, line, streams, shell, redirection :: rest =>
    let (field, shell) := expandJoined fuel streams shell redirection.target
    let path : Path := ⟨field.text⟩
    let opened := fun (atEnd : Bool) =>
      match shell.openFile path atEnd with
      | .ok (sink, shell) =>
        let streams :=
          if redirection.descriptor = 2 then { streams with errors := sink }
          else { streams with output := sink }
        redirect fuel line streams shell rest
      | .error error =>
        let why := match error with
          | .notFound => "Directory nonexistent"
          | error => reason error
        (none,
          shell.complainAt streams line ("cannot create " ++ path.text ++ ": " ++ why) 2)
    match redirection.direction with
    | .input =>
      match shell.readFile path with
      | .ok bytes => redirect fuel line { streams with input := bytes } shell rest
      | .error error =>
        let why := match error with
          | .notFound => "No such file"
          | error => reason error
        (none, shell.complainAt streams line ("cannot open " ++ path.text ++ ": " ++ why) 2)
    | .output => opened false
    | .append => opened true
    | .same =>
      let sink := if path.text = "2" then streams.errors else streams.output
      let streams :=
        if redirection.descriptor = 2 then { streams with errors := sink }
        else { streams with output := sink }
      redirect fuel line streams shell rest

/-- Run a script in a file, or a program that the machine has without any script. -/
def runFile : Nat → Streams → Shell → Path → List String → Shell
  | 0, _, shell, _, _ => shell.kill
  | fuel + 1, streams, shell, path, arguments =>
    match shell.files.read shell.here path with
    | .error _ => shell.setStatus 126
    | .ok bytes =>
      let inside := { shell with
        name := path.text
        arguments := arguments
        environment := shell.callee
        called := true
        status := 0 }
      if isMachineCode bytes then
        let name := path.fileName.getD ""
        if name = "sh" then shell.rejoin (runShell fuel streams inside arguments)
        else runProgram streams shell name arguments
      else
        shell.rejoin (runText fuel streams inside (Text.ofBytesLenient bytes).toList)

/-- Run the text of a script. -/
def runText : Nat → Streams → Shell → List Char → Shell
  | 0, _, shell, _ => shell.kill
  | fuel + 1, streams, shell, script =>
    match parse script with
    | some commands => runList fuel streams shell commands
    | none => shell.complain streams (shell.name ++ ": 1: Syntax error") 2

/-- Run a shell with arguments: a script given as text, or one in a file. -/
def runShell : Nat → Streams → Shell → List String → Shell
  | 0, _, shell, _ => shell.kill
  | fuel + 1, streams, shell, arguments =>
    match arguments with
    | [] => runText fuel streams shell (Text.ofBytesLenient streams.input).toList
    | "-c" :: script :: rest =>
      let name := rest.head?.getD shell.name
      runText fuel streams { shell with name := name, arguments := rest.drop 1 } script.toList
    | ["-c"] => shell.complain streams (shell.name ++ ": 0: -c requires an argument") 2
    | file :: rest =>
      match shell.files.read shell.here ⟨file⟩ with
      | .ok bytes =>
        runText fuel streams { shell with name := file, arguments := rest }
          (Text.ofBytesLenient bytes).toList
      | .error error =>
        let why := match error with
          | .notFound => "No such file"
          | error => reason error
        shell.complain streams (shell.name ++ ": 0: cannot open " ++ file ++ ": " ++ why) 2

/-- Run a command by its name: one of the shell's own, or a program. -/
def call : Nat → Streams → Shell → Nat → String → List String → Shell
  | 0, _, shell, _, _, _ => shell.kill
  | fuel + 1, streams, shell, line, name, arguments =>
    match name, arguments, runBuiltin? streams shell line name arguments with
    | "eval", _, _ =>
      runText fuel streams shell (String.intercalate " " arguments).toList
    | "exec", command :: arguments, _ =>
      let done := call fuel streams shell line command arguments
      { done with halt := done.halt.or (some (.exited done.status)) }
    | ".", file :: _, _ =>
      match shell.readFile ⟨file⟩ with
      | .ok bytes => runText fuel streams shell (Text.ofBytesLenient bytes).toList
      | .error _ =>
        let shell := shell.complainAt streams line (".: cannot open " ++ file ++ ": No such file") 2
        { shell with halt := some (.exited 2) }
    | _, _, some shell => shell
    | _, _, none =>
      let found :=
        if name.toList.contains '/' then some ⟨name⟩
        else findProgram shell.files shell.here (shell.valueOf "PATH") name
      match found with
      | none => shell.complainAt streams line (name ++ ": not found") 127
      | some path =>
        match shell.files.status shell.here path with
        | .error _ => shell.complainAt streams line (name ++ ": not found") 127
        | .ok node =>
          if node.isProgram then runFile fuel streams shell path arguments
          else shell.complainAt streams line (name ++ ": Permission denied") 126

/-- Run a simple command. -/
def runSimple : Nat → Streams → Shell → Simple → Shell
  | 0, _, shell, _ => shell.kill
  | fuel + 1, streams, shell, command =>
    let (words, shell) := expandWords fuel streams shell command.words
    match redirect fuel command.line streams shell command.redirections with
    | (none, shell) => shell
    | (some streams, shell) =>
      match words with
      | [] =>
        if command.words.isEmpty && command.assignments.isEmpty then shell.setStatus 0
        else assign fuel streams (shell.setStatus 0) command.assignments
      | name :: arguments =>
        let inside := assign fuel streams shell command.assignments
        let inside := command.assignments.foldl (fun shell (name, _) => shell.passOn name) inside
        let done := call fuel streams inside command.line name arguments
        if command.assignments.isEmpty then done
        else { done with environment := shell.environment, exported := shell.exported }

/-- Run a body for each of some values of a variable. -/
def runEach : Nat → Streams → Shell → String → List Command → List String → Shell
  | 0, _, shell, _, _, _ => shell.kill
  | _, _, shell, _, _, [] => shell
  | fuel + 1, streams, shell, name, body, item :: rest =>
    let shell := runList fuel streams (shell.setVariable name item) body
    match shell.halt with
    | none => runEach fuel streams shell name body rest
    | some .endsRound => runEach fuel streams { shell with halt := none } name body rest
    | some .leavesLoop => { shell with halt := none }
    | some _ => shell

/-- Run a body as long as a condition has the expected outcome. -/
def runLoop : Nat → Streams → Shell → Bool → List Command → List Command → Shell
  | 0, _, shell, _, _, _ => shell.kill
  | fuel + 1, streams, shell, expected, condition, body =>
    let judged := runList fuel streams shell condition
    if judged.halt.isSome then judged
    else if (judged.status == 0) == expected then
      let shell := runList fuel streams judged body
      match shell.halt with
      | none => runLoop fuel streams shell expected condition body
      | some .endsRound =>
        runLoop fuel streams { shell with halt := none } expected condition body
      | some .leavesLoop => { shell with halt := none }
      | some _ => shell
    else judged.setStatus shell.status

/-- Run the first body whose condition succeeds. -/
def runBranches : Nat → Streams → Shell → List (List Command × List Command) → List Command → Shell
  | 0, _, shell, _, _ => shell.kill
  | fuel + 1, streams, shell, [], otherwise => runList fuel streams (shell.setStatus 0) otherwise
  | fuel + 1, streams, shell, (condition, body) :: rest, otherwise =>
    let judged := runList fuel streams shell condition
    if judged.halt.isSome then judged
    else if judged.status = 0 then runList fuel streams judged body
    else runBranches fuel streams judged rest otherwise

/-- Whether a text matches one of some patterns. -/
def matchesAny : Nat → Streams → Shell → List Char → List Word → Bool × Shell
  | 0, _, shell, _, _ => (false, shell.kill)
  | _, _, shell, _, [] => (false, shell)
  | fuel + 1, streams, shell, text, pattern :: rest =>
    let (field, shell) := expandJoined fuel streams shell pattern
    if matchesPattern (field.length + text.length + 2) field text then (true, shell)
    else matchesAny fuel streams shell text rest

/-- Run the first arm with a pattern that a text matches. -/
def runArms : Nat → Streams → Shell → List Char → List (List Word × List Command) → Shell
  | 0, _, shell, _, _ => shell.kill
  | _, _, shell, _, [] => shell.setStatus 0
  | fuel + 1, streams, shell, text, (patterns, body) :: rest =>
    match matchesAny fuel streams shell text patterns with
    | (true, shell) => runList fuel streams (shell.setStatus 0) body
    | (false, shell) => runArms fuel streams shell text rest

/-- Run a command. -/
def run : Nat → Streams → Shell → Command → Shell
  | 0, _, shell, _ => shell.kill
  | fuel + 1, streams, shell, command =>
    match command with
    | .simple command => runSimple fuel streams shell command
    | .conditional branches otherwise => runBranches fuel streams shell branches otherwise
    | .forEach name items body =>
      let (values, shell) := match items with
        | some words => expandWords fuel streams shell words
        | none => (shell.arguments, shell)
      runEach fuel streams (shell.setStatus 0) name body values
    | .loop expected condition body =>
      runLoop fuel streams (shell.setStatus 0) expected condition body
    | .choice subject arms =>
      let (field, shell) := expandJoined fuel streams shell subject
      runArms fuel streams shell (field.map Prod.fst) arms
    | .group body => runList fuel streams shell body
    | .isolated body => shell.rejoin (runList fuel streams shell body)
    | .redirected command redirections =>
      match redirect fuel 1 streams shell redirections with
      | (some streams, shell) => run fuel streams shell command
      | (none, shell) => shell
    | .both first second =>
      let shell := run fuel streams shell first
      if shell.halt.isSome || shell.status ≠ 0 then shell else run fuel streams shell second
    | .either first second =>
      let shell := run fuel streams shell first
      if shell.halt.isSome || shell.status = 0 then shell else run fuel streams shell second
    | .negated command =>
      let shell := run fuel streams shell command
      shell.setStatus (if shell.status = 0 then 1 else 0)
    | .piped first second =>
      let index := shell.buffers.size
      let inside := { shell with buffers := shell.buffers.push ByteArray.empty }
      let writer := run fuel { streams with output := .buffer index } inside first
      let bytes := (writer.buffers[index]?).getD ByteArray.empty
      let writer := { writer with buffers := writer.buffers.extract 0 index }
      let shell := shell.rejoin writer
      if shell.halt.isSome then shell
      else shell.rejoin (run fuel { streams with input := bytes } shell second)

/-- Run commands one after the other. -/
def runList : Nat → Streams → Shell → List Command → Shell
  | 0, _, shell, _ => shell.kill
  | _, _, shell, [] => shell
  | fuel + 1, streams, shell, command :: rest =>
    let shell := run fuel streams shell command
    if shell.halt.isSome then shell else runList fuel streams shell rest

end

end DumpReplay.Script
