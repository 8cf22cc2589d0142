import DumpReplay.Host.FileTree
import DumpReplay.Text.Blank
import DumpReplay.Text.Utf8

/-!
# The state of a script

What a running script can see and change: files, variables, arguments, and where its output goes.
-/

namespace DumpReplay.Script

/-! ## State -/

/-- Where output goes. -/
inductive Sink where
  /-- Into one of the buffers. -/
  | buffer (index : Nat)
  /-- To the end of a file. -/
  | file (location : Location)
  /-- Away. -/
  | nowhere
deriving DecidableEq, Repr

/-- What a command reads, and where it writes. -/
structure Streams where
  /-- Everything that can be read. -/
  input : ByteArray
  /-- Where output goes. -/
  output : Sink
  /-- Where messages go. -/
  errors : Sink

/-- How a script ends before its last command. -/
inductive Halt where
  /-- With an exit code. -/
  | exited (code : Nat)
  /-- By a signal. -/
  | killed
  /-- Only the loop around the last command, which is left. -/
  | leavesLoop
  /-- Only the round of the loop around the last command. -/
  | endsRound
deriving DecidableEq, Repr

/-- The state of a running script. -/
structure Shell where
  /-- The files. -/
  files : FileTree
  /-- The directory that relative paths start from. -/
  here : Location
  /-- The name of the script. -/
  name : String
  /-- The arguments of the script. -/
  arguments : List String
  /-- The variables, the last one set first. -/
  environment : List (String × String)
  /-- The names of the variables that the programs see that the script calls. -/
  exported : List String
  /-- The buffers that output is gathered in. -/
  buffers : Array ByteArray
  /-- The exit code of the last command. -/
  status : Nat
  /-- How the script ended, if it did. -/
  halt : Option Halt
  /-- Whether the script was called by another one. -/
  called : Bool := false
  /-- Whether the script killed the program that had started it. -/
  struck : Bool := false

namespace Shell

/-- Set the exit code of the last command. -/
def setStatus (shell : Shell) (status : Nat) : Shell :=
  { shell with status := status }

/-- The value of a variable; one that is not set has the empty value. -/
def valueOf (shell : Shell) (name : String) : String :=
  (shell.environment.lookup name).getD ""

/-- Forget a variable. -/
def unset (shell : Shell) (name : String) : Shell :=
  { shell with environment := shell.environment.filter fun entry => entry.1 ≠ name }

/-- Set a variable. -/
def setVariable (shell : Shell) (name value : String) : Shell :=
  { shell with environment := (name, value) :: (shell.unset name).environment }

/-- Let the programs that the script calls see a variable. -/
def passOn (shell : Shell) (name : String) : Shell :=
  { shell with exported := name :: shell.exported }

/-- The variables that a program sees that the script calls. -/
def passedOn (shell : Shell) : List (String × String) :=
  shell.environment.filter fun entry => shell.exported.contains entry.1

/-- The number by which a script can name itself. -/
def ownNumber : String :=
  "4242"

/-- The number by which a script can name the program that started it all. -/
def starterNumber : String :=
  "4241"

/-- The variables of a script that is called: those that are passed on, and the number of whoever calls
it. -/
def callee (shell : Shell) : List (String × String) :=
  ("PPID", if shell.called then ownNumber else starterNumber) :: shell.passedOn

/-- The value of a parameter that stands for a single text, if it is set. -/
def parameter? (shell : Shell) (name : String) : Option String :=
  if name = "#" then some (toString shell.arguments.length)
  else if name = "?" then some (toString shell.status)
  else if name = "$" then some ownNumber
  else if name = "0" then some shell.name
  else if name = "*" || name = "@" then some (String.intercalate " " shell.arguments)
  else if name.toList.all Char.isDigit then
    name.toNat?.bind fun index => shell.arguments[index - 1]?
  else shell.environment.lookup name

/-- The value of a parameter; one that is not set has the empty value. -/
def parameter (shell : Shell) (name : String) : String :=
  (shell.parameter? name).getD ""

/-- The value of a parameter, unless it is not set, or empty if the empty value counts as well. -/
def present? (shell : Shell) (name : String) (emptyCounts : Bool) : Option String :=
  (shell.parameter? name).filter fun value => !(emptyCounts && value == "")

/-- The number that the value of a parameter is. -/
def numberOf (shell : Shell) (name : String) : Int :=
  ((shell.parameter name).toInt?).getD 0

/-! ## Output -/

/-- Write bytes. -/
def emit (shell : Shell) (sink : Sink) (bytes : ByteArray) : Shell :=
  match sink with
  | .buffer index =>
    { shell with buffers := shell.buffers.modify index fun buffer => buffer ++ bytes }
  | .file location =>
    match shell.files.get? location with
    | some (.file old executable) =>
      { shell with files := shell.files.insert location (.file (old ++ bytes) executable) }
    | _ => shell
  | .nowhere => shell

/-- Write a text. -/
def say (shell : Shell) (sink : Sink) (text : String) : Shell :=
  shell.emit sink (Text.toBytes text)

/-- Write a message and set the exit code. -/
def complain (shell : Shell) (streams : Streams) (text : String) (status : Nat) : Shell :=
  (shell.say streams.errors (text ++ "\n")).setStatus status

/-- Write a message about a line of the script and set the exit code. -/
def complainAt (shell : Shell) (streams : Streams) (line : Nat) (text : String) (status : Nat) :
    Shell :=
  shell.complain streams (shell.name ++ ": " ++ toString line ++ ": " ++ text) status

/-! ## Files -/

/-- The path of the file that takes everything and holds nothing. -/
def nullDevice : Path :=
  ⟨"/dev/null"⟩

/-- The path of the file that holds zeros without end. -/
def zeroDevice : Path :=
  ⟨"/dev/zero"⟩

/-- The zeros that a script can read at once. -/
def zeros : ByteArray :=
  ⟨Array.replicate 1048576 0⟩

/-- The content of a file. -/
def readFile (shell : Shell) (path : Path) : Except IoError ByteArray :=
  if path = nullDevice then .ok ByteArray.empty
  else if path = zeroDevice then .ok zeros
  else shell.files.read shell.here path

/-- Open a file for output, at its end or from its start. -/
def openFile (shell : Shell) (path : Path) (atEnd : Bool) : Except IoError (Sink × Shell) := do
  if path = nullDevice then .ok (.nowhere, shell)
  else
    let location ← shell.files.locate shell.here path
    match shell.files.get? location with
    | some .directory => .error .isADirectory
    | some (.file _ _) =>
      if atEnd then .ok (.file location, shell)
      else
        let files ← shell.files.write shell.here path ByteArray.empty
        .ok (.file location, { shell with files := files })
    | none =>
      let files ← shell.files.write shell.here path ByteArray.empty
      .ok (.file location, { shell with files := files })

end Shell

end DumpReplay.Script
