import DumpReplay.Failure
import DumpReplay.Host.FileTree

/-!
# Machines

What an operation may consult and change: the parts of the machine that it cannot know about, such
as how processes behave, and the parts that it changes, such as files and what is printed.
-/

namespace DumpReplay

/-! ## What is given -/

/-- A process to start: the program and its arguments. -/
structure Command where
  /-- The program. -/
  program : Path
  /-- The arguments, without the name of the program. -/
  arguments : List String
deriving DecidableEq, Repr

/-- How a process ended. -/
structure Ending where
  /-- The exit code; a process that was killed has none. -/
  code : Option Nat
  /-- Everything that the process wrote, to either of its two outputs. -/
  output : ByteArray
  /-- Whether the process killed the program that had started it. -/
  fatal : Bool := false

/-- Whether the process ended with the exit code 0. -/
def Ending.succeeded (ending : Ending) : Bool :=
  ending.code == some 0

/-- The answer of a server to a request. -/
inductive Reply where
  /-- There was no answer. -/
  | refused (cause : RequestFault)
  /-- An answer with the text of its status, whether that is a success, and the body. -/
  | answered (status : String) (success : Bool) (body : ByteArray)
  /-- An answer whose body broke off. -/
  | brokenOff (status : String) (success : Bool) (cause : RequestFault)

/-- Whether a request asks for a file or only whether there is one. -/
inductive Method where
  | get
  | head
deriving DecidableEq, Repr

/-- What an operation cannot know about the machine that it runs on.  Processes and servers may
behave in any way; the number of earlier processes or requests tells apart those that are alike. -/
structure Machine where
  /-- The variables of the environment that are texts, name and value. -/
  environment : List (String × String)
  /-- The directory that relative paths start from. -/
  workingDirectory : Location
  /-- The name of the next scratch directory, given how many were made before. -/
  scratchName : Nat → String
  /-- How a process ends that is started on some files, and the files that it leaves. -/
  launch : Nat → Command → FileTree → Except IoError Ending × FileTree
  /-- How a server answers. -/
  reply : Nat → Method → String → Reply
  /-- The other variables of the environment, each as the bytes of its name and of its value.  Paths
  are texts, so that none is ever made of them. -/
  garbled : List (ByteArray × ByteArray) := []

namespace Machine

/-- The value of a variable. -/
def valueOf? (machine : Machine) (name : String) : Option String :=
  machine.environment.lookup name

/-- The value of a variable that is set and not empty. -/
def nonEmptyValueOf? (machine : Machine) (name : String) : Option String :=
  (machine.valueOf? name).filter fun value => value ≠ ""

end Machine

/-! ## What changes -/

/-- How important a record of the log is. -/
inductive Severity where
  | information
  | warning
deriving DecidableEq, Repr

/-- A record of the log. -/
structure LogRecord where
  /-- How important the record is. -/
  severity : Severity
  /-- The text of the record. -/
  text : String
deriving DecidableEq, Repr

/-- A process that was started, or that could not be started. -/
structure Launch where
  /-- The program and its arguments. -/
  command : Command
  /-- How the process ended, or why it could not be started. -/
  outcome : Except IoError Ending

/-- Whether the process killed the program that had started it. -/
def Launch.fatal (launch : Launch) : Bool :=
  match launch.outcome with
  | .ok ending => ending.fatal
  | .error _ => false

/-- What an operation may change. -/
structure Host where
  /-- The files. -/
  files : FileTree
  /-- The log, the first record first. -/
  log : List LogRecord
  /-- What was printed. -/
  printed : String
  /-- The processes that were started or could not be started, the first one first. -/
  launched : List Launch
  /-- The number of requests that were sent. -/
  requests : Nat
  /-- The number of scratch directories that were made. -/
  scratches : Nat

namespace Host

/-- A host with some files on which nothing has happened yet. -/
def ofFiles (files : FileTree) : Host :=
  ⟨files, [], "", [], 0, 0⟩

end Host

end DumpReplay
