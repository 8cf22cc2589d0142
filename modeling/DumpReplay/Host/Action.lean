import DumpReplay.Host.Machine
import DumpReplay.Text.Quoted
import DumpReplay.Text.Utf8

/-!
# Actions

An action runs on a machine, may change its files, log and output, and may fail.  What it did
before a failure stays done.

Main results:

- `run_record` : recording adds to the log and changes nothing else.
- `run_attempt` : an attempt never fails and keeps every change.
-/

namespace DumpReplay

/-- A computation that runs on a machine and may fail. -/
abbrev Action (α : Type) := ReaderT Machine (ExceptT Failure (StateM Host)) α

namespace Action

/-! ## Running -/

/-- The outcome of an action on a machine, and the host behind it. -/
def on (action : Action α) (machine : Machine) (host : Host) : Except Failure α × Host :=
  (action.run machine).run host

/-- Fail. -/
def fail (failure : Failure) : Action α :=
  throw failure

/-- Take the value of a computation that cannot change anything, or fail with its failure. -/
def ofExcept (outcome : Except Failure α) : Action α :=
  match outcome with
  | .ok value => pure value
  | .error failure => fail failure

/-- Take the value of a system operation, or fail with its error. -/
def ofIo (outcome : Except IoError α) : Action α :=
  match outcome with
  | .ok value => pure value
  | .error cause => fail (.io cause)

/-- The outcome of an action as a value; what it changed stays changed. -/
def attempt (action : Action α) : Action (Except Failure α) :=
  tryCatch (Except.ok <$> action) fun failure => pure (.error failure)

/-- An attempt never fails and keeps every change. -/
theorem run_attempt (action : Action α) (machine : Machine) (host : Host) :
    (attempt action).on machine host =
      (.ok (action.on machine host).1, (action.on machine host).2) := by
  unfold attempt on
  simp only [tryCatch, MonadExcept.tryCatch, tryCatchThe, MonadExceptOf.tryCatch, ReaderT.run,
    ExceptT.run, ExceptT.tryCatch, ExceptT.mk, Functor.map, ExceptT.map, bind, StateT.bind, pure,
    ReaderT.pure, ExceptT.pure]
  rcases action machine host with ⟨outcome, host'⟩
  cases outcome <;> rfl

/-! ## Looking at the machine -/

/-- The files as they are now. -/
def files : Action FileTree := do
  return (← get).files

/-- What a path leads to is looked up in the files as they are now. -/
def look (question : FileTree → Location → α) : Action α := do
  return question (← files) (← read).workingDirectory

/-- Whether a path leads to something. -/
def pathExists (path : Path) : Action Bool :=
  look fun files here => files.has here path

/-- Whether a path leads to a directory. -/
def isDirectory (path : Path) : Action Bool :=
  look fun files here => files.hasDirectory here path

/-- Whether a path leads to a file. -/
def isFile (path : Path) : Action Bool :=
  look fun files here => files.hasFile here path

/-- The content of a file, or why it cannot be read. -/
def readBytes? (path : Path) : Action (Except IoError ByteArray) :=
  look fun files here => files.read here path

/-- The content of a file as text, or why it cannot be read. -/
def readText? (path : Path) : Action (Except IoError String) := do
  match ← readBytes? path with
  | .error cause => return .error cause
  | .ok bytes =>
    match Text.ofBytes? bytes with
    | some text => return .ok text
    | none => return .error .notText

/-- The content of a file as text. -/
def readText (path : Path) : Action String := do
  ofIo (← readText? path)

/-! ## Recording and printing -/

/-- Add a record to the log. -/
def record (severity : Severity) (text : String) : Action Unit :=
  modify fun host => { host with log := host.log ++ [⟨severity, text⟩] }

/-- Add a record of a step. -/
def inform (text : String) : Action Unit :=
  record .information text

/-- Add a record of something that may be wrong. -/
def warn (text : String) : Action Unit :=
  record .warning text

/-- Print a text. -/
def print (text : String) : Action Unit :=
  modify fun host => { host with printed := host.printed ++ text }

/-- Print a line. -/
def printLine (text : String) : Action Unit :=
  print (text ++ "\n")

/-- Recording adds to the log and changes nothing else. -/
@[simp] theorem run_record (severity : Severity) (text : String) (machine : Machine)
    (host : Host) :
    (record severity text).on machine host =
      (.ok (), { host with log := host.log ++ [⟨severity, text⟩] }) := rfl

/-! ## Changing files -/

/-- Replace the files. -/
def setFiles (files : FileTree) : Action Unit :=
  modify fun host => { host with files := files }

/-- Write a file. -/
def writeBytes (path : Path) (bytes : ByteArray) : Action Unit := do
  setFiles (← ofIo (← look fun files here => files.write here path bytes))

/-- Write a text to a file. -/
def writeText (path : Path) (text : String) : Action Unit :=
  writeBytes path (Text.toBytes text)

/-- Make a directory and the missing ones on the way to it, or say why that is not possible. -/
def makeDirectories? (path : Path) : Action (Except IoError Unit) := do
  let (outcome, files) ← look fun files here => files.makeDirectories here path
  setFiles files
  return outcome

/-- Make a directory and the missing ones on the way to it. -/
def makeDirectories (path : Path) : Action Unit := do
  ofIo (← makeDirectories? path)

/-- The directory that scratch directories are made in. -/
def scratchParent (machine : Machine) : Path :=
  ⟨(machine.valueOf? "TMPDIR").getD "/tmp"⟩

/-- Make a new scratch directory, and give its path and location. -/
def makeScratch : Action (Path × Location) := do
  let machine ← read
  let host ← get
  let path := (scratchParent machine).child ("compiledump" ++ machine.scratchName host.scratches)
  set { host with scratches := host.scratches + 1 }
  let made : Except IoError (FileTree × Location) := do
    let location ← host.files.locate machine.workingDirectory path
    let files ← host.files.makeDirectory [] location
    .ok (files, location)
  match made with
  | .ok (files, location) =>
    setFiles files
    return (path, location)
  | .error cause =>
    let quoted := String.ofList (Text.quoted path.toList)
    fail (.io (.atPath cause quoted))

/-- Run an action with a new scratch directory, which is removed when the action ends, however it
ends. -/
def withScratch (action : Path → Action α) : Action α := do
  let (path, location) ← makeScratch
  let outcome ← attempt (action path)
  setFiles ((← files).removeBelow location)
  ofExcept outcome

end Action

end DumpReplay
