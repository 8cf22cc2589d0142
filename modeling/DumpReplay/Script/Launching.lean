import DumpReplay.Jdk
import DumpReplay.Script.Running

/-!
# Launching programs

How a machine whose programs are scripts starts a process: the program is looked up, must be marked
as a program, and must be a script with an interpreter or a program that the machine has by itself.
-/

namespace DumpReplay.Script

/-! ## Looking up -/

/-- The file of a program, or why it cannot be started. -/
def checkProgram (files : FileTree) (here : Location) (path : Path) :
    Except IoError (Location × ByteArray) := do
  let location ← files.locate here path
  match files.get? location with
  | none => .error .notFound
  | some .directory => .error .permissionDenied
  | some (.file bytes executable) =>
    if executable then .ok (location, bytes) else .error .permissionDenied

/-- The paths that a program may have: its own if it has a slash in it, else one in each directory
of the search path. -/
def programPaths (program : Path) (searchPath : String) : List Path :=
  if program.toList.contains '/' then [program]
  else (Jdk.searchDirectories searchPath).map fun directory => directory.join program

/-! ## Launching -/

/-- How deep commands may nest and how often loops may go round. -/
def patience : Nat :=
  1000000

/-- The state in which a process starts. -/
def startState (environment : List (String × String)) (here : Location) (files : FileTree)
    (program : Path) (arguments : List String) : Shell where
  files := files
  here := here
  name := program.text
  arguments := arguments
  environment := environment
  exported := environment.map Prod.fst
  buffers := #[ByteArray.empty]
  status := 0
  halt := none

/-- How a process ended that ran to the given state, and the files that it leaves. -/
def endState (shell : Shell) : Ending × FileTree :=
  let code := match shell.halt with
    | some .killed => none
    | some (.exited code) => some (code % 256)
    | _ => some shell.status
  (⟨code, (shell.buffers[0]?).getD ByteArray.empty, shell.struck⟩, shell.files)

/-- Start a program that is known to be one, and run it to its end. -/
def start (environment : List (String × String)) (here : Location) (files : FileTree) (path : Path)
    (arguments : List String) : Except IoError Ending × FileTree :=
  match checkProgram files here path with
  | .error error => (.error error, files)
  | .ok (_, bytes) =>
    let streams : Streams := ⟨ByteArray.empty, .buffer 0, .buffer 0⟩
    let finish := fun (shell : Shell) =>
      let (ending, files) := endState shell
      (Except.ok ending, files)
    if isMachineCode bytes then
      finish (runFile patience streams (startState environment here files path arguments) path
        arguments)
    else
      match interpreter? bytes with
      | none => (.error .notExecutable, files)
      | some interpreter =>
        match checkProgram files here interpreter with
        | .error error => (.error error, files)
        | .ok _ =>
          let shell := startState environment here files path arguments
          finish (runFile patience streams shell path arguments)

/-- Start the first program of some that can be started; if none can, the last refusal counts. -/
def startFirst (start : Path → Except IoError Ending × FileTree) (files : FileTree) :
    List Path → Except IoError Ending × FileTree
  | [] => (.error .notFound, files)
  | [path] => start path
  | path :: rest =>
    match start path with
    | (.ok ending, files) => (.ok ending, files)
    | (.error _, _) => startFirst start files rest

/-- Start a process on a machine with the given variables. -/
def launch (environment : List (String × String)) (here : Location) (command : DumpReplay.Command)
    (files : FileTree) : Except IoError Ending × FileTree :=
  let nul := fun (text : String) => text.toList.contains '\x00'
  if nul command.program.text || command.arguments.any nul then (.error .nulInArgument, files)
  else
    startFirst (fun path => start environment here files path command.arguments) files
      (programPaths command.program ((environment.lookup "PATH").getD ""))

/-- The files of a machine that has nothing but its own programs. -/
def bareMachine : FileTree :=
  let directories := [["bin"], ["dev"], ["home"], ["tmp"], ["usr"], ["usr", "bin"]]
  let tree := directories.foldl (fun tree location => tree.insert location .directory)
    FileTree.empty
  let tree := tree.insert ["dev", "null"] (.file ByteArray.empty false)
  programs.foldl (fun tree name =>
    (tree.insert ["bin", name] (.file machineCode true)).insert ["usr", "bin", name]
      (.file machineCode true)) tree

end DumpReplay.Script
