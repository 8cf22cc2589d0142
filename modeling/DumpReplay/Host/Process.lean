import DumpReplay.Host.Action

/-!
# Processes

A process is run to its end, and everything that it writes is captured.

Main results:

- `run_launch` : starting a process is noted, whatever comes of it.
-/

namespace DumpReplay

/-- A command as one line, the program first. -/
def Command.line (command : Command) : String :=
  String.intercalate " " (command.program.text :: command.arguments)

/-- A process that has ended. -/
structure CapturedRun where
  /-- Whether the process ended with the exit code 0. -/
  success : Bool
  /-- The exit code; a process that was killed has none. -/
  code : Option Nat
  /-- Everything that the process wrote, as text. -/
  output : String
deriving DecidableEq, Repr

/-- The captured form of an ending. -/
def CapturedRun.ofEnding (ending : Ending) : CapturedRun where
  success := ending.succeeded
  code := ending.code
  output := Text.ofBytesLenient ending.output

namespace Action

/-- Start a process and wait for its end.  A process that kills the program is waited for like any
other; where the program ends is told from the processes that were noted. -/
def launch (command : Command) : Action (Except IoError Ending) := do
  let machine ← read
  let host ← get
  let (outcome, files) := machine.launch host.launched.length command host.files
  set { host with files := files, launched := host.launched ++ [Launch.mk command outcome] }
  return outcome

/-- Starting a process is noted, whatever comes of it. -/
theorem run_launch (command : Command) (machine : Machine) (host : Host) :
    (launch command).on machine host =
      (.ok (machine.launch host.launched.length command host.files).1,
        { host with
          files := (machine.launch host.launched.length command host.files).2
          launched := host.launched ++
            [⟨command, (machine.launch host.launched.length command host.files).1⟩] }) := rfl

/-- Run a process and capture what it writes, however it ends. -/
def runCaptured (command : Command) : Action CapturedRun := do
  inform ("Running: " ++ command.line)
  match ← launch command with
  | .ok ending => return .ofEnding ending
  | .error cause => fail (.process (.cannotStart command.program cause))

/-- Run a process that has to succeed, and give what it writes. -/
def runChecked (command : Command) : Action String := do
  let run ← runCaptured command
  if run.success then return run.output
  else fail (.process (.unsuccessful command.program run.code run.output))

end Action

end DumpReplay
