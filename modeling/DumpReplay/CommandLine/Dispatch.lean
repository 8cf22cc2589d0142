import DumpReplay.CommandLine.Reading
import DumpReplay.Dump.Summary
import DumpReplay.Replay.Loop
import DumpReplay.Toolchain.Settings

/-!
# Carrying out a command line

A command line asks for summaries, for one replay, or for replays over and over.  A run of the
program then ends with an exit code, unless it breaks off or is killed by one of its processes.
-/

namespace DumpReplay.CommandLine

/-- The toolchain for a command line: the settings, with what the command line gives in their
place. -/
def toolchain (line : CommandLine) : Action Toolchain := do
  let tools ← Toolchain.load line.config
  return tools.override line.repoRoot line.javaHome line.storageUrl

/-- Print the summaries of some dumps. -/
def printSummaries (paths : List Path) : Action Unit :=
  Dump.summarizeAll paths Action.printLine

/-- Carry out a command line.  Replays over and over are broken off after the given number of them,
and then have no status. -/
def execute (line : CommandLine) (iterations : Nat) : Action (Option Replay.Status) := do
  if line.summary then
    printSummaries line.summaryPaths
    return some .succeeded
  else
    let tools ← line.toolchain
    if line.loop then
      Replay.loopFor line.temp line.options tools iterations 1
      return none
    else return some (← Replay.run line.temp line.options tools .none)

/-- The exit code for the outcome of a command line, and what is printed behind the rest. -/
def finish (outcome : Except Failure (Option Replay.Status)) : Nat × String :=
  match outcome with
  | .ok (some status) => (status.exitCode, "")
  | .ok none => (0, "")
  | .error failure => (1, failure.message ++ "\n")

/-- The exit code for a command line that is not accepted. -/
def UsageError.exitCode : UsageError → Nat
  | helpRequested => 0
  | _ => 2

/-- How a run of the program ends. -/
inductive Exit where
  /-- The program ends by itself with an exit code, and leaves a host behind. -/
  | ended (code : Nat) (host : Host)
  /-- The program breaks off where something is not as it takes it for granted. -/
  | brokenOff (host : Host)
  /-- A process that the program started kills it. -/
  | killed

/-- The exit code that the program chooses, if it comes to choose one. -/
def Exit.code? : Exit → Option Nat
  | .ended code _ => some code
  | .brokenOff _ | .killed => none

/-- Whether one of the processes that were started between two states of a host killed the program. -/
def struck (before after : Host) : Bool :=
  (after.launched.drop before.launched.length).any Launch.fatal

/-- Carry out a command line and choose the exit code.  A process that kills the program ends all of
it, whatever would have come behind that process. -/
def carryOut (machine : Machine) (line : CommandLine) (iterations : Nat) (host : Host) : Exit :=
  let (outcome, after) := (line.execute iterations).on machine host
  if struck host after then .killed
  else
    let (code, text) := finish outcome
    .ended code { after with printed := after.printed ++ text }

/-- Run the program on its arguments, the name of the program first.  Where summaries are not asked
for, settings are looked for first of all. -/
def program (machine : Machine) (line : List String) (iterations : Nat) (host : Host) : Exit :=
  match parseKnown machine.environment line with
  | .error error => .ended error.exitCode host
  | .ok accepted =>
    if accepted.summary || Toolchain.canLoad machine then accepted.carryOut machine iterations host
    else .brokenOff host

end DumpReplay.CommandLine
