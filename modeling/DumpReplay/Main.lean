import DumpReplay.CommandLine.Dispatch
import DumpReplay.Script.Launching

/-!
# The program

The files that a command line names are read into memory, the command line is carried out there, and
what it printed and changed is written back.  Processes run in memory too, on the files that were
read: a JDK or a wrapper around one that consists of shell scripts is run script by script, and a
program that is no script is refused.  No request is sent.
-/

namespace DumpReplay.Main

/-! ## Gathering -/

/-- The variables that the program looks at. -/
def variableNames : List String :=
  ["HOME", "PATH", "TMPDIR", "XDG_CONFIG_HOME", "R8_ROOT", "JAVA_HOME", "COMPILEDUMP_CONFIG"]

/-- The variables that are set, with their values. -/
def gatherVariables : IO (List (String × String)) :=
  variableNames.filterMapM fun name => do
    return (← IO.getEnv name).map fun value => (name, value)

/-- The tree with a node at a path, and with the directories on the way to it. -/
def withNode (files : FileTree) (path : Path) (node : Node) : FileTree :=
  let parent := String.intercalate "/" path.segments.dropLast
  let files := (files.makeDirectories [] ⟨parent⟩).2
  match files.locate [] path with
  | .ok location => files.insert location node
  | .error _ => files

/-- Add what stands at a path, and everything below it to some depth. -/
def gather (files : FileTree) (path : String) : Nat → IO FileTree
  | 0 => pure files
  | depth + 1 => do
    match ← (IO.FS.readBinFile path).toBaseIO with
    | .ok bytes => return withNode files ⟨path⟩ (.file bytes true)
    | .error _ =>
      match ← ((← IO.currentDir) / path).readDir.toBaseIO with
      | .error _ => return files
      | .ok children =>
        let files := withNode files ⟨path⟩ .directory
        children.foldlM (fun files child => gather files (path ++ "/" ++ child.fileName) depth) files

/-- The depth to which directories are read. -/
def depth : Nat :=
  64

/-- The paths that a command line names, the settings of the user, and the programs of the JDK. -/
def namedPaths (machine : Machine) (line : CommandLine) : List Path :=
  let programs := fun (directory : Path) => [directory.child "java", directory.child "javac"]
  [line.dump, line.temp, line.compilerJar, line.desugaredLibrary, line.config,
      Toolchain.userSettings? machine].reduceOption
    ++ line.summaryPaths
    ++ (line.repoRoot.map fun root => (root.child "build").child "libs").toList
    ++ (line.javaHome.map fun home => programs (home.child "bin")).getD []
    ++ (Jdk.searchDirectories ((machine.valueOf? "PATH").getD "")).flatMap programs

/-- The machine that the program runs on: its processes are scripts. -/
def gatherMachine : IO Machine := do
  let environment ← gatherVariables
  let here := (Path.mk (← IO.currentDir).toString).names
  let stamp ← IO.monoNanosNow
  return {
    environment := environment
    workingDirectory := here
    scratchName := fun count => toString (100000 + (stamp + count) % 900000)
    launch := fun _ command files => Script.launch environment here command files
    reply := fun _ _ url => .refused (.notSent url) }

/-- A path seen from the root. -/
def fromRoot (machine : Machine) (path : Path) : String :=
  if path.isAbsolute then path.text
  else (Path.mk ("/" ++ String.intercalate "/" machine.workingDirectory)).child path.text |>.text

/-- The files that a command line may need, and the programs that scripts can call. -/
def gatherFiles (machine : Machine) (line : CommandLine) : IO FileTree := do
  let start := (Script.bareMachine.makeDirectories [] ⟨fromRoot machine ⟨"."⟩⟩).2
  (namedPaths machine line).foldlM (fun files path => gather files (fromRoot machine path) depth)
    start

/-! ## Writing back -/

/-- Whether what stands at a location stood there before. -/
def isUnchanged : Option Node → Node → Bool
  | some .directory, .directory => true
  | some (.file old _), .file new _ => old.data == new.data
  | _, _ => false

/-- Write what stands at a location if it was not there before. -/
def writeBack (before : FileTree) (entry : Location × Node) : IO Unit := do
  if isUnchanged (before.get? entry.1) entry.2 then return
  let path := "/" ++ String.intercalate "/" entry.1
  match entry.2 with
  | .directory => IO.FS.createDirAll path
  | .file bytes _ =>
    IO.FS.createDirAll ("/" ++ String.intercalate "/" entry.1.dropLast)
    IO.FS.writeBinFile path bytes

/-- Write what a run printed, and its log to the error output. -/
def report (host : Host) : IO Unit := do
  for record in host.log do
    IO.eprintln record.text
  IO.print host.printed

/-- The exit code of a program that breaks off. -/
def brokenOffCode : UInt32 :=
  101

/-- The exit code that a shell shows for a program that was killed. -/
def killedCode : UInt32 :=
  137

end DumpReplay.Main

open DumpReplay in
/-- Carry out the command line. -/
def main (arguments : List String) : IO UInt32 := do
  let machine ← Main.gatherMachine
  let line := "compiledump" :: arguments
  match CommandLine.parseKnown machine.environment line with
  | .error error =>
    IO.eprintln error.message
    return error.exitCode.toUInt32
  | .ok accepted =>
    let files ← Main.gatherFiles machine accepted
    match CommandLine.program machine line 1000 (.ofFiles files) with
    | .ended code host =>
      Main.report host
      for entry in host.files.entries.reverse do
        Main.writeBack files entry
      return code.toUInt32
    | .brokenOff host =>
      Main.report host
      return Main.brokenOffCode
    | .killed => return Main.killedCode
