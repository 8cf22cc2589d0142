import DumpReplay.Distribution.Acquisition
import DumpReplay.Host.Process
import DumpReplay.Jdk

/-!
# Retracing

The library build of the compiler is obfuscated, so that what it prints when it fails is mapped back
through the symbol map of the build.  Where that is not possible, the output stays as it is.

Main results:

- `shouldRetrace_iff` : retracing is tried for the library build of every known version but the
  class files of a checkout.
-/

namespace DumpReplay.Replay

/-! ## The symbol map -/

/-- Where the symbol map of a version comes from. -/
inductive MapSource where
  /-- A file. -/
  | local (file : Path)
  /-- An address in the artifact store. -/
  | remote (url : String)
deriving DecidableEq, Repr

/-- Whether output of a version is retraced. -/
def shouldRetrace (version : Option Version) (plain : Bool) : Bool :=
  !plain && version.any fun v => v ≠ .source

/-- Retracing is tried for the library build of every known version but the class files of a
checkout. -/
theorem shouldRetrace_iff {version : Option Version} {plain : Bool} :
    shouldRetrace version plain = true ↔
      plain = false ∧ ∃ v, version = some v ∧ v ≠ .source := by
  cases version <;> simp [shouldRetrace]

/-- Where the symbol map of a version comes from; the class files of a checkout have none. -/
def mapSource? (version : Version) (tools : Toolchain) : Option MapSource :=
  match version with
  | .main => some (.local tools.libraryMap)
  | .source => none
  | .hash _ | .release _ =>
    ((Store.ofAddress tools.store).artifactUrl? version Store.libraryMap).map .remote

/-- Find the symbol map of a version, or fetch it into the work directory. -/
def fetchMap (version : Version) (workDirectory : Path) (tools : Toolchain) : Action Path := do
  match mapSource? version tools with
  | some (.local file) =>
    if ← Action.pathExists file then return file
    else Action.fail (.retrace (.noLocalMap file version))
  | some (.remote url) =>
    if ← Action.isAvailable url then
      let target := workDirectory.child "mapping.map"
      Action.download url target
      return target
    else Action.fail (.retrace (.noRemoteMap version))
  | none => Action.fail (.retrace (.noMap version))

/-! ## Retracing -/

/-- The class that retraces. -/
def retraceClass : String :=
  "com.android.tools.r8.retrace.Retrace"

/-- The arguments for retracing a file with a symbol map. -/
def retraceArguments (tools : Toolchain) (map stacktrace : Path) : List String :=
  ["-cp", tools.libraryJar.text, retraceClass, map.text, stacktrace.text]

/-- Retrace what the compiler printed. -/
def retrace (output : String) (version : Version) (workDirectory : Path) (tools : Toolchain)
    (jdk : Jdk) : Action String := do
  let stacktrace := workDirectory.child "stacktrace"
  Action.writeText stacktrace output
  let map ← fetchMap version workDirectory tools
  Action.runChecked ⟨← jdk.java, retraceArguments tools map stacktrace⟩

/-- The line above and below the title of retraced output. -/
def rule : String :=
  String.ofList (List.replicate 80 '=')

/-- What stands above retraced output. -/
def banner : String :=
  rule ++ "\n RETRACED OUTPUT\n" ++ rule

/-- Print what the compiler printed in its retraced form, and tell whether that was possible. -/
def tryRetrace (output : String) (version : Version) (workDirectory : Path) (tools : Toolchain)
    (jdk : Jdk) : Action Bool := do
  match ← Action.attempt (retrace output version workDirectory tools jdk) with
  | .ok retraced =>
    Action.printLine banner
    Action.printLine retraced
    return true
  | .error failure =>
    Action.warn ("Failed to retrace for version: " ++ version.display)
    Action.warn failure.message
    Action.inform "Printing raw compiler output"
    return false

end DumpReplay.Replay
