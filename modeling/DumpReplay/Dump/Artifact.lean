import DumpReplay.Host.Action
import DumpReplay.Text.Blank

/-!
# Dumps and their artifacts

A dump is a directory with a fixed set of files, each of which may be missing.
-/

namespace DumpReplay

/-! ## Names -/

/-- A file of a dump that a replay works with. -/
inductive Artifact where
  /-- The program to compile. -/
  | program
  /-- The library that the program is compiled against. -/
  | library
  /-- The class path of the program. -/
  | classpath
  /-- The description of the desugared library. -/
  | desugaredLibrary
  /-- The rules for the main dex file. -/
  | mainDexRules
  /-- The build properties. -/
  | buildProperties
  /-- The keep rules. -/
  | rules
  /-- The version of the compiler. -/
  | version
  /-- The input map of an earlier renaming, which cannot be replayed. -/
  | inputMap
  /-- The list of classes for the main dex file, which cannot be replayed. -/
  | mainDexList
deriving DecidableEq, Repr

namespace Artifact

/-- The name of the file. -/
def fileName : Artifact → String
  | program => "program.jar"
  | library => "library.jar"
  | classpath => "classpath.jar"
  | desugaredLibrary => "desugared-library.json"
  | mainDexRules => "main-dex-rules.txt"
  | buildProperties => "build.properties"
  | rules => "proguard.config"
  | version => "r8-version"
  | inputMap => "proguard_input.config"
  | mainDexList => "main-dex-list.txt"

/-- The artifacts that a dump can hold but that cannot be replayed, with their descriptions. -/
def unsupported : List (Artifact × String) :=
  [(inputMap, "proguard input map"), (mainDexList, "main-dex list")]

end Artifact

/-- The name of a feature archive. -/
def featureName (index : Nat) : String :=
  "feature-" ++ toString index ++ ".jar"

/-! ## Dumps -/

/-- A dump, by its directory. -/
structure Dump where
  /-- The directory. -/
  directory : Path
deriving DecidableEq, Repr

namespace Dump

/-- The path of an artifact. -/
def path (dump : Dump) (artifact : Artifact) : Path :=
  dump.directory.child artifact.fileName

/-- The path of a feature archive. -/
def featurePath (dump : Dump) (index : Nat) : Path :=
  dump.directory.child (featureName index)

/-- The path of an artifact, if the dump has it. -/
def find (dump : Dump) (artifact : Artifact) : Action (Option Path) := do
  if ← Action.pathExists (dump.path artifact) then return some (dump.path artifact)
  else return none

/-- Whether the dump has an artifact. -/
def has (dump : Dump) (artifact : Artifact) : Action Bool :=
  Action.pathExists (dump.path artifact)

/-- The numbers from some number on that have a property, up to the first that has not; at most
`count` are looked at. -/
def upToGap (p : Nat → Bool) : Nat → Nat → List Nat
  | 0, _ => []
  | count + 1, index => if p index then index :: upToGap p count (index + 1) else []

/-- The feature archives in the order of their numbers, up to the first that is missing.  Every
archive has an entry of its own in the tree, so no more need to be looked for than there are
entries. -/
def featureJars (dump : Dump) : Action (List Path) :=
  Action.look fun files here =>
    (upToGap (fun index => files.has here (dump.featurePath index)) files.entries.length 1).map
      dump.featurePath

/-- The version of the compiler that took the dump: the first word of the version file. -/
def version (dump : Dump) : Action (Option String) := do
  match ← dump.find .version with
  | none => return none
  | some file =>
    let content ← Action.readText file
    return (Text.words content.toList).head?.map String.ofList

/-- The descriptions of the artifacts in the dump that cannot be replayed. -/
def unsupportedArtifacts (dump : Dump) : Action (List String) := do
  let present ← Artifact.unsupported.filterM fun entry => dump.has entry.1
  return present.map Prod.snd

/-- Warn of the artifacts in the dump that cannot be replayed. -/
def warnUnsupported (dump : Dump) : Action Unit := do
  for description in ← dump.unsupportedArtifacts do
    Action.warn
      ("Unsupported artifact present, " ++ description ++ " is not passed to the compiler")

end Dump

end DumpReplay
