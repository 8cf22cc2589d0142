import DumpReplay.Distribution
import DumpReplay.Host.Request
import DumpReplay.Store
import DumpReplay.Toolchain

/-!
# Acquiring a distribution

The build of a version is taken from the checkout, or fetched from the artifact store into the work
directory.
-/

namespace DumpReplay.Distribution

/-- A distribution as log records show it. -/
def shown : Distribution → String
  | jar file => "Jar(" ++ String.ofList (Text.quoted file.toList) ++ ")"
  | classpath entries =>
    "Classpath(["
      ++ String.intercalate ", " (entries.map fun e => String.ofList (Text.quoted e.toList))
      ++ "])"

/-- Fail if the distribution is a jar that is missing. -/
def verify (distribution : Distribution) : Action Unit := do
  match distribution with
  | jar file => if !(← Action.pathExists file) then Action.fail (.noDistribution file)
  | classpath _ => pure ()

/-- Fetch the build of a version from the store. -/
def fetch (version : Version) (plain : Bool) (workDirectory : Path) (tools : Toolchain) :
    Action Distribution := do
  let name := Store.distributionName plain
  match (Store.ofAddress tools.store).artifactUrl? version name with
  | none => Action.fail (.noArtifact version)
  | some url =>
    let target := workDirectory.child Store.plainJar
    match ← Action.attempt (Action.download url target) with
    | .ok () => return jar target
    | .error cause => Action.fail (.notFetched name version cause)

/-- Find the distribution of a version. -/
def acquire (version : Version) (plain : Bool) (workDirectory : Path) (tools : Toolchain) :
    Action Distribution := do
  let distribution ← match version with
    | .main => pure (jar (if plain then tools.plainJar else tools.libraryJar))
    | .source => pure (classpath [tools.classes, tools.dependencies])
    | .hash _ | .release _ => fetch version plain workDirectory tools
  Action.inform ("Using distribution: " ++ distribution.shown)
  return distribution

end DumpReplay.Distribution
