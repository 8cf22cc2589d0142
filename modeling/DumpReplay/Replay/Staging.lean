import DumpReplay.Dump.Opening
import DumpReplay.Invocation
import DumpReplay.Replay.Options

/-!
# Staging a replay

Before any process is started, the dump is opened and every value of the replay is decided.
-/

namespace DumpReplay.Replay

/-- A replay with everything decided. -/
structure Staged where
  /-- The dump. -/
  dump : Dump
  /-- Its build properties. -/
  properties : Properties
  /-- The version of the compiler, if one is known. -/
  version : Option Version
  /-- What is asked of the compiler. -/
  invocation : Invocation
deriving DecidableEq, Repr

/-- Read the build properties of a dump, and warn of the lines that are none. -/
def readProperties (file : Path) : Action Properties := do
  let content ← Action.readText file
  for line in Properties.malformedLines content do
    Action.warn ("Ignoring malformed build property line: " ++ line)
  return Properties.parse content

/-- The build properties of a dump; a dump without the file has none. -/
def propertiesOf (dump : Dump) : Action Properties := do
  match ← dump.find .buildProperties with
  | some file => readProperties file
  | none => return .empty

/-- The version of the compiler: the one that was asked for, else that of the dump. -/
def versionOf (requested : Option String) (dump : Dump) : Action (Option Version) := do
  match requested with
  | some token => return some (.parse token)
  | none => return (← dump.version).map .parse

/-- Open the dump and decide the values of a replay. -/
def stage (options : Options) (workDirectory : Path) : Action Staged := do
  match options.dump with
  | none => Action.fail (.configuration .noDump)
  | some source =>
    let dump ← Dump.openIn source workDirectory options.overrideExtraction
    if !(← dump.has .program) then Action.fail (.dump .noProgram)
    if !(← dump.has .library) then
      Action.warn "Unexpected lack of library classes in dump"
    dump.warnUnsupported
    let properties ← propertiesOf dump
    let version ← versionOf options.version dump
    let invocation ← Action.ofExcept
      (Invocation.resolve options.invocationRequest properties workDirectory)
    return ⟨dump, properties, version, invocation⟩

end DumpReplay.Replay
