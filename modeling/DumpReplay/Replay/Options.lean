import DumpReplay.Plan
import DumpReplay.Shrinker.Toggle

/-!
# Replay options

What a user can choose for a replay.
-/

namespace DumpReplay.Replay

/-- The choices for a replay. -/
structure Options where
  /-- The dump to replay. -/
  dump : Option Path
  /-- The name of the compiler. -/
  compiler : Option String
  /-- The forced states of the shrinker's phases. -/
  toggles : Shrinker.Toggles
  /-- The version of the compiler. -/
  version : Option String
  /-- A compiler jar to use in place of a version. -/
  compilerJar : Option Path
  /-- Whether an archive is extracted again where an extraction is found. -/
  overrideExtraction : Bool
  /-- Whether the build that is not obfuscated is used. -/
  plainBuild : Bool
  /-- The options of the JVM. -/
  jvm : Jvm
  /-- Whether class files are written. -/
  classfile : Bool
  /-- The number of threads. -/
  threads : Option String
  /-- The minimal API level. -/
  minApi : Option String
  /-- A description of the desugared library in place of the dump's. -/
  desugaredLibrary : Option Path
  /-- Whether no desugared library is used at all. -/
  withoutDesugaredLibrary : Bool
  /-- Whether missing library API levels are modelled. -/
  missingApiModeling : Bool
  /-- Whether the build is one of the platform. -/
  platformBuild : Bool
  /-- Tokens that are passed on to the compiler. -/
  passthrough : List String
deriving DecidableEq, Repr

namespace Options

/-- No choices. -/
def none : Options where
  dump := .none
  compiler := .none
  toggles := .unforced
  version := .none
  compilerJar := .none
  overrideExtraction := false
  plainBuild := false
  jvm := .plain
  classfile := false
  threads := .none
  minApi := .none
  desugaredLibrary := .none
  withoutDesugaredLibrary := false
  missingApiModeling := false
  platformBuild := false
  passthrough := []

/-- What the choices say about the invocation of the compiler. -/
def invocationRequest (options : Options) : Invocation.Request where
  compiler := options.compiler
  minApi := options.minApi
  classfile := options.classfile
  platformBuild := options.platformBuild
  missingApiModeling := options.missingApiModeling

end Options

end DumpReplay.Replay
