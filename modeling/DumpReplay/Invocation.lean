import DumpReplay.Failure
import DumpReplay.Properties
import DumpReplay.Text.Lowercase

/-!
# Invocations

What a replay asks of the compiler.  Each value is taken from the command line, else from the build
properties of the dump, else it is absent.
-/

namespace DumpReplay

/-! ## The compiler -/

namespace Compiler

/-- The compiler of a given name. -/
def ofName (wanted : String) : Except Failure Compiler :=
  match ofName? wanted with
  | some compiler => .ok compiler
  | none => .error (.configuration (.unknownCompiler wanted))

/-- The compiler that build properties name in their key `tool`, in letters of either case.  The
shrinker runs in full mode exactly when the dump says that it was not compatible with older rules;
a dump that does not say is refused. -/
def ofProperties (properties : Properties) : Except Failure Compiler :=
  match properties.get? "tool" with
  | none => .error (.configuration .noCompiler)
  | some tool =>
    let tool := String.ofList (Text.lowercase tool.toList)
    if tool = "r8" then
      match properties.get? "force-proguard-compatibility" with
      | none => .error (.configuration .unclearMode)
      | some compatible =>
        if Text.equalIgnoringCase compatible.toList "false".toList then .ok .r8full else .ok .r8
    else ofName tool

/-- The compiler of a replay: the one that was asked for, else the one the properties name. -/
def resolve (requested : Option String) (properties : Properties) : Except Failure Compiler :=
  match requested with
  | some name => ofName name
  | none => ofProperties properties

end Compiler

/-- The minimal API level of a replay: the one that was asked for, else the recorded one. -/
def resolveMinApi (requested : Option String) (properties : Properties) : Option String :=
  requested.or (properties.get? "min-api")

/-! ## The invocation -/

/-- The values decided for one replay. -/
structure Invocation where
  /-- The compiler to run. -/
  compiler : Compiler
  /-- The minimal API level, if there is one. -/
  minApi : Option String
  /-- The file that the compiler writes. -/
  output : Path
  /-- Whether class files are written. -/
  classfile : Bool
  /-- Whether the build is one of the platform. -/
  platformBuild : Bool
  /-- Whether missing library API levels are modelled. -/
  missingApiModeling : Bool
deriving DecidableEq, Repr

namespace Invocation

/-- What the command line says about an invocation. -/
structure Request where
  /-- The name of a compiler. -/
  compiler : Option String
  /-- A minimal API level. -/
  minApi : Option String
  /-- Whether class files were asked for. -/
  classfile : Bool
  /-- Whether a platform build was asked for. -/
  platformBuild : Bool
  /-- Whether the modelling of missing API levels was asked for. -/
  missingApiModeling : Bool
deriving DecidableEq, Repr

/-- The file in the work directory that the compiler writes. -/
def outputIn (workDirectory : Path) : Path :=
  workDirectory.child "out.jar"

/-- Decide the values of a replay. -/
def resolve (request : Request) (properties : Properties) (workDirectory : Path) :
    Except Failure Invocation :=
  (Compiler.resolve request.compiler properties).map fun compiler =>
    { compiler := compiler
      minApi := resolveMinApi request.minApi properties
      output := outputIn workDirectory
      classfile := request.classfile || properties.contains "classfile"
      platformBuild := request.platformBuild || properties.isTrue "android-platform-build"
      missingApiModeling :=
        request.missingApiModeling || properties.isTrue "enable-missing-library-api-modeling" }

end Invocation

end DumpReplay
