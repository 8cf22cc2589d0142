import DumpReplay.Invocation
import DumpReplay.Text.Blank

/-!
# Compile plans

Everything that the command line of a compiler run is made of, and the arguments in the order in
which the compiler reads them.
-/

namespace DumpReplay

/-! ## The JVM -/

/-- The options of the JVM that hosts the compiler. -/
structure Jvm where
  /-- Whether the JVM waits for a debugger. -/
  debugAgent : Bool
  /-- The largest heap. -/
  maxHeap : Option String
  /-- Whether assertions are checked. -/
  assertions : Bool
  /-- Whether the compiler prints how long its phases take. -/
  printTimes : Bool
  /-- Further flags, between blanks. -/
  extraFlags : Option String
deriving DecidableEq, Repr, Inhabited

namespace Jvm

/-- A JVM without options. -/
def plain : Jvm :=
  ⟨false, none, false, false, none⟩

/-- A flag if it is asked for. -/
def flagIf (condition : Bool) (flags : List String) : List String :=
  if condition then flags else []

/-- The arguments for the JVM. -/
def arguments (jvm : Jvm) : List String :=
  flagIf jvm.debugAgent
      ["-agentlib:jdwp=transport=dt_socket,server=y,suspend=y,address=*:5005"]
    ++ (jvm.maxHeap.map fun size => "-Xmx" ++ size).toList
    ++ flagIf jvm.assertions ["-ea", "-Dcom.android.tools.r8.enableTestAssertions=1"]
    ++ flagIf jvm.printTimes ["-Dcom.android.tools.r8.printtimes=1"]
    ++ (jvm.extraFlags.map fun flags => (Text.words flags.toList).map String.ofList).getD []

end Jvm

/-! ## The plan -/

/-- Everything needed to run the compiler on a staged dump. -/
structure Plan where
  /-- The options of the JVM. -/
  jvm : Jvm
  /-- Flags that set system properties. -/
  systemProperties : List String
  /-- The class path of the JVM. -/
  classpath : String
  /-- What is asked of the compiler. -/
  invocation : Invocation
  /-- The work directory. -/
  workDirectory : Path
  /-- The program to compile. -/
  programJar : Path
  /-- The feature archives, in order. -/
  featureJars : List Path
  /-- The library. -/
  libraryJar : Option Path
  /-- The class path of the program. -/
  classpathJar : Option Path
  /-- The description of the desugared library. -/
  desugaredLibrary : Option Path
  /-- The keep rules. -/
  rules : Option Path
  /-- The rules for the main dex file. -/
  mainDexRules : Option Path
  /-- The number of threads. -/
  threads : Option String
  /-- Tokens that are passed on to the compiler. -/
  passthrough : List String
deriving DecidableEq, Repr

namespace Plan

/-- The name of the file that the code of a feature is written to. -/
def featureOutputName (featureJar : Path) : String :=
  featureJar.fileStem.getD "" ++ ".out.jar"

/-- The file in the work directory that the code of a feature is written to. -/
def featureOutput (featureJar workDirectory : Path) : Path :=
  workDirectory.child (featureOutputName featureJar)

/-- The symbol map that is written beside an output. -/
def mapOutput (output : Path) : Path :=
  ⟨output.text ++ ".map"⟩

/-- An option with its value, if there is one. -/
def option (flag : String) (value : Option String) : List String :=
  match value with
  | some value => [flag, value]
  | none => []

/-- An option with a path, if there is one. -/
def pathOption (flag : String) (path : Option Path) : List String :=
  option flag (path.map Path.text)

/-- The keep rules that the compiler is passed. -/
def passedRules (plan : Plan) : Option Path :=
  plan.rules.filter fun _ => plan.invocation.compiler.takesRules

/-- The class path of the program, if the compiler takes one. -/
def passedClasspath (plan : Plan) : Option Path :=
  plan.classpathJar.filter fun _ => plan.invocation.compiler ≠ .l8

/-- The symbol map that the compiler is asked for. -/
def requestedMap (plan : Plan) : Option Path :=
  if plan.invocation.compiler.writesMap plan.passedRules.isSome then
    some (mapOutput plan.invocation.output)
  else none

/-- The arguments for the JVM, up to the class that runs the compiler. -/
def hostArguments (plan : Plan) : List String :=
  plan.jvm.arguments ++ plan.systemProperties ++
    ["-cp", plan.classpath, plan.invocation.compiler.entryPoint]

/-- The arguments for one feature. -/
def featureArguments (plan : Plan) (featureJar : Path) : List String :=
  ["--feature-jar", featureJar.text, (featureOutput featureJar plan.workDirectory).text]

/-- The arguments that name files. -/
def fileArguments (plan : Plan) : List String :=
  Jvm.flagIf plan.invocation.compiler.needsCompatibilityFlag ["--compat"]
    ++ [plan.programJar.text, "--output", plan.invocation.output.text]
    ++ plan.featureJars.flatMap plan.featureArguments
    ++ pathOption "--lib" plan.libraryJar
    ++ pathOption "--classpath" plan.passedClasspath
    ++ pathOption "--desugared-lib" plan.desugaredLibrary
    ++ pathOption "--pg-conf" plan.passedRules
    ++ pathOption "--main-dex-rules" plan.mainDexRules
    ++ pathOption "--pg-map-output" plan.requestedMap

/-- The arguments that say how to compile. -/
def modeArguments (plan : Plan) : List String :=
  option "--min-api" plan.invocation.minApi
    ++ Jvm.flagIf plan.invocation.classfile ["--classfile"]
    ++ Jvm.flagIf plan.invocation.platformBuild ["--android-platform-build"]
    ++ Jvm.flagIf plan.invocation.missingApiModeling ["--enable-missing-library-api-modeling"]
    ++ option "--threads" plan.threads

/-- The arguments of the whole run, in the order in which the compiler reads them. -/
def arguments (plan : Plan) : List String :=
  plan.hostArguments ++ plan.fileArguments ++ plan.modeArguments ++ plan.passthrough

end Plan

end DumpReplay
