import DumpReplay.Compiler
import DumpReplay.Host.IoError
import DumpReplay.Host.Path
import DumpReplay.Version
import DumpReplay.Yaml.Fault
import DumpReplay.Zip.Fault

/-!
# Failures

The causes for which an operation of the library fails, in ten categories, and the text of each:
the words of the category, a colon, and the text of the cause.
-/

namespace DumpReplay

/-! ## Causes -/

/-- What can be wrong with the configuration of a replay. -/
inductive ConfigurationFault where
  /-- The settings file cannot be read. -/
  | unreadableSettings (file : Path) (cause : IoError)
  /-- The settings give no address for the artifact store. -/
  | emptyStore
  /-- The settings use variables that are not set. -/
  | unsetVariables (names : List String)
  /-- Neither the command line nor the dump names a compiler. -/
  | noCompiler
  /-- There is no compiler of the given name. -/
  | unknownCompiler (name : String)
  /-- The dump names the shrinker but not its mode. -/
  | unclearMode
  /-- No dump was given. -/
  | noDump
  /-- Neither the command line nor the dump names a version. -/
  | noVersion
  /-- A program is missing from the JDK. -/
  | notInJdk (program : String) (home : Path)
  /-- A program is in no directory of the search path. -/
  | notOnSearchPath (program : String)
  /-- A summary of no dumps was asked for. -/
  | nothingToSummarize
  /-- The consumer of the keep rules refused them. -/
  | refused (text : String)
deriving DecidableEq, Repr

/-- What can be wrong with a dump. -/
inductive DumpFault where
  /-- The dump cannot be opened. -/
  | cannotOpen (dump : Path) (cause : IoError)
  /-- The version file is missing after an extraction. -/
  | notExtracted (directory : Path)
  /-- The dump has no program archive. -/
  | noProgram
deriving DecidableEq, Repr

/-- What can be wrong with a request to the artifact store before or while it is answered. -/
inductive RequestFault where
  /-- The address cannot be read. -/
  | badAddress
  /-- The address, given in normal form, names no scheme that can be used. -/
  | unsupportedAddress (url : String)
  /-- The request got no answer. -/
  | notSent (url : String)
  /-- The answer broke off. -/
  | brokenBody
deriving DecidableEq, Repr

/-- What can go wrong with a process. -/
inductive ProcessFault where
  /-- The program cannot be started. -/
  | cannotStart (program : Path) (cause : IoError)
  /-- The program did not succeed; a killed one has no exit code. -/
  | unsuccessful (program : Path) (code : Option Nat) (output : String)
deriving DecidableEq, Repr

/-- Why retracing is not possible. -/
inductive RetraceFault where
  /-- The checkout has no symbol map. -/
  | noLocalMap (map : Path) (version : Version)
  /-- The artifact store has no symbol map. -/
  | noRemoteMap (version : Version)
  /-- The version has no symbol map at all. -/
  | noMap (version : Version)
deriving DecidableEq, Repr

/-- Why an operation failed. -/
inductive Failure where
  /-- A file or directory could not be used. -/
  | io (cause : IoError)
  /-- The configuration is unusable. -/
  | configuration (cause : ConfigurationFault)
  /-- The dump is unusable. -/
  | dump (cause : DumpFault)
  /-- An archive is unusable. -/
  | archive (cause : Zip.Fault)
  /-- The settings are no valid YAML for settings. -/
  | yaml (cause : Yaml.Fault)
  /-- A request to the artifact store failed. -/
  | request (cause : RequestFault)
  /-- The artifact store answered with a status that is no success. -/
  | badAnswer (url : String) (answer : String)
  /-- A version has no build in the artifact store. -/
  | noArtifact (version : Version)
  /-- A build could not be fetched. -/
  | notFetched (artifact : String) (version : Version) (cause : Failure)
  /-- The jar of the compiler is missing. -/
  | noDistribution (jar : Path)
  /-- An entry of the class path holds the character that separates entries. -/
  | separatorInClasspath
  /-- A process failed. -/
  | process (cause : ProcessFault)
  /-- Retracing is not possible. -/
  | retrace (cause : RetraceFault)
deriving DecidableEq, Repr

/-! ## Texts -/

namespace ConfigurationFault

/-- The text of a configuration fault. -/
def message : ConfigurationFault → String
  | unreadableSettings file cause =>
    "Failed to read config file " ++ file.text ++ ": " ++ cause.message
  | emptyStore => "storage_url must not be empty"
  | unsetVariables names => "Missing environment variables: " ++ String.intercalate ", " names
  | noCompiler =>
    "Unable to determine a compiler to use. Specified none, Valid options: " ++ Compiler.allNames
  | unknownCompiler name =>
    "Unable to determine a compiler to use. Specified " ++ name ++ ", Valid options: "
      ++ Compiler.allNames
  | unclearMode =>
    "Unable to determine R8 compiler variant from build.properties. "
      ++ "No value for \x27force-proguard-compatibility\x27."
  | noDump => "A dump file or directory must be specified"
  | noVersion => "Unable to determine a compiler version: the dump has no version file"
  | notInJdk program home => "No " ++ program ++ " in JDK at " ++ home.text
  | notOnSearchPath program =>
    "Unable to find " ++ program ++ " on PATH: cannot find binary path"
  | nothingToSummarize => "Summary command expects a list of dumps to summarize"
  | refused text => text

end ConfigurationFault

namespace DumpFault

/-- The text of a dump fault. -/
def message : DumpFault → String
  | cannotOpen dump cause => "Failed to open dump " ++ dump.text ++ ": " ++ cause.message
  | notExtracted directory =>
    "Did not extract into " ++ directory.text
      ++ ". Either the zip file is invalid or the dump is missing files"
  | noProgram => "Cannot compile dump with no program classes"

end DumpFault

namespace RequestFault

/-- The text of a request fault. -/
def message : RequestFault → String
  | badAddress => "builder error"
  | unsupportedAddress url => "builder error for url (" ++ url ++ ")"
  | notSent url => "error sending request for url (" ++ url ++ ")"
  | brokenBody => "error decoding response body"

end RequestFault

namespace ProcessFault

/-- An exit code as messages show it. -/
def codeText : Option Nat → String
  | some code => "Some(" ++ toString code ++ ")"
  | none => "None"

/-- The text of a process fault. -/
def message : ProcessFault → String
  | cannotStart program cause =>
    "Failed to execute " ++ program.text ++ ": " ++ cause.message
  | unsuccessful program code output =>
    program.text ++ " failed with exit code " ++ codeText code ++ ":\n" ++ output

end ProcessFault

namespace RetraceFault

/-- The text of a retrace fault. -/
def message : RetraceFault → String
  | noLocalMap map version =>
    "Could not find map file " ++ map.text ++ " for version " ++ version.display
  | noRemoteMap version => "Could not find map file from argument: " ++ version.display
  | noMap version => "No map file for version " ++ version.display

end RetraceFault

namespace Failure

/-- The ten categories of failures. -/
inductive Category where
  | io
  | configuration
  | dump
  | archive
  | yaml
  | http
  | network
  | distribution
  | execution
  | retrace
deriving DecidableEq, Repr

/-- The category of a failure. -/
def category : Failure → Category
  | io _ => .io
  | configuration _ => .configuration
  | dump _ => .dump
  | archive _ => .archive
  | yaml _ => .yaml
  | request _ => .http
  | badAnswer _ _ => .network
  | noArtifact _ | notFetched _ _ _ | noDistribution _ | separatorInClasspath => .distribution
  | process _ => .execution
  | retrace _ => .retrace

/-- The words that every message of a category starts with. -/
def Category.label : Category → String
  | .io => "IO error"
  | .configuration => "Configuration error"
  | .dump => "Dump error"
  | .archive => "Archive error"
  | .yaml => "YAML error"
  | .http => "HTTP error"
  | .network => "Network error"
  | .distribution => "Distribution error"
  | .execution => "Execution error"
  | .retrace => "Retrace error"

/-- The text of a failure without the words of its category. -/
def detail : Failure → String
  | io cause => cause.message
  | configuration cause => cause.message
  | dump cause => cause.message
  | archive cause => cause.message
  | yaml cause => cause.message
  | request cause => cause.message
  | badAnswer url answer => "Download of " ++ url ++ " failed with status: " ++ answer
  | noArtifact version => "No remote artifact for " ++ version.display
  | notFetched artifact version cause =>
    "Unable to fetch " ++ artifact ++ " for version " ++ version.display ++ ": "
      ++ cause.category.label ++ ": " ++ cause.detail
  | noDistribution jar => "Distribution does not exist: " ++ jar.text
  | separatorInClasspath =>
    "Invalid classpath entry: path segment contains separator \x60:\x60"
  | process cause => cause.message
  | retrace cause => cause.message

/-- The text of a failure: the words of its category, a colon, and the text of its cause. -/
def message (failure : Failure) : String :=
  failure.category.label ++ ": " ++ failure.detail

end Failure

end DumpReplay
