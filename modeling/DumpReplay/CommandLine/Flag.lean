import DumpReplay.Text.Line

/-!
# Flags

The flags of the command line: their spellings, and whether and how they take a value.
-/

namespace DumpReplay.CommandLine

/-! ## The flags -/

/-- A flag of the command line. -/
inductive Flag where
  | summary
  | dump
  | temp
  | compiler
  | minify
  | optimize
  | shrink
  | version
  | compilerJar
  | jvmFlags
  | overrideExtraction
  | plainBuild
  | printTimes
  | assertions
  | classfile
  | debugAgent
  | maxHeap
  | threads
  | minApi
  | desugaredLibrary
  | withoutDesugaredLibrary
  | loop
  | missingApiModeling
  | platformBuild
  | config
  | repoRoot
  | javaHome
  | storageUrl
  | verbose
  | quiet
  | help
deriving DecidableEq, Repr, Inhabited

/-- What a flag expects. -/
inductive Flag.Kind where
  /-- Nothing: the flag is there or not. -/
  | switch
  /-- Any text. -/
  | text
  /-- A path that is not empty. -/
  | path
  /-- One of the three words for a shrinker toggle. -/
  | toggle
  /-- Nothing: the flag asks for the help text. -/
  | help
deriving DecidableEq, Repr

namespace Flag

/-- All flags. -/
def all : List Flag :=
  [summary, dump, temp, compiler, minify, optimize, shrink, version, compilerJar, jvmFlags,
    overrideExtraction, plainBuild, printTimes, assertions, classfile, debugAgent, maxHeap,
    threads, minApi, desugaredLibrary, withoutDesugaredLibrary, loop, missingApiModeling,
    platformBuild, config, repoRoot, javaHome, storageUrl, verbose, quiet, help]

/-- The long name of a flag, without the dashes. -/
def long : Flag → String
  | summary => "summary"
  | dump => "dump"
  | temp => "temp"
  | compiler => "compiler"
  | minify => "minify"
  | optimize => "optimize"
  | shrink => "shrink"
  | version => "version"
  | compilerJar => "r8-jar"
  | jvmFlags => "r8-flags"
  | overrideExtraction => "override"
  | plainBuild => "nolib"
  | printTimes => "print-times"
  | assertions => "ea"
  | classfile => "classfile"
  | debugAgent => "debug-agent"
  | maxHeap => "xmx"
  | threads => "threads"
  | minApi => "min-api"
  | desugaredLibrary => "desugared-lib"
  | withoutDesugaredLibrary => "disable-desugared-lib"
  | loop => "loop"
  | missingApiModeling => "enable-missing-library-api-modeling"
  | platformBuild => "android-platform-build"
  | config => "config"
  | repoRoot => "repo-root"
  | javaHome => "java-home"
  | storageUrl => "storage-url"
  | verbose => "verbose"
  | quiet => "quiet"
  | help => "help"

/-- A second long name, which only some flags have. -/
def alias? : Flag → Option String
  | jvmFlags => some "r8_flags"
  | _ => none

/-- The letter of a flag that has one. -/
def short? : Flag → Option Char
  | dump => some 'd'
  | compiler => some 'c'
  | version => some 'v'
  | quiet => some 'q'
  | help => some 'h'
  | _ => none

/-- What a flag expects. -/
def kind : Flag → Kind
  | dump | temp | compilerJar | desugaredLibrary | config | repoRoot | javaHome => .path
  | compiler | version | jvmFlags | maxHeap | threads | minApi | storageUrl => .text
  | minify | optimize | shrink => .toggle
  | help => .help
  | summary | overrideExtraction | plainBuild | printTimes | assertions | classfile | debugAgent
  | withoutDesugaredLibrary | loop | missingApiModeling | platformBuild | verbose | quiet => .switch

/-- Whether a flag is followed by a value. -/
def takesValue (flag : Flag) : Bool :=
  match flag.kind with
  | .text | .path | .toggle => true
  | .switch | .help => false

/-- Whether any token behind the flag is its value, even one that looks like a flag. -/
def takesAnything (flag : Flag) : Bool :=
  flag == jvmFlags

/-- The variable that gives a flag its value where the command line does not. -/
def environmentName? : Flag → Option String
  | config => some "COMPILEDUMP_CONFIG"
  | repoRoot => some "R8_ROOT"
  | javaHome => some "JAVA_HOME"
  | _ => none

/-- The flag as messages show it: its long name and, in capital letters, what it takes. -/
def shown (flag : Flag) : String :=
  let value := flag.long.toList.map fun c => if c = '-' then '_' else c.toUpper
  if flag.takesValue then "--" ++ flag.long ++ " <" ++ String.ofList value ++ ">"
  else "--" ++ flag.long

/-! ## Spellings -/

/-- The flag with a given long name. -/
def ofLong? (name : String) : Option Flag :=
  all.find? fun flag => flag.long == name || flag.alias? == some name

/-- The flag with a given letter. -/
def ofShort? (letter : Char) : Option Flag :=
  all.find? fun flag => flag.short? == some letter

/-- The flag that a whole token spells, with its dashes. -/
def spelled? (token : List Char) : Option Flag :=
  match token with
  | '-' :: '-' :: name => ofLong? (String.ofList name)
  | ['-', letter] => ofShort? letter
  | _ => none

/-- A token that is recognised as a flag. -/
structure Recognized where
  /-- The flag. -/
  flag : Flag
  /-- Whether the token holds the flag's value too. -/
  attached : Bool
deriving DecidableEq, Repr

/-- The flag whose letter is directly followed by more text. -/
def clustered? (token : List Char) : Option Flag :=
  match token with
  | '-' :: letter :: _ :: _ => if letter = '-' then none else ofShort? letter
  | _ => none

/-- The flag that a token is recognised as: spelled out, with or without an equals sign behind it,
or a letter with more text behind it. -/
def recognize? (token : String) : Option Recognized :=
  let name := (Text.cutFirst '=' token.toList).map Prod.fst
  match spelled? (name.getD token.toList) with
  | some flag => some ⟨flag, name.isSome⟩
  | none => (clustered? token.toList).map fun flag => ⟨flag, true⟩

end Flag

end DumpReplay.CommandLine
