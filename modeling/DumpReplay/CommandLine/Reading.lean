import DumpReplay.CommandLine.Splitting
import DumpReplay.Replay.Options

/-!
# Reading a command line

A command line is read token by token.  A flag that takes a value waits for it; it is settled when
the next flag, the first token that is no flag, or the end of the line comes.  From the first token
that is no flag on, everything belongs to the trailing tokens.

Main results:

- `settle_none` : nothing happens where no flag waits.
-/

namespace DumpReplay

/-! ## Results -/

/-- What a command line says. -/
structure CommandLine where
  /-- Whether summaries of the trailing tokens were asked for. -/
  summary : Bool
  /-- The dump. -/
  dump : Option Path
  /-- The directory to work in. -/
  temp : Option Path
  /-- The name of the compiler. -/
  compiler : Option String
  /-- The forced states of the shrinker's phases. -/
  toggles : Shrinker.Toggles
  /-- The version of the compiler. -/
  version : Option String
  /-- A compiler jar. -/
  compilerJar : Option Path
  /-- Further flags for the JVM. -/
  jvmFlags : Option String
  /-- Whether an archive is extracted again. -/
  overrideExtraction : Bool
  /-- Whether the build that is not obfuscated is used. -/
  plainBuild : Bool
  /-- Whether the compiler prints how long its phases take. -/
  printTimes : Bool
  /-- Whether the JVM checks assertions. -/
  assertions : Bool
  /-- Whether class files are written. -/
  classfile : Bool
  /-- Whether the JVM waits for a debugger. -/
  debugAgent : Bool
  /-- The largest heap. -/
  maxHeap : Option String
  /-- The number of threads. -/
  threads : Option String
  /-- The minimal API level. -/
  minApi : Option String
  /-- A description of the desugared library. -/
  desugaredLibrary : Option Path
  /-- Whether no desugared library is used. -/
  withoutDesugaredLibrary : Bool
  /-- Whether the dump is replayed over and over. -/
  loop : Bool
  /-- Whether missing library API levels are modelled. -/
  missingApiModeling : Bool
  /-- Whether the build is one of the platform. -/
  platformBuild : Bool
  /-- The settings file. -/
  config : Option Path
  /-- The checkout of the compiler. -/
  repoRoot : Option Path
  /-- The JDK. -/
  javaHome : Option Path
  /-- The address of the artifact store. -/
  storageUrl : Option String
  /-- Whether more is reported. -/
  verbose : Bool
  /-- Whether less is reported. -/
  quiet : Bool
  /-- The trailing tokens. -/
  rest : List String
deriving DecidableEq, Repr

namespace CommandLine

/-- Why a command line is not accepted. -/
inductive UsageError where
  /-- A flag lacks its value. -/
  | valueRequired (flag : Flag)
  /-- A flag has a value that is none of the words it takes. -/
  | invalidValue (flag : Flag) (value : String)
  /-- A flag that takes no value has one. -/
  | unexpectedValue (flag : Flag) (value : String)
  /-- A flag was given twice. -/
  | repeated (flag : Flag)
  /-- The help text was asked for. -/
  | helpRequested
deriving DecidableEq, Repr

/-- The first line of what is shown for a command line that is not accepted. -/
def UsageError.message : UsageError → String
  | valueRequired flag =>
    "error: a value is required for \x27" ++ flag.shown ++ "\x27 but none was supplied"
  | invalidValue flag value =>
    "error: invalid value \x27" ++ value ++ "\x27 for \x27" ++ flag.shown ++ "\x27"
  | unexpectedValue flag value =>
    "error: unexpected value \x27" ++ value ++ "\x27 for \x27" ++ flag.shown
      ++ "\x27 found; no more were expected"
  | repeated flag =>
    "error: the argument \x27" ++ flag.shown ++ "\x27 cannot be used multiple times"
  | helpRequested => "Compile a dump artifact"

/-! ## Settling flags -/

/-- The flags that are settled, each with its value; a switch has the empty one. -/
abbrev Given := List (Flag × String)

/-- Where the reading stands: what is settled, and the flag that waits, with its value once it has
one. -/
structure Progress where
  /-- The settled flags, the last one first. -/
  given : Given
  /-- The flag that is not settled yet. -/
  pending : Option (Flag × Option String)
deriving DecidableEq, Repr

/-- Whether a flag takes a value. -/
def checkValue (flag : Flag) (value : String) : Except UsageError Unit :=
  match flag.kind with
  | .path => if value = "" then .error (.valueRequired flag) else .ok ()
  | .toggle =>
    if value = "" then .error (.valueRequired flag)
    else
      match Shrinker.Toggle.ofName? value with
      | some _ => .ok ()
      | none => .error (.invalidValue flag value)
  | _ => .ok ()

/-- Settle a flag with its value: it must not be settled yet, and must take the value. -/
def accept (given : Given) (flag : Flag) (value : String) : Except UsageError Given := do
  if given.any fun entry => entry.1 = flag then .error (.repeated flag)
  else
    checkValue flag value
    .ok ((flag, value) :: given)

/-- Settle the flag that waits, if there is one. -/
def settle (progress : Progress) : Except UsageError Given :=
  match progress.pending with
  | none => .ok progress.given
  | some (flag, none) => .error (.valueRequired flag)
  | some (flag, some value) => accept progress.given flag value

/-- Nothing happens where no flag waits. -/
@[simp] theorem settle_none (given : Given) : settle ⟨given, none⟩ = .ok given := rfl

/-- The flag that waits for the next token. -/
def Progress.awaiting (progress : Progress) : Option Flag :=
  match progress.pending with
  | some (flag, none) => some flag
  | _ => none

/-- Settle what waits, then a flag with its value. -/
def settleWith (progress : Progress) (flag : Flag) (value : String) :
    Except UsageError Progress := do
  let given ← accept (← settle progress) flag value
  .ok ⟨given, none⟩

/-- Settle what waits, and let a flag wait for its value. -/
def await (progress : Progress) (flag : Flag) : Except UsageError Progress := do
  let given ← settle progress
  .ok ⟨given, some (flag, none)⟩

/-- Settle what waits, then end with the request for help. -/
def askHelp (progress : Progress) : Except UsageError Progress := do
  let _ ← settle progress
  .error .helpRequested

/-! ## Tokens -/

/-- Read a flag that is spelled out. -/
def readLong (progress : Progress) (flag : Flag) (attached : Option String) :
    Except UsageError Progress :=
  match flag.takesValue, attached with
  | true, some value => settleWith progress flag value
  | true, none => await progress flag
  | false, some value => .error (.unexpectedValue flag value)
  | false, none => if flag = .help then askHelp progress else settleWith progress flag ""

/-- Read flags given by their letters in one token; the first that takes a value takes the letters
behind it, if there are any. -/
def readLetters (progress : Progress) : List Char → Except UsageError Progress
  | [] => .ok progress
  | letter :: rest =>
    match Flag.ofShort? letter with
    | none => .ok progress
    | some flag =>
      if flag.takesValue then
        if rest.isEmpty then await progress flag
        else settleWith progress flag (String.ofList rest)
      else if flag = .help then askHelp progress
      else do
        readLetters (← settleWith progress flag "") rest

/-- What a token is in its place. -/
inductive Token where
  /-- The separator before trailing tokens. -/
  | separator
  /-- A flag spelled out, with the value behind its equals sign. -/
  | long (flag : Flag) (attached : Option String)
  /-- Flags given by their letters. -/
  | letters (letters : List Char)
  /-- A value or a trailing token. -/
  | plain
deriving DecidableEq, Repr

/-- What a token is where a flag may stand. -/
def classify (token : String) : Token :=
  match token.toList with
  | '-' :: '-' :: [] => .separator
  | '-' :: '-' :: name =>
    match Text.cutFirst '=' name with
    | some (name, value) =>
      match Flag.ofLong? (String.ofList name) with
      | some flag => .long flag (some (String.ofList value))
      | none => .plain
    | none =>
      match Flag.ofLong? (String.ofList name) with
      | some flag => .long flag none
      | none => .plain
  | '-' :: letter :: rest =>
    if (letter :: rest).all fun c => (Flag.ofShort? c).isSome then .letters (letter :: rest)
    else .plain
  | _ => .plain

/-- Read tokens up to the first trailing one. -/
def readTokens (progress : Progress) : List String → Except UsageError (Progress × List String)
  | [] => .ok (progress, [])
  | token :: rest =>
    match progress.awaiting with
    | some waiting =>
      if waiting.takesAnything then
        readTokens { progress with pending := some (waiting, some token) } rest
      else
        match classify token with
        | .separator => .ok (progress, rest)
        | .long flag attached => do readTokens (← readLong progress flag attached) rest
        | .letters letters => do readTokens (← readLetters progress letters) rest
        | .plain => readTokens { progress with pending := some (waiting, some token) } rest
    | none =>
      match classify token with
      | .separator => .ok (progress, rest)
      | .long flag attached => do readTokens (← readLong progress flag attached) rest
      | .letters letters => do readTokens (← readLetters progress letters) rest
      | .plain => .ok (progress, token :: rest)

/-! ## The whole line -/

/-- Add the flags that take their values from variables and were not given. -/
def withVariables (environment : List (String × String)) (given : Given) :
    Except UsageError Given :=
  Flag.all.foldlM (fun given flag =>
    match flag.environmentName?.bind fun name => environment.lookup name with
    | some value => if given.any fun entry => entry.1 = flag then .ok given else accept given flag value
    | none => .ok given) given

/-- Whether a switch was given. -/
def Given.has (given : Given) (flag : Flag) : Bool :=
  (given.lookup flag).isSome

/-- The path given for a flag. -/
def Given.path? (given : Given) (flag : Flag) : Option Path :=
  (given.lookup flag).map Path.mk

/-- The state given for a shrinker toggle. -/
def Given.toggle (given : Given) (flag : Flag) : Shrinker.Toggle :=
  ((given.lookup flag).bind Shrinker.Toggle.ofName?).getD .default

/-- What settled flags and trailing tokens say. -/
def ofGiven (given : Given) (rest : List String) : CommandLine where
  summary := Given.has given .summary
  dump := Given.path? given .dump
  temp := Given.path? given .temp
  compiler := given.lookup .compiler
  toggles := ⟨Given.toggle given .minify, Given.toggle given .optimize, Given.toggle given .shrink⟩
  version := given.lookup .version
  compilerJar := Given.path? given .compilerJar
  jvmFlags := given.lookup .jvmFlags
  overrideExtraction := Given.has given .overrideExtraction
  plainBuild := Given.has given .plainBuild
  printTimes := Given.has given .printTimes
  assertions := Given.has given .assertions
  classfile := Given.has given .classfile
  debugAgent := Given.has given .debugAgent
  maxHeap := given.lookup .maxHeap
  threads := given.lookup .threads
  minApi := given.lookup .minApi
  desugaredLibrary := Given.path? given .desugaredLibrary
  withoutDesugaredLibrary := Given.has given .withoutDesugaredLibrary
  loop := Given.has given .loop
  missingApiModeling := Given.has given .missingApiModeling
  platformBuild := Given.has given .platformBuild
  config := Given.path? given .config
  repoRoot := Given.path? given .repoRoot
  javaHome := Given.path? given .javaHome
  storageUrl := given.lookup .storageUrl
  verbose := Given.has given .verbose
  quiet := Given.has given .quiet
  rest := rest

/-- Read a command line, without the program name, as it stands. -/
def parse (environment : List (String × String)) (arguments : List String) :
    Except UsageError CommandLine := do
  let (progress, rest) ← readTokens ⟨[], none⟩ arguments
  let given ← withVariables environment (← settle progress)
  .ok (ofGiven given rest)

/-- Read a command line, the program name included, after moving the tokens that are no flags behind
the flags. -/
def parseKnown (environment : List (String × String)) (line : List String) :
    Except UsageError CommandLine :=
  parse environment (split line).tail

/-- The choices for a replay that a command line makes. -/
def options (line : CommandLine) : Replay.Options where
  dump := line.dump
  compiler := line.compiler
  toggles := line.toggles
  version := line.version
  compilerJar := line.compilerJar
  overrideExtraction := line.overrideExtraction
  plainBuild := line.plainBuild
  jvm := {
    debugAgent := line.debugAgent
    maxHeap := line.maxHeap
    assertions := line.assertions
    printTimes := line.printTimes
    extraFlags := line.jvmFlags }
  classfile := line.classfile
  threads := line.threads
  minApi := line.minApi
  desugaredLibrary := line.desugaredLibrary
  withoutDesugaredLibrary := line.withoutDesugaredLibrary
  missingApiModeling := line.missingApiModeling
  platformBuild := line.platformBuild
  passthrough := line.rest

/-- The trailing tokens as the dumps to summarise. -/
def summaryPaths (line : CommandLine) : List Path :=
  line.rest.map Path.mk

end CommandLine

end DumpReplay
