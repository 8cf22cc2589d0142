import DumpReplay.Replay.Run

/-!
# Supplying compilers and symbol maps

Unless a replay is given a compiler, it finds one by its version, and later the symbol map by the same
version, in another way.  Both are files of one build: a replay stays the same if it knows of a version
only where its build is kept.

Main results:

- `acquire_eq_acquireFrom`, `mapSource?_eq` : the jar and the symbol map of a version are files of its
  build.
- `Supply.Alike.run_eq` : a replay asks for no symbol map of class files.
- `jar_and_map_of_one_build` : output is retraced with the symbol map that is kept beside the jar.
-/

namespace DumpReplay

/-- What the name of a file ends with, its path ends with. -/
theorem Path.child_append {name : String} (hname : name ≠ "") (directory : Path) (ending : String) :
    directory.child (name ++ ending) = ⟨(directory.child name).text ++ ending⟩ := by
  obtain ⟨c, rest, hfront⟩ := List.exists_cons_of_ne_nil (mt String.toList_eq_nil_iff.mp hname)
  have habsolute : (Path.mk (name ++ ending)).isAbsolute = (Path.mk name).isAbsolute := by
    rw [isAbsolute, isAbsolute, toList_mk, toList_mk, String.toList_append, hfront, List.cons_append,
      List.head?_cons, List.head?_cons]
  unfold child join
  rw [habsolute]
  split
  · rfl
  · split
    · simp only [String.append_assoc]
    · simp only [String.append_assoc]

/-- The checkout keeps its jars under the names that they have in the store. -/
theorem Toolchain.child_distributionName (tools : Toolchain) (plain : Bool) :
    tools.libraries.child (Store.distributionName plain) =
      if plain then tools.plainJar else tools.libraryJar := by
  cases plain with
  | false =>
    rw [if_neg Bool.false_ne_true]
    rfl
  | true =>
    rw [if_pos rfl]
    rfl

namespace Replay

open DumpReplay.Action

/-! ## Builds -/

/-- Where a build of the compiler is kept: in a directory, or in a folder of a store. -/
inductive Build where
  /-- A directory. -/
  | directory (path : Path)
  /-- A folder, by its address. -/
  | folder (address : String)
deriving DecidableEq, Repr

/-- Where the build of a version is kept; class files are not kept as a build. -/
def buildOf? (version : Version) (tools : Toolchain) : Option Build :=
  match version with
  | .main => some (.directory tools.libraries)
  | .source => none
  | .hash digits => some (.folder ((Store.ofAddress tools.store).base ++ "/main/" ++ digits))
  | .release name => some (.folder ((Store.ofAddress tools.store).base ++ "/" ++ name))

/-- Where a file of a build is. -/
def Build.place (build : Build) (name : String) : MapSource :=
  match build with
  | directory path => .local (path.child name)
  | folder address => .remote (address ++ "/" ++ name)

/-- The place that is written like another one, with an ending. -/
def MapSource.followedBy (place : MapSource) (ending : String) : MapSource :=
  match place with
  | .local file => .local ⟨file.text ++ ending⟩
  | .remote url => .remote (url ++ ending)

variable {version : Version} {tools : Toolchain} {build : Build} {plain : Bool} {work : Path}

/-- Every version but the class files of a checkout is kept as a build. -/
theorem exists_buildOf? (hsource : version ≠ .source) (tools : Toolchain) :
    ∃ build, buildOf? version tools = some build := by
  cases version with
  | main => exact ⟨_, rfl⟩
  | source => exact absurd rfl hsource
  | hash digits => exact ⟨_, rfl⟩
  | release name => exact ⟨_, rfl⟩

/-- What the name of a file of a build ends with, its place ends with. -/
theorem Build.place_append (build : Build) {name : String} (hname : name ≠ "") (ending : String) :
    build.place (name ++ ending) = (build.place name).followedBy ending := by
  cases build with
  | directory path => exact congrArg MapSource.local (path.child_append hname ending)
  | folder address => exact congrArg MapSource.remote String.append_assoc.symm

/-! ## The files of a build -/

/-- Take the jar of a version: one that stands in a directory is used there, any other one is fetched
into the work directory. -/
def takeJar (place : MapSource) (version : Version) (plain : Bool) (work : Path) :
    Action Distribution := do
  match place with
  | .local file => return .jar file
  | .remote url =>
    let target := work.child Store.plainJar
    match ← Action.attempt (Action.download url target) with
    | .ok () => return .jar target
    | .error cause => Action.fail (.notFetched (Store.distributionName plain) version cause)

/-- Find the distribution of a version, given where its jar is. -/
def acquireFrom (place : MapSource) (version : Version) (plain : Bool) (work : Path) :
    Action Distribution := do
  let distribution ← takeJar place version plain work
  Action.inform ("Using distribution: " ++ distribution.shown)
  return distribution

/-- Find the symbol map of a version, given where it is. -/
def fetchMapFrom (place : MapSource) (version : Version) (work : Path) : Action Path := do
  match place with
  | .local file =>
    if ← Action.pathExists file then return file
    else Action.fail (.retrace (.noLocalMap file version))
  | .remote url =>
    if ← Action.isAvailable url then
      let target := work.child "mapping.map"
      Action.download url target
      return target
    else Action.fail (.retrace (.noRemoteMap version))

/-- The distribution of a version is the jar of its build. -/
theorem acquire_eq_acquireFrom (h : buildOf? version tools = some build) :
    Distribution.acquire version plain work tools =
      acquireFrom (build.place (Store.distributionName plain)) version plain work := by
  cases version with
  | main =>
    obtain rfl := Option.some.inj h
    unfold Distribution.acquire acquireFrom
    dsimp only
    rw [← tools.child_distributionName]
    rfl
  | source => exact absurd h.symm (Option.some_ne_none build)
  | hash digits =>
    obtain rfl := Option.some.inj h
    rfl
  | release name =>
    obtain rfl := Option.some.inj h
    rfl

/-- The symbol map of a version is a file of its build. -/
theorem mapSource?_eq (version : Version) (tools : Toolchain) :
    mapSource? version tools = (buildOf? version tools).map fun build => build.place Store.libraryMap := by
  cases version <;> rfl

/-- The symbol map is found there. -/
theorem fetchMap_eq (version : Version) (work : Path) (tools : Toolchain) :
    fetchMap version work tools =
      match buildOf? version tools with
      | some build => fetchMapFrom (build.place Store.libraryMap) version work
      | none => Action.fail (.retrace (.noMap version)) := by
  cases version <;> rfl

/-- Jar and symbol map of a version are kept beside each other in a build. -/
structure Build.Supplies (build : Build) (version : Version) (plain : Bool) (tools : Toolchain) :
    Prop where
  /-- The build is that of the version. -/
  buildOf?_eq : buildOf? version tools = some build
  /-- Its jar is the one of the checkout, or the one at the address in the store. -/
  place_jar :
    (version = .main ∧ build.place Store.libraryJar = .local tools.libraryJar) ∨
      ∃ url, (Store.ofAddress tools.store).artifactUrl? version (Store.distributionName plain) =
        some url ∧ build.place Store.libraryJar = .remote url
  /-- The distribution is that jar. -/
  acquire_eq : ∀ work, Distribution.acquire version plain work tools =
    acquireFrom (build.place Store.libraryJar) version plain work
  /-- The symbol map has the place of the jar, with an ending. -/
  mapSource?_eq :
    mapSource? version tools = some ((build.place Store.libraryJar).followedBy ".map")
  /-- That is where the build has its symbol map. -/
  place_map : (build.place Store.libraryJar).followedBy ".map" = build.place Store.libraryMap

/-- Where output is retraced, the jar and the symbol map are those of one build. -/
theorem exists_supplies (h : shouldRetrace (some version) plain = true) (tools : Toolchain) :
    ∃ build : Build, build.Supplies version plain tools := by
  obtain ⟨hplain, other, hsame, hsource⟩ := shouldRetrace_iff.mp h
  obtain rfl := Option.some.inj hsame
  obtain ⟨build, hbuild⟩ := exists_buildOf? hsource tools
  have hjar : Store.distributionName plain = Store.libraryJar := by
    rw [hplain]
    rfl
  have hname : Store.libraryMap = Store.libraryJar ++ ".map" := by decide
  have hmap : build.place Store.libraryMap = (build.place Store.libraryJar).followedBy ".map" := by
    rw [hname]
    exact build.place_append (by decide) ".map"
  refine ⟨build, hbuild, ?_, fun work => ?_, ?_, hmap.symm⟩
  · rw [hjar]
    cases version with
    | main =>
      obtain rfl := Option.some.inj hbuild
      exact .inl ⟨rfl, rfl⟩
    | source => exact absurd rfl hsource
    | hash digits =>
      obtain rfl := Option.some.inj hbuild
      exact .inr ⟨_, rfl, rfl⟩
    | release name =>
      obtain rfl := Option.some.inj hbuild
      exact .inr ⟨_, rfl, rfl⟩
  · rw [acquire_eq_acquireFrom hbuild, hjar]
  · rw [mapSource?_eq, hbuild, ← hmap]
    rfl

/-! ## Replays -/

/-- The two ways in which a replay comes by what a version names. -/
structure Supply where
  /-- The distribution, for the plain or the obfuscated build. -/
  acquire : Version → Bool → Path → Toolchain → Action Distribution
  /-- The symbol map. -/
  fetchMap : Version → Path → Toolchain → Action Path

namespace Supply

/-- The supply of a replay. -/
def own : Supply :=
  ⟨Distribution.acquire, Replay.fetchMap⟩

/-- A supply that knows of a version only where its build is kept.  Class files have no symbol map, and
what is done when one is asked for is left open. -/
def ofBuilds (otherwise : Version → Action Path) : Supply where
  acquire version plain work tools :=
    match buildOf? version tools with
    | some build => acquireFrom (build.place (Store.distributionName plain)) version plain work
    | none => Distribution.acquire version plain work tools
  fetchMap version work tools :=
    match buildOf? version tools with
    | some build => fetchMapFrom (build.place Store.libraryMap) version work
    | none => otherwise version

section

variable (supply : Supply)

/-- The compiler of a replay with another supply. -/
def distributionFor (options : Options) (version : Option Version) (work : Path)
    (tools : Toolchain) : Action Distribution := do
  let distribution ← match options.compilerJar, version with
    | some file, _ => pure (Distribution.jar file)
    | none, some version => supply.acquire version options.plainBuild work tools
    | none, none => Action.fail (.configuration .noVersion)
  distribution.verify
  return distribution

/-- Retracing with another supply. -/
def retrace (output : String) (version : Version) (work : Path) (tools : Toolchain) (jdk : Jdk) :
    Action String := do
  let stacktrace := work.child "stacktrace"
  Action.writeText stacktrace output
  let map ← supply.fetchMap version work tools
  Action.runChecked ⟨← jdk.java, retraceArguments tools map stacktrace⟩

/-- An attempt at retracing with another supply. -/
def tryRetrace (output : String) (version : Version) (work : Path) (tools : Toolchain)
    (jdk : Jdk) : Action Bool := do
  match ← Action.attempt (supply.retrace output version work tools jdk) with
  | .ok retraced =>
    Action.printLine banner
    Action.printLine retraced
    return true
  | .error failure =>
    Action.warn ("Failed to retrace for version: " ++ version.display)
    Action.warn failure.message
    Action.inform "Printing raw compiler output"
    return false

/-- What a replay with another supply prints when the compiler failed. -/
def reportFailure (run : CapturedRun) (staged : Staged) (options : Options) (work : Path)
    (tools : Toolchain) (jdk : Jdk) : Action Unit := do
  let retraced ← match staged.version with
    | some version =>
      if shouldRetrace (some version) options.plainBuild then
        supply.tryRetrace run.output version work tools jdk
      else pure false
    | none => pure false
  if !retraced then Action.printLine run.output

/-- The end of a replay with another supply. -/
def conclude (run : CapturedRun) (staged : Staged) (options : Options) (work : Path)
    (tools : Toolchain) (jdk : Jdk) : Action Status := do
  if run.success then
    Action.printLine run.output
    Action.inform ("Compilation succeeded, output in " ++ staged.invocation.output.text)
    return .succeeded
  else
    supply.reportFailure run staged options work tools jdk
    return .compilerFailed

/-- A replay with another supply in a work directory that exists. -/
def runIn (work : Path) (options : Options) (tools : Toolchain) (hooks : Hooks) :
    Action Status := do
  let staged ← stage options work
  let jdk : Jdk := ⟨tools.javaHome⟩
  let distribution ← supply.distributionFor options staged.version work tools
  Adapters.prepare (← jdk.javac) distribution work tools
  warnOfDebugger options
  let rules ← prepareRules staged options hooks
  let plan ← planFor staged options hooks distribution rules work
  let run ← Action.runCaptured ⟨← jdk.java, plan.arguments⟩
  supply.conclude run staged options work tools jdk

/-- A replay with another supply. -/
def run (directory : Option Path) (options : Options) (tools : Toolchain) (hooks : Hooks) :
    Action Status := do
  match directory with
  | some directory =>
    Action.makeDirectories directory
    supply.runIn directory options tools hooks
  | none => Action.withScratch fun scratch => supply.runIn scratch options tools hooks

end

/-- With its own supply a replay is what it is. -/
theorem run_own : own.run = Replay.run := rfl

/-- A supply by builds is the own one of a replay if it fails when it is asked for the symbol map of class
files. -/
theorem ofBuilds_noMap : ofBuilds (fun version => Action.fail (.retrace (.noMap version))) = own := by
  unfold ofBuilds own
  congr
  · funext version plain work tools
    cases hbuild : buildOf? version tools with
    | none => rfl
    | some build => exact (acquire_eq_acquireFrom hbuild).symm
  · funext version work tools
    exact (fetchMap_eq version work tools).symm

/-! ## Supplies that a replay cannot tell apart -/

/-- Two supplies are alike if they differ at most in the symbol map of class files. -/
structure Alike (supply other : Supply) : Prop where
  acquire_eq : supply.acquire = other.acquire
  fetchMap_eq : ∀ version, version ≠ .source → supply.fetchMap version = other.fetchMap version

theorem alike_ofBuilds (otherwise otherwise' : Version → Action Path) :
    (ofBuilds otherwise).Alike (ofBuilds otherwise') := by
  refine ⟨rfl, fun version hsource => ?_⟩
  funext work tools
  obtain ⟨build, hbuild⟩ := exists_buildOf? hsource tools
  unfold ofBuilds
  dsimp only
  rw [hbuild]

namespace Alike

variable {supply other : Supply} (h : supply.Alike other)
include h

theorem distributionFor_eq : supply.distributionFor = other.distributionFor := by
  unfold distributionFor
  rw [h.acquire_eq]

theorem tryRetrace_eq (hsource : version ≠ .source) (output : String) (work : Path)
    (tools : Toolchain) (jdk : Jdk) :
    supply.tryRetrace output version work tools jdk = other.tryRetrace output version work tools jdk := by
  unfold tryRetrace retrace
  rw [h.fetchMap_eq version hsource]

/-- Output is not retraced for class files, so that nobody asks for their symbol map. -/
theorem reportFailure_eq (run : CapturedRun) (staged : Staged) (options : Options) (work : Path)
    (tools : Toolchain) (jdk : Jdk) :
    supply.reportFailure run staged options work tools jdk =
      other.reportFailure run staged options work tools jdk := by
  unfold reportFailure
  cases staged.version with
  | none => rfl
  | some version =>
    dsimp only
    cases hretraced : shouldRetrace (some version) options.plainBuild with
    | false => rw [if_neg Bool.false_ne_true, if_neg Bool.false_ne_true]
    | true =>
      obtain ⟨_, asked, hsame, hsource⟩ := shouldRetrace_iff.mp hretraced
      obtain rfl := Option.some.inj hsame
      rw [h.tryRetrace_eq hsource]

theorem conclude_eq : supply.conclude = other.conclude := by
  funext run staged options work tools jdk
  unfold conclude
  rw [h.reportFailure_eq]

/-- Supplies that are alike lead to the same replay. -/
theorem run_eq : supply.run = other.run := by
  unfold run runIn
  rw [h.distributionFor_eq, h.conclude_eq]

end Alike

end Supply

/-- Whenever output is retraced, the distribution that is found for the version is the jar of its build,
in the checkout or in the store, and the symbol map has the place of that jar with an ending, which is where
the same build keeps it.  A replay is the same one if it takes both from the build and does anything else
where a version has no symbol map: it never comes to that. -/
theorem jar_and_map_of_one_build (tools : Toolchain) :
    (∀ (token : String) (plain : Bool), shouldRetrace (some (.parse token)) plain = true →
      ∃ build : Build, build.Supplies (.parse token) plain tools) ∧
    ∀ (otherwise : Version → Action Path) (directory : Option Path) (options : Options)
      (hooks : Hooks),
      (Supply.ofBuilds otherwise).run directory options tools hooks =
        run directory options tools hooks := by
  refine ⟨fun token plain h => exists_supplies h tools, fun otherwise directory options hooks => ?_⟩
  rw [(Supply.alike_ofBuilds otherwise _).run_eq, Supply.ofBuilds_noMap, Supply.run_own]

/-- The jar and the symbol map of a commit are kept in its folder of the store. -/
theorem jar_and_map_of_one_build_commit :
    shouldRetrace (some (.parse "0123456789abcdef0123456789ABCDEF01234567")) false = true ∧
      Build.Supplies (.folder "http://s/r/main/0123456789abcdef0123456789ABCDEF01234567")
        (.parse "0123456789abcdef0123456789ABCDEF01234567") false ⟨⟨"/r8"⟩, none, "http://s/r//"⟩ := by
  have hretraced :
      shouldRetrace (some (.parse "0123456789abcdef0123456789ABCDEF01234567")) false = true := by decide
  obtain ⟨build, hbuild⟩ := (jar_and_map_of_one_build ⟨⟨"/r8"⟩, none, "http://s/r//"⟩).1 _ _ hretraced
  have hfolder : buildOf? (.parse "0123456789abcdef0123456789ABCDEF01234567")
      ⟨⟨"/r8"⟩, none, "http://s/r//"⟩ =
        some (.folder "http://s/r/main/0123456789abcdef0123456789ABCDEF01234567") := by decide
  obtain rfl := Option.some.inj (hfolder.symm.trans hbuild.buildOf?_eq)
  exact ⟨hretraced, hbuild⟩

end Replay

end DumpReplay
