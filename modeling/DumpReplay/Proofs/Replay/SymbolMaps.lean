import DumpReplay.Proofs.Replay.Acquiring
import DumpReplay.Proofs.Replay.Adjusting

/-!
# The symbol map of a retraced run

The compiler of a replay and the symbol map that its output is retraced with are found in two
different places, from the same version.  They belong together when the compiler is found by that
version; a compiler jar that is given stands for itself, and the map is still that of the version.

Main results:

- `belongs_iff` : when the map of a retraced run belongs to the compiler that was run.
- `map_of_retraced_run` : the same for the processes of a replay.
-/

namespace DumpReplay.Replay

open DumpReplay.Action

variable {directory : Option Path} {work target : Path} {options : Options} {tools : Toolchain}
variable {hooks : Hooks} {machine : Machine} {host start after ended : Host} {version : Version}
variable {output : String} {jdk : Jdk} {distribution : Distribution}

/-! ## The map -/

/-- The map of the checkout is used where it stands. -/
theorem fetchMap_main {map : Path}
    (h : (fetchMap .main work tools).on machine host = (.ok map, after)) :
    map = tools.libraryMap := by
  obtain ⟨found, middle, _, h⟩ := on_bind_eq_ok.mp h
  cases found with
  | false => exact absurd (Prod.mk.inj h).1 (by simp)
  | true => exact (Except.ok.inj (Prod.mk.inj h).1).symm

/-- The map of a hash or a release is fetched. -/
theorem fetchMap_remote {map : Path} (hremote : version.isRemote = true)
    (h : (fetchMap version work tools).on machine host = (.ok map, after)) :
    map = work.child "mapping.map" ∧ ∃ asked, asked.files = host.files ∧
      Fetched version Store.libraryMap map tools machine asked after := by
  have hsource : mapSource? version tools =
      ((Store.ofAddress tools.store).artifactUrl? version Store.libraryMap).map .remote := by
    cases version with
    | main => exact absurd hremote (by decide)
    | source => exact absurd hremote (by decide)
    | hash digits => rfl
    | release name => rfl
  unfold fetchMap at h
  rw [hsource] at h
  cases hurl : (Store.ofAddress tools.store).artifactUrl? version Store.libraryMap with
  | none =>
    rw [hurl] at h
    exact absurd (Prod.mk.inj h).1 (by simp)
  | some url =>
    rw [hurl] at h
    obtain ⟨available, asked, hasked, h⟩ := on_bind_eq_ok.mp h
    cases available with
    | false => exact absurd (Prod.mk.inj h).1 (by simp)
    | true =>
      obtain ⟨_, mapped, hdownload, h⟩ := on_bind_eq_ok.mp h
      obtain ⟨hsame, rfl⟩ := Prod.mk.inj h
      obtain rfl := Except.ok.inj hsame
      exact ⟨rfl, asked, (keepsFiles_isAvailable url).eq hasked, url, hurl, hdownload⟩

/-! ## Compiler and map -/

/-- The symbol map belongs to the compiler that was run: both are those of the checkout, or both are
fetched for the same version. -/
inductive Belongs (a : Assembled options tools hooks work machine start)
    (r : Retraceable output version work tools jdk machine ended) : Prop where
  /-- The jar stands where that of the checkout does, and the map is the one of the checkout. -/
  | checkout (file : Path) (hjar : a.distribution = .jar file)
      (hplace : a.found.files.locate machine.workingDirectory file =
        a.found.files.locate machine.workingDirectory tools.libraryJar)
      (hmap : r.map = tools.libraryMap)
  /-- The replay fetched the jar before it compiled the adapters, and the map after the compiler
  failed. -/
  | fetched (file : Path) (jarred asked : Host) (hjar : a.distribution = .jar file)
      (hjarred : Fetched version Store.libraryJar file tools machine a.opened jarred)
      (hfound : a.found.withoutLog = jarred.withoutLog) (hasked : asked.files = r.written.files)
      (hmapped : Fetched version Store.libraryMap r.map tools machine asked r.mapped)

/-- A map that is fetched does not stand where the one of the checkout does. -/
theorem mapping_ne_libraryMap (work : Path) (tools : Toolchain) :
    work.child "mapping.map" ≠ tools.libraryMap := by
  intro h
  have hlocations := congrArg (Path.location []) h
  have hmapping : Path.IsName "mapping.map" := ⟨by decide, by decide, by decide, by decide⟩
  have hlibrary : Path.IsName "r8lib.jar.map" := ⟨by decide, by decide, by decide, by decide⟩
  rw [Toolchain.libraryMap, Path.location_child hmapping, Path.location_child hlibrary] at hlocations
  have hnames := (List.append_inj' hlocations rfl).2
  exact absurd hnames (by decide)

/-- A retraced run whose compiler is found by its version has the map of that compiler. -/
theorem belongs_of_not_given (a : Assembled options tools hooks work machine start)
    (r : Retraceable output version work tools jdk machine ended)
    (hversion : a.staged.version = some version) (hplain : options.plainBuild = false)
    (hsource : version ≠ .source) (hgiven : options.compilerJar = none) : Belongs a r := by
  have hdistribution := a.distribution_eq
  rw [hversion] at hdistribution
  obtain ⟨acquired, hacquire, hfound⟩ := distributionFor_acquired hgiven hdistribution
  rw [hplain] at hacquire
  have hremote : version.isRemote = true → Belongs a r := by
    intro hremote
    obtain ⟨jarred, hjarred, hjar, hacquired⟩ := acquire_remote hremote hacquire
    obtain ⟨_, asked, hasked, hmapped⟩ := fetchMap_remote hremote r.map_eq
    exact .fetched _ jarred asked hjar hjarred (hfound.trans hacquired) hasked hmapped
  cases version with
  | main => exact .checkout _ (acquire_main hacquire) rfl (fetchMap_main r.map_eq)
  | source => exact absurd rfl hsource
  | hash digits => exact hremote rfl
  | release name => exact hremote rfl

/-- A map belongs to a compiler jar that is given only if both are those of the checkout. -/
theorem belongs_iff_of_given (a : Assembled options tools hooks work machine start)
    (r : Retraceable output version work tools jdk machine ended) (hsource : version ≠ .source)
    {file : Path} (hgiven : options.compilerJar = some file) :
    Belongs a r ↔ version = .main ∧ a.found.files.locate machine.workingDirectory file =
      a.found.files.locate machine.workingDirectory tools.libraryJar := by
  obtain ⟨hjar, hfound⟩ := distributionFor_given hgiven a.distribution_eq
  constructor
  · rintro (⟨other, hother, hplace, hmap⟩ | ⟨other, jarred, asked, hother, ⟨url, _, hdownload⟩, hjarred, _, _⟩)
    · rw [hjar, Distribution.jar.injEq] at hother
      refine ⟨?_, hother ▸ hplace⟩
      have hremote : version.isRemote = true → version = .main := fun hremote =>
        absurd ((fetchMap_remote hremote r.map_eq).1.symm.trans hmap) (mapping_ne_libraryMap work tools)
      cases version with
      | main => rfl
      | source => exact absurd rfl hsource
      | hash digits => exact hremote rfl
      | release name => exact hremote rfl
    · -- Nothing was asked of the store, so that nothing can have been fetched from it.
      have hsame := congrArg Host.requests (hfound.symm.trans hjarred)
      have hcounted := requests_of_download hdownload
      exact absurd (hcounted.symm.trans hsame.symm) (by simp [Host.withoutLog])
  · rintro ⟨rfl, hplace⟩
    exact .checkout file hjar hplace (fetchMap_main r.map_eq)

/-- The symbol map of a retraced run belongs to the compiler that was run, unless a compiler jar is
given; then it does only if that jar and the version are those of the checkout. -/
theorem belongs_iff (a : Assembled options tools hooks work machine start)
    (r : Retraceable output version work tools jdk machine ended)
    (hversion : a.staged.version = some version) (hplain : options.plainBuild = false)
    (hsource : version ≠ .source) :
    Belongs a r ↔ ∀ file, options.compilerJar = some file →
      version = .main ∧ a.found.files.locate machine.workingDirectory file =
        a.found.files.locate machine.workingDirectory tools.libraryJar := by
  cases hgiven : options.compilerJar with
  | none =>
    simpa using belongs_of_not_given a r hversion hplain hsource hgiven
  | some file =>
    simpa using belongs_iff_of_given a r hsource hgiven

/-! ## Replays -/

/-- A replay retraces only what the compiler wrote. -/
theorem Course.retraces {own adapters : List Launch} {compiler retracer : Launch}
    (h : Course options tools hooks work machine start own)
    (hown : own = adapters ++ [compiler, retracer])
    (hadapters : adapters.length = Adapters.classNames.length) :
    ∃ (a : Assembled options tools hooks work machine start) (captured : CapturedRun) (ended : Host)
      (version : Version)
      (r : Retraceable captured.output version work tools ⟨tools.javaHome⟩ machine ended),
      (runCaptured a.command).on machine a.assembled = (.ok captured, ended) ∧
      compiler.command = a.command ∧ compiler.Failed ∧ retracer.command = r.command ∧
      a.staged.version = some version ∧ options.plainBuild = false ∧ version ≠ .source := by
  have hlength := congrArg List.length hown
  rw [List.length_append, hadapters] at hlength
  cases h with
  | nothing => simp [Adapters.classNames] at hlength
  | adapting ready classpath _ _ hturn =>
    have hfew := hturn.order.length_le
    simp [Adapters.commands] at hfew hlength
    omega
  | compiling a classpath others _ _ hcommands =>
    have hall := congrArg List.length hcommands
    simp [Adapters.commands] at hall hlength
    omega
  | retracing a classpath others _ _ _ hcommands _ hcompiler hfailed captured ended hrun version
      hversion hplain hsource r hretracer =>
    obtain ⟨_, hlast⟩ := List.append_inj' hown rfl
    obtain ⟨hsame, hlast⟩ := List.cons.inj hlast
    rw [hsame] at hcompiler hfailed
    rw [(List.cons.inj hlast).1] at hretracer
    exact ⟨a, captured, ended, version, r, hrun, hcompiler, hfailed, hretracer, hversion, hplain,
      hsource⟩

/-- When a replay comes to start a process behind the compiler, it retraces what the compiler wrote,
and the symbol map belongs to the compiler on the class path, unless a compiler jar is given: then it
does only if that jar stands where the one of the checkout does and the version is that of the
checkout. -/
theorem map_of_retraced_run (options : Options) (tools : Toolchain) (hooks : Hooks)
    (hentered : (enter directory).on machine host = (.ok work, start)) :
    ∃ early late before behind, hooks.Took machine before behind ∧
      before.launched = host.launched ++ early ∧
      ((run directory options tools hooks).on machine host).2.launched = behind.launched ++ late ∧
      ∀ adapters compiler retracer, early ++ late = adapters ++ [compiler, retracer] →
        adapters.length = Adapters.classNames.length →
        ∃ (a : Assembled options tools hooks work machine start) (captured : CapturedRun)
          (ended : Host) (version : Version)
          (r : Retraceable captured.output version work tools ⟨tools.javaHome⟩ machine ended),
          (runCaptured a.command).on machine a.assembled = (.ok captured, ended) ∧
          compiler.command = a.command ∧ compiler.Failed ∧ retracer.command = r.command ∧
          a.staged.version = some version ∧
          a.distribution.classpathWith (some work) = .ok a.plan.classpath ∧
          (Belongs a r ↔ ∀ file, options.compilerJar = some file →
            version = .main ∧ a.found.files.locate machine.workingDirectory file =
              a.found.files.locate machine.workingDirectory tools.libraryJar) := by
  have hstart := (quiet_enter directory).eq hentered
  obtain ⟨_, houtward⟩ := run_of_entered options tools hooks hentered
  obtain ⟨early, late, before, behind, htook, hbefore, hbehind, hcourse⟩ :=
    course_of_runIn options tools hooks work machine start
  refine ⟨early, late, before, behind, htook, ?_, ?_, ?_⟩
  · rw [← (Prod.mk.inj hstart).1]
    exact (Prod.mk.inj hbefore).1
  · rw [(Prod.mk.inj houtward).1, hbehind]
  · intro adapters compiler retracer hown hadapters
    obtain ⟨a, captured, ended, version, r, hrun, hcompiler, hfailed, hretracer, hversion, hplain,
      hsource⟩ := hcourse.retraces hown hadapters
    exact ⟨a, captured, ended, version, r, hrun, hcompiler, hfailed, hretracer, hversion,
      a.classpath_eq, belongs_iff a r hversion hplain hsource⟩

/-- A replay with a given compiler jar. -/
def givenOptions : Options :=
  { sampleOptions ⟨"/d"⟩ with compilerJar := some ⟨"/f"⟩ }

/-- Four processes are two and the last two. -/
theorem exists_last_two {launches : List Launch} (h : launches.length = 4) :
    ∃ front compiler retracer, launches = front ++ [compiler, retracer] ∧ front.length = 2 := by
  obtain ⟨compiler, retracer, hlast⟩ : ∃ compiler retracer, launches.drop 2 = [compiler, retracer] :=
    List.length_eq_two.mp (by rw [List.length_drop, h])
  refine ⟨launches.take 2, compiler, retracer, ?_, ?_⟩
  · rw [← hlast, List.take_append_drop]
  · rw [List.length_take, h]
    rfl

/-- The output of a compiler jar that is given can be retraced with the map of the checkout. -/
theorem map_of_retraced_run_given :
    ∃ start, (enter (some ⟨"/w"⟩)).on sampleMachine sampleHost = (.ok ⟨"/w"⟩, start) ∧
      ∃ (a : Assembled givenOptions sampleTools .none ⟨"/w"⟩ sampleMachine start) (output : String)
        (ended : Host) (version : Version)
        (r : Retraceable output version ⟨"/w"⟩ sampleTools ⟨sampleTools.javaHome⟩ sampleMachine
          ended) (adapters : List Launch) (compiler retracer : Launch),
        ((run (some ⟨"/w"⟩) givenOptions sampleTools .none).on sampleMachine sampleHost).2.launched =
          adapters ++ [compiler, retracer] ∧
        compiler.command = a.command ∧ retracer.command = r.command ∧
        a.distribution = .jar ⟨"/f"⟩ ∧ ¬Belongs a r := by
  obtain ⟨start, hentered⟩ : ∃ start,
      (enter (some ⟨"/w"⟩)).on sampleMachine sampleHost = (.ok ⟨"/w"⟩, start) ∧
        start.files = (sampleHost.files.makeDirectories [] ⟨"/w"⟩).2 := ⟨_, rfl, rfl⟩
  have hlength : ((run (some ⟨"/w"⟩) givenOptions sampleTools .none).on sampleMachine
      sampleHost).2.launched.length = 4 := by decide +kernel
  obtain ⟨adapters, compiler, retracer, hown, hadapters⟩ := exists_last_two hlength
  obtain ⟨early, late, before, behind, htook, hbefore, hbehind, hretraced⟩ :=
    map_of_retraced_run givenOptions sampleTools .none hentered.1
  have hnone : behind = before := by
    rcases htook with hsame | ⟨_, _, hconsumer, _⟩
    · exact hsame
    · exact absurd hconsumer (by simp [Hooks.none])
  rw [hnone, hbefore] at hbehind
  obtain ⟨a, captured, ended, version, r, _, hcompiler, _, hretracer, _, _, hbelongs⟩ :=
    hretraced adapters compiler retracer (hbehind.symm.trans hown) hadapters
  have hgiven : givenOptions.compilerJar = some ⟨"/f"⟩ := rfl
  obtain ⟨hjar, hfound⟩ := distributionFor_given hgiven a.distribution_eq
  have hdirectory : start.files.hasDirectory [] ⟨"/d"⟩ = true := by
    rw [hentered.2]
    decide +kernel
  have hstage := a.stage_eq
  rw [stage_of_directory _ rfl hdirectory] at hstage
  have hopened : a.opened.files = start.files := (looks_decideFor _ _ _).keepsFiles.eq hstage
  have hfiles : a.found.files = a.opened.files := by
    change a.found.withoutLog.files = a.opened.withoutLog.files
    rw [hfound]
  refine ⟨start, hentered.1, a, captured.output, ended, version, r, adapters, compiler, retracer,
    hown, hcompiler, hretracer, hjar, fun hbelong => ?_⟩
  obtain ⟨_, hplace⟩ := hbelongs.mp hbelong ⟨"/f"⟩ rfl
  rw [hfiles, hopened, hentered.2] at hplace
  exact absurd hplace (by decide +kernel)

end DumpReplay.Replay
