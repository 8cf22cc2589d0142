import DumpReplay.Proofs.Replay.Course
import DumpReplay.Proofs.Replay.Reporting

/-!
# The processes of a replay

A replay starts the programs that compile the two adapters, then the compiler, and then the program
that retraces what the compiler wrote.  It may end anywhere on the way, and starts nothing before
what was in front of it went well.

Main results:

- `course_of_run` : every replay follows the course.
- `run_processes` : the processes of a replay, in order, and what each of them presupposes.
-/

namespace DumpReplay.Replay

open DumpReplay.Action

variable {directory : Option Path} {work : Path} {options : Options} {tools : Toolchain}
variable {hooks : Hooks} {machine : Machine} {host start after : Host} {started : List Launch}

/-! ## The course -/

/-- The processes that a replay starts itself, with what it has decided when it starts them. -/
inductive Course (options : Options) (tools : Toolchain) (hooks : Hooks) (work : Path)
    (machine : Machine) (start : Host) : List Launch → Prop where
  /-- Nothing is started. -/
  | nothing : Course options tools hooks work machine start []
  /-- Adapters are compiled in turn. -/
  | adapting (ready : Ready options tools work machine start) (classpath : String)
      (adapters : List Launch) (hclasspath : ready.distribution.classpathWith none = .ok classpath)
      (hturn : InTurn (Adapters.commands ready.javac work tools classpath) adapters) :
      Course options tools hooks work machine start adapters
  /-- All adapters are compiled, and the compiler is run. -/
  | compiling (a : Assembled options tools hooks work machine start) (classpath : String)
      (adapters : List Launch) (compiler : Launch)
      (hclasspath : a.distribution.classpathWith none = .ok classpath)
      (hcommands : adapters.map Launch.command = Adapters.commands a.javac work tools classpath)
      (hsucceeded : ∀ launch ∈ adapters, launch.Succeeded)
      (hcompiler : compiler.command = a.command) :
      Course options tools hooks work machine start (adapters ++ [compiler])
  /-- The compiler failed, the symbol map is found, and what the compiler wrote is retraced. -/
  | retracing (a : Assembled options tools hooks work machine start) (classpath : String)
      (adapters : List Launch) (compiler retracer : Launch)
      (hclasspath : a.distribution.classpathWith none = .ok classpath)
      (hcommands : adapters.map Launch.command = Adapters.commands a.javac work tools classpath)
      (hsucceeded : ∀ launch ∈ adapters, launch.Succeeded)
      (hcompiler : compiler.command = a.command) (hfailed : compiler.Failed)
      (run : CapturedRun) (ended : Host)
      (hrun : (runCaptured a.command).on machine a.assembled = (.ok run, ended))
      (version : Version) (hversion : a.staged.version = some version)
      (hplain : options.plainBuild = false) (hsource : version ≠ .source)
      (r : Retraceable run.output version work tools ⟨tools.javaHome⟩ machine ended)
      (hretracer : retracer.command = r.command) :
      Course options tools hooks work machine start (adapters ++ [compiler, retracer])

/-- What can be noticed of a replay that does not come to run the compiler. -/
theorem Abandoned.course (h : Abandoned options tools hooks work machine start after) :
    ∃ adapters before behind, hooks.Took machine before behind ∧
      before.outward = (start.launched ++ adapters, start.printed) ∧
      after.outward = behind.outward ∧ Course options tools hooks work machine start adapters := by
  cases h with
  | unready houtward =>
    refine ⟨[], start, start, .inl rfl, ?_, houtward, .nothing⟩
    rw [List.append_nil]
    rfl
  | unadapted ready failure hprepare =>
    rcases ready.prepare_spec hprepare with
      ⟨_, houtward⟩ | ⟨classpath, adapters, hclasspath, houtward, hturn, _⟩
    · refine ⟨[], after, after, .inl rfl, ?_, rfl, .nothing⟩
      rw [houtward, List.append_nil]
      rfl
    · exact ⟨adapters, after, after, .inl rfl, houtward, rfl,
        .adapting ready classpath adapters hclasspath hturn⟩
  | unassembled ready adapted before behind hprepare hbefore htook hbehind =>
    rcases ready.prepare_spec hprepare with
      ⟨⟨_, hfailed⟩, _⟩ | ⟨classpath, adapters, hclasspath, houtward, hturn, _⟩
    · exact absurd hfailed (by simp)
    · exact ⟨adapters, before, behind, htook, hbefore.trans houtward, hbehind,
        .adapting ready classpath adapters hclasspath hturn⟩

/-- What can be noticed of a replay that comes to run the compiler. -/
theorem Assembled.course (a : Assembled options tools hooks work machine start) :
    ∃ adapters rest before behind, hooks.Took machine before behind ∧
      before.outward = (start.launched ++ adapters, start.printed) ∧
      ((runIn work options tools hooks).on machine start).2.launched = behind.launched ++ rest ∧
      Course options tools hooks work machine start (adapters ++ rest) := by
  obtain ⟨classpath, adapters, before, behind, hclasspath, hbefore, hcommands, hsucceeded, htook,
    hbehind⟩ := a.outward_eq
  obtain ⟨hlaunched, _⟩ := Prod.mk.inj hbehind
  rw [a.runIn_eq]
  rcases hrun : (runCaptured a.command).on machine a.assembled with ⟨captured, ended⟩
  obtain ⟨compiler, hcompiler, hended, hcaptured⟩ := runCaptured_spec hrun
  obtain ⟨hendedLaunched, _⟩ := Prod.mk.inj hended
  rw [hlaunched] at hendedLaunched
  have hcompiling : Course options tools hooks work machine start (adapters ++ [compiler]) :=
    .compiling a classpath adapters compiler hclasspath hcommands hsucceeded hcompiler
  rcases hcaptured with ⟨ending, hending, rfl⟩ | ⟨cause, failure, hcause, rfl⟩
  · rw [on_bind_of_ok _ hrun]
    rcases hconclude : (conclude (.ofEnding ending) a.staged options work tools
      ⟨tools.javaHome⟩).on machine ended with ⟨status, after⟩
    cases hsuccess : ending.succeeded with
    | true =>
      obtain ⟨_, hafter⟩ := conclude_of_success hsuccess hconclude
      refine ⟨adapters, [compiler], before, behind, htook, hbefore, ?_, hcompiling⟩
      rw [(Prod.mk.inj hafter).1, hendedLaunched]
    | false =>
      cases hversion : retracedVersion? a.staged options with
      | none =>
        obtain ⟨_, hafter⟩ := conclude_of_failure hsuccess hversion hconclude
        refine ⟨adapters, [compiler], before, behind, htook, hbefore, ?_, hcompiling⟩
        rw [(Prod.mk.inj hafter).1, hendedLaunched]
      | some version =>
        obtain ⟨_, result, back, hretrace, hafter, _⟩ :=
          conclude_of_retracing hsuccess hversion hconclude
        obtain ⟨hstaged, hplain, hsource⟩ := retracedVersion?_eq_some_iff.mp hversion
        rcases retrace_cases hretrace with ⟨_, hback⟩ | ⟨r, retracer, hretracer, hback, _⟩
        · refine ⟨adapters, [compiler], before, behind, htook, hbefore, ?_, hcompiling⟩
          rw [hafter, (Prod.mk.inj hback).1, hendedLaunched]
        · refine ⟨adapters, [compiler, retracer], before, behind, htook, hbefore, ?_,
            .retracing a classpath adapters compiler retracer hclasspath hcommands hsucceeded
              hcompiler ⟨ending, hending, hsuccess⟩ _ ended hrun version hstaged hplain hsource r
              hretracer⟩
          rw [hafter, (Prod.mk.inj hback).1, hendedLaunched, List.append_assoc]
          rfl
  · rw [on_bind_of_error _ hrun]
    exact ⟨adapters, [compiler], before, behind, htook, hbefore, hendedLaunched, hcompiling⟩

/-- Every replay in a work directory follows the course. -/
theorem course_of_runIn (options : Options) (tools : Toolchain) (hooks : Hooks) (work : Path)
    (machine : Machine) (start : Host) :
    ∃ early late before behind, hooks.Took machine before behind ∧
      before.outward = (start.launched ++ early, start.printed) ∧
      ((runIn work options tools hooks).on machine start).2.launched = behind.launched ++ late ∧
      Course options tools hooks work machine start (early ++ late) := by
  rcases assembled_or_abandoned options tools hooks work machine start with
    ⟨⟨a⟩⟩ | ⟨failure, after, hrun, habandoned⟩
  · exact a.course
  · obtain ⟨adapters, before, behind, htook, hbefore, hafter, hcourse⟩ := habandoned.course
    refine ⟨adapters, [], before, behind, htook, hbefore, ?_, ?_⟩
    · rw [hrun, List.append_nil]
      exact (Prod.mk.inj hafter).1
    · rw [List.append_nil]
      exact hcourse

/-- A replay that has entered its work directory follows the course from there. -/
theorem course_of_run (options : Options) (tools : Toolchain) (hooks : Hooks)
    (hentered : (enter directory).on machine host = (.ok work, start)) :
    ∃ early late before behind, hooks.Took machine before behind ∧
      before.launched = host.launched ++ early ∧
      ((run directory options tools hooks).on machine host).2.launched = behind.launched ++ late ∧
      Course options tools hooks work machine start (early ++ late) := by
  obtain ⟨early, late, before, behind, htook, hbefore, hbehind, hcourse⟩ :=
    course_of_runIn options tools hooks work machine start
  refine ⟨early, late, before, behind, htook, ?_, ?_, hcourse⟩
  · rw [← (Prod.mk.inj ((quiet_enter directory).eq hentered)).1]
    exact (Prod.mk.inj hbefore).1
  · rw [(Prod.mk.inj (run_of_entered options tools hooks hentered).2).1, hbehind]

/-- The processes of a course are for the first ones of these commands: the two that compile the
adapters, the one that runs the compiler, and the one that retraces. -/
theorem Course.order (h : Course options tools hooks work machine start started) :
    ∃ (javac : Path) (classpath : String) (compile : Command) (java map : Path),
      started.map Launch.command <+:
        Adapters.commands javac work tools classpath ++
          [compile, ⟨java, retraceArguments tools map (work.child "stacktrace")⟩] := by
  -- Commands that a course does not come to may be any.
  have hany : Path := ⟨""⟩
  cases h with
  | nothing => exact ⟨hany, "", ⟨hany, []⟩, hany, hany, List.nil_prefix⟩
  | adapting ready classpath _ _ hturn =>
    exact ⟨ready.javac, classpath, ⟨hany, []⟩, hany, hany,
      hturn.order.trans (List.prefix_append _ _)⟩
  | compiling a classpath adapters compiler _ hcommands _ hcompiler =>
    refine ⟨a.javac, classpath, a.command, hany, hany, ?_⟩
    rw [List.map_append, hcommands, List.map_singleton, hcompiler]
    exact (List.prefix_append_right_inj _).mpr (List.prefix_append [a.command] _)
  | retracing a classpath adapters compiler retracer _ hcommands _ hcompiler _ _ _ _ _ _ _ _ r
      hretracer =>
    refine ⟨a.javac, classpath, a.command, r.java, r.map, ?_⟩
    rw [List.map_append, hcommands, List.map_cons, List.map_singleton, hcompiler, hretracer]
    exact List.prefix_rfl

/-! ## Dumps without a program -/

/-- A dump that can be opened but has no program is not staged, whatever the hooks put in place of
the program. -/
theorem runIn_of_no_program {source : Path} {dump : Dump} {opened : Host}
    (hsource : options.dump = some source)
    (hopen : (Dump.openIn source work options.overrideExtraction).on machine start =
      (.ok dump, opened))
    (hprogram : (dump.has .program).on machine opened = (.ok false, opened)) :
    (runIn work options tools hooks).on machine start = (.error (.dump .noProgram), opened) := by
  have hstage : (stage options work).on machine start = (.error (.dump .noProgram), opened) := by
    unfold stage
    rw [hsource]
    dsimp only
    rw [on_bind_of_ok _ hopen, on_bind_of_ok _ hprogram]
    rfl
  unfold runIn
  rw [on_bind_of_error _ hstage]

/-! ## All processes -/

/-- The processes that a replay starts are for the first ones of four commands, each of them is
started only when everything in front of it went well, and the consumer of keep rules is called at
most once among them.  A dump that can be opened but has no program makes a replay fail before it
starts any process. -/
theorem run_processes (directory : Option Path) (options : Options) (tools : Toolchain)
    (hooks : Hooks) (machine : Machine) (host : Host) :
    (∀ failure after, (enter directory).on machine host = (.error failure, after) →
      ((run directory options tools hooks).on machine host).1 = .error failure ∧
        ((run directory options tools hooks).on machine host).2.launched = host.launched) ∧
    ∀ work start, (enter directory).on machine host = (.ok work, start) →
      (∃ early late before behind, hooks.Took machine before behind ∧
        before.launched = host.launched ++ early ∧
        ((run directory options tools hooks).on machine host).2.launched =
          behind.launched ++ late ∧
        Course options tools hooks work machine start (early ++ late) ∧
        ∃ (javac : Path) (classpath : String) (compile : Command) (java map : Path),
          (early ++ late).map Launch.command <+:
            [⟨javac, Adapters.arguments (tools.adapterSource "CompileDumpCompatR8") work classpath⟩,
              ⟨javac, Adapters.arguments (tools.adapterSource "CompileDumpD8") work classpath⟩,
              compile,
              ⟨java, retraceArguments tools map (work.child "stacktrace")⟩]) ∧
      ∀ source dump opened, options.dump = some source →
        (Dump.openIn source work options.overrideExtraction).on machine start =
          (.ok dump, opened) →
        (dump.has .program).on machine opened = (.ok false, opened) →
        ((run directory options tools hooks).on machine host).1 = .error (.dump .noProgram) ∧
          ((run directory options tools hooks).on machine host).2.launched = host.launched := by
  refine ⟨?_, ?_⟩
  · intro failure after hentered
    have hafter := (quiet_enter directory).eq hentered
    rw [run_of_not_entered hentered]
    exact ⟨rfl, (Prod.mk.inj hafter).1⟩
  · intro work start hentered
    have hstart := (quiet_enter directory).eq hentered
    obtain ⟨houtcome, houtward⟩ := run_of_entered options tools hooks hentered
    have hlaunched := (Prod.mk.inj houtward).1
    refine ⟨?_, ?_⟩
    · obtain ⟨early, late, before, behind, htook, hbefore, hbehind, hcourse⟩ :=
        course_of_runIn options tools hooks work machine start
      refine ⟨early, late, before, behind, htook, ?_, ?_, hcourse, hcourse.order⟩
      · rw [← (Prod.mk.inj hstart).1]
        exact (Prod.mk.inj hbefore).1
      · rw [hlaunched, hbehind]
    · intro source dump opened hsource hopen hprogram
      have hopened := (Dump.quiet_openIn source work _).eq hopen
      rw [houtcome, hlaunched, runIn_of_no_program hsource hopen hprogram]
      exact ⟨rfl, (Prod.mk.inj (hopened.trans hstart)).1⟩

/-- A machine on which the third process fails and all others succeed.  No process writes anything,
and no server can be reached. -/
def sampleMachine : Machine where
  environment := []
  workingDirectory := []
  scratchName := fun _ => ""
  launch := fun earlier _ files =>
    (.ok ⟨some (if earlier = 2 then 1 else 0), ⟨#[]⟩, false⟩, files)
  reply := fun _ _ _ => .refused .badAddress

/-- A dump in one directory, a checkout in another, and a JDK in a third. -/
def sampleHost : Host :=
  .ofFiles ⟨[(["d"], .directory), (["d", "program.jar"], .file ⟨#[]⟩ false), (["e"], .directory),
    (["f"], .file ⟨#[]⟩ false), (["r"], .directory), (["r", "build"], .directory),
    (["r", "build", "libs"], .directory), (["r", "build", "libs", "r8lib.jar"], .file ⟨#[]⟩ false),
    (["r", "build", "libs", "r8lib.jar.map"], .file ⟨#[]⟩ false), (["j"], .directory),
    (["j", "bin"], .directory), (["j", "bin", "java"], .file ⟨#[]⟩ true),
    (["j", "bin", "javac"], .file ⟨#[]⟩ true)]⟩

/-- The checkout and the JDK. -/
def sampleTools : Toolchain :=
  ⟨⟨"/r"⟩, some ⟨"/j"⟩, ""⟩

/-- A replay of a dump with the build of the checkout. -/
def sampleOptions (dump : Path) : Options :=
  { Options.none with dump := some dump, compiler := some "d8", version := some "main" }

/-- A replay whose compiler fails can go through all four processes. -/
theorem run_processes_four :
    ∃ start own, Course (sampleOptions ⟨"/d"⟩) sampleTools .none ⟨"/w"⟩ sampleMachine start own ∧
      ((run (some ⟨"/w"⟩) (sampleOptions ⟨"/d"⟩) sampleTools .none).on sampleMachine
        sampleHost).2.launched = own ∧
      own.length = 4 := by
  obtain ⟨⟨early, late, before, behind, htook, hbefore, hbehind, hcourse, _⟩, _⟩ :=
    (run_processes (some ⟨"/w"⟩) (sampleOptions ⟨"/d"⟩) sampleTools .none sampleMachine
      sampleHost).2 ⟨"/w"⟩ _ rfl
  have hnone : behind = before := by
    rcases htook with hsame | ⟨_, _, hconsumer, _⟩
    · exact hsame
    · exact absurd hconsumer (by simp [Hooks.none])
  rw [hnone, hbefore] at hbehind
  refine ⟨_, early ++ late, hcourse, hbehind, ?_⟩
  rw [show early ++ late = _ from hbehind.symm]
  rfl

/-- That a dump has no program need not be what a replay of it fails for: a work directory that
cannot be made is found first. -/
theorem not_forall_run_eq_dump_of_no_program :
    ¬∀ (directory : Option Path) (options : Options) (tools : Toolchain) (hooks : Hooks)
      (machine : Machine) (host : Host) (source : Path), options.dump = some source →
      host.files.hasDirectory machine.workingDirectory source = true →
      host.files.has machine.workingDirectory ((Dump.mk source).path .program) = false →
      ∃ fault, ((run directory options tools hooks).on machine host).1 = .error (.dump fault) := by
  intro h
  have hfault := h (some ⟨"/f"⟩) (sampleOptions ⟨"/e"⟩) sampleTools .none sampleMachine sampleHost
    ⟨"/e"⟩ rfl rfl rfl
  have hexists :
      ((run (some ⟨"/f"⟩) (sampleOptions ⟨"/e"⟩) sampleTools .none).on sampleMachine
        sampleHost).1 = .error (.io .alreadyExists) := rfl
  rw [hexists] at hfault
  simp at hfault

end DumpReplay.Replay
