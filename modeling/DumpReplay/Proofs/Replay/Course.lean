import DumpReplay.Proofs.Action.Launching
import DumpReplay.Proofs.Replay.Quiet

/-!
# The course of a replay

A replay enters its work directory, decides what to run, compiles the adapters, puts the command
line of the compiler together, runs the compiler, and reports what it wrote.  How far a replay came
is told by what it has decided.

Main results:

- `run_of_entered`, `run_of_not_entered` : a replay is the part of it that follows the entering of
  the work directory.
- `assembled_or_abandoned` : a replay comes to run the compiler, or it fails before that.
- `Assembled.outward_eq` : what can be noticed of a replay when it runs the compiler.
-/

namespace DumpReplay

open DumpReplay.Action

/-! ## Adapters -/

namespace Adapters

/-- The commands that compile the classes. -/
def commands (javac workDirectory : Path) (tools : Toolchain) (classpath : String) :
    List Command :=
  classNames.map fun className =>
    ⟨javac, arguments (tools.adapterSource className) workDirectory classpath⟩

variable {javac workDirectory : Path} {distribution : Distribution} {tools : Toolchain}
variable {machine : Machine} {host after : Host}

/-- The classes are compiled in turn, up to the first one that cannot be compiled. -/
theorem prepare_spec {outcome : Except Failure Unit}
    (h : (prepare javac distribution workDirectory tools).on machine host = (outcome, after)) :
    ((∃ failure, outcome = .error failure) ∧ after.outward = host.outward) ∨
      ∃ classpath launches, distribution.classpathWith none = .ok classpath ∧
        after.outward = (host.launched ++ launches, host.printed) ∧
        InTurn (commands javac workDirectory tools classpath) launches ∧
        (outcome = .ok () →
          launches.map Launch.command = commands javac workDirectory tools classpath ∧
            ∀ launch ∈ launches, launch.Succeeded) := by
  unfold prepare at h
  dsimp only at h
  cases hclasspath : distribution.classpathWith none with
  | error failure =>
    rw [hclasspath, on_bind_of_error _ (on_ofExcept _), Prod.mk.injEq] at h
    obtain ⟨rfl, rfl⟩ := h
    exact .inl ⟨⟨failure, rfl⟩, rfl⟩
  | ok classpath =>
    rw [hclasspath, on_bind_of_ok _ (on_ofExcept _), bind_pure_unit] at h
    obtain ⟨launches, houtward, hturn, hall⟩ := runChecked_each _ _ h
    exact .inr ⟨classpath, launches, rfl, houtward, hturn, hall⟩

end Adapters

namespace Replay

/-! ## Entering the work directory -/

/-- Enter the work directory of a replay: the one that is given, which is made if it is missing, or
a new scratch directory. -/
def enter (directory : Option Path) : Action Path := do
  match directory with
  | some directory =>
    Action.makeDirectories directory
    return directory
  | none => return (← Action.makeScratch).1

variable {directory : Option Path} {work : Path} {options : Options} {tools : Toolchain}
variable {hooks : Hooks} {machine : Machine} {host start after : Host}

theorem quiet_enter (directory : Option Path) : Quiet (enter directory) := by
  cases directory with
  | none => exact .bind quiet_makeScratch fun made => .pure _
  | some directory => exact .bind (quiet_makeDirectories directory) fun _ => .pure _

/-- A replay whose work directory cannot be entered fails right there. -/
theorem run_of_not_entered {failure : Failure}
    (h : (enter directory).on machine host = (.error failure, after)) :
    (run directory options tools hooks).on machine host = (.error failure, after) := by
  cases directory with
  | none =>
    rcases on_bind_eq_error.mp h with hmade | ⟨_, _, _, hpure⟩
    · exact on_bind_of_error _ hmade
    · simp at hpure
  | some directory =>
    rcases on_bind_eq_error.mp h with hmade | ⟨_, _, _, hpure⟩
    · exact on_bind_of_error _ hmade
    · simp at hpure

/-- A replay ends as the part of it does that follows the entering of the work directory. -/
theorem run_of_entered (options : Options) (tools : Toolchain) (hooks : Hooks)
    (h : (enter directory).on machine host = (.ok work, start)) :
    ((run directory options tools hooks).on machine host).1 =
        ((runIn work options tools hooks).on machine start).1 ∧
      ((run directory options tools hooks).on machine host).2.outward =
        ((runIn work options tools hooks).on machine start).2.outward := by
  cases directory with
  | none =>
    obtain ⟨⟨path, location⟩, middle, hmade, hpure⟩ := on_bind_eq_ok.mp h
    rw [on_pure, Prod.mk.injEq, Except.ok.injEq] at hpure
    obtain ⟨rfl, rfl⟩ := hpure
    unfold run withScratch
    dsimp only
    rw [on_bind_of_ok _ hmade]
    dsimp only
    rw [on_bind_of_ok _ (run_attempt ..), on_bind_of_ok _ on_files,
      on_bind_of_ok _ (on_setFiles _), on_ofExcept]
    exact ⟨rfl, rfl⟩
  | some directory =>
    obtain ⟨⟨⟩, middle, hmade, hpure⟩ := on_bind_eq_ok.mp h
    rw [on_pure, Prod.mk.injEq, Except.ok.injEq] at hpure
    obtain ⟨rfl, rfl⟩ := hpure
    unfold run
    dsimp only
    rw [on_bind_of_ok _ hmade]
    exact ⟨rfl, rfl⟩

/-! ## What a replay has decided -/

/-- A replay that is ready to compile the adapters: the dump is staged, the compiler is found and
verified, and so is the program that compiles classes. -/
structure Ready (options : Options) (tools : Toolchain) (work : Path) (machine : Machine)
    (start : Host) where
  staged : Staged
  opened : Host
  stage_eq : (stage options work).on machine start = (.ok staged, opened)
  distribution : Distribution
  found : Host
  distribution_eq :
    (distributionFor options staged.version work tools).on machine opened =
      (.ok distribution, found)
  javac : Path
  equipped : Host
  javac_eq : (Jdk.mk tools.javaHome).javac.on machine found = (.ok javac, equipped)

/-- A replay that is about to run the compiler: the adapters are compiled, and the command line is
put together. -/
structure Assembled (options : Options) (tools : Toolchain) (hooks : Hooks) (work : Path)
    (machine : Machine) (start : Host) extends Ready options tools work machine start where
  adapted : Host
  prepare_eq :
    (Adapters.prepare javac distribution work tools).on machine equipped = (.ok (), adapted)
  warned : Host
  warn_eq : (warnOfDebugger options).on machine adapted = (.ok (), warned)
  rules : Option Path
  ruled : Host
  rules_eq : (prepareRules staged options hooks).on machine warned = (.ok rules, ruled)
  plan : Plan
  planned : Host
  plan_eq :
    (planFor staged options hooks distribution rules work).on machine ruled = (.ok plan, planned)
  java : Path
  assembled : Host
  java_eq : (Jdk.mk tools.javaHome).java.on machine planned = (.ok java, assembled)

/-- The command that runs the compiler. -/
def Assembled.command (a : Assembled options tools hooks work machine start) : Command :=
  ⟨a.java, a.plan.arguments⟩

/-- What the consumer of keep rules leaves if it is called, and else what there was. -/
def Hooks.Took (hooks : Hooks) (machine : Machine) (before after : Host) : Prop :=
  after = before ∨ ∃ consume file, hooks.rulesConsumer = some consume ∧
    after = ((consume file).on machine before).2

theorem Ready.outward_eq (ready : Ready options tools work machine start) :
    ready.equipped.outward = start.outward := by
  have hstage := (quiet_stage options work).eq ready.stage_eq
  have hdistribution := (quiet_distributionFor options _ work tools).eq ready.distribution_eq
  have hjavac := (Jdk.looks_executable _ _).quiet.eq ready.javac_eq
  rw [hjavac, hdistribution, hstage]

/-- A replay that is ready compiles the adapters in turn, and starts nothing else meanwhile. -/
theorem Ready.prepare_spec (ready : Ready options tools work machine start)
    {outcome : Except Failure Unit}
    (h : (Adapters.prepare ready.javac ready.distribution work tools).on machine ready.equipped =
      (outcome, after)) :
    ((∃ failure, outcome = .error failure) ∧ after.outward = start.outward) ∨
      ∃ classpath adapters, ready.distribution.classpathWith none = .ok classpath ∧
        after.outward = (start.launched ++ adapters, start.printed) ∧
        InTurn (Adapters.commands ready.javac work tools classpath) adapters ∧
        (outcome = .ok () →
          adapters.map Launch.command = Adapters.commands ready.javac work tools classpath ∧
            ∀ launch ∈ adapters, launch.Succeeded) := by
  obtain ⟨hlaunched, hprinted⟩ := Prod.mk.inj ready.outward_eq
  have hprepare := Adapters.prepare_spec h
  rw [hlaunched, hprinted, ready.outward_eq] at hprepare
  exact hprepare

/-- Preparing the keep rules is quiet but for their consumer. -/
theorem prepareRules_took {staged : Staged} {outcome : Except Failure (Option Path)}
    (h : (prepareRules staged options hooks).on machine host = (outcome, after)) :
    ∃ before behind : Host, before.outward = host.outward ∧ hooks.Took machine before behind ∧
      after.outward = behind.outward := by
  unfold prepareRules at h
  rcases hfound : (staged.dump.find .rules).on machine host with ⟨found, middle⟩
  have hmiddle := (staged.dump.looks_find .rules).quiet.eq hfound
  cases found with
  | error failure =>
    rw [on_bind_of_error _ hfound, Prod.mk.injEq] at h
    obtain ⟨rfl, rfl⟩ := h
    exact ⟨middle, middle, hmiddle, .inl rfl, rfl⟩
  | ok found =>
    rw [on_bind_of_ok _ hfound] at h
    split at h
    · rw [on_pure, Prod.mk.injEq] at h
      obtain ⟨rfl, rfl⟩ := h
      exact ⟨middle, middle, hmiddle, .inl rfl, rfl⟩
    · rename_i file _
      cases hconsumer : hooks.rulesConsumer with
      | none =>
        rw [hconsumer] at h
        have hquiet : Quiet (do let _ ← adjustRules file options.toggles; return some file) :=
          .bind (quiet_adjustRules file _) fun _ => .pure _
        exact ⟨middle, middle, hmiddle, .inl rfl, hquiet.eq h⟩
      | some consume =>
        rw [hconsumer] at h
        refine ⟨middle, ((consume file).on machine middle).2, hmiddle,
          .inr ⟨consume, file, hconsumer, rfl⟩, ?_⟩
        rcases hconsumed : (consume file).on machine middle with ⟨consumed, behind⟩
        cases consumed with
        | error failure =>
          rw [on_bind_of_error _ hconsumed, Prod.mk.injEq] at h
          rw [h.2]
        | ok value =>
          rw [on_bind_of_ok _ hconsumed, on_pure, Prod.mk.injEq] at h
          rw [h.2]

namespace Assembled

variable (a : Assembled options tools hooks work machine start)

/-- When a replay runs the compiler, the adapters are compiled, and nothing else can be noticed of
it but for what the consumer of keep rules did. -/
theorem outward_eq :
    ∃ classpath adapters before behind, a.distribution.classpathWith none = .ok classpath ∧
      before.outward = (start.launched ++ adapters, start.printed) ∧
      adapters.map Launch.command = Adapters.commands a.javac work tools classpath ∧
      (∀ launch ∈ adapters, launch.Succeeded) ∧
      hooks.Took machine before behind ∧ a.assembled.outward = behind.outward := by
  obtain ⟨⟨_, hfailed⟩, _⟩ | ⟨classpath, adapters, hclasspath, hadapted, _, hall⟩ :=
    a.toReady.prepare_spec a.prepare_eq
  · exact absurd hfailed (by simp)
  · obtain ⟨hcommands, hsucceeded⟩ := hall rfl
    obtain ⟨before, behind, hbefore, htook, hruled⟩ := prepareRules_took a.rules_eq
    have hwarned := (looks_warnOfDebugger options).quiet.eq a.warn_eq
    have hplanned := (looks_planFor a.staged options hooks _ _ work).quiet.eq a.plan_eq
    have hassembled := (Jdk.looks_executable _ _).quiet.eq a.java_eq
    refine ⟨classpath, adapters, before, behind, hclasspath, ?_, hcommands, hsucceeded, htook, ?_⟩
    · rw [hbefore, hwarned, hadapted]
    · rw [hassembled, hplanned, hruled]

/-- The command line of the compiler is put together from the files as they are then. -/
theorem planIn_eq :
    planIn a.ruled.files machine.workingDirectory a.staged options hooks a.distribution a.rules work =
      .ok a.plan := by
  have hplan := a.plan_eq
  rw [on_planFor] at hplan
  exact (Prod.mk.inj hplan).1

/-- The compiler stands behind the work directory on the class path. -/
theorem classpath_eq : a.distribution.classpathWith (some work) = .ok a.plan.classpath := by
  obtain ⟨program, classpath, _, hclasspath, hplan⟩ := planIn_eq_ok a.planIn_eq
  rw [hclasspath, hplan]
  rfl

/-- From there on a replay runs the compiler and reports what it wrote. -/
theorem runIn_eq :
    (runIn work options tools hooks).on machine start =
      (do
        let run ← runCaptured a.command
        conclude run a.staged options work tools ⟨tools.javaHome⟩).on machine a.assembled := by
  unfold runIn
  rw [on_bind_of_ok _ a.stage_eq]
  dsimp only
  rw [on_bind_of_ok _ a.distribution_eq, on_bind_of_ok _ a.javac_eq, on_bind_of_ok _ a.prepare_eq,
    on_bind_of_ok _ a.warn_eq, on_bind_of_ok _ a.rules_eq, on_bind_of_ok _ a.plan_eq,
    on_bind_of_ok _ a.java_eq]
  rfl

end Assembled

/-! ## The ways for a replay to end -/

/-- How a replay ends that does not come to run the compiler. -/
inductive Abandoned (options : Options) (tools : Toolchain) (hooks : Hooks) (work : Path)
    (machine : Machine) (start after : Host) : Prop where
  /-- It was not ready to compile the adapters. -/
  | unready (houtward : after.outward = start.outward)
  /-- It could not compile the adapters. -/
  | unadapted (ready : Ready options tools work machine start) (failure : Failure)
      (hprepare : (Adapters.prepare ready.javac ready.distribution work tools).on machine
        ready.equipped = (.error failure, after))
  /-- It could not put the command line of the compiler together. -/
  | unassembled (ready : Ready options tools work machine start) (adapted before behind : Host)
      (hprepare : (Adapters.prepare ready.javac ready.distribution work tools).on machine
        ready.equipped = (.ok (), adapted))
      (hbefore : before.outward = adapted.outward) (htook : hooks.Took machine before behind)
      (hbehind : after.outward = behind.outward)

/-- A replay that is not ready fails, and nothing can be noticed of it. -/
theorem ready_or_fails (options : Options) (tools : Toolchain) (hooks : Hooks) (work : Path)
    (machine : Machine) (start : Host) :
    Nonempty (Ready options tools work machine start) ∨
      ∃ failure after, (runIn work options tools hooks).on machine start = (.error failure, after) ∧
        after.outward = start.outward := by
  unfold runIn
  rcases (quiet_stage options work).ok_or_error machine start with
    ⟨staged, opened, hstage, hopened⟩ | ⟨failure, opened, hstage, hopened⟩
  · rw [on_bind_of_ok _ hstage]
    dsimp only
    rcases (quiet_distributionFor options staged.version work tools).ok_or_error machine opened with
      ⟨distribution, found, hdistribution, hfound⟩ | ⟨failure, found, hdistribution, hfound⟩
    · rw [on_bind_of_ok _ hdistribution]
      rcases (Jdk.looks_executable ⟨tools.javaHome⟩ "javac").quiet.ok_or_error machine found with
        ⟨javac, equipped, hjavac, hequipped⟩ | ⟨failure, equipped, hjavac, hequipped⟩
      · exact .inl ⟨⟨staged, opened, hstage, distribution, found, hdistribution, javac, equipped,
          hjavac⟩⟩
      · refine .inr ⟨failure, equipped, on_bind_of_error _ hjavac, ?_⟩
        rw [hequipped, hfound, hopened]
    · exact .inr ⟨failure, found, on_bind_of_error _ hdistribution, hfound.trans hopened⟩
  · exact .inr ⟨failure, opened, on_bind_of_error _ hstage, hopened⟩

/-- A replay that has compiled the adapters comes to run the compiler, or it fails. -/
theorem Ready.assembled_or_fails (ready : Ready options tools work machine start)
    (hooks : Hooks) {adapted : Host}
    (hprepare : (Adapters.prepare ready.javac ready.distribution work tools).on machine
      ready.equipped = (.ok (), adapted)) :
    Nonempty (Assembled options tools hooks work machine start) ∨
      ∃ failure after before behind,
        (runIn work options tools hooks).on machine start = (.error failure, after) ∧
        before.outward = adapted.outward ∧ hooks.Took machine before behind ∧
        after.outward = behind.outward := by
  unfold runIn
  rw [on_bind_of_ok _ ready.stage_eq]
  dsimp only
  rw [on_bind_of_ok _ ready.distribution_eq, on_bind_of_ok _ ready.javac_eq,
    on_bind_of_ok _ hprepare]
  obtain ⟨warned, hwarn⟩ : ∃ warned,
      (warnOfDebugger options).on machine adapted = (.ok (), warned) := by
    unfold warnOfDebugger
    split
    · exact ⟨_, run_record ..⟩
    · exact ⟨_, on_pure ()⟩
  have hwarned := (looks_warnOfDebugger options).quiet.eq hwarn
  rw [on_bind_of_ok _ hwarn]
  rcases hrules : (prepareRules ready.staged options hooks).on machine warned with ⟨rules, ruled⟩
  obtain ⟨before, behind, hbefore, htook, hruled⟩ := prepareRules_took hrules
  rw [hwarned] at hbefore
  cases rules with
  | error failure =>
    exact .inr ⟨failure, ruled, before, behind, on_bind_of_error _ hrules, hbefore, htook, hruled⟩
  | ok rules =>
    rw [on_bind_of_ok _ hrules]
    rcases (looks_planFor ready.staged options hooks ready.distribution rules work).quiet.ok_or_error
      machine ruled with ⟨plan, planned, hplan, hplanned⟩ | ⟨failure, planned, hplan, hplanned⟩
    · rw [on_bind_of_ok _ hplan]
      rcases (Jdk.looks_executable ⟨tools.javaHome⟩ "java").quiet.ok_or_error machine planned with
        ⟨java, assembled, hjava, hassembled⟩ | ⟨failure, assembled, hjava, hassembled⟩
      · exact .inl ⟨⟨ready, adapted, hprepare, warned, hwarn, rules, ruled, hrules, plan, planned,
          hplan, java, assembled, hjava⟩⟩
      · refine .inr ⟨failure, assembled, before, behind, on_bind_of_error _ hjava, hbefore, htook,
          ?_⟩
        rw [hassembled, hplanned, hruled]
    · exact .inr ⟨failure, planned, before, behind, on_bind_of_error _ hplan, hbefore, htook,
        hplanned.trans hruled⟩

/-- A replay comes to run the compiler, or it fails before that. -/
theorem assembled_or_abandoned (options : Options) (tools : Toolchain) (hooks : Hooks)
    (work : Path) (machine : Machine) (start : Host) :
    Nonempty (Assembled options tools hooks work machine start) ∨
      ∃ failure after, (runIn work options tools hooks).on machine start = (.error failure, after) ∧
        Abandoned options tools hooks work machine start after := by
  rcases ready_or_fails options tools hooks work machine start with
    ⟨⟨ready⟩⟩ | ⟨failure, after, hrun, houtward⟩
  · rcases hprepare : (Adapters.prepare ready.javac ready.distribution work tools).on machine
      ready.equipped with ⟨prepared, adapted⟩
    cases prepared with
    | error failure =>
      refine .inr ⟨failure, adapted, ?_, .unadapted ready failure hprepare⟩
      unfold runIn
      rw [on_bind_of_ok _ ready.stage_eq]
      dsimp only
      rw [on_bind_of_ok _ ready.distribution_eq, on_bind_of_ok _ ready.javac_eq,
        on_bind_of_error _ hprepare]
    | ok value =>
      rcases ready.assembled_or_fails hooks hprepare with
        hassembled | ⟨failure, after, before, behind, hrun, hbefore, htook, hbehind⟩
      · exact .inl hassembled
      · exact .inr ⟨failure, after, hrun,
          .unassembled ready adapted before behind hprepare hbefore htook hbehind⟩
  · exact .inr ⟨failure, after, hrun, .unready houtward⟩

end Replay

end DumpReplay
