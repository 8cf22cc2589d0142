import DumpReplay.Proofs.Action.Looking
import DumpReplay.Replay.Run

/-!
# The steps of a replay that only look

Once a dump is opened, deciding what to run and putting the command line of the compiler together
only look at files.

Main results:

- `stage_eq` : a replay is staged by opening the dump and deciding the values of the replay.
- `looks_decideFor` : deciding what to run only looks.
- `on_planFor` : the command line of the compiler depends on the files only.
-/

namespace DumpReplay

open DumpReplay.Action

/-! ## Dumps -/

namespace Dump

/-- The path of an artifact, if the dump has it in a tree. -/
def found (tree : FileTree) (here : Location) (dump : Dump) (artifact : Artifact) : Option Path :=
  if tree.has here (dump.path artifact) then some (dump.path artifact) else none

/-- The feature archives that a dump has in a tree. -/
def featuresIn (tree : FileTree) (here : Location) (dump : Dump) : List Path :=
  (upToGap (fun index => tree.has here (dump.featurePath index)) tree.entries.length 1).map
    dump.featurePath

variable {machine : Machine} {host : Host}

theorem on_find (dump : Dump) (artifact : Artifact) :
    (dump.find artifact).on machine host =
      (.ok (dump.found host.files machine.workingDirectory artifact), host) := by
  unfold find pathExists found
  rw [on_bind_of_ok _ (on_look _)]
  split
  · rfl
  · rfl

theorem on_featureJars (dump : Dump) :
    dump.featureJars.on machine host =
      (.ok (dump.featuresIn host.files machine.workingDirectory), host) := rfl

theorem looks_find (dump : Dump) (artifact : Artifact) : Looks (dump.find artifact) := by
  intro machine host
  rw [on_find]

theorem looks_has (dump : Dump) (artifact : Artifact) : Looks (dump.has artifact) :=
  looks_pathExists _

theorem looks_version (dump : Dump) : Looks dump.version := by
  refine .bind (looks_find dump .version) fun found => ?_
  cases found with
  | none => exact .pure _
  | some file => exact .bind (looks_readText file) fun _ => .pure _

theorem looks_unsupportedArtifacts (dump : Dump) : Looks dump.unsupportedArtifacts := by
  unfold unsupportedArtifacts
  have hhas : ∀ entry : Artifact × String, Looks (dump.has entry.1) :=
    fun entry => dump.looks_has entry.1
  exact .bind (Keeps.filterM hhas Artifact.unsupported) fun _ => .pure _

theorem looks_warnUnsupported (dump : Dump) : Looks dump.warnUnsupported := by
  refine .bind (looks_unsupportedArtifacts dump) fun descriptions => ?_
  refine .bind (.forIn (fun _ _ => ?_) descriptions _) fun _ => .pure _
  exact .bind (looks_warn _) fun _ => .pure _

end Dump

/-! ## Distributions and the JDK -/

theorem Distribution.looks_verify (distribution : Distribution) : Looks distribution.verify := by
  cases distribution with
  | jar file => exact .bind (looks_pathExists file) fun _ => .ite (.fail _) (.pure _)
  | classpath entries => exact .pure _

theorem Jdk.looks_executable (jdk : Jdk) (program : String) : Looks (jdk.executable program) := by
  unfold executable
  split
  · exact .bind (looks_pathExists _) fun _ => .ite (.pure _) (.fail _)
  · refine .bind .read fun machine => .bind .files fun tree => ?_
    dsimp only
    split
    · exact .pure _
    · exact .fail _

/-! ## Staging -/

namespace Replay

theorem looks_readProperties (file : Path) : Looks (readProperties file) := by
  refine .bind (looks_readText file) fun content => ?_
  refine .bind (.forIn (fun _ _ => ?_) _ _) fun _ => .pure _
  exact .bind (looks_warn _) fun _ => .pure _

theorem looks_propertiesOf (dump : Dump) : Looks (propertiesOf dump) := by
  refine .bind (dump.looks_find .buildProperties) fun found => ?_
  cases found with
  | none => exact .pure _
  | some file => exact looks_readProperties file

theorem looks_versionOf (requested : Option String) (dump : Dump) :
    Looks (versionOf requested dump) := by
  cases requested with
  | none => exact .bind dump.looks_version fun _ => .pure _
  | some token => exact .pure _

/-- Decide the values of a replay of a dump that is opened. -/
def decideFor (options : Options) (workDirectory : Path) (dump : Dump) : Action Staged := do
  if !(← dump.has .program) then Action.fail (.dump .noProgram)
  if !(← dump.has .library) then
    Action.warn "Unexpected lack of library classes in dump"
  dump.warnUnsupported
  let properties ← propertiesOf dump
  let version ← versionOf options.version dump
  let invocation ← Action.ofExcept
    (Invocation.resolve options.invocationRequest properties workDirectory)
  return ⟨dump, properties, version, invocation⟩

/-- A replay is staged by opening the dump and deciding the values of the replay. -/
theorem stage_eq (options : Options) (workDirectory : Path) :
    stage options workDirectory =
      match options.dump with
      | none => Action.fail (.configuration .noDump)
      | some source =>
        Dump.openIn source workDirectory options.overrideExtraction >>=
          decideFor options workDirectory := rfl

/-- Deciding the values of a replay only looks. -/
theorem looks_decideFor (options : Options) (workDirectory : Path) (dump : Dump) :
    Looks (decideFor options workDirectory dump) := by
  refine .bind (dump.looks_has .program) fun _ => .ite (.bind (.fail _) fun _ => ?_) ?_
  all_goals
    refine .bind (dump.looks_has .library) fun _ => .ite (.bind (looks_warn _) fun _ => ?_) ?_
  all_goals
    refine .bind dump.looks_warnUnsupported fun _ => .bind (looks_propertiesOf dump) fun _ => ?_
    refine .bind (looks_versionOf _ dump) fun _ => .bind (.ofExcept _) fun _ => .pure _

/-- The values of a replay are decided only for a dump with a program. -/
theorem found_program_of_decideFor {options : Options} {workDirectory : Path} {dump : Dump}
    {machine : Machine} {host after : Host} {staged : Staged}
    (h : (decideFor options workDirectory dump).on machine host = (.ok staged, after)) :
    dump.found host.files machine.workingDirectory .program = some (dump.path .program) := by
  unfold decideFor Dump.has pathExists at h
  rw [on_bind_of_ok _ (on_look _)] at h
  rw [Dump.found]
  cases hhas : host.files.has machine.workingDirectory (dump.path .program) with
  | true => rfl
  | false =>
    rw [hhas] at h
    exact absurd (Prod.mk.inj h).1 (by simp)

/-! ## The command line -/

theorem looks_warnOfDebugger (options : Options) : Looks (warnOfDebugger options) :=
  .ite (looks_warn _) (.pure _)

/-- The command line of the compiler for a program and a class path, with the files of a tree. -/
def planOf (tree : FileTree) (here : Location) (staged : Staged) (options : Options) (hooks : Hooks)
    (rules : Option Path) (work programJar : Path) (classpath : String) : Plan where
  jvm := options.jvm
  systemProperties := hooks.properties ++ staged.properties.systemProperties
  classpath := classpath
  invocation := staged.invocation
  workDirectory := work
  programJar := programJar
  featureJars := staged.dump.featuresIn tree here
  libraryJar := staged.dump.found tree here .library
  classpathJar := staged.dump.found tree here .classpath
  desugaredLibrary :=
    if options.withoutDesugaredLibrary then none
    else options.desugaredLibrary.or (staged.dump.found tree here .desugaredLibrary)
  rules := rules
  mainDexRules := staged.dump.found tree here .mainDexRules
  threads := options.threads
  passthrough := options.passthrough

/-- The command line of the compiler that is put together in a tree. -/
def planIn (tree : FileTree) (here : Location) (staged : Staged) (options : Options) (hooks : Hooks)
    (distribution : Distribution) (rules : Option Path) (work : Path) : Except Failure Plan := do
  let programJar ← match hooks.programJar.or (staged.dump.found tree here .program) with
    | some file => .ok file
    | none => .error (.dump .noProgram)
  let classpath ← distribution.classpathWith (some work)
  return planOf tree here staged options hooks rules work programJar classpath

/-- The program or the class path is at fault for a command line that cannot be put together. -/
theorem planIn_fault {tree : FileTree} {here : Location} {staged : Staged} {options : Options}
    {hooks : Hooks} {distribution : Distribution} {rules : Option Path} {work : Path}
    {failure : Failure}
    (h : planIn tree here staged options hooks distribution rules work = .error failure) :
    (hooks.programJar.or (staged.dump.found tree here .program) = none ∧ failure = .dump .noProgram) ∨
      distribution.classpathWith (some work) = .error failure := by
  unfold planIn at h
  cases hjar : hooks.programJar.or (staged.dump.found tree here .program) with
  | none =>
    rw [hjar] at h
    exact .inl ⟨rfl, (Except.error.inj h).symm⟩
  | some file =>
    rw [hjar] at h
    cases hclasspath : distribution.classpathWith (some work) with
    | ok classpath =>
      rw [hclasspath] at h
      exact absurd h (by simp [bind, Except.bind, pure, Except.pure])
    | error cause =>
      rw [hclasspath] at h
      exact .inr (by simpa [bind, Except.bind] using h)

/-- For a dump with a program, only the class path can be at fault. -/
theorem planIn_eq_error {tree : FileTree} {here : Location} {staged : Staged} {options : Options}
    {hooks : Hooks} {distribution : Distribution} {rules : Option Path} {work : Path}
    {failure : Failure} (hprogram : staged.dump.found tree here .program ≠ none)
    (h : planIn tree here staged options hooks distribution rules work = .error failure) :
    distribution.classpathWith (some work) = .error failure := by
  rcases planIn_fault h with ⟨hjar, _⟩ | hclasspath
  · exact absurd (Option.or_eq_none_iff.mp hjar).2 hprogram
  · exact hclasspath

/-- A command line is put together from the program, which has to be there, and the class path. -/
theorem planIn_eq_ok {tree : FileTree} {here : Location} {staged : Staged} {options : Options}
    {hooks : Hooks} {distribution : Distribution} {rules : Option Path} {work : Path} {plan : Plan}
    (h : planIn tree here staged options hooks distribution rules work = .ok plan) :
    ∃ programJar classpath,
      hooks.programJar.or (staged.dump.found tree here .program) = some programJar ∧
      distribution.classpathWith (some work) = .ok classpath ∧
      plan = planOf tree here staged options hooks rules work programJar classpath := by
  unfold planIn at h
  cases hjar : hooks.programJar.or (staged.dump.found tree here .program) with
  | none =>
    rw [hjar] at h
    exact absurd h (by simp [bind, Except.bind])
  | some file =>
    rw [hjar] at h
    cases hclasspath : distribution.classpathWith (some work) with
    | error cause =>
      rw [hclasspath] at h
      exact absurd h (by simp [bind, Except.bind])
    | ok classpath =>
      rw [hclasspath] at h
      exact ⟨file, classpath, rfl, rfl, (Except.ok.inj h).symm⟩

variable {machine : Machine} {host : Host}

theorem on_desugaredLibraryFor (dump : Dump) (options : Options) :
    (desugaredLibraryFor dump options).on machine host =
      (.ok (if options.withoutDesugaredLibrary then none
        else options.desugaredLibrary.or
          (dump.found host.files machine.workingDirectory .desugaredLibrary)), host) := by
  unfold desugaredLibraryFor
  split
  · rfl
  · cases options.desugaredLibrary with
    | some file => rfl
    | none => exact Dump.on_find dump .desugaredLibrary

theorem on_programFor (dump : Dump) (hooks : Hooks) :
    (programFor dump hooks).on machine host =
      (match hooks.programJar.or (dump.found host.files machine.workingDirectory .program) with
        | some file => .ok file
        | none => .error (.dump .noProgram), host) := by
  unfold programFor
  cases hooks.programJar with
  | some file => rfl
  | none =>
    rw [Option.none_or]
    dsimp only
    rw [on_bind_of_ok _ (Dump.on_find dump .program)]
    cases dump.found host.files machine.workingDirectory .program with
    | some file => rfl
    | none => rfl

/-- Putting the command line of the compiler together depends on the files only. -/
theorem on_planFor (staged : Staged) (options : Options) (hooks : Hooks)
    (distribution : Distribution) (rules : Option Path) (workDirectory : Path) :
    (planFor staged options hooks distribution rules workDirectory).on machine host =
      (planIn host.files machine.workingDirectory staged options hooks distribution rules
        workDirectory, host) := by
  unfold planFor planIn
  rw [on_bind_of_ok _ (on_desugaredLibraryFor _ options)]
  cases hprogram : hooks.programJar.or
      (staged.dump.found host.files machine.workingDirectory .program) with
  | none =>
    have hmissing : (programFor staged.dump hooks).on machine host =
        (.error (.dump .noProgram), host) := by rw [on_programFor, hprogram]
    rw [on_bind_of_error _ hmissing]
    rfl
  | some file =>
    have hfile : (programFor staged.dump hooks).on machine host = (.ok file, host) := by
      rw [on_programFor, hprogram]
    rw [on_bind_of_ok _ hfile]
    cases hclasspath : distribution.classpathWith (some workDirectory) with
    | error failure =>
      rw [on_bind_of_error _ (on_ofExcept _)]
      rfl
    | ok classpath =>
      rw [on_bind_of_ok _ (on_ofExcept _), on_bind_of_ok _ (Dump.on_featureJars _),
        on_bind_of_ok _ (Dump.on_find _ _), on_bind_of_ok _ (Dump.on_find _ _),
        on_bind_of_ok _ (Dump.on_find _ _)]
      rfl

/-- Putting the command line of the compiler together only looks. -/
theorem looks_planFor (staged : Staged) (options : Options) (hooks : Hooks)
    (distribution : Distribution) (rules : Option Path) (workDirectory : Path) :
    Looks (planFor staged options hooks distribution rules workDirectory) := by
  intro machine host
  rw [on_planFor]

end Replay

end DumpReplay
