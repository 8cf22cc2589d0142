import DumpReplay.Proofs.Dump.Alike
import DumpReplay.Proofs.Dump.Reopening
import DumpReplay.Proofs.Replay.Entering
import DumpReplay.Proofs.Replay.Processes

/-!
# Adjusting the keep rules

Of all files of a dump a replay writes only the keep rules.  It does so in place, when the adapters
are compiled and before the command line of the compiler is put together.

Main results:

- `runIn_eq_stretches` : a replay, cut where it has compiled the adapters and where the keep rules are
  prepared.
- `changed_or_ruled` : a replay adjusts the keep rules, or it writes nothing but its own files.
- `changed_or_ruled_of_directory` : so does a replay of a dump that is given as a directory.
-/

namespace DumpReplay.Replay

open DumpReplay.Action

variable {work : Path} {options : Options} {tools : Toolchain} {hooks : Hooks} {staged : Staged}
variable {machine : Machine} {host start opened after : Host} {made written : Location → Prop}
variable {directory : Option Path} {source : Path}

/-! ## The stretches of a replay -/

/-- Find the compiler of a staged replay, and compile the adapters against it. -/
def equip (staged : Staged) (options : Options) (tools : Toolchain) (work : Path) :
    Action Distribution := do
  let jdk : Jdk := ⟨tools.javaHome⟩
  let distribution ← distributionFor options staged.version work tools
  Adapters.prepare (← jdk.javac) distribution work tools
  warnOfDebugger options
  return distribution

/-- Run the compiler when the keep rules are prepared, and report what it wrote. -/
def compile (staged : Staged) (options : Options) (tools : Toolchain) (hooks : Hooks)
    (distribution : Distribution) (rules : Option Path) (work : Path) : Action Status := do
  let jdk : Jdk := ⟨tools.javaHome⟩
  let plan ← planFor staged options hooks distribution rules work
  let run ← Action.runCaptured ⟨← jdk.java, plan.arguments⟩
  conclude run staged options work tools jdk

/-- A replay stages the dump, finds the compiler and compiles the adapters, prepares the keep rules,
and runs the compiler. -/
theorem runIn_eq_stretches (options : Options) (tools : Toolchain) (hooks : Hooks) (work : Path) :
    runIn work options tools hooks = (do
      let staged ← stage options work
      let distribution ← equip staged options tools work
      let rules ← prepareRules staged options hooks
      compile staged options tools hooks distribution rules work) := by
  unfold runIn equip
  simp only [bind_assoc, pure_bind]
  rfl

section Own

variable (hown : ∀ location, Dump.Own machine.workingDirectory work location → written location)
include hown

/-- Finding the compiler and compiling the adapters changes only files that a replay writes for
itself, but for what processes do. -/
theorem changes_equip (staged : Staged) (options : Options) (tools : Toolchain) :
    Changes machine made written (equip staged options tools work) := by
  have hjar := hown _ (Dump.own_child machine.workingDirectory work
    (by simp [Dump.ownNames] : Store.plainJar ∈ Dump.ownNames))
  refine .bind (changes_distributionFor options _ tools hjar) fun distribution => ?_
  refine .bind (.of_looks (Jdk.looks_executable _ _)) fun javac => ?_
  refine .bind (Adapters.changes_prepare javac distribution work tools) fun _ => ?_
  exact .of_looks (.bind (looks_warnOfDebugger options) fun _ => .pure _)

/-- So does running the compiler, and reporting what it wrote. -/
theorem changes_compile (staged : Staged) (options : Options) (tools : Toolchain) (hooks : Hooks)
    (distribution : Distribution) (rules : Option Path) :
    Changes machine made written (compile staged options tools hooks distribution rules work) := by
  have hstacktrace := hown _ (Dump.own_child machine.workingDirectory work
    (by simp [Dump.ownNames] : "stacktrace" ∈ Dump.ownNames))
  have hmap := hown _ (Dump.own_child machine.workingDirectory work
    (by simp [Dump.ownNames] : "mapping.map" ∈ Dump.ownNames))
  refine .bind (.of_looks (looks_planFor staged options hooks _ rules work)) fun plan => ?_
  refine .bind (.of_looks (Jdk.looks_executable _ _)) fun java => ?_
  refine .bind (changes_runCaptured _) fun run => ?_
  exact changes_conclude run staged options tools _ hstacktrace hmap

end Own

/-- A replay that runs the compiler changes only files that it writes for itself. -/
theorem changed_of_compile {distribution : Distribution} {rules : Option Path}
    {outcome : Except Failure Status}
    (h : (compile staged options tools hooks distribution rules work).on machine start =
      (outcome, after)) :
    Changed machine (fun _ => False) (Dump.Own machine.workingDirectory work) start.files
      after.files :=
  (changes_compile (fun _ => id) staged options tools hooks distribution rules).changed h

/-! ## How far a replay came -/

/-- A replay that has compiled the adapters. -/
structure Adapted (options : Options) (tools : Toolchain) (work : Path) (machine : Machine)
    (start : Host) extends Ready options tools work machine start where
  adapted : Host
  prepare_eq :
    (Adapters.prepare javac distribution work tools).on machine equipped = (.ok (), adapted)
  warned : Host
  warn_eq : (warnOfDebugger options).on machine adapted = (.ok (), warned)

/-- A replay that has adjusted the keep rules of the dump. -/
structure Ruled (options : Options) (tools : Toolchain) (hooks : Hooks) (work : Path)
    (machine : Machine) (start : Host) extends Adapted options tools work machine start where
  takes : staged.invocation.compiler.takesRules = true
  unconsumed : hooks.rulesConsumer = none
  /-- What the keep rules were. -/
  content : String
  ruled : Host
  rules_eq :
    (prepareRules staged options hooks).on machine warned =
      (.ok (some (staged.dump.path .rules)), ruled)
  read_eq :
    warned.files.read machine.workingDirectory (staged.dump.path .rules) =
      .ok (Text.toBytes content)
  write_eq :
    warned.files.write machine.workingDirectory (staged.dump.path .rules)
      (Text.toBytes (Shrinker.adjust options.toggles content).content) = .ok ruled.files

/-- A staged replay that finds the compiler has compiled the adapters. -/
theorem exists_adapted {distribution : Distribution} {warned : Host}
    (hstage : (stage options work).on machine start = (.ok staged, opened))
    (hequip : (equip staged options tools work).on machine opened = (.ok distribution, warned)) :
    ∃ a : Adapted options tools work machine start,
      a.staged = staged ∧ a.distribution = distribution ∧ a.warned = warned := by
  obtain ⟨found, middle, hfound, hequip⟩ := on_bind_eq_ok.mp hequip
  obtain ⟨javac, equipped, hjavac, hequip⟩ := on_bind_eq_ok.mp hequip
  obtain ⟨_, adapted, hprepare, hequip⟩ := on_bind_eq_ok.mp hequip
  obtain ⟨_, last, hwarn, hequip⟩ := on_bind_eq_ok.mp hequip
  obtain ⟨hdistribution, rfl⟩ := Prod.mk.inj hequip
  obtain rfl := Except.ok.inj hdistribution
  exact ⟨⟨⟨staged, opened, hstage, found, middle, hfound, javac, equipped, hjavac⟩, adapted,
    hprepare, last, hwarn⟩, rfl, rfl, rfl⟩

/-- A replay adjusts the keep rules and goes on to run the compiler, or it changes nothing but what
staging and the files that it writes for itself do. -/
theorem changed_or_ruled {outcome : Except Failure Status}
    (hconsumer : ∀ consume, hooks.rulesConsumer = some consume →
      ∀ file, Keeps Host.files (consume file))
    (hstage : Changed machine made written start.files
      ((stage options work).on machine start).2.files)
    (hown : ∀ location, Dump.Own machine.workingDirectory work location → written location)
    (h : (runIn work options tools hooks).on machine start = (outcome, after)) :
    Changed machine made written start.files after.files ∨
      ∃ r : Ruled options tools hooks work machine start,
        Changed machine made written start.files r.warned.files ∧
        (compile r.staged options tools hooks r.distribution (some (r.staged.dump.path .rules))
          work).on machine r.ruled = (outcome, after) := by
  rw [runIn_eq_stretches] at h
  rcases hstaged : (stage options work).on machine start with ⟨staged, opened⟩
  rw [hstaged] at hstage
  cases staged with
  | error failure =>
    rw [on_bind_of_error _ hstaged] at h
    obtain ⟨_, rfl⟩ := Prod.mk.inj h
    exact .inl hstage
  | ok staged =>
    rw [on_bind_of_ok _ hstaged] at h
    rcases hequip : (equip staged options tools work).on machine opened with ⟨equipped, warned⟩
    have hwarned : Changed machine made written start.files warned.files :=
      hstage.trans ((changes_equip hown staged options tools).changed hequip)
    cases equipped with
    | error failure =>
      rw [on_bind_of_error _ hequip] at h
      obtain ⟨_, rfl⟩ := Prod.mk.inj h
      exact .inl hwarned
    | ok distribution =>
      rw [on_bind_of_ok _ hequip] at h
      rcases hrules : (prepareRules staged options hooks).on machine warned with ⟨rules, ruled⟩
      rcases prepareRules_spec hconsumer hrules with
        hsame | ⟨content, htakes, hunconsumed, rfl, hread, hwrite⟩
      · rw [← hsame] at hwarned
        cases rules with
        | error failure =>
          rw [on_bind_of_error _ hrules] at h
          obtain ⟨_, rfl⟩ := Prod.mk.inj h
          exact .inl hwarned
        | ok rules =>
          rw [on_bind_of_ok _ hrules] at h
          have hcompiled : Changed machine made written ruled.files after.files :=
            (changed_of_compile h).mono (fun _ => False.elim) hown
          exact .inl (hwarned.trans hcompiled)
      · rw [on_bind_of_ok _ hrules] at h
        obtain ⟨a, rfl, rfl, rfl⟩ := exists_adapted hstaged hequip
        exact .inr ⟨⟨a, htakes, hunconsumed, content, ruled, hrules, hread, hwrite⟩, hwarned, h⟩

/-! ## The rules of a dump -/

/-- The location of the keep rules of a dump. -/
abbrev rulesLocation (machine : Machine) (dump : Dump) : Location :=
  (dump.path .rules).location machine.workingDirectory

theorem rulesLocation_eq (machine : Machine) (dump : Dump) :
    rulesLocation machine dump =
      dump.directory.location machine.workingDirectory ++ [Artifact.fileName .rules] :=
  Path.location_child (Artifact.isName_fileName .rules) _ _

/-- The keep rules that a replay adjusts were a file before, and nothing else is changed by that. -/
theorem Ruled.write_spec (r : Ruled options tools hooks work machine start) :
    (∃ bytes executable, r.warned.files.get? (rulesLocation machine r.staged.dump) =
        some (.file bytes executable)) ∧
      ∀ location, location ≠ rulesLocation machine r.staged.dump →
        r.ruled.files.get? location = r.warned.files.get? location := by
  obtain ⟨executable, hstatus⟩ := FileTree.read_eq_ok_iff.mp r.read_eq
  obtain ⟨found, hlocate, hget⟩ := FileTree.status_eq_ok_iff.mp hstatus
  rw [FileTree.location_of_locate hlocate] at hget
  obtain ⟨hroot, _, hruled⟩ := FileTree.write_eq_ok r.write_eq
  refine ⟨⟨_, executable, hget⟩, fun location hne => ?_⟩
  rw [hruled, FileTree.get?_insert_of_ne _ _ hroot hne]

theorem Ruled.edit (r : Ruled options tools hooks work machine start) :
    FileTree.Edit (fun _ => True) (fun _ => True) r.warned.files r.ruled.files :=
  FileTree.edit_write _ (fun _ => True.intro) r.write_eq

/-- When the keep rules are adjusted, the adjusted text is read from them. -/
theorem Ruled.read_adjusted (r : Ruled options tools hooks work machine start) :
    r.ruled.files.read machine.workingDirectory (r.staged.dump.path .rules) =
      .ok (Text.toBytes (Shrinker.adjust options.toggles r.content).content) :=
  (FileTree.write_of_ok r.write_eq).2

/-- A dump looks alike when its keep rules are adjusted. -/
theorem Ruled.alike (r : Ruled options tools hooks work machine start)
    (hpaved : r.warned.files.Paved machine.workingDirectory r.staged.dump.directory) :
    r.staged.dump.Alike machine.workingDirectory r.warned.files r.ruled.files := by
  have hstill := FileTree.Edited.paved (.single r.edit) hpaved
  obtain ⟨⟨bytes, executable, hfile⟩, hothers⟩ := r.write_spec
  obtain ⟨_, _, executable', hadjusted⟩ :=
    (hstill.read_child (Artifact.isName_fileName .rules)).mp r.read_adjusted
  rw [rulesLocation_eq] at hfile hothers
  rw [Path.location_child (Artifact.isName_fileName .rules)] at hadjusted
  refine ⟨hpaved, hstill, fun name _ hname => hothers _ fun hsame => ?_, ?_⟩
  · exact hname (List.append_singleton_inj.mp hsame).2
  · rw [hfile, hadjusted]
    rfl

/-- A dump that is given as a directory is staged by only looking at it. -/
theorem stage_of_directory (work : Path) (hdump : options.dump = some source)
    (hdirectory : start.files.hasDirectory machine.workingDirectory source = true) :
    (stage options work).on machine start =
      (decideFor options work ⟨source⟩).on machine start := by
  rw [stage_eq, hdump]
  dsimp only
  rw [on_bind_of_ok _ (Dump.openIn_of_hasDirectory hdirectory work _)]

/-- A directory that a dump is given as is still one when the work directory is entered. -/
theorem Entered.hasDirectory (e : Entered directory machine host work start)
    (hsound : host.Sound machine)
    (hdirectory : host.files.hasDirectory machine.workingDirectory source = true) :
    start.files.hasDirectory machine.workingDirectory source = true :=
  hsound.rooted.hasDirectory_of_paved hdirectory e.edited.paved

/-- As long as a replay writes only its own files, at most a directory is made at the keep rules of a
dump, on the way to the work directory. -/
theorem Entered.rules_onlyMade (e : Entered directory machine host work start)
    (hspares : machine.Spares ((Dump.mk source).Site machine.workingDirectory))
    (hpaved : start.files.Paved machine.workingDirectory source) {tree : FileTree}
    (h : Changed machine (fun _ => False) (Dump.Own machine.workingDirectory work) start.files tree) :
    FileTree.OnlyMade (work.Way machine.workingDirectory) host.files tree
      (rulesLocation machine ⟨source⟩) := by
  refine (e.edited.onlyMade fun _ _ => id).trans (.inl ?_)
  rw [rulesLocation_eq]
  exact Dump.get?_part h hspares hpaved (Dump.isPart_fileName .rules)

/-- A replay of a dump that is given as a directory adjusts its keep rules, or it writes nothing but
its own files. -/
theorem changed_or_ruled_of_directory {outcome : Except Failure Status}
    (hconsumer : ∀ consume, hooks.rulesConsumer = some consume →
      ∀ file, Keeps Host.files (consume file))
    (hdump : options.dump = some source)
    (hdirectory : start.files.hasDirectory machine.workingDirectory source = true)
    (h : (runIn work options tools hooks).on machine start = (outcome, after)) :
    Changed machine (fun _ => False) (Dump.Own machine.workingDirectory work) start.files
        after.files ∨
      ∃ r : Ruled options tools hooks work machine start, r.staged.dump = ⟨source⟩ ∧
        Changed machine (fun _ => False) (Dump.Own machine.workingDirectory work) start.files
          r.warned.files ∧
        (compile r.staged options tools hooks r.distribution (some (r.staged.dump.path .rules))
          work).on machine r.ruled = (outcome, after) := by
  have hstaged := stage_of_directory work hdump hdirectory
  have hlooks := (looks_decideFor options work ⟨source⟩).keepsFiles
  have hstage : Changed machine (fun _ => False) (Dump.Own machine.workingDirectory work) start.files
      ((stage options work).on machine start).2.files := by
    rw [hstaged, hlooks machine start]
  refine (changed_or_ruled hconsumer hstage (fun _ => id) h).imp_right fun ⟨r, hchanged, hcompile⟩ => ?_
  have hsame : r.staged.dump = ⟨source⟩ :=
    gives_decideFor options work ⟨source⟩ _ _ _ (hstaged ▸ r.stage_eq)
  exact ⟨r, hsame, hchanged, hcompile⟩

/-! ## A dump with keep rules -/

/-- The dump, the checkout and the JDK of the sample, and keep rules in the dump. -/
def rulesHost (content : String) : Host :=
  .ofFiles ⟨sampleHost.files.entries ++
    [(["d", "proguard.config"], .file (Text.toBytes content) false)]⟩

/-- A replay of the dump with a compiler that takes keep rules. -/
def rulesOptions (toggles : Shrinker.Toggles) : Options :=
  { sampleOptions ⟨"/d"⟩ with compiler := some "r8", toggles := toggles }

/-- The text of the file at a location. -/
def textAt (tree : FileTree) (location : Location) : Option String :=
  match tree.get? location with
  | some (.file bytes _) => Text.ofBytes? bytes
  | _ => none

theorem textAt_of_read {tree : FileTree} {here : Location} {path : Path} {bytes : ByteArray}
    (h : tree.read here path = .ok bytes) : textAt tree (path.location here) = Text.ofBytes? bytes := by
  obtain ⟨executable, hstatus⟩ := FileTree.read_eq_ok_iff.mp h
  obtain ⟨location, hlocate, hget⟩ := FileTree.status_eq_ok_iff.mp hstatus
  rw [← FileTree.location_of_locate hlocate, textAt, hget]

theorem sound_rulesHost (content : String) : (rulesHost content).Sound sampleMachine := by
  refine ⟨FileTree.rooted_of_entries fun entry hentry => ?_, by simp [sampleMachine]⟩
  simp only [rulesHost, sampleHost, Host.ofFiles, List.mem_append, List.mem_cons, List.not_mem_nil,
    or_false] at hentry
  rcases hentry with (rfl | rfl | rfl | rfl | rfl | rfl | rfl | rfl | rfl | rfl | rfl | rfl | rfl) | rfl
  all_goals rfl

end DumpReplay.Replay
