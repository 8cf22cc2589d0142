import DumpReplay.Proofs.Distribution.Classpath
import DumpReplay.Proofs.Replay.Faults
import DumpReplay.Proofs.Replay.SymbolMaps

/-!
# The class paths of a replay

A replay builds two class paths of one distribution: the adapters are compiled against its entries, and
the compiler runs with the work directory in front of them.

Main results:

- `Course.classpathsAgree` : the compiler takes the class path of the adapters behind the work directory.
- `Ready.colon_of_refused` : a replay with a distribution free of colons refuses a class path for its work
  directory only.
- `run_classpaths` : both, and what class paths are made of.
-/

namespace DumpReplay

open DumpReplay.Action

variable {directory : Option Path} {work : Path} {options : Options} {tools : Toolchain}
variable {hooks : Hooks} {machine : Machine} {host start after : Host} {started : List Launch}

/-- Adapters are compiled against entries that are free of colons, or fail for another reason. -/
theorem Adapters.failsOnly_prepare (javac work : Path) (tools : Toolchain) {distribution : Distribution}
    {classpath : String} (hclasspath : distribution.classpathWith none = .ok classpath) :
    FailsOnly Failure.Unrelated (prepare javac distribution work tools) := by
  refine .bind (.ofExcept fun failure hfailure => ?_) fun classpath => ?_
  · rw [hclasspath] at hfailure
    exact absurd hfailure (by simp)
  · refine .bind (.forIn (fun className _ => ?_) classNames _) fun _ => .pure _
    exact .bind (failsOnly_runChecked _) fun _ => .pure _

namespace Replay

/-! ## The class paths of the processes -/

/-- A replay uses no distribution without entries. -/
theorem Ready.entries_ne_nil (ready : Ready options tools work machine start) :
    ready.distribution.entries ≠ [] := by
  rw [eq_chosenFor ready.distribution_eq]
  unfold chosenFor
  split <;> exact List.cons_ne_nil _ _

/-- Processes take class paths that agree: the first two compile adapters against the distribution, and
the third one takes the same class path behind the work directory. -/
structure ClasspathsAgree (distribution : Distribution) (tools : Toolchain) (work : Path)
    (started : List Launch) (classpath : String) : Prop where
  /-- The class path of the distribution is built. -/
  built : distribution.classpathWith none = .ok classpath
  /-- Adapters are compiled against it. -/
  adapters : ∀ launch ∈ started.take 2, ∃ javac, ∃ className ∈ Adapters.classNames,
    launch.command = ⟨javac, Adapters.arguments (tools.adapterSource className) work classpath⟩
  /-- The compiler takes it behind the work directory. -/
  compiler : ∀ launch, started[2]? = some launch → ∃ java, ∃ plan : Plan,
    launch.command = ⟨java, plan.arguments⟩ ∧
      distribution.classpathWith (some work) = .ok plan.classpath ∧
      plan.classpath = work.text ++ ":" ++ classpath

/-- The class path of the compiler is the one of the adapters behind the work directory. -/
theorem Assembled.plan_classpath (a : Assembled options tools hooks work machine start) {classpath : String}
    (hclasspath : a.distribution.classpathWith none = .ok classpath) :
    a.plan.classpath = work.text ++ ":" ++ classpath :=
  ((Distribution.classpathWith_some_eq_ok_iff a.entries_ne_nil hclasspath).mp a.classpath_eq).2

/-- A process that compiles adapters is for one of the classes. -/
theorem exists_className {program : Path} {classpath : String} {launch : Launch}
    (h : launch.command ∈ Adapters.commands program work tools classpath) :
    ∃ javac, ∃ className ∈ Adapters.classNames, launch.command =
      ⟨javac, Adapters.arguments (tools.adapterSource className) work classpath⟩ := by
  obtain ⟨className, hname, hcommand⟩ := List.mem_map.mp h
  exact ⟨program, className, hname, hcommand.symm⟩

/-- The processes of a replay that has compiled all adapters take class paths that agree. -/
theorem Assembled.classpathsAgree (a : Assembled options tools hooks work machine start)
    {classpath : String} {adapters rest : List Launch} {compiler : Launch}
    (hclasspath : a.distribution.classpathWith none = .ok classpath)
    (hcommands : adapters.map Launch.command = Adapters.commands a.javac work tools classpath)
    (hcompiler : compiler.command = a.command) :
    ClasspathsAgree a.distribution tools work (adapters ++ compiler :: rest) classpath := by
  have hlength : adapters.length = 2 := by
    rw [← List.length_map Launch.command, hcommands]
    rfl
  refine ⟨hclasspath, fun launch hlaunch => ?_, fun launch hlaunch => ?_⟩
  · rw [List.take_left' hlength] at hlaunch
    exact exists_className (hcommands ▸ List.mem_map_of_mem hlaunch)
  · rw [← hlength, List.getElem?_append_right le_rfl, Nat.sub_self, List.getElem?_cons_zero,
      Option.some.injEq] at hlaunch
    exact ⟨a.java, a.plan, hlaunch ▸ hcompiler, a.classpath_eq, a.plan_classpath hclasspath⟩

/-- The processes of a course take class paths that agree. -/
theorem Course.classpathsAgree (h : Course options tools hooks work machine start started) :
    started = [] ∨ ∃ (ready : Ready options tools work machine start) (classpath : String),
      ClasspathsAgree ready.distribution tools work started classpath := by
  cases h with
  | nothing => exact .inl rfl
  | adapting ready classpath _ hclasspath hturn =>
    refine .inr ⟨ready, classpath, hclasspath, fun launch hlaunch => ?_, fun launch hlaunch => ?_⟩
    · exact exists_className (hturn.order.subset (List.mem_map_of_mem (List.mem_of_mem_take hlaunch)))
    · -- There are no more processes than classes.
      have hlength : started.length ≤ 2 := by
        simpa [Adapters.commands, Adapters.classNames] using hturn.order.length_le
      rw [List.getElem?_eq_none hlength] at hlaunch
      exact absurd hlaunch (by simp)
  | compiling a classpath adapters compiler hclasspath hcommands _ hcompiler =>
    exact .inr ⟨a.toReady, classpath, a.classpathsAgree hclasspath hcommands hcompiler⟩
  | retracing a classpath adapters compiler retracer hclasspath hcommands _ hcompiler =>
    exact .inr ⟨a.toReady, classpath, a.classpathsAgree hclasspath hcommands hcompiler⟩

/-! ## Class paths that are refused -/

/-- What fails only in unrelated ways is passed by a replay that refuses a class path. -/
theorem passed_of_refused {α β : Type} {first : Action α} {next : α → Action β}
    (hfirst : FailsOnly Failure.Unrelated first)
    (h : (first >>= next).on machine host = (.error .separatorInClasspath, after)) :
    ∃ value middle, first.on machine host = (.ok value, middle) ∧
      (next value).on machine middle = (.error .separatorInClasspath, after) :=
  hfirst.passed (by simp) h

/-- The consumer of keep rules fails as if it had refused a class path. -/
def Hooks.RefusesClasspath (hooks : Hooks) (machine : Machine) : Prop :=
  ∃ consume file before, hooks.rulesConsumer = some consume ∧
    ((consume file).on machine before).1 = .error .separatorInClasspath

/-- Preparing the keep rules refuses a class path only if their consumer does. -/
theorem refusesClasspath_of_prepareRules {staged : Staged}
    (h : (prepareRules staged options hooks).on machine host = (.error .separatorInClasspath, after)) :
    hooks.RefusesClasspath machine := by
  rw [prepareRules_eq] at h
  split at h
  · cases hconsumer : hooks.rulesConsumer with
    | some consume =>
      rw [hconsumer] at h
      rcases on_bind_eq_error.mp h with hfailed | ⟨_, _, _, hpure⟩
      · exact ⟨consume, _, host, hconsumer, congrArg Prod.fst hfailed⟩
      · exact absurd (Prod.mk.inj hpure).1 (by simp)
    | none =>
      rw [hconsumer] at h
      obtain ⟨_, _, _, hpure⟩ := passed_of_refused (failsOnly_adjustRules _ _) h
      exact absurd (Prod.mk.inj hpure).1 (by simp)
  · exact absurd (Prod.mk.inj h).1 (by simp)

/-- A replay that refuses a class path had decided what to run. -/
theorem ready_of_refused
    (h : (runIn work options tools hooks).on machine start = (.error .separatorInClasspath, after)) :
    Nonempty (Ready options tools work machine start) := by
  unfold runIn at h
  obtain ⟨staged, opened, hstage, h⟩ := passed_of_refused (failsOnly_stage options work) h
  obtain ⟨distribution, found, hdistribution, h⟩ :=
    passed_of_refused (failsOnly_distributionFor options _ work tools) h
  obtain ⟨javac, equipped, hjavac, _⟩ :=
    passed_of_refused (Jdk.failsOnly_executable _ "javac") h
  exact ⟨⟨staged, opened, hstage, distribution, found, hdistribution, javac, equipped, hjavac⟩⟩

/-- A replay with a distribution that is free of colons refuses a class path for its work directory
only. -/
theorem Ready.colon_of_refused (ready : Ready options tools work machine start)
    (hfree : ∀ entry ∈ ready.distribution.entries, ':' ∉ entry.toList)
    (h : (runIn work options tools hooks).on machine start = (.error .separatorInClasspath, after)) :
    ':' ∈ work.toList ∨ hooks.RefusesClasspath machine := by
  have hclasspath := Distribution.classpathWith_eq_ok_iff.mpr
    ⟨show ∀ entry ∈ ready.distribution.entriesAfter none, ':' ∉ entry.toList from hfree, rfl⟩
  unfold runIn at h
  rw [on_bind_of_ok _ ready.stage_eq] at h
  dsimp only at h
  rw [on_bind_of_ok _ ready.distribution_eq, on_bind_of_ok _ ready.javac_eq] at h
  obtain ⟨_, adapted, _, h⟩ :=
    passed_of_refused (Adapters.failsOnly_prepare _ work tools hclasspath) h
  obtain ⟨_, warned, _, h⟩ := passed_of_refused (failsOnly_warnOfDebugger options) h
  rcases on_bind_eq_error.mp h with hrules | ⟨rules, ruled, _, h⟩
  · exact .inr (refusesClasspath_of_prepareRules hrules)
  rcases on_bind_eq_error.mp h with hplan | ⟨plan, planned, _, h⟩
  · -- The class path of the adapters is built, so that only the work directory can hold a colon.
    rw [on_planFor] at hplan
    rcases planIn_fault (Prod.mk.inj hplan).1 with ⟨_, hother⟩ | hrefused
    · exact absurd hother (by simp)
    · obtain ⟨entry, hentry, hcolon⟩ := (Distribution.classpathWith_eq_error_iff _ _).mp hrefused
      rcases List.mem_cons.mp hentry with rfl | hentry
      · exact .inl hcolon
      · exact absurd hcolon (hfree entry hentry)
  · obtain ⟨java, assembled, _, h⟩ :=
      passed_of_refused (Jdk.failsOnly_executable _ "java") h
    obtain ⟨run, ended, _, h⟩ := passed_of_refused (failsOnly_runCaptured _) h
    obtain ⟨status, hstatus⟩ := exists_status_of_conclude h
    exact absurd hstatus (by simp)

/-! ## All class paths -/

/-- Class paths are built of entries that are free of colons, and read back by cutting them at the colons.
The compiler of a replay takes the class path that its adapters are compiled against, with the work
directory in front.  Where the entries of the distribution are free of colons, the replay refuses a class
path only for the work directory. -/
theorem run_classpaths (directory : Option Path) (options : Options) (tools : Toolchain)
    (hooks : Hooks) (machine : Machine) (host : Host) :
    (∀ (distribution : Distribution) (first : Option Path), distribution.entriesAfter first ≠ [] →
      ((∃ failure, distribution.classpathWith first = .error failure) ↔
        ∃ entry ∈ distribution.entriesAfter first, ':' ∈ entry.toList) ∧
      ∀ text, distribution.classpathWith first = .ok text →
        (text.toList.splitOn ':').map Path.ofList = first.toList ++ distribution.entries) ∧
    (∃ early late before behind, hooks.Took machine before behind ∧
      before.launched = host.launched ++ early ∧
      ((run directory options tools hooks).on machine host).2.launched = behind.launched ++ late ∧
      (early ++ late = [] ∨ ∃ (work : Path) (start : Host)
        (ready : Ready options tools work machine start) (classpath : String),
        (enter directory).on machine host = (.ok work, start) ∧
          ClasspathsAgree ready.distribution tools work (early ++ late) classpath)) ∧
    (((run directory options tools hooks).on machine host).1 = .error .separatorInClasspath →
      hooks.RefusesClasspath machine ∨ ∃ work start,
        (enter directory).on machine host = (.ok work, start) ∧
          Nonempty (Ready options tools work machine start) ∧
          ∀ ready : Ready options tools work machine start,
            (∀ entry ∈ ready.distribution.entries, ':' ∉ entry.toList) → ':' ∈ work.toList) := by
  refine ⟨fun distribution first hne => ⟨?_, fun text htext => ?_⟩, ?_⟩
  · exact Distribution.exists_classpathWith_eq_error_iff
  · exact Distribution.splitOn_classpathWith hne htext
  rcases hentered : (enter directory).on machine host with ⟨outcome, start⟩
  cases outcome with
  | error failure =>
    have hstart := (Prod.mk.inj ((quiet_enter directory).eq hentered)).1
    have hunrelated := failsOnly_enter directory machine host failure (congrArg Prod.fst hentered)
    rw [run_of_not_entered hentered]
    refine ⟨⟨[], [], host, host, .inl rfl, by simp, by simpa using hstart, .inl rfl⟩, ?_⟩
    intro hrefused
    exact absurd (Except.error.inj hrefused) hunrelated
  | ok work =>
    refine ⟨?_, fun hrefused => ?_⟩
    · obtain ⟨early, late, before, behind, htook, hbefore, hbehind, hcourse⟩ :=
        course_of_run options tools hooks hentered
      refine ⟨early, late, before, behind, htook, hbefore, hbehind, ?_⟩
      exact hcourse.classpathsAgree.imp_right fun ⟨ready, classpath, hagree⟩ =>
        ⟨work, start, ready, classpath, rfl, hagree⟩
    · rw [(run_of_entered options tools hooks hentered).1] at hrefused
      have hrun : (runIn work options tools hooks).on machine start =
          (.error .separatorInClasspath, ((runIn work options tools hooks).on machine start).2) :=
        Prod.ext hrefused rfl
      by_cases hconsumer : hooks.RefusesClasspath machine
      · exact .inl hconsumer
      · exact .inr ⟨work, start, rfl, ready_of_refused hrun, fun ready hfree =>
          (ready.colon_of_refused hfree hrun).resolve_right hconsumer⟩

/-- A replay in a directory with a colon compiles the adapters, and fails for the directory. -/
theorem run_classpaths_colon :
    ((run (some ⟨"/w:x"⟩) givenOptions sampleTools .none).on sampleMachine sampleHost).1 =
        .error .separatorInClasspath ∧
      ((run (some ⟨"/w:x"⟩) givenOptions sampleTools .none).on sampleMachine
        sampleHost).2.launched.length = 2 ∧
      ∃ work start, (enter (some ⟨"/w:x"⟩)).on sampleMachine sampleHost = (.ok work, start) ∧
        Nonempty (Ready givenOptions sampleTools work sampleMachine start) ∧ ':' ∈ work.toList := by
  refine ⟨rfl, rfl, ?_⟩
  rcases (run_classpaths (some ⟨"/w:x"⟩) givenOptions sampleTools .none sampleMachine
    sampleHost).2.2 rfl with ⟨_, _, _, hconsumer, _⟩ | ⟨work, start, hentered, ⟨ready⟩, hcolon⟩
  · exact absurd hconsumer (by simp [Hooks.none])
  · refine ⟨work, start, hentered, ⟨ready⟩, hcolon ready ?_⟩
    have hentries : ready.distribution.entries = [⟨"/f"⟩] := by
      rw [eq_chosenFor ready.distribution_eq]
      rfl
    rw [hentries]
    decide

end Replay

end DumpReplay
