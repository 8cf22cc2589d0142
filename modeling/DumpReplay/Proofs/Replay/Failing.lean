import DumpReplay.Proofs.Replay.Adjusting

/-!
# The keep rules behind a failed replay

The keep rules of a dump are adjusted in place, and three steps behind that can still fail: putting the
class path together, finding the program that runs classes, and starting it.  A replay that fails
anywhere else leaves the rules as they were.

Main results:

- `late_of_compile_error` : what can fail when the keep rules are adjusted.
- `rules_of_failed_run` : the keep rules behind a replay that failed.
- `not_forall_failed_run_keeps_rules` : a replay can fail and leave the rules adjusted.
-/

namespace DumpReplay.Replay

open DumpReplay.Action

variable {directory : Option Path} {work source : Path} {options : Options} {tools : Toolchain}
variable {hooks : Hooks} {machine : Machine} {host start ended after : Host} {failure : Failure}

/-- However the compiler ended, a replay that ran it does not fail. -/
theorem exists_status_of_conclude {run : CapturedRun} {staged : Staged} {jdk : Jdk}
    {outcome : Except Failure Status}
    (h : (conclude run staged options work tools jdk).on machine ended = (outcome, after)) :
    ∃ status, outcome = .ok status := by
  cases hrun : run.success with
  | true => exact ⟨_, (conclude_of_success hrun h).1⟩
  | false =>
    cases hversion : retracedVersion? staged options with
    | none => exact ⟨_, (conclude_of_failure hrun hversion h).1⟩
    | some version => exact ⟨_, (conclude_of_retracing hrun hversion h).1⟩

/-- How a replay fails that has adjusted the keep rules. -/
inductive Late (r : Ruled options tools hooks work machine start) (failure : Failure) : Prop where
  /-- The class path cannot be put together. -/
  | classpath (h : r.distribution.classpathWith (some work) = .error failure)
  /-- The program that runs classes is not found. -/
  | java (h : ((Jdk.mk tools.javaHome).java.on machine r.ruled).1 = .error failure)
  /-- The compiler cannot be started. -/
  | start (a : Assembled options tools hooks work machine start) (hready : a.toReady = r.toReady)
      (cause : IoError)
      (hlaunch : (machine.launch a.assembled.launched.length a.command a.assembled.files).1 =
        .error cause)
      (hfailure : failure = .process (.cannotStart a.java cause))

/-- A run that is not captured could not be started. -/
theorem runCaptured_error {command : Command}
    (h : (runCaptured command).on machine host = (.error failure, after)) :
    ∃ cause, (machine.launch host.launched.length command host.files).1 = .error cause ∧
      failure = .process (.cannotStart command.program cause) := by
  unfold runCaptured at h
  rw [on_bind_of_ok _ (on_inform _), on_bind_of_ok _ (run_launch command machine _)] at h
  dsimp only at h
  cases hlaunch : (machine.launch host.launched.length command host.files).1 with
  | ok ending =>
    rw [hlaunch] at h
    exact absurd (Prod.mk.inj h).1 (by simp)
  | error cause =>
    rw [hlaunch] at h
    exact ⟨cause, rfl, (Except.error.inj (Prod.mk.inj h).1).symm⟩

/-- When the keep rules of a dump with a program are adjusted, only three steps can still fail. -/
theorem late_of_compile_error (r : Ruled options tools hooks work machine start)
    (hprogram : r.staged.dump.found r.ruled.files machine.workingDirectory .program ≠ none)
    (h : (compile r.staged options tools hooks r.distribution (some (r.staged.dump.path .rules))
      work).on machine r.ruled = (.error failure, after)) : Late r failure := by
  unfold compile at h
  rw [on_bind, on_planFor] at h
  cases hplan : planIn r.ruled.files machine.workingDirectory r.staged options hooks r.distribution
      (some (r.staged.dump.path .rules)) work with
  | error cause =>
    rw [hplan] at h
    obtain rfl := Except.error.inj (Prod.mk.inj h).1
    exact .classpath (planIn_eq_error hprogram hplan)
  | ok plan =>
    rw [hplan] at h
    dsimp only at h
    rcases on_bind_eq_error.mp h with hjava | ⟨java, assembled, hjava, h⟩
    · refine .java ?_
      rw [hjava]
    · have hplanFor : (planFor r.staged options hooks r.distribution
          (some (r.staged.dump.path .rules)) work).on machine r.ruled = (.ok plan, r.ruled) := by
        rw [on_planFor, hplan]
      rcases on_bind_eq_error.mp h with hrun | ⟨run, ended, _, hconclude⟩
      · obtain ⟨cause, hlaunch, hfailure⟩ := runCaptured_error hrun
        exact .start ⟨r.toReady, r.adapted, r.prepare_eq, r.warned, r.warn_eq, _, r.ruled,
          r.rules_eq, plan, r.ruled, hplanFor, java, assembled, hjava⟩ rfl cause hlaunch hfailure
      · obtain ⟨status, hstatus⟩ := exists_status_of_conclude hconclude
        exact absurd hstatus (by simp)

section Directory

variable (hspares : machine.Spares ((Dump.mk source).Site machine.workingDirectory))
variable (hstart : start.files.Paved machine.workingDirectory source)
include hspares hstart

/-- As long as a replay writes only its own files, the same is read from the keep rules of a dump
behind it as before. -/
theorem Entered.read_rules_iff (e : Entered directory machine host work start)
    (hsound : host.Sound machine) (hhost : host.files.Paved machine.workingDirectory source)
    {tree : FileTree} {bytes : ByteArray}
    (h : Changed machine (fun _ => False) (Dump.Own machine.workingDirectory work) start.files tree) :
    (leave directory machine work tree).read machine.workingDirectory
        ((Dump.mk source).path .rules) = .ok bytes ↔
      host.files.read machine.workingDirectory ((Dump.mk source).path .rules) = .ok bytes :=
  hhost.read_iff_of_onlyMade (e.leave_paved hhost (Dump.paved_of_changed h hspares hstart))
    (Artifact.isName_fileName .rules) (e.onlyMade hsound.rooted (e.rules_onlyMade hspares hstart h))

variable (r : Ruled options tools hooks work machine start) (hsource : r.staged.dump = ⟨source⟩)
variable (hwarned : Changed machine (fun _ => False) (Dump.Own machine.workingDirectory work)
  start.files r.warned.files)
include hsource hwarned

/-- A dump that is given as a directory looks alike when its keep rules are adjusted. -/
theorem alike_start :
    (Dump.mk source).Alike machine.workingDirectory start.files r.ruled.files := by
  have hkept := Dump.kept_of_changed hwarned hspares hstart
  have halike := r.alike (by rw [hsource]; exact hkept.still)
  rw [hsource] at halike
  exact hkept.alike.trans halike

/-- When the keep rules of such a dump are adjusted, only the late steps can still fail. -/
theorem late_of_directory (hdump : options.dump = some source)
    (hthere : start.files.hasDirectory machine.workingDirectory source = true)
    (hcompile : (compile r.staged options tools hooks r.distribution
      (some (r.staged.dump.path .rules)) work).on machine r.ruled = (.error failure, after)) :
    Late r failure := by
  refine late_of_compile_error r ?_ hcompile
  have hstaged := r.stage_eq
  rw [stage_of_directory work hdump hthere] at hstaged
  rw [hsource, (alike_start hspares hstart r hsource hwarned).found_eq,
    found_program_of_decideFor hstaged]
  simp

/-- What was read from the keep rules of such a dump before the replay is what was adjusted, and behind
the replay the adjusted text is read from them. -/
theorem Entered.read_adjusted (e : Entered directory machine host work start)
    (hsound : host.Sound machine) (hhost : host.files.Paved machine.workingDirectory source)
    (hcompiled : Changed machine (fun _ => False) (Dump.Own machine.workingDirectory work)
      r.ruled.files ended.files) :
    host.files.read machine.workingDirectory ((Dump.mk source).path .rules) =
        .ok (Text.toBytes r.content) ∧
      (leave directory machine work ended.files).read machine.workingDirectory
        ((Dump.mk source).path .rules) =
          .ok (Text.toBytes (Shrinker.adjust options.toggles r.content).content) := by
  have hname := Artifact.isName_fileName .rules
  have hadjusted := r.read_adjusted
  have hread := r.read_eq
  rw [hsource] at hread hadjusted
  have hbefore := (hhost.read_iff_of_onlyMade (Dump.paved_of_changed hwarned hspares hstart) hname
    (e.rules_onlyMade hspares hstart hwarned)).mp hread
  refine ⟨hbefore, ?_⟩
  have hruled := (alike_start hspares hstart r hsource hwarned).still
  have hkept := Dump.kept_of_changed hcompiled hspares hruled
  -- The rules were there before, so that they are not removed with a scratch directory.
  have hstands : host.files.get? (rulesLocation machine ⟨source⟩) ≠ none := by
    obtain ⟨_, _, executable, hfile⟩ := (hhost.read_child hname).mp hbefore
    rw [rulesLocation, Dump.path, hfile]
    simp
  have honly : FileTree.OnlyMade (fun _ => False) r.ruled.files
      (leave directory machine work ended.files) (rulesLocation machine ⟨source⟩) := by
    left
    rw [e.leave_get? hsound.rooted hstands, rulesLocation_eq]
    exact hkept.part _ (Dump.isPart_fileName .rules)
  exact (hruled.read_iff_of_onlyMade (e.leave_paved hhost hkept.still) hname honly).mpr hadjusted

end Directory

/-- A replay that fails leaves the keep rules of a dump that is given as a directory as they were, or
it had come to adjust them in place and fails later. -/
theorem rules_of_failed_run (directory : Option Path) (tools : Toolchain) (hsound : host.Sound machine)
    (hspares : machine.Spares ((Dump.mk source).Site machine.workingDirectory))
    (hconsumer : hooks.rulesConsumer = none) (hdump : options.dump = some source)
    (hdirectory : host.files.hasDirectory machine.workingDirectory source = true)
    (hrun : (run directory options tools hooks).on machine host = (.error failure, after)) :
    (∀ bytes, after.files.read machine.workingDirectory ((Dump.mk source).path .rules) = .ok bytes ↔
      host.files.read machine.workingDirectory ((Dump.mk source).path .rules) = .ok bytes) ∨
    ∃ work start, (enter directory).on machine host = (.ok work, start) ∧
      ∃ r : Ruled options tools hooks work machine start, r.staged.dump = ⟨source⟩ ∧
        Late r failure ∧
        host.files.read machine.workingDirectory ((Dump.mk source).path .rules) =
          .ok (Text.toBytes r.content) ∧
        after.files.read machine.workingDirectory ((Dump.mk source).path .rules) =
          .ok (Text.toBytes (Shrinker.adjust options.toggles r.content).content) := by
  have hkeeps : ∀ consume, hooks.rulesConsumer = some consume →
      ∀ file, Keeps Host.files (consume file) := by
    intro consume hconsume
    rw [hconsumer] at hconsume
    exact absurd hconsume (by simp)
  have hpaved := hsound.rooted.paved hdirectory
  rcases hentered : (enter directory).on machine host with ⟨entering, start⟩
  cases entering with
  | error cause =>
    rw [run_of_not_entered hentered] at hrun
    obtain ⟨_, rfl⟩ := Prod.mk.inj hrun
    have hedited := edited_of_not_entered hentered
    exact .inl fun bytes => hpaved.read_iff_of_onlyMade (hedited.paved hpaved)
      (Artifact.isName_fileName .rules) (hedited.onlyMade fun _ _ => id)
  | ok work =>
    have e := entered hsound hentered
    obtain ⟨ended, hrunIn, hfiles⟩ := runIn_of_run hsound hentered hrun
    have hthere := e.hasDirectory hsound hdirectory
    have hstart := (e.edited.rooted hsound.rooted).paved hthere
    rw [hfiles]
    rcases changed_or_ruled_of_directory hkeeps hdump hthere hrunIn with
      hafter | ⟨r, hsource, hwarned, hcompile⟩
    · exact .inl fun bytes => e.read_rules_iff hspares hstart hsound hpaved hafter
    · have hlate := late_of_directory hspares hstart r hsource hwarned hdump hthere hcompile
      have hcompiled := changed_of_compile hcompile
      exact .inr ⟨work, start, rfl, r, hsource, hlate,
        e.read_adjusted hspares hstart r hsource hwarned hsound hpaved hcompiled⟩

/-- The dump with keep rules, and a JDK that can compile classes but not run them. -/
def javalessHost : Host :=
  .ofFiles ((rulesHost "-injars a\n").files.removeBelow ["j", "bin", "java"])

theorem sound_javalessHost : javalessHost.Sound sampleMachine :=
  ⟨(sound_rulesHost _).rooted.removeBelow (by simp), (sound_rulesHost "").named⟩

/-- Without a program that runs classes a replay fails, and the keep rules are adjusted. -/
theorem run_javalessHost :
    ∃ failure after, (run (some ⟨"/w"⟩) (rulesOptions .unforced) sampleTools .none).on sampleMachine
        javalessHost = (.error failure, after) ∧
      after.files.read [] ⟨"/d/proguard.config"⟩ ≠ .ok (Text.toBytes "-injars a\n") := by
  rcases hrun : (run (some ⟨"/w"⟩) (rulesOptions .unforced) sampleTools .none).on sampleMachine
    javalessHost with ⟨outcome, after⟩
  have hfails : ((run (some ⟨"/w"⟩) (rulesOptions .unforced) sampleTools .none).on sampleMachine
      javalessHost).1.isOk = false := by decide +kernel
  have htext : textAt ((run (some ⟨"/w"⟩) (rulesOptions .unforced) sampleTools .none).on sampleMachine
      javalessHost).2.files ["d", "proguard.config"] = some "" := by decide +kernel
  rw [hrun] at hfails htext
  cases outcome with
  | ok status => exact absurd hfails (by simp [Except.isOk, Except.toBool])
  | error failure =>
    refine ⟨failure, after, rfl, fun hread => ?_⟩
    have hold := textAt_of_read hread
    rw [Text.ofBytes_toBytes] at hold
    exact absurd (htext.symm.trans hold) (by decide)

/-- So a replay that never gets to run the compiler can change the keep rules of the dump. -/
theorem not_forall_failed_run_keeps_rules :
    ¬∀ (directory : Option Path) (options : Options) (tools : Toolchain) (hooks : Hooks)
      (machine : Machine) (host after : Host) (source : Path) (failure : Failure),
      host.Sound machine → (machine.Spares fun _ => True) → hooks.rulesConsumer = none →
      options.dump = some source →
      host.files.hasDirectory machine.workingDirectory source = true →
      (run directory options tools hooks).on machine host = (.error failure, after) →
      ∀ bytes,
        host.files.read machine.workingDirectory ((Dump.mk source).path .rules) = .ok bytes →
        after.files.read machine.workingDirectory ((Dump.mk source).path .rules) = .ok bytes := by
  intro h
  obtain ⟨failure, after, hrun, hadjusted⟩ := run_javalessHost
  exact hadjusted (h (some ⟨"/w"⟩) (rulesOptions .unforced) sampleTools .none sampleMachine
    javalessHost after ⟨"/d"⟩ failure sound_javalessHost (fun _ _ _ _ _ => rfl) rfl rfl rfl hrun _ rfl)

/-- What fails there is a late step. -/
theorem rules_of_failed_run_javalessHost :
    ∃ failure work start, (enter (some ⟨"/w"⟩)).on sampleMachine javalessHost = (.ok work, start) ∧
      ∃ r : Ruled (rulesOptions .unforced) sampleTools .none work sampleMachine start,
        Late r failure ∧ r.content = "-injars a\n" := by
  obtain ⟨failure, after, hrun, hadjusted⟩ := run_javalessHost
  have hdump : (rulesOptions .unforced).dump = some ⟨"/d"⟩ := rfl
  rcases rules_of_failed_run (some ⟨"/w"⟩) sampleTools sound_javalessHost (fun _ _ _ _ _ => rfl) rfl
    hdump rfl hrun with
    hsame | ⟨work, start, hentered, r, _, hlate, hbefore, _⟩
  · exact absurd ((hsame _).mpr rfl) hadjusted
  · refine ⟨failure, work, start, hentered, r, hlate, ?_⟩
    have hcontent : Text.ofBytes? (Text.toBytes r.content) = some "-injars a\n" := by
      rw [← textAt_of_read hbefore]
      decide +kernel
    rwa [Text.ofBytes_toBytes, Option.some.injEq] at hcontent

end DumpReplay.Replay
