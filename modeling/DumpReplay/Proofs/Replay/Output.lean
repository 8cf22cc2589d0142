import DumpReplay.Proofs.Replay.Processes

/-!
# The output of a replay

A replay that fails prints nothing.  A replay whose compiler was run to its end does not fail any
more: it prints one report, which is what the compiler wrote or what that is when it is retraced,
and its status tells how the compiler ended.

Main results:

- `Assembled.reported` : what is printed when the compiler was run to its end.
- `run_finished` : the two ways for a replay without hooks to end.
- `run_output` : what a replay prints and how it ends, however its processes behave.
-/

namespace DumpReplay.Replay

open DumpReplay.Action

variable {directory : Option Path} {work : Path} {options : Options} {tools : Toolchain}
variable {hooks : Hooks} {machine : Machine} {host start after ended : Host}
variable {captured : CapturedRun}

/-- The report on a compiler that was run to its end, and the status that goes with it.  The output
is as the compiler wrote it, unless the compiler failed and all steps of retracing went well.  Where
one of them fails, it is told which one. -/
inductive Reported (staged : Staged) (options : Options) (tools : Toolchain) (work : Path)
    (machine : Machine) (captured : CapturedRun) (ended : Host) : Status → String → Prop where
  /-- The compiler succeeded. -/
  | success (hcode : captured.code = some 0) :
      Reported staged options tools work machine captured ended .succeeded
        (rawReport captured.output)
  /-- The compiler failed, and its output is retraced. -/
  | retraced (hcode : captured.code ≠ some 0) (version : Version)
      (hversion : retracedVersion? staged options = some version)
      (r : Retraceable captured.output version work tools ⟨tools.javaHome⟩ machine ended)
      (ending : Ending) (hending : r.ending? = .ok ending) (hsucceeded : ending.succeeded = true) :
      Reported staged options tools work machine captured ended .compilerFailed
        (retracedReport (Text.ofBytesLenient ending.output))
  /-- The compiler failed, and its output is not to be retraced, or a step of retracing fails. -/
  | raw (hcode : captured.code ≠ some 0)
      (hretrace : ∀ version, retracedVersion? staged options = some version →
        Unretraced captured.output version work tools ⟨tools.javaHome⟩ machine ended) :
      Reported staged options tools work machine captured ended .compilerFailed
        (rawReport captured.output)

/-- A captured run is a success exactly if its exit code is 0. -/
theorem success_iff_of_runCaptured {command : Command}
    (h : (runCaptured command).on machine host = (.ok captured, after)) :
    captured.success = true ↔ captured.code = some 0 := by
  obtain ⟨_, _, _, ⟨ending, _, hrun⟩ | ⟨_, _, _, hfailed⟩⟩ := runCaptured_spec h
  · rw [Except.ok.injEq] at hrun
    rw [hrun]
    exact beq_iff_eq
  · simp at hfailed

/-- Reporting never fails, and prints one report. -/
theorem conclude_reported {staged : Staged} {outcome : Except Failure Status}
    (hrun : captured.success = true ↔ captured.code = some 0)
    (h : (conclude captured staged options work tools ⟨tools.javaHome⟩).on machine ended =
      (outcome, after)) :
    ∃ status text, outcome = .ok status ∧ after.printed = ended.printed ++ text ∧
      Reported staged options tools work machine captured ended status text := by
  cases hsuccess : captured.success with
  | true =>
    obtain ⟨houtcome, hafter⟩ := conclude_of_success hsuccess h
    exact ⟨_, _, houtcome, (Prod.mk.inj hafter).2, .success (hrun.mp hsuccess)⟩
  | false =>
    have hcode : captured.code ≠ some 0 := fun hzero => by
      rw [hrun.mpr hzero] at hsuccess
      exact absurd hsuccess (by simp)
    cases hversion : retracedVersion? staged options with
    | none =>
      obtain ⟨houtcome, hafter⟩ := conclude_of_failure hsuccess hversion h
      refine ⟨_, _, houtcome, (Prod.mk.inj hafter).2, .raw hcode ?_⟩
      intro version hsome
      rw [hversion] at hsome
      exact absurd hsome (by simp)
    | some version =>
      obtain ⟨houtcome, result, behind, hretrace, _,
        ⟨text, rfl, hprinted⟩ | ⟨⟨failure, rfl⟩, hprinted⟩⟩ :=
        conclude_of_retracing hsuccess hversion h
      · obtain ⟨r, ending, hending, hsucceeded, rfl⟩ :=
          retrace_ok_iff.mp (congrArg Prod.fst hretrace)
        exact ⟨_, _, houtcome, hprinted, .retraced hcode version hversion r ending hending hsucceeded⟩
      · refine ⟨_, _, houtcome, hprinted, .raw hcode ?_⟩
        intro other hother
        rw [hversion, Option.some.injEq] at hother
        exact hother ▸ retrace_fails_iff.mp ⟨failure, congrArg Prod.fst hretrace⟩

/-- What a replay prints whose compiler was run to its end, and how it ends. -/
theorem Assembled.reported (a : Assembled options tools hooks work machine start)
    (hrun : (runCaptured a.command).on machine a.assembled = (.ok captured, ended)) :
    ∃ before behind status text, hooks.Took machine before behind ∧
      before.printed = start.printed ∧
      ((runIn work options tools hooks).on machine start).1 = .ok status ∧
      ((runIn work options tools hooks).on machine start).2.printed = behind.printed ++ text ∧
      Reported a.staged options tools work machine captured ended status text := by
  obtain ⟨_, _, before, behind, _, hbefore, _, _, htook, hbehind⟩ := a.outward_eq
  obtain ⟨_, _, hended, _⟩ := runCaptured_spec hrun
  rcases hconclude :
    (conclude captured a.staged options work tools ⟨tools.javaHome⟩).on machine ended with
    ⟨outcome, after⟩
  obtain ⟨status, text, houtcome, hprinted, hreported⟩ :=
    conclude_reported (success_iff_of_runCaptured hrun) hconclude
  refine ⟨before, behind, status, text, htook, (Prod.mk.inj hbefore).2, ?_, ?_, hreported⟩
  · rw [a.runIn_eq, on_bind_of_ok _ hrun, hconclude]
    exact houtcome
  · rw [a.runIn_eq, on_bind_of_ok _ hrun, hconclude, ← (Prod.mk.inj hbehind).2,
      ← (Prod.mk.inj hended).2]
    exact hprinted

/-- A replay whose compiler could not be started prints nothing itself. -/
theorem Assembled.printed_of_not_started (a : Assembled options tools hooks work machine start)
    {failure : Failure}
    (hrun : (runCaptured a.command).on machine a.assembled = (.error failure, ended)) :
    (runIn work options tools hooks).on machine start = (.error failure, ended) ∧
      ∃ before behind, hooks.Took machine before behind ∧ before.printed = start.printed ∧
        ended.printed = behind.printed := by
  obtain ⟨_, _, before, behind, _, hbefore, _, _, htook, hbehind⟩ := a.outward_eq
  obtain ⟨_, _, hended, _⟩ := runCaptured_spec hrun
  refine ⟨?_, before, behind, htook, (Prod.mk.inj hbefore).2, ?_⟩
  · rw [a.runIn_eq, on_bind_of_error _ hrun]
  · rw [(Prod.mk.inj hended).2, (Prod.mk.inj hbehind).2]

/-- A replay in a work directory that fails prints nothing itself, and one that ends well has run
the compiler to its end. -/
theorem runIn_printed (options : Options) (tools : Toolchain) (hooks : Hooks) (work : Path)
    (machine : Machine) (start : Host) :
    (∀ failure, ((runIn work options tools hooks).on machine start).1 = .error failure →
      ∃ before behind, hooks.Took machine before behind ∧ before.printed = start.printed ∧
        ((runIn work options tools hooks).on machine start).2.printed = behind.printed) ∧
    ∀ status, ((runIn work options tools hooks).on machine start).1 = .ok status →
      ∃ (a : Assembled options tools hooks work machine start) (captured : CapturedRun)
        (ended : Host), (runCaptured a.command).on machine a.assembled = (.ok captured, ended) := by
  rcases assembled_or_abandoned options tools hooks work machine start with
    ⟨⟨a⟩⟩ | ⟨failure, after, hfails, habandoned⟩
  · rcases hrun : (runCaptured a.command).on machine a.assembled with ⟨outcome, ended⟩
    cases outcome with
    | ok captured =>
      obtain ⟨_, _, status, _, _, _, houtcome, _⟩ := a.reported hrun
      rw [houtcome]
      exact ⟨fun _ hfailure => by simp at hfailure, fun _ _ => ⟨a, captured, ended, hrun⟩⟩
    | error failure =>
      obtain ⟨hfails, before, behind, htook, hbefore, hended⟩ := a.printed_of_not_started hrun
      rw [hfails]
      exact ⟨fun _ _ => ⟨before, behind, htook, hbefore, hended⟩,
        fun _ hstatus => by simp at hstatus⟩
  · obtain ⟨_, before, behind, htook, hbefore, hafter, _⟩ := habandoned.course
    rw [hfails]
    exact ⟨fun _ _ => ⟨before, behind, htook, (Prod.mk.inj hbefore).2, (Prod.mk.inj hafter).2⟩,
      fun _ hstatus => by simp at hstatus⟩

/-! ## Replays without hooks -/

/-- How a replay without hooks ends, and what it prints: it fails and prints nothing, or its compiler is
run to its end and it prints the report on that. -/
inductive Finished (directory : Option Path) (options : Options) (tools : Toolchain)
    (machine : Machine) (host : Host) : Except Failure Status → String → Prop where
  /-- It fails. -/
  | failed (failure : Failure) : Finished directory options tools machine host (.error failure) ""
  /-- Its compiler is run to its end. -/
  | reported {work : Path} {start ended : Host} {captured : CapturedRun} {status : Status}
      {text : String} (hentered : (enter directory).on machine host = (.ok work, start))
      (a : Assembled options tools .none work machine start)
      (hrun : (runCaptured a.command).on machine a.assembled = (.ok captured, ended))
      (hreported : Reported a.staged options tools work machine captured ended status text) :
      Finished directory options tools machine host (.ok status) text

/-- Where there is no consumer of keep rules, none is called. -/
theorem Hooks.took_none {before : Host} (h : Hooks.none.Took machine before after) :
    after = before := by
  rcases h with hsame | ⟨consume, file, hconsumer, _⟩
  · exact hsame
  · exact absurd hconsumer (by simp [Hooks.none])

/-- A replay without hooks ends in one of the two ways. -/
theorem run_finished {outcome : Except Failure Status}
    (h : (run directory options tools .none).on machine host = (outcome, after)) :
    ∃ text, after.printed = host.printed ++ text ∧
      Finished directory options tools machine host outcome text := by
  rcases hentered : (enter directory).on machine host with ⟨entered, start⟩
  have hstart := (Prod.mk.inj ((quiet_enter directory).eq hentered)).2
  cases entered with
  | error failure =>
    rw [run_of_not_entered hentered] at h
    obtain ⟨rfl, rfl⟩ := Prod.mk.inj h
    exact ⟨"", hstart.trans String.append_empty.symm, .failed failure⟩
  | ok work =>
    obtain ⟨houtcome, houtward⟩ := run_of_entered options tools .none hentered
    have hprinted := (Prod.mk.inj houtward).2
    rw [h] at houtcome hprinted
    dsimp only at houtcome hprinted
    obtain ⟨hfails, hends⟩ := runIn_printed options tools .none work machine start
    cases outcome with
    | error failure =>
      obtain ⟨before, behind, htook, hbefore, hbehind⟩ := hfails failure houtcome.symm
      refine ⟨"", ?_, .failed failure⟩
      rw [hprinted, hbehind, Hooks.took_none htook, hbefore, hstart, String.append_empty]
    | ok status =>
      obtain ⟨a, captured, ended, hrun⟩ := hends status houtcome.symm
      obtain ⟨before, behind, found, text, htook, hbefore, hstatus, htext, hreported⟩ :=
        a.reported hrun
      rw [← houtcome] at hstatus
      obtain rfl := Except.ok.inj hstatus
      refine ⟨text, ?_, .reported hentered a hrun hreported⟩
      rw [hprinted, htext, Hooks.took_none htook, hbefore, hstart]

/-! ## All replays -/

/-- What a replay prints and how it ends, however its processes behave.  A replay that fails prints
nothing itself.  When the compiler was run to its end, the replay does not fail, and it prints the
one report that goes with its status, whichever step of retracing fails.  A replay ends well only
then. -/
theorem run_output (directory : Option Path) (options : Options) (tools : Toolchain)
    (hooks : Hooks) (machine : Machine) (host : Host) :
    (∀ failure, ((run directory options tools hooks).on machine host).1 = .error failure →
      ∃ before behind, hooks.Took machine before behind ∧ before.printed = host.printed ∧
        ((run directory options tools hooks).on machine host).2.printed = behind.printed) ∧
    (∀ work start, (enter directory).on machine host = (.ok work, start) →
      ∀ (a : Assembled options tools hooks work machine start) (captured : CapturedRun)
        (ended : Host), (runCaptured a.command).on machine a.assembled = (.ok captured, ended) →
        ∃ before behind status text, hooks.Took machine before behind ∧
          before.printed = host.printed ∧
          ((run directory options tools hooks).on machine host).1 = .ok status ∧
          ((run directory options tools hooks).on machine host).2.printed =
            behind.printed ++ text ∧
          Reported a.staged options tools work machine captured ended status text) ∧
    ∀ status, ((run directory options tools hooks).on machine host).1 = .ok status →
      ∃ work start, (enter directory).on machine host = (.ok work, start) ∧
        ∃ (a : Assembled options tools hooks work machine start) (captured : CapturedRun)
          (ended : Host),
          (runCaptured a.command).on machine a.assembled = (.ok captured, ended) := by
  rcases hentered : (enter directory).on machine host with ⟨entered, start⟩
  have hstart := (Prod.mk.inj ((quiet_enter directory).eq hentered)).2
  cases entered with
  | error failure =>
    rw [run_of_not_entered hentered]
    refine ⟨?_, ?_, ?_⟩
    · intro _ _
      exact ⟨start, start, .inl rfl, hstart, rfl⟩
    · intro work other hother
      simp at hother
    · intro status hstatus
      simp at hstatus
  | ok work =>
    obtain ⟨houtcome, houtward⟩ := run_of_entered options tools hooks hentered
    have hprinted := (Prod.mk.inj houtward).2
    obtain ⟨hfails, hends⟩ := runIn_printed options tools hooks work machine start
    rw [houtcome, hprinted, ← hstart]
    refine ⟨hfails, ?_, ?_⟩
    · intro other begun hother a captured ended hrun
      rw [Prod.mk.injEq, Except.ok.injEq] at hother
      obtain ⟨rfl, rfl⟩ := hother
      exact a.reported hrun
    · intro status hstatus
      exact ⟨work, start, rfl, hends status hstatus⟩

/-- A replay whose compiler fails can end with a retraced report. -/
theorem run_output_retraced :
    ((run (some ⟨"/w"⟩) (sampleOptions ⟨"/d"⟩) sampleTools .none).on sampleMachine
        sampleHost).1 = .ok .compilerFailed ∧
      ((run (some ⟨"/w"⟩) (sampleOptions ⟨"/d"⟩) sampleTools .none).on sampleMachine
        sampleHost).2.printed = retracedReport "" ∧
      ∃ work start, (enter (some ⟨"/w"⟩)).on sampleMachine sampleHost = (.ok work, start) ∧
        Nonempty (Assembled (sampleOptions ⟨"/d"⟩) sampleTools .none work sampleMachine start) := by
  refine ⟨rfl, rfl, ?_⟩
  obtain ⟨work, start, hentered, a, _, _, _⟩ :=
    (run_output (some ⟨"/w"⟩) (sampleOptions ⟨"/d"⟩) sampleTools .none sampleMachine
      sampleHost).2.2 .compilerFailed rfl
  exact ⟨work, start, hentered, ⟨a⟩⟩

end DumpReplay.Replay
