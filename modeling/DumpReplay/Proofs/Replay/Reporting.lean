import DumpReplay.Proofs.Action.Launching
import DumpReplay.Proofs.Replay.Quiet

/-!
# Reporting

When the compiler has ended, a replay prints what it wrote, or what that is when it is retraced.
Retracing may fail in many ways, and none of them makes the replay fail.

Main results:

- `retrace_ok_iff`, `retrace_fails_iff` : retracing goes well if all of its steps do, and fails at the
  first one that does not.
- `retrace_cases` : retracing runs a process only when there is a symbol map.
- `conclude_of_success`, `conclude_of_failure`, `conclude_of_retracing` : what a replay prints, and
  how it ends.
-/

namespace DumpReplay.Replay

open DumpReplay.Action

variable {run : CapturedRun} {staged : Staged} {options : Options} {work : Path}
variable {tools : Toolchain} {jdk : Jdk} {version : Version} {output : String}
variable {machine : Machine} {host ended after : Host}

/-! ## Retracing -/

/-- Output that can be retraced: it is written to a file, and the symbol map and the program that
runs classes are found. -/
structure Retraceable (output : String) (version : Version) (work : Path) (tools : Toolchain)
    (jdk : Jdk) (machine : Machine) (ended : Host) where
  written : Host
  write_eq :
    (writeText (work.child "stacktrace") output).on machine ended = (.ok (), written)
  map : Path
  mapped : Host
  map_eq : (fetchMap version work tools).on machine written = (.ok map, mapped)
  java : Path
  equipped : Host
  java_eq : jdk.java.on machine mapped = (.ok java, equipped)

namespace Retraceable

/-- The command that retraces. -/
def command (r : Retraceable output version work tools jdk machine ended) : Command :=
  ⟨r.java, retraceArguments tools r.map (work.child "stacktrace")⟩

/-- How the process that retraces ends, or why it cannot be started. -/
def ending? (r : Retraceable output version work tools jdk machine ended) : Except IoError Ending :=
  (machine.launch r.equipped.launched.length r.command r.equipped.files).1

theorem outward_eq (r : Retraceable output version work tools jdk machine ended) :
    r.equipped.outward = ended.outward := by
  have hwritten := (quiet_writeText _ output).eq r.write_eq
  have hmapped := (quiet_fetchMap version work tools).eq r.map_eq
  have hequipped := (Jdk.looks_executable jdk _).quiet.eq r.java_eq
  rw [hequipped, hmapped, hwritten]

theorem retrace_eq (r : Retraceable output version work tools jdk machine ended) :
    (retrace output version work tools jdk).on machine ended =
      (runChecked r.command).on machine r.equipped := by
  unfold retrace
  dsimp only
  rw [on_bind_of_ok _ r.write_eq, on_bind_of_ok _ r.map_eq, on_bind_of_ok _ r.java_eq]
  rfl

theorem outcome_retrace (r : Retraceable output version work tools jdk machine ended) :
    ((retrace output version work tools jdk).on machine ended).1 =
      match r.ending? with
      | .ok ending =>
        if ending.succeeded then .ok (Text.ofBytesLenient ending.output)
        else .error (.process (.unsuccessful r.command.program ending.code
          (Text.ofBytesLenient ending.output)))
      | .error cause => .error (.process (.cannotStart r.command.program cause)) := by
  rw [r.retrace_eq]
  exact outcome_runChecked r.command machine r.equipped

end Retraceable

/-! ## Where retracing fails -/

/-- The ways for a version to have no symbol map, or none that can be used. -/
inductive Unmapped (version : Version) (work : Path) (tools : Toolchain) (machine : Machine)
    (host : Host) : Prop where
  /-- Nothing says where the symbol map would come from. -/
  | sourceless (hsource : mapSource? version tools = none)
  /-- The file of the checkout is missing. -/
  | missing {file : Path} (hsource : mapSource? version tools = some (.local file))
      (hmissing : host.files.has machine.workingDirectory file = false)
  /-- The store says that it has no symbol map, or does not answer. -/
  | unavailable {url : String} {probed : Host}
      (hsource : mapSource? version tools = some (.remote url))
      (hprobe : (isAvailable url).on machine host = (.ok false, probed))
  /-- The store says that it has the symbol map, which cannot be fetched all the same. -/
  | notFetched {url : String} {failure : Failure} {probed after : Host}
      (hsource : mapSource? version tools = some (.remote url))
      (hprobe : (isAvailable url).on machine host = (.ok true, probed))
      (hfetch : (download url (work.child "mapping.map")).on machine probed = (.error failure, after))

/-- A probe always has an answer. -/
theorem isAvailable_ok (url : String) (machine : Machine) (host : Host) :
    ∃ found probed, (isAvailable url).on machine host = (.ok found, probed) := by
  unfold isAvailable request
  split
  · exact ⟨false, host, rfl⟩
  · rename_i address _
    rw [bind_assoc, on_bind_of_ok _ on_get, bind_assoc, on_bind_of_ok _ on_set, bind_assoc,
      on_bind_of_ok _ on_read, pure_bind]
    cases machine.reply host.requests .head address with
    | refused cause => exact ⟨_, _, rfl⟩
    | answered status success body => exact ⟨_, _, rfl⟩
    | brokenOff status success cause => exact ⟨_, _, rfl⟩

/-- Finding a symbol map fails in these ways and in no other one. -/
theorem fetchMap_fails_iff :
    (∃ failure after, (fetchMap version work tools).on machine host = (.error failure, after)) ↔
      Unmapped version work tools machine host := by
  unfold fetchMap
  constructor
  · rintro ⟨failure, after, h⟩
    split at h
    · rename_i file hsource
      rw [on_bind_of_ok _ (on_pathExists file)] at h
      cases hfound : host.files.has machine.workingDirectory file with
      | true => simp [hfound] at h
      | false => exact .missing hsource hfound
    · rename_i url hsource
      obtain ⟨found, probed, hprobe⟩ := isAvailable_ok url machine host
      rw [on_bind_of_ok _ hprobe] at h
      cases found with
      | true =>
        rw [if_pos rfl] at h
        rcases on_bind_eq_error.mp h with hfetch | ⟨_, _, _, hpure⟩
        · exact .notFetched hsource hprobe hfetch
        · simp at hpure
      | false => exact .unavailable hsource hprobe
    · exact .sourceless ‹_›
  · intro h
    cases h with
    | sourceless hsource =>
      rw [hsource]
      exact ⟨_, _, rfl⟩
    | missing hsource hmissing =>
      rw [hsource]
      dsimp only
      rw [on_bind_of_ok _ (on_pathExists _), hmissing]
      exact ⟨_, _, rfl⟩
    | unavailable hsource hprobe =>
      rw [hsource]
      dsimp only
      rw [on_bind_of_ok _ hprobe]
      exact ⟨_, _, rfl⟩
    | notFetched hsource hprobe hfetch =>
      rw [hsource]
      dsimp only
      rw [on_bind_of_ok _ hprobe, if_pos rfl]
      exact ⟨_, _, on_bind_of_error _ hfetch⟩

/-- The steps of retracing at which it can fail. -/
inductive Unretraced (output : String) (version : Version) (work : Path) (tools : Toolchain)
    (jdk : Jdk) (machine : Machine) (ended : Host) : Prop where
  /-- The output cannot be written to a file. -/
  | unwritten {failure : Failure} {after : Host}
      (hwrite : (writeText (work.child "stacktrace") output).on machine ended =
        (.error failure, after))
  /-- There is no symbol map. -/
  | unmapped {written : Host}
      (hwrite : (writeText (work.child "stacktrace") output).on machine ended = (.ok (), written))
      (hmap : Unmapped version work tools machine written)
  /-- There is no program that runs classes. -/
  | unequipped {map : Path} {failure : Failure} {written mapped after : Host}
      (hwrite : (writeText (work.child "stacktrace") output).on machine ended = (.ok (), written))
      (hmap : (fetchMap version work tools).on machine written = (.ok map, mapped))
      (hjava : jdk.java.on machine mapped = (.error failure, after))
  /-- The class that retraces cannot be run, or does not succeed. -/
  | refused (r : Retraceable output version work tools jdk machine ended)
      (hrun : ∀ ending, r.ending? = .ok ending → ending.succeeded = false)

/-- Output that cannot be retraced makes retracing fail, and nothing can be noticed of that. -/
theorem retraceable_or_fails (output : String) (version : Version) (work : Path)
    (tools : Toolchain) (jdk : Jdk) (machine : Machine) (ended : Host) :
    Nonempty (Retraceable output version work tools jdk machine ended) ∨
      ∃ failure after,
        (retrace output version work tools jdk).on machine ended = (.error failure, after) ∧
        after.outward = ended.outward ∧
        Unretraced output version work tools jdk machine ended := by
  unfold retrace
  dsimp only
  rcases (quiet_writeText (work.child "stacktrace") output).ok_or_error machine ended with
    ⟨_, written, hwrite, hwritten⟩ | ⟨failure, written, hwrite, hwritten⟩
  · rw [on_bind_of_ok _ hwrite]
    rcases (quiet_fetchMap version work tools).ok_or_error machine written with
      ⟨map, mapped, hmap, hmapped⟩ | ⟨failure, mapped, hmap, hmapped⟩
    · rw [on_bind_of_ok _ hmap]
      rcases (jdk.looks_executable "java").quiet.ok_or_error machine mapped with
        ⟨java, equipped, hjava, hequipped⟩ | ⟨failure, equipped, hjava, hequipped⟩
      · exact .inl ⟨⟨written, hwrite, map, mapped, hmap, java, equipped, hjava⟩⟩
      · refine .inr ⟨failure, equipped, on_bind_of_error _ hjava, ?_, .unequipped hwrite hmap hjava⟩
        rw [hequipped, hmapped, hwritten]
    · exact .inr ⟨failure, mapped, on_bind_of_error _ hmap, hmapped.trans hwritten,
        .unmapped hwrite (fetchMap_fails_iff.mp ⟨failure, mapped, hmap⟩)⟩
  · exact .inr ⟨failure, written, on_bind_of_error _ hwrite, hwritten, .unwritten hwrite⟩

/-- Retracing goes well exactly if all of its steps do, and then gives what the class wrote that
retraces. -/
theorem retrace_ok_iff {text : String} :
    ((retrace output version work tools jdk).on machine ended).1 = .ok text ↔
      ∃ (r : Retraceable output version work tools jdk machine ended) (ending : Ending),
        r.ending? = .ok ending ∧ ending.succeeded = true ∧
          text = Text.ofBytesLenient ending.output := by
  constructor
  · intro h
    rcases retraceable_or_fails output version work tools jdk machine ended with
      ⟨⟨r⟩⟩ | ⟨failure, after, hfails, _⟩
    · rw [r.outcome_retrace] at h
      split at h
      · rename_i ending hending
        split at h
        · rename_i hsucceeded
          exact ⟨r, ending, hending, hsucceeded, (Except.ok.inj h).symm⟩
        · simp at h
      · simp at h
    · rw [hfails] at h
      simp at h
  · rintro ⟨r, ending, hending, hsucceeded, rfl⟩
    rw [r.outcome_retrace, hending]
    exact if_pos hsucceeded

/-- Retracing fails exactly if one of its steps does. -/
theorem retrace_fails_iff :
    (∃ failure, ((retrace output version work tools jdk).on machine ended).1 = .error failure) ↔
      Unretraced output version work tools jdk machine ended := by
  constructor
  · rintro ⟨failure, h⟩
    rcases retraceable_or_fails output version work tools jdk machine ended with
      ⟨⟨r⟩⟩ | ⟨_, _, _, _, hunretraced⟩
    · refine .refused r fun ending hending => ?_
      rw [r.outcome_retrace, hending] at h
      dsimp only at h
      cases hsucceeded : ending.succeeded with
      | true => simp [hsucceeded] at h
      | false => rfl
    · exact hunretraced
  · intro h
    cases h with
    | unwritten hwrite => exact ⟨_, congrArg Prod.fst (on_bind_of_error _ hwrite)⟩
    | unmapped hwrite hmap =>
      obtain ⟨failure, after, hmap⟩ := fetchMap_fails_iff.mpr hmap
      refine ⟨failure, ?_⟩
      unfold retrace
      rw [on_bind_of_ok _ hwrite, on_bind_of_error _ hmap]
    | @unequipped _ failure _ _ _ hwrite hmap hjava =>
      refine ⟨failure, ?_⟩
      unfold retrace
      rw [on_bind_of_ok _ hwrite, on_bind_of_ok _ hmap, on_bind_of_error _ hjava]
    | refused r hrun =>
      rw [r.outcome_retrace]
      cases hending : r.ending? with
      | ok ending =>
        dsimp only
        rw [hrun ending hending]
        exact ⟨_, rfl⟩
      | error cause => exact ⟨_, rfl⟩

/-! ## The process that retraces -/

/-- Retracing prints nothing, and it runs a process only for output that can be retraced. -/
theorem retrace_cases {outcome : Except Failure String}
    (h : (retrace output version work tools jdk).on machine ended = (outcome, after)) :
    ((∃ failure, outcome = .error failure) ∧ after.outward = ended.outward) ∨
      ∃ (r : Retraceable output version work tools jdk machine ended) (launch : Launch),
        launch.command = r.command ∧
        after.outward = (ended.launched ++ [launch], ended.printed) ∧
        ((∃ text, outcome = .ok text) ↔ launch.Succeeded) := by
  rcases retraceable_or_fails output version work tools jdk machine ended with
    ⟨⟨r⟩⟩ | ⟨failure, behind, hfails, hbehind, _⟩
  · rw [r.retrace_eq] at h
    obtain ⟨hlaunched, hprinted⟩ := Prod.mk.inj r.outward_eq
    obtain ⟨launch, hcommand, houtward, houtcome⟩ := runChecked_spec h
    rw [hlaunched, hprinted] at houtward
    refine .inr ⟨r, launch, hcommand, houtward, ?_⟩
    rcases houtcome with ⟨ending, hending, hsucceeded, rfl⟩ | ⟨hnot, failure, rfl⟩
    · exact ⟨fun _ => ⟨ending, hending, hsucceeded⟩, fun _ => ⟨_, rfl⟩⟩
    · exact ⟨fun ⟨_, htext⟩ => by simp at htext, fun hsucceeded => absurd hsucceeded hnot⟩
  · rw [hfails, Prod.mk.injEq] at h
    obtain ⟨rfl, rfl⟩ := h
    exact .inl ⟨⟨failure, rfl⟩, hbehind⟩

/-! ## Printing -/

/-- What is printed for output as the compiler wrote it. -/
def rawReport (output : String) : String :=
  output ++ "\n"

/-- What is printed for output that was retraced. -/
def retracedReport (retraced : String) : String :=
  banner ++ "\n" ++ (retraced ++ "\n")

/-- An attempt at retracing that goes well prints what is retraced. -/
theorem tryRetrace_of_ok {retraced : String}
    (h : (retrace output version work tools jdk).on machine ended = (.ok retraced, after)) :
    (tryRetrace output version work tools jdk).on machine ended =
      (.ok true, { after with printed := after.printed ++ retracedReport retraced }) := by
  unfold tryRetrace
  rw [on_bind_of_ok _ (run_attempt ..), h]
  dsimp only
  rw [on_bind_of_ok _ (on_printLine banner), on_bind_of_ok _ (on_printLine retraced), on_pure,
    retracedReport, String.append_assoc]

/-- An attempt at retracing that fails prints nothing. -/
theorem tryRetrace_of_error {failure : Failure}
    (h : (retrace output version work tools jdk).on machine ended = (.error failure, after)) :
    ∃ behind, (tryRetrace output version work tools jdk).on machine ended = (.ok false, behind) ∧
      behind.outward = after.outward := by
  unfold tryRetrace
  rw [on_bind_of_ok _ (run_attempt ..), h]
  dsimp only
  rw [on_bind_of_ok _ (on_warn _), on_bind_of_ok _ (on_warn _), on_bind_of_ok _ (on_inform _),
    on_pure]
  exact ⟨_, rfl, rfl⟩

/-! ## The end of a replay -/

/-- The version that the output of a failed compiler is retraced for, if it is retraced at all. -/
def retracedVersion? (staged : Staged) (options : Options) : Option Version :=
  staged.version.filter fun version => shouldRetrace (some version) options.plainBuild

theorem retracedVersion?_eq_some_iff :
    retracedVersion? staged options = some version ↔
      staged.version = some version ∧ options.plainBuild = false ∧ version ≠ .source := by
  rw [retracedVersion?, Option.filter_eq_some_iff, shouldRetrace_iff]
  simp

/-- The output of a failed compiler is reported as it is, or retraced if that goes well. -/
theorem reportFailure_eq :
    reportFailure run staged options work tools jdk =
      match retracedVersion? staged options with
      | some version => do
        if !(← tryRetrace run.output version work tools jdk) then printLine run.output
      | none => printLine run.output := by
  unfold reportFailure retracedVersion?
  cases staged.version with
  | none => rfl
  | some version =>
    rw [Option.filter_some]
    dsimp only
    cases shouldRetrace (some version) options.plainBuild with
    | true => rfl
    | false => rfl

variable {outcome : Except Failure Status}

/-- A replay whose compiler succeeded prints what it wrote, and succeeds. -/
theorem conclude_of_success (hrun : run.success = true)
    (h : (conclude run staged options work tools jdk).on machine ended = (outcome, after)) :
    outcome = .ok .succeeded ∧
      after.outward = (ended.launched, ended.printed ++ rawReport run.output) := by
  unfold conclude at h
  rw [if_pos hrun, on_bind_of_ok _ (on_printLine _), on_bind_of_ok _ (on_inform _), on_pure,
    Prod.mk.injEq] at h
  obtain ⟨rfl, rfl⟩ := h
  exact ⟨rfl, rfl⟩

/-- A replay whose compiler failed, and that does not retrace, prints what the compiler wrote. -/
theorem conclude_of_failure (hrun : run.success = false)
    (hversion : retracedVersion? staged options = none)
    (h : (conclude run staged options work tools jdk).on machine ended = (outcome, after)) :
    outcome = .ok .compilerFailed ∧
      after.outward = (ended.launched, ended.printed ++ rawReport run.output) := by
  unfold conclude at h
  rw [if_neg (Bool.not_eq_true _ ▸ hrun), reportFailure_eq, hversion] at h
  dsimp only at h
  rw [on_bind_of_ok _ (on_printLine _), on_pure, Prod.mk.injEq] at h
  obtain ⟨rfl, rfl⟩ := h
  exact ⟨rfl, rfl⟩

/-- A replay whose compiler failed prints what the compiler wrote in its retraced form, and as it is
if retracing fails.  However that goes, the replay does not fail. -/
theorem conclude_of_retracing (hrun : run.success = false)
    (hversion : retracedVersion? staged options = some version)
    (h : (conclude run staged options work tools jdk).on machine ended = (outcome, after)) :
    outcome = .ok .compilerFailed ∧
      ∃ result behind,
        (retrace run.output version work tools jdk).on machine ended = (result, behind) ∧
        after.launched = behind.launched ∧
        ((∃ retraced, result = .ok retraced ∧
            after.printed = ended.printed ++ retracedReport retraced) ∨
          (∃ failure, result = .error failure) ∧
            after.printed = ended.printed ++ rawReport run.output) := by
  unfold conclude at h
  rw [if_neg (Bool.not_eq_true _ ▸ hrun), reportFailure_eq, hversion, bind_assoc] at h
  rcases hretrace : (retrace run.output version work tools jdk).on machine ended
    with ⟨result, behind⟩
  have hprinted : behind.printed = ended.printed := by
    rcases retrace_cases hretrace with ⟨_, houtward⟩ | ⟨_, _, _, houtward, _⟩
    · exact (Prod.mk.inj houtward).2
    · exact (Prod.mk.inj houtward).2
  cases result with
  | ok retraced =>
    rw [on_bind_of_ok _ (tryRetrace_of_ok hretrace)] at h
    obtain ⟨rfl, rfl⟩ := Prod.mk.inj h
    refine ⟨rfl, _, behind, rfl, rfl, .inl ⟨retraced, rfl, ?_⟩⟩
    rw [← hprinted]
  | error failure =>
    obtain ⟨told, htry, houtward⟩ := tryRetrace_of_error hretrace
    obtain ⟨htoldLaunched, htoldPrinted⟩ := Prod.mk.inj houtward
    rw [on_bind_of_ok _ htry] at h
    obtain ⟨rfl, rfl⟩ := Prod.mk.inj h
    refine ⟨rfl, _, behind, rfl, htoldLaunched, .inr ⟨⟨failure, rfl⟩, ?_⟩⟩
    rw [← hprinted, ← htoldPrinted]
    rfl

end DumpReplay.Replay
