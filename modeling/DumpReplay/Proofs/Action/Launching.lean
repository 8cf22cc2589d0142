import DumpReplay.Proofs.Action.Quiet

/-!
# Launching

Running a process notes exactly one process, whether or not it could be started, and prints nothing.
The note tells how the run came out.

Main results:

- `runCaptured_spec` : a run is captured exactly when the process could be started.
- `runChecked_spec` : a checked run has an output exactly when the process succeeded.
- `runChecked_each` : processes that have to succeed are run in turn, up to the first one that does
  not.
-/

namespace DumpReplay

/-- Whether a process was started, and ended with the exit code 0. -/
def Launch.Succeeded (launch : Launch) : Prop :=
  ∃ ending, launch.outcome = .ok ending ∧ ending.succeeded = true

/-- Whether a process was started and ended, but not with the exit code 0. -/
def Launch.Failed (launch : Launch) : Prop :=
  ∃ ending, launch.outcome = .ok ending ∧ ending.succeeded = false

/-- A process that failed did not succeed. -/
theorem Launch.Failed.not_succeeded {launch : Launch} (h : launch.Failed) :
    ¬launch.Succeeded := by
  obtain ⟨ending, hending, hfailed⟩ := h
  rintro ⟨other, hother, hsucceeded⟩
  rw [hending, Except.ok.injEq] at hother
  rw [← hother, hfailed] at hsucceeded
  exact absurd hsucceeded (by simp)

/-- Processes are run in turn for some commands if they are for the first ones of the commands, and
none is started before the ones in front of it have succeeded. -/
structure InTurn (commands : List Command) (launches : List Launch) : Prop where
  /-- The processes are for the first ones of the commands. -/
  order : launches.map Launch.command <+: commands
  /-- Every process that another one follows succeeded. -/
  succeeded : ∀ launch ∈ launches.dropLast, launch.Succeeded

namespace InTurn

theorem nil (commands : List Command) : InTurn commands [] :=
  ⟨List.nil_prefix, by simp⟩

theorem single (launch : Launch) (commands : List Command) :
    InTurn (launch.command :: commands) [launch] :=
  ⟨by simp, by simp⟩

/-- A process that succeeded can be put in front of processes that are run in turn. -/
theorem cons {launch : Launch} {commands : List Command} {launches : List Launch}
    (hlaunch : launch.Succeeded) (h : InTurn commands launches) :
    InTurn (launch.command :: commands) (launch :: launches) := by
  refine ⟨?_, ?_⟩
  · rw [List.map_cons]
    exact List.cons_prefix_cons.mpr ⟨rfl, h.order⟩
  · cases launches with
    | nil => simp
    | cons next rest =>
      intro other hother
      rw [List.dropLast_cons_of_ne_nil (List.cons_ne_nil next rest)] at hother
      rcases List.mem_cons.mp hother with rfl | hrest
      · exact hlaunch
      · exact h.succeeded other hrest

end InTurn

namespace Action

variable {machine : Machine} {host after : Host}

/-- Running a process notes it, with how it came out.  The run is captured exactly when the process
could be started. -/
theorem runCaptured_spec {command : Command} {outcome : Except Failure CapturedRun}
    (h : (runCaptured command).on machine host = (outcome, after)) :
    ∃ launch : Launch, launch.command = command ∧
      after.outward = (host.launched ++ [launch], host.printed) ∧
      ((∃ ending, launch.outcome = .ok ending ∧ outcome = .ok (.ofEnding ending)) ∨
        ∃ cause failure, launch.outcome = .error cause ∧ outcome = .error failure) := by
  unfold runCaptured at h
  rw [on_bind_of_ok _ (on_inform _), on_bind_of_ok _ (run_launch command machine _)] at h
  refine ⟨⟨command, (machine.launch host.launched.length command host.files).1⟩, rfl, ?_⟩
  cases hlaunch : (machine.launch host.launched.length command host.files).1 with
  | ok ending =>
    simp only [hlaunch, on_pure, Prod.mk.injEq] at h
    obtain ⟨rfl, rfl⟩ := h
    exact ⟨rfl, .inl ⟨ending, rfl, rfl⟩⟩
  | error cause =>
    simp only [hlaunch, on_fail, Prod.mk.injEq] at h
    obtain ⟨rfl, rfl⟩ := h
    exact ⟨rfl, .inr ⟨cause, _, rfl, rfl⟩⟩

/-- A checked run of a process notes it.  The run has an output, what the process wrote, exactly
when the process succeeded. -/
theorem runChecked_spec {command : Command} {outcome : Except Failure String}
    (h : (runChecked command).on machine host = (outcome, after)) :
    ∃ launch : Launch, launch.command = command ∧
      after.outward = (host.launched ++ [launch], host.printed) ∧
      ((∃ ending, launch.outcome = .ok ending ∧ ending.succeeded = true ∧
          outcome = .ok (Text.ofBytesLenient ending.output)) ∨
        ¬launch.Succeeded ∧ ∃ failure, outcome = .error failure) := by
  unfold runChecked at h
  rcases hrun : (runCaptured command).on machine host with ⟨captured, middle⟩
  obtain ⟨launch, hcommand, houtward, ⟨ending, hending, rfl⟩ | ⟨cause, failure, hcause, rfl⟩⟩ :=
    runCaptured_spec hrun
  · rw [on_bind_of_ok _ hrun] at h
    cases hsucceeded : ending.succeeded with
    | true =>
      simp only [CapturedRun.ofEnding, hsucceeded, if_true, on_pure, Prod.mk.injEq] at h
      obtain ⟨rfl, rfl⟩ := h
      exact ⟨launch, hcommand, houtward, .inl ⟨ending, hending, hsucceeded, rfl⟩⟩
    | false =>
      simp only [CapturedRun.ofEnding, hsucceeded, Bool.false_eq_true, if_false, on_fail,
        Prod.mk.injEq] at h
      obtain ⟨rfl, rfl⟩ := h
      have hfailed : launch.Failed := ⟨ending, hending, hsucceeded⟩
      exact ⟨launch, hcommand, houtward, .inr ⟨hfailed.not_succeeded, _, rfl⟩⟩
  · rw [on_bind_of_error _ hrun, Prod.mk.injEq] at h
    obtain ⟨rfl, rfl⟩ := h
    refine ⟨launch, hcommand, houtward, .inr ⟨?_, failure, rfl⟩⟩
    rintro ⟨ending, hending, _⟩
    rw [hcause] at hending
    exact absurd hending (by simp)

/-- What comes of a checked run is told by how the process ended: it has an output if the process
succeeded, and fails if the process could not be started or ended in another way. -/
theorem outcome_runChecked (command : Command) (machine : Machine) (host : Host) :
    ((runChecked command).on machine host).1 =
      match (machine.launch host.launched.length command host.files).1 with
      | .ok ending =>
        if ending.succeeded then .ok (Text.ofBytesLenient ending.output)
        else .error (.process (.unsuccessful command.program ending.code
          (Text.ofBytesLenient ending.output)))
      | .error cause => .error (.process (.cannotStart command.program cause)) := by
  unfold runChecked runCaptured
  rw [bind_assoc, on_bind_of_ok _ (on_inform _), bind_assoc,
    on_bind_of_ok _ (run_launch command machine _)]
  cases (machine.launch host.launched.length command host.files).1 with
  | ok ending =>
    rw [pure_bind]
    cases hsucceeded : ending.succeeded with
    | true => simp [CapturedRun.ofEnding, hsucceeded]
    | false => simp [CapturedRun.ofEnding, hsucceeded]
  | error cause => rfl

/-- Processes that have to succeed are run in turn.  If all goes well, there is one for each of the
commands, and each succeeded. -/
theorem runChecked_each {β : Type} (command : β → Command) (items : List β)
    {outcome : Except Failure PUnit}
    (h : (ForIn.forIn items PUnit.unit fun item _ => do
        let _ ← runChecked (command item)
        pure (ForInStep.yield PUnit.unit)).on machine host = (outcome, after)) :
    ∃ launches, after.outward = (host.launched ++ launches, host.printed) ∧
      InTurn (items.map command) launches ∧
      (outcome = .ok ⟨⟩ → launches.map Launch.command = items.map command ∧
        ∀ launch ∈ launches, launch.Succeeded) := by
  -- By induction on the items: what the first process leaves is what the others start from.
  induction items generalizing host with
  | nil =>
    rw [List.forIn_nil, on_pure, Prod.mk.injEq] at h
    obtain ⟨rfl, rfl⟩ := h
    exact ⟨[], by simp [Host.outward], .nil _, by simp⟩
  | cons item rest ih =>
    rw [List.forIn_cons, bind_assoc] at h
    rcases hrun : (runChecked (command item)).on machine host with ⟨checked, middle⟩
    obtain ⟨launch, hcommand, houtward, ⟨ending, hending, hsucceeded, rfl⟩ | ⟨_, failure, rfl⟩⟩ :=
      runChecked_spec hrun
    · rw [on_bind_of_ok _ hrun, pure_bind] at h
      obtain ⟨launches, hrest, hturn, hall⟩ := ih h
      obtain ⟨hlaunched, hprinted⟩ := Prod.mk.inj houtward
      have hlaunch : launch.Succeeded := ⟨ending, hending, hsucceeded⟩
      refine ⟨launch :: launches, ?_, ?_, ?_⟩
      · rw [hrest, hlaunched, hprinted, List.append_assoc, List.singleton_append]
      · rw [List.map_cons, ← hcommand]
        exact hturn.cons hlaunch
      · intro hok
        obtain ⟨hcommands, hsucceed⟩ := hall hok
        rw [List.map_cons, List.map_cons, hcommand, hcommands]
        exact ⟨rfl, List.forall_mem_cons.mpr ⟨hlaunch, hsucceed⟩⟩
    · rw [on_bind_of_error _ hrun, Prod.mk.injEq] at h
      obtain ⟨rfl, rfl⟩ := h
      refine ⟨[launch], houtward, ?_, by simp⟩
      rw [List.map_cons, ← hcommand]
      exact .single launch _

end Action

end DumpReplay
