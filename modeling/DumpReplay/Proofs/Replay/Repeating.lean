import DumpReplay.Proofs.Dump.Alike
import DumpReplay.Proofs.Replay.Acquiring
import DumpReplay.Proofs.Replay.Adjusting
import DumpReplay.Proofs.Shrinker.Readjusting

/-!
# Repeated replays

When a dump is kept from one replay to another, both decide the same and put the same command line
together, but for the work directory.  Only the keep rules are not the same: what was put in front of
them is put there again.

Main results:

- `Assembled.kept_end` : a replay keeps the dump, apart from adjusting its keep rules.
- `repeats_of_kept` : a replay of a dump that is kept behind another replay repeats that one.
- `Repeats.trans` : what repeats a replay that repeats another one, repeats that.
-/

namespace DumpReplay.Replay

open DumpReplay.Action

variable {work work' source : Path} {options : Options} {tools : Toolchain} {hooks : Hooks}
variable {machine : Machine} {start start' : Host}

/-! ## The course of one replay -/

/-- A command line for another work directory: the output is there, and the class path is another
one. -/
def movedPlan (plan : Plan) (work : Path) (classpath : String) : Plan :=
  { plan with
    workDirectory := work
    classpath := classpath
    invocation := { plan.invocation with output := Invocation.outputIn work } }

/-- The output that is decided is in the work directory. -/
theorem gives_output (options : Options) (work : Path) (dump : Dump) :
    Gives machine (fun staged => staged.invocation.output = Invocation.outputIn work)
      (decideFor options work dump) := by
  have hrest : ∀ (properties : Properties) (version : Option Version),
      Gives machine (fun staged => staged.invocation.output = Invocation.outputIn work) (do
        let invocation ← Action.ofExcept
          (Invocation.resolve options.invocationRequest properties work)
        return (⟨dump, properties, version, invocation⟩ : Staged)) := by
    intro properties version
    unfold Invocation.resolve
    cases Compiler.resolve options.invocationRequest.compiler properties with
    | error failure => exact .fail failure
    | ok compiler => exact .pure rfl
  refine .bind (.trivial _) fun _ _ => .ite (.bind (.trivial _) fun _ _ => ?_) ?_
  all_goals refine .bind (.trivial _) fun _ _ => .ite (.bind (.trivial _) fun _ _ => ?_) ?_
  all_goals
    refine .bind (.trivial _) fun _ _ => .bind (.trivial _) fun properties _ => ?_
    exact .bind (.trivial _) fun version _ => hrest properties version

namespace Assembled

variable (a : Assembled options tools hooks work machine start)

/-- A replay that runs the compiler has opened the dump and decided what to run. -/
theorem opens (hdump : options.dump = some source) :
    ∃ opening, (Dump.openIn source work options.overrideExtraction).on machine start =
        (.ok a.staged.dump, opening) ∧
      (decideFor options work a.staged.dump).on machine opening = (.ok a.staged, a.opened) ∧
      opening.files = a.opened.files := by
  have hstage := a.stage_eq
  rw [stage_eq, hdump] at hstage
  obtain ⟨dump, opening, hopen, hdecide⟩ := on_bind_eq_ok.mp hstage
  obtain rfl : a.staged.dump = dump := gives_decideFor options work dump _ _ _ hdecide
  exact ⟨opening, hopen, hdecide, ((looks_decideFor options work _).keepsFiles.eq hdecide).symm⟩

theorem equip_eq :
    (equip a.staged options tools work).on machine a.opened = (.ok a.distribution, a.warned) := by
  unfold equip
  dsimp only
  rw [on_bind_of_ok _ a.distribution_eq, on_bind_of_ok _ a.javac_eq, on_bind_of_ok _ a.prepare_eq,
    on_bind_of_ok _ a.warn_eq]
  rfl

/-- Behind the keep rules, a replay runs the compiler and reports. -/
theorem compile_eq :
    (runIn work options tools hooks).on machine start =
      (compile a.staged options tools hooks a.distribution a.rules work).on machine a.ruled := by
  rw [runIn_eq_stretches, on_bind_of_ok _ a.stage_eq, on_bind_of_ok _ a.equip_eq,
    on_bind_of_ok _ a.rules_eq]

/-- Putting the command line together leaves the files as they are. -/
theorem files_assembled : a.assembled.files = a.ruled.files := by
  have hplan := (looks_planFor a.staged options hooks a.distribution a.rules work).keepsFiles.eq
    a.plan_eq
  have hjava := (Jdk.looks_executable _ _).keepsFiles.eq a.java_eq
  rw [hjava, hplan]

/-- The compiler takes the keep rules of the dump, if there are any and it takes rules. -/
theorem rules_eq_filter :
    a.rules = (a.staged.dump.found a.warned.files machine.workingDirectory .rules).filter
      fun _ => a.staged.invocation.compiler.takesRules := by
  have hrules := a.rules_eq
  unfold prepareRules at hrules
  rw [on_bind_of_ok _ (Dump.on_find _ _)] at hrules
  cases hfound : (a.staged.dump.found a.warned.files machine.workingDirectory .rules).filter
      fun _ => a.staged.invocation.compiler.takesRules with
  | none =>
    rw [hfound] at hrules
    exact (Except.ok.inj (Prod.mk.inj hrules).1).symm
  | some file =>
    rw [hfound] at hrules
    dsimp only at hrules
    cases hconsumer : hooks.rulesConsumer with
    | none =>
      rw [hconsumer] at hrules
      obtain ⟨_, _, _, hrules⟩ := on_bind_eq_ok.mp hrules
      exact (Except.ok.inj (Prod.mk.inj hrules).1).symm
    | some consume =>
      rw [hconsumer] at hrules
      obtain ⟨_, _, _, hrules⟩ := on_bind_eq_ok.mp hrules
      exact (Except.ok.inj (Prod.mk.inj hrules).1).symm

/-- The compiler takes no keep rules, or they are adjusted. -/
theorem rules_cases (hconsumer : hooks.rulesConsumer = none) :
    (a.rules = none ∧ a.ruled.files = a.warned.files) ∨
      ∃ r : Ruled options tools hooks work machine start, a.rules = some (r.staged.dump.path .rules) ∧
        r.staged = a.staged ∧ r.warned = a.warned ∧ r.ruled = a.ruled := by
  have hrules := a.rules_eq
  rw [prepareRules_eq] at hrules
  split at hrules
  · rename_i hcondition
    rw [hconsumer] at hrules
    obtain ⟨adjusted, behind, hadjust, hpure⟩ := on_bind_eq_ok.mp hrules
    obtain ⟨hfile, hbehind⟩ := Prod.mk.inj hpure
    rcases adjustRules_spec hadjust with ⟨⟨failure, hfailed⟩, _⟩ | ⟨content, _, hread, hwrite⟩
    · exact absurd hfailed (by simp)
    · have hsome := (Except.ok.inj hfile).symm
      rw [hbehind] at hwrite
      exact .inr ⟨⟨⟨a.toReady, a.adapted, a.prepare_eq, a.warned, a.warn_eq⟩,
        (Bool.and_eq_true _ _ ▸ hcondition).2, hconsumer, content, a.ruled, hsome ▸ a.rules_eq, hread,
        hwrite⟩, hsome, rfl, rfl, rfl⟩
  · obtain ⟨hnone, hsame⟩ := Prod.mk.inj hrules
    exact .inl ⟨(Except.ok.inj hnone).symm, by rw [hsame]⟩

theorem plan_rules : a.plan.rules = a.rules := by
  obtain ⟨_, _, _, _, hplan⟩ := planIn_eq_ok a.planIn_eq
  rw [hplan]
  rfl

/-- The compiler is passed the keep rules of the dump, if there are any and it takes rules. -/
theorem passedRules_eq :
    a.plan.passedRules =
      (a.staged.dump.found a.warned.files machine.workingDirectory .rules).filter
        fun _ => a.staged.invocation.compiler.takesRules := by
  obtain ⟨_, _, _, _, hplan⟩ := planIn_eq_ok a.planIn_eq
  have hinvocation : a.plan.invocation = a.staged.invocation := by
    rw [hplan]
    rfl
  rw [Plan.passedRules, a.plan_rules, a.rules_eq_filter, hinvocation, Option.filter_filter]
  simp

/-- The compiler writes into the work directory. -/
theorem output_eq (hdump : options.dump = some source) :
    a.staged.invocation.output = Invocation.outputIn work := by
  obtain ⟨_, _, hdecide, _⟩ := a.opens hdump
  exact gives_output options work _ _ _ _ hdecide

/-- The compiler that was chosen stands behind the work directory on the class path. -/
theorem classpath_chosen :
    (chosenFor options tools a.staged.version work).classpathWith (some work) =
      .ok a.plan.classpath := by
  rw [← eq_chosenFor a.distribution_eq]
  exact a.classpath_eq

/-- A command line is moved nowhere by its own work directory. -/
theorem movedPlan_self (hdump : options.dump = some source) :
    movedPlan a.plan work a.plan.classpath = a.plan := by
  obtain ⟨_, _, _, _, hplan⟩ := planIn_eq_ok a.planIn_eq
  rw [hplan, movedPlan, planOf, ← a.output_eq hdump]

/-! ## The dump during a replay -/

variable (hspares : machine.Spares (a.staged.dump.Site machine.workingDirectory))
variable (hpaved : a.opened.files.Paved machine.workingDirectory a.staged.dump.directory)
include hspares hpaved

/-- The dump is kept until the keep rules are prepared. -/
theorem kept_warned : a.staged.dump.Kept machine.workingDirectory a.opened.files a.warned.files :=
  Dump.kept_of_changed ((changes_equip (fun _ => id) a.staged options tools).changed a.equip_eq)
    hspares hpaved

/-- It looks alike when they are. -/
theorem alike_ruled (hconsumer : hooks.rulesConsumer = none) :
    a.staged.dump.Alike machine.workingDirectory a.opened.files a.ruled.files := by
  have hwarned := a.kept_warned hspares hpaved
  rcases a.rules_cases hconsumer with ⟨_, hsame⟩ | ⟨r, _, hstaged, hwarn, hruled⟩
  · rw [hsame]
    exact hwarned.alike
  · rw [← hstaged, ← hwarn] at hwarned
    rw [← hstaged, ← hruled]
    exact hwarned.alike.trans (r.alike hwarned.still)

/-- From there on the dump is kept. -/
theorem kept_end (hconsumer : hooks.rulesConsumer = none) :
    a.staged.dump.Kept machine.workingDirectory a.ruled.files
      ((runIn work options tools hooks).on machine start).2.files := by
  have hruled := (a.alike_ruled hspares hpaved hconsumer).still
  exact Dump.kept_of_changed (changed_of_compile a.compile_eq.symm) hspares hruled

end Assembled

/-! ## Two replays -/

/-- For a dump that looks alike, command lines differ in the work directory only. -/
theorem planIn_eq_moved {before after : FileTree} {here : Location} {staged : Staged}
    {distribution distribution' : Distribution} {rules : Option Path} {plan plan' : Plan}
    (halike : staged.dump.Alike here before after)
    (h : planIn before here staged options hooks distribution rules work = .ok plan)
    (h' : planIn after here (staged.movedTo work') options hooks distribution' rules work' = .ok plan') :
    plan' = movedPlan plan work' plan'.classpath := by
  obtain ⟨program, classpath, hprogram, _, rfl⟩ := planIn_eq_ok h
  obtain ⟨program', classpath', hprogram', _, rfl⟩ := planIn_eq_ok h'
  have hsame : program' = program := by
    rw [show (staged.movedTo work').dump = staged.dump from rfl, halike.found_eq, hprogram] at hprogram'
    exact (Option.some.inj hprogram').symm
  simp only [planOf, movedPlan, Staged.movedTo, halike.found_eq, halike.featuresIn_eq, hsame]

/-- The text that stands in front of keep rules that were adjusted some times more. -/
def headers (toggles : Shrinker.Toggles) (times : Nat) : String :=
  String.ofList (List.replicate times (Shrinker.header toggles)).flatten

theorem headers_add (toggles : Shrinker.Toggles) (more times : Nat) :
    headers toggles (more + times) = headers toggles more ++ headers toggles times := by
  rw [headers, headers, headers, ← String.ofList_append, ← List.flatten_append,
    List.replicate_append_replicate]

/-- Nothing stands there exactly if no phase is forced off, or the rules were not adjusted any more. -/
theorem headers_eq_empty_iff {toggles : Shrinker.Toggles} {times : Nat} :
    headers toggles times = "" ↔ times = 0 ∨ toggles.directivesOf .forceDisable = [] := by
  rw [← Shrinker.header_eq_nil_iff, ← String.toList_eq_nil_iff, headers, String.toList_ofList,
    List.flatten_eq_nil_iff]
  constructor
  · intro h
    by_cases htimes : times = 0
    · exact .inl htimes
    · exact .inr (h _ (List.mem_replicate.mpr ⟨htimes, rfl⟩))
  · rintro (rfl | hnil) line hline
    · exact absurd hline (by simp)
    · rw [(List.mem_replicate.mp hline).2, hnil]

/-- A replay repeats another one if it decides the same and hands the compiler the same command line,
apart from the work directory, and the same keep rules, apart from what was put in front of them
since. -/
structure Repeats (times : Nat) (a : Assembled options tools hooks work machine start)
    (b : Assembled options tools hooks work' machine start') : Prop where
  staged : b.staged = a.staged.movedTo work'
  plan : b.plan = movedPlan a.plan work' b.plan.classpath
  classpath : (chosenFor options tools a.staged.version work').classpathWith (some work') =
    .ok b.plan.classpath
  rules : ∀ file, a.plan.passedRules = some file → ∃ content,
    a.assembled.files.read machine.workingDirectory file = .ok (Text.toBytes content) ∧
    b.assembled.files.read machine.workingDirectory file =
      .ok (Text.toBytes (headers options.toggles times ++ content))

section Kept

variable (a : Assembled options tools hooks work machine start)
variable (b : Assembled options tools hooks work' machine start')
variable (hspares : machine.Spares (a.staged.dump.Site machine.workingDirectory))
variable (hsame : b.staged.dump = a.staged.dump)
variable (hkept : a.staged.dump.Kept machine.workingDirectory a.ruled.files b.opened.files)
include hspares hsame hkept

/-- The dump is still kept when the second replay has compiled the adapters. -/
theorem kept_warned_of_kept :
    a.staged.dump.Kept machine.workingDirectory a.ruled.files b.warned.files := by
  have hwarned := b.kept_warned (by rwa [hsame]) (by rw [hsame]; exact hkept.still)
  rw [hsame] at hwarned
  exact hkept.trans hwarned

variable (hconsumer : hooks.rulesConsumer = none)
include hconsumer

/-- What the second replay reads from the keep rules is what the first one had adjusted, and it adjusts
that again. -/
theorem read_rules_of_kept (hrules : b.rules = a.rules) {file : Path}
    (hpassed : a.plan.passedRules = some file) :
    ∃ content, a.assembled.files.read machine.workingDirectory file = .ok (Text.toBytes content) ∧
      b.assembled.files.read machine.workingDirectory file =
        .ok (Text.toBytes (headers options.toggles 1 ++ content)) := by
  have hwarned := kept_warned_of_kept a b hspares hsame hkept
  have hfile := (Option.filter_eq_some_iff.mp hpassed).1
  rw [a.plan_rules] at hfile
  rcases a.rules_cases hconsumer with ⟨hnone, _⟩ | ⟨r, hsome, hr, _, hafter⟩
  · rw [hnone] at hfile
    exact absurd hfile (by simp)
  rcases b.rules_cases hconsumer with ⟨hnone, _⟩ | ⟨r', _, hr', hbefore', hafter'⟩
  · rw [← hrules, hnone] at hfile
    exact absurd hfile (by simp)
  have hadjusted := r.read_adjusted
  have hread' := r'.read_eq
  have hadjusted' := r'.read_adjusted
  rw [hr, hafter] at hadjusted
  rw [hr', hsame, hbefore', hwarned.read_iff, hadjusted, Except.ok.injEq] at hread'
  rw [hr', hsame, hafter', ← eq_of_toBytes_eq hread', Shrinker.adjust_adjust] at hadjusted'
  rw [hsome, hr, Option.some.injEq] at hfile
  rw [← hfile, a.files_assembled, b.files_assembled]
  refine ⟨_, hadjusted, ?_⟩
  rwa [headers, List.replicate_one, List.flatten_singleton]

variable (hpaved : a.opened.files.Paved machine.workingDirectory a.staged.dump.directory)
include hpaved

/-- The second replay decides the same as the first one. -/
theorem staged_of_kept (hdump : options.dump = some source) : b.staged = a.staged.movedTo work' := by
  obtain ⟨_, _, hdecide, hfiles⟩ := a.opens hdump
  obtain ⟨_, _, hdecide', hfiles'⟩ := b.opens hdump
  rw [hsame] at hdecide'
  refine agrees_decideFor options work work' a.staged.dump _ _ _ _ _ _ ?_ hdecide hdecide'
  rw [hfiles, hfiles']
  exact (a.alike_ruled hspares hpaved hconsumer).trans hkept.alike

/-- The second replay hands the compiler the same keep rules, if any. -/
theorem rules_of_kept (hstaged : b.staged = a.staged.movedTo work') : b.rules = a.rules := by
  have hwarned := kept_warned_of_kept a b hspares hsame hkept
  rw [a.rules_eq_filter, b.rules_eq_filter, hsame, hwarned.alike.found_eq,
    (a.alike_ruled hspares hpaved hconsumer).found_eq, (a.kept_warned hspares hpaved).alike.found_eq,
    hstaged]
  rfl

/-- A replay of a dump that is kept behind another replay repeats that one. -/
theorem repeats_of_kept (hdump : options.dump = some source) : Repeats 1 a b := by
  have hstaged := staged_of_kept a b hspares hsame hkept hconsumer hpaved hdump
  have hrules := rules_of_kept a b hspares hsame hkept hconsumer hpaved hstaged
  have hruled := b.alike_ruled (by rwa [hsame]) (by rw [hsame]; exact hkept.still) hconsumer
  rw [hsame] at hruled
  refine ⟨hstaged, ?_, ?_, fun file hpassed =>
    read_rules_of_kept a b hspares hsame hkept hconsumer hrules hpassed⟩
  · have hplan := b.planIn_eq
    rw [hstaged, hrules] at hplan
    exact planIn_eq_moved (hkept.alike.trans hruled) a.planIn_eq hplan
  · have hclasspath := b.classpath_chosen
    rw [hstaged] at hclasspath
    exact hclasspath

end Kept

namespace Repeats

variable {work'' : Path} {start'' : Host} {times more : Nat}
variable {a : Assembled options tools hooks work machine start}
variable {b : Assembled options tools hooks work' machine start'}
variable {c : Assembled options tools hooks work'' machine start''}

/-- What repeats a replay that repeats another one, repeats that. -/
theorem trans (first : Repeats times a b) (second : Repeats more b c) :
    Repeats (more + times) a c := by
  have hpassed : b.plan.passedRules = a.plan.passedRules := by
    rw [first.plan]
    rfl
  refine ⟨?_, ?_, ?_, ?_⟩
  · rw [second.staged, first.staged]
    rfl
  · rw [second.plan, first.plan]
    rfl
  · have hclasspath := second.classpath
    rw [first.staged] at hclasspath
    exact hclasspath
  · intro file hfile
    obtain ⟨content, hread, hfirst⟩ := first.rules file hfile
    obtain ⟨content', hread', hsecond⟩ := second.rules file (hpassed.trans hfile)
    rw [hfirst, Except.ok.injEq] at hread'
    refine ⟨content, hread, ?_⟩
    rw [hsecond, ← eq_of_toBytes_eq hread', headers_add, String.append_assoc]

/-- In the same work directory the command line is the same. -/
theorem plan_eq (h : Repeats times a b) (hdump : options.dump = some source) (hwork : work' = work) :
    b.plan = a.plan := by
  subst hwork
  have hclasspath := h.classpath
  rw [a.classpath_chosen, Except.ok.injEq] at hclasspath
  rw [h.plan, ← hclasspath, a.movedPlan_self hdump]

/-- The keep rules are the same exactly if no phase is forced off, or nothing was adjusted since. -/
theorem read_rules_eq_iff (h : Repeats times a b) {file : Path}
    (hpassed : a.plan.passedRules = some file) :
    b.assembled.files.read machine.workingDirectory file =
        a.assembled.files.read machine.workingDirectory file ↔
      times = 0 ∨ options.toggles.directivesOf .forceDisable = [] := by
  obtain ⟨content, hread, hread'⟩ := h.rules file hpassed
  rw [hread, hread', Except.ok.injEq, ← headers_eq_empty_iff]
  constructor
  · intro hbytes
    have hsame := congrArg String.toList (eq_of_toBytes_eq hbytes)
    rw [String.toList_append, List.append_left_eq_self] at hsame
    exact String.toList_eq_nil_iff.mp hsame
  · intro hempty
    rw [hempty, String.empty_append]

end Repeats

end DumpReplay.Replay
