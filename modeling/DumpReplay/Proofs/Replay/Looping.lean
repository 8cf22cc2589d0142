import DumpReplay.Proofs.Replay.Returning
import DumpReplay.Replay.Loop

/-!
# Replays in a loop

Every replay of a loop works in a directory of its own, so that a dump that is given as a directory
is kept from each to the next.  So each of them repeats the first one.

Main results:

- `iterate_eq_ok` : what goes well in a loop has run the compiler.
- `repeats_of_loop` : every replay of a loop repeats the first one.
- `replays_repeat` : so does a replay that follows another one.
-/

namespace DumpReplay

open DumpReplay.Action

/-! ## Names of numbers -/

namespace Replay

theorem isDigit_of_mem_padded {iteration : Nat} {c : Char} (h : c ∈ (padded iteration).toList) :
    c.isDigit = true := by
  rw [padded, String.toList_ofList, List.mem_append] at h
  rcases h with hfront | hdigits
  · rw [(List.mem_replicate.mp hfront).2]
    decide
  · rw [Nat.toString_eq_repr, Nat.toList_repr] at hdigits
    exact Nat.isDigit_of_mem_toDigits (by decide) (by decide) hdigits

theorem padded_ne {iteration : Nat} {text : String} (h : ∃ c ∈ text.toList, c.isDigit = false) :
    padded iteration ≠ text := by
  rintro rfl
  obtain ⟨c, hc, hnot⟩ := h
  rw [isDigit_of_mem_padded hc] at hnot
  exact absurd hnot (by simp)

theorem isName_padded (iteration : Nat) : Path.IsName (padded iteration) := by
  have hpoint : ('.').isDigit = false := by decide
  refine ⟨fun hempty => ?_, padded_ne ⟨'.', by decide, hpoint⟩, padded_ne ⟨'.', by decide, hpoint⟩,
    fun hslash => ?_⟩
  · have hlist := congrArg (List.length ∘ String.toList) hempty
    simp [padded] at hlist
  · exact absurd (isDigit_of_mem_padded hslash) (by decide)

end Replay

/-- No file that a dump holds is named for a number. -/
theorem Dump.IsPart.ne_padded {name : String} (h : IsPart name) (iteration : Nat) :
    Replay.padded iteration ≠ name := by
  apply Replay.padded_ne
  rcases h with ⟨artifact, rfl⟩ | ⟨index, rfl⟩
  · cases artifact with
    | version => exact ⟨'-', by decide, by decide⟩
    | _ => exact ⟨'.', by decide, by decide⟩
  · exact ⟨'f', List.mem_of_head? (head?_featureName index), by decide⟩

namespace Replay

variable {source : Path} {directory : Option Path} {options : Options} {tools : Toolchain}
variable {hooks : Hooks} {machine : Machine} {host after : Host} {parent : Option Path}

/-- The directories of the replays of a loop are beside one another. -/
theorem beside_iterations (here : Location) (dump : Dump) (parent : Option Path)
    (iteration other : Nat) :
    Beside here dump (iterationDirectory parent iteration) (iterationDirectory parent other) := by
  cases parent with
  | none => exact .scratch
  | some directory =>
    refine .given _ _ ((isName_padded iteration).text_child_ne directory) fun name hname hway => ?_
    rcases Path.way_child (isName_padded other) hway with hbefore | hsame
    · exact hbefore.child (isName_padded iteration)
    · -- Its own name is a number.
      rw [Path.location_child (isName_padded other)] at hsame
      exact absurd (List.append_singleton_inj.mp hsame).2.symm (hname.ne_padded other)

/-! ## Replays that go well -/

/-- A replay that goes well has run the compiler. -/
theorem compiled_of_run (h : ((run directory options tools hooks).on machine host).1.isOk = true) :
    Nonempty (Compiled directory options tools hooks machine host) := by
  rcases hentered : (enter directory).on machine host with ⟨entering, start⟩
  cases entering with
  | error failure =>
    rw [run_of_not_entered hentered] at h
    exact absurd h (by simp [Except.isOk, Except.toBool])
  | ok work =>
    rw [(run_of_entered options tools hooks hentered).1] at h
    rcases assembled_or_abandoned options tools hooks work machine start with
      ⟨⟨a⟩⟩ | ⟨failure, _, hfailed, _⟩
    · exact ⟨⟨work, start, hentered, a⟩⟩
    · rw [hfailed] at h
      exact absurd h (by simp [Except.isOk, Except.toBool])

/-- A host on which the number of a replay was printed. -/
def announced (iteration : Nat) (host : Host) : Host :=
  { host with printed := host.printed ++ ("Iteration " ++ padded iteration ++ "\n") }

/-- What goes well in a loop has run the compiler. -/
theorem iterate_eq_ok {iteration : Nat}
    (h : (iterate parent options tools iteration).on machine host = (.ok (), after)) :
    ∃ c : Compiled (iterationDirectory parent iteration) options tools .none machine
      (announced iteration host), after.files = c.left.files := by
  obtain ⟨_, told, htold, hrun⟩ := on_bind_eq_ok.mp h
  obtain rfl : told = announced iteration host := (Prod.mk.inj htold).2.symm
  obtain ⟨status, behind, hrun, hinform⟩ := on_bind_eq_ok.mp hrun
  obtain ⟨c⟩ := compiled_of_run (by rw [hrun]; rfl)
  refine ⟨c, ?_⟩
  rw [(looks_inform _).keepsFiles.eq hinform, Compiled.left, hrun]

/-! ## The replays of a loop -/

section Loop

variable (hsound : host.Sound machine) (hroots : machine.Roots) (hscratch : machine.NamesScratch)
variable (hdump : options.dump = some source)
variable (hspares : machine.Spares ((Dump.mk source).Site machine.workingDirectory))
variable (hdirectory : host.files.hasDirectory machine.workingDirectory source = true)
include hsound hroots hscratch hdump hspares hdirectory

/-- What a replay of a loop leaves for the next one: a host that is sound, with the dump as a
directory, and the next replay repeats that one. -/
theorem iterate_step {iteration : Nat}
    (first : Compiled (iterationDirectory parent iteration) options tools .none machine host)
    (hafter : after.files = first.left.files) :
    after.Sound machine ∧ after.files.hasDirectory machine.workingDirectory source = true ∧
      ∀ (other : Nat) (told : Host), told.files = after.files →
        ∀ second : Compiled (iterationDirectory parent other) options tools .none machine told,
          Repeats 1 first.assembled second.assembled := by
  have hfirst := first.dump_of_directory hsound hdump hdirectory
  have hspares' : machine.Spares (first.dump.Site machine.workingDirectory) := by rwa [hfirst]
  have hkept := first.kept_left hsound hroots hscratch hdump rfl hspares' fun _ => hdirectory
  have hleft := first.sound_left hsound hroots rfl
  refine ⟨⟨hafter ▸ hleft.rooted, hsound.named⟩, ?_, fun other told htold second => ?_⟩
  · obtain ⟨hnul, hempty, hsize, _⟩ := FileTree.hasDirectory_iff_leads.mp hdirectory
    have hstill := hkept.still
    rw [hfirst] at hstill
    rw [hafter]
    exact hstill.hasDirectory ⟨hnul, hsize⟩ hempty
  · have hfiles := htold.trans hafter
    exact repeats_of_directory first second hsound ⟨hfiles ▸ hleft.rooted, hsound.named⟩ hspares'
      (fun location _ => by rw [hfiles]) hroots hscratch hdump rfl (fun _ => hdirectory)
      (beside_iterations _ _ parent iteration other)
      ((first.entered hsound).hasDirectory hsound hdirectory)

end Loop

/-- Every replay of a loop repeats the first one, with what is put in front of the keep rules standing
there once more for each replay in between. -/
theorem repeats_of_loop (hroots : machine.Roots) (hscratch : machine.NamesScratch)
    (hdump : options.dump = some source)
    (hspares : machine.Spares ((Dump.mk source).Site machine.workingDirectory)) (parent : Option Path)
    (count iteration : Nat) (hsound : host.Sound machine)
    (hdirectory : host.files.hasDirectory machine.workingDirectory source = true)
    (h : (loopFor parent options tools (count + 1) iteration).on machine host = (.ok (), after)) :
    ∃ first : Compiled (iterationDirectory parent iteration) options tools .none machine
        (announced iteration host),
      ∀ last, last = iteration + count + 1 →
        ∀ later : Compiled (iterationDirectory parent last) options tools .none machine
          (announced last after), Repeats (count + 1) first.assembled later.assembled := by
  induction count generalizing iteration host with
  | zero =>
    rw [loopFor_succ] at h
    obtain ⟨_, middle, hiterate, hrest⟩ := on_bind_eq_ok.mp h
    obtain rfl : middle = after := (Prod.mk.inj hrest).2
    obtain ⟨first, hfiles⟩ := iterate_eq_ok hiterate
    have hannounced : (announced iteration host).Sound machine := ⟨hsound.rooted, hsound.named⟩
    obtain ⟨_, _, hnext⟩ :=
      iterate_step hannounced hroots hscratch hdump hspares hdirectory first hfiles
    exact ⟨first, fun last _ later => hnext last (announced last middle) rfl later⟩
  | succ count ih =>
    rw [loopFor_succ] at h
    obtain ⟨_, middle, hiterate, hrest⟩ := on_bind_eq_ok.mp h
    obtain ⟨first, hfiles⟩ := iterate_eq_ok hiterate
    have hannounced : (announced iteration host).Sound machine := ⟨hsound.rooted, hsound.named⟩
    obtain ⟨hmiddle, hstill, hnext⟩ :=
      iterate_step hannounced hroots hscratch hdump hspares hdirectory first hfiles
    obtain ⟨second, hlater⟩ := ih (iteration + 1) hmiddle hstill hrest
    refine ⟨first, fun last hlast later => ?_⟩
    exact (hnext (iteration + 1) (announced (iteration + 1) middle) rfl second).trans (hlater last (by omega) later)

/-! ## Replays are repeatable -/

/-- Replays are repeatable, but for what is put in front of the keep rules.  A replay that follows
another one of the same dump opens the same dump, decides the same, and hands the compiler the same
command line: in a work directory that is given there is no difference at all, and in a scratch
directory only that of the directory.  The keep rules that the compiler is handed are those of the
replay before with the lines in front that switch phases off.  So it is with all replays of a loop. -/
theorem replays_repeat (source : Path) (options : Options) (tools : Toolchain) (machine : Machine)
    (host : Host) (hdump : options.dump = some source) (hsound : host.Sound machine)
    (hroots : machine.Roots) (hscratch : machine.NamesScratch)
    (hspares : machine.Spares ((Dump.mk source).Site machine.workingDirectory)) :
    (∀ (hooks : Hooks) (directory : Option Path) (again : Host)
        (first : Compiled directory options tools hooks machine host)
        (second : Compiled directory options tools hooks machine again),
      hooks.rulesConsumer = none → again.Sound machine →
      (host.files.hasDirectory machine.workingDirectory source = true ∨
        directory ≠ none ∧ options.overrideExtraction = false) →
      machine.Spares (first.dump.Site machine.workingDirectory) →
      (∀ location, (Dump.mk source).Site machine.workingDirectory location ∨
          first.dump.Site machine.workingDirectory location →
        again.files.get? location = first.left.files.get? location) →
      Repeats 1 first.assembled second.assembled ∧
        (directory ≠ none → second.assembled.plan = first.assembled.plan) ∧
        ∀ file, first.assembled.plan.passedRules = some file →
          (second.assembled.assembled.files.read machine.workingDirectory file =
              first.assembled.assembled.files.read machine.workingDirectory file ↔
            options.toggles.directivesOf .forceDisable = [])) ∧
    ∀ (parent : Option Path) (count : Nat) (after : Host),
      host.files.hasDirectory machine.workingDirectory source = true →
      (loopFor parent options tools (count + 1) 1).on machine host = (.ok (), after) →
      ∃ first : Compiled (iterationDirectory parent 1) options tools .none machine (announced 1 host),
        ∀ later : Compiled (iterationDirectory parent (count + 2)) options tools .none machine
            (announced (count + 2) after), Repeats (count + 1) first.assembled later.assembled := by
  refine ⟨fun hooks directory again first second hconsumer hagain hstays hopened hsame => ?_,
    fun parent count after hdirectory hloop => ?_⟩
  · have hrepeats := repeats_of_left_alone first second hsound hagain hroots hscratch hdump hconsumer
      hstays hspares hopened hsame
    refine ⟨hrepeats, fun hgiven => ?_, fun file hpassed => ?_⟩
    · obtain ⟨given, rfl⟩ := Option.ne_none_iff_exists'.mp hgiven
      refine hrepeats.plan_eq hdump ?_
      rw [(second.entered hagain).given given rfl, (first.entered hsound).given given rfl]
    · rw [hrepeats.read_rules_eq_iff hpassed]
      simp
  · obtain ⟨first, hlater⟩ := repeats_of_loop hroots hscratch hdump hspares parent count 1 hsound
      hdirectory hloop
    exact ⟨first, fun later => hlater (count + 2) (by omega) later⟩

/-! ## Renaming switched off twice -/

/-- A replay in which renaming is switched off. -/
def unminifiedOptions : Options :=
  rulesOptions ⟨.forceDisable, .default, .default⟩

/-- A dump with one keep rule. -/
def keepHost : Host :=
  rulesHost "-keep class A\n"

/-- A replay of it in a work directory. -/
abbrev keepRun : Action Status :=
  run (some ⟨"/w"⟩) unminifiedOptions sampleTools .none

theorem sound_keepHost : keepHost.Sound sampleMachine :=
  sound_rulesHost _

theorem roots_sampleMachine : sampleMachine.Roots :=
  fun _ _ _ => id

theorem namesScratch_sampleMachine : sampleMachine.NamesScratch :=
  fun _ => (by decide : '/' ∉ "".toList)

theorem hasDirectory_keepHost : keepHost.files.hasDirectory [] ⟨"/d"⟩ = true := by
  decide +kernel

/-- The first replay of a loop. -/
abbrev keepLoop : Action Unit :=
  loopFor (some ⟨"/w"⟩) unminifiedOptions sampleTools 1 1

/-- Two replays in a row go well, and so do two replays of a loop. -/
theorem isOk_keepHost :
    (keepRun.on sampleMachine keepHost).1.isOk = true ∧
    (keepRun.on sampleMachine (keepRun.on sampleMachine keepHost).2).1.isOk = true ∧
    (keepLoop.on sampleMachine keepHost).1.isOk = true ∧
    ((run (some ⟨"/w/002"⟩) unminifiedOptions sampleTools .none).on sampleMachine
      (announced 2 (keepLoop.on sampleMachine keepHost).2)).1.isOk = true := by
  decide +kernel

/-- The host when the work directory is entered. -/
def keepStart : Host :=
  ((enter (some ⟨"/w"⟩)).on sampleMachine keepHost).2

theorem enter_keepHost :
    (enter (some ⟨"/w"⟩)).on sampleMachine keepHost = (.ok ⟨"/w"⟩, keepStart) := rfl

/-- The keep rules of the dump are passed. -/
theorem passedRules_keepHost
    (c : Compiled (some ⟨"/w"⟩) unminifiedOptions sampleTools .none sampleMachine keepHost) :
    c.assembled.plan.passedRules = some ⟨"/d/proguard.config"⟩ := by
  have hpaved := c.paved sound_keepHost roots_sampleMachine rfl
  have hwarned := c.assembled.kept_warned (fun _ _ _ _ _ => rfl) hpaved
  have hpassed := c.assembled.passedRules_eq
  rw [hwarned.alike.found_eq] at hpassed
  obtain ⟨work, start, henter, a⟩ := c
  rw [enter_keepHost] at henter
  obtain ⟨hwork, rfl⟩ := Prod.mk.inj henter
  obtain rfl := Except.ok.inj hwork
  have hstage : ((stage unminifiedOptions ⟨"/w"⟩).on sampleMachine keepStart).1.toOption.map
      (fun staged => (staged.dump, staged.invocation.compiler.takesRules)) =
        some (⟨⟨"/d"⟩⟩, true) := by decide +kernel
  have hfound : (Dump.mk ⟨"/d"⟩).found
      ((stage unminifiedOptions ⟨"/w"⟩).on sampleMachine keepStart).2.files [] .rules =
        some ⟨"/d/proguard.config"⟩ := by decide +kernel
  rw [a.stage_eq] at hstage hfound
  obtain ⟨hdump, htakes⟩ := Prod.mk.inj (Option.some.inj hstage)
  dsimp only at hpassed hfound
  rw [hpassed, hdump, htakes, show sampleMachine.workingDirectory = [] from rfl, hfound]
  rfl

/-- Two replays with the same work directory, and two replays of a loop. -/
theorem replays_repeat_keepHost :
    (∃ (first : Compiled (some ⟨"/w"⟩) unminifiedOptions sampleTools .none sampleMachine keepHost)
        (second : Compiled (some ⟨"/w"⟩) unminifiedOptions sampleTools .none sampleMachine first.left),
      Repeats 1 first.assembled second.assembled ∧
        second.assembled.plan = first.assembled.plan) ∧
    ∃ (after : Host)
      (first : Compiled (some ⟨"/w/001"⟩) unminifiedOptions sampleTools .none sampleMachine
        (announced 1 keepHost))
      (later : Compiled (some ⟨"/w/002"⟩) unminifiedOptions sampleTools .none sampleMachine
        (announced 2 after)), Repeats 1 first.assembled later.assembled := by
  obtain ⟨hrow, hloop⟩ := replays_repeat ⟨"/d"⟩ unminifiedOptions sampleTools sampleMachine keepHost rfl
    sound_keepHost roots_sampleMachine namesScratch_sampleMachine (fun _ _ _ _ _ => rfl)
  constructor
  · obtain ⟨first⟩ := compiled_of_run isOk_keepHost.1
    have hagain := isOk_keepHost.2.1
    rw [← first.left_eq] at hagain
    obtain ⟨second⟩ := compiled_of_run hagain
    obtain ⟨hrepeats, hplan, _⟩ := hrow .none _ _ first second rfl
      (first.sound_left sound_keepHost roots_sampleMachine rfl) (.inl hasDirectory_keepHost)
      (fun _ _ _ _ _ => rfl) fun _ _ => rfl
    exact ⟨first, second, hrepeats, hplan (by simp)⟩
  · obtain ⟨later⟩ := compiled_of_run isOk_keepHost.2.2.2
    have hone := isOk_keepHost.2.2.1
    rcases hrun : keepLoop.on sampleMachine keepHost with ⟨outcome, after⟩
    rw [hrun] at hone later
    cases outcome with
    | error failure => exact absurd hone (by simp [Except.isOk, Except.toBool])
    | ok value =>
      obtain ⟨first, hlater⟩ := hloop (some ⟨"/w"⟩) 0 after hasDirectory_keepHost hrun
      exact ⟨after, first, later, hlater later⟩

/-- Where renaming is switched off, the keep rules of the second of two replays are not those of the
first one. -/
theorem not_forall_same_rules_again :
    ¬∀ (source : Path) (options : Options) (tools : Toolchain) (hooks : Hooks) (machine : Machine)
        (host : Host) (directory : Option Path)
        (first : Compiled directory options tools hooks machine host)
        (second : Compiled directory options tools hooks machine first.left),
      options.dump = some source → hooks.rulesConsumer = none → host.Sound machine →
      machine.Roots → machine.NamesScratch → machine.Spares (fun _ => True) →
      host.files.hasDirectory machine.workingDirectory source = true →
      ∀ file, first.assembled.plan.passedRules = some file →
        second.assembled.assembled.files.read machine.workingDirectory file =
          first.assembled.assembled.files.read machine.workingDirectory file := by
  intro h
  obtain ⟨first⟩ := compiled_of_run isOk_keepHost.1
  have hagain := isOk_keepHost.2.1
  rw [← first.left_eq] at hagain
  obtain ⟨second⟩ := compiled_of_run hagain
  have hsame := h ⟨"/d"⟩ _ _ _ _ _ _ first second rfl rfl sound_keepHost roots_sampleMachine
    namesScratch_sampleMachine (fun _ _ _ _ _ => rfl) hasDirectory_keepHost _
    (passedRules_keepHost first)
  have hrepeats : Repeats 1 first.assembled second.assembled :=
    repeats_of_left_alone first second sound_keepHost
      (first.sound_left sound_keepHost roots_sampleMachine rfl) roots_sampleMachine
      namesScratch_sampleMachine rfl rfl (.inl hasDirectory_keepHost) (fun _ _ _ _ _ => rfl)
      (fun _ _ _ _ _ => rfl) fun _ _ => rfl
  rw [hrepeats.read_rules_eq_iff (passedRules_keepHost first)] at hsame
  exact absurd hsame (by decide)

end Replay

end DumpReplay
