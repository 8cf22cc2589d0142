import DumpReplay.Proofs.Action.Changing
import DumpReplay.Proofs.Replay.Reporting
import DumpReplay.Proofs.Zip.Extracting

/-!
# The files that the steps of a replay change

Each step of a replay writes at places of its own: an extraction under its target, a download and
retracing inside the work directory, and the adjusting of keep rules at the rules of the dump.  Only
an extraction makes directories.

Main results:

- `changes_extract` : an extraction changes files only under its target.
- `changes_stage` : staging changes files only under the work directory.
- `prepareRules_spec` : preparing the keep rules changes the rules or nothing.
- `changes_distributionFor`, `changes_conclude` : the files that the other steps write.
-/

namespace DumpReplay

open DumpReplay.Action

variable {machine : Machine} {made written : Location → Prop}

/-! ## Archives -/

namespace Zip

variable {target : Path} {names : List String}

theorem looks_orIo {α : Type} (outcome : Except IoError α) : Looks (orIo outcome) := by
  cases outcome with
  | ok value => exact .pure value
  | error cause => exact .fail _

theorem changes_prepare (hnames : ∀ name ∈ names, Path.IsName name)
    (hmade : ∀ location, target.Around machine.workingDirectory location → made location) :
    Changes machine made written (prepare target names) := by
  induction names generalizing target with
  | nil => exact .of_looks (.pure target)
  | cons name rest ih =>
    obtain ⟨hname, hrest⟩ := List.forall_mem_cons.mp hnames
    have hinside : ∀ location, (target.child name).Around machine.workingDirectory location →
        made location := fun location haround => hmade location (.of_child hname haround)
    cases rest with
    | nil =>
      refine .bind (.of_looks (.look _)) fun found => ?_
      split
      · exact .of_looks (.pure _)
      · exact .of_looks (.pure _)
      · exact .of_looks (.fail _)
    | cons other rest =>
      refine .bind (.of_looks (.look _)) fun found => ?_
      split
      · exact ih hrest hinside
      · refine .bind (changes_makeDirectories? fun location hway => ?_) fun result => ?_
        · exact hinside location (.inl hway)
        · exact .bind (.of_looks (looks_orIo result)) fun _ => ih hrest hinside
      · exact .of_looks (.fail _)

/-- The path of an entry is one inside the target. -/
theorem gives_prepare (hnames : ∀ name ∈ names, Path.IsName name) :
    Gives machine (· = target.descendant names) (prepare target names) := by
  intro host after path hrun
  rcases (prepare_spec (fun _ => False) hnames hrun).2 with hpath | ⟨⟨failure, hfailed⟩, _⟩
  · exact Except.ok.inj hpath
  · exact absurd hfailed (by simp)

/-- Whether a path is that of some names inside a directory. -/
def Inside (target path : Path) : Prop :=
  ∃ names, (∀ name ∈ names, Path.IsName name) ∧ path = target.descendant names

theorem Inside.under {path : Path} (h : Inside target path) (here : Location)
    (hpath : path.text ≠ "") : target.Under here (path.location here) := by
  obtain ⟨names, hnames, rfl⟩ := h
  exact Path.under_descendant hnames here hpath

theorem changes_writeContent {path : Path} (archive : Archive) (entry : Entry)
    (hwritten : path.text ≠ "" → written (path.location machine.workingDirectory)) :
    Changes machine made written (writeContent archive entry path) := by
  intro host
  unfold writeContent
  dsimp only
  rw [on_bind_of_ok _ (on_look _)]
  cases hwrite : host.files.write machine.workingDirectory path (archive.content entry).bytes with
  | error cause => exact .refl
  | ok tree =>
    rw [orIo, on_bind_of_ok _ (on_pure tree), on_bind_of_ok _ (on_setFiles tree)]
    have hchanged : Changed machine made written host.files tree :=
      .single (.edit (FileTree.edit_write made hwritten hwrite))
    cases (archive.content entry).intact with
    | true => exact hchanged
    | false => exact hchanged

variable (hmade : ∀ location, target.Around machine.workingDirectory location → made location)
variable (hwritten : ∀ location, target.Under machine.workingDirectory location → written location)
include hmade hwritten

/-- Extracting an entry changes files only under the target, and it makes a path inside. -/
theorem changes_extractEntry (archive : Archive) (entry : Entry) :
    Changes machine made written (extractEntry archive target entry) ∧
      Gives machine (fun made => ∀ path, made = some path → Inside target path)
        (extractEntry archive target entry) := by
  unfold extractEntry
  have hfail : ∀ fault : Fault,
      Changes machine made written (fail fault : Action (Option Path)) ∧
        Gives machine (fun made => ∀ path, made = some path → Inside target path)
          (fail fault : Action (Option Path)) :=
    fun fault => ⟨.of_looks (.fail _), .fail _⟩
  split
  · exact hfail _
  · split
    · exact hfail _
    · split
      · exact hfail _
      · rename_i names hnames
        have hisName := Entry.isName_of_names? hnames
        have hinside : Inside target (target.descendant names) := ⟨names, hisName, rfl⟩
        refine ⟨.bind_of_gives (changes_prepare hisName hmade) (gives_prepare hisName) ?_,
          .bind (gives_prepare hisName) ?_⟩
        · rintro path rfl
          refine .ite ?_ ?_
          · refine .bind (changes_makeDirectories? fun location hway => ?_) fun result => ?_
            · exact hmade location (.of_descendant hisName (.inl hway))
            · exact .bind (.of_looks (looks_orIo result)) fun _ => .of_looks (.pure _)
          · refine .bind (changes_writeContent archive entry fun hpath => ?_) fun _ => ?_
            · exact hwritten _ (hinside.under _ hpath)
            · exact .of_looks (.pure _)
        · rintro path rfl
          refine .ite ?_ ?_
          · refine .bind (.trivial _) fun _ _ => .bind (.trivial _) fun _ _ => ?_
            exact .pure (by simp)
          · refine .bind (.trivial _) fun _ _ => .pure fun path hpath => ?_
            rw [← Option.some.inj hpath]
            exact hinside

theorem changes_extractEntries (archive : Archive) (entries : List Entry) :
    Changes machine made written (extractEntries archive target entries) ∧
      Gives machine (fun made => ∀ item ∈ made, Inside target item.1)
        (extractEntries archive target entries) := by
  induction entries with
  | nil => exact ⟨.of_looks (.pure _), .pure (by simp)⟩
  | cons entry rest ih =>
    obtain ⟨hchanges, hgives⟩ := changes_extractEntry hmade hwritten archive entry
    refine ⟨.bind hchanges fun made => .bind ih.1 fun others => ?_,
      .bind hgives fun made hmade => .bind ih.2 fun others hothers => ?_⟩
    · split <;> exact .of_looks (.pure _)
    · split
      · exact .pure (List.forall_mem_cons.mpr ⟨hmade _ rfl, hothers⟩)
      · exact .pure hothers

/-- An extraction changes files only under its target. -/
theorem changes_extract (archive : Archive) :
    Changes machine made written (extract archive target) := by
  obtain ⟨hchanges, hgives⟩ := changes_extractEntries hmade hwritten archive archive.entries
  refine .bind (changes_makeDirectories? fun location hway => hmade location (.inl hway)) fun result => ?_
  refine .bind (.of_looks (looks_orIo result)) fun _ => .bind_of_gives hchanges hgives ?_
  intro made hinside
  refine .bind (.forIn made _ fun item hitem state => ?_) fun _ => .of_looks (.pure _)
  intro host
  refine .of_edited (FileTree.edited_setExecutable _ (fun hpath => ?_) (allowsRunning item.2))
  exact hwritten _ ((hinside item hitem).under _ hpath)

end Zip

/-! ## Dumps -/

namespace Dump

variable {source work : Path}

/-- What a dump finds of an artifact is its path. -/
theorem gives_find (dump : Dump) (artifact : Artifact) :
    Gives machine (fun found => ∀ file, found = some file → file = dump.path artifact)
      (dump.find artifact) := by
  refine .bind (.trivial _) fun _ _ => .ite (.pure fun file hfile => ?_) (.pure (by simp))
  rw [← Option.some.inj hfile]

variable (hmade : ∀ location, work.Around machine.workingDirectory location → made location)
variable (hwritten : ∀ location, work.Under machine.workingDirectory location → written location)
include hmade hwritten

/-- Opening a dump changes files only under the work directory. -/
theorem changes_openIn (source : Path) (override : Bool) :
    Changes machine made written (openIn source work override) := by
  refine .bind (.of_looks (looks_isDirectory source)) fun _ => .ite (.of_looks (.pure _)) ?_
  refine .bind (.of_looks (looks_readBytes? source)) fun bytes => ?_
  cases bytes with
  | error cause => exact .of_looks (.fail _)
  | ok bytes =>
    refine .bind (.of_looks (.ofExcept _)) fun archive => ?_
    refine .bind ?_ fun _ => .of_looks (.pure _)
    refine .bind (.of_looks (looks_isFile _)) fun _ => .ite ?_ (.of_looks (looks_inform _))
    refine .bind (.of_looks (looks_inform _)) fun _ => ?_
    refine .bind (Zip.changes_extract hmade hwritten archive) fun _ => ?_
    exact .bind (.of_looks (looks_isFile _)) fun _ =>
      .ite (.of_looks (.fail _)) (.of_looks (.pure _))

end Dump

/-! ## Distributions and adapters -/

/-- Fetching a build writes only its jar. -/
theorem Distribution.changes_fetch (version : Version) (plain : Bool) {work : Path}
    (tools : Toolchain)
    (hwritten : written ((work.child Store.plainJar).location machine.workingDirectory)) :
    Changes machine made written (fetch version plain work tools) := by
  unfold fetch
  dsimp only
  split
  · exact .of_looks (.fail _)
  · refine .bind (.attempt (changes_download _ hwritten)) fun fetched => ?_
    cases fetched with
    | ok value => exact .of_looks (.pure _)
    | error cause => exact .of_looks (.fail _)

/-- Compiling the adapters changes files only by its processes. -/
theorem Adapters.changes_prepare (javac : Path) (distribution : Distribution) (work : Path)
    (tools : Toolchain) :
    Changes machine made written (prepare javac distribution work tools) := by
  refine .bind (.of_looks (.ofExcept _)) fun classpath => ?_
  refine .bind (.forIn _ _ fun className _ _ => ?_) fun _ => .of_looks (.pure _)
  exact .bind (changes_runChecked _) fun _ => .of_looks (.pure _)

/-! ## Replays -/

namespace Replay

variable {options : Options} {work : Path} {staged : Staged} {hooks : Hooks}

theorem gives_decideFor (options : Options) (work : Path) (dump : Dump) :
    Gives machine (·.dump = dump) (decideFor options work dump) := by
  refine .bind (.trivial _) fun _ _ => .ite (.bind (.trivial _) fun _ _ => ?_) ?_
  all_goals refine .bind (.trivial _) fun _ _ => .ite (.bind (.trivial _) fun _ _ => ?_) ?_
  all_goals
    refine .bind (.trivial _) fun _ _ => .bind (.trivial _) fun _ _ => ?_
    exact .bind (.trivial _) fun _ _ => .bind (.trivial _) fun _ _ => .pure rfl

/-- Staging changes files only under the work directory. -/
theorem changes_stage (options : Options)
    (hmade : ∀ location, work.Around machine.workingDirectory location → made location)
    (hwritten : ∀ location, work.Under machine.workingDirectory location → written location) :
    Changes machine made written (stage options work) := by
  rw [stage_eq]
  split
  · exact .of_looks (.fail _)
  · exact .bind (Dump.changes_openIn hmade hwritten _ _) fun dump =>
      .of_looks (looks_decideFor options work dump)

/-- Finding the compiler writes only the jar that is fetched. -/
theorem changes_distributionFor (options : Options) (version : Option Version) (tools : Toolchain)
    (hwritten : written ((work.child Store.plainJar).location machine.workingDirectory)) :
    Changes machine made written (distributionFor options version work tools) := by
  have hverify : ∀ distribution : Distribution,
      Changes machine made written (do distribution.verify; return distribution) := fun distribution =>
    .of_looks (.bind distribution.looks_verify fun _ => .pure _)
  unfold distributionFor
  split
  · exact .bind (.of_looks (.pure _)) hverify
  · rename_i version _
    refine .bind ?_ hverify
    have htold : ∀ distribution : Distribution, Changes machine made written (do
        Action.inform ("Using distribution: " ++ distribution.shown)
        return distribution) := fun _ => .of_looks (.bind (looks_inform _) fun _ => .pure _)
    unfold Distribution.acquire
    cases version with
    | main => exact .bind (.of_looks (.pure _)) htold
    | source => exact .bind (.of_looks (.pure _)) htold
    | hash digits => exact .bind (Distribution.changes_fetch _ _ tools hwritten) htold
    | release name => exact .bind (Distribution.changes_fetch _ _ tools hwritten) htold
  · exact .bind (.of_looks (.fail _)) hverify

/-- Rules that are adjusted are read as a text, and the adjusted text takes its place.  Where that is
not possible, no file is changed. -/
theorem adjustRules_spec {file : Path} {toggles : Shrinker.Toggles} {host after : Host}
    {outcome : Except Failure Shrinker.Adjusted}
    (h : (adjustRules file toggles).on machine host = (outcome, after)) :
    ((∃ failure, outcome = .error failure) ∧ after.files = host.files) ∨
      ∃ content, (∃ adjusted, outcome = .ok adjusted) ∧
        host.files.read machine.workingDirectory file = .ok (Text.toBytes content) ∧
        host.files.write machine.workingDirectory file
          (Text.toBytes (Shrinker.adjust toggles content).content) = .ok after.files := by
  unfold adjustRules at h
  rcases (looks_readText file).bind_cases h with hfailed | ⟨content, looked, hread, hlooked, hrest⟩
  · exact .inl hfailed
  obtain ⟨hcontent, rfl⟩ := readText_eq_ok.mp hread
  rcases Looks.bind_cases (.forIn (fun _ _ => .bind (looks_inform _) fun _ => .pure _) _ _) hrest
    with hfailed | ⟨_, added, _, hadded, hrest⟩
  · exact .inl hfailed
  rcases Looks.bind_cases (.forIn (fun _ _ => .bind (looks_inform _) fun _ => .pure _) _ _) hrest
    with ⟨hfailed, hfiles⟩ | ⟨_, removed, _, hremoved, hrest⟩
  · exact .inl ⟨hfailed, hfiles.trans hadded⟩
  have hsame : removed.files = looked.files := hremoved.trans hadded
  unfold writeText writeBytes at hrest
  rw [bind_assoc, on_bind_of_ok _ (on_look _), hsame] at hrest
  cases hwrite : looked.files.write machine.workingDirectory file
      (Text.toBytes (Shrinker.adjust toggles content).content) with
  | error cause =>
    rw [hwrite, bind_assoc, on_bind_of_error _ (on_ofIo _)] at hrest
    obtain ⟨rfl, rfl⟩ := Prod.mk.inj hrest
    exact .inl ⟨⟨_, rfl⟩, hsame⟩
  | ok tree =>
    rw [hwrite, bind_assoc, on_bind_of_ok _ (on_ofIo _), on_bind_of_ok _ (on_setFiles _)] at hrest
    obtain ⟨rfl, rfl⟩ := Prod.mk.inj hrest
    exact .inr ⟨content, ⟨_, rfl⟩, hcontent, hwrite⟩

/-- Preparing the keep rules hands them to their consumer, or adjusts them, if there are any and the
compiler takes them. -/
theorem prepareRules_eq (staged : Staged) (options : Options) (hooks : Hooks) (host : Host) :
    (prepareRules staged options hooks).on machine host =
      if host.files.has machine.workingDirectory (staged.dump.path .rules) &&
          staged.invocation.compiler.takesRules then
        (do
          match hooks.rulesConsumer with
          | some consume => consume (staged.dump.path .rules)
          | none => let _ ← adjustRules (staged.dump.path .rules) options.toggles
          return some (staged.dump.path .rules)).on machine host
      else (.ok none, host) := by
  unfold prepareRules Dump.find Action.pathExists
  rw [bind_assoc, on_bind_of_ok _ (on_look _)]
  cases host.files.has machine.workingDirectory (staged.dump.path .rules) with
  | false => rfl
  | true =>
    rw [if_pos rfl, pure_bind, Option.filter_some]
    cases staged.invocation.compiler.takesRules with
    | false => rfl
    | true => rfl

/-- Preparing the keep rules changes only the rules, and only for a compiler that takes them and
without a consumer of them. -/
theorem prepareRules_spec {staged : Staged} {options : Options} {hooks : Hooks} {host after : Host}
    {outcome : Except Failure (Option Path)}
    (hconsumer : ∀ consume, hooks.rulesConsumer = some consume →
      ∀ file, Keeps Host.files (consume file))
    (h : (prepareRules staged options hooks).on machine host = (outcome, after)) :
    after.files = host.files ∨
      ∃ content, staged.invocation.compiler.takesRules = true ∧ hooks.rulesConsumer = none ∧
        outcome = .ok (some (staged.dump.path .rules)) ∧
        host.files.read machine.workingDirectory (staged.dump.path .rules) =
          .ok (Text.toBytes content) ∧
        host.files.write machine.workingDirectory (staged.dump.path .rules)
          (Text.toBytes (Shrinker.adjust options.toggles content).content) = .ok after.files := by
  rw [prepareRules_eq] at h
  split at h
  · rename_i hcondition
    rw [Bool.and_eq_true] at hcondition
    cases hconsume : hooks.rulesConsumer with
    | some consume =>
      rw [hconsume] at h
      have hkeeps : Keeps Host.files (do
          consume (staged.dump.path .rules)
          return some (staged.dump.path .rules)) :=
        .bind (hconsumer consume hconsume _) fun _ => .pure _
      exact .inl (hkeeps.eq h)
    | none =>
      rw [hconsume] at h
      dsimp only at h
      rcases hadjust : (adjustRules (staged.dump.path .rules) options.toggles).on machine host with
        ⟨adjusted, behind⟩
      rcases adjustRules_spec hadjust with
        ⟨⟨failure, rfl⟩, hfiles⟩ | ⟨content, ⟨adjusted, rfl⟩, hread, hwrite⟩
      · rw [on_bind_of_error _ hadjust] at h
        obtain ⟨rfl, rfl⟩ := Prod.mk.inj h
        exact .inl hfiles
      · rw [on_bind_of_ok _ hadjust] at h
        obtain ⟨rfl, rfl⟩ := Prod.mk.inj h
        exact .inr ⟨content, hcondition.2, rfl, rfl, hread, hwrite⟩
  · obtain ⟨_, rfl⟩ := Prod.mk.inj h
    exact .inl rfl

/-- Finding the symbol map writes only the map that is fetched. -/
theorem changes_fetchMap (version : Version) (tools : Toolchain)
    (hmap : written ((work.child "mapping.map").location machine.workingDirectory)) :
    Changes machine made written (fetchMap version work tools) := by
  unfold fetchMap
  split
  · exact .bind (.of_looks (looks_pathExists _)) fun _ => .of_looks (.ite (.pure _) (.fail _))
  · refine .bind (.of_keeps (keepsFiles_isAvailable _)) fun _ => .ite ?_ (.of_looks (.fail _))
    exact .bind (changes_download _ hmap) fun _ => .of_looks (.pure _)
  · exact .of_looks (.fail _)

theorem changes_retrace (output : String) (version : Version) (tools : Toolchain) (jdk : Jdk)
    (hstacktrace : written ((work.child "stacktrace").location machine.workingDirectory))
    (hmap : written ((work.child "mapping.map").location machine.workingDirectory)) :
    Changes machine made written (retrace output version work tools jdk) := by
  refine .bind (changes_writeText output fun _ => hstacktrace) fun _ => ?_
  refine .bind (changes_fetchMap version tools hmap) fun map => ?_
  exact .bind (.of_looks (jdk.looks_executable "java")) fun _ => changes_runChecked _

/-- Concluding a replay writes only what the compiler printed and its symbol map. -/
theorem changes_conclude (run : CapturedRun) (staged : Staged) (options : Options)
    (tools : Toolchain) (jdk : Jdk)
    (hstacktrace : written ((work.child "stacktrace").location machine.workingDirectory))
    (hmap : written ((work.child "mapping.map").location machine.workingDirectory)) :
    Changes machine made written (conclude run staged options work tools jdk) := by
  have hprint : ∀ text : String, Keeps Host.files (printLine text) := fun _ _ _ => rfl
  have htold : ∀ status : Status, Keeps Host.files (pure status : Action Status) := .pure
  refine .ite ?_ (.bind ?_ fun _ => .of_keeps (htold _))
  · refine .of_keeps (.bind (hprint _) fun _ => ?_)
    exact .bind (looks_inform _).keepsFiles fun _ => htold _
  · rw [reportFailure_eq]
    split
    · refine .bind (.bind (.attempt (changes_retrace _ _ tools jdk hstacktrace hmap)) ?_) ?_
      · rintro (failure | retraced)
        · exact .of_looks (.bind (looks_warn _) fun _ => .bind (looks_warn _) fun _ =>
            .bind (looks_inform _) fun _ => .pure _)
        · exact .of_keeps (.bind (hprint _) fun _ => .bind (hprint _) fun _ => .pure _)
      · exact fun _ => .of_keeps (.ite (hprint _) (.pure _))
    · exact .of_keeps (hprint _)

end Replay

end DumpReplay
