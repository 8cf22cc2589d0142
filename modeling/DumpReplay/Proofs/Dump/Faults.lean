import DumpReplay.Proofs.Action.Failing
import DumpReplay.Proofs.Dump.Mirroring

/-!
# What a summary can fail with

Two failures name a scratch directory: it cannot be made, or nothing was extracted into it.  Neither
comes from reading files, from extracting an archive or from showing a dump.

Main results:

- `plain_of_read` : reading a file is never refused with the path of a scratch directory.
- `Zip.failsOnly_extract` : an extraction fails with a fault of the archive.
- `failsOnly_summarize` : showing a dump names no scratch directory.
-/

namespace DumpReplay

open DumpReplay.Action

/-- A failure names a scratch directory: nothing was extracted into it, or it cannot be made. -/
inductive Failure.NamesScratch : Failure → Prop
  | notExtracted (directory : Path) : NamesScratch (.dump (.notExtracted directory))
  | atPath (cause : IoError) (quoted : String) : NamesScratch (.io (.atPath cause quoted))

/-! ## Refusals of the system -/

/-- An error is plain if it names no path. -/
def IoError.Plain (error : IoError) : Prop :=
  ∀ cause quoted, error ≠ .atPath cause quoted

/-- A failure with a plain error names no scratch directory. -/
theorem IoError.Plain.not_namesScratch {cause : IoError} (h : cause.Plain) :
    ¬(Failure.io cause).NamesScratch := by
  intro hnames
  cases hnames with
  | atPath inner quoted => exact h inner quoted rfl

namespace FileTree

variable {tree : FileTree} {here : Location} {path : Path} {names : List String} {cause : IoError}

theorem plain_of_descend (h : tree.descend here names = .error cause) : cause.Plain := by
  induction names generalizing here with
  | nil => exact absurd h (by simp [descend])
  | cons name rest ih =>
    rw [descend] at h
    repeat' split at h
    all_goals first
      | exact ih h
      | (obtain rfl := Except.error.inj h; exact fun _ _ => by simp)

theorem plain_of_locate (h : tree.locate here path = .error cause) : cause.Plain := by
  unfold locate at h
  repeat' split at h
  all_goals first
    | exact plain_of_descend h
    | (obtain rfl := Except.error.inj h; exact fun _ _ => by simp)

/-- Reading a file is never refused with a path. -/
theorem plain_of_read (h : tree.read here path = .error cause) : cause.Plain := by
  unfold read status at h
  cases hlocate : tree.locate here path with
  | error refusal =>
    rw [hlocate] at h
    obtain rfl := Except.error.inj h
    exact plain_of_locate hlocate
  | ok location =>
    simp only [hlocate, bind, Except.bind] at h
    cases hget : tree.get? location with
    | none =>
      rw [hget] at h
      obtain rfl := Except.error.inj h
      exact fun _ _ => by simp
    | some node =>
      rw [hget] at h
      cases node with
      | file bytes executable => exact absurd h (by simp)
      | directory =>
        obtain rfl := Except.error.inj h
        exact fun _ _ => by simp

end FileTree

/-! ## Extracting -/

namespace Zip

/-- A failure of an archive. -/
def IsFault (failure : Failure) : Prop :=
  ∃ fault, failure = .archive fault

theorem failsOnly_fail {α : Type} (fault : Fault) : FailsOnly IsFault (fail fault : Action α) :=
  .fail ⟨fault, rfl⟩

theorem failsOnly_orIo {α : Type} (outcome : Except IoError α) : FailsOnly IsFault (orIo outcome) := by
  cases outcome with
  | ok value => exact .pure value
  | error cause => exact failsOnly_fail .io

theorem failsOnly_makeDirectories? {kind : Failure → Prop} (path : Path) :
    FailsOnly kind (makeDirectories? path) :=
  .bind (.look _) fun _ => .bind (.setFiles _) fun _ => .pure _

theorem failsOnly_prepare (target : Path) (names : List String) :
    FailsOnly IsFault (prepare target names) := by
  induction names generalizing target with
  | nil => exact .pure target
  | cons name rest ih =>
    cases rest with
    | nil =>
      unfold prepare
      refine .bind (.look _) fun found => ?_
      split
      · exact .pure _
      · exact .pure _
      · exact failsOnly_fail .io
    | cons other rest =>
      unfold prepare
      refine .bind (.look _) fun found => ?_
      split
      · exact ih _
      · refine .bind (failsOnly_makeDirectories? _) fun made => ?_
        exact .bind (failsOnly_orIo made) fun _ => ih _
      · exact failsOnly_fail .io

theorem failsOnly_writeContent (archive : Archive) (entry : Entry) (path : Path) :
    FailsOnly IsFault (writeContent archive entry path) := by
  refine .bind (.look _) fun written => .bind (failsOnly_orIo written) fun tree => ?_
  exact .bind (.setFiles tree) fun _ => .ite (failsOnly_fail .io) (.pure ())

theorem failsOnly_extractEntry (archive : Archive) (target : Path) (entry : Entry) :
    FailsOnly IsFault (extractEntry archive target entry) := by
  unfold extractEntry
  refine .ite (failsOnly_fail .encrypted) (.ite (failsOnly_fail .unknownCompression) ?_)
  split
  · exact failsOnly_fail .badPath
  · refine .bind (failsOnly_prepare target _) fun path => .ite ?_ ?_
    · refine .bind (failsOnly_makeDirectories? path) fun made => ?_
      exact .bind (failsOnly_orIo made) fun _ => .pure none
    · exact .bind (failsOnly_writeContent archive entry path) fun _ => .pure (some path)

theorem failsOnly_extractEntries (archive : Archive) (target : Path) (entries : List Entry) :
    FailsOnly IsFault (extractEntries archive target entries) := by
  induction entries with
  | nil => exact .pure []
  | cons entry rest ih =>
    refine .bind (failsOnly_extractEntry archive target entry) fun made => .bind ih fun others => ?_
    split <;> exact .pure _

/-- An extraction fails with a fault of the archive. -/
theorem failsOnly_extract (archive : Archive) (target : Path) :
    FailsOnly IsFault (extract archive target) := by
  refine .bind (failsOnly_makeDirectories? target) fun made => .bind (failsOnly_orIo made) fun _ => ?_
  refine .bind (failsOnly_extractEntries archive target archive.entries) fun files => ?_
  refine .bind (.forIn (fun item _ => ?_) files PUnit.unit) fun _ => .pure ()
  exact .bind (.look _) fun tree => .bind (.setFiles tree) fun _ => .pure _

/-- A fault of an archive names no scratch directory. -/
theorem IsFault.not_namesScratch {failure : Failure} (h : IsFault failure) :
    ¬failure.NamesScratch := by
  obtain ⟨fault, rfl⟩ := h
  intro hnames
  cases hnames

end Zip

/-! ## Showing -/

namespace Dump

/-- The failures that name no scratch directory. -/
def Nameless (failure : Failure) : Prop :=
  ¬failure.NamesScratch

/-- A file that is no archive has a fault, or it cannot be read. -/
theorem nameless_of_readArchive {bytes : Except IoError ByteArray} {failure : Failure}
    (hplain : ∀ cause, bytes = .error cause → cause.Plain)
    (h : readArchive bytes = .error failure) : Nameless failure := by
  cases bytes with
  | error cause =>
    have hcause := hplain cause rfl
    unfold readArchive at h
    split at h
    · obtain rfl := Except.error.inj h
      exact Zip.IsFault.not_namesScratch ⟨_, rfl⟩
    · rename_i hsame
      obtain rfl := Except.error.inj hsame
      obtain rfl := Except.error.inj h
      exact hcause.not_namesScratch
    · rename_i hsame
      exact absurd hsame (by simp)
  | ok content =>
    unfold readArchive at h
    dsimp only at h
    cases harchive : Zip.Archive.ofBytes content with
    | ok archive =>
      rw [harchive] at h
      exact absurd h (by simp)
    | error fault =>
      rw [harchive] at h
      obtain rfl := Except.error.inj h
      exact Zip.IsFault.not_namesScratch ⟨fault, rfl⟩

theorem failsOnly_find (dump : Dump) (artifact : Artifact) {kind : Failure → Prop} :
    FailsOnly kind (dump.find artifact) :=
  .bind (.look _) fun _ => .ite (.pure _) (.pure _)

/-- A text is read unless its file cannot be. -/
theorem failsOnly_readText {kind : Failure → Prop}
    (hkind : ∀ cause : IoError, cause.Plain → kind (.io cause)) (path : Path) :
    FailsOnly kind (readText path) := by
  unfold readText readText? readBytes?
  rw [bind_assoc]
  refine .bind_look fun tree here => ?_
  cases hread : tree.read here path with
  | error cause => exact .fail (hkind cause (FileTree.plain_of_read hread))
  | ok bytes =>
    dsimp only
    split
    · exact .pure _
    · have hplain : IoError.notText.Plain := fun _ _ => by simp
      exact .fail (hkind _ hplain)

theorem failsOnly_version {kind : Failure → Prop}
    (hkind : ∀ cause : IoError, cause.Plain → kind (.io cause)) (dump : Dump) :
    FailsOnly kind dump.version := by
  refine .bind (failsOnly_find dump .version) fun found => ?_
  cases found with
  | none => exact .pure none
  | some file => exact .bind (failsOnly_readText hkind file) fun _ => .pure _

theorem failsOnly_summarizeJar (jar : Path) : FailsOnly Nameless (summarizeJar jar) := by
  refine .bind_look fun tree here => .bind (.ofExcept fun failure hfailure => ?_) fun _ => .pure _
  exact nameless_of_readArchive (fun _ => FileTree.plain_of_read) hfailure

theorem failsOnly_showPresence (dump : Dump) (artifact : Artifact) {kind : Failure → Prop} :
    FailsOnly kind (showPresence dump artifact printLine) := by
  unfold showPresence Dump.has pathExists
  exact .bind (.look _) fun _ => .ite (.printLine _) (.pure ())

theorem failsOnly_showProgram (dump : Dump) : FailsOnly Nameless (showProgram dump printLine) := by
  refine .bind (failsOnly_find dump .program) fun found => ?_
  cases found with
  | none => exact .pure ()
  | some program =>
    refine .bind (.printLine _) fun _ => .bind (failsOnly_summarizeJar program) fun packages => ?_
    refine .bind (.forIn (fun item _ => ?_) packages PUnit.unit) fun _ => .pure ()
    exact .bind (.printLine _) fun _ => .pure _

/-- Showing a dump names no scratch directory. -/
theorem failsOnly_summarize (dump : Dump) : FailsOnly Nameless (summarize dump printLine) := by
  have hrest : FailsOnly Nameless (showPresence dump .library printLine >>= fun _ =>
      showPresence dump .classpath printLine >>= fun _ => showProgram dump printLine) :=
    .bind (failsOnly_showPresence dump .library) fun _ =>
      .bind (failsOnly_showPresence dump .classpath) fun _ => failsOnly_showProgram dump
  refine .bind (failsOnly_version (fun _ h => h.not_namesScratch) dump) fun version => ?_
  cases version with
  | none => exact .printLine _
  | some version =>
    refine .bind (.printLine _) fun _ => ?_
    refine .bind (failsOnly_find dump .buildProperties) fun found => ?_
    cases found with
    | none => exact hrest
    | some file =>
      exact .bind (failsOnly_readText (fun _ h => h.not_namesScratch) file) fun text =>
        .bind (.printLine text) fun _ => hrest

end Dump

end DumpReplay
