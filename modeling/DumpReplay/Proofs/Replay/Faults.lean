import DumpReplay.Proofs.Dump.Faults
import DumpReplay.Proofs.Replay.Failing

/-!
# What a replay can fail with

Everything that a replay does but the building of class paths fails for reasons of its own: it never
refuses a class path.

Main results:

- `failsOnly_stage`, `failsOnly_distributionFor`, `Jdk.failsOnly_executable`, `failsOnly_runChecked` :
  the steps up to the adapters.
- `failsOnly_adjustRules`, `failsOnly_runCaptured` : the steps up to the compiler.
-/

namespace DumpReplay

open DumpReplay.Action

/-- A failure is unrelated to class paths if it is not that one cannot be built. -/
def Failure.Unrelated (failure : Failure) : Prop :=
  failure ≠ .separatorInClasspath

@[simp] theorem Failure.unrelated_iff {failure : Failure} :
    failure.Unrelated ↔ failure ≠ .separatorInClasspath := Iff.rfl

theorem Failure.unrelated_io (cause : IoError) : (Failure.io cause).Unrelated := by
  simp

/-! ## Files and processes -/

namespace Action

theorem failsOnly_writeText (path : Path) (text : String) :
    FailsOnly Failure.Unrelated (writeText path text) :=
  .bind (.look _) fun written => .bind (.ofIo Failure.unrelated_io written) fun tree => .setFiles tree

theorem failsOnly_makeDirectories (path : Path) :
    FailsOnly Failure.Unrelated (makeDirectories path) :=
  .bind (Zip.failsOnly_makeDirectories? path) fun made => .ofIo Failure.unrelated_io made

theorem failsOnly_makeScratch : FailsOnly Failure.Unrelated makeScratch := by
  intro machine host failure hrun
  unfold makeScratch at hrun
  rw [on_bind_of_ok _ on_read, on_bind_of_ok _ on_get] at hrun
  dsimp only at hrun
  rw [on_bind_of_ok _ on_set] at hrun
  split at hrun
  · rw [on_bind_of_ok _ (on_setFiles _)] at hrun
    exact absurd hrun (by simp)
  · rw [on_fail, Except.error.injEq] at hrun
    exact hrun ▸ Failure.unrelated_io _

theorem failsOnly_runCaptured (command : Command) :
    FailsOnly Failure.Unrelated (runCaptured command) := by
  refine .bind (.inform _) fun _ => .bind (.of_ok fun _ _ => ⟨_, rfl⟩) fun ending => ?_
  cases ending with
  | ok ending => exact .pure _
  | error cause => exact .fail (by simp)

theorem failsOnly_runChecked (command : Command) :
    FailsOnly Failure.Unrelated (runChecked command) :=
  .bind (failsOnly_runCaptured command) fun _ => .ite (.pure _) (.fail (by simp))

end Action

/-! ## Dumps -/

namespace Dump

theorem failsOnly_has (dump : Dump) (artifact : Artifact) {kind : Failure → Prop} :
    FailsOnly kind (dump.has artifact) := by
  unfold has pathExists
  exact .look _

theorem failsOnly_isExtracted (work : Path) {kind : Failure → Prop} :
    FailsOnly kind (isExtracted work) := by
  unfold isExtracted isFile
  exact .look _

theorem failsOnly_extract (source work : Path) (archive : Zip.Archive) (override : Bool) :
    FailsOnly Failure.Unrelated (extract source work archive override) := by
  have hextract : FailsOnly Failure.Unrelated (Zip.extract archive work) :=
    (Zip.failsOnly_extract archive work).mono fun failure ⟨fault, hfault⟩ => by simp [hfault]
  refine .bind (failsOnly_isExtracted work) fun _ => .ite ?_ (.inform _)
  refine .bind (.inform _) fun _ => .bind hextract fun _ => ?_
  exact .bind (failsOnly_isExtracted work) fun _ => .ite (.fail (by simp)) (.pure _)

theorem failsOnly_openIn (source work : Path) (override : Bool) :
    FailsOnly Failure.Unrelated (openIn source work override) := by
  refine .bind (.look _) fun _ => .ite (.pure _) (.bind (.look _) fun bytes => ?_)
  cases bytes with
  | error cause => exact .fail (by simp)
  | ok bytes =>
    refine .bind (.ofExcept fun failure hfailure => ?_) fun archive =>
      .bind (failsOnly_extract source work archive override) fun _ => .pure _
    unfold readArchive at hfailure
    dsimp only at hfailure
    cases harchive : Zip.Archive.ofBytes bytes with
    | ok archive =>
      rw [harchive] at hfailure
      exact absurd hfailure (by simp)
    | error fault =>
      rw [harchive] at hfailure
      rw [← Except.error.inj hfailure]
      simp

theorem failsOnly_warnUnsupported (dump : Dump) {kind : Failure → Prop} :
    FailsOnly kind dump.warnUnsupported := by
  have hhas : ∀ entry : Artifact × String, FailsOnly kind (dump.has entry.1) :=
    fun entry => dump.failsOnly_has entry.1
  have hunsupported : FailsOnly kind dump.unsupportedArtifacts :=
    .bind (.filterM hhas Artifact.unsupported) fun _ => .pure _
  refine .bind hunsupported fun descriptions => ?_
  refine .bind (.forIn (fun _ _ => ?_) descriptions _) fun _ => .pure _
  exact .bind (.warn _) fun _ => .pure _

end Dump

/-! ## Compilers -/

theorem Compiler.unrelated_of_ofName {wanted : String} {failure : Failure}
    (h : ofName wanted = .error failure) : failure.Unrelated := by
  unfold ofName at h
  split at h
  · exact absurd h (by simp)
  · rw [← Except.error.inj h]
    simp

theorem Compiler.unrelated_of_resolve {requested : Option String} {properties : Properties}
    {failure : Failure} (h : resolve requested properties = .error failure) :
    failure.Unrelated := by
  cases requested with
  | some name => exact unrelated_of_ofName h
  | none =>
    unfold resolve ofProperties at h
    dsimp only at h
    split at h
    · rw [← Except.error.inj h]
      simp
    · split at h
      · split at h
        · rw [← Except.error.inj h]
          simp
        · split at h <;> exact absurd h (by simp)
      · exact unrelated_of_ofName h

theorem Invocation.unrelated_of_resolve {request : Request} {properties : Properties} {work : Path}
    {failure : Failure} (h : resolve request properties work = .error failure) :
    failure.Unrelated := by
  unfold resolve at h
  cases hcompiler : Compiler.resolve request.compiler properties with
  | ok compiler =>
    rw [hcompiler] at h
    exact absurd h (by simp [Except.map])
  | error cause =>
    rw [hcompiler] at h
    exact Except.error.inj h ▸ Compiler.unrelated_of_resolve hcompiler

theorem Jdk.failsOnly_executable (jdk : Jdk) (program : String) :
    FailsOnly Failure.Unrelated (jdk.executable program) := by
  unfold executable
  split
  · exact .bind (.look _) fun _ => .ite (.pure _) (.fail (by simp))
  · refine .bind (.of_ok fun _ _ => ⟨_, rfl⟩) fun machine => ?_
    refine .bind (.of_ok fun _ _ => ⟨_, rfl⟩) fun files => ?_
    dsimp only
    split
    · exact .pure _
    · exact .fail (by simp)

namespace Distribution

theorem failsOnly_verify (distribution : Distribution) :
    FailsOnly Failure.Unrelated distribution.verify := by
  cases distribution with
  | jar file => exact .bind (.look _) fun _ => .ite (.fail (by simp)) (.pure _)
  | classpath entries => exact .pure ()

theorem failsOnly_fetch (version : Version) (plain : Bool) (work : Path) (tools : Toolchain) :
    FailsOnly Failure.Unrelated (fetch version plain work tools) := by
  unfold fetch
  dsimp only
  split
  · exact .fail (by simp)
  · refine .bind (.attempt _) fun fetched => ?_
    cases fetched with
    | ok value => exact .pure _
    | error cause => exact .fail (by simp)

theorem failsOnly_acquire (version : Version) (plain : Bool) (work : Path) (tools : Toolchain) :
    FailsOnly Failure.Unrelated (acquire version plain work tools) := by
  have htold : ∀ distribution : Distribution, FailsOnly Failure.Unrelated (do
      Action.inform ("Using distribution: " ++ distribution.shown)
      return distribution) := fun _ => .bind (.inform _) fun _ => .pure _
  unfold acquire
  cases version with
  | main => exact .bind (.pure _) htold
  | source => exact .bind (.pure _) htold
  | hash digits => exact .bind (failsOnly_fetch _ _ work tools) htold
  | release name => exact .bind (failsOnly_fetch _ _ work tools) htold

end Distribution

/-! ## The steps of a replay -/

namespace Replay

theorem failsOnly_enter (directory : Option Path) :
    FailsOnly Failure.Unrelated (enter directory) := by
  cases directory with
  | none => exact .bind failsOnly_makeScratch fun _ => .pure _
  | some directory => exact .bind (failsOnly_makeDirectories directory) fun _ => .pure _

theorem failsOnly_propertiesOf (dump : Dump) :
    FailsOnly Failure.Unrelated (propertiesOf dump) := by
  refine .bind (Dump.failsOnly_find dump .buildProperties) fun found => ?_
  cases found with
  | none => exact .pure _
  | some file =>
    refine .bind (Dump.failsOnly_readText (fun _ _ => Failure.unrelated_io _) file) fun content => ?_
    exact .bind (.forIn (fun _ _ => .bind (.warn _) fun _ => .pure _) _ _) fun _ => .pure _

theorem failsOnly_versionOf (requested : Option String) (dump : Dump) :
    FailsOnly Failure.Unrelated (versionOf requested dump) := by
  cases requested with
  | none => exact .bind (Dump.failsOnly_version (fun _ _ => Failure.unrelated_io _) dump) fun _ => .pure _
  | some token => exact .pure _

theorem failsOnly_decideFor (options : Options) (work : Path) (dump : Dump) :
    FailsOnly Failure.Unrelated (decideFor options work dump) := by
  refine .bind (dump.failsOnly_has .program) fun _ => .ite (.bind (.fail (by simp)) fun _ => ?_) ?_
  all_goals
    refine .bind (dump.failsOnly_has .library) fun _ => .ite (.bind (.warn _) fun _ => ?_) ?_
  all_goals
    refine .bind dump.failsOnly_warnUnsupported fun _ => .bind (failsOnly_propertiesOf dump) fun _ => ?_
    refine .bind (failsOnly_versionOf _ dump) fun _ => .bind (.ofExcept fun failure hfailure => ?_)
      fun _ => .pure _
    exact Invocation.unrelated_of_resolve hfailure

theorem failsOnly_stage (options : Options) (work : Path) :
    FailsOnly Failure.Unrelated (stage options work) := by
  rw [stage_eq]
  split
  · exact .fail (by simp)
  · exact .bind (Dump.failsOnly_openIn _ _ _) fun dump => failsOnly_decideFor options work dump

theorem failsOnly_distributionFor (options : Options) (version : Option Version) (work : Path)
    (tools : Toolchain) :
    FailsOnly Failure.Unrelated (distributionFor options version work tools) := by
  have hverify : ∀ distribution : Distribution,
      FailsOnly Failure.Unrelated (do distribution.verify; return distribution) := fun distribution =>
    .bind distribution.failsOnly_verify fun _ => .pure _
  unfold distributionFor
  split
  · exact .bind (.pure _) hverify
  · exact .bind (Distribution.failsOnly_acquire _ _ work tools) hverify
  · exact .bind (.fail (by simp)) hverify

theorem failsOnly_warnOfDebugger (options : Options) {kind : Failure → Prop} :
    FailsOnly kind (warnOfDebugger options) :=
  .ite (.warn _) (.pure _)

theorem failsOnly_adjustRules (file : Path) (toggles : Shrinker.Toggles) :
    FailsOnly Failure.Unrelated (adjustRules file toggles) := by
  refine .bind (Dump.failsOnly_readText (fun _ _ => Failure.unrelated_io _) file) fun content => ?_
  refine .bind (.forIn (fun _ _ => .bind (.inform _) fun _ => .pure _) _ _) fun _ => ?_
  refine .bind (.forIn (fun _ _ => .bind (.inform _) fun _ => .pure _) _ _) fun _ => ?_
  exact .bind (failsOnly_writeText file _) fun _ => .pure _

end Replay

end DumpReplay
