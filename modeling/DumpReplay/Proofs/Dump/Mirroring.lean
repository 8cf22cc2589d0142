import DumpReplay.Dump.Summary
import DumpReplay.Proofs.Action.Matching
import DumpReplay.Proofs.Dump.Site

/-!
# Dumps that mirror each other

Two dumps, each in trees of its own, mirror each other if each of the files that a dump can hold is in
both or in neither, and reads the same where it is found.  Everything that is shown of the dumps and
decided for them is then the same: nothing tells where the dump is.

Main results:

- `Mirrors.matches_summarize` : the same is shown of both.
- `Mirrors.matches_decideFor` : the same is decided for both, but for where the dump is.
-/

namespace DumpReplay

open DumpReplay.Action

namespace Dump

/-- Two paths read the same in any alike trees. -/
def ReadAlike (here : Location) (alike : FileTree → FileTree → Prop) (path path' : Path) : Prop :=
  ∀ tree tree', alike tree tree' → tree'.read here path' = tree.read here path

/-- The files that two dumps can hold are found in both or in neither, in any alike trees, and those
that are found read the same. -/
structure Mirrors (here : Location) (alike : FileTree → FileTree → Prop) (dump dump' : Dump) : Prop where
  has : ∀ name, IsPart name → ∀ tree tree', alike tree tree' →
    tree'.has here (dump'.directory.child name) = tree.has here (dump.directory.child name)
  read : ∀ name, IsPart name → ∀ tree tree', alike tree tree' →
    tree.has here (dump.directory.child name) = true →
      ReadAlike here alike (dump.directory.child name) (dump'.directory.child name)

variable {here : Location} {dump dump' : Dump} {machine machine' : Machine}
variable {alike : FileTree → FileTree → Prop}

/-- Where the same stands under each name, the dumps mirror each other. -/
theorem Mirrors.of_status (h : ∀ name, IsPart name → ∀ tree tree', alike tree tree' →
    tree'.status here (dump'.directory.child name) = tree.status here (dump.directory.child name)) :
    Mirrors here alike dump dump' := by
  refine ⟨fun name hname tree tree' halike => ?_, fun name hname _ _ _ _ tree tree' halike => ?_⟩
  · rw [FileTree.has, FileTree.has, h name hname _ _ halike]
  · rw [FileTree.read, FileTree.read, h name hname _ _ halike]

/-- Show the packages of the program of a dump. -/
def showProgram (dump : Dump) (out : Sink) : Action Unit := do
  match ← dump.find .program with
  | some program =>
    out (Artifact.program.fileName ++ " content:")
    for (package, count) in ← summarizeJar program do
      out ("  " ++ package ++ ": " ++ toString count)
  | none => pure ()

/-- An artifact is found in neither of two dumps, or in both, where it reads the same. -/
def FoundAlike (here : Location) (alike : FileTree → FileTree → Prop) (found found' : Option Path) :
    Prop :=
  (found = none ∧ found' = none) ∨
    ∃ file file', found = some file ∧ found' = some file' ∧ ReadAlike here alike file file'

variable (hwork : machine'.workingDirectory = machine.workingDirectory)
include hwork

/-! ## Reading -/

theorem matches_readBytes? {failures : Failure → Failure → Prop} {file file' : Path}
    (hread : ReadAlike machine.workingDirectory alike file file') :
    Matches machine machine' alike Eq failures (readBytes? file) (readBytes? file') := by
  unfold readBytes?
  refine .look fun tree tree' halike => ?_
  rw [hwork, hread _ _ halike]

theorem matches_readText {file file' : Path}
    (hread : ReadAlike machine.workingDirectory alike file file') :
    Matches machine machine' alike Eq Eq (readText file) (readText file') := by
  refine .bind_eq (.bind_eq (matches_readBytes? hwork hread) fun bytes => ?_) fun text =>
    .ofIo_same text
  cases bytes with
  | error cause => exact .pure rfl
  | ok bytes =>
    dsimp only
    split <;> exact .pure rfl

/-- The packages of jars that read the same are the same. -/
theorem matches_summarizeJar {file file' : Path}
    (hread : ReadAlike machine.workingDirectory alike file file') :
    Matches machine machine' alike Eq Eq (summarizeJar file) (summarizeJar file') :=
  .bind_eq (matches_readBytes? hwork hread) fun bytes =>
    .bind_eq (.ofExcept_same (readArchive bytes)) fun _ => .pure rfl

namespace Mirrors

variable (hmirrors : Mirrors machine.workingDirectory alike dump dump')
include hmirrors

theorem matches_has {failures : Failure → Failure → Prop} (artifact : Artifact) :
    Matches machine machine' alike Eq failures (dump.has artifact) (dump'.has artifact) := by
  unfold Dump.has pathExists
  refine .look fun tree tree' halike => ?_
  rw [hwork, path, path, hmirrors.has _ (isPart_fileName artifact) _ _ halike]

theorem matches_find {failures : Failure → Failure → Prop} (artifact : Artifact) :
    Matches machine machine' alike (FoundAlike machine.workingDirectory alike) failures
      (dump.find artifact) (dump'.find artifact) := by
  have hfound : Matches machine machine' alike (fun present present' => present = present' ∧ (present = true →
      ReadAlike machine.workingDirectory alike (dump.path artifact) (dump'.path artifact))) failures
      (pathExists (dump.path artifact)) (pathExists (dump'.path artifact)) := by
    refine .look fun tree tree' halike => ⟨?_, fun hhas => ?_⟩
    · rw [hwork, path, path, hmirrors.has _ (isPart_fileName artifact) _ _ halike]
    · exact hmirrors.read _ (isPart_fileName artifact) _ _ halike hhas
  refine .bind hfound ?_
  rintro present _ ⟨rfl, hread⟩
  cases present with
  | false => exact .pure (.inl ⟨rfl, rfl⟩)
  | true => exact .pure (.inr ⟨_, _, rfl, rfl, hread rfl⟩)

theorem matches_version : Matches machine machine' alike Eq Eq dump.version dump'.version := by
  refine .bind (matches_find hwork hmirrors .version) ?_
  rintro _ _ (⟨rfl, rfl⟩ | ⟨file, file', rfl, rfl, hread⟩)
  · exact .pure rfl
  · exact .bind_eq (matches_readText hwork hread) fun _ => .pure rfl

/-! ## Summaries -/

/-- Whether an archive is there is shown alike. -/
theorem matches_showPresence (artifact : Artifact) :
    Matches machine machine' alike Eq Eq (showPresence dump artifact printLine)
      (showPresence dump' artifact printLine) :=
  .bind_eq (matches_has hwork hmirrors artifact) fun _ => .ite (.printLine _) (.pure rfl)

/-- The packages of the program are shown alike. -/
theorem matches_showProgram :
    Matches machine machine' alike Eq Eq (showProgram dump printLine) (showProgram dump' printLine) := by
  refine .bind (matches_find hwork hmirrors .program) ?_
  rintro _ _ (⟨rfl, rfl⟩ | ⟨file, file', rfl, rfl, hread⟩)
  · exact .pure rfl
  · refine .bind_eq (.printLine _) fun _ => ?_
    refine .bind_eq (matches_summarizeJar hwork hread) fun packages => ?_
    refine .bind_eq (.forIn_same fun item => ?_) fun _ => .pure rfl
    exact .bind_eq (.printLine _) fun _ => .pure rfl

/-- The same is shown of dumps that mirror each other. -/
theorem matches_summarize :
    Matches machine machine' alike Eq Eq (summarize dump printLine) (summarize dump' printLine) := by
  have hrest : ∀ _ : Unit, Matches machine machine' alike Eq Eq
      (showPresence dump .library printLine >>= fun _ =>
        showPresence dump .classpath printLine >>= fun _ => showProgram dump printLine)
      (showPresence dump' .library printLine >>= fun _ =>
        showPresence dump' .classpath printLine >>= fun _ => showProgram dump' printLine) := fun _ =>
    .bind_eq (matches_showPresence hwork hmirrors .library) fun _ =>
      .bind_eq (matches_showPresence hwork hmirrors .classpath) fun _ =>
        matches_showProgram hwork hmirrors
  refine .bind_eq (matches_version hwork hmirrors) fun version => ?_
  cases version with
  | none => exact .printLine _
  | some version =>
    refine .bind_eq (.printLine _) fun _ => ?_
    refine .bind (matches_find hwork hmirrors .buildProperties) ?_
    rintro _ _ (⟨rfl, rfl⟩ | ⟨file, file', rfl, rfl, hread⟩)
    · exact hrest ()
    · refine .bind_eq (matches_readText hwork hread) fun text => ?_
      exact .bind_eq (.printLine _) hrest

end Mirrors

end Dump

/-! ## Staging -/

namespace Replay

/-- Decide the values of a replay, behind the look at the program and the library. -/
def decideFound (options : Options) (work : Path) (dump : Dump) : Action Staged := do
  dump.warnUnsupported
  let properties ← propertiesOf dump
  let version ← versionOf options.version dump
  let invocation ← Action.ofExcept
    (Invocation.resolve options.invocationRequest properties work)
  return ⟨dump, properties, version, invocation⟩

variable {dump dump' : Dump} {machine machine' : Machine} {alike : FileTree → FileTree → Prop}
variable (hwork : machine'.workingDirectory = machine.workingDirectory)
variable (hmirrors : Dump.Mirrors machine.workingDirectory alike dump dump')
include hwork hmirrors

theorem matches_warnUnsupported :
    Matches machine machine' alike Eq Eq dump.warnUnsupported dump'.warnUnsupported := by
  have hhas : ∀ entry : Artifact × String,
      Matches machine machine' alike Eq Eq (dump.has entry.1) (dump'.has entry.1) :=
    fun entry => Dump.Mirrors.matches_has hwork hmirrors entry.1
  have hpresent : Matches machine machine' alike Eq Eq dump.unsupportedArtifacts
      dump'.unsupportedArtifacts :=
    .bind_eq (.filterM hhas Artifact.unsupported) fun _ => .pure rfl
  refine .bind_eq hpresent fun descriptions => ?_
  refine .bind_eq (.forIn_same fun description => ?_) fun _ => .pure rfl
  exact .bind_eq (.record _ _ _ _) fun _ => .pure rfl

theorem matches_propertiesOf :
    Matches machine machine' alike Eq Eq (propertiesOf dump) (propertiesOf dump') := by
  refine .bind (Dump.Mirrors.matches_find hwork hmirrors .buildProperties) ?_
  rintro _ _ (⟨rfl, rfl⟩ | ⟨file, file', rfl, rfl, hread⟩)
  · exact .pure rfl
  · refine .bind_eq (Dump.matches_readText hwork hread) fun content => ?_
    refine .bind_eq (.forIn_same fun line => ?_) fun _ => .pure rfl
    exact .bind_eq (.record _ _ _ _) fun _ => .pure rfl

theorem matches_versionOf (requested : Option String) :
    Matches machine machine' alike Eq Eq (versionOf requested dump) (versionOf requested dump') := by
  cases requested with
  | none => exact .bind_eq (Dump.Mirrors.matches_version hwork hmirrors) fun _ => .pure rfl
  | some token => exact .pure rfl

/-- The same is decided for dumps that mirror each other, but for where the dump is. -/
theorem matches_decideFor (options : Options) (work : Path) :
    Matches machine machine' alike
      (fun staged staged' => staged.dump = dump ∧ staged' = { staged with dump := dump' }) Eq
      (decideFor options work dump) (decideFor options work dump') := by
  have hfound : Matches machine machine' alike
      (fun staged staged' => staged.dump = dump ∧ staged' = { staged with dump := dump' }) Eq
      (decideFound options work dump) (decideFound options work dump') := by
    refine .bind_eq (matches_warnUnsupported hwork hmirrors) fun _ => ?_
    refine .bind_eq (matches_propertiesOf hwork hmirrors) fun properties => ?_
    refine .bind_eq (matches_versionOf hwork hmirrors _) fun version => ?_
    exact .bind_eq (.ofExcept_same _) fun invocation => .pure ⟨rfl, rfl⟩
  refine .bind_eq (Dump.Mirrors.matches_has hwork hmirrors .program) fun _ =>
    .ite (.bind_eq (.fail rfl) fun _ => ?_) ?_
  all_goals
    exact .bind_eq (Dump.Mirrors.matches_has hwork hmirrors .library) fun _ =>
      .ite (.bind_eq (.record _ _ _ _) fun _ => hfound) hfound

end Replay

end DumpReplay
