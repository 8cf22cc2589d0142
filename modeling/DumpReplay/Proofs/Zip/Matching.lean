import DumpReplay.Proofs.Action.Matching
import DumpReplay.Proofs.Files.Twins
import DumpReplay.Proofs.Zip.Extracting

/-!
# Extractions into twin directories

An archive is extracted into one of two twin directories as it is into the other: the extractions stop
at the same entry with the same fault, if they stop, and the directories stay twins.

Main results:

- `matches_extractEntry` : one entry is extracted into both alike.
- `matches_extract` : so is an archive.
-/

namespace DumpReplay.Zip

open DumpReplay.Action

variable {machine machine' : Machine} {target target' : Path} {rest rest' : FileTree}
variable {names : List String} {failures : Failure → Failure → Prop}

/-- The same place in two directories. -/
def SamePlace (target target' path path' : Path) : Prop :=
  ∃ names, (∀ name ∈ names, Path.IsName name) ∧ path = target.descendant names ∧
    path' = target'.descendant names

/-- Operations on the system are both refused, or both have related values. -/
theorem matches_orIo {α β : Type} {alike : FileTree → FileTree → Prop} {values : α → β → Prop}
    {outcome : Except IoError α} {outcome' : Except IoError β}
    (h : (∃ cause, outcome = .error cause ∧ outcome' = .error cause) ∨
      ∃ value value', outcome = .ok value ∧ outcome' = .ok value' ∧ values value value') :
    Matches machine machine' alike values Eq (orIo outcome) (orIo outcome') := by
  rcases h with ⟨cause, rfl, rfl⟩ | ⟨value, value', rfl, rfl, hvalues⟩
  · exact .fail rfl
  · exact .pure hvalues

theorem matches_orIo_same {α : Type} {alike : FileTree → FileTree → Prop} (outcome : Except IoError α) :
    Matches machine machine' alike Eq Eq (orIo outcome) (orIo outcome) := by
  cases outcome with
  | ok value => exact .pure rfl
  | error cause => exact .fail rfl

/-- No names lead to the directory itself. -/
theorem isName_of_mem_nil : ∀ name ∈ ([] : List String), Path.IsName name := by simp

variable (hwork : machine'.workingDirectory = machine.workingDirectory)
include hwork

/-! ## Operations -/

/-- What a path inside leads to is the same on both sides. -/
theorem matches_status (hnames : ∀ name ∈ names, Path.IsName name) :
    Matches machine machine'
      (FileTree.Twins machine.workingDirectory target target' rest rest') Eq failures
      (look fun files here => files.status here (target.descendant names))
      (look fun files here => files.status here (target'.descendant names)) :=
  .look fun tree tree' htwins => by rw [hwork, htwins.status hnames]

/-- Directories inside are made alike. -/
theorem matches_makeDirectories? (hnames : ∀ name ∈ names, Path.IsName name) :
    Matches machine machine'
      (FileTree.Twins machine.workingDirectory target target' rest rest') Eq failures
      (makeDirectories? (target.descendant names)) (makeDirectories? (target'.descendant names)) := by
  have hlook : Matches machine machine'
      (FileTree.Twins machine.workingDirectory target target' rest rest')
      (fun made made' => made'.1 = made.1 ∧
        FileTree.Twins machine.workingDirectory target target' rest rest' made.2 made'.2) failures
      (look fun files here => files.makeDirectories here (target.descendant names))
      (look fun files here => files.makeDirectories here (target'.descendant names)) :=
    .look fun tree tree' htwins => by
      rw [hwork]
      exact htwins.makeDirectories hnames
  refine .bind hlook ?_
  rintro ⟨outcome, tree⟩ ⟨_, tree'⟩ ⟨rfl, hmade⟩
  exact .bind_eq (.setFiles hmade) fun _ => .pure rfl

/-- Files inside are written alike. -/
theorem matches_write (hnames : ∀ name ∈ names, Path.IsName name) (bytes : ByteArray) :
    Matches machine machine'
      (FileTree.Twins machine.workingDirectory target target' rest rest')
      (fun written written' => (∃ cause, written = .error cause ∧ written' = .error cause) ∨
        ∃ after after', written = .ok after ∧ written' = .ok after' ∧
          FileTree.Twins machine.workingDirectory target target' rest rest' after after')
      failures (look fun files here => files.write here (target.descendant names) bytes)
      (look fun files here => files.write here (target'.descendant names) bytes) :=
  .look fun tree tree' htwins => by
    rw [hwork]
    exact htwins.write hnames bytes

/-- Files inside are marked alike. -/
theorem matches_setExecutable (hnames : ∀ name ∈ names, Path.IsName name) (executable : Bool) :
    Matches machine machine'
      (FileTree.Twins machine.workingDirectory target target' rest rest')
      (FileTree.Twins machine.workingDirectory target target' rest rest') failures
      (look fun files here => files.setExecutable here (target.descendant names) executable)
      (look fun files here => files.setExecutable here (target'.descendant names) executable) :=
  .look fun tree tree' htwins => by
    rw [hwork]
    exact htwins.setExecutable hnames executable

/-! ## Entries -/

/-- The way to an entry is prepared alike. -/
theorem matches_prepare {passed : List String} (hpassed : ∀ name ∈ passed, Path.IsName name)
    (hnames : ∀ name ∈ names, Path.IsName name) :
    Matches machine machine'
      (FileTree.Twins machine.workingDirectory target target' rest rest')
      (fun path path' => path = target.descendant (passed ++ names) ∧
        path' = target'.descendant (passed ++ names)) Eq
      (prepare (target.descendant passed) names) (prepare (target'.descendant passed) names) := by
  induction names generalizing passed with
  | nil =>
    rw [List.append_nil]
    exact .pure ⟨rfl, rfl⟩
  | cons name others ih =>
    obtain ⟨hname, hothers⟩ := List.forall_mem_cons.mp hnames
    have hfurther : ∀ other ∈ passed ++ [name], Path.IsName other := by
      intro other hother
      rcases List.mem_append.mp hother with hbefore | hlast
      · exact hpassed other hbefore
      · rwa [List.mem_singleton.mp hlast]
    have hchild : ∀ directory : Path, (directory.descendant passed).child name =
        directory.descendant (passed ++ [name]) :=
      fun directory => (directory.descendant_append passed [name]).symm
    cases others with
    | nil =>
      unfold prepare
      rw [hchild, hchild]
      refine .bind_eq (matches_status hwork hfurther) fun found => ?_
      split
      · exact .pure ⟨rfl, rfl⟩
      · exact .pure ⟨rfl, rfl⟩
      · exact .fail rfl
    | cons other others =>
      have hinner := ih hfurther hothers
      rw [List.append_assoc, List.singleton_append] at hinner
      unfold prepare
      rw [hchild, hchild]
      refine .bind_eq (matches_status hwork hfurther) fun found => ?_
      split
      · exact hinner
      · refine .bind_eq (matches_makeDirectories? hwork hfurther) fun made => ?_
        exact .bind_eq (matches_orIo_same made) fun _ => hinner
      · exact .fail rfl

/-- The content of an entry is written alike. -/
theorem matches_writeContent (archive : Archive) (entry : Entry)
    (hnames : ∀ name ∈ names, Path.IsName name) :
    Matches machine machine'
      (FileTree.Twins machine.workingDirectory target target' rest rest') Eq Eq
      (writeContent archive entry (target.descendant names))
      (writeContent archive entry (target'.descendant names)) := by
  refine .bind (matches_write hwork hnames _) fun _ _ hlooked => ?_
  refine .bind (matches_orIo hlooked) fun _ _ hwritten => ?_
  exact .bind_eq (.setFiles hwritten) fun _ => .ite (.fail rfl) (.pure rfl)

/-- An entry is extracted alike, to the same place. -/
theorem matches_extractEntry (archive : Archive) (entry : Entry) :
    Matches machine machine'
      (FileTree.Twins machine.workingDirectory target target' rest rest')
      (Option.Rel (SamePlace target target')) Eq (extractEntry archive target entry)
      (extractEntry archive target' entry) := by
  unfold extractEntry
  refine .ite (.fail rfl) (.ite (.fail rfl) ?_)
  split
  · exact .fail rfl
  · rename_i names hnames
    have hisName := Entry.isName_of_names? hnames
    have hprepare : Matches machine machine'
        (FileTree.Twins machine.workingDirectory target target' rest rest')
        (fun path path' => path = target.descendant names ∧ path' = target'.descendant names) Eq
        (prepare target names) (prepare target' names) := matches_prepare hwork isName_of_mem_nil hisName
    refine .bind hprepare ?_
    rintro _ _ ⟨rfl, rfl⟩
    refine .ite ?_ ?_
    · refine .bind_eq (matches_makeDirectories? hwork hisName) fun made => ?_
      exact .bind_eq (matches_orIo_same made) fun _ => .pure .none
    · refine .bind_eq (matches_writeContent hwork archive entry hisName) fun _ => ?_
      exact .pure (.some ⟨names, hisName, rfl, rfl⟩)

/-- Entries are extracted alike, and so are their access rights found. -/
theorem matches_extractEntries (archive : Archive) (entries : List Entry) :
    Matches machine machine'
      (FileTree.Twins machine.workingDirectory target target' rest rest')
      (List.Forall₂ fun made made' => SamePlace target target' made.1 made'.1 ∧ made.2 = made'.2) Eq
      (extractEntries archive target entries) (extractEntries archive target' entries) := by
  induction entries with
  | nil => exact .pure .nil
  | cons entry others ih =>
    refine .bind (matches_extractEntry hwork archive entry) fun made made' hmade => ?_
    refine .bind ih fun files files' hfiles => ?_
    cases hmade with
    | none => exact .pure hfiles
    | some hsame =>
      cases entry.mode with
      | none => exact .pure hfiles
      | some mode => exact .pure (.cons ⟨hsame, rfl⟩ hfiles)

/-- An archive is extracted into twin directories alike, and leaves twins. -/
theorem matches_extract (archive : Archive) :
    Matches machine machine'
      (FileTree.Twins machine.workingDirectory target target' rest rest') Eq Eq
      (extract archive target) (extract archive target') := by
  have hmake : Matches machine machine'
      (FileTree.Twins machine.workingDirectory target target' rest rest') Eq Eq
      (makeDirectories? (target.descendant [])) (makeDirectories? (target'.descendant [])) :=
    matches_makeDirectories? hwork isName_of_mem_nil
  rw [Path.descendant_nil, Path.descendant_nil] at hmake
  refine .bind_eq hmake fun made => .bind_eq (matches_orIo_same made) fun _ => ?_
  refine .bind (matches_extractEntries hwork archive archive.entries) fun files files' hfiles => ?_
  refine .bind_eq (.forIn hfiles ?_) fun _ => .pure rfl
  rintro ⟨_, mode⟩ ⟨_, _⟩ ⟨⟨names, hisName, rfl, rfl⟩, rfl⟩
  refine .bind (matches_setExecutable hwork hisName _) fun _ _ hmarked => ?_
  exact .bind_eq (.setFiles hmarked) fun _ => .pure rfl

end DumpReplay.Zip
