import DumpReplay.Proofs.Action.Scratching
import DumpReplay.Proofs.Replay.Changing
import DumpReplay.Proofs.Replay.Course

/-!
# Entering and leaving the work directory

A replay makes its work directory with the directories on the way to it, as far as they are missing.
It leaves a directory that was given as it is then, and removes one that it made for itself.

Main results:

- `entered` : what entering the work directory changes.
- `files_of_entered` : the files that a replay leaves are those of the part that follows the entering,
  without a scratch directory.
-/

namespace DumpReplay

open DumpReplay.Action

/-- A host is sound on a machine if whatever stands somewhere stands in a directory, and if the
directory that relative paths start from is told by names. -/
structure Host.Sound (machine : Machine) (host : Host) : Prop where
  rooted : host.files.Rooted
  named : ∀ name ∈ machine.workingDirectory, Path.IsName name

namespace Replay

variable {directory : Option Path} {work : Path} {options : Options} {tools : Toolchain}
variable {hooks : Hooks} {machine : Machine} {host start after : Host} {location : Location}

/-- What entering the work directory changes: directories are made on the way to it, which is paved
then.  A scratch directory is new. -/
structure Entered (directory : Option Path) (machine : Machine) (host : Host) (work : Path)
    (start : Host) : Prop where
  edited : FileTree.Edited (work.Way machine.workingDirectory) (fun _ => False) host.files start.files
  paved : work.text = "" ∨ start.files.Paved machine.workingDirectory work
  given : ∀ path, directory = some path → work = path
  new : directory = none → work.text ≠ "" ∧
    host.files.get? (work.location machine.workingDirectory) = none ∧
    start.files = host.files.insert (work.location machine.workingDirectory) .directory

/-- A work directory that is entered is made, with those on the way to it. -/
theorem entered (hsound : host.Sound machine)
    (h : (enter directory).on machine host = (.ok work, start)) :
    Entered directory machine host work start := by
  cases directory with
  | some directory =>
    obtain ⟨⟨⟩, middle, hmade, hpure⟩ := on_bind_eq_ok.mp h
    obtain ⟨hwork, rfl⟩ := Prod.mk.inj hpure
    obtain rfl := Except.ok.inj hwork
    rcases hmake : host.files.makeDirectories machine.workingDirectory directory with
      ⟨result, tree⟩
    have hedited := FileTree.edited_makeDirectories (fun _ => False) (fun _ hway => hway) hmake
    unfold makeDirectories at hmade
    rw [on_bind_of_ok _ (Zip.on_makeDirectories? directory machine host), hmake, on_ofIo] at hmade
    obtain ⟨hresult, rfl⟩ := Prod.mk.inj hmade
    refine ⟨hedited, ?_, fun path hpath => Option.some.inj hpath, by simp⟩
    cases result with
    | error cause => exact absurd hresult (by simp)
    | ok value =>
      have hthere := (FileTree.makeDirectories_spec (fun _ => False) hmake).2.mp rfl
      exact hthere.imp_right (hedited.rooted hsound.rooted).paved
  | none =>
    obtain ⟨⟨path, location⟩, middle, hmade, hpure⟩ := on_bind_eq_ok.mp h
    obtain ⟨hwork, rfl⟩ := Prod.mk.inj hpure
    obtain rfl := Except.ok.inj hwork
    obtain ⟨hlocate, hfree, hfiles⟩ := scratchIn_eq_ok hsound.named (makeScratch_eq_ok hmade).2
    obtain ⟨_, hempty, _, hdescend⟩ := FileTree.locate_eq_ok_iff.mp hlocate
    have hlocation := FileTree.location_of_locate hlocate
    have hedited : FileTree.Edited (path.Way machine.workingDirectory) (fun _ => False) host.files
        middle.files := by
      rw [hfiles]
      refine .single (.make location ?_ (fun hrooted => ?_) hfree)
      · rw [hlocation]
        exact path.way_location _
      · exact hrooted.get?_dropLast_of_descend path.segments_ne_nil hdescend
    refine ⟨hedited, .inr ?_, by simp, fun _ => ?_⟩
    · refine (hedited.rooted hsound.rooted).paved (FileTree.hasDirectory_iff.mpr ?_)
      refine FileTree.status_eq_ok_iff.mpr ⟨location, ?_, ?_⟩
      · rw [hfiles]
        exact (FileTree.grows_insert (fun _ => False) .directory hfree).locate hlocate
      · rw [hfiles]
        exact FileTree.get?_insert_self _ _ (FileTree.ne_nil_of_get?_eq_none hfree)
    · rw [← hlocation]
      exact ⟨hempty, hfree, hfiles⟩

/-- A work directory that cannot be entered leaves directories on the way to it at most. -/
theorem edited_of_not_entered {failure : Failure}
    (h : (enter directory).on machine host = (.error failure, after)) :
    FileTree.Edited
      (fun location => ∃ work, directory = some work ∧ work.Way machine.workingDirectory location)
      (fun _ => False) host.files after.files := by
  cases directory with
  | some directory =>
    rcases on_bind_eq_error.mp h with hmade | ⟨_, _, _, hpure⟩
    · unfold makeDirectories at hmade
      rw [on_bind_of_ok _ (Zip.on_makeDirectories? directory machine host), on_ofIo] at hmade
      obtain ⟨_, rfl⟩ := Prod.mk.inj hmade
      exact FileTree.edited_makeDirectories (fun _ => False)
        (fun location hway => ⟨directory, rfl, hway⟩) rfl
    · simp at hpure
  | none =>
    rcases on_bind_eq_error.mp h with hmade | ⟨_, _, _, hpure⟩
    · rw [files_of_makeScratch_error hmade]
    · simp at hpure

/-- The files that a replay leaves, given those that the part of it leaves that follows the entering
of the work directory. -/
def leave (directory : Option Path) (machine : Machine) (work : Path) (tree : FileTree) :
    FileTree :=
  match directory with
  | some _ => tree
  | none => tree.removeBelow (work.location machine.workingDirectory)

/-- Where at most a directory was made on the way to the work directory when it is left, it was on the
way to one that was given. -/
theorem Entered.onlyMade (e : Entered directory machine host work start)
    (hrooted : host.files.Rooted) {tree : FileTree}
    (h : FileTree.OnlyMade (work.Way machine.workingDirectory) host.files tree location) :
    FileTree.OnlyMade
      (fun location => ∃ work, directory = some work ∧ work.Way machine.workingDirectory location)
      host.files (leave directory machine work tree) location := by
  cases directory with
  | some given =>
    have hgiven := e.given given rfl
    exact h.mono fun hway => ⟨given, rfl, hgiven ▸ hway⟩
  | none =>
    obtain ⟨hempty, hfree, hfiles⟩ := e.new rfl
    have hroot := FileTree.ne_nil_of_get?_eq_none hfree
    by_cases hbelow : work.location machine.workingDirectory <+: location
    · -- All of the scratch directory is removed, and nothing stood there.
      left
      rw [leave, FileTree.get?_removeBelow _ _ _ (by rintro rfl; exact hroot (List.prefix_nil.mp hbelow)),
        if_pos (List.isPrefixOf_iff_prefix.mpr hbelow), hrooted.get?_eq_none hfree hbelow]
    · rw [leave, FileTree.OnlyMade, FileTree.get?_removeBelow_of_apart _ hbelow]
      refine .inl (h.resolve_right ?_)
      -- The other directories on the way to the scratch directory stood there before.
      rintro ⟨hway, hnone, _⟩
      have hopen := ((e.paved.resolve_left hempty).isOpen _ hway).get?_eq
      rw [hfiles, FileTree.get?_insert_of_ne _ _ hroot
        (by rintro rfl; exact hbelow List.prefix_rfl), hnone] at hopen
      exact absurd hopen (by simp)

/-- What stands where something stood before a replay stays when the work directory is left. -/
theorem Entered.leave_get? (e : Entered directory machine host work start)
    (hrooted : host.files.Rooted) {tree : FileTree} (hstands : host.files.get? location ≠ none) :
    (leave directory machine work tree).get? location = tree.get? location := by
  cases directory with
  | some given => rfl
  | none =>
    obtain ⟨_, hfree, _⟩ := e.new rfl
    exact FileTree.get?_removeBelow_of_apart _ fun hbelow =>
      hstands (hrooted.get?_eq_none hfree hbelow)

/-- A way that was paved before a replay is not broken when the work directory is left. -/
theorem Entered.leave_paved (e : Entered directory machine host work start) {path : Path}
    {tree : FileTree} (hhost : host.files.Paved machine.workingDirectory path)
    (htree : tree.Paved machine.workingDirectory path) :
    (leave directory machine work tree).Paved machine.workingDirectory path := by
  cases directory with
  | some given => exact htree
  | none =>
    obtain ⟨_, hfree, _⟩ := e.new rfl
    refine htree.of_isOpen fun passed hpassed hopen above habove => ?_
    -- The scratch directory is new, so that it is not on the way.
    have hold := hhost.isOpen passed hpassed
    rw [leave, FileTree.get?_removeBelow_of_apart, hopen above habove]
    intro hbelow
    rw [hold _ (hbelow.trans habove)] at hfree
    exact absurd hfree (by simp)

/-- A replay leaves the files that the part of it leaves that follows the entering of the work
directory, without a scratch directory. -/
theorem files_of_entered (options : Options) (tools : Toolchain) (hooks : Hooks)
    (hsound : host.Sound machine)
    (h : (enter directory).on machine host = (.ok work, start)) :
    ((run directory options tools hooks).on machine host).2.files =
      leave directory machine work ((runIn work options tools hooks).on machine start).2.files := by
  cases directory with
  | some directory =>
    obtain ⟨⟨⟩, middle, hmade, hpure⟩ := on_bind_eq_ok.mp h
    obtain ⟨hwork, rfl⟩ := Prod.mk.inj hpure
    obtain rfl := Except.ok.inj hwork
    unfold run
    dsimp only
    rw [on_bind_of_ok _ hmade]
    rfl
  | none =>
    obtain ⟨⟨path, location⟩, middle, hmade, hpure⟩ := on_bind_eq_ok.mp h
    obtain ⟨hwork, rfl⟩ := Prod.mk.inj hpure
    obtain rfl := Except.ok.inj hwork
    have hlocate := (scratchIn_eq_ok hsound.named (makeScratch_eq_ok hmade).2).1
    unfold run
    dsimp only
    rw [on_withScratch, hmade, FileTree.location_of_locate hlocate]
    rfl

/-- A replay that has entered its work directory ends as the part of it does that follows. -/
theorem runIn_of_run {outcome : Except Failure Status} (hsound : host.Sound machine)
    (hentered : (enter directory).on machine host = (.ok work, start))
    (h : (run directory options tools hooks).on machine host = (outcome, after)) :
    ∃ ended, (runIn work options tools hooks).on machine start = (outcome, ended) ∧
      after.files = leave directory machine work ended.files := by
  have houtcome := (run_of_entered options tools hooks hentered).1
  have hfiles := files_of_entered options tools hooks hsound hentered
  rw [h] at houtcome hfiles
  rcases hrun : (runIn work options tools hooks).on machine start with ⟨same, ended⟩
  rw [hrun] at houtcome hfiles
  exact ⟨ended, by rw [show same = outcome from houtcome.symm], hfiles⟩

end Replay

end DumpReplay
