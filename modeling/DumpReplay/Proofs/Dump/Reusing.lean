import DumpReplay.Proofs.Dump.Alike
import DumpReplay.Proofs.Dump.Reopening

/-!
# Opening a dump again

A dump that was opened once is opened as the same dump later on, if it is kept: a directory still is
one, and an extraction that is marked is reused.

Main results:

- `opened_of_openIn` : how a dump is opened.
- `Opened.paved` : the way to a dump that is opened is paved.
- `Opened.again_directory`, `Opened.again_archive` : a dump that is kept is opened as the same dump.
-/

namespace DumpReplay.Dump

open DumpReplay.Action

variable {machine : Machine} {here : Location} {source work : Path} {override : Bool}
variable {dump : Dump} {before after later last : FileTree}

/-! ## How a dump is opened -/

/-- How a dump is opened, and what opening it leaves. -/
inductive Opened (machine : Machine) (source work : Path) (override : Bool) (before : FileTree) :
    Dump → FileTree → Prop
  /-- A directory is opened as it is. -/
  | directory (hdirectory : before.hasDirectory machine.workingDirectory source = true) :
      Opened machine source work override before ⟨source⟩ before
  /-- An archive is opened by way of the work directory, where it is extracted unless that was done
  before. -/
  | archive {after : FileTree} (hfile : before.hasFile machine.workingDirectory source = true)
      (hgrows : FileTree.Grows (fun _ => True) before after)
      (hmarked : isMarked machine work after = true)
      (hreused : override = false → isMarked machine work before = true → after = before) :
      Opened machine source work override before ⟨work⟩ after

theorem hasFile_of_holds {archive : Zip.Archive} (h : Holds machine source archive before) :
    before.hasFile machine.workingDirectory source = true := by
  obtain ⟨bytes, hread, _⟩ := h
  obtain ⟨executable, hstatus⟩ := FileTree.read_eq_ok_iff.mp hread
  exact FileTree.hasFile_iff.mpr ⟨bytes, executable, hstatus⟩

/-- An archive can be read from a path that is opened but leads to no directory. -/
theorem holds_of_openIn {host behind : Host}
    (hnot : host.files.hasDirectory machine.workingDirectory source = false)
    (h : (openIn source work override).on machine host = (.ok dump, behind)) :
    ∃ archive, Holds machine source archive host.files := by
  unfold openIn isDirectory readBytes? at h
  rw [on_bind_of_ok _ (on_look _), hnot, if_neg Bool.false_ne_true, on_bind_of_ok _ (on_look _)] at h
  cases hread : host.files.read machine.workingDirectory source with
  | error cause =>
    rw [hread] at h
    exact absurd (Prod.mk.inj h).1 (by simp)
  | ok bytes =>
    rw [hread] at h
    obtain ⟨archive, _, harchive, _⟩ := on_bind_eq_ok.mp h
    rw [on_ofExcept, Prod.mk.injEq, readArchive] at harchive
    cases hbytes : Zip.Archive.ofBytes bytes with
    | error fault =>
      rw [hbytes] at harchive
      exact absurd harchive.1 (by simp)
    | ok archive => exact ⟨archive, bytes, hread, hbytes⟩

/-- A dump is opened as a directory, or as an archive. -/
theorem opened_of_openIn {host behind : Host}
    (h : (openIn source work override).on machine host = (.ok dump, behind)) :
    Opened machine source work override host.files dump behind.files := by
  cases hdirectory : host.files.hasDirectory machine.workingDirectory source with
  | true =>
    rw [openIn_of_hasDirectory hdirectory work override] at h
    obtain ⟨hdump, rfl⟩ := Prod.mk.inj h
    rw [← Except.ok.inj hdump]
    exact .directory hdirectory
  | false =>
    obtain ⟨archive, hholds⟩ := holds_of_openIn hdirectory h
    have hwork : dump = ⟨work⟩ := by
      have hopen := h
      rw [openIn_eq hholds] at hopen
      obtain ⟨_, _, _, hdump⟩ := on_bind_eq_ok.mp hopen
      exact (Except.ok.inj (Prod.mk.inj hdump).1).symm
    rw [hwork]
    by_cases hextracts : override = true ∨ isMarked machine work host.files = false
    · obtain ⟨hgrows, hmarked, _⟩ := openIn_of_extracts hholds hextracts h
      refine .archive (hasFile_of_holds hholds) (hgrows.mono fun _ _ => True.intro)
        (hmarked ⟨dump, rfl⟩) fun hkeep hbefore => ?_
      rw [hkeep, hbefore] at hextracts
      exact absurd hextracts (by simp)
    · rw [not_or, Bool.not_eq_true, Bool.not_eq_false] at hextracts
      rw [hextracts.1] at h
      have hsame := (openIn_of_reuses hholds hextracts.2 h).2
      rw [hsame]
      exact .archive (hasFile_of_holds hholds) (.refl _ _) hextracts.2 fun _ _ => rfl

/-- The way to a dump that is opened is paved. -/
theorem Opened.paved (h : Opened machine source work override before dump after)
    (hrooted : after.Rooted) : after.Paved machine.workingDirectory dump.directory := by
  cases h with
  | directory hdirectory => exact hrooted.paved hdirectory
  | archive _ _ hmarked _ =>
    obtain ⟨bytes, executable, hstatus⟩ := FileTree.hasFile_iff.mp hmarked
    exact hrooted.paved_of_status_child (Artifact.isName_fileName .version) hstatus

/-- What is opened is a directory or a file. -/
theorem Opened.source_cases (h : Opened machine source work override before dump after) :
    before.hasDirectory machine.workingDirectory source = true ∨
      before.hasFile machine.workingDirectory source = true := by
  cases h with
  | directory hdirectory => exact .inl hdirectory
  | archive hfile _ _ _ => exact .inr hfile

/-- A file is opened by way of the work directory, which is marked then. -/
theorem Opened.of_hasFile (h : Opened machine source work override before dump after)
    (hfile : before.hasFile machine.workingDirectory source = true) :
    dump = ⟨work⟩ ∧ before.Grows (fun _ => True) after ∧ isMarked machine work after = true := by
  cases h with
  | directory hdirectory =>
    rw [FileTree.hasDirectory_of_hasFile hfile] at hdirectory
    exact absurd hdirectory (by simp)
  | archive _ hgrows hmarked _ => exact ⟨rfl, hgrows, hmarked⟩

/-! ## A dump that is kept -/

/-- A dump that looks alike has the version file as it had it. -/
theorem Alike.isMarked_eq (h : (Dump.mk work).Alike machine.workingDirectory before after) :
    isMarked machine work after = isMarked machine work before := by
  have hname := Artifact.isName_fileName .version
  rw [Bool.eq_iff_iff, isMarked, isMarked, FileTree.hasFile_iff, FileTree.hasFile_iff]
  unfold path
  simp only [h.paved.status_child hname, h.still.status_child hname, Path.location_child hname,
    h.part _ (isPart_fileName .version) (by decide)]

/-- A dump is kept where nothing is changed of the places that it takes. -/
theorem kept_of_site (h : ∀ location, dump.Site here location →
      after.get? location = before.get? location)
    (hpaved : before.Paved here dump.directory) : dump.Kept here before after := by
  refine ⟨hpaved, hpaved.of_isOpen fun passed hpassed hopen above habove => ?_, fun name hname => ?_⟩
  · rw [h above (.inl ⟨passed, hpassed, habove⟩)]
    exact hopen above habove
  · exact h _ (.inr ⟨name, hname, rfl⟩)

/-- A directory that looks as it did is opened as the same dump, in any work directory. -/
theorem Opened.again_directory (h : Opened machine source work override later dump last)
    (hdirectory : before.hasDirectory machine.workingDirectory source = true)
    (hstill : later.Paved machine.workingDirectory source) : dump = ⟨source⟩ ∧ last = later := by
  obtain ⟨hnul, hempty, hsize, _⟩ := FileTree.hasDirectory_iff_leads.mp hdirectory
  have hthere := hstill.hasDirectory ⟨hnul, hsize⟩ hempty
  cases h with
  | directory => exact ⟨rfl, rfl⟩
  | archive hfile _ _ _ =>
    rw [FileTree.hasDirectory_of_hasFile hfile] at hthere
    exact absurd hthere (by simp)

/-- An archive is not extracted again where the extraction is marked, unless that is overridden. -/
theorem Opened.again_archive (h : Opened machine source work false later dump last)
    (hnot : later.get? (source.location machine.workingDirectory) ≠ some .directory)
    (hmarked : isMarked machine work later = true) : dump = ⟨work⟩ ∧ last = later := by
  cases h with
  | directory hdirectory =>
    obtain ⟨location, hlocate, hget⟩ :=
      FileTree.status_eq_ok_iff.mp (FileTree.hasDirectory_iff.mp hdirectory)
    rw [FileTree.location_of_locate hlocate] at hget
    exact absurd hget hnot
  | archive _ _ _ hreused => exact ⟨rfl, hreused rfl hmarked⟩

end DumpReplay.Dump
