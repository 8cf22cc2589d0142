import DumpReplay.Dump.Opening
import DumpReplay.Proofs.Zip.Extracting
import Mathlib.Control.Monad.Basic

/-!
# Opening a dump several times

An archive can be opened several times in one work directory.  Only the version file tells
whether it was extracted before, and an extraction that fails can leave a version file.  So what a
call finds extracted is complete exactly if the last call that extracted went well.

Main results:

- `openIn_of_extracts`, `openIn_of_reuses` : what one call leaves.
- `settled_of_openings` : what any number of calls in a row leave.
- `extracted_iff_of_openings` : when a call that goes well finds every entry of the archive in
  place.
-/

namespace DumpReplay.Dump

open DumpReplay.Action

variable {source work : Path} {machine : Machine} {host after : Host} {archive : Zip.Archive}
variable {bytes : ByteArray} {override : Bool} {outcome : Except Failure Dump}

/-! ## One call -/

/-- Whether files hold the version file that marks an extraction. -/
def isMarked (machine : Machine) (work : Path) (tree : FileTree) : Bool :=
  tree.hasFile machine.workingDirectory ((Dump.mk work).path .version)

theorem on_isExtracted (work : Path) (machine : Machine) (host : Host) :
    (isExtracted work).on machine host = (.ok (isMarked machine work host.files), host) := rfl

/-- Where the version file is, there is the work directory. -/
theorem hasDirectory_of_isMarked {tree : FileTree} (h : isMarked machine work tree = true) :
    work.text = "" ∨ tree.hasDirectory machine.workingDirectory work = true := by
  by_cases hempty : work.text = ""
  · exact .inl hempty
  · obtain ⟨bytes, executable, hstatus⟩ := FileTree.hasFile_iff.mp h
    have hname : Path.IsName (Artifact.fileName .version) :=
      ⟨by decide, by decide, by decide, by decide⟩
    exact .inr (FileTree.hasDirectory_of_status_child hname hempty hstatus)

/-- A directory is opened as it is. -/
theorem openIn_of_hasDirectory (h : host.files.hasDirectory machine.workingDirectory source = true)
    (work : Path) (override : Bool) :
    (openIn source work override).on machine host = (.ok ⟨source⟩, host) := by
  unfold openIn isDirectory
  rw [on_bind_of_ok _ (on_look _), h]
  rfl

/-- Whether an archive can be read from a path. -/
def Holds (machine : Machine) (source : Path) (archive : Zip.Archive) (tree : FileTree) : Prop :=
  ∃ bytes, tree.read machine.workingDirectory source = .ok bytes ∧
    Zip.Archive.ofBytes bytes = .ok archive

/-- A path that an archive can be read from is opened by way of the work directory. -/
theorem openIn_eq (h : Holds machine source archive host.files) (override : Bool) :
    (openIn source work override).on machine host =
      (do
        extract source work archive override
        return Dump.mk work).on machine host := by
  obtain ⟨bytes, hread, harchive⟩ := h
  obtain ⟨executable, hstatus⟩ := FileTree.read_eq_ok_iff.mp hread
  have hdirectory : host.files.hasDirectory machine.workingDirectory source = false := by
    rw [FileTree.hasDirectory, hstatus]
    rfl
  have hvalid : readArchive (.ok bytes) = .ok archive := by
    rw [readArchive, harchive]
    rfl
  unfold openIn isDirectory readBytes?
  rw [on_bind_of_ok _ (on_look _), hdirectory, if_neg Bool.false_ne_true,
    on_bind_of_ok _ (on_look _), hread]
  dsimp only
  rw [hvalid, on_bind_of_ok _ (on_ofExcept _)]

/-- A call that finds the version file and need not override it changes no file, and goes well. -/
theorem openIn_of_reuses (hholds : Holds machine source archive host.files)
    (hmarked : isMarked machine work host.files = true)
    (h : (openIn source work false).on machine host = (outcome, after)) :
    outcome = .ok ⟨work⟩ ∧ after.files = host.files := by
  rw [openIn_eq hholds] at h
  unfold extract at h
  rw [bind_assoc, on_bind_of_ok _ (on_isExtracted work machine host), hmarked] at h
  obtain ⟨rfl, rfl⟩ := Prod.mk.inj h
  exact ⟨rfl, rfl⟩

/-- A call that extracts does so, and then looks for the version file. -/
theorem openIn_eq_of_extracts (hholds : Holds machine source archive host.files)
    (hextracts : override = true ∨ isMarked machine work host.files = false) :
    ∃ told : Host, told.files = host.files ∧
      (openIn source work override).on machine host =
        (Zip.extract archive work >>= fun _ => isExtracted work >>= fun extracted =>
          (if !extracted then Action.fail (.dump (.notExtracted work)) else pure ()) >>= fun _ =>
            pure (Dump.mk work)).on machine told := by
  have hcondition : (override || !isMarked machine work host.files) = true := by
    rcases hextracts with hoverride | hunmarked
    · rw [hoverride, Bool.true_or]
    · rw [hunmarked, Bool.not_false, Bool.or_true]
  rw [openIn_eq hholds]
  unfold extract
  rw [bind_assoc, on_bind_of_ok _ (on_isExtracted work machine host), if_pos hcondition, bind_assoc,
    on_bind_of_ok _ (on_inform _)]
  refine ⟨{ host with log := host.log ++
    [⟨.information, "Extracting " ++ source.text ++ " into " ++ work.text⟩] }, rfl, ?_⟩
  simp only [bind_assoc]

/-- A call that extracts writes only files of entries.  It goes well only if there is a version file
afterwards, and then exactly if the archive is extracted. -/
theorem openIn_of_extracts (hholds : Holds machine source archive host.files)
    (hextracts : override = true ∨ isMarked machine work host.files = false)
    (h : (openIn source work override).on machine host = (outcome, after)) :
    FileTree.Grows (Zip.WritesAny machine.workingDirectory work archive.entries) host.files
        after.files ∧
      ((∃ dump, outcome = .ok dump) → isMarked machine work after.files = true) ∧
      (isMarked machine work after.files = true →
        ((∃ dump, outcome = .ok dump) ↔
          archive.Extracted after.files machine.workingDirectory work)) := by
  obtain ⟨told, hfiles, heq⟩ := openIn_eq_of_extracts hholds hextracts
  rw [heq] at h
  rcases hextract : (Zip.extract archive work).on machine told with ⟨extracted, middle⟩
  obtain ⟨hgrows, hextracted⟩ := Zip.extract_spec hextract
  rw [hfiles] at hgrows
  cases extracted with
  | error failure =>
    rw [on_bind_of_error _ hextract] at h
    obtain ⟨rfl, rfl⟩ := Prod.mk.inj h
    refine ⟨hgrows, by simp, fun hmarked => ?_⟩
    rw [← hextracted (hasDirectory_of_isMarked hmarked)]
    simp
  | ok value =>
    rw [on_bind_of_ok _ hextract, on_bind_of_ok _ (on_isExtracted work machine middle)] at h
    cases hmarked : isMarked machine work middle.files with
    | false =>
      rw [hmarked] at h
      obtain ⟨rfl, rfl⟩ := Prod.mk.inj h
      refine ⟨hgrows, by simp, fun hother => ?_⟩
      rw [hmarked] at hother
      exact absurd hother (by simp)
    | true =>
      rw [hmarked] at h
      obtain ⟨rfl, rfl⟩ := Prod.mk.inj h
      refine ⟨hgrows, fun _ => hmarked, fun _ => ?_⟩
      rw [← hextracted (hasDirectory_of_isMarked hmarked)]
      exact iff_of_true ⟨_, rfl⟩ rfl

/-! ## Calls in a row -/

/-- A call that opens a dump: what it started from, and what came of it. -/
structure Opening where
  /-- Whether an extraction that is found is overridden. -/
  override : Bool
  /-- The host before the call. -/
  before : Host
  /-- How the call ended. -/
  outcome : Except Failure Dump
  /-- The host behind the call. -/
  after : Host

/-- The calls that open a dump one after the other, with nothing in between. -/
def openings (source work : Path) (machine : Machine) : Host → List Bool → List Opening
  | _, [] => []
  | host, override :: rest =>
    let result := (openIn source work override).on machine host
    ⟨override, host, result.1, result.2⟩ :: openings source work machine result.2 rest

namespace Opening

/-- Whether a call extracts: it is to override what it finds, or it finds no version file. -/
def Extracts (machine : Machine) (work : Path) (opening : Opening) : Prop :=
  opening.override = true ∨ isMarked machine work opening.before.files = false

/-- Whether a call went well. -/
def Succeeded (opening : Opening) : Prop :=
  ∃ dump, opening.outcome = .ok dump

end Opening

/-- What some calls leave: no version file, or the archive is extracted exactly if the last call
that extracted went well. -/
inductive Settled (machine : Machine) (work : Path) (archive : Zip.Archive) (tree : FileTree)
    (calls : List Opening) : Prop where
  /-- There is no version file. -/
  | unmarked (h : isMarked machine work tree = false)
  /-- There was a last call that extracted. -/
  | extracted (earlier : List Opening) (extracting : Opening) (reusing : List Opening)
      (hcalls : calls = earlier ++ extracting :: reusing)
      (hextracting : extracting.Extracts machine work)
      (hreusing : ∀ call ∈ reusing, ¬call.Extracts machine work)
      (h : extracting.Succeeded ↔ archive.Extracted tree machine.workingDirectory work)

variable {calls : List Opening}

/-- One more call settles what it leaves. -/
theorem Settled.step (hsettled : Settled machine work archive host.files calls)
    (hholds : Holds machine source archive host.files)
    (h : (openIn source work override).on machine host = (outcome, after)) :
    Settled machine work archive after.files (calls ++ [⟨override, host, outcome, after⟩]) ∧
      ((∃ dump, outcome = .ok dump) → isMarked machine work after.files = true) := by
  by_cases hextracts : override = true ∨ isMarked machine work host.files = false
  · obtain ⟨_, hmarks, hextracted⟩ := openIn_of_extracts hholds hextracts h
    refine ⟨?_, hmarks⟩
    cases hmarked : isMarked machine work after.files with
    | false => exact .unmarked hmarked
    | true => exact .extracted calls _ [] rfl hextracts (by simp) (hextracted hmarked)
  · rw [not_or, Bool.not_eq_true, Bool.not_eq_false] at hextracts
    obtain ⟨hoverride, hmarked⟩ := hextracts
    rw [hoverride] at h
    obtain ⟨_, hfiles⟩ := openIn_of_reuses hholds hmarked h
    rw [hfiles]
    refine ⟨?_, fun _ => hmarked⟩
    cases hsettled with
    | unmarked hunmarked =>
      rw [hmarked] at hunmarked
      exact absurd hunmarked (by simp)
    | extracted earlier extracting reusing hcalls hextracting hreusing hiff =>
      refine .extracted earlier extracting (reusing ++ [⟨override, host, outcome, after⟩]) ?_
        hextracting ?_ hiff
      · rw [hcalls, List.append_assoc, List.cons_append]
      · intro call hcall
        rcases List.mem_append.mp hcall with hbefore | hlast
        · exact hreusing call hbefore
        · rw [List.mem_singleton.mp hlast, Opening.Extracts, hoverride, hmarked]
          simp

/-- No call changes the archive, unless an entry is extracted to its place. -/
theorem Holds.openIn (hholds : Holds machine source archive host.files)
    (hapart : ∀ entry ∈ archive.entries,
      ¬entry.Writes machine.workingDirectory work (source.location machine.workingDirectory))
    (h : (openIn source work override).on machine host = (outcome, after)) :
    Holds machine source archive after.files := by
  by_cases hextracts : override = true ∨ isMarked machine work host.files = false
  · obtain ⟨hgrows, _⟩ := openIn_of_extracts hholds hextracts h
    obtain ⟨bytes, hread, harchive⟩ := hholds
    refine ⟨bytes, hgrows.read ?_ hread, harchive⟩
    rintro ⟨entry, hentry, hwrites⟩
    exact hapart entry hentry hwrites
  · rw [not_or, Bool.not_eq_true, Bool.not_eq_false] at hextracts
    rw [hextracts.1] at h
    rw [(openIn_of_reuses hholds hextracts.2 h).2]
    exact hholds

/-- Every call in a row settles what it leaves. -/
theorem settled_of_openings
    (hapart : ∀ entry ∈ archive.entries,
      ¬entry.Writes machine.workingDirectory work (source.location machine.workingDirectory))
    (overrides : List Bool) (hsettled : Settled machine work archive host.files calls)
    (hholds : Holds machine source archive host.files) {earlier later : List Opening}
    {call : Opening}
    (h : openings source work machine host overrides = earlier ++ call :: later) :
    Settled machine work archive call.after.files (calls ++ earlier ++ [call]) ∧
      (call.Succeeded → isMarked machine work call.after.files = true) := by
  induction overrides generalizing host calls earlier with
  | nil => exact absurd h (by simp [openings])
  | cons override rest ih =>
    rw [openings] at h
    rcases hopen : (openIn source work override).on machine host with ⟨outcome, after⟩
    rw [hopen] at h
    obtain ⟨hstep, hmarks⟩ := hsettled.step hholds hopen
    cases earlier with
    | nil =>
      rw [List.nil_append, List.cons.injEq] at h
      obtain ⟨rfl, _⟩ := h
      rw [List.append_nil]
      exact ⟨hstep, hmarks⟩
    | cons first earlier =>
      rw [List.cons_append, List.cons.injEq] at h
      obtain ⟨rfl, hrest⟩ := h
      have hlater := ih hstep (hholds.openIn hapart hopen) hrest
      rw [List.append_assoc calls, List.singleton_append] at hlater
      exact hlater

/-- However often a dump is opened, starting without a version file: when a call goes well, every
entry of the archive is in place with its complete content exactly if the last call that extracted
went well. -/
theorem extracted_iff_of_openings (source work : Path) (machine : Machine) (host : Host)
    (archive : Zip.Archive) (hholds : Holds machine source archive host.files)
    (hunmarked : isMarked machine work host.files = false)
    (hapart : ∀ entry ∈ archive.entries,
      ¬entry.Writes machine.workingDirectory work (source.location machine.workingDirectory))
    (overrides : List Bool) (earlier later : List Opening) (call : Opening)
    (hcalls : openings source work machine host overrides = earlier ++ call :: later)
    (hsucceeded : call.Succeeded) :
    ∃ before extracting reusing, earlier ++ [call] = before ++ extracting :: reusing ∧
      extracting.Extracts machine work ∧ (∀ other ∈ reusing, ¬other.Extracts machine work) ∧
      (archive.Extracted call.after.files machine.workingDirectory work ↔
        extracting.Succeeded) := by
  have hstart : Settled machine work archive host.files [] := .unmarked hunmarked
  obtain ⟨hsettled, hmarks⟩ := settled_of_openings hapart overrides hstart hholds hcalls
  rw [List.nil_append] at hsettled
  cases hsettled with
  | unmarked hnot =>
    rw [hmarks hsucceeded] at hnot
    exact absurd hnot (by simp)
  | extracted before extracting reusing hsplit hextracting hreusing hiff =>
    exact ⟨before, extracting, reusing, hsplit, hextracting, hreusing, hiff.symm⟩

/-! ## An archive that cannot be extracted -/

/-- A machine that starts no process and reaches no server. -/
def idleMachine : Machine where
  environment := []
  workingDirectory := []
  scratchName := fun _ => ""
  launch := fun _ _ files => (.error .notSupported, files)
  reply := fun _ _ _ => .refused .badAddress

/-- The bytes of an archive with nothing but an empty version file, under a wrong checksum. -/
def brokenBytes : ByteArray :=
  ⟨#[
    80, 75, 3, 4, 20, 0, 0, 0, 0, 0, 0, 0, 33, 0, 1, 0, 0, 0, 0, 0, 0, 0, 0, 0, 0, 0, 10, 0,
    0, 0, 114, 56, 45, 118, 101, 114, 115, 105, 111, 110, 80, 75, 1, 2, 20, 3, 20, 0, 0, 0, 0,
    0, 0, 0, 33, 0, 1, 0, 0, 0, 0, 0, 0, 0, 0, 0, 0, 0, 10, 0, 0, 0, 0, 0, 0, 0, 0, 0, 0, 0,
    0, 0, 0, 0, 0, 0, 114, 56, 45, 118, 101, 114, 115, 105, 111, 110, 80, 75, 5, 6, 0, 0, 0,
    0, 1, 0, 1, 0, 56, 0, 0, 0, 40, 0, 0, 0, 0, 0]⟩

/-- The archive that these bytes hold. -/
def brokenArchive : Zip.Archive :=
  ⟨brokenBytes, [⟨"r8-version", false, 0, 1, 0, 0, 40, none⟩]⟩

/-- A host with the archive as its only file. -/
def brokenHost : Host :=
  .ofFiles ⟨[(["d"], .file brokenBytes false)]⟩

theorem ofBytes_brokenBytes : Zip.Archive.ofBytes brokenBytes = .ok brokenArchive := by
  have hrecord : Zip.readEndRecord brokenBytes 96 = .ok ⟨0, 40, 1, true⟩ := by decide +kernel
  have hentries : Zip.readDirectory brokenBytes ⟨0, 40, 1, true⟩ = .ok brokenArchive.entries := by
    decide +kernel
  exact Zip.ofBytes_of_last (by decide +kernel) (by decide +kernel) (by decide +kernel) hrecord hentries

/-- The archive is extracted nowhere. -/
theorem not_extracted_brokenArchive (tree : FileTree) (here : Location) (target : Path) :
    ¬brokenArchive.Extracted tree here target := by
  intro hextracted
  have hintact := (hextracted.sound _ List.mem_cons_self).intact (by decide)
  exact absurd hintact (by decide +kernel)

/-- Where the first of two calls fails, because the archive cannot be extracted, the second one can
go well all the same. -/
theorem not_extracted_of_openings_brokenHost :
    ∃ first second, openings ⟨"/d"⟩ ⟨"/w"⟩ idleMachine brokenHost [false, false] =
        [first] ++ second :: [] ∧
      second.Succeeded ∧ ¬brokenArchive.Extracted second.after.files [] ⟨"/w"⟩ ∧
      ∃ extracting ∈ [first] ++ [second], extracting.Extracts idleMachine ⟨"/w"⟩ ∧
        ¬extracting.Succeeded := by
  have hholds : Holds idleMachine ⟨"/d"⟩ brokenArchive brokenHost.files :=
    ⟨brokenBytes, rfl, ofBytes_brokenBytes⟩
  have hapart : ∀ entry ∈ brokenArchive.entries,
      ¬entry.Writes idleMachine.workingDirectory ⟨"/w"⟩ (Path.location [] ⟨"/d"⟩) := by
    rintro entry _ ⟨_, names, _, hlocation⟩
    rw [show Path.location [] ⟨"/d"⟩ = ["d"] from rfl,
      show Path.location idleMachine.workingDirectory ⟨"/w"⟩ = ["w"] from rfl] at hlocation
    simp at hlocation
  rcases hfirst : (openIn ⟨"/d"⟩ ⟨"/w"⟩ false).on idleMachine brokenHost with ⟨outcome, left⟩
  have hmarked : isMarked idleMachine ⟨"/w"⟩ left.files = true := by
    rw [openIn_eq hholds] at hfirst
    rw [← show Prod.snd _ = left from congrArg Prod.snd hfirst]
    decide +kernel
  rcases hsecond : (openIn ⟨"/d"⟩ ⟨"/w"⟩ false).on idleMachine left with ⟨outcome', after⟩
  obtain ⟨hok, _⟩ := openIn_of_reuses (hholds.openIn hapart hfirst) hmarked hsecond
  have hcalls : openings ⟨"/d"⟩ ⟨"/w"⟩ idleMachine brokenHost [false, false] =
      [⟨false, brokenHost, outcome, left⟩] ++ ⟨false, left, outcome', after⟩ :: [] := by
    rw [openings, hfirst, openings, hsecond, openings]
    rfl
  have hnot := not_extracted_brokenArchive after.files [] ⟨"/w"⟩
  obtain ⟨before, extracting, reusing, hsplit, hextracts, _, hiff⟩ :=
    extracted_iff_of_openings ⟨"/d"⟩ ⟨"/w"⟩ idleMachine brokenHost brokenArchive hholds (by rfl)
      hapart [false, false] _ [] _ hcalls ⟨_, hok⟩
  refine ⟨_, _, hcalls, ⟨_, hok⟩, hnot, extracting, ?_, hextracts, fun h => hnot (hiff.mpr h)⟩
  rw [hsplit]
  exact List.mem_append_right before List.mem_cons_self

end DumpReplay.Dump
