import DumpReplay.Proofs.Action.Scratching
import DumpReplay.Proofs.Dump.Faults
import DumpReplay.Proofs.Dump.Reopening
import DumpReplay.Proofs.Replay.Entering
import DumpReplay.Proofs.Zip.Matching

/-!
# Summaries

A summary shows one section for each path, and each is worked out in a scratch directory of its own
that is gone behind it.  So every section starts from the same files, and neither its place in the list
nor what became of the sections in front of it shows in it.

Main results:

- `summarizePath_alike` : in scratch directories with the same room the same is shown of a path.
- `summarizeSection_spec` : a section prints what its path, the files and its scratch directory give.
-/

namespace DumpReplay.Dump

open DumpReplay.Action

variable {machine machine' : Machine} {work work' source : Path} {rest rest' : FileTree}
variable {here : Location}

/-! ## Failures that name the scratch directory -/

/-- Failures are alike for two scratch directories if they are the same, or each names its own. -/
inductive FailsAlike (work work' : Path) : Failure → Failure → Prop
  /-- The failure names no scratch directory. -/
  | same {failure : Failure} (h : ¬failure.NamesScratch) : FailsAlike work work' failure failure
  /-- The archive left no version file in the scratch directory. -/
  | notExtracted :
    FailsAlike work work' (.dump (.notExtracted work)) (.dump (.notExtracted work'))
  /-- The scratch directory could not be made. -/
  | notMade (cause : IoError) :
    FailsAlike work work' (.io (.atPath cause (String.ofList (Text.quoted work.toList))))
      (.io (.atPath cause (String.ofList (Text.quoted work'.toList))))

/-- In the same scratch directory alike failures are the same. -/
theorem FailsAlike.eq {failure failure' : Failure} (h : FailsAlike work work failure failure') :
    failure = failure' := by
  cases h <;> rfl

/-- Actions that match and name no scratch directory fail alike. -/
theorem matches_failsAlike {α β : Type} {alike : FileTree → FileTree → Prop} {values : α → β → Prop}
    {action : Action α} {action' : Action β} (h : Matches machine machine' alike values Eq action action')
    (hnameless : FailsOnly Nameless action) :
    Matches machine machine' alike values (FailsAlike work work') action action' := by
  refine (h.failsOnly hnameless).mono (fun _ _ => id) ?_
  rintro failure _ ⟨rfl, hfailure⟩
  exact .same hfailure

/-! ## Opening in twin directories -/

/-- Twin directories are dumps that mirror each other. -/
theorem mirrors_of_twins :
    Mirrors here (FileTree.Twins here work work' rest rest') ⟨work⟩ ⟨work'⟩ :=
  .of_status fun _ hname _ _ htwins => htwins.status_child hname.isName

/-- Whether a path and the files of a dump there are the same in alike trees. -/
structure SeenAlike (here : Location) (alike : FileTree → FileTree → Prop) (source : Path) : Prop where
  itself : ∀ tree tree', alike tree tree' → tree'.status here source = tree.status here source
  part : ∀ tree tree', alike tree tree' → ∀ name, IsPart name →
    tree'.status here (source.child name) = tree.status here (source.child name)

/-- Everything that is on the way to a dump and in it is seen alike where it is the same outside of
the scratch directory. -/
theorem seenAlike_of_site
    (hsame : ∀ location, (Dump.mk source).Site here location → rest'.get? location = rest.get? location) :
    SeenAlike here (FileTree.Twins here work work rest rest') source := by
  refine ⟨fun _ _ htwins => htwins.status_eq fun location hway => ?_,
    fun _ _ htwins name hname => htwins.status_eq fun location hway => ?_⟩
  · exact hsame location (.inl ⟨location, hway, List.prefix_rfl⟩)
  · rcases Path.way_child hname.isName hway with hbefore | hpart
    · exact hsame location (.inl ⟨location, hbefore, List.prefix_rfl⟩)
    · exact hsame location (.inr ⟨name, hname, hpart.trans (Path.location_child hname.isName here source)⟩)

variable (hwork : machine'.workingDirectory = machine.workingDirectory)
include hwork

theorem matches_isExtracted {failures : Failure → Failure → Prop} :
    Matches machine machine' (FileTree.Twins machine.workingDirectory work work' rest rest') Eq
      failures (isExtracted work) (isExtracted work') := by
  unfold isExtracted isFile
  refine .look fun tree tree' htwins => ?_
  rw [hwork, FileTree.hasFile, FileTree.hasFile, path, path,
    htwins.status_child (Artifact.isName_fileName .version)]

/-- An archive is extracted alike, and its version file is missed alike. -/
theorem matches_extract (source : Path) (archive : Zip.Archive) (override : Bool) :
    Matches machine machine' (FileTree.Twins machine.workingDirectory work work' rest rest') Eq
      (FailsAlike work work') (extract source work archive override)
      (extract source work' archive override) := by
  refine .bind_eq (matches_isExtracted hwork) fun _ => .ite ?_ (.record _ _ _ _)
  refine .bind_eq (.record _ _ _ _) fun _ => ?_
  have hextract : Matches machine machine'
      (FileTree.Twins machine.workingDirectory work work' rest rest') Eq (FailsAlike work work')
      (Zip.extract archive work) (Zip.extract archive work') :=
    matches_failsAlike (Zip.matches_extract hwork archive) ((Zip.failsOnly_extract archive work).mono
      fun _ => Zip.IsFault.not_namesScratch)
  refine .bind_eq hextract fun _ => ?_
  exact .bind_eq (matches_isExtracted hwork) fun _ => .ite (.fail .notExtracted) (.pure rfl)

/-- A dump that is seen alike is opened alike, in its directory or in the work directory. -/
theorem matches_openIn
    (hseen : SeenAlike machine.workingDirectory
      (FileTree.Twins machine.workingDirectory work work' rest rest') source) (override : Bool) :
    Matches machine machine' (FileTree.Twins machine.workingDirectory work work' rest rest')
      (fun dump dump' => (dump = ⟨source⟩ ∧ dump' = ⟨source⟩) ∨ dump = ⟨work⟩ ∧ dump' = ⟨work'⟩)
      (FailsAlike work work') (openIn source work override) (openIn source work' override) := by
  unfold openIn isDirectory readBytes?
  refine .bind_eq (.look fun tree tree' htwins => ?_) fun _ => .ite (.pure (.inl ⟨rfl, rfl⟩)) ?_
  · rw [hwork, FileTree.hasDirectory, FileTree.hasDirectory, hseen.itself _ _ htwins]
  · refine .bind_eq (.look fun tree tree' htwins => ?_) fun bytes => ?_
    · rw [hwork, FileTree.read, FileTree.read, hseen.itself _ _ htwins]
    · cases bytes with
      | error cause => exact .fail (.same (by rintro ⟨⟩))
      | ok bytes =>
        have hnameless : FailsOnly Nameless (Action.ofExcept (readArchive (.ok bytes))) :=
          .ofExcept fun _ => nameless_of_readArchive (by simp)
        refine .bind_eq (matches_failsAlike (.ofExcept_same _) hnameless) fun archive => ?_
        exact .bind_eq (matches_extract hwork source archive override) fun _ =>
          .pure (.inr ⟨rfl, rfl⟩)

/-- The same is shown of a dump that is seen alike. -/
theorem matches_show
    (hseen : SeenAlike machine.workingDirectory
      (FileTree.Twins machine.workingDirectory work work' rest rest') source) :
    Matches machine machine' (FileTree.Twins machine.workingDirectory work work' rest rest') Eq
      (FailsAlike work work') (openIn source work false >>= fun dump => summarize dump printLine)
      (openIn source work' false >>= fun dump => summarize dump printLine) := by
  refine .bind (matches_openIn hwork hseen false) ?_
  rintro _ _ (⟨rfl, rfl⟩ | ⟨rfl, rfl⟩)
  · have hmirrors : Mirrors machine.workingDirectory
        (FileTree.Twins machine.workingDirectory work work' rest rest') ⟨source⟩ ⟨source⟩ :=
      .of_status fun name hname tree tree' htwins => hseen.part tree tree' htwins name hname
    exact matches_failsAlike (hmirrors.matches_summarize hwork) (failsOnly_summarize _)
  · exact matches_failsAlike (mirrors_of_twins.matches_summarize hwork) (failsOnly_summarize _)

omit hwork

/-! ## Showing one path -/

/-- Runs that show a path leave the files as they were, and have shown the same but for the scratch
directories that failures name. -/
structure ShownAlike (work work' : Path) (host host' : Host) (run run' : Except Failure Unit × Host) :
    Prop where
  outcome : EndAlike Eq (FailsAlike work work') run.1 run'.1
  printed : ∃ text, run.2.printed = host.printed ++ text ∧ run'.2.printed = host'.printed ++ text
  files : run.2.files = host.files
  files' : run'.2.files = host'.files
  scratches : run.2.scratches = host.scratches + 1
  scratches' : run'.2.scratches = host'.scratches + 1

/-- In scratch directories with the same room the same is shown of a path, and no file is changed. -/
theorem summarizePath_alike {host host' : Host} (path : Path)
    (hwork : machine'.workingDirectory = machine.workingDirectory) (hsound : host.Sound machine)
    (hsound' : host'.Sound machine')
    (hroom : (scratchPath machine host.scratches).SameRoom (scratchPath machine' host'.scratches))
    (hmade : MadeAlike host.files host'.files machine.workingDirectory
      (scratchPath machine host.scratches) (scratchPath machine' host'.scratches))
    (hseen : SeenAlike machine.workingDirectory (FileTree.Twins machine.workingDirectory
      (scratchPath machine host.scratches) (scratchPath machine' host'.scratches) host.files
        host'.files) path) :
    ShownAlike (scratchPath machine host.scratches) (scratchPath machine' host'.scratches) host host'
      ((summarizePath path printLine).on machine host)
      ((summarizePath path printLine).on machine' host') := by
  unfold summarizePath
  rw [on_withScratch, on_withScratch, on_makeScratch, on_makeScratch, hwork]
  rcases hmade with ⟨cause, herror, herror'⟩ | ⟨⟨made, location⟩, ⟨made', location'⟩, hok, hok'⟩
  · rw [herror, herror']
    exact ⟨.error (.notMade cause), ⟨"", by simp, by simp⟩, rfl, rfl, rfl, rfl⟩
  · rw [hok, hok']
    have htwins := twins_of_scratchIn hsound.rooted hsound'.rooted hsound.named hroom hok hok'
    obtain ⟨rfl, _⟩ := scratchIn_spec hsound.rooted hsound.named hok
    obtain ⟨rfl, _⟩ := scratchIn_spec hsound'.rooted hsound.named hok'
    dsimp only
    have halong : Alongside (FileTree.Twins machine.workingDirectory (scratchPath machine host.scratches)
          (scratchPath machine' host'.scratches) host.files host'.files)
        { host with files := made, scratches := host.scratches + 1 }
        { host' with files := made', scratches := host'.scratches + 1 }
        { host with files := made, scratches := host.scratches + 1 }
        { host' with files := made', scratches := host'.scratches + 1 } := .refl htwins
    obtain ⟨hend, hbehind⟩ := matches_show hwork hseen _ _ _ _ halong
    exact ⟨hend, hbehind.printed, hbehind.files.rest, hbehind.files.rest', hbehind.scratches,
      hbehind.scratches'⟩

/-- The places that a section is about: those that the dump takes, and those on the way to the scratch
directory. -/
def Concerns (here : Location) (scratch source : Path) (location : Location) : Prop :=
  (Dump.mk source).Site here location ∨ ∃ passed, scratch.Way here passed ∧ location <+: passed

/-- In the same scratch directory the same is shown of a path, whatever happened before and whatever
else there is. -/
theorem summarizePath_same {host host' : Host} (path : Path)
    (hwork : machine'.workingDirectory = machine.workingDirectory) (hsound : host.Sound machine)
    (hsound' : host'.Sound machine')
    (hscratch : scratchPath machine' host'.scratches = scratchPath machine host.scratches)
    (hsame : ∀ location,
      Concerns machine.workingDirectory (scratchPath machine host.scratches) path location →
        host'.files.get? location = host.files.get? location) :
    ShownAlike (scratchPath machine host.scratches) (scratchPath machine host.scratches) host host'
      ((summarizePath path printLine).on machine host)
      ((summarizePath path printLine).on machine' host') := by
  have hmade : MadeAlike host.files host'.files machine.workingDirectory
      (scratchPath machine host.scratches) (scratchPath machine host.scratches) :=
    madeAlike_of_way hsound.named fun passed hway above habove =>
      hsame above (.inr ⟨passed, hway, habove⟩)
  have hseen : SeenAlike machine.workingDirectory (FileTree.Twins machine.workingDirectory
      (scratchPath machine host.scratches) (scratchPath machine host.scratches) host.files
        host'.files) path :=
    seenAlike_of_site fun location hsite => hsame location (.inl hsite)
  have hshown := summarizePath_alike path hwork hsound hsound' (hscratch ▸ .refl _)
    (hscratch.symm ▸ hmade) (hscratch.symm ▸ hseen)
  rwa [hscratch] at hshown

/-! ## One section -/

/-- What a summary shows of one path: what was written before it stopped, and why it stopped short. -/
structure Section where
  /-- What was written. -/
  wrote : String
  /-- The failure that it stopped with, if it did. -/
  failure : Option Failure

/-- The text of the section of a path. -/
def Section.text (path : Path) (shown : Section) : String :=
  path.text ++ ":\n" ++ shown.wrote ++
    match shown.failure with
    | none => ""
    | some failure => "Error: " ++ failure.message ++ "\n"

/-- The failure that a run ended with, if it did not end well. -/
def failureOf {α : Type} : Except Failure α → Option Failure
  | .ok _ => none
  | .error failure => some failure

/-- A host with some files on which nothing happened but that scratch directories were made. -/
def freshHost (files : FileTree) (count : Nat) : Host :=
  { Host.ofFiles files with scratches := count }

/-- The section of a path in some files, given how many scratch directories were made before. -/
def sectionIn (machine : Machine) (files : FileTree) (count : Nat) (path : Path) : Section :=
  ⟨((summarizePath path printLine).on machine (freshHost files count)).2.printed,
    failureOf ((summarizePath path printLine).on machine (freshHost files count)).1⟩

/-- A section prints what its path, the files and its scratch directory give.  It leaves the files as
they were, and it never fails. -/
theorem summarizeSection_spec {host : Host} (hsound : host.Sound machine) (path : Path) :
    ∃ after, (summarizeSection path printLine).on machine host = (.ok (), after) ∧
      after.files = host.files ∧ after.scratches = host.scratches + 1 ∧
      after.printed =
        host.printed ++ (sectionIn machine host.files host.scratches path).text path := by
  have htold : (printLine (path.text ++ ":")).on machine host =
      (.ok (), { host with printed := host.printed ++ (path.text ++ ":" ++ "\n") }) := rfl
  have hstart : ({ host with printed := host.printed ++ (path.text ++ ":" ++ "\n") } : Host).Sound
      machine := ⟨hsound.rooted, hsound.named⟩
  have hsame : ShownAlike _ _ { host with printed := host.printed ++ (path.text ++ ":" ++ "\n") }
      (freshHost host.files host.scratches) _ _ :=
    summarizePath_same path (rfl : machine.workingDirectory = _) hstart
      ⟨hsound.rooted, hsound.named⟩ rfl fun _ _ => rfl
  unfold summarizeSection sectionIn
  rw [on_bind_of_ok _ htold, on_bind_of_ok _ (run_attempt _ _ _)]
  rcases hrun : (summarizePath path printLine).on machine
    { host with printed := host.printed ++ (path.text ++ ":" ++ "\n") } with ⟨outcome, after⟩
  rcases hblank : (summarizePath path printLine).on machine (freshHost host.files host.scratches)
    with ⟨outcome', after'⟩
  rw [hrun, hblank] at hsame
  obtain ⟨text, hprinted, hprinted'⟩ := hsame.printed
  have hend := (hsame.outcome.mono (fun _ _ => id) fun _ _ => FailsAlike.eq).eq
  have hfiles := hsame.files
  have hscratches := hsame.scratches
  dsimp only [freshHost, Host.ofFiles] at hend hprinted hprinted' hfiles hscratches
  rw [String.empty_append] at hprinted'
  subst hend hprinted'
  cases outcome with
  | ok value =>
    refine ⟨after, rfl, hfiles, hscratches, ?_⟩
    simp only [hprinted, Section.text, failureOf, String.append_assoc, String.append_empty]
    rfl
  | error failure =>
    refine ⟨_, rfl, hfiles, hscratches, ?_⟩
    simp only [hprinted, Section.text, failureOf, String.append_assoc]
    rfl

end DumpReplay.Dump
