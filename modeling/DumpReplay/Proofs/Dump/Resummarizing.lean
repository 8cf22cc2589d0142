import DumpReplay.Proofs.Dump.Batching
import Mathlib.Data.List.Infix

/-!
# Summaries that are made again

The system draws new names for the scratch directories of every run.  A section shows such a name only
if it fails because the directory cannot be made, or because nothing was extracted into it.  So two runs
write the same text unless one of those failures shows different names.

Main results:

- `Section.Alike.text_eq_iff` : when the texts of alike sections are the same.
- `reportIn_eq_iff` : which runs write the same sections.
- `summarizeAll_again_eq_iff` : two runs write the same text exactly if every section that names its
  scratch directory was given one of the same name.
-/

namespace DumpReplay

open DumpReplay.Action

namespace Dump

variable {machine machine' : Machine} {files : FileTree} {count count' : Nat} {name name' : String}

/-! ## Texts with names in them -/

/-- Two texts are the same but for a name that stands in them. -/
def SameBut (name name' text text' : String) : Prop :=
  ∃ front back, text = front ++ name ++ back ∧ text' = front ++ name' ++ back

namespace SameBut

variable {text text' : String}

theorem behind (h : SameBut name name' text text') (before : String) :
    SameBut name name' (before ++ text) (before ++ text') := by
  obtain ⟨front, back, rfl, rfl⟩ := h
  exact ⟨before ++ front, back, by simp only [String.append_assoc], by simp only [String.append_assoc]⟩

theorem before (h : SameBut name name' text text') (after : String) :
    SameBut name name' (text ++ after) (text' ++ after) := by
  obtain ⟨front, back, rfl, rfl⟩ := h
  exact ⟨front, back ++ after, by simp only [String.append_assoc], by simp only [String.append_assoc]⟩

theorem eq_iff (h : SameBut name name' text text') : text' = text ↔ name' = name := by
  obtain ⟨front, back, rfl, rfl⟩ := h
  simp only [← String.toList_inj, String.toList_append, List.append_cancel_right_eq,
    List.append_cancel_left_eq]

theorem length_eq (h : SameBut name name' text text') (hname : IsDrawn name) (hname' : IsDrawn name') :
    text'.toList.length = text.toList.length := by
  obtain ⟨front, back, rfl, rfl⟩ := h
  simp only [String.toList_append, List.length_append, hname.length, hname'.length]

end SameBut

/-- The path of a scratch directory is the same but for its name, and so is its quoted form. -/
theorem sameBut_scratch (parent : Path) (hname : IsDrawn name) (hname' : IsDrawn name') :
    SameBut name name' (parent.child ("compiledump" ++ name)).text
        (parent.child ("compiledump" ++ name')).text ∧
      SameBut name name'
        (String.ofList (Text.quoted (parent.child ("compiledump" ++ name)).toList))
        (String.ofList (Text.quoted (parent.child ("compiledump" ++ name')).toList)) := by
  constructor
  · rw [hname.isName.text_child, hname'.isName.text_child]
    refine ⟨parent.text ++ (if parent.needsSeparator then "/" else "") ++ "compiledump", "", ?_, ?_⟩
    · simp only [String.append_assoc, String.append_empty]
    · simp only [String.append_assoc, String.append_empty]
  · refine ⟨String.ofList ('\x22' :: (parent.toList ++ (if parent.needsSeparator then ['/'] else []) ++
      "compiledump".toList).flatMap Text.escapeCharacter), "\"", ?_, ?_⟩
    · rw [← String.toList_inj, hname.isName.toList_child]
      simp only [Text.quoted, String.toList_ofList, String.toList_append, List.flatMap_append,
        hname.escape_eq, List.append_assoc, List.cons_append]
      rfl
    · rw [← String.toList_inj, hname'.isName.toList_child]
      simp only [Text.quoted, String.toList_ofList, String.toList_append, List.flatMap_append,
        hname'.escape_eq, List.append_assoc, List.cons_append]
      rfl

/-- The message of a failure that names a scratch directory is the same but for its name. -/
theorem FailsAlike.message {failure failure' : Failure} {parent : Path} (hname : IsDrawn name)
    (hname' : IsDrawn name')
    (h : FailsAlike (parent.child ("compiledump" ++ name)) (parent.child ("compiledump" ++ name')) failure
      failure') :
    (¬failure.NamesScratch ∧ failure' = failure) ∨
      failure.NamesScratch ∧ SameBut name name' failure.message failure'.message := by
  obtain ⟨htext, hquoted⟩ := sameBut_scratch parent hname hname'
  cases h with
  | same hnot => exact .inl ⟨hnot, rfl⟩
  | notExtracted =>
    exact .inr ⟨.notExtracted _, ((htext.behind "Did not extract into ").before
      ". Either the zip file is invalid or the dump is missing files").behind ("Dump error" ++ ": ")⟩
  | notMade cause =>
    exact .inr ⟨.atPath _ _,
      (hquoted.behind (cause.message ++ " at path ")).behind ("IO error" ++ ": ")⟩

/-- The texts of alike sections are the same, or the sections name their scratch directories and the
texts are the same but for the names. -/
theorem Section.Alike.text_cases {shown shown' : Section} {parent : Path} (hname : IsDrawn name)
    (hname' : IsDrawn name')
    (h : Section.Alike (parent.child ("compiledump" ++ name)) (parent.child ("compiledump" ++ name'))
      shown shown') (path : Path) :
    (¬shown.NamesScratch ∧ shown'.text path = shown.text path) ∨
      shown.NamesScratch ∧ SameBut name name' (shown.text path) (shown'.text path) := by
  obtain ⟨wrote, failure⟩ := shown
  obtain ⟨wrote', failure'⟩ := shown'
  obtain ⟨hwrote, hfailure⟩ := h
  obtain rfl : wrote' = wrote := hwrote
  cases hfailure with
  | none =>
    refine .inl ⟨?_, rfl⟩
    rintro ⟨_, hnone, _⟩
    exact absurd hnone (by simp)
  | some hfails =>
    rename_i failure failure'
    rcases hfails.message hname hname' with ⟨hnot, rfl⟩ | ⟨hnames, hmessage⟩
    · refine .inl ⟨?_, rfl⟩
      rintro ⟨_, hsame, hnames⟩
      obtain rfl := Option.some.inj hsame
      exact hnot hnames
    · exact .inr ⟨⟨failure, rfl, hnames⟩,
        ((hmessage.behind "Error: ").before "\n").behind (path.text ++ ":\n" ++ wrote')⟩

/-- The texts of alike sections are as long, and they are the same exactly if the sections do not name
their scratch directories or those have the same name. -/
theorem Section.Alike.text_eq_iff {shown shown' : Section} {parent : Path} (hname : IsDrawn name)
    (hname' : IsDrawn name')
    (h : Section.Alike (parent.child ("compiledump" ++ name)) (parent.child ("compiledump" ++ name'))
      shown shown') (path : Path) :
    (shown'.text path).toList.length = (shown.text path).toList.length ∧
      (shown'.text path = shown.text path ↔ (shown.NamesScratch → name' = name)) := by
  rcases h.text_cases hname hname' path with ⟨hnot, hsame⟩ | ⟨hnames, hbut⟩
  · exact ⟨by rw [hsame], fun _ hnames => absurd hnames hnot, fun _ => hsame⟩
  · exact ⟨hbut.length_eq hname hname', hbut.eq_iff.trans (imp_iff_right hnames).symm⟩

/-! ## Runs again -/

/-- Texts of the same length with something behind them are the same exactly if both parts are. -/
theorem append_eq_append_iff {first first' second second' : String}
    (h : first'.toList.length = first.toList.length) :
    first' ++ second' = first ++ second ↔ first' = first ∧ second' = second := by
  constructor
  · intro hsame
    have hlist := congrArg String.toList hsame
    rw [String.toList_append, String.toList_append] at hlist
    obtain ⟨hfirst, hsecond⟩ := List.append_inj hlist h
    exact ⟨String.toList_inj.mp hfirst, String.toList_inj.mp hsecond⟩
  · rintro ⟨rfl, rfl⟩
    rfl

/-- The sections of some paths are the same in other new scratch directories exactly if each that names
its scratch directory was given one of the same name. -/
theorem reportIn_eq_iff {paths : List Path}
    (henvironment : machine'.environment = machine.environment)
    (hwork : machine'.workingDirectory = machine.workingDirectory)
    (hnamed : ∀ name ∈ machine.workingDirectory, Path.IsName name) (hrooted : files.Rooted)
    (hnew : ∀ index path, paths[index]? = some path → NewScratch machine files (count + index) path)
    (hnew' : ∀ index path, paths[index]? = some path → NewScratch machine' files (count' + index) path) :
    reportIn machine' files count' paths = reportIn machine files count paths ↔
      ∀ index path, paths[index]? = some path →
        (sectionIn machine files (count + index) path).NamesScratch →
          machine'.scratchName (count' + index) = machine.scratchName (count + index) := by
  induction paths generalizing count count' with
  | nil => simp [reportIn]
  | cons path paths ih =>
    obtain ⟨hhead, htail⟩ := forall_getElem?_cons.mp hnew
    obtain ⟨hhead', htail'⟩ := forall_getElem?_cons.mp hnew'
    simp only [Nat.add_zero, ← Nat.add_assoc, Nat.add_right_comm _ _ 1] at hhead htail hhead' htail'
    have halike := sectionIn_alike henvironment hhead hhead' hwork hnamed hrooted
    rw [scratchPath, scratchPath_eq_child henvironment] at halike
    obtain ⟨hlength, hsection⟩ := halike.text_eq_iff hhead.drawn hhead'.drawn path
    rw [reportIn, reportIn, append_eq_append_iff hlength, hsection, ih htail htail',
      forall_getElem?_cons]
    simp only [Nat.add_zero, ← Nat.add_assoc, Nat.add_right_comm _ _ 1]

/-- Two runs on the same files, in scratch directories that are new, write alike sections: as much is
written of every dump, and only a failure that names its scratch directory can differ, in that name.
So they write the same text exactly if every section that names its scratch directory was given one of
the same name. -/
theorem summarizeAll_again_eq_iff {machine machine' : Machine} {host host' : Host} {paths : List Path}
    (hsound : host.Sound machine) (hne : paths ≠ [])
    (henvironment : machine'.environment = machine.environment)
    (hwork : machine'.workingDirectory = machine.workingDirectory) (hfiles : host'.files = host.files)
    (hnew : ∀ index path, paths[index]? = some path →
      NewScratch machine host.files (host.scratches + index) path)
    (hnew' : ∀ index path, paths[index]? = some path →
      NewScratch machine' host.files (host'.scratches + index) path) :
    ∃ after after' text text',
      (summarizeAll paths printLine).on machine host = (.ok (), after) ∧
      (summarizeAll paths printLine).on machine' host' = (.ok (), after') ∧
      after.files = host.files ∧ after'.files = host.files ∧
      after.printed = host.printed ++ text ∧ after'.printed = host'.printed ++ text' ∧
      ReportsAlike machine machine' host.files host.scratches host'.scratches paths text text' ∧
      (text' = text ↔ ∀ index path shown, paths[index]? = some path →
        Shows machine host.files (host.scratches + index) path shown → shown.NamesScratch →
        machine'.scratchName (host'.scratches + index) = machine.scratchName (host.scratches + index)) := by
  have hsound' : host'.Sound machine' := ⟨hfiles.symm ▸ hsound.rooted, hwork.symm ▸ hsound.named⟩
  obtain ⟨after, hrun, hkept, hprinted⟩ := on_summarizeAll hsound hne
  obtain ⟨after', hrun', hkept', hprinted'⟩ := on_summarizeAll hsound' hne
  rw [hfiles] at hkept' hprinted'
  have hscratches : AlikeScratches machine machine' host.files host.scratches host'.scratches paths :=
    ⟨henvironment, hwork, fun index path hpath => .inr ⟨hnew index path hpath, hnew' index path hpath⟩⟩
  refine ⟨after, after', _, _, hrun, hrun', hkept, hkept', hprinted, hprinted',
    reportsAlike_reportIn hscratches hsound.named hsound.rooted, ?_⟩
  rw [reportIn_eq_iff henvironment hwork hsound.named hsound.rooted hnew hnew']
  constructor
  · intro hsame index path shown hpath hshows
    rw [hshows.eq]
    exact hsame index path hpath
  · intro hsame index path hpath
    exact hsame index path _ hpath (shows_sectionIn _ _ _ _)

/-! ## An archive without a version file -/

/-- A machine that draws one name for all scratch directories. -/
def drawingMachine (name : String) : Machine :=
  { idleMachine with scratchName := fun _ => name }

/-- The bytes of an archive without entries. -/
def emptyBytes : ByteArray :=
  ⟨#[80, 75, 5, 6, 0, 0, 0, 0, 0, 0, 0, 0, 0, 0, 0, 0, 0, 0, 0, 0, 0, 0]⟩

/-- A host with the archive as its only file. -/
def emptyArchiveHost : Host :=
  .ofFiles ⟨[(["tmp"], .directory), (["d"], .file emptyBytes false)]⟩

theorem sound_emptyArchiveHost (name : String) : emptyArchiveHost.Sound (drawingMachine name) := by
  refine ⟨FileTree.rooted_of_entries fun entry hentry => ?_, by simp [drawingMachine, idleMachine]⟩
  simp only [emptyArchiveHost, Host.ofFiles, List.mem_cons, List.not_mem_nil, or_false] at hentry
  rcases hentry with rfl | rfl <;> rfl

/-- Nothing is extracted from the archive, and the section names the scratch directory. -/
theorem failure_emptyArchiveHost :
    (sectionIn (drawingMachine "AAAAAA") emptyArchiveHost.files 0 ⟨"/d"⟩).failure =
      some (.dump (.notExtracted ⟨"/tmp/compiledumpAAAAAA"⟩)) := by
  decide +kernel

theorem newScratch_emptyArchiveHost (name : String) (hdrawn : IsDrawn name)
    (hfree : emptyArchiveHost.files.get? ["tmp", "compiledump" ++ name] = none) :
    ∀ index path, [Path.mk "/d"][index]? = some path →
      NewScratch (drawingMachine name) emptyArchiveHost.files (0 + index) path := by
  have hplace : ∀ count, (scratchPath (drawingMachine name) count).location [] =
      ["tmp", "compiledump" ++ name] := fun count => Path.location_child hdrawn.isName [] ⟨"/tmp"⟩
  rw [forall_getElem?_cons]
  refine ⟨⟨hdrawn, hplace 0 ▸ hfree, ?_⟩, by simp⟩
  rintro _ ⟨part, hpart, rfl⟩ hinside
  have hshort : ∀ part ∈ (Path.mk "/d").segments.inits,
      (follow (FileTree.start [] ⟨"/d"⟩) part).length < 2 := by decide
  have hlength : 2 ≤ (follow (FileTree.start [] ⟨"/d"⟩) part).length := by
    have hprefix := hinside.length_le
    rwa [show (drawingMachine name).workingDirectory = [] from rfl, hplace] at hprefix
  exact absurd (hshort part ((List.mem_inits part _).mpr hpart)) (by omega)

/-- Two runs on it that are given different names write different texts. -/
theorem summarizeAll_again_emptyArchiveHost :
    ∃ after after', (summarizeAll [⟨"/d"⟩] printLine).on (drawingMachine "AAAAAA") emptyArchiveHost =
        (.ok (), after) ∧
      (summarizeAll [⟨"/d"⟩] printLine).on (drawingMachine "BBBBBB") emptyArchiveHost = (.ok (), after') ∧
      after'.files = after.files ∧ after'.printed ≠ after.printed := by
  have hne : [Path.mk "/d"] ≠ [] := List.cons_ne_nil _ _
  have hnew := newScratch_emptyArchiveHost "AAAAAA" ⟨by decide, List.all_eq_true.mp (by decide)⟩ rfl
  have hnew' := newScratch_emptyArchiveHost "BBBBBB" ⟨by decide, List.all_eq_true.mp (by decide)⟩ rfl
  obtain ⟨after, after', text, text', hrun, hrun', hfiles, hfiles', hprinted, hprinted', _, hiff⟩ :=
    summarizeAll_again_eq_iff (sound_emptyArchiveHost "AAAAAA") hne (rfl : _ = (drawingMachine "BBBBBB").environment)
      rfl (rfl : emptyArchiveHost.files = _) hnew hnew'
  refine ⟨after, after', hrun, hrun', hfiles'.trans hfiles.symm, fun hsame => ?_⟩
  have htexts : text' = text := by
    rw [hprinted, hprinted'] at hsame
    simpa only [emptyArchiveHost, Host.ofFiles, String.empty_append] using hsame
  have hnames : (sectionIn (drawingMachine "AAAAAA") emptyArchiveHost.files 0 ⟨"/d"⟩).NamesScratch :=
    ⟨_, failure_emptyArchiveHost, .notExtracted _⟩
  have hname : "BBBBBB" = "AAAAAA" := hiff.mp htexts 0 ⟨"/d"⟩ _ rfl (shows_sectionIn _ _ _ _) hnames
  exact absurd hname (by decide)

end Dump

end DumpReplay
