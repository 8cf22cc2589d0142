import DumpReplay.Proofs.Dump.Drawing
import DumpReplay.Proofs.Replay.Quiet

/-!
# Summaries of lists

The summary of a list is its sections, one behind the other, and no section shows where in the list it
stands.  So two lists can be summarized together or one after the other.

Main results:

- `shows_sectionIn` : how a section comes about.
- `sectionIn_eq` : a section is the same in any files that are the same where it is about them.
- `on_summarizeAll` : the summary of a list consists of its sections.
- `reportsAlike_reportIn` : in alike scratch directories the summaries of a list are alike.
- `summarizeAll_append` : the summary of two lists is that of the first and then that of the second.
-/

namespace DumpReplay.Dump

open DumpReplay.Action

variable {machine machine' : Machine} {files files' : FileTree} {count count' : Nat} {path : Path}
variable {shown : Section} {host : Host}

/-! ## Where sections come from -/

/-- How the section of a path comes about. -/
inductive Shows (machine : Machine) (files : FileTree) (count : Nat) (path : Path) : Section → Prop
  /-- The scratch directory cannot be made, and nothing is written. -/
  | notMade {cause : IoError}
      (hmade : scratchIn files machine.workingDirectory (scratchPath machine count) = .error cause) :
      Shows machine files count path ⟨"", some (.io (.atPath cause
        (String.ofList (Text.quoted (scratchPath machine count).toList))))⟩
  /-- The dump cannot be opened, and nothing is written. -/
  | notOpened {made : FileTree} {location : Location} {failure : Failure} {behind : Host}
      (hmade : scratchIn files machine.workingDirectory (scratchPath machine count) =
        .ok (made, location))
      (hopen : (openIn path (scratchPath machine count) false).on machine (freshHost made (count + 1)) =
        (.error failure, behind)) :
      Shows machine files count path ⟨"", some failure⟩
  /-- The dump is opened, and what is shown of it is written as far as that goes. -/
  | opened {made : FileTree} {location : Location} {dump : Dump} {middle behind : Host}
      {outcome : Except Failure Unit}
      (hmade : scratchIn files machine.workingDirectory (scratchPath machine count) =
        .ok (made, location))
      (hopen : (openIn path (scratchPath machine count) false).on machine (freshHost made (count + 1)) =
        (.ok dump, middle))
      (hquiet : middle.printed = "")
      (hshow : (summarize dump printLine).on machine middle = (outcome, behind)) :
      Shows machine files count path ⟨behind.printed, failureOf outcome⟩

/-- Opening a dump prints nothing. -/
theorem printed_of_openIn {work source : Path} {override : Bool} {outcome : Except Failure Dump}
    {behind : Host} (h : (openIn source work override).on machine host = (outcome, behind)) :
    behind.printed = host.printed :=
  congrArg Prod.snd ((quiet_openIn source work override).eq h)

theorem sectionIn_of_notMade {cause : IoError}
    (hmade : scratchIn files machine.workingDirectory (scratchPath machine count) = .error cause) :
    sectionIn machine files count path = ⟨"", some (.io (.atPath cause
      (String.ofList (Text.quoted (scratchPath machine count).toList))))⟩ := by
  unfold sectionIn summarizePath
  rw [on_withScratch, on_makeScratch]
  dsimp only [freshHost, Host.ofFiles]
  rw [hmade]
  rfl

/-- A section is what is opened and shown in its scratch directory. -/
theorem sectionIn_of_made {made : FileTree} {location : Location} {outcome : Except Failure Unit}
    {behind : Host}
    (hmade : scratchIn files machine.workingDirectory (scratchPath machine count) =
      .ok (made, location))
    (hrun : (openIn path (scratchPath machine count) false >>= fun dump => summarize dump printLine).on
      machine (freshHost made (count + 1)) = (outcome, behind)) :
    sectionIn machine files count path = ⟨behind.printed, failureOf outcome⟩ := by
  unfold sectionIn summarizePath
  rw [on_withScratch, on_makeScratch]
  dsimp only [freshHost, Host.ofFiles] at hrun ⊢
  rw [hmade]
  dsimp only
  rw [hrun]

/-- Every section comes about in one of these ways. -/
theorem shows_sectionIn (machine : Machine) (files : FileTree) (count : Nat) (path : Path) :
    Shows machine files count path (sectionIn machine files count path) := by
  cases hmade : scratchIn files machine.workingDirectory (scratchPath machine count) with
  | error cause =>
    rw [sectionIn_of_notMade hmade]
    exact .notMade hmade
  | ok value =>
    obtain ⟨made, location⟩ := value
    rcases hopen : (openIn path (scratchPath machine count) false).on machine
      (freshHost made (count + 1)) with ⟨opened, middle⟩
    have hquiet : middle.printed = "" := printed_of_openIn hopen
    cases opened with
    | error failure =>
      rw [sectionIn_of_made hmade (on_bind_of_error _ hopen), hquiet]
      exact .notOpened hmade hopen
    | ok dump =>
      rcases hshow : (summarize dump printLine).on machine middle with ⟨outcome, behind⟩
      rw [sectionIn_of_made hmade ((on_bind_of_ok _ hopen).trans hshow)]
      exact .opened hmade hopen hquiet hshow

/-- A section comes about in one way only. -/
theorem Shows.eq (h : Shows machine files count path shown) :
    shown = sectionIn machine files count path := by
  cases h with
  | notMade hmade => rw [sectionIn_of_notMade hmade]
  | notOpened hmade hopen =>
    rw [sectionIn_of_made hmade (on_bind_of_error _ hopen), printed_of_openIn hopen]
    rfl
  | opened hmade hopen hquiet hshow =>
    rw [sectionIn_of_made hmade ((on_bind_of_ok _ hopen).trans hshow)]

/-- A section is the same in any files that are the same where it is about them, in the same scratch
directory. -/
theorem sectionIn_eq (hwork : machine'.workingDirectory = machine.workingDirectory)
    (hnamed : ∀ name ∈ machine.workingDirectory, Path.IsName name) (hrooted : files.Rooted)
    (hrooted' : files'.Rooted) (hscratch : scratchPath machine' count' = scratchPath machine count)
    (hsame : ∀ location, Concerns machine.workingDirectory (scratchPath machine count) path location →
      files'.get? location = files.get? location) :
    sectionIn machine' files' count' path = sectionIn machine files count path := by
  exact (sectionIn_alike_of_same hwork hnamed hrooted hrooted' hscratch hsame).eq

/-- How a section comes about depends on the files only where it is about them. -/
theorem Shows.of_same (h : Shows machine files count path shown)
    (hnamed : ∀ name ∈ machine.workingDirectory, Path.IsName name) (hrooted : files.Rooted)
    (hrooted' : files'.Rooted)
    (hsame : ∀ location, Concerns machine.workingDirectory (scratchPath machine count) path location →
      files'.get? location = files.get? location) : Shows machine files' count path shown := by
  rw [h.eq, ← sectionIn_eq rfl hnamed hrooted hrooted' rfl hsame]
  exact shows_sectionIn machine files' count path

/-! ## Scratch directories of lists -/

/-- What holds at every place of a list holds at its head and at every place behind. -/
theorem forall_getElem?_cons {α : Type} {item : α} {items : List α} {p : Nat → α → Prop} :
    (∀ index other, (item :: items)[index]? = some other → p index other) ↔
      p 0 item ∧ ∀ index other, items[index]? = some other → p (index + 1) other := by
  constructor
  · exact fun h => ⟨h 0 item rfl, fun index other hother => h (index + 1) other hother⟩
  · rintro ⟨hhead, htail⟩ index other hother
    cases index with
    | zero =>
      obtain rfl := Option.some.inj hother
      exact hhead
    | succ index => exact htail index other hother

/-- Two machines give alike scratch directories for some paths, each behind as many as were made on it
before: for every path the same one, or two that are new. -/
structure AlikeScratches (machine machine' : Machine) (files : FileTree) (count count' : Nat)
    (paths : List Path) : Prop where
  environment : machine'.environment = machine.environment
  workingDirectory : machine'.workingDirectory = machine.workingDirectory
  names : ∀ index path, paths[index]? = some path →
    machine'.scratchName (count' + index) = machine.scratchName (count + index) ∨
      NewScratch machine files (count + index) path ∧ NewScratch machine' files (count' + index) path

namespace AlikeScratches

variable {paths : List Path} (h : AlikeScratches machine machine' files count count' (path :: paths))
include h

theorem tail : AlikeScratches machine machine' files (count + 1) (count' + 1) paths := by
  refine ⟨h.environment, h.workingDirectory, ?_⟩
  have htail := (forall_getElem?_cons.mp h.names).2
  simpa only [← Nat.add_assoc, Nat.add_right_comm _ _ 1] using htail

/-- The sections of the first path are alike. -/
theorem head (hnamed : ∀ name ∈ machine.workingDirectory, Path.IsName name) (hrooted : files.Rooted) :
    Section.Alike (scratchPath machine count) (scratchPath machine' count')
      (sectionIn machine files count path) (sectionIn machine' files count' path) := by
  rcases (forall_getElem?_cons.mp h.names).1 with hname | ⟨hnew, hnew'⟩
  · have hscratch : scratchPath machine' count' = scratchPath machine count := by
      rw [Nat.add_zero, Nat.add_zero] at hname
      rw [scratchPath_eq_child h.environment, hname, scratchPath]
    rw [hscratch]
    exact sectionIn_alike_of_same h.workingDirectory hnamed hrooted hrooted hscratch fun _ _ => rfl
  · exact sectionIn_alike h.environment hnew hnew' h.workingDirectory hnamed hrooted

end AlikeScratches

/-! ## Lists -/

/-- Two texts are alike summaries of some paths, given how many scratch directories were made before
each: they consist of one section for each path, and the sections of a path are alike. -/
inductive ReportsAlike (machine machine' : Machine) (files : FileTree) :
    Nat → Nat → List Path → String → String → Prop
  | nil (count count' : Nat) : ReportsAlike machine machine' files count count' [] "" ""
  | cons {count count' : Nat} {path : Path} {paths : List Path} {shown shown' : Section}
      {rest rest' : String} (h : Shows machine files count path shown)
      (h' : Shows machine' files count' path shown')
      (halike : Section.Alike (scratchPath machine count) (scratchPath machine' count') shown shown')
      (hrest : ReportsAlike machine machine' files (count + 1) (count' + 1) paths rest rest') :
      ReportsAlike machine machine' files count count' (path :: paths) (shown.text path ++ rest)
        (shown'.text path ++ rest')

/-- Alike summaries in the same scratch directories are the same. -/
theorem ReportsAlike.eq {paths : List Path} {text text' : String}
    (h : ReportsAlike machine machine' files count count' paths text text')
    (hsame : ∀ index < paths.length,
      scratchPath machine' (count' + index) = scratchPath machine (count + index)) : text' = text := by
  induction h with
  | nil => rfl
  | cons h h' halike hrest ih =>
    have hhead := hsame 0 (Nat.succ_pos _)
    rw [Nat.add_zero, Nat.add_zero] at hhead
    rw [hhead] at halike
    rw [halike.eq, ih fun index hindex => ?_]
    have htail := hsame (index + 1) (Nat.succ_lt_succ hindex)
    rwa [Nat.add_comm index 1, ← Nat.add_assoc, ← Nat.add_assoc] at htail

/-- The text of the sections of some paths, given how many scratch directories were made before. -/
def reportIn (machine : Machine) (files : FileTree) : Nat → List Path → String
  | _, [] => ""
  | count, path :: paths =>
    (sectionIn machine files count path).text path ++ reportIn machine files (count + 1) paths

/-- The summaries of some paths are alike in alike scratch directories. -/
theorem reportsAlike_reportIn {paths : List Path}
    (h : AlikeScratches machine machine' files count count' paths)
    (hnamed : ∀ name ∈ machine.workingDirectory, Path.IsName name) (hrooted : files.Rooted) :
    ReportsAlike machine machine' files count count' paths (reportIn machine files count paths)
      (reportIn machine' files count' paths) := by
  induction paths generalizing count count' with
  | nil => exact .nil count count'
  | cons path paths ih =>
    exact .cons (shows_sectionIn machine files count path) (shows_sectionIn machine' files count' path)
      (h.head hnamed hrooted) (ih h.tail)

/-- The sections of two lists are those of the first and then those of the second. -/
theorem reportIn_append (machine : Machine) (files : FileTree) (count : Nat) (first second : List Path) :
    reportIn machine files count (first ++ second) =
      reportIn machine files count first ++ reportIn machine files (count + first.length) second := by
  induction first generalizing count with
  | nil => exact String.empty_append.symm
  | cons path paths ih =>
    rw [List.cons_append, reportIn, reportIn, ih, String.append_assoc, List.length_cons, Nat.add_assoc,
      Nat.add_comm 1]

/-- The loop over some paths prints their sections, one behind the other.  It leaves the files as they
were, and it never fails. -/
theorem on_sections (hsound : host.Sound machine) (paths : List Path) :
    ∃ after, (ForIn.forIn paths PUnit.unit fun path _ => do
        summarizeSection path printLine
        pure (ForInStep.yield PUnit.unit)).on machine host = (.ok PUnit.unit, after) ∧
      after.files = host.files ∧
      after.printed = host.printed ++ reportIn machine host.files host.scratches paths := by
  induction paths generalizing host with
  | nil => exact ⟨host, rfl, rfl, String.append_empty.symm⟩
  | cons path paths ih =>
    obtain ⟨middle, hsection, hfiles, hscratches, hprinted⟩ := summarizeSection_spec hsound path
    have hmiddle : middle.Sound machine := ⟨hfiles.symm ▸ hsound.rooted, hsound.named⟩
    obtain ⟨after, hrest, hfiles', hprinted'⟩ := ih hmiddle
    refine ⟨after, ?_, hfiles'.trans hfiles, ?_⟩
    · rw [List.forIn_cons, bind_assoc, on_bind_of_ok _ hsection]
      exact hrest
    · rw [hprinted', hprinted, hfiles, hscratches, reportIn, String.append_assoc]

/-- The summary of a list consists of its sections, and the files are as they were before. -/
theorem on_summarizeAll (hsound : host.Sound machine) {paths : List Path} (hne : paths ≠ []) :
    ∃ after, (summarizeAll paths printLine).on machine host = (.ok (), after) ∧
      after.files = host.files ∧
      after.printed = host.printed ++ reportIn machine host.files host.scratches paths := by
  obtain ⟨after, hrun, hbehind⟩ := on_sections hsound paths
  refine ⟨after, ?_, hbehind⟩
  unfold summarizeAll
  rw [if_neg (by simpa using hne), on_bind_of_ok _ hrun]
  rfl

/-- A summary fails exactly for the empty list. -/
theorem summarizeAll_eq_error_iff (hsound : host.Sound machine) (paths : List Path) :
    (∃ failure after, (summarizeAll paths printLine).on machine host = (.error failure, after)) ↔
      paths = [] := by
  constructor
  · rintro ⟨failure, after, hrun⟩
    by_contra hne
    obtain ⟨_, hok, _⟩ := on_summarizeAll hsound hne
    rw [hok] at hrun
    exact absurd (Prod.mk.inj hrun).1 (by simp)
  · rintro rfl
    exact ⟨_, _, rfl⟩

/-- The summary of two lists, one behind the other, is that of the first and then that of the second,
but for the names of the scratch directories.  Each consists of one section for each path, no section is
about more than its own dump, and the files are as they were before. -/
theorem summarizeAll_append {machine first second : Machine} {host hostFirst hostSecond : Host}
    {ps qs : List Path} (hsound : host.Sound machine) (hps : ps ≠ []) (hqs : qs ≠ [])
    (hfirst : AlikeScratches machine first host.files host.scratches hostFirst.scratches ps)
    (hsecond : AlikeScratches machine second host.files (host.scratches + ps.length)
      hostSecond.scratches qs)
    (hfiles : hostFirst.files = host.files) (hfiles' : hostSecond.files = host.files) :
    (∃ after afterFirst afterSecond text text' textFirst textSecond,
      (summarizeAll (ps ++ qs) printLine).on machine host = (.ok (), after) ∧
      (summarizeAll ps printLine).on first hostFirst = (.ok (), afterFirst) ∧
      (summarizeAll qs printLine).on second hostSecond = (.ok (), afterSecond) ∧
      after.files = host.files ∧ afterFirst.files = host.files ∧ afterSecond.files = host.files ∧
      after.printed = host.printed ++ (text ++ text') ∧
      afterFirst.printed = hostFirst.printed ++ textFirst ∧
      afterSecond.printed = hostSecond.printed ++ textSecond ∧
      ReportsAlike machine first host.files host.scratches hostFirst.scratches ps text textFirst ∧
      ReportsAlike machine second host.files (host.scratches + ps.length) hostSecond.scratches qs text'
        textSecond ∧
      ((∀ index < ps.length, scratchPath first (hostFirst.scratches + index) =
          scratchPath machine (host.scratches + index)) →
        (∀ index < qs.length, scratchPath second (hostSecond.scratches + index) =
          scratchPath machine (host.scratches + ps.length + index)) →
        after.printed = host.printed ++ (textFirst ++ textSecond))) ∧
    (∀ files count path shown, files.Rooted →
      (∀ location, Concerns machine.workingDirectory (scratchPath machine count) path location →
        files.get? location = host.files.get? location) →
      Shows machine host.files count path shown → Shows machine files count path shown) ∧
    ∀ paths, (∃ failure after,
      (summarizeAll paths printLine).on machine host = (.error failure, after)) ↔ paths = [] := by
  have hsoundFirst : hostFirst.Sound first :=
    ⟨hfiles.symm ▸ hsound.rooted, hfirst.workingDirectory.symm ▸ hsound.named⟩
  have hsoundSecond : hostSecond.Sound second :=
    ⟨hfiles'.symm ▸ hsound.rooted, hsecond.workingDirectory.symm ▸ hsound.named⟩
  obtain ⟨after, hrun, hkept, hprinted⟩ := on_summarizeAll hsound (List.append_ne_nil_of_left_ne_nil hps qs)
  obtain ⟨afterFirst, hrunFirst, hkeptFirst, hprintedFirst⟩ := on_summarizeAll hsoundFirst hps
  obtain ⟨afterSecond, hrunSecond, hkeptSecond, hprintedSecond⟩ := on_summarizeAll hsoundSecond hqs
  have halike := reportsAlike_reportIn hfirst hsound.named hsound.rooted
  have halike' := reportsAlike_reportIn hsecond hsound.named hsound.rooted
  rw [hfiles] at hkeptFirst hprintedFirst
  rw [hfiles'] at hkeptSecond hprintedSecond
  rw [reportIn_append] at hprinted
  refine ⟨⟨after, afterFirst, afterSecond, _, _, _, _, hrun, hrunFirst, hrunSecond, hkept, hkeptFirst,
    hkeptSecond, hprinted, hprintedFirst, hprintedSecond, halike, halike', fun hsame hsame' => ?_⟩, ?_,
    summarizeAll_eq_error_iff hsound⟩
  · rw [hprinted, halike.eq hsame, halike'.eq hsame']
  · intro files count path shown hrooted hsame hshows
    exact hshows.of_same hsound.named hsound.rooted hrooted hsame

/-- A machine that numbers its scratch directories. -/
def numberingMachine : Machine :=
  { idleMachine with scratchName := fun count => toString count }

/-- A host with an archive that cannot be extracted, and a directory that is a dump. -/
def mixedHost : Host :=
  .ofFiles ⟨[(["tmp"], .directory), (["d"], .file brokenBytes false), (["e"], .directory),
    (["e", "r8-version"], .file (Text.toBytes "8.2.47") false)]⟩

theorem sound_mixedHost : mixedHost.Sound numberingMachine := by
  refine ⟨FileTree.rooted_of_entries fun entry hentry => ?_, by simp [numberingMachine, idleMachine]⟩
  simp only [mixedHost, Host.ofFiles, List.mem_cons, List.not_mem_nil, or_false] at hentry
  rcases hentry with rfl | rfl | rfl | rfl <;> rfl

/-- An archive that cannot be extracted is reported, and the directory behind it is shown as it is
alone. -/
theorem summarizeAll_append_mixedHost :
    ∃ after afterFirst afterSecond,
      (summarizeAll [⟨"/d"⟩, ⟨"/e"⟩] printLine).on numberingMachine mixedHost = (.ok (), after) ∧
      (summarizeAll [⟨"/d"⟩] printLine).on numberingMachine mixedHost = (.ok (), afterFirst) ∧
      (summarizeAll [⟨"/e"⟩] printLine).on numberingMachine (freshHost mixedHost.files 1) =
        (.ok (), afterSecond) ∧
      after.files = mixedHost.files ∧ after.printed = afterFirst.printed ++ afterSecond.printed := by
  have hps : [Path.mk "/d"] ≠ [] := List.cons_ne_nil _ _
  have hqs : [Path.mk "/e"] ≠ [] := List.cons_ne_nil _ _
  have hfirst : AlikeScratches numberingMachine numberingMachine mixedHost.files mixedHost.scratches
      mixedHost.scratches [⟨"/d"⟩] := ⟨rfl, rfl, fun _ _ _ => .inl rfl⟩
  have hsecond : AlikeScratches numberingMachine numberingMachine mixedHost.files
      (mixedHost.scratches + [Path.mk "/d"].length) (freshHost mixedHost.files 1).scratches
      [⟨"/e"⟩] := ⟨rfl, rfl, fun _ _ _ => .inl rfl⟩
  obtain ⟨⟨after, afterFirst, afterSecond, _, _, textFirst, textSecond, hrun, hrunFirst, hrunSecond,
    hfiles, _, _, _, hprintedFirst, hprintedSecond, _, _, hprinted⟩, _⟩ :=
    summarizeAll_append sound_mixedHost hps hqs hfirst hsecond rfl rfl
  refine ⟨after, afterFirst, afterSecond, hrun, hrunFirst, hrunSecond, hfiles, ?_⟩
  have hblank : ∀ text : String, "" ++ text = text := fun _ => String.empty_append
  rw [hprinted (fun _ _ => rfl) fun _ _ => rfl, hprintedFirst, hprintedSecond]
  simp only [mixedHost, freshHost, Host.ofFiles, hblank]

example :
    ((summarizeAll [⟨"/d"⟩, ⟨"/e"⟩] printLine).on numberingMachine mixedHost).2.printed =
      "/d:\nError: Archive error: i/o error\n/e:\nversion=8.2.47\n" := by
  decide +kernel

end DumpReplay.Dump
