import DumpReplay.Proofs.Dump.Reusing
import DumpReplay.Proofs.Replay.Repeating

/-!
# Replays in a row

A dump is kept from one replay to the next: between them its files are left alone, and neither
replay writes to the dump but for adjusting its keep rules.  So the second replay opens the dump that
the first one opened, and repeats that one.

Main results:

- `Entered.kept`, `Entered.kept_left` : entering and leaving work directories keeps a dump.
- `Compiled.kept_left` : so does a replay, behind the adjusting of the keep rules.
- `repeats_of_directory` : a replay of a dump that is given as a directory is repeated by the next one.
- `repeats_of_archive` : so is a replay of an archive that is extracted into a work directory that stays.
-/

namespace DumpReplay

open DumpReplay.Action

/-- The names of scratch directories hold no separators. -/
def Machine.NamesScratch (machine : Machine) : Prop :=
  ∀ count, '/' ∉ (machine.scratchName count).toList

/-! ## Scratch directories -/

theorem Path.isName_scratch {ending : String} (h : '/' ∉ ending.toList) :
    Path.IsName ("compiledump" ++ ending) := by
  have hlist : ("compiledump" ++ ending).toList = "compiledump".toList ++ ending.toList :=
    String.toList_append
  have hne : ∀ text : String, text.toList.length < 11 → "compiledump" ++ ending ≠ text := by
    rintro text htext rfl
    rw [hlist, List.length_append] at htext
    have hlength : "compiledump".toList.length = 11 := by decide
    omega
  refine ⟨hne _ (by decide), hne _ (by decide), hne _ (by decide), ?_⟩
  rw [hlist, List.mem_append]
  rintro (hfront | hend)
  · exact absurd hfront (by decide)
  · exact h hend

/-- No file that a dump holds is named like a scratch directory. -/
theorem Dump.IsPart.ne_scratch {name : String} (h : IsPart name) (ending : String) :
    name ≠ "compiledump" ++ ending := by
  have hlist : ("compiledump" ++ ending).toList.take 3 = ['c', 'o', 'm'] := by
    rw [String.toList_append, List.take_append_of_le_length (by decide)]
    decide
  rintro rfl
  rcases h with ⟨artifact, hname⟩ | ⟨index, hname⟩
  · rw [hname] at hlist
    cases artifact <;> exact absurd hlist (by decide)
  · rw [hname, toList_featureName] at hlist
    unfold featureStem at hlist
    simp at hlist

namespace Replay

variable {directory directory' : Option Path} {work source : Path} {options : Options}
variable {tools : Toolchain} {hooks : Hooks} {machine : Machine} {host start again : Host}
variable {tree : FileTree}

/-- The place of a scratch directory is not one of a file that a dump holds. -/
theorem location_scratch_ne (hscratch : machine.NamesScratch) (hnone : directory = none)
    (h : (enter directory).on machine host = (.ok work, start)) (dump : Dump) {name : String}
    (hname : Dump.IsPart name) :
    work.location machine.workingDirectory ≠ dump.place machine.workingDirectory name := by
  subst hnone
  obtain ⟨⟨path, location⟩, middle, hmade, hpure⟩ := on_bind_eq_ok.mp h
  obtain rfl := Except.ok.inj (Prod.mk.inj hpure).1
  dsimp only
  rw [(makeScratch_eq_ok hmade).1, scratchPath, Path.location_child (Path.isName_scratch (hscratch _))]
  exact fun hsame => hname.ne_scratch _ (List.append_singleton_inj.mp hsame).2.symm

/-! ## Entering and leaving -/

/-- An empty path is a directory that need not be made. -/
theorem files_of_enter_empty (h : (enter (some ⟨""⟩)).on machine host = (.ok work, start)) :
    start.files = host.files := by
  obtain ⟨⟨⟩, middle, hmade, hpure⟩ := on_bind_eq_ok.mp h
  obtain ⟨_, rfl⟩ := Prod.mk.inj hpure
  unfold makeDirectories at hmade
  rw [on_bind_of_ok _ (Zip.on_makeDirectories? _ machine host), on_ofIo] at hmade
  rw [← (Prod.mk.inj hmade).2]
  rfl

/-- Entering a work directory keeps a dump, unless a directory is made where the dump could hold a
file. -/
theorem Entered.kept {dump : Dump} (e : Entered directory machine host work start)
    (hpaved : host.files.Paved machine.workingDirectory dump.directory)
    (hstands : ∀ name, Dump.IsPart name →
      work.Way machine.workingDirectory (dump.place machine.workingDirectory name) →
      host.files.get? (dump.place machine.workingDirectory name) ≠ none) :
    dump.Kept machine.workingDirectory host.files start.files := by
  refine ⟨hpaved, e.edited.paved hpaved, fun name hname => ?_⟩
  refine (e.edited.onlyMade fun _ _ => id).resolve_right ?_
  rintro ⟨hway, hfree, _⟩
  exact hstands name hname hway hfree

/-- Leaving a work directory keeps a dump that was there before. -/
theorem Entered.kept_left {dump : Dump} (e : Entered directory machine host work start)
    (hhost : directory = none → host.files.Paved machine.workingDirectory dump.directory)
    (hplace : directory = none → ∀ name, Dump.IsPart name →
      work.location machine.workingDirectory ≠ dump.place machine.workingDirectory name)
    (hpaved : tree.Paved machine.workingDirectory dump.directory) :
    dump.Kept machine.workingDirectory tree (leave directory machine work tree) := by
  cases directory with
  | some given => exact .refl hpaved
  | none =>
    refine ⟨hpaved, e.leave_paved (hhost rfl) hpaved, fun name hname => ?_⟩
    refine FileTree.get?_removeBelow_of_apart _ fun hbelow => ?_
    rcases List.prefix_concat_iff.mp hbelow with hsame | habove
    · exact hplace rfl name hname hsame
    · -- The scratch directory is new, so that it is not above the dump.
      have hopen := (hhost rfl).isOpen_location _ habove
      rw [(e.new rfl).2.1] at hopen
      exact absurd hopen (by simp)

/-! ## Replays that run the compiler -/

/-- What a replay that runs the compiler changes from the opening of the dump on: it makes no
directories. -/
theorem Assembled.changed_end (a : Assembled options tools hooks work machine start)
    (hconsumer : hooks.rulesConsumer = none) :
    Changed machine (fun _ => False) (fun _ => True) a.opened.files
      ((runIn work options tools hooks).on machine start).2.files := by
  have hwarned : Changed machine (fun _ => False) (fun _ => True) a.opened.files a.warned.files :=
    (changes_equip (fun _ _ => True.intro) a.staged options tools).changed a.equip_eq
  have hruled : Changed machine (fun _ => False) (fun _ => True) a.warned.files a.ruled.files := by
    rcases a.rules_cases hconsumer with ⟨_, hsame⟩ | ⟨r, _, _, hwarn, hruled⟩
    · rw [hsame]
    · rw [← hwarn, ← hruled]
      exact .single (.edit (FileTree.edit_write _ (fun _ => True.intro) r.write_eq))
  have hend := changed_of_compile a.compile_eq.symm
  exact (hwarned.trans hruled).trans (hend.mono (fun _ => id) fun _ _ => True.intro)

/-- What it changes up to there. -/
theorem Assembled.changed_opened (a : Assembled options tools hooks work machine start) :
    Changed machine (fun _ => True) (fun _ => True) start.files a.opened.files :=
  (changes_stage options (fun _ _ => True.intro) fun _ _ => True.intro).changed a.stage_eq

/-- A replay that enters its work directory and runs the compiler. -/
structure Compiled (directory : Option Path) (options : Options) (tools : Toolchain) (hooks : Hooks)
    (machine : Machine) (host : Host) where
  work : Path
  start : Host
  enter_eq : (enter directory).on machine host = (.ok work, start)
  assembled : Assembled options tools hooks work machine start

namespace Compiled

variable (c : Compiled directory options tools hooks machine host)

/-- The dump that is opened. -/
abbrev dump : Dump :=
  c.assembled.staged.dump

/-- The host behind a replay. -/
def left (_ : Compiled directory options tools hooks machine host) : Host :=
  ((run directory options tools hooks).on machine host).2

theorem left_eq : c.left = ((run directory options tools hooks).on machine host).2 := rfl

theorem opened (hdump : options.dump = some source) :
    Dump.Opened machine source c.work options.overrideExtraction c.start.files c.dump
      c.assembled.opened.files := by
  obtain ⟨opening, hopen, _, hfiles⟩ := c.assembled.opens hdump
  rw [← hfiles]
  exact Dump.opened_of_openIn hopen

variable (hsound : host.Sound machine)
include hsound

theorem entered : Entered directory machine host c.work c.start :=
  Replay.entered hsound c.enter_eq

theorem files_left :
    c.left.files = leave directory machine c.work
      ((runIn c.work options tools hooks).on machine c.start).2.files :=
  files_of_entered options tools hooks hsound c.enter_eq

/-- The way to the dump is paved when it is opened. -/
theorem paved (hroots : machine.Roots) (hdump : options.dump = some source) :
    c.assembled.opened.files.Paved machine.workingDirectory c.dump.directory := by
  have hrooted := (c.entered hsound).edited.rooted hsound.rooted
  exact (c.opened hdump).paved (c.assembled.changed_opened.rooted hroots hrooted)

/-- A dump that is given as a directory is opened as it is. -/
theorem dump_of_directory (hdump : options.dump = some source)
    (hdirectory : host.files.hasDirectory machine.workingDirectory source = true) :
    c.dump = ⟨source⟩ :=
  ((c.opened hdump).again_directory hdirectory
    ((c.entered hsound).edited.paved (hsound.rooted.paved hdirectory))).1

/-- A replay leaves a host sound. -/
theorem sound_left (hroots : machine.Roots) (hconsumer : hooks.rulesConsumer = none) :
    c.left.Sound machine := by
  have e := c.entered hsound
  have hchanged := c.assembled.changed_opened.trans (c.assembled.changed_end hconsumer).anywhere
  have hend := Changed.rooted hchanged hroots (e.edited.rooted hsound.rooted)
  refine ⟨?_, hsound.named⟩
  rw [c.files_left hsound]
  cases directory with
  | some given => exact hend
  | none => exact hend.removeBelow (FileTree.ne_nil_of_get?_eq_none (e.new rfl).2.1)

/-- Behind the adjusting of the keep rules a replay keeps the dump. -/
theorem kept_left (hroots : machine.Roots) (hscratch : machine.NamesScratch)
    (hdump : options.dump = some source) (hconsumer : hooks.rulesConsumer = none)
    (hspares : machine.Spares (c.dump.Site machine.workingDirectory))
    (hhost : directory = none → host.files.hasDirectory machine.workingDirectory source = true) :
    c.dump.Kept machine.workingDirectory c.assembled.ruled.files c.left.files := by
  have hend := c.assembled.kept_end hspares (c.paved hsound hroots hdump) hconsumer
  rw [c.files_left hsound]
  refine hend.trans ((c.entered hsound).kept_left (fun hnone => ?_) (fun hnone name hname => ?_)
    hend.still)
  · have hsource : c.assembled.staged.dump = ⟨source⟩ :=
      c.dump_of_directory hsound hdump (hhost hnone)
    rw [hsource]
    exact hsound.rooted.paved (hhost hnone)
  · exact location_scratch_ne hscratch hnone c.enter_eq c.dump hname

end Compiled

/-! ## Two replays in a row -/

/-- A work directory is beside another one if what a dump can hold is on the way to it only where it
is on the way to the other. -/
inductive Beside (here : Location) (dump : Dump) : Option Path → Option Path → Prop
  /-- Two scratch directories. -/
  | scratch : Beside here dump none none
  /-- An empty path is no way to go. -/
  | empty (given : Path) : Beside here dump (some given) (some ⟨""⟩)
  /-- Two directories that are given. -/
  | given (given given' : Path) (hne : given.text ≠ "")
      (hway : ∀ name, Dump.IsPart name → given'.Way here (dump.place here name) →
        given.Way here (dump.place here name)) : Beside here dump (some given) (some given')

theorem Beside.refl (here : Location) (dump : Dump) (directory : Option Path) :
    Beside here dump directory directory := by
  cases directory with
  | none => exact .scratch
  | some given =>
    by_cases hempty : given.text = ""
    · obtain ⟨text⟩ := given
      obtain rfl : text = "" := hempty
      exact .empty _
    · exact .given given given hempty fun _ _ => id

section Row

variable (first : Compiled directory options tools hooks machine host)
variable (second : Compiled directory' options tools hooks machine again)
variable (hsound : host.Sound machine) (hagain : again.Sound machine)
variable (hspares : machine.Spares (first.dump.Site machine.workingDirectory))
variable (hsame : ∀ location, first.dump.Site machine.workingDirectory location →
  again.files.get? location = first.left.files.get? location)
include hsound hagain hspares hsame

/-- Entering the work directory of the next replay keeps the dump. -/
theorem kept_again (hscratch : machine.NamesScratch)
    (hbeside : Beside machine.workingDirectory first.dump directory directory')
    (hconsumer : hooks.rulesConsumer = none)
    (hpaved : again.files.Paved machine.workingDirectory first.dump.directory) :
    first.dump.Kept machine.workingDirectory again.files second.start.files := by
  have e := second.entered hagain
  cases hbeside with
  | scratch =>
    refine e.kept hpaved fun name hname hway => ?_
    obtain ⟨hempty, hfree, hfiles⟩ := e.new rfl
    have hopen := ((e.paved.resolve_left hempty).isOpen _ hway).get?_eq
    rw [hfiles, FileTree.get?_insert_of_ne _ _ (FileTree.ne_nil_of_get?_eq_none hfree)
      (location_scratch_ne hscratch rfl second.enter_eq first.dump hname).symm] at hopen
    rw [hopen]
    simp
  | empty given =>
    rw [files_of_enter_empty second.enter_eq]
    exact .refl hpaved
  | given given given' hne hway =>
    refine e.kept hpaved fun name hname hpassed => ?_
    have e₁ := first.entered hsound
    rw [e.given given' rfl] at hpassed
    have hpassed₁ := hway name hname hpassed
    rw [← e₁.given given rfl] at hne
    have hwork := e₁.paved.resolve_left hne
    rw [e₁.given given rfl] at hwork
    -- It was on the way to the first work directory, so that a directory stands there since.
    have hopen := hwork.isOpen _ hpassed₁
    have hchanged := first.assembled.changed_opened.trans
      (first.assembled.changed_end hconsumer).anywhere
    have hend := Changed.isOpen hchanged hspares
      (fun above habove => Dump.site_of_above hname habove) hopen
    rw [hsame _ (.inr ⟨name, hname, rfl⟩), first.files_left hsound, leave, hend.get?_eq]
    simp

/-- A replay repeats the one before if it opens the same dump. -/
theorem repeats_of_opened (hroots : machine.Roots) (hscratch : machine.NamesScratch)
    (hdump : options.dump = some source) (hconsumer : hooks.rulesConsumer = none)
    (hhost : directory = none → host.files.hasDirectory machine.workingDirectory source = true)
    (hbeside : Beside machine.workingDirectory first.dump directory directory')
    (hopened : first.dump.Kept machine.workingDirectory first.assembled.ruled.files
        second.start.files →
      second.dump = first.dump ∧ second.assembled.opened.files = second.start.files) :
    Repeats 1 first.assembled second.assembled := by
  have hpaved := first.paved hsound hroots hdump
  have hleft := first.kept_left hsound hroots hscratch hdump hconsumer hspares hhost
  have hbetween := Dump.kept_of_site hsame hleft.still
  have hstart := (hleft.trans hbetween).trans
    (kept_again first second hsound hagain hspares hsame hscratch hbeside hconsumer hbetween.still)
  obtain ⟨hdumps, hfiles⟩ := hopened hstart
  refine repeats_of_kept first.assembled second.assembled hspares hdumps ?_ hconsumer hpaved hdump
  rw [hfiles]
  exact hstart

/-- A replay of a dump that is given as a directory is repeated by the next one. -/
theorem repeats_of_directory (hroots : machine.Roots) (hscratch : machine.NamesScratch)
    (hdump : options.dump = some source) (hconsumer : hooks.rulesConsumer = none)
    (hhost : directory = none → host.files.hasDirectory machine.workingDirectory source = true)
    (hbeside : Beside machine.workingDirectory first.dump directory directory')
    (hdirectory : first.start.files.hasDirectory machine.workingDirectory source = true) :
    Repeats 1 first.assembled second.assembled := by
  have hrooted := (first.entered hsound).edited.rooted hsound.rooted
  have hfirst := ((first.opened hdump).again_directory hdirectory (hrooted.paved hdirectory)).1
  refine repeats_of_opened first second hsound hagain hspares hsame hroots hscratch hdump hconsumer
    hhost hbeside fun hkept => ?_
  have hstill := hkept.still
  rw [hfirst] at hstill ⊢
  exact (second.opened hdump).again_directory hdirectory hstill

end Row

/-- An archive is no directory when the next replay is about to open it. -/
theorem not_directory_again {given : Path}
    (first : Compiled (some given) options tools hooks machine host)
    (second : Compiled (some given) options tools hooks machine again)
    (hsound : host.Sound machine) (hagain : again.Sound machine)
    (hconsumer : hooks.rulesConsumer = none)
    {bytes : ByteArray} {executable : Bool}
    (hstart : first.start.files.get? (source.location machine.workingDirectory) =
      some (.file bytes executable))
    (hopened : first.assembled.opened.files.get? (source.location machine.workingDirectory) ≠
      some .directory)
    (hspares : machine.Spares ((Dump.mk source).Site machine.workingDirectory))
    (hsame : again.files.get? (source.location machine.workingDirectory) =
      first.left.files.get? (source.location machine.workingDirectory)) :
    second.start.files.get? (source.location machine.workingDirectory) ≠ some .directory := by
  have hspot : (Dump.mk source).Site machine.workingDirectory
      (source.location machine.workingDirectory) :=
    .inl ⟨_, source.way_location _, List.prefix_rfl⟩
  have hend := (first.assembled.changed_end hconsumer).not_directory hspares hspot id hopened
  have hbetween : again.files.get? (source.location machine.workingDirectory) ≠
      some .directory := by
    rw [hsame, first.files_left hsound]
    exact hend
  have e₁ := first.entered hsound
  have e := second.entered hagain
  by_cases hempty : given.text = ""
  · obtain ⟨text⟩ := given
    obtain rfl : text = "" := hempty
    rwa [files_of_enter_empty second.enter_eq]
  · refine (Changed.of_edited e.edited).not_directory hspares hspot (fun hway => ?_) hbetween
    -- What is on the way to the work directory is a directory since the first replay.
    rw [e.given given rfl, ← e₁.given given rfl] at hway
    rw [← e₁.given given rfl] at hempty
    have hopen := ((e₁.paved.resolve_left hempty).isOpen _ hway).get?_eq
    rw [hstart] at hopen
    exact absurd hopen (by simp)

/-- A replay of an archive that is extracted into a work directory is repeated by the next one there,
if the extraction is not to be overridden. -/
theorem repeats_of_archive {given : Path}
    (first : Compiled (some given) options tools hooks machine host)
    (second : Compiled (some given) options tools hooks machine again)
    (hsound : host.Sound machine) (hagain : again.Sound machine) (hroots : machine.Roots)
    (hscratch : machine.NamesScratch) (hdump : options.dump = some source)
    (hconsumer : hooks.rulesConsumer = none) (hkeeps : options.overrideExtraction = false)
    (hfile : first.start.files.hasFile machine.workingDirectory source = true)
    (hsource : machine.Spares ((Dump.mk source).Site machine.workingDirectory))
    (hspares : machine.Spares (first.dump.Site machine.workingDirectory))
    (hsame : ∀ location, (Dump.mk source).Site machine.workingDirectory location ∨
        first.dump.Site machine.workingDirectory location →
      again.files.get? location = first.left.files.get? location) :
    Repeats 1 first.assembled second.assembled := by
  have hpaved := first.paved hsound hroots hdump
  refine repeats_of_opened first second hsound hagain hspares (fun _ hsite => hsame _ (.inr hsite))
    hroots hscratch hdump hconsumer (by simp) (.refl _ _ _) fun hkept => ?_
  obtain ⟨hwork, hgrows, hmarked⟩ := (first.opened hdump).of_hasFile hfile
  have hnot : second.start.files.get? (source.location machine.workingDirectory) ≠
      some .directory := by
    obtain ⟨bytes, executable, hstatus⟩ := FileTree.hasFile_iff.mp hfile
    obtain ⟨location, hlocate, hstart⟩ := FileTree.status_eq_ok_iff.mp hstatus
    rw [FileTree.location_of_locate hlocate] at hstart
    obtain ⟨_, _, hopened, _⟩ := hgrows.file _ _ _ hstart
    refine not_directory_again first second hsound hagain hconsumer hstart ?_ hsource
      (hsame _ (.inl (.inl ⟨_, source.way_location _, List.prefix_rfl⟩)))
    rw [hopened]
    simp
  have halike : first.dump.Alike machine.workingDirectory first.assembled.opened.files
      second.start.files :=
    (first.assembled.alike_ruled hspares hpaved hconsumer).trans hkept.alike
  have hsecond := second.opened hdump
  rw [hkeeps] at hsecond
  have hworks : second.work = first.work := by
    rw [(second.entered hagain).given given rfl, (first.entered hsound).given given rfl]
  rw [hwork] at halike
  obtain ⟨hdumps, hfiles⟩ := hsecond.again_archive hnot
    (by rw [hworks, halike.isMarked_eq, hmarked])
  exact ⟨by rw [hdumps, hwork, hworks], hfiles⟩

/-- A replay repeats the one before if its dump was left alone in between: a directory, or an archive
in a work directory that stays, where it is not to be extracted again. -/
theorem repeats_of_left_alone
    (first : Compiled directory options tools hooks machine host)
    (second : Compiled directory options tools hooks machine again)
    (hsound : host.Sound machine) (hagain : again.Sound machine) (hroots : machine.Roots)
    (hscratch : machine.NamesScratch) (hdump : options.dump = some source)
    (hconsumer : hooks.rulesConsumer = none)
    (hstays : host.files.hasDirectory machine.workingDirectory source = true ∨
      directory ≠ none ∧ options.overrideExtraction = false)
    (hsource : machine.Spares ((Dump.mk source).Site machine.workingDirectory))
    (hspares : machine.Spares (first.dump.Site machine.workingDirectory))
    (hsame : ∀ location, (Dump.mk source).Site machine.workingDirectory location ∨
        first.dump.Site machine.workingDirectory location →
      again.files.get? location = first.left.files.get? location) :
    Repeats 1 first.assembled second.assembled := by
  rcases (first.opened hdump).source_cases with hdirectory | hfile
  · refine repeats_of_directory first second hsound hagain hspares (fun _ hsite => hsame _ (.inr hsite))
      hroots hscratch hdump hconsumer (fun hnone => ?_) (.refl _ _ _) hdirectory
    exact hstays.resolve_right fun ⟨hgiven, _⟩ => hgiven hnone
  · rcases hstays with hhost | ⟨hgiven, hkeeps⟩
    · have hdirectory := (first.entered hsound).hasDirectory hsound hhost
      rw [FileTree.hasDirectory_of_hasFile hfile] at hdirectory
      exact absurd hdirectory (by simp)
    · obtain ⟨given, rfl⟩ := Option.ne_none_iff_exists'.mp hgiven
      exact repeats_of_archive first second hsound hagain hroots hscratch hdump hconsumer hkeeps hfile
        hsource hspares hsame

end Replay

end DumpReplay
