import DumpReplay.Proofs.Dump.Alike
import DumpReplay.Proofs.Dump.Batching
import DumpReplay.Proofs.Dump.Resummarizing
import DumpReplay.Proofs.Replay.Returning

/-!
# Archives and unpacked directories

An archive that can be extracted and the directory that holds what is extracted from it are the same
dump: the same is shown of both and decided for both, but for where the dump is.

Main results:

- `HoldsExactly.of_twins` : twin directories hold exactly the same.
- `openIn_of_extraction` : an archive is opened in an empty work directory, which then holds what is
  extracted.
- `sectionIn_unpacked` : an archive and its unpacked directory have the same section.
- `Replay.stage_unpacked` : a replay of the one and of the other is staged alike.
- `section_and_stage_unpacked` : so they are the same dump.
-/

namespace DumpReplay

open DumpReplay.Action

/-! ## What a directory holds -/

/-- What stands in a directory, by the names that lead there: a file with its content, a directory, or
nothing. -/
abbrev Contents :=
  List String → Option (Option ByteArray)

namespace FileTree

/-- What a path leads to: a file with its content, a directory, or nothing. -/
def content? (tree : FileTree) (here : Location) (path : Path) : Option (Option ByteArray) :=
  match tree.status here path with
  | .ok (.file bytes _) => some (some bytes)
  | .ok .directory => some none
  | .error _ => none

/-- A directory holds exactly some contents. -/
def HoldsExactly (tree : FileTree) (here : Location) (directory : Path) (contents : Contents) : Prop :=
  ∀ names, (∀ name ∈ names, Path.IsName name) →
    tree.content? here (directory.descendant names) = contents names

/-- A path leads to a directory with nothing in it. -/
structure HoldsNothing (tree : FileTree) (here : Location) (directory : Path) : Prop where
  isDirectory : tree.hasDirectory here directory = true
  empty : ∀ names, names ≠ [] → tree.get? (directory.location here ++ names) = none

variable {tree tree' rest rest' : FileTree} {here : Location} {path path' directory directory' : Path}
variable {contents : Contents} {name : String}

theorem content?_eq_directory_iff :
    tree.content? here path = some none ↔ tree.hasDirectory here path = true := by
  unfold content? hasDirectory
  cases tree.status here path with
  | error cause => simp
  | ok node => cases node <;> simp [Node.isDirectory]

theorem content?_eq_file_iff {bytes : ByteArray} :
    tree.content? here path = some (some bytes) ↔
      ∃ executable, tree.status here path = .ok (.file bytes executable) := by
  unfold content?
  cases tree.status here path with
  | error cause => simp
  | ok node => cases node <;> simp

theorem has_eq_isSome_content? : tree.has here path = (tree.content? here path).isSome := by
  unfold content? has
  cases tree.status here path with
  | error cause => rfl
  | ok node => cases node <;> rfl

/-- Paths that lead to the same are there alike. -/
theorem has_eq_of_content? (h : tree'.content? here path' = tree.content? here path) :
    tree'.has here path' = tree.has here path := by
  rw [has_eq_isSome_content?, has_eq_isSome_content?, h]

/-- What stands at a path decides what reading it gives. -/
theorem read_eq_of_has (hhas : tree.has here path = true) :
    tree.read here path = (tree.content? here path).join.elim (.error .isADirectory) .ok := by
  unfold has at hhas
  unfold read content?
  cases hstatus : tree.status here path with
  | error cause =>
    rw [hstatus] at hhas
    exact absurd hhas (by simp)
  | ok node => cases node <;> rfl

/-- A path that leads to something reads like one that leads to the same. -/
theorem read_eq_of_content? (h : tree'.content? here path' = tree.content? here path)
    (hhas : tree.has here path = true) : tree'.read here path' = tree.read here path := by
  have hhas' : tree'.has here path' = true := (has_eq_of_content? h).trans hhas
  rw [read_eq_of_has hhas, read_eq_of_has hhas', h]

theorem content?_eq_of_status (h : tree'.status here path' = tree.status here path) :
    tree'.content? here path' = tree.content? here path := by
  rw [content?, content?, h]

/-- What a directory holds under a name. -/
theorem HoldsExactly.child (h : tree.HoldsExactly here directory contents) (hname : Path.IsName name) :
    tree.content? here (directory.child name) = contents [name] := by
  have hcontent := h [name] (by simpa using hname)
  rwa [Path.descendant_cons, Path.descendant_nil] at hcontent

/-- What holds exactly some contents is a directory if they say so. -/
theorem HoldsExactly.hasDirectory_iff (h : tree.HoldsExactly here directory contents) :
    contents [] = some none ↔ tree.hasDirectory here directory = true := by
  have hcontent := h [] (by simp)
  rw [Path.descendant_nil] at hcontent
  rw [← hcontent, content?_eq_directory_iff]

/-- Twin directories hold exactly the same. -/
theorem HoldsExactly.of_twins (h : tree.HoldsExactly here directory contents)
    (htwins : Twins here directory directory' rest rest' tree tree') :
    tree'.HoldsExactly here directory' contents := by
  intro names hnames
  rw [content?_eq_of_status (htwins.status hnames), h names hnames]

/-- Empty directories with the same room are twins. -/
theorem HoldsNothing.twins (h : tree.HoldsNothing here directory) (h' : tree'.HoldsNothing here directory')
    (hrooted : tree.Rooted) (hrooted' : tree'.Rooted) (hroom : directory.SameRoom directory') :
    Twins here directory directory' (tree.removeBelow (directory.location here))
      (tree'.removeBelow (directory'.location here)) tree tree' := by
  have hpaved := hrooted.paved h.isDirectory
  have hpaved' := hrooted'.paved h'.isDirectory
  refine ⟨hroom, hpaved, hpaved', fun names => ?_, rfl, rfl⟩
  by_cases hnames : names = []
  · rw [hnames, List.append_nil, List.append_nil, hpaved.isOpen_location.get?_eq,
      hpaved'.isOpen_location.get?_eq]
  · rw [h.empty names hnames, h'.empty names hnames]

/-- A directory is empty if there are no entries in it. -/
theorem holdsNothing_of_entries (hdirectory : tree.hasDirectory here directory = true)
    (h : ∀ location ∈ tree.entries.map Prod.fst, directory.location here <+: location →
      location = directory.location here) : tree.HoldsNothing here directory := by
  refine ⟨hdirectory, fun names hnames => ?_⟩
  cases hget : tree.get? (directory.location here ++ names) with
  | none => rfl
  | some node =>
    rw [get?, if_neg (by simp [hnames])] at hget
    obtain ⟨_, _, hentries, _⟩ := List.lookup_eq_some_iff.mp hget
    have hplace := h (directory.location here ++ names) (by simp [hentries]) (List.prefix_append _ _)
    exact absurd (List.append_right_eq_self.mp hplace) hnames

/-- An empty directory holds no files. -/
theorem HoldsNothing.hasFile_child (h : tree.HoldsNothing here directory) (hrooted : tree.Rooted)
    (hname : Path.IsName name) : tree.hasFile here (directory.child name) = false := by
  rw [← Bool.not_eq_true, hasFile_iff]
  rintro ⟨bytes, executable, hstatus⟩
  have hget := ((hrooted.paved h.isDirectory).status_child hname).mp hstatus
  rw [Path.location_child hname, h.empty [name] (by simp)] at hget
  exact absurd hget.2.2 (by simp)

end FileTree

/-- A scratch directory that is made is empty. -/
theorem holdsNothing_of_scratchIn {tree made : FileTree} {here location : Location} {path : Path}
    (hrooted : tree.Rooted) (hhere : ∀ name ∈ here, Path.IsName name)
    (h : scratchIn tree here path = .ok (made, location)) : made.HoldsNothing here path := by
  obtain ⟨rfl, hfree, rfl, _, hdirectory, _⟩ := scratchIn_spec hrooted hhere h
  refine ⟨hdirectory, fun names hnames => ?_⟩
  rw [FileTree.get?_insert _ _ _ (FileTree.ne_nil_of_get?_eq_none hfree),
    if_neg fun hsame => hnames (List.append_right_eq_self.mp hsame)]
  exact hrooted.get?_eq_none hfree (List.prefix_append _ _)

namespace Dump

variable {machine : Machine} {source work directory directory' : Path} {archive : Zip.Archive}
variable {contents : Contents} {host : Host} {here : Location} {tree tree' files : FileTree}

/-- Dumps whose directories have the same under each name mirror each other. -/
theorem mirrors_of_content? (h : ∀ name, IsPart name →
    tree'.content? here (directory'.child name) = tree.content? here (directory.child name)) :
    Mirrors here (fun first second => first = tree ∧ second = tree') ⟨directory⟩ ⟨directory'⟩ := by
  refine ⟨?_, ?_⟩
  · rintro name hname _ _ ⟨rfl, rfl⟩
    exact FileTree.has_eq_of_content? (h name hname)
  · rintro name hname _ _ ⟨rfl, rfl⟩ hhas _ _ ⟨rfl, rfl⟩
    exact FileTree.read_eq_of_content? (h name hname) hhas

/-! ## Opening -/

/-- An archive can be extracted: in some empty directory, where paths have as much room as in the
target, it is extracted well, and the directory then holds exactly the contents.  A version file is
among them. -/
structure Extraction (machine : Machine) (archive : Zip.Archive) (target : Path) (contents : Contents) :
    Prop where
  extracted : ∃ (start after : Host) (directory : Path), start.Sound machine ∧
    directory.SameRoom target ∧ start.files.HoldsNothing machine.workingDirectory directory ∧
    (Zip.extract archive directory).on machine start = (.ok (), after) ∧
    after.files.HoldsExactly machine.workingDirectory directory contents
  version : ∃ bytes, contents [Artifact.fileName .version] = some (some bytes)

/-- An archive is opened in an empty work directory, which then holds what is extracted. -/
theorem openIn_of_extraction (hsound : host.Sound machine)
    (hholds : Holds machine source archive host.files)
    (hempty : host.files.HoldsNothing machine.workingDirectory work)
    (h : Extraction machine archive work contents) (override : Bool) :
    ∃ after, (openIn source work override).on machine host = (.ok ⟨work⟩, after) ∧
      after.files.HoldsExactly machine.workingDirectory work contents ∧
      after.files.Paved machine.workingDirectory work ∧ contents [] = some none := by
  obtain ⟨⟨start, extracted, target, hstart, hroom, hblank, hrun, hexactly⟩, bytes, hversion⟩ := h
  have hunmarked : isMarked machine work host.files = false :=
    hempty.hasFile_child hsound.rooted (Artifact.isName_fileName .version)
  have hextracts : override = true ∨ isMarked machine work host.files = false := .inr hunmarked
  obtain ⟨told, htold, hopen⟩ := openIn_eq_of_extracts hholds hextracts
  -- The run in the work directory matches the one that is known.
  have htwins := hblank.twins hempty hstart.rooted hsound.rooted hroom
  rw [← htold] at htwins
  obtain ⟨hend, hbehind⟩ := Zip.matches_extract rfl archive _ _ _ _ (Alongside.refl htwins)
  rcases hextract : (Zip.extract archive work).on machine told with ⟨outcome, after⟩
  rw [hrun, hextract] at hend hbehind
  obtain rfl : (.ok () : Except Failure Unit) = outcome := hend.eq
  have hwork := hexactly.of_twins hbehind.files
  have hmarked : isMarked machine work after.files = true := by
    rw [isMarked, FileTree.hasFile_iff]
    obtain ⟨executable, hstatus⟩ := FileTree.content?_eq_file_iff.mp
      ((hwork.child (Artifact.isName_fileName .version)).trans hversion)
    exact ⟨bytes, executable, hstatus⟩
  have hthere : after.files.hasDirectory machine.workingDirectory work = true :=
    hsound.rooted.hasDirectory_of_paved hempty.isDirectory fun _ => hbehind.files.paved'
  refine ⟨after, ?_, hwork, hbehind.files.paved', hwork.hasDirectory_iff.mpr hthere⟩
  rw [hopen, on_bind_of_ok _ hextract, on_bind_of_ok _ (on_isExtracted work machine after), hmarked]
  rfl

/-! ## Sections -/

/-- What a dump holds in its directory is not touched by a scratch directory, wherever that is made. -/
theorem content?_of_scratchIn {made : FileTree × Location} {count : Nat} {name : String}
    (hrooted : files.Rooted) (hnamed : ∀ name ∈ machine.workingDirectory, Path.IsName name)
    (hscratch : machine.NamesScratch)
    (hdirectory : files.hasDirectory machine.workingDirectory directory = true)
    (hmade : scratchIn files machine.workingDirectory (scratchPath machine count) = .ok made)
    (hname : IsPart name) :
    made.1.content? machine.workingDirectory (directory.child name) =
      files.content? machine.workingDirectory (directory.child name) := by
  obtain ⟨made, location⟩ := made
  obtain ⟨hlocation, hfree, rfl, _⟩ := scratchIn_spec hrooted hnamed hmade
  refine FileTree.content?_eq_of_status (FileTree.status_congr fun passed hway => ?_)
  rw [FileTree.get?_insert _ _ _ (FileTree.ne_nil_of_get?_eq_none hfree), if_neg]
  rintro rfl
  rcases Path.way_child hname.isName hway with hbefore | hpart
  · have hopen := (hrooted.paved hdirectory).isOpen passed hbefore
    rw [hopen.get?_eq] at hfree
    exact absurd hfree (by simp)
  · rw [hpart, scratchPath, Path.location_child (Path.isName_scratch (hscratch count)),
      Path.location_child hname.isName] at hlocation
    exact hname.ne_scratch _ (List.append_singleton_inj.mp hlocation).2

/-- Two paths have the same section if the directories that they are opened in have the same under each
name. -/
theorem sectionIn_eq_of_content? {path path' : Path} {made made' : FileTree} {location location' : Location}
    {count count' : Nat} {after after' : Host}
    (hmade : scratchIn files machine.workingDirectory (scratchPath machine count) = .ok (made, location))
    (hmade' : scratchIn files machine.workingDirectory (scratchPath machine count') =
      .ok (made', location'))
    (hopen : (openIn path (scratchPath machine count) false).on machine (freshHost made (count + 1)) =
      (.ok ⟨directory⟩, after))
    (hopen' : (openIn path' (scratchPath machine count') false).on machine
      (freshHost made' (count' + 1)) = (.ok ⟨directory'⟩, after'))
    (hsame : ∀ name, IsPart name →
      after'.files.content? machine.workingDirectory (directory'.child name) =
        after.files.content? machine.workingDirectory (directory.child name)) :
    sectionIn machine files count' path' = sectionIn machine files count path := by
  obtain ⟨hend, hbehind⟩ := (mirrors_of_content? hsame).matches_summarize
    (rfl : machine.workingDirectory = machine.workingDirectory) after after' _ _ (.refl ⟨rfl, rfl⟩)
  rcases hrun : (summarize ⟨directory⟩ printLine).on machine after with ⟨outcome, behind⟩
  rcases hrun' : (summarize ⟨directory'⟩ printLine).on machine after' with ⟨outcome', behind'⟩
  rw [hrun, hrun'] at hend hbehind
  obtain rfl : outcome = outcome' := hend.eq
  obtain ⟨text, hprinted, hprinted'⟩ := hbehind.printed
  rw [printed_of_openIn hopen] at hprinted
  rw [printed_of_openIn hopen'] at hprinted'
  rw [sectionIn_of_made hmade ((on_bind_of_ok _ hopen).trans hrun),
    sectionIn_of_made hmade' ((on_bind_of_ok _ hopen').trans hrun'), hprinted, hprinted']
  rfl

/-- An archive and its unpacked directory have the same section, each with a scratch directory that can
be made. -/
theorem sectionIn_unpacked {made made' : FileTree × Location} {count count' : Nat}
    (hrooted : files.Rooted) (hnamed : ∀ name ∈ machine.workingDirectory, Path.IsName name)
    (hscratch : machine.NamesScratch) (hholds : Holds machine source archive files)
    (hdirectory : files.HoldsExactly machine.workingDirectory directory contents)
    (hmade : scratchIn files machine.workingDirectory (scratchPath machine count) = .ok made)
    (hmade' : scratchIn files machine.workingDirectory (scratchPath machine count') = .ok made')
    (h : Extraction machine archive (scratchPath machine count) contents) :
    sectionIn machine files count' directory = sectionIn machine files count source := by
  obtain ⟨made, location⟩ := made
  obtain ⟨made', location'⟩ := made'
  obtain ⟨_, hfree, rfl, hafter, _⟩ := scratchIn_spec hrooted hnamed hmade
  obtain ⟨_, hfree', rfl, _⟩ := scratchIn_spec hrooted hnamed hmade'
  have hheld : Holds machine source archive (files.insert location .directory) := by
    obtain ⟨bytes, hread, hbytes⟩ := hholds
    exact ⟨bytes, (FileTree.grows_insert (fun _ => False) _ hfree).read id hread, hbytes⟩
  -- The archive is opened in its scratch directory, the unpacked directory where it is.
  have hsound : (freshHost (files.insert location .directory) (count + 1)).Sound machine :=
    ⟨hafter, hnamed⟩
  obtain ⟨after, hopen, hexactly, _, hthere⟩ :=
    openIn_of_extraction hsound hheld (holdsNothing_of_scratchIn hrooted hnamed hmade) h false
  have hisDirectory := hdirectory.hasDirectory_iff.mp hthere
  have hstill : (freshHost (files.insert location' .directory) (count' + 1)).files.hasDirectory
      machine.workingDirectory directory = true :=
    (FileTree.grows_insert (fun _ => False) _ hfree').hasDirectory hisDirectory
  have hopen' := openIn_of_hasDirectory hstill (scratchPath machine count') false
  have hsame : ∀ name, IsPart name →
      (files.insert location' .directory).content? machine.workingDirectory (directory.child name) =
        after.files.content? machine.workingDirectory ((scratchPath machine count).child name) := by
    intro name hname
    rw [content?_of_scratchIn hrooted hnamed hscratch hisDirectory hmade' hname,
      hdirectory.child hname.isName, hexactly.child hname.isName]
  exact sectionIn_eq_of_content? hmade hmade' hopen hopen' hsame

/-! ## Staging -/

/-- Two dumps, each in a tree of its own, have the same artifacts and the same features. -/
structure SameFiles (here : Location) (tree tree' : FileTree) (dump dump' : Dump) : Prop where
  artifacts : ∀ artifact, tree'.has here (dump'.path artifact) = tree.has here (dump.path artifact)
  features : ∃ indices : List Nat, dump.featuresIn tree here = indices.map dump.featurePath ∧
    dump'.featuresIn tree' here = indices.map dump'.featurePath

/-- Dumps whose directories have the same under each name have the same files. -/
theorem sameFiles_of_content? (h : ∀ name, IsPart name →
      tree'.content? here (directory'.child name) = tree.content? here (directory.child name)) :
    SameFiles here tree tree' ⟨directory⟩ ⟨directory'⟩ := by
  have hhas : ∀ name, IsPart name →
      tree'.has here (directory'.child name) = tree.has here (directory.child name) :=
    fun name hname => FileTree.has_eq_of_content? (h name hname)
  exact ⟨fun artifact => hhas _ (isPart_fileName artifact),
    exists_featuresIn_eq fun index => hhas _ (isPart_featureName index)⟩

end Dump

namespace Replay

variable {machine : Machine} {source work directory : Path} {archive : Zip.Archive}
variable {contents : Contents} {host : Host}

/-- Two runs stage a replay alike, one in the work directory and one in another directory: both fail with
the same failure, or both decide the same values but for where the dump is.  Either way they leave dumps
with the same files. -/
structure StagedAlike (machine : Machine) (work directory : Path)
    (run run' : Except Failure Staged × Host) : Prop where
  outcome : EndAlike (fun staged staged' =>
    staged.dump = ⟨work⟩ ∧ staged' = { staged with dump := ⟨directory⟩ }) Eq run.1 run'.1
  files : Dump.SameFiles machine.workingDirectory run.2.files run'.2.files ⟨work⟩ ⟨directory⟩

/-- A replay of an archive and one of its unpacked directory are staged alike. -/
theorem stage_unpacked (options : Options) (hsound : host.Sound machine)
    (hholds : Dump.Holds machine source archive host.files)
    (hdirectory : host.files.HoldsExactly machine.workingDirectory directory contents)
    (hempty : host.files.HoldsNothing machine.workingDirectory work)
    (h : Dump.Extraction machine archive work contents) :
    StagedAlike machine work directory
      ((stage { options with dump := some source } work).on machine host)
      ((stage { options with dump := some directory } work).on machine host) := by
  obtain ⟨after, hopen, hexactly, _, hthere⟩ :=
    Dump.openIn_of_extraction hsound hholds hempty h options.overrideExtraction
  have hisDirectory := hdirectory.hasDirectory_iff.mp hthere
  have hsame : ∀ name, Dump.IsPart name →
      host.files.content? machine.workingDirectory (directory.child name) =
        after.files.content? machine.workingDirectory (work.child name) := fun name hname =>
    (hdirectory.child hname.isName).trans (hexactly.child hname.isName).symm
  have hrun : (stage { options with dump := some source } work).on machine host =
      (decideFor options work ⟨work⟩).on machine after := on_bind_of_ok _ hopen
  have hrun' : (stage { options with dump := some directory } work).on machine host =
      (decideFor options work ⟨directory⟩).on machine host := stage_of_directory work rfl hisDirectory
  obtain ⟨hend, -⟩ := matches_decideFor (rfl : machine.workingDirectory = machine.workingDirectory)
    (Dump.mirrors_of_content? hsame) options work after host after host (.refl ⟨rfl, rfl⟩)
  rw [hrun, hrun']
  refine ⟨hend, ?_⟩
  rw [(looks_decideFor options work ⟨work⟩).keepsFiles,
    (looks_decideFor options work ⟨directory⟩).keepsFiles]
  exact Dump.sameFiles_of_content? hsame

end Replay

/-! ## Archives and directories -/

namespace Dump

/-- An archive and a directory that holds exactly what is extracted from it are the same dump.  Their
sections are the same but for the path in the first line, and whatever the options are, a replay in an
empty work directory is staged alike. -/
theorem section_and_stage_unpacked {machine : Machine} {host : Host} {source directory : Path}
    {archive : Zip.Archive} {contents : Contents} (hsound : host.Sound machine)
    (hscratch : machine.NamesScratch) (hholds : Holds machine source archive host.files)
    (hdirectory : host.files.HoldsExactly machine.workingDirectory directory contents) :
    (∀ (host' : Host) (made made' : FileTree × Location), host'.files = host.files →
      scratchIn host.files machine.workingDirectory (scratchPath machine host.scratches) = .ok made →
      scratchIn host.files machine.workingDirectory (scratchPath machine host'.scratches) = .ok made' →
      Extraction machine archive (scratchPath machine host.scratches) contents →
      ∃ shown after after', (summarizeSection source printLine).on machine host = (.ok (), after) ∧
        (summarizeSection directory printLine).on machine host' = (.ok (), after') ∧
        after.printed = host.printed ++ Section.text source shown ∧
        after'.printed = host'.printed ++ Section.text directory shown) ∧
    ∀ (options : Replay.Options) (work : Path),
      host.files.HoldsNothing machine.workingDirectory work →
      Extraction machine archive work contents →
      Replay.StagedAlike machine work directory
        ((Replay.stage { options with dump := some source } work).on machine host)
        ((Replay.stage { options with dump := some directory } work).on machine host) := by
  refine ⟨fun host' made made' hfiles hmade hmade' h => ?_, fun options work hempty h =>
    Replay.stage_unpacked options hsound hholds hdirectory hempty h⟩
  have hsound' : host'.Sound machine := ⟨hfiles.symm ▸ hsound.rooted, hsound.named⟩
  obtain ⟨after, hrun, _, _, hprinted⟩ := summarizeSection_spec hsound source
  obtain ⟨after', hrun', _, _, hprinted'⟩ := summarizeSection_spec hsound' directory
  refine ⟨_, after, after', hrun, hrun', hprinted, ?_⟩
  rw [hprinted', hfiles, sectionIn_unpacked hsound.rooted hsound.named hscratch hholds hdirectory hmade
    hmade' h]

/-! ## An archive with a program -/

/-- Nodes are compared by the lists of their bytes, which the kernel does quickly. -/
instance : DecidableEq Node
  | .file bytes executable, .file bytes' executable' =>
    decidable_of_iff (bytes.data.toList = bytes'.data.toList ∧ executable = executable') (by
      rw [Array.toList_inj, ← ByteArray.ext_iff, Node.file.injEq])
  | .file _ _, .directory => .isFalse nofun
  | .directory, .file _ _ => .isFalse nofun
  | .directory, .directory => .isTrue rfl

instance : DecidableEq FileTree :=
  fun tree tree' => decidable_of_iff (tree.entries = tree'.entries) (FileTree.mk.injEq _ _ ▸ .rfl)

/-- The bytes of an archive with a version file and a program without entries. -/
def programBytes : ByteArray :=
  ⟨#[
    80, 75, 3, 4, 20, 0, 0, 0, 0, 0, 0, 0, 33, 0, 62, 184, 124, 76, 6, 0, 0, 0, 6, 0, 0, 0, 10, 0,
    0, 0, 114, 56, 45, 118, 101, 114, 115, 105, 111, 110, 56, 46, 50, 46, 52, 55, 80, 75, 3, 4,
    20, 0, 0, 0, 0, 0, 0, 0, 33, 0, 14, 197, 203, 215, 22, 0, 0, 0, 22, 0, 0, 0, 11, 0, 0, 0, 112,
    114, 111, 103, 114, 97, 109, 46, 106, 97, 114, 80, 75, 5, 6, 0, 0, 0, 0, 0, 0, 0, 0, 0, 0, 0,
    0, 0, 0, 0, 0, 0, 0, 80, 75, 1, 2, 20, 3, 20, 0, 0, 0, 0, 0, 0, 0, 33, 0, 62, 184, 124, 76, 6,
    0, 0, 0, 6, 0, 0, 0, 10, 0, 0, 0, 0, 0, 0, 0, 0, 0, 0, 0, 0, 0, 0, 0, 0, 0, 114, 56, 45, 118,
    101, 114, 115, 105, 111, 110, 80, 75, 1, 2, 20, 3, 20, 0, 0, 0, 0, 0, 0, 0, 33, 0, 14, 197,
    203, 215, 22, 0, 0, 0, 22, 0, 0, 0, 11, 0, 0, 0, 0, 0, 0, 0, 0, 0, 0, 0, 0, 0, 46, 0, 0, 0,
    112, 114, 111, 103, 114, 97, 109, 46, 106, 97, 114, 80, 75, 5, 6, 0, 0, 0, 0, 2, 0, 2, 0, 113,
    0, 0, 0, 109, 0, 0, 0, 0, 0]⟩

/-- The archive that these bytes hold. -/
def programArchive : Zip.Archive :=
  ⟨programBytes, [⟨"r8-version", false, 0, 1283242046, 6, 0, 40, none⟩,
    ⟨"program.jar", false, 0, 3620455694, 22, 46, 87, none⟩]⟩

/-- The directory that the archive is unpacked in. -/
def unpackedPath : Path :=
  ⟨"/tmp/unpackeddump"⟩

/-- A host on which this directory is empty. -/
def blankHost : Host :=
  .ofFiles ⟨[(["tmp"], .directory), (["tmp", "unpackeddump"], .directory)]⟩

/-- The files when the archive is unpacked there. -/
def unpackedTree : FileTree :=
  ⟨(["tmp", "unpackeddump", "program.jar"], .file emptyBytes false) ::
    (["tmp", "unpackeddump", "r8-version"], .file (Text.toBytes "8.2.47") false) ::
      blankHost.files.entries⟩

/-- A host with these files, the archive itself and another empty directory. -/
def unpackedHost : Host :=
  .ofFiles ⟨unpackedTree.entries ++
    [(["tmp", "workingplace"], .directory), (["dump.zip"], .file programBytes false)]⟩

/-- What the archive is unpacked to. -/
def unpackedContents : Contents :=
  fun names => unpackedTree.content? [] (unpackedPath.descendant names)

theorem ofBytes_programBytes : Zip.Archive.ofBytes programBytes = .ok programArchive := by
  have hrecord : Zip.readEndRecord programBytes 222 = .ok ⟨0, 109, 2, true⟩ := by decide +kernel
  have hentries : Zip.readDirectory programBytes ⟨0, 109, 2, true⟩ = .ok programArchive.entries := by
    decide +kernel
  exact Zip.ofBytes_of_last (by decide +kernel) (by decide +kernel) (by decide +kernel) hrecord hentries

theorem rooted_unpackedTree : unpackedTree.Rooted := by
  refine FileTree.rooted_of_entries fun entry hentry => ?_
  simp only [unpackedTree, blankHost, Host.ofFiles, List.mem_cons, List.not_mem_nil, or_false] at hentry
  rcases hentry with rfl | rfl | rfl | rfl <;> rfl

theorem sound_blankHost : blankHost.Sound (drawingMachine "A") := by
  refine ⟨FileTree.rooted_of_entries fun entry hentry => ?_, by simp [drawingMachine, idleMachine]⟩
  simp only [blankHost, Host.ofFiles, List.mem_cons, List.not_mem_nil, or_false] at hentry
  rcases hentry with rfl | rfl <;> rfl

theorem sound_unpackedHost : unpackedHost.Sound (drawingMachine "A") := by
  refine ⟨FileTree.rooted_of_entries fun entry hentry => ?_, by simp [drawingMachine, idleMachine]⟩
  simp only [unpackedHost, unpackedTree, blankHost, Host.ofFiles, List.cons_append, List.nil_append,
    List.mem_cons, List.not_mem_nil, or_false] at hentry
  rcases hentry with rfl | rfl | rfl | rfl | rfl | rfl <;> rfl

/-- The archive can be extracted wherever paths have the room. -/
theorem extraction_programArchive {target : Path} (hroom : unpackedPath.SameRoom target) :
    Extraction (drawingMachine "A") programArchive target unpackedContents := by
  have hrun : ((Zip.extract programArchive unpackedPath).on (drawingMachine "A") blankHost).1.toBool = true ∧
      ((Zip.extract programArchive unpackedPath).on (drawingMachine "A") blankHost).2.files =
        unpackedTree := by decide +kernel
  have hempty : blankHost.files.HoldsNothing [] unpackedPath :=
    FileTree.holdsNothing_of_entries rfl (by decide)
  rcases hextract : (Zip.extract programArchive unpackedPath).on (drawingMachine "A") blankHost
    with ⟨outcome, after⟩
  rw [hextract] at hrun
  obtain ⟨hok, hfiles⟩ := hrun
  cases outcome with
  | error failure => exact absurd hok (by simp [Except.toBool])
  | ok value =>
    refine ⟨⟨blankHost, after, _, sound_blankHost, hroom, hempty, hextract, fun names _ => ?_⟩, _, rfl⟩
    rw [show after.files = unpackedTree from hfiles]
    rfl

/-- The directory holds what the archive is unpacked to, whatever else there is. -/
theorem holdsExactly_unpackedHost :
    unpackedHost.files.HoldsExactly [] unpackedPath unpackedContents := by
  have hexactly : unpackedTree.HoldsExactly [] unpackedPath unpackedContents := fun _ _ => rfl
  refine hexactly.of_twins ⟨.refl _, rooted_unpackedTree.paved rfl, sound_unpackedHost.rooted.paved rfl,
    fun names => ?_, rfl, rfl⟩
  have helse : ([(["tmp", "workingplace"], .directory), (["dump.zip"], .file programBytes false)] :
      List (Location × Node)).lookup (unpackedPath.location [] ++ names) = none := by
    rw [List.lookup_eq_none_iff]
    simp [show unpackedPath.location [] = ["tmp", "unpackeddump"] from rfl]
  rw [unpackedHost, Host.ofFiles, FileTree.get?, FileTree.get?, List.lookup_append, helse, Option.or_none]

/-- The archive and the directory that it is unpacked in are summarized and staged alike. -/
theorem section_and_stage_unpacked_unpackedHost :
    (∃ shown after after',
      (summarizeSection ⟨"/dump.zip"⟩ printLine).on (drawingMachine "A") unpackedHost = (.ok (), after) ∧
      (summarizeSection unpackedPath printLine).on (drawingMachine "A") unpackedHost =
        (.ok (), after') ∧
      after.printed = Section.text ⟨"/dump.zip"⟩ shown ∧
      after'.printed = Section.text unpackedPath shown) ∧
    Replay.StagedAlike (drawingMachine "A") ⟨"/tmp/workingplace"⟩ unpackedPath
      ((Replay.stage { Replay.Options.none with dump := some ⟨"/dump.zip"⟩ } ⟨"/tmp/workingplace"⟩).on
        (drawingMachine "A") unpackedHost)
      ((Replay.stage { Replay.Options.none with dump := some unpackedPath } ⟨"/tmp/workingplace"⟩).on
        (drawingMachine "A") unpackedHost) := by
  have hscratch : (drawingMachine "A").NamesScratch := fun _ => (by decide : '/' ∉ "A".toList)
  have hholds : Holds (drawingMachine "A") ⟨"/dump.zip"⟩ programArchive unpackedHost.files :=
    ⟨programBytes, rfl, ofBytes_programBytes⟩
  have hempty : unpackedHost.files.HoldsNothing [] ⟨"/tmp/workingplace"⟩ :=
    FileTree.holdsNothing_of_entries rfl (by decide)
  obtain ⟨made, hmade⟩ : ∃ made, scratchIn unpackedHost.files [] (scratchPath (drawingMachine "A") 0) =
    .ok made := ⟨_, rfl⟩
  obtain ⟨hsections, hstages⟩ :=
    section_and_stage_unpacked sound_unpackedHost hscratch hholds holdsExactly_unpackedHost
  obtain ⟨shown, after, after', hrun, hrun', hprinted, hprinted'⟩ := hsections unpackedHost made made rfl
    hmade hmade (extraction_programArchive ⟨by decide, by decide, by decide⟩)
  refine ⟨⟨shown, after, after', hrun, hrun', ?_, ?_⟩, hstages .none _ hempty
    (extraction_programArchive ⟨by decide, by decide, by decide⟩)⟩
  · rw [hprinted]
    exact String.empty_append
  · rw [hprinted']
    exact String.empty_append

end Dump

end DumpReplay
