import DumpReplay.Proofs.Action.Running
import DumpReplay.Proofs.Files.Growth
import DumpReplay.Zip.Extraction

/-!
# What an extraction leaves

An extraction takes the entries of an archive one after the other and stops at the first that it
cannot extract.  It goes well exactly if it leaves the archive extracted: every entry can be read,
and what it holds is there, unless a later entry has taken its place.

Main results:

- `extractEntry_spec` : what one entry leaves.
- `extractEntries_spec` : what some entries in a row leave.
- `extract_spec` : an extraction goes well exactly if it leaves the archive extracted.
-/

namespace DumpReplay.Zip

open DumpReplay.Action

variable {archive : Archive} {entry : Entry} {target : Path} {names : List String}
variable {written : Location → Prop} {machine : Machine} {host after : Host}
variable {tree before : FileTree} {here : Location}

/-! ## Archives -/

/-- An archive is read by way of the last record that may end its directory, if the directory can be
read there. -/
theorem ofBytes_of_last {bytes : ByteArray} {position : Nat} {directory : Directory}
    {entries : List Entry} (hposition : position < bytes.size - 3)
    (hat : hasSignature bytes 0x06054B50 position = true)
    (hlast : ∀ later < bytes.size - 3, position < later →
      hasSignature bytes 0x06054B50 later = false)
    (hrecord : readEndRecord bytes position = .ok directory)
    (hentries : readDirectory bytes directory = .ok entries) :
    Archive.ofBytes bytes = .ok ⟨bytes, entries⟩ := by
  obtain ⟨earlier, hcandidates⟩ : ∃ earlier, endCandidates bytes = position :: earlier := by
    obtain ⟨more, hmore⟩ := Nat.exists_eq_add_of_le (Nat.succ_le_of_lt hposition)
    have hnone : ((List.range more).map (position + 1 + ·)).filter (hasSignature bytes 0x06054B50) =
        [] := by
      simp only [List.filter_eq_nil_iff, List.mem_map, List.mem_range, Bool.not_eq_true]
      rintro _ ⟨step, hstep, rfl⟩
      exact hlast _ (by omega) (by omega)
    refine ⟨((List.range position).filter (hasSignature bytes 0x06054B50)).reverse, ?_⟩
    rw [endCandidates, hmore, Nat.succ_eq_add_one, List.range_add, List.filter_append, hnone,
      List.append_nil, List.range_succ, List.filter_append, List.filter_cons_of_pos hat,
      List.reverse_append]
    rfl
  rw [Archive.ofBytes, hcandidates, openFrom, hrecord]
  dsimp only
  rw [hentries]

/-- Reading headers keeps the names different. -/
theorem nodup_of_readHeaders {bytes : ByteArray} {directory : Directory} {count position : Nat}
    {entries read : List Entry} (h : readHeaders bytes directory count position entries = .ok read)
    (hentries : (entries.map Entry.name).Nodup) : (read.map Entry.name).Nodup := by
  induction count generalizing position entries with
  | zero => exact Except.ok.inj h ▸ hentries
  | succ count ih =>
    rw [readHeaders] at h
    cases hheader : readHeader bytes directory position with
    | error fault =>
      rw [hheader] at h
      exact absurd h (by simp [bind, Except.bind])
    | ok header =>
      rw [hheader] at h
      exact ih h (nodup_names_addEntry header.1 hentries)

theorem nodup_of_openFrom {bytes : ByteArray} {fault : Option Fault} {positions : List Nat}
    (h : openFrom bytes fault positions = .ok archive) : archive.names.Nodup := by
  induction positions generalizing fault with
  | nil => simp [openFrom] at h
  | cons position earlier ih =>
    rw [openFrom] at h
    split at h
    · exact ih h
    · exact ih h
    · split at h
      · rename_i entries hread
        rw [← Except.ok.inj h]
        unfold readDirectory at hread
        split at hread
        · exact absurd hread (by simp)
        · exact nodup_of_readHeaders hread List.nodup_nil
      · exact ih h

/-- No two entries of an archive have the same name. -/
theorem nodup_names_of_ofBytes {bytes : ByteArray} (h : Archive.ofBytes bytes = .ok archive) :
    archive.names.Nodup :=
  nodup_of_openFrom h

/-! ## Names of entries -/

theorem isName_of_climb {passed segments : List String} (h : climb passed segments = some names)
    (hpassed : ∀ name ∈ passed, Path.IsName name)
    (hsegments : ∀ segment ∈ segments, '/' ∉ segment.toList) :
    ∀ name ∈ names, Path.IsName name := by
  induction segments generalizing passed with
  | nil =>
    rw [climb, Option.some.injEq] at h
    intro name hname
    rw [← h, List.mem_reverse] at hname
    exact hpassed name hname
  | cons segment rest ih =>
    obtain ⟨hsegment, hrest⟩ := List.forall_mem_cons.mp hsegments
    rw [climb.eq_def] at h
    dsimp only at h
    split at h
    · exact ih h hpassed hrest
    · rename_i hblank
      split at h
      · split at h
        · simp at h
        · exact ih h (fun name hname => hpassed name (List.mem_cons_of_mem _ hname)) hrest
      · rename_i hup
        refine ih h (List.forall_mem_cons.mpr ⟨?_, hpassed⟩) hrest
        rw [Bool.or_eq_true, decide_eq_true_eq, decide_eq_true_eq, not_or] at hblank
        exact ⟨hblank.1, hblank.2, hup, hsegment⟩

/-- The names that lead to an entry are names. -/
theorem Entry.isName_of_names? (h : entry.names? = some names) :
    ∀ name ∈ names, Path.IsName name := by
  unfold names? at h
  dsimp only at h
  split at h
  · simp at h
  · refine isName_of_climb h (by simp) ?_
    intro segment hsegment
    obtain ⟨piece, hpiece, rfl⟩ := List.mem_map.mp hsegment
    rw [String.toList_ofList]
    exact Path.not_mem_of_mem_splitAt hpiece

/-! ## Entries in a directory -/

namespace Entry

/-- Whether an entry can be extracted as far as the archive goes. -/
structure Sound (archive : Archive) (entry : Entry) : Prop where
  plain : entry.encrypted = false
  readable : entry.isReadable = true
  named : ∃ names, entry.names? = some names
  intact : entry.isDirectory = false → (archive.content entry).intact = true

/-- Whether there is a directory for an entry that is one, and a file for any other. -/
structure Stands (tree : FileTree) (here : Location) (target : Path) (entry : Entry) : Prop where
  directory : entry.isDirectory = true → ∀ names, entry.names? = some names →
    (target.descendant names).text = "" ∨
      tree.hasDirectory here (target.descendant names) = true
  file : entry.isDirectory = false → ∀ names, entry.names? = some names →
    tree.hasFile here (target.descendant names) = true

/-- Whether an entry is there with its complete content. -/
structure Present (archive : Archive) (tree : FileTree) (here : Location) (target : Path)
    (entry : Entry) : Prop where
  directory : entry.isDirectory = true → ∀ names, entry.names? = some names →
    (target.descendant names).text = "" ∨
      tree.hasDirectory here (target.descendant names) = true
  file : entry.isDirectory = false → ∀ names, entry.names? = some names →
    tree.read here (target.descendant names) = .ok (archive.content entry).bytes

/-- Whether the file that an entry is extracted to is the one at a location. -/
def Writes (here : Location) (target : Path) (entry : Entry) (location : Location) : Prop :=
  entry.isDirectory = false ∧
    ∃ names, entry.names? = some names ∧ location = target.location here ++ names

/-- Whether no later entry takes the place of an entry.  Only files take places of others. -/
def Lasts (entry : Entry) (later : List Entry) : Prop :=
  entry.isDirectory = true ∨ ∀ other ∈ later, other.isDirectory = false →
    other.names? ≠ entry.names?

/-- What is there with its complete content is there. -/
theorem Present.stands (h : entry.Present archive tree here target) :
    entry.Stands tree here target := by
  refine ⟨h.directory, fun hfile names hnames => ?_⟩
  obtain ⟨executable, hstatus⟩ := FileTree.read_eq_ok_iff.mp (h.file hfile names hnames)
  exact FileTree.hasFile_iff.mpr ⟨_, executable, hstatus⟩

/-- An entry that is there stays there, unless its file is written. -/
theorem Present.grow (h : entry.Present archive before here target)
    (hgrows : FileTree.Grows written before tree)
    (hnot : ∀ location, entry.Writes here target location → ¬written location) :
    entry.Present archive tree here target := by
  refine ⟨fun hdirectory names hnames => ?_, fun hfile names hnames => ?_⟩
  · exact (h.directory hdirectory names hnames).imp_right hgrows.hasDirectory
  · refine hgrows.read (hnot _ ⟨hfile, names, hnames, ?_⟩) (h.file hfile names hnames)
    exact Path.location_descendant (isName_of_names? hnames) here target

/-- The files of two entries are the same only if the entries have the same names. -/
theorem Writes.names?_eq {other : Entry} {location : Location}
    (h : entry.Writes here target location) (hother : other.Writes here target location) :
    other.names? = entry.names? := by
  obtain ⟨_, names, hnames, hlocation⟩ := h
  obtain ⟨_, names', hnames', hlocation'⟩ := hother
  rw [hlocation, List.append_cancel_left_eq] at hlocation'
  rw [hnames, hnames', hlocation']

end Entry

/-! ## One entry -/

theorem on_makeDirectories? (path : Path) (machine : Machine) (host : Host) :
    (makeDirectories? path).on machine host =
      (.ok (host.files.makeDirectories machine.workingDirectory path).1,
        { host with files := (host.files.makeDirectories machine.workingDirectory path).2 }) := rfl

/-- Making a directory for an extraction grows the files, and goes well exactly if the path leads to
a directory afterwards. -/
theorem makeDirectories_orIo_spec (written : Location → Prop) {outcome : Except Failure Unit}
    {path : Path}
    (h : (do orIo (← makeDirectories? path)).on machine host = (outcome, after)) :
    FileTree.Grows written host.files after.files ∧
      ((outcome = .ok () ∧ (path.text = "" ∨
          after.files.hasDirectory machine.workingDirectory path = true)) ∨
        (∃ failure, outcome = .error failure) ∧ path.text ≠ "" ∧
          after.files.hasDirectory machine.workingDirectory path = false) := by
  rw [on_bind_of_ok _ (on_makeDirectories? path machine host)] at h
  rcases hmake : host.files.makeDirectories machine.workingDirectory path with ⟨made, tree⟩
  obtain ⟨hgrows, hmade⟩ := FileTree.makeDirectories_spec written hmake
  rw [hmake] at h
  cases made with
  | ok value =>
    obtain ⟨rfl, rfl⟩ := Prod.mk.inj h
    exact ⟨hgrows, .inl ⟨rfl, hmade.mp rfl⟩⟩
  | error cause =>
    obtain ⟨rfl, rfl⟩ := Prod.mk.inj h
    have hnot := (not_congr hmade).mp (by simp)
    rw [not_or, Bool.not_eq_true] at hnot
    exact ⟨hgrows, .inr ⟨⟨_, rfl⟩, hnot⟩⟩

/-- Preparing the way to an entry grows the files.  It fails only if the way then leads nowhere. -/
theorem prepare_spec (written : Location → Prop) {outcome : Except Failure Path}
    (hnames : ∀ name ∈ names, Path.IsName name)
    (h : (prepare target names).on machine host = (outcome, after)) :
    FileTree.Grows written host.files after.files ∧
      (outcome = .ok (target.descendant names) ∨
        (∃ failure, outcome = .error failure) ∧ names ≠ [] ∧ ∀ node,
          after.files.status machine.workingDirectory (target.descendant names) ≠ .ok node) := by
  induction names generalizing target host with
  | nil =>
    obtain ⟨rfl, rfl⟩ := Prod.mk.inj h
    exact ⟨.refl written _, .inl rfl⟩
  | cons name rest ih =>
    obtain ⟨hname, hrest⟩ := List.forall_mem_cons.mp hnames
    cases rest with
    | nil =>
      unfold prepare at h
      rw [on_bind_of_ok _ (on_look _)] at h
      split at h
      · obtain ⟨rfl, rfl⟩ := Prod.mk.inj h
        exact ⟨.refl written _, .inl rfl⟩
      · obtain ⟨rfl, rfl⟩ := Prod.mk.inj h
        exact ⟨.refl written _, .inl rfl⟩
      · rename_i cause _ hstatus
        obtain ⟨rfl, rfl⟩ := Prod.mk.inj h
        refine ⟨.refl written _, .inr ⟨⟨_, rfl⟩, List.cons_ne_nil _ _, fun node hnode => ?_⟩⟩
        rw [Path.descendant_cons, Path.descendant_nil, hstatus] at hnode
        exact absurd hnode (by simp)
    | cons other rest =>
      -- What leads to an entry further down leads to a directory here.
      have hdirectory : ∀ (tree : FileTree) (node : Node),
          tree.status machine.workingDirectory (target.descendant (name :: other :: rest)) =
            .ok node →
          tree.hasDirectory machine.workingDirectory (target.child name) = true :=
        fun tree node hnode => FileTree.hasDirectory_of_status_descendant hnames hnode
      have hinside : ∀ {host : Host},
          (prepare (target.child name) (other :: rest)).on machine host = (outcome, after) →
          FileTree.Grows written host.files after.files ∧
            (outcome = .ok (target.descendant (name :: other :: rest)) ∨
              (∃ failure, outcome = .error failure) ∧ name :: other :: rest ≠ [] ∧ ∀ node,
                after.files.status machine.workingDirectory
                  (target.descendant (name :: other :: rest)) ≠ .ok node) := by
        intro host hprepare
        obtain ⟨hgrows, hok | ⟨herror, _, hnot⟩⟩ := ih hrest hprepare
        · exact ⟨hgrows, .inl hok⟩
        · exact ⟨hgrows, .inr ⟨herror, List.cons_ne_nil _ _, hnot⟩⟩
      unfold prepare at h
      rw [on_bind_of_ok _ (on_look _)] at h
      split at h
      · exact hinside h
      · rw [← bind_assoc] at h
        rcases hmake : (do orIo (← makeDirectories? (target.child name))).on machine host
          with ⟨made, middle⟩
        obtain ⟨hgrows, ⟨rfl, _⟩ | ⟨⟨failure, rfl⟩, _, hnot⟩⟩ :=
          makeDirectories_orIo_spec written hmake
        · rw [on_bind_of_ok _ hmake] at h
          obtain ⟨hgrows', houtcome⟩ := hinside h
          exact ⟨hgrows.trans hgrows', houtcome⟩
        · rw [on_bind_of_error _ hmake] at h
          obtain ⟨rfl, rfl⟩ := Prod.mk.inj h
          refine ⟨hgrows, .inr ⟨⟨failure, rfl⟩, List.cons_ne_nil _ _, fun node hnode => ?_⟩⟩
          rw [hdirectory _ node hnode] at hnot
          exact absurd hnot (by simp)
      · rename_i cause hcause hstatus
        obtain ⟨rfl, rfl⟩ := Prod.mk.inj h
        refine ⟨.refl written _, .inr ⟨⟨_, rfl⟩, List.cons_ne_nil _ _, fun node hnode => ?_⟩⟩
        have hthere := FileTree.hasDirectory_iff.mp (hdirectory _ node hnode)
        rw [hthere] at hstatus
        exact absurd hstatus (by simp)

/-- Writing the content of an entry grows the files.  It goes well only if the content is intact,
and fails with intact content only if the path leads to no file. -/
theorem writeContent_spec {outcome : Except Failure Unit} {path : Path}
    (h : (writeContent archive entry path).on machine host = (outcome, after)) :
    FileTree.Grows (· = path.location machine.workingDirectory) host.files after.files ∧
      ((outcome = .ok () ∧ (archive.content entry).intact = true ∧
          after.files.read machine.workingDirectory path = .ok (archive.content entry).bytes) ∨
        (∃ failure, outcome = .error failure) ∧ ((archive.content entry).intact = false ∨
          after.files.hasFile machine.workingDirectory path = false)) := by
  unfold writeContent at h
  dsimp only at h
  rw [on_bind_of_ok _ (on_look _)] at h
  cases hwrite : host.files.write machine.workingDirectory path (archive.content entry).bytes with
  | error cause =>
    rw [hwrite, orIo, fail, on_bind_of_error _ (on_fail _)] at h
    obtain ⟨rfl, rfl⟩ := Prod.mk.inj h
    exact ⟨.refl _ _, .inr ⟨⟨_, rfl⟩, .inr (FileTree.write_of_error hwrite)⟩⟩
  | ok tree =>
    obtain ⟨hgrows, hread⟩ := FileTree.write_of_ok hwrite
    rw [hwrite, orIo, on_bind_of_ok _ (on_pure tree), on_bind_of_ok _ (on_setFiles tree)] at h
    cases hintact : (archive.content entry).intact with
    | true =>
      rw [hintact] at h
      obtain ⟨rfl, rfl⟩ := Prod.mk.inj h
      exact ⟨hgrows, .inl ⟨rfl, rfl, hread⟩⟩
    | false =>
      rw [hintact] at h
      obtain ⟨rfl, rfl⟩ := Prod.mk.inj h
      exact ⟨hgrows, .inr ⟨⟨_, rfl⟩, .inl rfl⟩⟩

/-- Extracting an entry whose names are known grows the files.  It goes well exactly if the content
is intact and the entry is there afterwards. -/
theorem extractNamed_spec {outcome : Except Failure (Option Path)}
    (hnames : entry.names? = some names)
    (h : (do
        let path ← prepare target names
        if entry.isDirectory then
          orIo (← makeDirectories? path)
          return none
        else
          writeContent archive entry path
          return some path).on machine host = (outcome, after)) :
    FileTree.Grows (entry.Writes machine.workingDirectory target) host.files after.files ∧
      (((∃ made, outcome = .ok made) ∧
          (entry.isDirectory = false → (archive.content entry).intact = true) ∧
          entry.Present archive after.files machine.workingDirectory target) ∨
        (∃ failure, outcome = .error failure) ∧
          ¬((entry.isDirectory = false → (archive.content entry).intact = true) ∧
            entry.Stands after.files machine.workingDirectory target)) := by
  have hunique : ∀ {other : List String}, entry.names? = some other → names = other := by
    intro other hother
    rw [hnames, Option.some.injEq] at hother
    exact hother
  have hisName := Entry.isName_of_names? hnames
  rcases hprepare : (prepare target names).on machine host with ⟨prepared, middle⟩
  obtain ⟨hgrows, rfl | ⟨⟨failure, rfl⟩, hne, hnot⟩⟩ :=
    prepare_spec (entry.Writes machine.workingDirectory target) hisName hprepare
  · rw [on_bind_of_ok _ hprepare] at h
    cases hdirectory : entry.isDirectory with
    | true =>
      rw [hdirectory, if_pos rfl, ← bind_assoc] at h
      rcases hmake : (do orIo (← makeDirectories? (target.descendant names))).on machine middle
        with ⟨made, ended⟩
      obtain ⟨hgrows', ⟨rfl, hmade⟩ | ⟨⟨failure, rfl⟩, htext, hfailed⟩⟩ :=
        makeDirectories_orIo_spec (entry.Writes machine.workingDirectory target) hmake
      · rw [on_bind_of_ok _ hmake] at h
        obtain ⟨rfl, rfl⟩ := Prod.mk.inj h
        refine ⟨hgrows.trans hgrows', .inl ⟨⟨_, rfl⟩, by simp, ?_, by simp [hdirectory]⟩⟩
        intro _ other hother
        rw [← hunique hother]
        exact hmade
      · rw [on_bind_of_error _ hmake] at h
        obtain ⟨rfl, rfl⟩ := Prod.mk.inj h
        refine ⟨hgrows.trans hgrows', .inr ⟨⟨failure, rfl⟩, fun hboth => ?_⟩⟩
        rcases hboth.2.directory hdirectory names hnames with hempty | hthere
        · exact htext hempty
        · rw [hthere] at hfailed
          exact absurd hfailed (by simp)
    | false =>
      rw [hdirectory, if_neg Bool.false_ne_true] at h
      rcases hwrite : (writeContent archive entry (target.descendant names)).on machine middle
        with ⟨wrote, ended⟩
      obtain ⟨hwritten, hwrote⟩ := writeContent_spec hwrite
      have hgrows' : FileTree.Grows (entry.Writes machine.workingDirectory target) middle.files
          ended.files := by
        refine hwritten.mono fun location hlocation => ⟨hdirectory, names, hnames, ?_⟩
        rw [hlocation, Path.location_descendant hisName]
      rcases hwrote with ⟨rfl, hintact, hread⟩ | ⟨⟨failure, rfl⟩, hfailed⟩
      · rw [on_bind_of_ok _ hwrite] at h
        obtain ⟨rfl, rfl⟩ := Prod.mk.inj h
        refine ⟨hgrows.trans hgrows', .inl ⟨⟨_, rfl⟩, fun _ => hintact, by simp [hdirectory], ?_⟩⟩
        intro _ other hother
        rw [← hunique hother]
        exact hread
      · rw [on_bind_of_error _ hwrite] at h
        obtain ⟨rfl, rfl⟩ := Prod.mk.inj h
        refine ⟨hgrows.trans hgrows', .inr ⟨⟨failure, rfl⟩, fun hboth => ?_⟩⟩
        rcases hfailed with hcorrupt | hnone
        · rw [hboth.1 rfl] at hcorrupt
          exact absurd hcorrupt (by simp)
        · rw [hboth.2.file hdirectory names hnames] at hnone
          exact absurd hnone (by simp)
  · rw [on_bind_of_error _ hprepare] at h
    obtain ⟨rfl, rfl⟩ := Prod.mk.inj h
    refine ⟨hgrows, .inr ⟨⟨failure, rfl⟩, fun hboth => ?_⟩⟩
    -- What stands at the end of the way, the way leads to.
    cases hdirectory : entry.isDirectory with
    | true =>
      rcases hboth.2.directory hdirectory names hnames with hempty | hthere
      · exact Path.text_descendant_ne hisName hne target hempty
      · exact hnot _ (FileTree.hasDirectory_iff.mp hthere)
    | false =>
      obtain ⟨bytes, executable, hstatus⟩ :=
        FileTree.hasFile_iff.mp (hboth.2.file hdirectory names hnames)
      exact hnot _ hstatus

/-- Extracting an entry grows the files.  It goes well exactly if the entry can be extracted and is
there afterwards. -/
theorem extractEntry_spec {outcome : Except Failure (Option Path)}
    (h : (extractEntry archive target entry).on machine host = (outcome, after)) :
    FileTree.Grows (entry.Writes machine.workingDirectory target) host.files after.files ∧
      (((∃ made, outcome = .ok made) ∧ entry.Sound archive ∧
          entry.Present archive after.files machine.workingDirectory target) ∨
        (∃ failure, outcome = .error failure) ∧
          ¬(entry.Sound archive ∧ entry.Stands after.files machine.workingDirectory target)) := by
  unfold extractEntry at h
  split at h
  · rename_i hencrypted
    obtain ⟨rfl, rfl⟩ := Prod.mk.inj h
    refine ⟨.refl _ _, .inr ⟨⟨_, rfl⟩, fun hboth => ?_⟩⟩
    rw [hboth.1.plain] at hencrypted
    exact absurd hencrypted (by simp)
  · rename_i hplain
    split at h
    · rename_i hunreadable
      obtain ⟨rfl, rfl⟩ := Prod.mk.inj h
      refine ⟨.refl _ _, .inr ⟨⟨_, rfl⟩, fun hboth => ?_⟩⟩
      rw [hboth.1.readable] at hunreadable
      exact absurd hunreadable (by simp)
    · rename_i hreadable
      rw [Bool.not_eq_true] at hplain
      rw [Bool.not_eq_true', Bool.not_eq_false] at hreadable
      cases hnames : entry.names? with
      | none =>
        rw [hnames] at h
        obtain ⟨rfl, rfl⟩ := Prod.mk.inj h
        refine ⟨.refl _ _, .inr ⟨⟨_, rfl⟩, fun hboth => ?_⟩⟩
        obtain ⟨names, hsome⟩ := hboth.1.named
        rw [hnames] at hsome
        exact absurd hsome (by simp)
      | some names =>
        rw [hnames] at h
        obtain ⟨hgrows, ⟨hmade, hintact, hpresent⟩ | ⟨hfailure, hnot⟩⟩ := extractNamed_spec hnames h
        · exact ⟨hgrows, .inl ⟨hmade, ⟨hplain, hreadable, ⟨names, hnames⟩, hintact⟩, hpresent⟩⟩
        · exact ⟨hgrows, .inr ⟨hfailure, fun hboth => hnot ⟨hboth.1.intact, hboth.2⟩⟩⟩

/-! ## Entries in a row -/

/-- Whether some entries are extracted: each of them can be, and is there with its complete content
unless a later one takes its place. -/
structure ExtractedAll (archive : Archive) (tree : FileTree) (here : Location) (target : Path)
    (entries : List Entry) : Prop where
  sound : ∀ entry ∈ entries, entry.Sound archive
  present : ∀ earlier entry later, entries = earlier ++ entry :: later → entry.Lasts later →
    entry.Present archive tree here target

/-- Whether the file that some entry is extracted to is the one at a location. -/
def WritesAny (here : Location) (target : Path) (entries : List Entry) (location : Location) :
    Prop :=
  ∃ entry ∈ entries, entry.Writes here target location

namespace ExtractedAll

variable {entries : List Entry}

theorem nil (archive : Archive) (tree : FileTree) (here : Location) (target : Path) :
    ExtractedAll archive tree here target [] :=
  ⟨by simp, by simp⟩

/-- An entry stays extracted when later ones are. -/
theorem cons (hsound : entry.Sound archive) (hpresent : entry.Present archive before here target)
    (hgrows : FileTree.Grows (WritesAny here target entries) before tree)
    (h : ExtractedAll archive tree here target entries) :
    ExtractedAll archive tree here target (entry :: entries) := by
  refine ⟨List.forall_mem_cons.mpr ⟨hsound, h.sound⟩, ?_⟩
  intro earlier other later hsplit hlasts
  cases earlier with
  | nil =>
    rw [List.nil_append, List.cons.injEq] at hsplit
    obtain ⟨rfl, rfl⟩ := hsplit
    refine hpresent.grow hgrows fun location hwrites => ?_
    rintro ⟨writer, hwriter, hwritten⟩
    rcases hlasts with hdirectory | hlasts
    · rw [hwrites.1] at hdirectory
      exact absurd hdirectory (by simp)
    · exact hlasts writer hwriter hwritten.1 (hwrites.names?_eq hwritten)
  | cons first earlier =>
    rw [List.cons_append, List.cons.injEq] at hsplit
    exact h.present earlier other later hsplit.2 hlasts

/-- Entries stay extracted while none of their files is written. -/
theorem grow (h : ExtractedAll archive before here target entries)
    (hgrows : FileTree.Grows (fun _ => False) before tree) :
    ExtractedAll archive tree here target entries := by
  refine ⟨h.sound, fun earlier entry later hsplit hlasts => ?_⟩
  exact (h.present earlier entry later hsplit hlasts).grow hgrows fun _ _ hfalse => hfalse

/-- Where entries are extracted, an entry has something of its kind: its own, or what the last entry
of its names has put in its place. -/
theorem stands_of_split (h : ExtractedAll archive tree here target entries)
    (earlier later : List Entry) (entry : Entry) (hsplit : entries = earlier ++ entry :: later) :
    entry.Stands tree here target := by
  -- By induction on how many entries are behind: one that does not last has one of its names there.
  induction hlength : later.length using Nat.strongRecOn generalizing earlier later entry with
  | ind length ih =>
    by_cases hlasts : entry.Lasts later
    · exact (h.present earlier entry later hsplit hlasts).stands
    · rw [Entry.Lasts, not_or, Bool.not_eq_true] at hlasts
      obtain ⟨hfile, hlater⟩ := hlasts
      obtain ⟨other, hother, hotherFile, hnames⟩ :
          ∃ other ∈ later, other.isDirectory = false ∧ other.names? = entry.names? :=
        Classical.byContradiction fun hnone => hlater fun other hother hotherFile hnames =>
          hnone ⟨other, hother, hotherFile, hnames⟩
      obtain ⟨between, behind, rfl⟩ := List.append_of_mem hother
      have hstands : other.Stands tree here target := by
        refine ih behind.length ?_ (earlier ++ entry :: between) behind other ?_ rfl
        · rw [← hlength, List.length_append, List.length_cons]
          omega
        · rw [hsplit, List.append_assoc, List.cons_append]
      refine ⟨fun hdirectory => ?_, fun _ names hsome => ?_⟩
      · rw [hfile] at hdirectory
        exact absurd hdirectory (by simp)
      · exact hstands.file hotherFile names (hnames.trans hsome)

/-- Where entries are extracted, each has something of its kind. -/
theorem stands (h : ExtractedAll archive tree here target entries) :
    ∀ entry ∈ entries, entry.Stands tree here target := by
  intro entry hentry
  obtain ⟨earlier, later, hsplit⟩ := List.append_of_mem hentry
  exact h.stands_of_split earlier later entry hsplit

end ExtractedAll

/-- Extracting entries in a row grows the files.  It goes well exactly if the entries are extracted
afterwards. -/
theorem extractEntries_spec (entries : List Entry) {outcome : Except Failure (List (Path × Nat))}
    (h : (extractEntries archive target entries).on machine host = (outcome, after)) :
    FileTree.Grows (WritesAny machine.workingDirectory target entries) host.files after.files ∧
      (((∃ made, outcome = .ok made) ∧
          ExtractedAll archive after.files machine.workingDirectory target entries) ∨
        (∃ failure, outcome = .error failure) ∧
          ¬ExtractedAll archive after.files machine.workingDirectory target entries) := by
  induction entries generalizing host after outcome with
  | nil =>
    obtain ⟨rfl, rfl⟩ := Prod.mk.inj h
    exact ⟨.refl _ _, .inl ⟨⟨_, rfl⟩, .nil archive _ _ target⟩⟩
  | cons entry rest ih =>
    rw [extractEntries] at h
    rcases hentry : (extractEntry archive target entry).on machine host with ⟨made, middle⟩
    obtain ⟨hgrows, hmade⟩ := extractEntry_spec hentry
    have hfirst : FileTree.Grows (WritesAny machine.workingDirectory target (entry :: rest))
        host.files middle.files :=
      hgrows.mono fun _ hwrites => ⟨entry, List.mem_cons_self, hwrites⟩
    rcases hmade with ⟨⟨made, rfl⟩, hsound, hpresent⟩ | ⟨⟨failure, rfl⟩, hnot⟩
    · rw [on_bind_of_ok _ hentry] at h
      rcases hrest : (extractEntries archive target rest).on machine middle with ⟨others, ended⟩
      obtain ⟨hgrows', hothers⟩ := ih hrest
      have hsecond : FileTree.Grows (WritesAny machine.workingDirectory target (entry :: rest))
          middle.files ended.files :=
        hgrows'.mono fun _ ⟨writer, hwriter, hwrites⟩ =>
          ⟨writer, List.mem_cons_of_mem _ hwriter, hwrites⟩
      rcases hothers with ⟨⟨others, rfl⟩, hextracted⟩ | ⟨⟨failure, rfl⟩, hnot⟩
      · rw [on_bind_of_ok _ hrest] at h
        have hall := ExtractedAll.cons hsound hpresent hgrows' hextracted
        split at h
        · obtain ⟨rfl, rfl⟩ := Prod.mk.inj h
          exact ⟨hfirst.trans hsecond, .inl ⟨⟨_, rfl⟩, hall⟩⟩
        · obtain ⟨rfl, rfl⟩ := Prod.mk.inj h
          exact ⟨hfirst.trans hsecond, .inl ⟨⟨_, rfl⟩, hall⟩⟩
      · rw [on_bind_of_error _ hrest] at h
        obtain ⟨rfl, rfl⟩ := Prod.mk.inj h
        refine ⟨hfirst.trans hsecond, .inr ⟨⟨failure, rfl⟩, fun hall => hnot ?_⟩⟩
        refine ⟨fun other hother => hall.sound other (List.mem_cons_of_mem _ hother), ?_⟩
        intro earlier other later hsplit hlasts
        refine hall.present (entry :: earlier) other later ?_ hlasts
        rw [hsplit, List.cons_append]
    · rw [on_bind_of_error _ hentry] at h
      obtain ⟨rfl, rfl⟩ := Prod.mk.inj h
      refine ⟨hfirst, .inr ⟨⟨failure, rfl⟩, fun hall => hnot ?_⟩⟩
      exact ⟨hall.sound entry List.mem_cons_self, hall.stands entry List.mem_cons_self⟩

/-! ## Archives -/

/-- Whether an archive is extracted in a directory: every entry can be extracted, and is there with
its complete content unless a later entry takes its place. -/
def Archive.Extracted (archive : Archive) (tree : FileTree) (here : Location) (target : Path) :
    Prop :=
  ExtractedAll archive tree here target archive.entries

/-- Setting access rights changes no content. -/
theorem setModes_spec (written : Location → Prop) (made : List (Path × Nat)) (machine : Machine)
    (host : Host) :
    ∃ after, (forIn made PUnit.unit fun (item : Path × Nat) _ => do
        let files ← look fun files here =>
          files.setExecutable here item.1 (allowsRunning item.2)
        setFiles files
        pure (ForInStep.yield PUnit.unit)).on machine host = (.ok ⟨⟩, after) ∧
      FileTree.Grows written host.files after.files := by
  induction made generalizing host with
  | nil => exact ⟨host, rfl, .refl written _⟩
  | cons item rest ih =>
    obtain ⟨after, hrest, hgrows⟩ := ih { host with
      files := host.files.setExecutable machine.workingDirectory item.1 (allowsRunning item.2) }
    refine ⟨after, ?_, (FileTree.grows_setExecutable written _ _ _ _).trans hgrows⟩
    rw [List.forIn_cons, bind_assoc, on_bind_of_ok _ (on_look _), bind_assoc,
      on_bind_of_ok _ (on_setFiles _), pure_bind]
    exact hrest

/-- An extraction grows the files.  Where the directory is there afterwards, the extraction went
well exactly if the archive is extracted. -/
theorem extract_spec {outcome : Except Failure Unit}
    (h : (extract archive target).on machine host = (outcome, after)) :
    FileTree.Grows (WritesAny machine.workingDirectory target archive.entries) host.files
        after.files ∧
      (target.text = "" ∨ after.files.hasDirectory machine.workingDirectory target = true →
        (outcome = .ok () ↔ archive.Extracted after.files machine.workingDirectory target)) := by
  unfold extract at h
  rw [← bind_assoc] at h
  rcases hmake : (do orIo (← makeDirectories? target)).on machine host with ⟨made, middle⟩
  obtain ⟨hgrows, ⟨rfl, _⟩ | ⟨⟨failure, rfl⟩, htext, hnot⟩⟩ :=
    makeDirectories_orIo_spec (WritesAny machine.workingDirectory target archive.entries) hmake
  · rw [on_bind_of_ok _ hmake] at h
    rcases hentries : (extractEntries archive target archive.entries).on machine middle
      with ⟨paths, ended⟩
    obtain ⟨hgrows', ⟨⟨paths, rfl⟩, hextracted⟩ | ⟨⟨failure, rfl⟩, hnot⟩⟩ :=
      extractEntries_spec archive.entries hentries
    · obtain ⟨behind, hmodes, hgrows''⟩ := setModes_spec (fun _ => False) paths machine ended
      rw [on_bind_of_ok _ hentries, on_bind_of_ok _ hmodes] at h
      obtain ⟨rfl, rfl⟩ := Prod.mk.inj h
      refine ⟨(hgrows.trans hgrows').trans (hgrows''.mono fun _ hfalse => hfalse.elim), fun _ => ?_⟩
      exact iff_of_true rfl (hextracted.grow hgrows'')
    · rw [on_bind_of_error _ hentries] at h
      obtain ⟨rfl, rfl⟩ := Prod.mk.inj h
      exact ⟨hgrows.trans hgrows', fun _ => iff_of_false (by simp) hnot⟩
  · rw [on_bind_of_error _ hmake] at h
    obtain ⟨rfl, rfl⟩ := Prod.mk.inj h
    refine ⟨hgrows, fun hthere => ?_⟩
    rw [hnot] at hthere
    exact absurd hthere (by simp [htext])

end DumpReplay.Zip
