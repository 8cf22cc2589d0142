import DumpReplay.Proofs.Files.Resolving

/-!
# Growing file trees

Files are made and written, and nothing is taken away: where a directory stands, one stays, and
where a file stands, one stays.  What a path leads to is then still there, and a file that is not
written keeps its content.

Main results:

- `Grows.hasDirectory`, `Grows.read` : what paths lead to stays there.
- `makeDirectories_spec` : making directories goes well exactly if the path leads to one afterwards.
- `write_of_ok`, `write_of_error` : a file is written, unless the path cannot lead to one.
-/

namespace DumpReplay.FileTree

variable {tree before middle after : FileTree} {written : Location → Prop}
variable {here location : Location} {path : Path} {names : List String}

/-! ## Growing -/

/-- Trees grow if directories stay directories and files stay files, which keep their content except
where they are written. -/
structure Grows (written : Location → Prop) (before after : FileTree) : Prop where
  /-- Directories stay. -/
  directory : ∀ location, before.get? location = some .directory →
    after.get? location = some .directory
  /-- Files stay. -/
  file : ∀ location bytes executable, before.get? location = some (.file bytes executable) →
    ∃ bytes' executable', after.get? location = some (.file bytes' executable') ∧
      (¬written location → bytes' = bytes)

namespace Grows

theorem refl (written : Location → Prop) (tree : FileTree) : Grows written tree tree :=
  ⟨fun _ h => h, fun _ bytes executable h => ⟨bytes, executable, h, fun _ => rfl⟩⟩

theorem trans (first : Grows written before middle) (second : Grows written middle after) :
    Grows written before after := by
  refine ⟨fun location h => second.directory location (first.directory location h), ?_⟩
  intro location bytes executable h
  obtain ⟨bytes', executable', hmiddle, hsame⟩ := first.file location bytes executable h
  obtain ⟨bytes'', executable'', hafter, hsame'⟩ := second.file location bytes' executable' hmiddle
  exact ⟨bytes'', executable'', hafter, fun hnot => (hsame' hnot).trans (hsame hnot)⟩

/-- Trees that grow with few files written grow with more. -/
theorem mono {more : Location → Prop} (h : Grows written before after)
    (hmore : ∀ location, written location → more location) : Grows more before after := by
  refine ⟨h.directory, fun location bytes executable hfile => ?_⟩
  obtain ⟨bytes', executable', hafter, hsame⟩ := h.file location bytes executable hfile
  exact ⟨bytes', executable', hafter, fun hnot => hsame fun hwritten => hnot (hmore _ hwritten)⟩

/-- Names still lead where they led. -/
theorem descend (h : Grows written before after)
    (hnames : before.descend here names = .ok location) :
    after.descend here names = .ok location := by
  induction names generalizing here with
  | nil => exact hnames
  | cons name rest ih =>
    obtain ⟨hdirectory, hshort, hrest⟩ := descend_cons_eq_ok.mp hnames
    exact descend_cons_eq_ok.mpr ⟨h.directory here hdirectory, hshort, ih hrest⟩

theorem locate (h : Grows written before after) (hpath : before.locate here path = .ok location) :
    after.locate here path = .ok location := by
  obtain ⟨hnul, hempty, hsize, hdescend⟩ := locate_eq_ok_iff.mp hpath
  exact locate_eq_ok_iff.mpr ⟨hnul, hempty, hsize, h.descend hdescend⟩

/-- A path that led to a directory still does. -/
theorem hasDirectory (h : Grows written before after)
    (hpath : before.hasDirectory here path = true) : after.hasDirectory here path = true := by
  rw [hasDirectory_iff, status_eq_ok_iff] at hpath ⊢
  obtain ⟨location, hlocate, hget⟩ := hpath
  exact ⟨location, h.locate hlocate, h.directory location hget⟩

/-- A file that is not written keeps its content. -/
theorem read {bytes : ByteArray} (h : Grows written before after)
    (hnot : ¬written (path.location here)) (hpath : before.read here path = .ok bytes) :
    after.read here path = .ok bytes := by
  rw [read_eq_ok_iff] at hpath ⊢
  obtain ⟨executable, hstatus⟩ := hpath
  obtain ⟨location, hlocate, hget⟩ := status_eq_ok_iff.mp hstatus
  obtain ⟨bytes', executable', hafter, hsame⟩ := h.file location bytes executable hget
  rw [← location_of_locate hlocate] at hnot
  rw [hsame hnot] at hafter
  exact ⟨executable', status_eq_ok_iff.mpr ⟨location, h.locate hlocate, hafter⟩⟩

end Grows

/-! ## Insertions -/

/-- What stands at a location where nothing stood is new. -/
theorem ne_nil_of_get?_eq_none (h : tree.get? location = none) : location ≠ [] := by
  intro hnil
  rw [hnil, get?, if_pos rfl] at h
  exact absurd h (by simp)

/-- A tree grows where nothing stood. -/
theorem grows_insert (written : Location → Prop) (node : Node) (h : tree.get? location = none) :
    Grows written tree (tree.insert location node) := by
  have hget := fun other => get?_insert tree node other (ne_nil_of_get?_eq_none h)
  refine ⟨fun other hother => ?_, fun other bytes executable hother => ?_⟩
  · rw [hget, if_neg (fun hsame => by rw [hsame, h] at hother; simp at hother)]
    exact hother
  · refine ⟨bytes, executable, ?_, fun _ => rfl⟩
    rw [hget, if_neg (fun hsame => by rw [hsame, h] at hother; simp at hother)]
    exact hother

/-- A tree grows where a file is put in place of a file. -/
theorem grows_insert_file {bytes bytes' : ByteArray} {executable executable' : Bool}
    (h : tree.get? location = some (.file bytes executable))
    (hwritten : written location ∨ bytes' = bytes) :
    Grows written tree (tree.insert location (.file bytes' executable')) := by
  have hne : location ≠ [] := by
    intro hnil
    rw [hnil, get?, if_pos rfl] at h
    exact absurd h (by simp)
  have hget := fun other => get?_insert tree (.file bytes' executable') other hne
  refine ⟨fun other hother => ?_, fun other content mark hother => ?_⟩
  · rw [hget, if_neg (fun hsame => by rw [hsame, h] at hother; simp at hother)]
    exact hother
  · rw [hget]
    by_cases hsame : other = location
    · rw [if_pos hsame]
      refine ⟨bytes', executable', rfl, fun hnot => ?_⟩
      rw [hsame, h, Option.some.injEq, Node.file.injEq] at hother
      rw [hsame] at hnot
      rcases hwritten with hwritten | hbytes
      · exact absurd hwritten hnot
      · rw [hbytes, hother.1]
    · rw [if_neg hsame]
      exact ⟨content, mark, hother, fun _ => rfl⟩

/-! ## Making directories -/

theorem leadsToDirectory_iff :
    tree.leadsToDirectory here names = true ↔
      ∃ location, tree.descend here names = .ok location ∧
        tree.get? location = some .directory := by
  unfold leadsToDirectory
  cases tree.descend here names with
  | error cause => simp
  | ok location =>
    cases hget : tree.get? location with
    | none => simp [hget]
    | some node => cases node <;> simp [hget, Node.isDirectory]

/-- A directory is made where nothing stands. -/
theorem makeDirectory_eq_ok (h : tree.makeDirectory here names = .ok after) :
    ∃ location, tree.descend here names = .ok location ∧ tree.get? location = none ∧
      after = tree.insert location .directory := by
  unfold makeDirectory at h
  cases hdescend : tree.descend here names with
  | error cause => simp [hdescend, bind, Except.bind] at h
  | ok location =>
    rw [hdescend] at h
    cases hget : tree.get? location with
    | none =>
      simp only [bind, Except.bind, hget, Except.ok.injEq] at h
      exact ⟨location, rfl, hget, h.symm⟩
    | some node => simp [bind, Except.bind, hget] at h

variable {outcome : Except IoError Unit}

/-- Making a directory where one may stand grows the tree, and goes well exactly if the names lead
to a directory afterwards. -/
theorem settleDirectory_spec (written : Location → Prop)
    (h : tree.settleDirectory here names = (outcome, after)) :
    Grows written tree after ∧ (outcome = .ok () ↔ after.leadsToDirectory here names = true) := by
  unfold settleDirectory at h
  cases hmake : tree.makeDirectory here names with
  | ok made =>
    rw [hmake, Prod.mk.injEq] at h
    obtain ⟨rfl, rfl⟩ := h
    obtain ⟨location, hdescend, hget, rfl⟩ := makeDirectory_eq_ok hmake
    have hgrows : Grows written tree (tree.insert location .directory) :=
      grows_insert written .directory hget
    refine ⟨hgrows, iff_of_true rfl ?_⟩
    rw [leadsToDirectory_iff]
    refine ⟨location, hgrows.descend hdescend, ?_⟩
    rw [get?_insert tree .directory location (ne_nil_of_get?_eq_none hget), if_pos rfl]
  | error cause =>
    rw [hmake, Prod.mk.injEq] at h
    obtain ⟨rfl, rfl⟩ := h
    refine ⟨.refl written tree, ?_⟩
    cases tree.leadsToDirectory here names <;> simp

/-- Making the directories on the way to one grows the tree.  It is refused only if part of the way
does not lead to a directory afterwards. -/
theorem makeParents_spec (written : Location → Prop)
    (h : tree.makeParents here names = (outcome, after)) :
    Grows written tree after ∧
      (outcome = .ok () ∨
        ∃ part, part <:+ names ∧ after.leadsToDirectory here part.reverse = false) := by
  induction names generalizing outcome after with
  | nil =>
    rw [makeParents, Prod.mk.injEq] at h
    obtain ⟨rfl, rfl⟩ := h
    exact ⟨.refl written tree, .inl rfl⟩
  | cons last before ih =>
    -- A refusal of the last directory is that the names do not lead to one.
    have hlast : ∀ {tree' : FileTree},
        tree'.settleDirectory here (last :: before).reverse = (outcome, after) →
        Grows written tree' after ∧ (outcome = .ok () ∨
          ∃ part, part <:+ last :: before ∧ after.leadsToDirectory here part.reverse = false) := by
      intro tree' hsettle
      obtain ⟨hgrows, houtcome⟩ := settleDirectory_spec written hsettle
      refine ⟨hgrows, ?_⟩
      cases outcome with
      | ok value => exact .inl rfl
      | error cause =>
        refine .inr ⟨last :: before, List.suffix_refl _, ?_⟩
        rw [← Bool.not_eq_true, ← houtcome]
        simp
    rw [makeParents] at h
    split at h
    · cases hparents : tree.makeParents here before with
      | mk made tree' =>
        rw [hparents] at h
        obtain ⟨hgrows, hmade⟩ := ih hparents
        cases made with
        | ok value =>
          obtain ⟨hgrows', houtcome⟩ := hlast h
          exact ⟨hgrows.trans hgrows', houtcome⟩
        | error cause =>
          rw [Prod.mk.injEq] at h
          obtain ⟨rfl, rfl⟩ := h
          refine ⟨hgrows, ?_⟩
          rcases hmade with hok | ⟨part, hpart, hleads⟩
          · exact absurd hok (by simp)
          · exact .inr ⟨part, hpart.trans (List.suffix_cons last before), hleads⟩
    · exact hlast h

/-- Names that stand for the directory itself can be left out. -/
theorem descend_filter (h : tree.descend here names = .ok location) :
    tree.descend here (names.filter fun s => s != "" && s != ".") = .ok location := by
  induction names generalizing here with
  | nil => exact h
  | cons name rest ih =>
    obtain ⟨hdirectory, hshort, hrest⟩ := descend_cons_eq_ok.mp h
    have hkeep : (name != "" && name != ".") = !(decide (name = "") || decide (name = ".")) := by
      rw [Bool.not_or]
      rfl
    by_cases hblank : (name = "" || name = ".") = true
    · rw [List.filter_cons_of_neg (by rw [hkeep, hblank]; simp)]
      rw [stepTo, if_pos hblank] at hrest
      exact ih hrest
    · rw [List.filter_cons_of_pos (by rw [hkeep, Bool.eq_false_iff.mpr hblank]; rfl)]
      exact descend_cons_eq_ok.mpr ⟨hdirectory, hshort, ih hrest⟩

theorem withoutTrailing_append (segments : List String) :
    ∃ count, segments = withoutTrailing segments ++ List.replicate count "" := by
  refine ⟨(segments.reverse.takeWhile (· == "")).length, ?_⟩
  have hblank : (segments.reverse.takeWhile (· == "")) =
      List.replicate (segments.reverse.takeWhile (· == "")).length "" := by
    refine List.eq_replicate_iff.mpr ⟨rfl, fun s hs => ?_⟩
    have hall := List.all_eq_true.mp (List.all_takeWhile (l := segments.reverse)) s hs
    exact beq_iff_eq.mp hall
  rw [withoutTrailing, ← List.reverse_replicate, ← hblank, ← List.reverse_append,
    List.takeWhile_append_dropWhile, List.reverse_reverse]

/-- Empty segments at the end of a path do not change whether it leads to a directory. -/
theorem leadsToDirectory_withoutTrailing (segments : List String) :
    tree.leadsToDirectory here (withoutTrailing segments) =
      tree.leadsToDirectory here segments := by
  obtain ⟨count, hsegments⟩ := withoutTrailing_append segments
  rw [Bool.eq_iff_iff, leadsToDirectory_iff, leadsToDirectory_iff]
  constructor
  · rintro ⟨location, hdescend, hget⟩
    refine ⟨location, ?_, hget⟩
    rw [hsegments, descend_append_eq_ok]
    exact ⟨location, hdescend, descend_replicate hget count⟩
  · rintro ⟨location, hdescend, hget⟩
    rw [hsegments, descend_append_eq_ok] at hdescend
    obtain ⟨middle, hmiddle, hrest⟩ := hdescend
    cases count with
    | zero =>
      rw [List.replicate_zero, descend, Except.ok.injEq] at hrest
      exact ⟨middle, hmiddle, hrest ▸ hget⟩
    | succ count =>
      rw [List.replicate_succ] at hrest
      exact ⟨middle, hmiddle, (descend_cons_eq_ok.mp hrest).1⟩

/-- A path leads to a directory if the system takes it and its segments lead to one. -/
theorem hasDirectory_iff_leads :
    tree.hasDirectory here path = true ↔
      '\x00' ∉ path.toList ∧ path.text ≠ "" ∧ path.text.utf8ByteSize ≤ 4095 ∧
        tree.leadsToDirectory (start here path) path.segments = true := by
  rw [hasDirectory_iff, status_eq_ok_iff, leadsToDirectory_iff]
  constructor
  · rintro ⟨location, hlocate, hget⟩
    obtain ⟨hnul, hempty, hsize, hdescend⟩ := locate_eq_ok_iff.mp hlocate
    exact ⟨hnul, hempty, hsize, location, hdescend, hget⟩
  · rintro ⟨hnul, hempty, hsize, location, hdescend, hget⟩
    exact ⟨location, locate_eq_ok_iff.mpr ⟨hnul, hempty, hsize, hdescend⟩, hget⟩

/-- A path that leads to a directory leads through directories. -/
theorem leadsToDirectory_of_part {part : List String} (hpart : part <+: path.names.dropLast)
    (h : tree.leadsToDirectory here path.segments = true) :
    tree.leadsToDirectory here part = true := by
  obtain ⟨location, hdescend, hget⟩ := leadsToDirectory_iff.mp h
  have hnames : tree.descend here path.names = .ok location := descend_filter hdescend
  rcases List.eq_nil_or_concat path.names with hnil | ⟨front, last, hconcat⟩
  · rw [hnil, List.dropLast_nil, List.prefix_nil] at hpart
    rw [hnil, descend, Except.ok.injEq] at hnames
    rw [hpart, leadsToDirectory_iff]
    exact ⟨here, rfl, hnames ▸ hget⟩
  · rw [List.concat_eq_append] at hconcat
    rw [hconcat, List.dropLast_concat] at hpart
    obtain ⟨rest, hrest⟩ := hpart
    rw [hconcat, ← hrest, List.append_assoc, descend_append_eq_ok] at hnames
    obtain ⟨middle, hmiddle, hlast⟩ := hnames
    have hdirectory : tree.get? middle = some .directory := by
      cases rest with
      | nil => exact (descend_cons_eq_ok.mp hlast).1
      | cons name others => exact (descend_cons_eq_ok.mp hlast).1
    exact leadsToDirectory_iff.mpr ⟨middle, hmiddle, hdirectory⟩

/-- Making a directory and the missing ones on the way to it grows the tree, and goes well exactly
if the path leads to a directory afterwards.  The empty path leads nowhere, and nothing is made for
it. -/
theorem makeDirectories_spec (written : Location → Prop)
    (h : tree.makeDirectories here path = (outcome, after)) :
    Grows written tree after ∧
      (outcome = .ok () ↔ path.text = "" ∨ after.hasDirectory here path = true) := by
  rw [hasDirectory_iff_leads]
  unfold makeDirectories at h
  split at h
  · rename_i hnul
    rw [Prod.mk.injEq] at h
    obtain ⟨rfl, rfl⟩ := h
    have hmem : '\x00' ∈ path.toList := by simpa using hnul
    have htext : path.text ≠ "" := fun hempty => by
      rw [Path.toList, hempty] at hmem
      exact absurd hmem (by simp)
    exact ⟨.refl written tree, by simp [hmem, htext]⟩
  · rename_i hnul
    have hmem : '\x00' ∉ path.toList := by simpa using hnul
    split at h
    · rename_i hempty
      rw [Prod.mk.injEq] at h
      obtain ⟨rfl, rfl⟩ := h
      exact ⟨.refl written tree, iff_of_true rfl (.inl hempty)⟩
    · rename_i hempty
      split at h
      · rename_i hsize
        rw [Prod.mk.injEq] at h
        obtain ⟨rfl, rfl⟩ := h
        refine ⟨.refl written tree, ?_⟩
        simp only [reduceCtorEq, false_iff, not_or, not_and]
        exact ⟨hempty, fun _ _ hle => absurd hle (by omega)⟩
      · rename_i hsize
        have hle : path.text.utf8ByteSize ≤ 4095 := by omega
        simp only [hempty, hmem, hle, not_false_eq_true, ne_eq, true_and, false_or]
        -- In the end a directory is made where one may stand.
        have hlast : ∀ {tree' : FileTree},
            tree'.settleDirectory (start here path) (withoutTrailing path.segments) =
              (outcome, after) →
            Grows written tree' after ∧ (outcome = .ok () ↔
              after.leadsToDirectory (start here path) path.segments = true) := by
          intro tree' hsettle
          rw [← leadsToDirectory_withoutTrailing path.segments]
          exact settleDirectory_spec written hsettle
        dsimp only at h
        split at h
        · cases hparents : tree.makeParents (start here path) path.names.dropLast.reverse with
          | mk made tree' =>
            rw [hparents] at h
            obtain ⟨hgrows, hmade⟩ := makeParents_spec written hparents
            cases made with
            | ok value =>
              obtain ⟨hgrows', houtcome⟩ := hlast h
              exact ⟨hgrows.trans hgrows', houtcome⟩
            | error cause =>
              rw [Prod.mk.injEq] at h
              obtain ⟨rfl, rfl⟩ := h
              refine ⟨hgrows, iff_of_false (by simp) ?_⟩
              rcases hmade with hok | ⟨part, hpart, hleads⟩
              · exact absurd hok (by simp)
              · intro hdirectory
                rw [← List.reverse_prefix, List.reverse_reverse] at hpart
                rw [leadsToDirectory_of_part hpart hdirectory] at hleads
                exact absurd hleads (by simp)
        · exact hlast h

/-! ## Files -/

/-- A file that is written has its new content afterwards, and the tree grows. -/
theorem write_of_ok {bytes : ByteArray} (h : tree.write here path bytes = .ok after) :
    Grows (· = path.location here) tree after ∧ after.read here path = .ok bytes := by
  unfold write at h
  cases hlocate : tree.locate here path with
  | error cause => simp [hlocate, bind, Except.bind] at h
  | ok location =>
    have hlocation := location_of_locate hlocate
    rw [hlocate] at h
    -- Either way a file is put at the location, and the path leads there.
    have hread : ∀ executable, location ≠ [] →
        Grows (· = path.location here) tree (tree.insert location (.file bytes executable)) →
        (tree.insert location (.file bytes executable)).read here path = .ok bytes := by
      intro executable hne hgrows
      rw [read_eq_ok_iff]
      refine ⟨executable, status_eq_ok_iff.mpr ⟨location, hgrows.locate hlocate, ?_⟩⟩
      rw [get?_insert tree _ location hne, if_pos rfl]
    cases hget : tree.get? location with
    | none =>
      simp only [bind, Except.bind, hget, Except.ok.injEq] at h
      have hgrows := grows_insert (· = path.location here) (.file bytes false) hget
      rw [← h]
      exact ⟨hgrows, hread false (ne_nil_of_get?_eq_none hget) hgrows⟩
    | some node =>
      cases node with
      | directory => simp [bind, Except.bind, hget] at h
      | file old executable =>
        simp only [bind, Except.bind, hget, Except.ok.injEq] at h
        have hgrows : Grows (· = path.location here) tree
            (tree.insert location (.file bytes executable)) :=
          grows_insert_file hget (.inl hlocation)
        rw [← h]
        refine ⟨hgrows, hread executable ?_ hgrows⟩
        intro hnil
        rw [hnil, get?, if_pos rfl] at hget
        exact absurd hget (by simp)

/-- Where a path leads to a file, the file can be written. -/
theorem write_of_error {bytes : ByteArray} {cause : IoError}
    (h : tree.write here path bytes = .error cause) : tree.hasFile here path = false := by
  rw [← Bool.not_eq_true, hasFile_iff]
  rintro ⟨old, executable, hstatus⟩
  obtain ⟨location, hlocate, hget⟩ := status_eq_ok_iff.mp hstatus
  simp [write, hlocate, hget, bind, Except.bind] at h

/-- Marking a file as a program or not changes no content. -/
theorem grows_setExecutable (written : Location → Prop) (tree : FileTree) (here : Location)
    (path : Path) (executable : Bool) :
    Grows written tree (tree.setExecutable here path executable) := by
  unfold setExecutable
  split
  · exact .refl written tree
  · split
    · rename_i hget
      exact grows_insert_file hget (.inr rfl)
    · exact .refl written tree

end DumpReplay.FileTree
