import DumpReplay.Proofs.Files.Growth
import Mathlib.Data.List.Induction
import Mathlib.Logic.Relation

/-!
# Edits of file trees

A tree is edited by making a directory where nothing stands, by writing a file where no directory
stands, and by removing what is no directory.  Edits never take a directory away, and what stands in
a directory that is open from the root stays as it is, unless the edit is made at its very place.

Main results:

- `Edited.rooted` : edits keep what stands somewhere standing in a directory.
- `Edited.isOpen` : an open directory stays open.
- `Edit.get?_eq` : what stands in an open directory stays, unless it is written itself.
- `Edited.onlyMade` : apart from what is written, edits only make directories.
- `edit_write`, `edited_makeDirectories` : the operations on trees are edits.
-/

namespace DumpReplay

/-! ## The way to a path -/

/-- Whether a location is passed on the way to a path. -/
def Path.Way (here : Location) (path : Path) (location : Location) : Prop :=
  ∃ part, part <+: path.segments ∧ location = follow (FileTree.start here path) part

theorem Path.segments_ne_nil (path : Path) : path.segments ≠ [] := by
  unfold segments
  rw [ne_eq, List.map_eq_nil_iff]
  exact splitAt_ne_nil _ _

/-- The location of a path is the last one on the way to it. -/
theorem Path.way_location (here : Location) (path : Path) : path.Way here (path.location here) :=
  ⟨path.segments, List.prefix_rfl, rfl⟩

/-- What is passed on the way to a path inside a directory is passed on the way to the directory, or
it is the location of the path. -/
theorem Path.way_child {name : String} (h : Path.IsName name) {here location : Location}
    {directory : Path} (hway : (directory.child name).Way here location) :
    directory.Way here location ∨ location = (directory.child name).location here := by
  obtain ⟨part, hpart, rfl⟩ := hway
  obtain ⟨front, hsegments, hchild⟩ := h.segments_child directory
  rw [hchild] at hpart
  rcases List.prefix_concat_iff.mp hpart with rfl | hfront
  · refine .inr ?_
    rw [← hchild]
    rfl
  · refine .inl ⟨part, hfront.trans ?_, by rw [h.start_child]⟩
    rcases hsegments with hsame | hlonger
    · exact hsame ▸ List.prefix_rfl
    · rw [hlonger]
      exact List.prefix_append _ _

/-- What is passed on the way to a directory is passed on the way to a path inside it. -/
theorem Path.Way.child {name : String} (h : Path.IsName name) {here location : Location}
    {directory : Path} (hway : directory.Way here location) :
    (directory.child name).Way here location := by
  obtain ⟨part, hpart, rfl⟩ := hway
  obtain ⟨front, hsegments, hchild⟩ := h.segments_child directory
  have hinside : ∀ part, part <+: front →
      (directory.child name).Way here (follow (FileTree.start here directory) part) :=
    fun part hfront => ⟨part, by rw [hchild]; exact hfront.trans (List.prefix_append _ _),
      by rw [h.start_child]⟩
  rcases hsegments with hsame | hlonger
  · exact hinside part (hsame ▸ hpart)
  · rw [hlonger] at hpart
    rcases List.prefix_concat_iff.mp hpart with rfl | hfront
    · -- An empty segment at the end leads nowhere else.
      rw [follow_append]
      exact hinside front List.prefix_rfl
    · exact hinside part hfront

/-- The places on the way to a directory, and those below it. -/
def Path.Around (here : Location) (directory : Path) (location : Location) : Prop :=
  directory.Way here location ∨ directory.location here <+: location

/-- The places below a directory, and its own unless the path is empty. -/
def Path.Under (here : Location) (directory : Path) (location : Location) : Prop :=
  directory.location here <+: location ∧
    (location = directory.location here → directory.text ≠ "")

/-- Below a place under a directory there are only such places. -/
theorem Path.Under.mono {here above location : Location} {directory : Path}
    (h : directory.Under here above) (habove : above <+: location) :
    directory.Under here location := by
  refine ⟨h.1.trans habove, fun hsame => h.2 ?_⟩
  rw [hsame] at habove
  exact (h.1.eq_of_length_le habove.length_le).symm

/-- The places around a directory inside another one are around that one. -/
theorem Path.Around.of_child {name : String} (h : Path.IsName name) {here location : Location}
    {directory : Path} (haround : (directory.child name).Around here location) :
    directory.Around here location := by
  have hchild := Path.location_child h here directory
  rcases haround with hway | hbelow
  · rcases Path.way_child h hway with hbefore | hsame
    · exact .inl hbefore
    · rw [hsame, hchild]
      exact .inr (List.prefix_append _ _)
  · rw [hchild] at hbelow
    exact .inr ((List.prefix_append _ _).trans hbelow)

theorem Path.Around.of_descendant {names : List String} (h : ∀ name ∈ names, Path.IsName name)
    {here location : Location} {directory : Path}
    (haround : (directory.descendant names).Around here location) :
    directory.Around here location := by
  induction names generalizing directory with
  | nil => exact haround
  | cons name rest ih =>
    obtain ⟨hname, hrest⟩ := List.forall_mem_cons.mp h
    exact .of_child hname (ih hrest haround)

/-- Some names inside a directory lead to a place under it. -/
theorem Path.under_descendant {names : List String} (h : ∀ name ∈ names, Path.IsName name)
    (here : Location) {directory : Path} (hpath : (directory.descendant names).text ≠ "") :
    directory.Under here ((directory.descendant names).location here) := by
  rw [Path.location_descendant h]
  refine ⟨List.prefix_append _ _, fun hsame => ?_⟩
  rw [List.append_right_eq_self.mp hsame] at hpath
  exact hpath

namespace FileTree

variable {tree before middle after : FileTree} {made written : Location → Prop}
variable {here location above : Location} {path : Path} {names : List String} {node : Node}

/-! ## Rooted trees -/

/-- The root is always a directory. -/
@[simp] theorem get?_nil (tree : FileTree) : tree.get? [] = some .directory :=
  if_pos rfl

theorem ne_nil_of_get?_ne (h : tree.get? location ≠ some .directory) : location ≠ [] := by
  rintro rfl
  exact h tree.get?_nil

/-- A tree is rooted if whatever stands somewhere stands in a directory. -/
def Rooted (tree : FileTree) : Prop :=
  ∀ location node, tree.get? location = some node →
    tree.get? location.dropLast = some .directory

/-- A tree is rooted if the places of its entries are in directories. -/
theorem rooted_of_entries
    (h : ∀ entry ∈ tree.entries, tree.get? entry.1.dropLast = some .directory) : tree.Rooted := by
  intro location node hget
  by_cases hroot : location = []
  · rw [hroot]
    exact tree.get?_nil
  · rw [get?, if_neg hroot] at hget
    obtain ⟨_, _, hentries, _⟩ := List.lookup_eq_some_iff.mp hget
    refine h (location, node) ?_
    rw [hentries]
    exact List.mem_append_right _ List.mem_cons_self

/-- A location is open if it and everything above it are directories. -/
def IsOpen (tree : FileTree) (location : Location) : Prop :=
  ∀ above, above <+: location → tree.get? above = some .directory

theorem IsOpen.get?_eq (h : tree.IsOpen location) : tree.get? location = some .directory :=
  h location List.prefix_rfl

/-- In a rooted tree every directory is open. -/
theorem Rooted.isOpen (hrooted : tree.Rooted) (h : tree.get? location = some .directory) :
    tree.IsOpen location := by
  -- By induction on the location from its end: each name in it stands in the directory before.
  induction location using List.reverseRecOn with
  | nil =>
    intro above habove
    rw [List.prefix_nil.mp habove]
    exact tree.get?_nil
  | append_singleton front last ih =>
    have hfront : tree.get? front = some .directory := by
      have hparent := hrooted _ _ h
      rwa [List.dropLast_concat] at hparent
    intro above habove
    rcases List.prefix_concat_iff.mp habove with hsame | hover
    · rw [hsame]
      exact h
    · exact ih hfront above hover

/-- In a rooted tree whatever stands somewhere stands in an open directory. -/
theorem Rooted.isOpen_dropLast (hrooted : tree.Rooted) (h : tree.get? location = some node) :
    tree.IsOpen location.dropLast :=
  hrooted.isOpen (hrooted _ _ h)

/-- What is above a place other than the place itself is above the directory that it is in. -/
theorem prefix_dropLast (h : above <+: location) (hne : above ≠ location) :
    above <+: location.dropLast := by
  rcases List.eq_nil_or_concat location with rfl | ⟨front, last, rfl⟩
  · exact absurd (List.prefix_nil.mp h) hne
  · rw [List.concat_eq_append] at h hne ⊢
    rw [List.dropLast_concat]
    exact (List.prefix_concat_iff.mp h).resolve_left hne

/-- Names that lead somewhere in a rooted tree lead into a directory. -/
theorem Rooted.get?_dropLast_of_descend (hrooted : tree.Rooted) (hnames : names ≠ [])
    (h : tree.descend here names = .ok location) :
    tree.get? location.dropLast = some .directory := by
  induction names generalizing here with
  | nil => exact absurd rfl hnames
  | cons name rest ih =>
    obtain ⟨hdirectory, _, hrest⟩ := descend_cons_eq_ok.mp h
    cases rest with
    | cons next rest => exact ih (List.cons_ne_nil next rest) hrest
    | nil =>
      have hup : tree.get? here.dropLast = some .directory := hrooted _ _ hdirectory
      rw [descend_nil_eq_ok.mp hrest, stepTo]
      split
      · exact hup
      · split
        · exact hrooted _ _ hup
        · rw [List.dropLast_concat]
          exact hdirectory

/-- In a rooted tree nothing stands below a place where nothing stands. -/
theorem Rooted.get?_eq_none (hrooted : tree.Rooted) (h : tree.get? above = none)
    (habove : above <+: location) : tree.get? location = none := by
  by_contra hstands
  obtain ⟨node, hnode⟩ := Option.ne_none_iff_exists'.mp hstands
  by_cases hsame : above = location
  · rw [← hsame, h] at hnode
    exact absurd hnode (by simp)
  · have hopen := hrooted.isOpen_dropLast hnode above (prefix_dropLast habove hsame)
    rw [h] at hopen
    exact absurd hopen (by simp)

/-! ## Places where at most a directory is made -/

/-- At a place all is as it was, or a directory is made where nothing stood. -/
def OnlyMade (made : Location → Prop) (before after : FileTree) (location : Location) : Prop :=
  after.get? location = before.get? location ∨
    made location ∧ before.get? location = none ∧ after.get? location = some .directory

namespace OnlyMade

theorem mono {more : Location → Prop} (h : OnlyMade made before after location)
    (hmore : made location → more location) : OnlyMade more before after location :=
  h.imp_right fun ⟨hmade, hrest⟩ => ⟨hmore hmade, hrest⟩

theorem trans (first : OnlyMade made before middle location)
    (second : OnlyMade made middle after location) : OnlyMade made before after location := by
  rcases second with hsame | ⟨hmade, hfree, hdirectory⟩
  · unfold OnlyMade
    rwa [hsame]
  · -- Where a directory is made nothing stood, so that none was made there before.
    rcases first with hsame | ⟨_, _, hmiddle⟩
    · rw [hsame] at hfree
      exact .inr ⟨hmade, hfree, hdirectory⟩
    · rw [hmiddle] at hfree
      exact absurd hfree (by simp)

end OnlyMade

/-! ## Edits -/

/-- One change of a tree: a directory is made, a file is written, or what is no directory is
removed. -/
inductive Edit (made written : Location → Prop) (tree : FileTree) : FileTree → Prop
  /-- A directory is made where nothing stands. -/
  | make (location : Location) (hmade : made location)
      (hparent : tree.Rooted → tree.get? location.dropLast = some .directory)
      (hfree : tree.get? location = none) : Edit made written tree (tree.insert location .directory)
  /-- A file is written where no directory stands. -/
  | write (location : Location) (bytes : ByteArray) (executable : Bool)
      (hwritten : written location)
      (hparent : tree.Rooted → tree.get? location.dropLast = some .directory)
      (hnot : tree.get? location ≠ some .directory) :
      Edit made written tree (tree.insert location (.file bytes executable))
  /-- What is no directory is removed. -/
  | remove (location : Location) (hwritten : written location)
      (hnot : tree.get? location ≠ some .directory) : Edit made written tree (tree.removeBelow location)

/-- What is not below a place stays when the place is emptied. -/
theorem get?_removeBelow_of_apart (tree : FileTree) (h : ¬above <+: location) :
    (tree.removeBelow above).get? location = tree.get? location := by
  by_cases hroot : location = []
  · rw [hroot, get?_nil, get?_nil]
  · rw [get?_removeBelow _ _ _ hroot, if_neg]
    rwa [List.isPrefixOf_iff_prefix]

theorem get?_insert_of_ne (tree : FileTree) (node : Node) (hroot : location ≠ [])
    {other : Location} (hne : other ≠ location) :
    (tree.insert location node).get? other = tree.get? other := by
  rw [get?_insert tree node other hroot, if_neg hne]

theorem get?_insert_self (tree : FileTree) (node : Node) (hroot : location ≠ []) :
    (tree.insert location node).get? location = some node := by
  rw [get?_insert tree node location hroot, if_pos rfl]

theorem ne_of_get?_ne_directory (hnot : tree.get? location ≠ some .directory)
    (h : tree.get? above = some .directory) : above ≠ location := by
  rintro rfl
  exact hnot h

theorem not_directory_of_free (hfree : tree.get? location = none) :
    tree.get? location ≠ some .directory := by
  rw [hfree]
  simp

/-- A node put into a directory, where no directory stands, leaves a rooted tree rooted. -/
theorem Rooted.insert (hrooted : tree.Rooted)
    (hparent : tree.get? location.dropLast = some .directory)
    (hnot : tree.get? location ≠ some .directory) : (tree.insert location node).Rooted := by
  have hroot := ne_nil_of_get?_ne hnot
  -- A directory is not at the place of the node, so that it is still there.
  have hstays : ∀ other, tree.get? other = some .directory →
      (tree.insert location node).get? other = some .directory := by
    intro other hother
    rw [get?_insert_of_ne tree node hroot (ne_of_get?_ne_directory hnot hother)]
    exact hother
  intro other found hfound
  by_cases hsame : other = location
  · rw [hsame]
    exact hstays _ hparent
  · rw [get?_insert_of_ne tree node hroot hsame] at hfound
    exact hstays _ (hrooted _ _ hfound)

theorem Rooted.removeBelow (hrooted : tree.Rooted) (hroot : location ≠ []) :
    (tree.removeBelow location).Rooted := by
  intro other found hfound
  have hnot : ¬location <+: other := by
    intro hover
    have hother : other ≠ [] := by
      rintro rfl
      exact hroot (List.prefix_nil.mp hover)
    rw [get?_removeBelow _ _ _ hother, if_pos (List.isPrefixOf_iff_prefix.mpr hover)] at hfound
    exact absurd hfound (by simp)
  rw [get?_removeBelow_of_apart tree hnot] at hfound
  rw [get?_removeBelow_of_apart tree fun hover => hnot (hover.trans (List.dropLast_prefix _))]
  exact hrooted _ _ hfound

namespace Edit

/-- An edit is one at more places. -/
theorem mono {more most : Location → Prop} (h : Edit made written before after)
    (hmore : ∀ location, made location → more location)
    (hmost : ∀ location, written location → most location) : Edit more most before after := by
  cases h with
  | make location hmade hparent hfree => exact .make location (hmore _ hmade) hparent hfree
  | write location bytes executable hwritten hparent hnot =>
    exact .write location bytes executable (hmost _ hwritten) hparent hnot
  | remove location hwritten hnot => exact .remove location (hmost _ hwritten) hnot

/-- A rooted tree stays rooted. -/
theorem rooted (h : Edit made written before after) (hrooted : before.Rooted) : after.Rooted := by
  cases h with
  | make location _ hparent hfree =>
    exact hrooted.insert (hparent hrooted) (not_directory_of_free hfree)
  | write location _ _ _ hparent hnot => exact hrooted.insert (hparent hrooted) hnot
  | remove location _ hnot => exact hrooted.removeBelow (ne_nil_of_get?_ne hnot)

/-- An open directory stays open. -/
theorem isOpen (h : Edit made written before after) (hopen : before.IsOpen location) :
    after.IsOpen location := by
  intro above habove
  have hdirectory : before.get? above = some .directory := hopen above habove
  rw [← hdirectory]
  cases h with
  | make other _ _ hfree =>
    have hnot := not_directory_of_free hfree
    exact get?_insert_of_ne _ _ (ne_nil_of_get?_ne hnot) (ne_of_get?_ne_directory hnot hdirectory)
  | write other _ _ _ _ hnot =>
    exact get?_insert_of_ne _ _ (ne_nil_of_get?_ne hnot) (ne_of_get?_ne_directory hnot hdirectory)
  | remove other _ hnot =>
    refine get?_removeBelow_of_apart before fun hover => hnot ?_
    exact hopen other (hover.trans habove)

/-- What stands in an open directory stays, unless it is written or a directory is made for it. -/
theorem get?_eq (h : Edit made written before after) (hopen : before.IsOpen location.dropLast)
    (hmade : made location → before.get? location ≠ none) (hwritten : ¬written location) :
    after.get? location = before.get? location := by
  cases h with
  | make other hother _ hfree =>
    refine get?_insert_of_ne _ _ (ne_nil_of_get?_ne (not_directory_of_free hfree)) ?_
    rintro rfl
    exact hmade hother hfree
  | write other _ _ hother _ hnot =>
    refine get?_insert_of_ne _ _ (ne_nil_of_get?_ne hnot) ?_
    rintro rfl
    exact hwritten hother
  | remove other hother hnot =>
    refine get?_removeBelow_of_apart before fun hover => hnot ?_
    refine hopen other (prefix_dropLast hover ?_)
    rintro rfl
    exact hwritten hother

/-- Where no directory stands and none is made, none stands afterwards. -/
theorem not_directory (h : Edit made written before after) (hmade : ¬made location)
    (hnot : before.get? location ≠ some .directory) : after.get? location ≠ some .directory := by
  have hroot := ne_nil_of_get?_ne hnot
  cases h with
  | make other hother _ hfree =>
    have hne : location ≠ other := by
      rintro rfl
      exact hmade hother
    rwa [get?_insert_of_ne _ _ (ne_nil_of_get?_ne (not_directory_of_free hfree)) hne]
  | write other _ _ _ _ hother =>
    by_cases hsame : location = other
    · rw [hsame, get?_insert_self before _ (ne_nil_of_get?_ne hother)]
      simp
    · rwa [get?_insert_of_ne _ _ (ne_nil_of_get?_ne hother) hsame]
  | remove other _ _ =>
    rw [get?_removeBelow _ _ _ hroot]
    split
    · simp
    · exact hnot

/-- Apart from what is written, a place changes only when a directory is made there. -/
theorem onlyMade (h : Edit made written before after)
    (hwritten : ∀ above, above <+: location → ¬written above) :
    OnlyMade made before after location := by
  cases h with
  | make other hother _ hfree =>
    have hroot := ne_nil_of_get?_ne (not_directory_of_free hfree)
    by_cases hsame : location = other
    · rw [hsame]
      exact .inr ⟨hother, hfree, get?_insert_self before _ hroot⟩
    · exact .inl (get?_insert_of_ne before _ hroot hsame)
  | write other _ _ hother _ hnot =>
    refine .inl (get?_insert_of_ne _ _ (ne_nil_of_get?_ne hnot) ?_)
    rintro rfl
    exact hwritten _ List.prefix_rfl hother
  | remove other hother hnot =>
    exact .inl (get?_removeBelow_of_apart before fun hover => hwritten _ hover hother)

end Edit

/-! ## Edits in a row -/

/-- A tree is edited, any number of times. -/
abbrev Edited (made written : Location → Prop) : FileTree → FileTree → Prop :=
  Relation.ReflTransGen (Edit made written)

namespace Edited

theorem rooted (h : Edited made written before after) (hrooted : before.Rooted) :
    after.Rooted := by
  induction h with
  | refl => exact hrooted
  | tail _ hedit ih => exact hedit.rooted ih

theorem isOpen (h : Edited made written before after) (hopen : before.IsOpen location) :
    after.IsOpen location := by
  induction h with
  | refl => exact hopen
  | tail _ hedit ih => exact hedit.isOpen ih

/-- Apart from what is written, a place changes only when a directory is made there. -/
theorem onlyMade (h : Edited made written before after)
    (hwritten : ∀ above, above <+: location → ¬written above) :
    OnlyMade made before after location := by
  induction h with
  | refl => exact .inl rfl
  | tail _ hedit ih => exact ih.trans (hedit.onlyMade hwritten)

end Edited

/-! ## Operations -/

/-- Writing a file puts it at the location of its path, and changes nothing else. -/
theorem write_eq_ok {bytes : ByteArray} (h : tree.write here path bytes = .ok after) :
    path.location here ≠ [] ∧ ∃ executable,
      after = tree.insert (path.location here) (.file bytes executable) := by
  unfold write at h
  cases hlocate : tree.locate here path with
  | error cause => simp [hlocate, bind, Except.bind] at h
  | ok location =>
    rw [← location_of_locate hlocate]
    cases hget : tree.get? location with
    | none =>
      simp only [hlocate, bind, Except.bind, hget, Except.ok.injEq] at h
      exact ⟨ne_nil_of_get?_ne (not_directory_of_free hget), false, h.symm⟩
    | some node =>
      cases node with
      | directory => simp [hlocate, bind, Except.bind, hget] at h
      | file old executable =>
        simp only [hlocate, bind, Except.bind, hget, Except.ok.injEq] at h
        have hnot : tree.get? location ≠ some .directory := by simp [hget]
        exact ⟨ne_nil_of_get?_ne hnot, executable, h.symm⟩

/-- Writing a file is an edit at the place of the file. -/
theorem edit_write {bytes : ByteArray} (made : Location → Prop)
    (hwritten : path.text ≠ "" → written (path.location here))
    (h : tree.write here path bytes = .ok after) : Edit made written tree after := by
  unfold write at h
  cases hlocate : tree.locate here path with
  | error cause => simp [hlocate, bind, Except.bind] at h
  | ok location =>
    obtain ⟨_, hpath, _, hdescend⟩ := locate_eq_ok_iff.mp hlocate
    replace hwritten := hwritten hpath
    rw [← location_of_locate hlocate] at hwritten
    have hparent : tree.Rooted → tree.get? location.dropLast = some .directory := fun hrooted =>
      hrooted.get?_dropLast_of_descend path.segments_ne_nil hdescend
    cases hget : tree.get? location with
    | none =>
      simp only [hlocate, bind, Except.bind, hget, Except.ok.injEq] at h
      rw [← h]
      exact .write location bytes false hwritten hparent (not_directory_of_free hget)
    | some node =>
      cases node with
      | directory => simp [hlocate, bind, Except.bind, hget] at h
      | file old executable =>
        simp only [hlocate, bind, Except.bind, hget, Except.ok.injEq] at h
        rw [← h]
        exact .write location bytes executable hwritten hparent (by simp [hget])

/-- Marking a file as a program or not is an edit at its place, if it is one at all. -/
theorem edited_setExecutable (made : Location → Prop)
    (hwritten : path.text ≠ "" → written (path.location here)) (executable : Bool) :
    Edited made written tree (tree.setExecutable here path executable) := by
  unfold setExecutable
  cases hlocate : tree.locate here path with
  | error cause => exact .refl
  | ok location =>
    obtain ⟨_, hpath, _, hdescend⟩ := locate_eq_ok_iff.mp hlocate
    replace hwritten := hwritten hpath
    rw [← location_of_locate hlocate] at hwritten
    dsimp only
    split
    · rename_i hget
      refine .single (.write location _ _ hwritten (fun hrooted => ?_) (by simp [hget]))
      exact hrooted.get?_dropLast_of_descend path.segments_ne_nil hdescend
    · exact .refl

/-- Making a directory is an edit at the place that the names lead to. -/
theorem edit_makeDirectory (written : Location → Prop) (hmade : made (follow here names))
    (hstart : names = [] → here = []) (h : tree.makeDirectory here names = .ok after) :
    Edit made written tree after := by
  obtain ⟨location, hdescend, hget, rfl⟩ := makeDirectory_eq_ok h
  rw [← follow_of_descend hdescend] at hmade
  refine .make location hmade (fun hrooted => ?_) hget
  refine hrooted.get?_dropLast_of_descend ?_ hdescend
  -- Without names it would be the root that is made.
  intro hnil
  rw [hnil, hstart hnil, descend_nil_eq_ok] at hdescend
  rw [hdescend, get?_nil] at hget
  exact absurd hget (by simp)

variable {outcome : Except IoError Unit}

theorem edited_settleDirectory (written : Location → Prop) (hmade : made (follow here names))
    (hstart : names = [] → here = []) (h : tree.settleDirectory here names = (outcome, after)) :
    Edited made written tree after := by
  unfold settleDirectory at h
  cases hmake : tree.makeDirectory here names with
  | ok made =>
    rw [hmake] at h
    obtain ⟨_, rfl⟩ := Prod.mk.inj h
    exact .single (edit_makeDirectory written hmade hstart hmake)
  | error cause =>
    rw [hmake] at h
    obtain ⟨_, rfl⟩ := Prod.mk.inj h
    exact .refl

/-- Making the directories on the way to one are edits at their places. -/
theorem edited_makeParents (written : Location → Prop)
    (hmade : ∀ part, part <+: names.reverse → made (follow here part))
    (h : tree.makeParents here names = (outcome, after)) : Edited made written tree after := by
  induction names generalizing outcome after with
  | nil =>
    obtain ⟨_, rfl⟩ := Prod.mk.inj h
    exact .refl
  | cons last before ih =>
    have hlast : ∀ {tree' : FileTree},
        tree'.settleDirectory here (last :: before).reverse = (outcome, after) →
        Edited made written tree' after := fun hsettle =>
      edited_settleDirectory written (hmade _ List.prefix_rfl) (by simp) hsettle
    rw [makeParents] at h
    split at h
    · cases hparents : tree.makeParents here before with
      | mk result tree' =>
        rw [hparents] at h
        have hbefore : Edited made written tree tree' := by
          refine ih (fun part hpart => hmade part (hpart.trans ?_)) hparents
          rw [List.reverse_cons]
          exact List.prefix_append _ _
        cases result with
        | ok value => exact hbefore.trans (hlast h)
        | error cause =>
          obtain ⟨_, rfl⟩ := Prod.mk.inj h
          exact hbefore
    · exact hlast h

/-- Names that stand for the directory itself are left out of a way without changing it. -/
theorem exists_prefix_of_filter (here : Location) {part : List String}
    (hpart : part <+: names.filter fun s => s != "" && s != ".") :
    ∃ whole, whole <+: names ∧ follow here whole = follow here part := by
  induction names generalizing here part with
  | nil =>
    rw [List.filter_nil, List.prefix_nil] at hpart
    exact ⟨[], List.nil_prefix, by rw [hpart]⟩
  | cons name rest ih =>
    have hkeep : (name != "" && name != ".") = !(decide (name = "") || decide (name = ".")) := by
      rw [Bool.not_or]
      rfl
    by_cases hblank : (name = "" || name = ".") = true
    · rw [List.filter_cons_of_neg (by rw [hkeep, hblank]; simp)] at hpart
      obtain ⟨whole, hwhole, hfollow⟩ := @ih here part hpart
      refine ⟨name :: whole, List.cons_prefix_cons.mpr ⟨rfl, hwhole⟩, ?_⟩
      rw [follow_cons, stepTo, if_pos hblank, hfollow]
    · rw [List.filter_cons_of_pos (by rw [hkeep, Bool.eq_false_iff.mpr hblank]; rfl)] at hpart
      cases part with
      | nil => exact ⟨[], List.nil_prefix, rfl⟩
      | cons first part =>
        obtain ⟨rfl, hrest⟩ := List.cons_prefix_cons.mp hpart
        obtain ⟨whole, hwhole, hfollow⟩ := @ih (stepTo here first) part hrest
        exact ⟨first :: whole, List.cons_prefix_cons.mpr ⟨rfl, hwhole⟩, hfollow⟩

/-- A path that is not empty and has no names starts at the root. -/
theorem start_of_withoutTrailing_eq_nil (hpath : path.text ≠ "")
    (h : withoutTrailing path.segments = []) : start here path = [] := by
  obtain ⟨count, hsegments⟩ := withoutTrailing_append path.segments
  rw [h, List.nil_append] at hsegments
  have habsolute : path.isAbsolute = true := by
    rw [Path.isAbsolute]
    cases hlist : path.toList with
    | nil => exact absurd (String.toList_eq_nil_iff.mp hlist) hpath
    | cons c rest =>
      by_cases hc : c = '/'
      · rw [hc]
        rfl
      · -- The first segment starts with the character, so that it is not empty.
        have hblank : ∀ segment ∈ path.segments, segment = "" := by
          rw [hsegments]
          exact fun segment hsegment => List.eq_of_mem_replicate hsegment
        rw [Path.segments, hlist, Path.splitAt_cons, if_neg hc] at hblank
        split at hblank
        · exact absurd (hblank _ List.mem_cons_self) (by simp)
        · exact absurd (hblank _ List.mem_cons_self) (by simp)
  rw [start, if_pos habsolute]

/-- Making a directory and the missing ones on the way to it are edits on the way. -/
theorem edited_makeDirectories (written : Location → Prop)
    (hmade : ∀ location, path.Way here location → made location)
    (h : tree.makeDirectories here path = (outcome, after)) : Edited made written tree after := by
  unfold makeDirectories at h
  split at h
  · obtain ⟨_, rfl⟩ := Prod.mk.inj h
    exact .refl
  · split at h
    · obtain ⟨_, rfl⟩ := Prod.mk.inj h
      exact .refl
    · rename_i hpath
      split at h
      · obtain ⟨_, rfl⟩ := Prod.mk.inj h
        exact .refl
      · have hlast : ∀ {tree' : FileTree},
            tree'.settleDirectory (start here path) (withoutTrailing path.segments) =
              (outcome, after) → Edited made written tree' after := by
          intro tree' hsettle
          obtain ⟨count, hsegments⟩ := withoutTrailing_append path.segments
          refine edited_settleDirectory written (hmade _ ⟨_, ?_, rfl⟩)
            (start_of_withoutTrailing_eq_nil hpath) hsettle
          exact ⟨_, hsegments.symm⟩
        dsimp only at h
        split at h
        · cases hparents : tree.makeParents (start here path) path.names.dropLast.reverse with
          | mk result tree' =>
            rw [hparents] at h
            have hbefore : Edited made written tree tree' := by
              refine edited_makeParents written (fun part hpart => ?_) hparents
              rw [List.reverse_reverse] at hpart
              obtain ⟨whole, hwhole, hfollow⟩ := exists_prefix_of_filter
                (start here path) (hpart.trans (List.dropLast_prefix _))
              exact hmade _ ⟨whole, hwhole, hfollow.symm⟩
            cases result with
            | ok value => exact hbefore.trans (hlast h)
            | error cause =>
              obtain ⟨_, rfl⟩ := Prod.mk.inj h
              exact hbefore
        · exact hlast h

end FileTree

end DumpReplay
