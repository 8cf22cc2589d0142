import DumpReplay.Proofs.Files.Editing

/-!
# Paved ways

A path is paved if every directory on the way to it is open.  What stands in the directory of a
paved path is found by its name, and edits leave the path paved.

Main results:

- `Rooted.paved` : in a rooted tree a path that leads to a directory is paved.
- `Paved.status_child` : what a path inside a paved directory leads to.
- `Edited.paved` : a paved path stays paved.
-/

namespace DumpReplay

/-- Whether the system takes a path. -/
structure Path.Addressable (path : Path) : Prop where
  no_nul : '\x00' ∉ path.toList
  size_le : path.text.utf8ByteSize ≤ 4095

namespace FileTree

variable {tree before after : FileTree} {made written : Location → Prop}
variable {here location : Location} {directory path : Path} {names : List String} {node : Node}
variable {name : String} {bytes : ByteArray}

/-! ## Leading to a directory -/

/-- Names lead to a directory if none is too long and all that they pass are directories. -/
theorem leadsToDirectory_iff_passes :
    tree.leadsToDirectory here names = true ↔
      (∀ name ∈ names, name.utf8ByteSize ≤ 255) ∧
        ∀ part, part <+: names → tree.get? (follow here part) = some .directory := by
  rw [leadsToDirectory_iff]
  induction names generalizing here with
  | nil =>
    constructor
    · rintro ⟨location, hdescend, hget⟩
      rw [descend_nil_eq_ok.mp hdescend] at hget
      refine ⟨by simp, fun part hpart => ?_⟩
      rw [List.prefix_nil.mp hpart]
      exact hget
    · rintro ⟨_, hpasses⟩
      exact ⟨here, rfl, hpasses [] List.prefix_rfl⟩
  | cons name rest ih =>
    constructor
    · rintro ⟨location, hdescend, hget⟩
      obtain ⟨hdirectory, hshort, hrest⟩ := descend_cons_eq_ok.mp hdescend
      obtain ⟨hshorts, hpasses⟩ := ih.mp ⟨location, hrest, hget⟩
      refine ⟨List.forall_mem_cons.mpr ⟨hshort, hshorts⟩, fun part hpart => ?_⟩
      cases part with
      | nil => exact hdirectory
      | cons first part =>
        obtain ⟨rfl, hbehind⟩ := List.cons_prefix_cons.mp hpart
        exact hpasses part hbehind
    · rintro ⟨hshorts, hpasses⟩
      obtain ⟨hshort, hshorts⟩ := List.forall_mem_cons.mp hshorts
      obtain ⟨location, hrest, hget⟩ := ih.mpr ⟨hshorts, fun part hpart =>
        hpasses (name :: part) (List.cons_prefix_cons.mpr ⟨rfl, hpart⟩)⟩
      have hdirectory : tree.get? here = some .directory := hpasses [] List.nil_prefix
      exact ⟨location, descend_cons_eq_ok.mpr ⟨hdirectory, hshort, hrest⟩, hget⟩

/-! ## Paved paths -/

/-- A path is paved if none of its names is too long and every directory on the way to it is
open. -/
structure Paved (tree : FileTree) (here : Location) (path : Path) : Prop where
  short : ∀ name ∈ path.segments, name.utf8ByteSize ≤ 255
  isOpen : ∀ location, path.Way here location → tree.IsOpen location

/-- In a rooted tree a path whose names lead to a directory is paved. -/
theorem Rooted.paved_of_leads (hrooted : tree.Rooted)
    (h : tree.leadsToDirectory (start here path) path.segments = true) : tree.Paved here path := by
  obtain ⟨hshort, hpasses⟩ := leadsToDirectory_iff_passes.mp h
  refine ⟨hshort, ?_⟩
  rintro location ⟨part, hpart, rfl⟩
  exact hrooted.isOpen (hpasses part hpart)

/-- In a rooted tree a path that leads to a directory is paved. -/
theorem Rooted.paved (hrooted : tree.Rooted) (h : tree.hasDirectory here path = true) :
    tree.Paved here path :=
  hrooted.paved_of_leads (hasDirectory_iff_leads.mp h).2.2.2

/-- In a rooted tree the directory of whatever a path leads to is paved. -/
theorem Rooted.paved_of_status_child (hrooted : tree.Rooted) (hname : Path.IsName name)
    (h : tree.status here (directory.child name) = .ok node) : tree.Paved here directory := by
  obtain ⟨location, hlocate, _⟩ := status_eq_ok_iff.mp h
  obtain ⟨_, _, _, hdescend⟩ := locate_eq_ok_iff.mp hlocate
  obtain ⟨middle, hmiddle, hdirectory⟩ := descend_child hname hdescend
  exact hrooted.paved_of_leads (leadsToDirectory_iff.mpr ⟨middle, hmiddle, hdirectory⟩)

/-- A path stays paved as long as the directories on the way to it stay open. -/
theorem Paved.of_isOpen (h : before.Paved here path)
    (hopen : ∀ location, path.Way here location → before.IsOpen location → after.IsOpen location) :
    after.Paved here path :=
  ⟨h.short, fun location hway => hopen location hway (h.isOpen location hway)⟩

/-- A paved path stays paved. -/
theorem Edited.paved (h : Edited made written before after) (hpaved : before.Paved here path) :
    after.Paved here path :=
  hpaved.of_isOpen fun _ _ hopen => h.isOpen hopen

namespace Paved

/-- The location of a paved path is open. -/
theorem isOpen_location (h : tree.Paved here path) : tree.IsOpen (path.location here) :=
  h.isOpen _ (path.way_location here)

/-- The names of a paved path lead to its location. -/
theorem descend (h : tree.Paved here path) :
    tree.descend (start here path) path.segments = .ok (path.location here) := by
  have hleads : tree.leadsToDirectory (start here path) path.segments = true := by
    refine leadsToDirectory_iff_passes.mpr ⟨h.short, fun part hpart => ?_⟩
    exact (h.isOpen _ ⟨part, hpart, rfl⟩).get?_eq
  obtain ⟨location, hdescend, _⟩ := leadsToDirectory_iff.mp hleads
  rw [hdescend, follow_of_descend hdescend]
  rfl

/-- A paved path leads to a directory. -/
theorem hasDirectory (h : tree.Paved here path) (haddress : path.Addressable)
    (hempty : path.text ≠ "") : tree.hasDirectory here path = true := by
  rw [hasDirectory_iff, status_eq_ok_iff]
  refine ⟨_, locate_eq_ok_iff.mpr ⟨haddress.no_nul, hempty, haddress.size_le, h.descend⟩, ?_⟩
  exact h.isOpen_location.get?_eq

/-- A path inside a paved directory leads to what stands there under its name. -/
theorem status_child (h : tree.Paved here directory) (hname : Path.IsName name) :
    tree.status here (directory.child name) = .ok node ↔
      (directory.child name).Addressable ∧ name.utf8ByteSize ≤ 255 ∧
        tree.get? ((directory.child name).location here) = some node := by
  have hdescend := h.descend
  have hdirectory := h.isOpen_location.get?_eq
  rw [status_eq_ok_iff, Path.location_child hname]
  obtain ⟨front, hsegments, hchild⟩ := hname.segments_child directory
  -- The names in front of the last one lead to the directory.
  have hfront : tree.descend (start here directory) front = .ok (directory.location here) := by
    rcases hsegments with hsame | hempty
    · rwa [hsame] at hdescend
    · rw [hempty, descend_append_eq_ok] at hdescend
      obtain ⟨middle, hmiddle, hlast⟩ := hdescend
      obtain ⟨_, _, hend⟩ := descend_cons_eq_ok.mp hlast
      rw [descend_nil_eq_ok, stepTo, if_pos (by simp)] at hend
      rwa [hend]
  have hstep : stepTo (directory.location here) name = directory.location here ++ [name] := by
    rw [stepTo, if_neg (by simp [hname.ne_empty, hname.ne_dot]), if_neg hname.ne_up]
  constructor
  · rintro ⟨location, hlocate, hget⟩
    obtain ⟨hnul, _, hsize, hwhole⟩ := locate_eq_ok_iff.mp hlocate
    rw [hname.start_child, hchild, descend_append_eq_ok] at hwhole
    obtain ⟨middle, hmiddle, hlast⟩ := hwhole
    rw [hfront, Except.ok.injEq] at hmiddle
    obtain ⟨_, hshort, hend⟩ := descend_cons_eq_ok.mp hlast
    rw [← hmiddle, hstep, descend_nil_eq_ok] at hend
    exact ⟨⟨hnul, hsize⟩, hshort, hend ▸ hget⟩
  · rintro ⟨haddress, hshort, hget⟩
    refine ⟨_, locate_eq_ok_iff.mpr
      ⟨haddress.no_nul, hname.text_child_ne directory, haddress.size_le, ?_⟩, hget⟩
    rw [hname.start_child, hchild, descend_append_eq_ok]
    refine ⟨_, hfront, descend_cons_eq_ok.mpr ⟨hdirectory, hshort, ?_⟩⟩
    rw [hstep, descend_nil_eq_ok]

/-- The content of a file inside a paved directory. -/
theorem read_child (h : tree.Paved here directory) (hname : Path.IsName name) :
    tree.read here (directory.child name) = .ok bytes ↔
      (directory.child name).Addressable ∧ name.utf8ByteSize ≤ 255 ∧
        ∃ executable, tree.get? ((directory.child name).location here) =
          some (.file bytes executable) := by
  rw [read_eq_ok_iff]
  simp only [h.status_child hname]
  constructor
  · rintro ⟨executable, haddress, hshort, hget⟩
    exact ⟨haddress, hshort, executable, hget⟩
  · rintro ⟨haddress, hshort, executable, hget⟩
    exact ⟨executable, haddress, hshort, hget⟩

/-- Whether there is something inside a paved directory. -/
theorem has_child (h : tree.Paved here directory) (hname : Path.IsName name) :
    tree.has here (directory.child name) = true ↔
      (directory.child name).Addressable ∧ name.utf8ByteSize ≤ 255 ∧
        (tree.get? ((directory.child name).location here)).isSome = true := by
  rw [has_iff, Option.isSome_iff_exists]
  simp only [h.status_child hname]
  constructor
  · rintro ⟨node, haddress, hshort, hget⟩
    exact ⟨haddress, hshort, node, hget⟩
  · rintro ⟨haddress, hshort, node, hget⟩
    exact ⟨node, haddress, hshort, hget⟩

/-- What is read from a file inside a paved directory is the same as long as at most a directory is
made in its place. -/
theorem read_iff_of_onlyMade (hbefore : before.Paved here directory)
    (hafter : after.Paved here directory) (hname : Path.IsName name)
    (h : OnlyMade made before after ((directory.child name).location here)) :
    after.read here (directory.child name) = .ok bytes ↔
      before.read here (directory.child name) = .ok bytes := by
  rw [hbefore.read_child hname, hafter.read_child hname]
  refine and_congr_right fun _ => and_congr_right fun _ => exists_congr fun executable => ?_
  rcases h with hsame | ⟨_, hfree, hdirectory⟩
  · rw [hsame]
  · simp [hfree, hdirectory]

end Paved

/-- In a rooted tree, a path that leads to a directory does so as long as it stays paved. -/
theorem Rooted.hasDirectory_of_paved (hrooted : before.Rooted)
    (h : before.hasDirectory here path = true)
    (hpaved : before.Paved here path → after.Paved here path) :
    after.hasDirectory here path = true := by
  obtain ⟨hnul, hempty, hsize, _⟩ := hasDirectory_iff_leads.mp h
  exact (hpaved (hrooted.paved h)).hasDirectory ⟨hnul, hsize⟩ hempty

end FileTree

end DumpReplay
