import DumpReplay.Proofs.Files.Paving

/-!
# Paths inside a directory

A path inside a directory is resolved in two parts: the path of the directory, and then the names
inside.  Whether the system takes such a path depends on its text only.

Main results:

- `descend_descendant` : the two parts of a path, one after the other.
- `Paved.descend_descendant` : inside a paved directory only the names count.
- `Path.SameRoom.descendant` : directories of the same length have room for the same names.
-/

namespace DumpReplay

/-! ## Directories with the same room -/

/-- Directories have the same room if what the system takes inside the one it takes inside the other,
as far as it depends on the text of paths. -/
structure Path.SameRoom (directory directory' : Path) : Prop where
  size : directory'.text.utf8ByteSize = directory.text.utf8ByteSize
  nul : '\x00' ∈ directory'.toList ↔ '\x00' ∈ directory.toList
  separator : directory'.needsSeparator = directory.needsSeparator

namespace Path

variable {directory directory' : Path} {name name' : String} {names : List String}

theorem SameRoom.refl (directory : Path) : directory.SameRoom directory :=
  ⟨rfl, .rfl, rfl⟩

/-- What is put behind a directory in front of a name. -/
theorem IsName.text_child (h : IsName name) (directory : Path) :
    (directory.child name).text =
      directory.text ++ (if directory.needsSeparator then "/" else "") ++ name := by
  rw [child, join, if_neg (by rw [h.not_absolute]; simp)]
  split
  · rfl
  · rw [String.append_empty]

theorem IsName.needsSeparator_child (h : IsName name) (directory : Path) :
    (directory.child name).needsSeparator = true := by
  have hne : name.toList ≠ [] := fun hnil => h.ne_empty (String.toList_eq_nil_iff.mp hnil)
  rw [needsSeparator, h.toList_child, List.getLast?_append]
  cases hlast : name.toList.getLast? with
  | none => exact absurd (List.getLast?_eq_none_iff.mp hlast) hne
  | some c =>
    have hc : c ≠ '/' := by
      rintro rfl
      exact h.no_separator (List.mem_of_getLast? hlast)
    simp [hc]

/-- In directories with the same room names of the same length have the same room. -/
theorem SameRoom.child (h : directory.SameRoom directory') (hname : IsName name) (hname' : IsName name')
    (hsize : name'.utf8ByteSize = name.utf8ByteSize)
    (hnul : '\x00' ∈ name'.toList ↔ '\x00' ∈ name.toList) :
    (directory.child name).SameRoom (directory'.child name') := by
  refine ⟨?_, ?_, ?_⟩
  · rw [hname.text_child, hname'.text_child, h.separator]
    simp only [String.utf8ByteSize_append, h.size, hsize]
  · rw [hname.toList_child, hname'.toList_child, h.separator]
    simp only [List.mem_append, h.nul, hnul]
  · rw [hname.needsSeparator_child, hname'.needsSeparator_child]

/-- Directories with the same room have room for the same names. -/
theorem SameRoom.descendant (h : directory.SameRoom directory') (hnames : ∀ name ∈ names, IsName name) :
    (directory.descendant names).SameRoom (directory'.descendant names) := by
  induction names generalizing directory directory' with
  | nil => exact h
  | cons name rest ih =>
    obtain ⟨hname, hrest⟩ := List.forall_mem_cons.mp hnames
    exact ih (h.child hname hname rfl .rfl) hrest

theorem SameRoom.contains_nul (h : directory.SameRoom directory') :
    directory'.toList.contains '\x00' = directory.toList.contains '\x00' := by
  rw [Bool.eq_iff_iff, List.contains_iff_mem, List.contains_iff_mem, h.nul]

theorem SameRoom.text_eq_empty_iff (h : directory.SameRoom directory') :
    directory'.text = "" ↔ directory.text = "" := by
  rw [← String.utf8ByteSize_eq_zero_iff, ← String.utf8ByteSize_eq_zero_iff, h.size]

/-! ## Names -/

theorem descendant_append (directory : Path) (first second : List String) :
    directory.descendant (first ++ second) = (directory.descendant first).descendant second :=
  List.foldl_append

theorem names_child (h : IsName name) (directory : Path) :
    (directory.child name).names = directory.names ++ [name] := by
  obtain ⟨front, hsegments, hchild⟩ := h.segments_child directory
  have hkeep : [name].filter (fun s => s != "" && s != ".") = [name] := by
    simp [h.ne_empty, h.ne_dot]
  rw [names, names, hchild, List.filter_append, hkeep]
  rcases hsegments with hsame | hblank
  · rw [hsame]
  · rw [hblank, List.filter_append]
    simp

/-- The names of a path inside a directory are those of the directory and those inside. -/
theorem names_descendant (h : ∀ name ∈ names, IsName name) (directory : Path) :
    (directory.descendant names).names = directory.names ++ names := by
  induction names generalizing directory with
  | nil => rw [descendant_nil, List.append_nil]
  | cons name rest ih =>
    obtain ⟨hname, hrest⟩ := List.forall_mem_cons.mp h
    rw [descendant_cons, ih hrest, names_child hname, List.append_assoc, List.singleton_append]

/-- A path inside a directory starts where the directory does. -/
theorem start_descendant (h : ∀ name ∈ names, IsName name) (here : Location) (directory : Path) :
    FileTree.start here (directory.descendant names) = FileTree.start here directory := by
  induction names generalizing directory with
  | nil => rfl
  | cons name rest ih =>
    obtain ⟨hname, hrest⟩ := List.forall_mem_cons.mp h
    rw [descendant_cons, ih hrest, hname.start_child]

end Path

namespace FileTree

variable {tree : FileTree} {here : Location} {directory path : Path} {names : List String}
variable {name : String}

/-! ## Following names -/

/-- Names in two parts are followed one part after the other. -/
theorem descend_append (tree : FileTree) (here : Location) (first second : List String) :
    tree.descend here (first ++ second) =
      tree.descend here first >>= fun middle => tree.descend middle second := by
  induction first generalizing here with
  | nil => rfl
  | cons name rest ih =>
    rw [List.cons_append, descend, descend]
    cases tree.get? here with
    | none => rfl
    | some node =>
      cases node with
      | file bytes executable => rfl
      | directory =>
        dsimp only
        repeat' split
        · exact ih here
        · exact ih here.dropLast
        · rfl
        · exact ih (here ++ [name])

/-- An empty name in front of another one leads nowhere else. -/
theorem descend_blank (tree : FileTree) (here : Location) (name : String) (rest : List String) :
    tree.descend here ("" :: name :: rest) = tree.descend here (name :: rest) := by
  rw [descend]
  cases hget : tree.get? here with
  | none => rw [descend, hget]
  | some node =>
    cases node with
    | file bytes executable => rw [descend, hget]
    | directory => rfl

/-- A path inside a directory is resolved by way of the directory. -/
theorem descend_segments_child (hname : Path.IsName name) (tree : FileTree) (here : Location)
    (directory : Path) :
    tree.descend here (directory.child name).segments =
      tree.descend here directory.segments >>= fun middle => tree.descend middle [name] := by
  obtain ⟨front, hsegments, hchild⟩ := hname.segments_child directory
  rw [hchild, descend_append]
  rcases hsegments with hsame | hblank
  · rw [hsame]
  · rw [hblank, descend_append, bind_assoc]
    simp only [← descend_append, List.singleton_append, descend_blank]

/-- A path inside a directory is resolved in two parts, that of the directory and the names inside. -/
theorem descend_segments_descendant (hnames : ∀ name ∈ names, Path.IsName name) (tree : FileTree)
    (here : Location) (directory : Path) :
    tree.descend here (directory.descendant names).segments =
      tree.descend here directory.segments >>= fun middle => tree.descend middle names := by
  induction names generalizing directory with
  | nil => exact (bind_pure _).symm
  | cons name rest ih =>
    obtain ⟨hname, hrest⟩ := List.forall_mem_cons.mp hnames
    rw [Path.descendant_cons, ih hrest, descend_segments_child hname, bind_assoc]
    simp only [← descend_append, List.singleton_append]

/-- Inside a paved directory only the names inside count. -/
theorem Paved.descend_descendant (hpaved : tree.Paved here directory)
    (hnames : ∀ name ∈ names, Path.IsName name) :
    tree.descend (start here directory) (directory.descendant names).segments =
      tree.descend (directory.location here) names := by
  rw [descend_segments_descendant hnames, hpaved.descend]
  rfl

/-- Inside a paved directory a path leads where its names do, if the system takes the path. -/
theorem Paved.locate_descendant (hpaved : tree.Paved here directory)
    (hnames : ∀ name ∈ names, Path.IsName name) :
    tree.locate here (directory.descendant names) =
      if (directory.descendant names).toList.contains '\x00' then .error .nulInPath
      else if (directory.descendant names).text = "" then .error .notFound
      else if (directory.descendant names).text.utf8ByteSize > 4095 then .error .nameTooLong
      else tree.descend (directory.location here) names := by
  rw [locate, Path.start_descendant hnames, hpaved.descend_descendant hnames]

/-- The names of a paved directory lead to its location. -/
theorem Paved.descend_names (hpaved : tree.Paved here directory) (rest : List String) :
    tree.descend (start here directory) (directory.names ++ rest) =
      tree.descend (directory.location here) rest := by
  rw [descend_append, Path.names, descend_filter hpaved.descend]
  rfl

theorem withoutTrailing_concat {segments : List String} (hname : name ≠ "") :
    withoutTrailing (segments ++ [name]) = segments ++ [name] := by
  rw [withoutTrailing, List.reverse_append, List.reverse_singleton, List.singleton_append,
    List.dropWhile_cons_of_neg (by simpa using hname), List.reverse_cons, List.reverse_reverse]

/-- Empty segments at the end of a path inside a paved directory do not count. -/
theorem Paved.descend_withoutTrailing (hpaved : tree.Paved here directory)
    (hnames : ∀ name ∈ names, Path.IsName name) :
    tree.descend (start here directory) (withoutTrailing (directory.descendant names).segments) =
      tree.descend (directory.location here) names := by
  rcases List.eq_nil_or_concat names with rfl | ⟨front, last, rfl⟩
  · rw [Path.descendant_nil]
    obtain ⟨count, hsegments⟩ := withoutTrailing_append directory.segments
    have hdescend := hpaved.descend
    rw [hsegments, descend_append_eq_ok] at hdescend
    obtain ⟨middle, hmiddle, hblank⟩ := hdescend
    have hblanks : ∀ count, follow middle (List.replicate count "") = middle := by
      intro count
      induction count with
      | zero => rfl
      | succ count ih => rw [List.replicate_succ, follow_cons, stepTo, if_pos (by simp), ih]
    rw [hmiddle, follow_of_descend hblank, hblanks]
    rfl
  · rw [List.concat_eq_append] at hnames ⊢
    have hlast : Path.IsName last := hnames last (by simp)
    obtain ⟨segments, _, hchild⟩ := hlast.segments_child (directory.descendant front)
    rw [← hpaved.descend_descendant hnames, Path.descendant_append, Path.descendant_cons,
      Path.descendant_nil, hchild, withoutTrailing_concat hlast.ne_empty]

/-! ## The same way -/

/-- Names lead where they lead in another tree, if that has the same on the way. -/
theorem descend_congr {tree' : FileTree}
    (h : ∀ part, part <+: names → tree'.get? (follow here part) = tree.get? (follow here part)) :
    tree'.descend here names = tree.descend here names := by
  induction names generalizing here with
  | nil => rfl
  | cons name rest ih =>
    have hhere : tree'.get? here = tree.get? here := h [] List.nil_prefix
    have hrest : ∀ further, stepTo here name = further →
        tree'.descend further rest = tree.descend further rest := by
      rintro _ rfl
      exact ih fun part hpart => h (name :: part) (List.cons_prefix_cons.mpr ⟨rfl, hpart⟩)
    rw [descend, descend, hhere]
    cases tree.get? here with
    | none => rfl
    | some node =>
      cases node with
      | file bytes executable => rfl
      | directory =>
        dsimp only
        split
        · rename_i hblank
          exact hrest _ (if_pos hblank)
        · rename_i hblank
          split
          · rename_i hup
            exact hrest _ ((if_neg hblank).trans (if_pos hup))
          · rename_i hup
            split
            · rfl
            · exact hrest _ ((if_neg hblank).trans (if_neg hup))

/-- A path leads where it leads in another tree, if that has the same on the way. -/
theorem locate_congr {tree' : FileTree}
    (h : ∀ location, path.Way here location → tree'.get? location = tree.get? location) :
    tree'.locate here path = tree.locate here path := by
  have hdescend : tree'.descend (start here path) path.segments =
      tree.descend (start here path) path.segments :=
    descend_congr fun part hpart => h _ ⟨part, hpart, rfl⟩
  rw [locate, locate, hdescend]

/-- A path leads to what it leads to in another tree, if that has the same on the way. -/
theorem status_congr {tree' : FileTree}
    (h : ∀ location, path.Way here location → tree'.get? location = tree.get? location) :
    tree'.status here path = tree.status here path := by
  unfold status
  rw [locate_congr h]
  cases hfound : tree.locate here path with
  | error cause => rfl
  | ok location =>
    rw [location_of_locate hfound]
    simp only [bind, Except.bind, h _ (path.way_location here)]

end FileTree

end DumpReplay
