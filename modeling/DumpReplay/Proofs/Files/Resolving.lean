import DumpReplay.Host.FileTree

/-!
# Resolving paths

Where a path leads is settled by its text: the files decide only whether it leads anywhere.  What
is inside a directory is found by way of the directory.

Main results:

- `location_child` : a path inside a directory leads to the name below the directory's location.
- `follow_of_descend` : names that lead somewhere lead to the location that they spell.
- `status_child` : a path that leads to something has its directory in front of it.
-/

namespace DumpReplay

/-! ## Locations -/

/-- Where one name leads from a location. -/
def stepTo (here : Location) (name : String) : Location :=
  if name = "" || name = "." then here else if name = ".." then here.dropLast else here ++ [name]

/-- The location that some names spell, seen from another one. -/
def follow : Location → List String → Location :=
  List.foldl stepTo

@[simp] theorem follow_nil (here : Location) : follow here [] = here := rfl

@[simp] theorem follow_cons (here : Location) (name : String) (rest : List String) :
    follow here (name :: rest) = follow (stepTo here name) rest := rfl

theorem follow_append (here : Location) (first second : List String) :
    follow here (first ++ second) = follow (follow here first) second :=
  List.foldl_append

namespace FileTree

variable {tree : FileTree} {here location : Location}

theorem descend_nil_eq_ok : tree.descend here [] = .ok location ↔ location = here := by
  rw [descend, Except.ok.injEq, eq_comm]

/-- A name can be followed from a directory, if it is not too long. -/
theorem descend_cons_eq_ok {name : String} {rest : List String} :
    tree.descend here (name :: rest) = .ok location ↔
      tree.get? here = some .directory ∧ name.utf8ByteSize ≤ 255 ∧
        tree.descend (stepTo here name) rest = .ok location := by
  rw [descend]
  cases hget : tree.get? here with
  | none => simp
  | some node =>
    cases node with
    | file bytes executable => simp
    | directory =>
      rw [stepTo]
      by_cases hblank : (name = "" || name = ".") = true
      · have hshort : name.utf8ByteSize ≤ 255 := by
          rw [Bool.or_eq_true, decide_eq_true_eq, decide_eq_true_eq] at hblank
          rcases hblank with rfl | rfl <;> decide
        rw [if_pos hblank, if_pos hblank]
        simp [hshort]
      · rw [if_neg hblank, if_neg hblank]
        by_cases hup : name = ".."
        · have hshort : name.utf8ByteSize ≤ 255 := by
            rw [hup]
            decide
          rw [if_pos hup, if_pos hup]
          simp [hshort]
        · rw [if_neg hup, if_neg hup]
          by_cases hlong : name.utf8ByteSize > 255
          · rw [if_pos hlong]
            simp only [reduceCtorEq, true_and, false_iff, not_and]
            omega
          · rw [if_neg hlong]
            simp only [true_and]
            constructor
            · intro h
              exact ⟨by omega, h⟩
            · exact fun h => h.2

/-- Names that lead somewhere lead to the location that they spell. -/
theorem follow_of_descend {names : List String} (h : tree.descend here names = .ok location) :
    location = follow here names := by
  induction names generalizing here with
  | nil => exact descend_nil_eq_ok.mp h
  | cons name rest ih => exact ih (descend_cons_eq_ok.mp h).2.2

/-- Names in two parts are followed one part after the other. -/
theorem descend_append_eq_ok {first second : List String} :
    tree.descend here (first ++ second) = .ok location ↔
      ∃ middle, tree.descend here first = .ok middle ∧
        tree.descend middle second = .ok location := by
  induction first generalizing here with
  | nil => simp [descend_nil_eq_ok]
  | cons name rest ih =>
    rw [List.cons_append, descend_cons_eq_ok, ih]
    constructor
    · rintro ⟨hdirectory, hshort, middle, hrest, hsecond⟩
      exact ⟨middle, descend_cons_eq_ok.mpr ⟨hdirectory, hshort, hrest⟩, hsecond⟩
    · rintro ⟨middle, hfirst, hsecond⟩
      obtain ⟨hdirectory, hshort, hrest⟩ := descend_cons_eq_ok.mp hfirst
      exact ⟨hdirectory, hshort, middle, hrest, hsecond⟩

/-- Names that stand for the directory itself lead nowhere else. -/
theorem descend_replicate (hdirectory : tree.get? here = some .directory) (count : Nat) :
    tree.descend here (List.replicate count "") = .ok here := by
  induction count with
  | zero => rfl
  | succ count ih =>
    rw [List.replicate_succ, descend_cons_eq_ok]
    exact ⟨hdirectory, by decide, ih⟩

end FileTree

/-! ## Segments -/

namespace Path

theorem splitAt_ne_nil (separator : Char) (characters : List Char) :
    splitAt separator characters ≠ [] := by
  cases characters with
  | nil => simp
  | cons c rest =>
    rw [splitAt_cons]
    split
    · simp
    · split <;> simp

/-- A text without separators is one piece. -/
theorem splitAt_of_not_mem {separator : Char} {characters : List Char}
    (h : separator ∉ characters) : splitAt separator characters = [characters] := by
  induction characters with
  | nil => rfl
  | cons c rest ih =>
    rw [List.mem_cons, not_or] at h
    rw [splitAt_cons, if_neg (Ne.symm h.1), ih h.2]

/-- The pieces of a text with a separator in it are those in front of it and those behind it. -/
theorem splitAt_append (separator : Char) (first second : List Char) :
    splitAt separator (first ++ separator :: second) =
      splitAt separator first ++ splitAt separator second := by
  induction first with
  | nil => simp [splitAt_cons]
  | cons c rest ih =>
    rw [List.cons_append, splitAt_cons, splitAt_cons, ih]
    split
    · rfl
    · cases hrest : splitAt separator rest with
      | nil => exact absurd hrest (splitAt_ne_nil separator rest)
      | cons piece pieces => rfl

/-- A piece holds no separators. -/
theorem not_mem_of_mem_splitAt {separator : Char} {characters piece : List Char}
    (h : piece ∈ splitAt separator characters) : separator ∉ piece := by
  induction characters generalizing piece with
  | nil =>
    rw [splitAt_nil, List.mem_singleton] at h
    rw [h]
    exact List.not_mem_nil
  | cons c rest ih =>
    rw [splitAt_cons] at h
    split at h
    · rcases List.mem_cons.mp h with rfl | hrest
      · exact List.not_mem_nil
      · exact ih hrest
    · rename_i hc
      split at h
      · rename_i hnil
        exact absurd hnil (splitAt_ne_nil separator rest)
      · rename_i first others hsplit
        rcases List.mem_cons.mp h with rfl | hothers
        · have hfirst : separator ∉ first := ih (by rw [hsplit]; exact List.mem_cons_self)
          simp [hfirst, Ne.symm hc]
        · exact ih (by rw [hsplit]; exact List.mem_cons_of_mem _ hothers)

/-! ## Names inside a directory -/

/-- Whether a text can name something inside a directory. -/
structure IsName (name : String) : Prop where
  ne_empty : name ≠ ""
  ne_dot : name ≠ "."
  ne_up : name ≠ ".."
  no_separator : '/' ∉ name.toList

namespace IsName

/-- A text without separators names something if it does not start with a point. -/
theorem of_head {name : String} {first : Char} (hstart : name.toList.head? = some first)
    (hfirst : first ≠ '.') (hseparator : '/' ∉ name.toList) : IsName name := by
  have hne : ∀ text : String, text.toList.head? ≠ some first → name ≠ text :=
    fun text htext hsame => htext (hsame ▸ hstart)
  exact ⟨hne _ (by simp), hne _ (by simpa using Ne.symm hfirst), hne _ (by simpa using Ne.symm hfirst),
    hseparator⟩

variable {name : String} (h : IsName name)
include h

/-- A name is no absolute path. -/
theorem not_absolute : (Path.mk name).isAbsolute = false := by
  rw [Path.isAbsolute, toList_mk]
  cases hname : name.toList with
  | nil => rfl
  | cons c rest =>
    have hc : c ≠ '/' := fun hc => h.no_separator (by rw [hname, hc]; exact List.mem_cons_self)
    simp [hc]

theorem toList_child (directory : Path) :
    (directory.child name).toList =
      directory.toList ++ (if directory.needsSeparator then ['/'] else []) ++ name.toList :=
  join_of_not_absolute h.not_absolute

/-- A path inside a directory is no shorter than that of the directory. -/
theorem size_le_size_child (directory : Path) :
    directory.text.utf8ByteSize ≤ (directory.child name).text.utf8ByteSize := by
  rw [child, join, if_neg (by rw [h.not_absolute]; simp)]
  split
  · rw [String.utf8ByteSize_append, String.utf8ByteSize_append]
    omega
  · rw [String.utf8ByteSize_append]
    omega

/-- A path inside a directory is not empty. -/
theorem text_child_ne (directory : Path) : (directory.child name).text ≠ "" := by
  intro hempty
  have hlist : (directory.child name).toList = [] := by rw [toList, hempty]; rfl
  rw [h.toList_child, List.append_eq_nil_iff] at hlist
  exact h.ne_empty (String.toList_eq_nil_iff.mp hlist.2)

/-- A path inside a directory starts where the directory does. -/
theorem start_child (here : Location) (directory : Path) :
    FileTree.start here (directory.child name) = FileTree.start here directory := by
  have habsolute : (directory.child name).isAbsolute = directory.isAbsolute := by
    rw [isAbsolute, h.toList_child, isAbsolute]
    cases hdirectory : directory.toList with
    | nil =>
      have hname := h.not_absolute
      rw [isAbsolute, toList_mk] at hname
      simpa [needsSeparator, hdirectory] using hname
    | cons c rest => rfl
  rw [FileTree.start, FileTree.start, habsolute]

/-- The segments of a path inside a directory are those of the directory, without an empty one at
the end, and the name. -/
theorem segments_child (directory : Path) :
    ∃ front, (directory.segments = front ∨ directory.segments = front ++ [""]) ∧
      (directory.child name).segments = front ++ [name] := by
  have hname : splitAt '/' name.toList = [name.toList] := splitAt_of_not_mem h.no_separator
  unfold segments
  rw [h.toList_child]
  cases hlast : directory.toList.getLast? with
  | none =>
    rw [List.getLast?_eq_none_iff] at hlast
    refine ⟨[], .inr ?_, ?_⟩
    · rw [hlast]
      rfl
    · simp [needsSeparator, hlast, hname]
  | some c =>
    by_cases hc : c = '/'
    · obtain ⟨front, hfront⟩ := List.getLast?_eq_some_iff.mp hlast
      refine ⟨(splitAt '/' front).map String.ofList, .inr ?_, ?_⟩
      · rw [hfront, hc, splitAt_append, List.map_append]
        rfl
      · rw [needsSeparator, hlast]
        dsimp only
        rw [hc, if_neg (by simp), List.append_nil, hfront, hc, List.append_assoc,
          List.singleton_append, splitAt_append, hname, List.map_append]
        simp
    · refine ⟨(splitAt '/' directory.toList).map String.ofList, .inl rfl, ?_⟩
      rw [needsSeparator, hlast]
      dsimp only
      rw [if_pos (by simpa using hc), List.append_assoc, List.singleton_append, splitAt_append,
        hname, List.map_append]
      simp

end IsName

/-- The location that a path leads to, if it leads anywhere. -/
def location (here : Location) (path : Path) : Location :=
  follow (FileTree.start here path) path.segments

/-- Names are followed one inside the other. -/
theorem follow_of_isName {names : List String} (h : ∀ name ∈ names, IsName name) (here : Location) :
    follow here names = here ++ names := by
  induction names generalizing here with
  | nil => rw [follow_nil, List.append_nil]
  | cons name rest ih =>
    obtain ⟨hname, hrest⟩ := List.forall_mem_cons.mp h
    rw [follow_cons, ih hrest, stepTo, if_neg (by simp [hname.ne_empty, hname.ne_dot]),
      if_neg hname.ne_up, List.append_assoc, List.singleton_append]

/-- The location of a path is told by names, if that of the directory is which it starts from. -/
theorem isName_location {here : Location} (hhere : ∀ name ∈ here, IsName name) (path : Path) :
    ∀ name ∈ path.location here, IsName name := by
  have hfollow : ∀ (segments : List String) (from_ : Location),
      (∀ segment ∈ segments, '/' ∉ segment.toList) → (∀ name ∈ from_, IsName name) →
      ∀ name ∈ follow from_ segments, IsName name := by
    intro segments
    induction segments with
    | nil => exact fun from_ _ hfrom => hfrom
    | cons segment rest ih =>
      intro from_ hsegments hfrom
      obtain ⟨hsegment, hrest⟩ := List.forall_mem_cons.mp hsegments
      refine ih (stepTo from_ segment) hrest ?_
      unfold stepTo
      split
      · exact hfrom
      · rename_i hblank
        split
        · exact fun name hname => hfrom name (List.dropLast_subset _ hname)
        · rename_i hup
          rw [Bool.or_eq_true, decide_eq_true_eq, decide_eq_true_eq, not_or] at hblank
          intro name hname
          rcases List.mem_append.mp hname with hbefore | hlast
          · exact hfrom name hbefore
          · rw [List.mem_singleton.mp hlast]
            exact ⟨hblank.1, hblank.2, hup, hsegment⟩
  refine hfollow path.segments _ (fun segment hsegment => ?_) ?_
  · obtain ⟨piece, hpiece, rfl⟩ := List.mem_map.mp hsegment
    rw [String.toList_ofList]
    exact not_mem_of_mem_splitAt hpiece
  · unfold FileTree.start
    split
    · simp
    · exact hhere

/-- A path inside a directory leads below the location of the directory. -/
theorem location_child {name : String} (h : IsName name) (here : Location) (directory : Path) :
    (directory.child name).location here = directory.location here ++ [name] := by
  have hfollow : ∀ from_ : Location, follow from_ [name] = from_ ++ [name] := by
    intro from_
    rw [follow_cons, follow_nil, stepTo, if_neg (by simp [h.ne_empty, h.ne_dot]), if_neg h.ne_up]
  obtain ⟨front, hsegments, hchild⟩ := h.segments_child directory
  rw [location, location, h.start_child, hchild, follow_append, hfollow]
  rcases hsegments with hfront | hfront
  · rw [hfront]
  · rw [hfront, follow_append]
    rfl

/-! ## Paths further down -/

/-- The path of some names inside a directory, one inside the other. -/
def descendant (directory : Path) (names : List String) : Path :=
  names.foldl child directory

@[simp] theorem descendant_nil (directory : Path) : directory.descendant [] = directory := rfl

@[simp] theorem descendant_cons (directory : Path) (name : String) (rest : List String) :
    directory.descendant (name :: rest) = (directory.child name).descendant rest := rfl

/-- A path further down is not empty. -/
theorem text_descendant_ne {names : List String} (h : ∀ name ∈ names, IsName name)
    (hnames : names ≠ []) (directory : Path) : (directory.descendant names).text ≠ "" := by
  induction names generalizing directory with
  | nil => exact absurd rfl hnames
  | cons name rest ih =>
    obtain ⟨hname, hrest⟩ := List.forall_mem_cons.mp h
    cases rest with
    | nil => exact hname.text_child_ne directory
    | cons other rest => exact ih hrest (List.cons_ne_nil other rest) (directory.child name)

/-- Names inside a directory lead to their location below that of the directory. -/
theorem location_descendant {names : List String} (h : ∀ name ∈ names, IsName name)
    (here : Location) (directory : Path) :
    (directory.descendant names).location here = directory.location here ++ names := by
  induction names generalizing directory with
  | nil => rw [descendant_nil, List.append_nil]
  | cons name rest ih =>
    obtain ⟨hname, hrest⟩ := List.forall_mem_cons.mp h
    rw [descendant_cons, ih hrest, location_child hname, List.append_assoc, List.singleton_append]

end Path

/-! ## What paths lead to -/

namespace FileTree

variable {tree : FileTree} {here location : Location} {path : Path} {node : Node}

/-- A path leads to a location if the system takes the path and its segments lead there. -/
theorem locate_eq_ok_iff :
    tree.locate here path = .ok location ↔
      '\x00' ∉ path.toList ∧ path.text ≠ "" ∧ path.text.utf8ByteSize ≤ 4095 ∧
        tree.descend (start here path) path.segments = .ok location := by
  unfold locate
  split
  · simp_all
  · split
    · simp_all
    · split
      · simp only [reduceCtorEq, false_iff]
        omega
      · simp_all

/-- A path that leads to a location leads to the one that it spells. -/
theorem location_of_locate (h : tree.locate here path = .ok location) :
    location = path.location here := by
  obtain ⟨_, _, _, hdescend⟩ := locate_eq_ok_iff.mp h
  exact follow_of_descend hdescend

theorem status_eq_ok_iff :
    tree.status here path = .ok node ↔
      ∃ location, tree.locate here path = .ok location ∧ tree.get? location = some node := by
  unfold status
  cases tree.locate here path with
  | error cause => simp [bind, Except.bind]
  | ok location =>
    cases hget : tree.get? location with
    | none => simp [bind, Except.bind, hget]
    | some other => simp [bind, Except.bind, hget]

theorem has_iff : tree.has here path = true ↔ ∃ node, tree.status here path = .ok node := by
  unfold has
  cases tree.status here path with
  | error cause => simp
  | ok node => simp

theorem hasDirectory_iff :
    tree.hasDirectory here path = true ↔ tree.status here path = .ok .directory := by
  unfold hasDirectory
  cases tree.status here path with
  | error cause => simp
  | ok node => cases node <;> simp [Node.isDirectory]

theorem hasFile_iff :
    tree.hasFile here path = true ↔
      ∃ bytes executable, tree.status here path = .ok (.file bytes executable) := by
  unfold hasFile
  cases tree.status here path with
  | error cause => simp
  | ok node => cases node <;> simp [Node.isDirectory]

/-- What is a file is no directory. -/
theorem hasDirectory_of_hasFile (h : tree.hasFile here path = true) :
    tree.hasDirectory here path = false := by
  obtain ⟨bytes, executable, hstatus⟩ := hasFile_iff.mp h
  rw [hasDirectory, hstatus]
  rfl

theorem read_eq_ok_iff {bytes : ByteArray} :
    tree.read here path = .ok bytes ↔
      ∃ executable, tree.status here path = .ok (.file bytes executable) := by
  unfold read
  cases tree.status here path with
  | error cause => simp [bind, Except.bind]
  | ok node => cases node <;> simp [bind, Except.bind]

/-- What is inside a directory is found by way of the directory. -/
theorem descend_child {name : String} (h : Path.IsName name) {directory : Path}
    (hchild : tree.descend (start here (directory.child name)) (directory.child name).segments =
      .ok location) :
    ∃ middle, tree.descend (start here directory) directory.segments = .ok middle ∧
      tree.get? middle = some .directory := by
  obtain ⟨front, hsegments, hfront⟩ := h.segments_child directory
  rw [h.start_child, hfront] at hchild
  obtain ⟨middle, hmiddle, hname⟩ := descend_append_eq_ok.mp hchild
  have hdirectory := (descend_cons_eq_ok.mp hname).1
  refine ⟨middle, ?_, hdirectory⟩
  rcases hsegments with hsame | hempty
  · rw [hsame]
    exact hmiddle
  · rw [hempty, descend_append_eq_ok]
    exact ⟨middle, hmiddle, descend_replicate hdirectory 1⟩

/-- A path that leads to something has its directory in front of it. -/
theorem hasDirectory_of_status_child {name : String} (h : Path.IsName name) {directory : Path}
    (hdirectory : directory.text ≠ "")
    (hchild : tree.status here (directory.child name) = .ok node) :
    tree.hasDirectory here directory = true := by
  obtain ⟨location, hlocate, _⟩ := status_eq_ok_iff.mp hchild
  obtain ⟨hnul, _, hsize, hdescend⟩ := locate_eq_ok_iff.mp hlocate
  obtain ⟨middle, hmiddle, hget⟩ := descend_child h hdescend
  have hlist := h.toList_child directory
  rw [hasDirectory_iff, status_eq_ok_iff]
  refine ⟨middle, locate_eq_ok_iff.mpr ⟨?_, hdirectory, ?_, hmiddle⟩, hget⟩
  · intro hmem
    rw [hlist] at hnul
    exact hnul (by simp [hmem])
  · exact Nat.le_trans (h.size_le_size_child directory) hsize

/-- Names that lead to something inside a directory have every directory on the way in front of
it. -/
theorem hasDirectory_of_status_descendant {name other : String} {rest : List String}
    (hnames : ∀ n ∈ name :: other :: rest, Path.IsName n) {directory : Path}
    (h : tree.status here (directory.descendant (name :: other :: rest)) = .ok node) :
    tree.hasDirectory here (directory.child name) = true := by
  induction rest generalizing directory name other with
  | nil =>
    obtain ⟨hname, hother, _⟩ := List.forall_mem_cons.mp hnames |>.imp id List.forall_mem_cons.mp
    exact hasDirectory_of_status_child hother (hname.text_child_ne directory) h
  | cons next rest ih =>
    obtain ⟨hname, hothers⟩ := List.forall_mem_cons.mp hnames
    have hinner := ih hothers h
    exact hasDirectory_of_status_child (hothers other List.mem_cons_self)
      (hname.text_child_ne directory) (hasDirectory_iff.mp hinner)

end FileTree

end DumpReplay
