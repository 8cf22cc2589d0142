import DumpReplay.Proofs.Files.Descending

/-!
# Twin directories

Two directories, each in a tree of its own, are twins if the same stands inside under the same names.
Every operation on a path inside one has the outcome that it has inside the other, and leaves twins.  So
nothing that happens inside tells where the directory is.

Main results:

- `Twins.locate`, `Twins.status` : what paths inside lead to.
- `Twins.insert` : the same put inside both leaves twins.
- `Twins.write`, `Twins.makeDirectories`, `Twins.setExecutable` : so do the operations on trees.
-/

namespace DumpReplay.FileTree

/-- Directories in two trees are twins: they are paved, have the same room and hold the same.  The trees
without them are `rest` and `rest'`. -/
structure Twins (here : Location) (directory directory' : Path) (rest rest' tree tree' : FileTree) :
    Prop where
  room : directory.SameRoom directory'
  paved : tree.Paved here directory
  paved' : tree'.Paved here directory'
  inside : ∀ names, tree'.get? (directory'.location here ++ names) =
    tree.get? (directory.location here ++ names)
  rest : tree.removeBelow (directory.location here) = rest
  rest' : tree'.removeBelow (directory'.location here) = rest'

variable {here : Location} {directory directory' : Path} {rest rest' tree tree' : FileTree}
variable {names : List String} {node : Node} {location : Location}

/-! ## Insertions -/

/-- What is put below a place goes with it. -/
theorem removeBelow_insert (tree : FileTree) (node : Node) {above : Location}
    (h : above <+: location) : (tree.insert location node).removeBelow above = tree.removeBelow above := by
  have habove : above.isPrefixOf location = true := List.isPrefixOf_iff_prefix.mpr h
  rw [removeBelow, removeBelow, insert, FileTree.mk.injEq, List.filter_cons_of_neg (by simp [habove]),
    List.filter_filter]
  refine List.filter_congr fun entry _ => ?_
  by_cases hsame : entry.1 = location
  · simp [hsame, habove]
  · simp [hsame]

/-- Where nothing stands in a rooted tree, there is nothing to remove. -/
theorem Rooted.removeBelow_eq (hrooted : tree.Rooted) (hfree : tree.get? location = none) :
    tree.removeBelow location = tree := by
  unfold FileTree.removeBelow
  refine congrArg FileTree.mk (List.filter_eq_self.mpr fun entry hentry => ?_)
  rw [Bool.not_eq_true', ← Bool.not_eq_true, List.isPrefixOf_iff_prefix]
  intro hbelow
  have hnone := hrooted.get?_eq_none hfree hbelow
  rw [get?, if_neg (ne_nil_of_get?_eq_none hnone), List.lookup_eq_none_iff] at hnone
  simpa using hnone entry hentry

/-- A paved path stays paved when something is put where no directory stands. -/
theorem Paved.insert {path : Path} (h : tree.Paved here path)
    (hnot : tree.get? location ≠ some .directory) : (tree.insert location node).Paved here path := by
  refine h.of_isOpen fun _ _ hopen above habove => ?_
  have hdirectory : tree.get? above = some .directory := hopen above habove
  rw [get?_insert_of_ne tree node (ne_nil_of_get?_ne hnot) (ne_of_get?_ne_directory hnot hdirectory)]
  exact hdirectory

namespace Twins

/-- The same put inside both directories leaves twins. -/
theorem insert (h : Twins here directory directory' rest rest' tree tree') (node : Node)
    (hnot : tree.get? (directory.location here ++ names) ≠ some .directory) :
    Twins here directory directory' rest rest' (tree.insert (directory.location here ++ names) node)
      (tree'.insert (directory'.location here ++ names) node) := by
  have hnot' : tree'.get? (directory'.location here ++ names) ≠ some .directory := by
    rwa [h.inside]
  refine ⟨h.room, h.paved.insert hnot, h.paved'.insert hnot', fun other => ?_, ?_, ?_⟩
  · rw [get?_insert tree node _ (ne_nil_of_get?_ne hnot),
      get?_insert tree' node _ (ne_nil_of_get?_ne hnot')]
    simp only [List.append_cancel_left_eq, h.inside]
  · rw [removeBelow_insert _ _ (List.prefix_append _ _), h.rest]
  · rw [removeBelow_insert _ _ (List.prefix_append _ _), h.rest']

/-! ## Looking inside -/

/-- Names inside lead to the same place inside, or nowhere for the same reason. -/
theorem descend (h : Twins here directory directory' rest rest' tree tree')
    (hnames : ∀ name ∈ names, Path.IsName name) (passed : List String) :
    (∃ cause, tree.descend (directory.location here ++ passed) names = .error cause ∧
        tree'.descend (directory'.location here ++ passed) names = .error cause) ∨
      tree.descend (directory.location here ++ passed) names =
          .ok (directory.location here ++ (passed ++ names)) ∧
        tree'.descend (directory'.location here ++ passed) names =
          .ok (directory'.location here ++ (passed ++ names)) := by
  induction names generalizing passed with
  | nil => exact .inr ⟨by rw [List.append_nil, FileTree.descend], by rw [List.append_nil, FileTree.descend]⟩
  | cons name rest ih =>
    obtain ⟨hname, hrest⟩ := List.forall_mem_cons.mp hnames
    rw [FileTree.descend, FileTree.descend, h.inside]
    cases tree.get? (directory.location here ++ passed) with
    | none => exact .inl ⟨_, rfl, rfl⟩
    | some node =>
      cases node with
      | file bytes executable => exact .inl ⟨_, rfl, rfl⟩
      | directory =>
        simp only [hname.ne_empty, hname.ne_dot, hname.ne_up, decide_false, Bool.or_self,
          Bool.false_eq_true, if_false]
        split
        · exact .inl ⟨_, rfl, rfl⟩
        · have hinner := ih hrest (passed ++ [name])
          simpa only [List.append_assoc, List.singleton_append] using hinner

/-- Paths inside lead to the same place inside, or nowhere for the same reason. -/
theorem locate (h : Twins here directory directory' rest rest' tree tree')
    (hnames : ∀ name ∈ names, Path.IsName name) :
    (∃ cause, tree.locate here (directory.descendant names) = .error cause ∧
        tree'.locate here (directory'.descendant names) = .error cause) ∨
      tree.locate here (directory.descendant names) = .ok (directory.location here ++ names) ∧
        tree'.locate here (directory'.descendant names) =
          .ok (directory'.location here ++ names) := by
  have hroom := h.room.descendant hnames
  rw [h.paved.locate_descendant hnames, h.paved'.locate_descendant hnames, hroom.contains_nul, hroom.size]
  simp only [hroom.text_eq_empty_iff]
  split
  · exact .inl ⟨_, rfl, rfl⟩
  · split
    · exact .inl ⟨_, rfl, rfl⟩
    · split
      · exact .inl ⟨_, rfl, rfl⟩
      · simpa using h.descend hnames []

/-- The same stands at the end of a path inside, or the path leads nowhere for the same reason. -/
theorem status (h : Twins here directory directory' rest rest' tree tree')
    (hnames : ∀ name ∈ names, Path.IsName name) :
    tree'.status here (directory'.descendant names) = tree.status here (directory.descendant names) := by
  unfold FileTree.status
  rcases h.locate hnames with ⟨cause, herror, herror'⟩ | ⟨hok, hok'⟩
  · rw [herror, herror']
    rfl
  · rw [hok, hok']
    simp only [bind, Except.bind, h.inside]

/-- The same stands in the directories under a name. -/
theorem status_child {name : String} (h : Twins here directory directory' rest rest' tree tree')
    (hname : Path.IsName name) :
    tree'.status here (directory'.child name) = tree.status here (directory.child name) := by
  have hnames : ∀ other ∈ [name], Path.IsName other := by simpa using hname
  have hstatus := h.status hnames
  rwa [Path.descendant_cons, Path.descendant_cons, Path.descendant_nil, Path.descendant_nil] at hstatus

/-! ## Looking elsewhere -/

/-- What is not inside one of the directories is the same, if it is the same without them. -/
theorem get?_eq (h : Twins here directory directory' rest rest' tree tree')
    (hsame : rest'.get? location = rest.get? location)
    (hapart : ¬directory.location here <+: location)
    (hapart' : ¬directory'.location here <+: location) : tree'.get? location = tree.get? location := by
  rw [← get?_removeBelow_of_apart tree' hapart', ← get?_removeBelow_of_apart tree hapart, h.rest,
    h.rest', hsame]

/-- A path that leads past the directories leads to the same. -/
theorem status_eq_of_apart {path : Path} (h : Twins here directory directory' rest rest tree tree')
    (hapart : ∀ location, path.Way here location → ¬directory.location here <+: location)
    (hapart' : ∀ location, path.Way here location → ¬directory'.location here <+: location) :
    tree'.status here path = tree.status here path :=
  status_congr fun location hway => h.get?_eq rfl (hapart location hway) (hapart' location hway)

/-- A path leads to the same if the directories are the same, and what is on the way outside. -/
theorem status_eq {path : Path} (h : Twins here directory directory rest rest' tree tree')
    (hsame : ∀ location, path.Way here location → rest'.get? location = rest.get? location) :
    tree'.status here path = tree.status here path := by
  refine status_congr fun location hway => ?_
  by_cases hinside : directory.location here <+: location
  · obtain ⟨names, rfl⟩ := hinside
    exact h.inside names
  · exact h.get?_eq (hsame location hway) hinside hinside

/-! ## Changing what is inside -/

/-- Files inside are written alike, or cannot be written for the same reason. -/
theorem write (h : Twins here directory directory' rest rest' tree tree')
    (hnames : ∀ name ∈ names, Path.IsName name) (bytes : ByteArray) :
    (∃ cause, tree.write here (directory.descendant names) bytes = .error cause ∧
        tree'.write here (directory'.descendant names) bytes = .error cause) ∨
      ∃ after after', tree.write here (directory.descendant names) bytes = .ok after ∧
        tree'.write here (directory'.descendant names) bytes = .ok after' ∧
        Twins here directory directory' rest rest' after after' := by
  unfold FileTree.write
  rcases h.locate hnames with ⟨cause, herror, herror'⟩ | ⟨hok, hok'⟩
  · exact .inl ⟨cause, by rw [herror]; rfl, by rw [herror']; rfl⟩
  · rw [hok, hok']
    simp only [bind, Except.bind, h.inside]
    cases hget : tree.get? (directory.location here ++ names) with
    | none => exact .inr ⟨_, _, rfl, rfl, h.insert _ (by simp [hget])⟩
    | some node =>
      cases node with
      | directory => exact .inl ⟨_, rfl, rfl⟩
      | file old executable => exact .inr ⟨_, _, rfl, rfl, h.insert _ (by simp [hget])⟩

/-- Files inside are marked alike. -/
theorem setExecutable (h : Twins here directory directory' rest rest' tree tree')
    (hnames : ∀ name ∈ names, Path.IsName name) (executable : Bool) :
    Twins here directory directory' rest rest'
      (tree.setExecutable here (directory.descendant names) executable)
      (tree'.setExecutable here (directory'.descendant names) executable) := by
  unfold FileTree.setExecutable
  rcases h.locate hnames with ⟨cause, herror, herror'⟩ | ⟨hok, hok'⟩
  · rw [herror, herror']
    exact h
  · rw [hok, hok']
    simp only [h.inside]
    cases hget : tree.get? (directory.location here ++ names) with
    | none => exact h
    | some node =>
      cases node with
      | directory => exact h
      | file old _ => exact h.insert _ (by simp [hget])

/-! ## Making directories inside -/

/-- A directory inside is made alike, or cannot be made for the same reason. -/
theorem makeDirectory (h : Twins here directory directory' rest rest' tree tree')
    (hnames : ∀ name ∈ names, Path.IsName name) {segments segments' : List String}
    (hsegments : tree.descend (start here directory) segments =
      tree.descend (directory.location here) names)
    (hsegments' : tree'.descend (start here directory') segments' =
      tree'.descend (directory'.location here) names) :
    (∃ cause, tree.makeDirectory (start here directory) segments = .error cause ∧
        tree'.makeDirectory (start here directory') segments' = .error cause) ∨
      ∃ after after', tree.makeDirectory (start here directory) segments = .ok after ∧
        tree'.makeDirectory (start here directory') segments' = .ok after' ∧
        Twins here directory directory' rest rest' after after' := by
  unfold FileTree.makeDirectory
  rw [hsegments, hsegments']
  have hinside := h.descend hnames []
  simp only [List.append_nil, List.nil_append] at hinside
  rcases hinside with ⟨cause, herror, herror'⟩ | ⟨hok, hok'⟩
  · exact .inl ⟨cause, by rw [herror]; rfl, by rw [herror']; rfl⟩
  · rw [hok, hok']
    simp only [bind, Except.bind, h.inside]
    cases hget : tree.get? (directory.location here ++ names) with
    | none => exact .inr ⟨_, _, rfl, rfl, h.insert _ (by simp [hget])⟩
    | some node => exact .inl ⟨_, rfl, rfl⟩

/-- A directory is made where one may stand, alike on both sides. -/
theorem settleDirectory (h : Twins here directory directory' rest rest' tree tree')
    (hnames : ∀ name ∈ names, Path.IsName name) {segments segments' : List String}
    (hsegments : tree.descend (start here directory) segments =
      tree.descend (directory.location here) names)
    (hsegments' : tree'.descend (start here directory') segments' =
      tree'.descend (directory'.location here) names) :
    (tree'.settleDirectory (start here directory') segments').1 =
        (tree.settleDirectory (start here directory) segments).1 ∧
      Twins here directory directory' rest rest'
        (tree.settleDirectory (start here directory) segments).2
        (tree'.settleDirectory (start here directory') segments').2 := by
  have hleads : tree'.leadsToDirectory (start here directory') segments' =
      tree.leadsToDirectory (start here directory) segments := by
    unfold leadsToDirectory
    rw [hsegments, hsegments']
    have hinside := h.descend hnames []
    simp only [List.append_nil, List.nil_append] at hinside
    rcases hinside with ⟨cause, herror, herror'⟩ | ⟨hok, hok'⟩
    · rw [herror, herror']
    · rw [hok, hok']
      simp only [h.inside]
  unfold FileTree.settleDirectory
  rcases h.makeDirectory hnames hsegments hsegments' with
    ⟨cause, herror, herror'⟩ | ⟨after, after', hok, hok', htwins⟩
  · rw [herror, herror', hleads]
    exact ⟨rfl, h⟩
  · rw [hok, hok']
    exact ⟨rfl, htwins⟩

end Twins

/-- The directories on the way to a paved one are all there. -/
theorem Paved.makeParents (h : tree.Paved here directory) :
    tree.makeParents (start here directory) directory.names.reverse = (.ok (), tree) := by
  have hdescend := h.descend_names []
  rw [List.append_nil, descend_nil_eq_ok.mpr rfl] at hdescend
  have hdirectory := h.isOpen_location.get?_eq
  have hmake : tree.makeDirectory (start here directory) directory.names = .error .alreadyExists := by
    simp only [makeDirectory, hdescend, bind, Except.bind, hdirectory]
  have hleads : tree.leadsToDirectory (start here directory) directory.names = true :=
    leadsToDirectory_iff.mpr ⟨_, hdescend, hdirectory⟩
  cases hnames : directory.names.reverse with
  | nil => rfl
  | cons last before =>
    rw [FileTree.makeParents, ← hnames, List.reverse_reverse, hmake, settleDirectory, hmake, hleads]
    rfl

/-- A paved directory is there, so that it cannot be made. -/
theorem Paved.makeDirectory_ne_notFound (h : tree.Paved here directory) :
    tree.makeDirectory (start here directory) (withoutTrailing (directory.descendant []).segments) ≠
      .error .notFound := by
  have hnone : ∀ name ∈ ([] : List String), Path.IsName name := by simp
  have hdescend := h.descend_withoutTrailing hnone
  rw [descend_nil_eq_ok.mpr rfl] at hdescend
  simp only [makeDirectory, hdescend, bind, Except.bind, h.isOpen_location.get?_eq]
  simp

namespace Twins

/-- The directories on the way to a path inside are made alike. -/
theorem makeParents (h : Twins here directory directory' rest rest' tree tree')
    (hnames : ∀ name ∈ names, Path.IsName name) :
    (tree'.makeParents (start here directory') (directory'.names ++ names).reverse).1 =
        (tree.makeParents (start here directory) (directory.names ++ names).reverse).1 ∧
      Twins here directory directory' rest rest'
        (tree.makeParents (start here directory) (directory.names ++ names).reverse).2
        (tree'.makeParents (start here directory') (directory'.names ++ names).reverse).2 := by
  induction names using List.reverseRecOn with
  | nil =>
    rw [List.append_nil, List.append_nil, h.paved.makeParents, h.paved'.makeParents]
    exact ⟨rfl, h⟩
  | append_singleton front last ih =>
    obtain ⟨hfront, htwins⟩ := ih fun name hname => hnames name (List.mem_append_left _ hname)
    have hback : ∀ before : List String, (before ++ (front ++ [last])).reverse =
        last :: (before ++ front).reverse := by
      intro before
      rw [← List.append_assoc, List.reverse_append, List.reverse_singleton, List.singleton_append]
    rw [hback, hback, FileTree.makeParents, FileTree.makeParents, ← hback, ← hback,
      List.reverse_reverse, List.reverse_reverse]
    -- Where the last one cannot be made yet, those before it are made first.
    rcases hmake : tree.makeParents (start here directory) (directory.names ++ front).reverse
      with ⟨outcome, after⟩
    rcases hmake' : tree'.makeParents (start here directory') (directory'.names ++ front).reverse
      with ⟨outcome', after'⟩
    rw [hmake, hmake'] at hfront htwins
    obtain rfl : outcome' = outcome := hfront
    have hlast := h.settleDirectory hnames (h.paved.descend_names _) (h.paved'.descend_names _)
    have hlater := htwins.settleDirectory hnames (htwins.paved.descend_names _)
      (htwins.paved'.descend_names _)
    rcases h.makeDirectory hnames (h.paved.descend_names _) (h.paved'.descend_names _) with
      ⟨cause, herror, herror'⟩ | ⟨made, made', hok, hok', _⟩
    · rw [herror, herror']
      cases cause with
      | notFound =>
        cases outcome' with
        | ok value => exact hlater
        | error cause => exact ⟨rfl, htwins⟩
      | _ => exact hlast
    · rw [hok, hok']
      exact hlast

/-- Directories inside are made alike, with the missing ones on the way to them. -/
theorem makeDirectories (h : Twins here directory directory' rest rest' tree tree')
    (hnames : ∀ name ∈ names, Path.IsName name) :
    (tree'.makeDirectories here (directory'.descendant names)).1 =
        (tree.makeDirectories here (directory.descendant names)).1 ∧
      Twins here directory directory' rest rest'
        (tree.makeDirectories here (directory.descendant names)).2
        (tree'.makeDirectories here (directory'.descendant names)).2 := by
  have hroom := h.room.descendant hnames
  unfold FileTree.makeDirectories
  simp only [hroom.contains_nul, hroom.size, hroom.text_eq_empty_iff, Path.start_descendant hnames]
  split
  · exact ⟨rfl, h⟩
  · split
    · exact ⟨rfl, h⟩
    · split
      · exact ⟨rfl, h⟩
      · have hlast := h.settleDirectory hnames (h.paved.descend_withoutTrailing hnames)
          (h.paved'.descend_withoutTrailing hnames)
        rcases h.makeDirectory hnames (h.paved.descend_withoutTrailing hnames)
            (h.paved'.descend_withoutTrailing hnames) with
          ⟨cause, herror, herror'⟩ | ⟨made, made', hok, hok', _⟩
        · rw [herror, herror']
          cases cause with
          | notFound =>
            have hne : names ≠ [] := by
              rintro rfl
              exact h.paved.makeDirectory_ne_notFound herror
            have hfront : ∀ name ∈ names.dropLast, Path.IsName name :=
              fun name hname => hnames name (List.dropLast_subset _ hname)
            obtain ⟨hparents, htwins⟩ := h.makeParents hfront
            rw [Path.names_descendant hnames, Path.names_descendant hnames,
              List.dropLast_append_of_ne_nil hne, List.dropLast_append_of_ne_nil hne]
            rcases hmake : tree.makeParents (start here directory)
              (directory.names ++ names.dropLast).reverse with ⟨outcome, after⟩
            rcases hmake' : tree'.makeParents (start here directory')
              (directory'.names ++ names.dropLast).reverse with ⟨outcome', after'⟩
            rw [hmake, hmake'] at hparents htwins
            obtain rfl : outcome' = outcome := hparents
            cases outcome' with
            | ok value =>
              exact htwins.settleDirectory hnames (htwins.paved.descend_withoutTrailing hnames)
                (htwins.paved'.descend_withoutTrailing hnames)
            | error cause => exact ⟨rfl, htwins⟩
          | _ => exact hlast
        · rw [hok, hok']
          exact hlast

end Twins

end DumpReplay.FileTree
