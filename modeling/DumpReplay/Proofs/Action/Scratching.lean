import DumpReplay.Proofs.Action.Running
import DumpReplay.Proofs.Files.Twins

/-!
# Scratch directories

Whether a scratch directory can be made depends on the files and on its path.  One that is made is
empty, and when it is removed the files are as they were before.

Main results:

- `on_makeScratch`, `on_withScratch` : making a scratch directory, and working with one.
- `scratchIn_spec` : a scratch directory that is made stands where nothing did and can be taken away.
- `twins_of_scratchIn` : scratch directories with the same room are twins.
- `madeAlike_of_new` : of two new names for a scratch directory both can be taken, or neither.
-/

namespace DumpReplay

open DumpReplay.Action

variable {tree tree' made made' : FileTree} {here location location' : Location} {path path' : Path}

/-! ## Making them -/

namespace Action

/-- The path of a scratch directory, given how many were made before. -/
def scratchPath (machine : Machine) (count : Nat) : Path :=
  (scratchParent machine).child ("compiledump" ++ machine.scratchName count)

/-- The files with a new scratch directory at a path, and its location. -/
def scratchIn (tree : FileTree) (here : Location) (path : Path) :
    Except IoError (FileTree × Location) := do
  let location ← tree.locate here path
  let made ← tree.makeDirectory [] location
  .ok (made, location)

/-- Whether a scratch directory can be made depends on the files and on its path. -/
theorem on_makeScratch (machine : Machine) (host : Host) :
    makeScratch.on machine host =
      match scratchIn host.files machine.workingDirectory (scratchPath machine host.scratches) with
      | .ok (made, location) => (.ok (scratchPath machine host.scratches, location),
          { host with files := made, scratches := host.scratches + 1 })
      | .error cause =>
        (.error (.io (.atPath cause
            (String.ofList (Text.quoted (scratchPath machine host.scratches).toList)))),
          { host with scratches := host.scratches + 1 }) := by
  unfold makeScratch
  rw [on_bind_of_ok _ on_read, on_bind_of_ok _ on_get]
  dsimp only
  rw [on_bind_of_ok _ on_set]
  change ((match scratchIn host.files machine.workingDirectory (scratchPath machine host.scratches) with
    | .ok (files, location) => do
      setFiles files
      return (scratchPath machine host.scratches, location)
    | .error cause => fail (.io (.atPath cause
        (String.ofList (Text.quoted (scratchPath machine host.scratches).toList))))).on machine
      { host with scratches := host.scratches + 1 }) = _
  cases scratchIn host.files machine.workingDirectory (scratchPath machine host.scratches) <;> rfl

/-- A scratch directory that is made is the next one. -/
theorem makeScratch_eq_ok {machine : Machine} {host after : Host}
    (h : makeScratch.on machine host = (.ok (path, location), after)) :
    path = scratchPath machine host.scratches ∧
      scratchIn host.files machine.workingDirectory path = .ok (after.files, location) := by
  rw [on_makeScratch] at h
  split at h
  · rename_i hmade
    obtain ⟨hvalue, rfl⟩ := Prod.mk.inj h
    obtain ⟨rfl, rfl⟩ := Prod.mk.inj (Except.ok.inj hvalue)
    exact ⟨rfl, hmade⟩
  · exact absurd (Prod.mk.inj h).1 (by simp)

/-- Where a scratch directory cannot be made, no file is changed. -/
theorem files_of_makeScratch_error {machine : Machine} {host after : Host} {failure : Failure}
    (h : makeScratch.on machine host = (.error failure, after)) : after.files = host.files := by
  rw [on_makeScratch] at h
  split at h
  · exact absurd (Prod.mk.inj h).1 (by simp)
  · obtain ⟨_, rfl⟩ := Prod.mk.inj h
    rfl

/-- An action with a scratch directory runs in it, and the directory is taken away behind it. -/
theorem on_withScratch {α : Type} (action : Path → Action α) (machine : Machine) (host : Host) :
    (withScratch action).on machine host =
      match makeScratch.on machine host with
      | (.ok (path, location), made) =>
        (((action path).on machine made).1,
          { ((action path).on machine made).2 with
            files := ((action path).on machine made).2.files.removeBelow location })
      | (.error failure, after) => (.error failure, after) := by
  unfold withScratch
  rcases hmade : makeScratch.on machine host with ⟨outcome, made⟩
  cases outcome with
  | error failure => rw [on_bind_of_error _ hmade]
  | ok value =>
    obtain ⟨path, location⟩ := value
    rw [on_bind_of_ok _ hmade]
    dsimp only
    rw [on_bind_of_ok _ (run_attempt _ _ _), on_bind_of_ok _ on_files,
      on_bind_of_ok _ (on_setFiles _), on_ofExcept]

/-- A scratch directory is made where its path leads, and nothing stands there before. -/
theorem scratchIn_eq_ok (hhere : ∀ name ∈ here, Path.IsName name)
    (h : scratchIn tree here path = .ok (made, location)) :
    tree.locate here path = .ok location ∧ tree.get? location = none ∧
      made = tree.insert location .directory := by
  unfold scratchIn at h
  cases hlocate : tree.locate here path with
  | error cause => simp [hlocate, bind, Except.bind] at h
  | ok found =>
    cases hmake : tree.makeDirectory [] found with
    | error cause => simp [hlocate, hmake, bind, Except.bind] at h
    | ok files =>
      simp only [hlocate, hmake, bind, Except.bind, Except.ok.injEq, Prod.mk.injEq] at h
      obtain ⟨rfl, rfl⟩ := h
      obtain ⟨below, hdescend, hfree, rfl⟩ := FileTree.makeDirectory_eq_ok hmake
      -- The location is told by names, so that they lead to it from the root.
      have hnames : ∀ name ∈ found, Path.IsName name := by
        rw [FileTree.location_of_locate hlocate]
        exact Path.isName_location hhere _
      rw [FileTree.follow_of_descend hdescend, Path.follow_of_isName hnames, List.nil_append] at hfree ⊢
      exact ⟨rfl, hfree, rfl⟩

/-- A scratch directory is made in a directory, and without it the files are as they were. -/
theorem scratchIn_spec (hrooted : tree.Rooted) (hhere : ∀ name ∈ here, Path.IsName name)
    (h : scratchIn tree here path = .ok (made, location)) :
    location = path.location here ∧ tree.get? location = none ∧
      made = tree.insert location .directory ∧ made.Rooted ∧ made.hasDirectory here path = true ∧
      made.removeBelow location = tree := by
  obtain ⟨hlocate, hfree, rfl⟩ := scratchIn_eq_ok hhere h
  have hgrows := FileTree.grows_insert (fun _ => False) .directory hfree
  obtain ⟨_, _, _, hpath⟩ := FileTree.locate_eq_ok_iff.mp hlocate
  have hafter : (tree.insert location .directory).Rooted :=
    hrooted.insert (hrooted.get?_dropLast_of_descend path.segments_ne_nil hpath)
      (FileTree.not_directory_of_free hfree)
  refine ⟨FileTree.location_of_locate hlocate, hfree, rfl, hafter, ?_, ?_⟩
  · rw [FileTree.hasDirectory_iff, FileTree.status_eq_ok_iff]
    exact ⟨location, hgrows.locate hlocate,
      FileTree.get?_insert_self _ _ (FileTree.ne_nil_of_get?_eq_none hfree)⟩
  · rw [FileTree.removeBelow_insert _ _ List.prefix_rfl, hrooted.removeBelow_eq hfree]

/-- Scratch directories with the same room are twins when they are made. -/
theorem twins_of_scratchIn (hrooted : tree.Rooted) (hrooted' : tree'.Rooted)
    (hhere : ∀ name ∈ here, Path.IsName name) (hroom : path.SameRoom path')
    (h : scratchIn tree here path = .ok (made, location))
    (h' : scratchIn tree' here path' = .ok (made', location')) :
    FileTree.Twins here path path' tree tree' made made' := by
  obtain ⟨hlocation, hfree, hmade, hafter, hdirectory, hremoved⟩ := scratchIn_spec hrooted hhere h
  obtain ⟨hlocation', hfree', hmade', hafter', hdirectory', hremoved'⟩ :=
    scratchIn_spec hrooted' hhere h'
  subst hlocation hlocation'
  refine ⟨hroom, hafter.paved hdirectory, hafter'.paved hdirectory', fun names => ?_, hremoved,
    hremoved'⟩
  rw [hmade, hmade', FileTree.get?_insert _ _ _ (FileTree.ne_nil_of_get?_eq_none hfree),
    FileTree.get?_insert _ _ _ (FileTree.ne_nil_of_get?_eq_none hfree'),
    hrooted.get?_eq_none hfree (List.prefix_append _ _),
    hrooted'.get?_eq_none hfree' (List.prefix_append _ _)]
  simp only [List.append_right_eq_self]

/-! ## Two of them -/

/-- Of two scratch directories, each in a tree of its own, both can be made, or neither. -/
def MadeAlike (tree tree' : FileTree) (here : Location) (path path' : Path) : Prop :=
  (∃ cause, scratchIn tree here path = .error cause ∧ scratchIn tree' here path' = .error cause) ∨
    ∃ made made', scratchIn tree here path = .ok made ∧ scratchIn tree' here path' = .ok made'

/-- Whether a scratch directory can be made depends on what is on the way to it. -/
theorem madeAlike_of_way (hhere : ∀ name ∈ here, Path.IsName name)
    (hsame : ∀ passed, path.Way here passed → ∀ above, above <+: passed →
      tree'.get? above = tree.get? above) : MadeAlike tree tree' here path path := by
  have hlocate : tree'.locate here path = tree.locate here path :=
    FileTree.locate_congr fun passed hway => hsame passed hway passed List.prefix_rfl
  unfold MadeAlike scratchIn
  rw [hlocate]
  cases hfound : tree.locate here path with
  | error cause => exact .inl ⟨cause, rfl, rfl⟩
  | ok location =>
    have hlocation := FileTree.location_of_locate hfound
    have hnames : ∀ name ∈ location, Path.IsName name := by
      rw [hlocation]
      exact Path.isName_location hhere _
    have hway : path.Way here location := hlocation ▸ path.way_location here
    have hdescend : tree'.descend [] location = tree.descend [] location := by
      refine FileTree.descend_congr fun part hpart => ?_
      rw [Path.follow_of_isName fun name hname => hnames name (hpart.subset hname), List.nil_append]
      exact hsame location hway part hpart
    simp only [bind, Except.bind, FileTree.makeDirectory, hdescend]
    cases hdescended : tree.descend [] location with
    | error cause => exact .inl ⟨cause, rfl, rfl⟩
    | ok below =>
      have hbelow : below = location := by
        rw [FileTree.follow_of_descend hdescended, Path.follow_of_isName hnames, List.nil_append]
      subst hbelow
      simp only [hsame below hway below List.prefix_rfl]
      cases tree.get? below with
      | some node => exact .inl ⟨_, rfl, rfl⟩
      | none => exact .inr ⟨_, _, rfl, rfl⟩

/-- Two names of the same length lead on from a location, or neither does. -/
theorem descend_name_alike {name name' : String} (hname : Path.IsName name) (hname' : Path.IsName name')
    (hsize : name'.utf8ByteSize = name.utf8ByteSize) (tree : FileTree) (middle : Location) :
    (∃ cause, tree.descend middle [name] = .error cause ∧ tree.descend middle [name'] = .error cause) ∨
      tree.descend middle [name] = .ok (middle ++ [name]) ∧
        tree.descend middle [name'] = .ok (middle ++ [name']) := by
  simp only [FileTree.descend]
  cases tree.get? middle with
  | none => exact .inl ⟨_, rfl, rfl⟩
  | some node =>
    cases node with
    | file bytes executable => exact .inl ⟨_, rfl, rfl⟩
    | directory =>
      simp only [hname.ne_empty, hname.ne_dot, hname.ne_up, hname'.ne_empty, hname'.ne_dot,
        hname'.ne_up, decide_false, Bool.or_self, Bool.false_eq_true, if_false, hsize]
      split
      · exact .inl ⟨_, rfl, rfl⟩
      · exact .inr ⟨rfl, rfl⟩

/-- A path and one beside it with a name of the same length lead on from the same place, or nowhere for
the same reason. -/
theorem locate_child_alike {name name' : String} (hname : Path.IsName name) (hname' : Path.IsName name')
    (hsize : name'.utf8ByteSize = name.utf8ByteSize) (hnul : '\x00' ∈ name'.toList ↔ '\x00' ∈ name.toList)
    (tree : FileTree) (here : Location) (parent : Path) :
    (∃ cause, tree.locate here (parent.child name) = .error cause ∧
        tree.locate here (parent.child name') = .error cause) ∨
      ∃ middle, tree.locate here (parent.child name) = .ok (middle ++ [name]) ∧
        tree.locate here (parent.child name') = .ok (middle ++ [name']) := by
  have hroom := (Path.SameRoom.refl parent).child hname hname' hsize hnul
  unfold FileTree.locate
  rw [hroom.contains_nul, hroom.size, hname.start_child, hname'.start_child,
    FileTree.descend_segments_child hname, FileTree.descend_segments_child hname']
  simp only [hroom.text_eq_empty_iff]
  split
  · exact .inl ⟨_, rfl, rfl⟩
  · split
    · exact .inl ⟨_, rfl, rfl⟩
    · split
      · exact .inl ⟨_, rfl, rfl⟩
      · cases tree.descend (FileTree.start here parent) parent.segments with
        | error cause => exact .inl ⟨cause, rfl, rfl⟩
        | ok middle =>
          rcases descend_name_alike hname hname' hsize tree middle with hfails | hleads
          · exact .inl hfails
          · exact .inr ⟨middle, hleads⟩

/-- Of two new names for a scratch directory both can be taken, or neither. -/
theorem madeAlike_of_new {name name' : String} {parent : Path} (hname : Path.IsName name)
    (hname' : Path.IsName name') (hsize : name'.utf8ByteSize = name.utf8ByteSize)
    (hnul : '\x00' ∈ name'.toList ↔ '\x00' ∈ name.toList) (hhere : ∀ name ∈ here, Path.IsName name)
    (hfree : tree.get? ((parent.child name).location here) = none)
    (hfree' : tree.get? ((parent.child name').location here) = none) :
    MadeAlike tree tree here (parent.child name) (parent.child name') := by
  unfold MadeAlike scratchIn
  rcases locate_child_alike hname hname' hsize hnul tree here parent with
    ⟨cause, herror, herror'⟩ | ⟨middle, hok, hok'⟩
  · rw [herror, herror']
    exact .inl ⟨cause, rfl, rfl⟩
  · have hlocation := FileTree.location_of_locate hok
    have hlocation' := FileTree.location_of_locate hok'
    rw [hok, hok']
    simp only [bind, Except.bind, FileTree.makeDirectory]
    rw [FileTree.descend_append, FileTree.descend_append]
    cases hmiddle : tree.descend [] middle with
    | error cause => exact .inl ⟨cause, rfl, rfl⟩
    | ok above =>
      have hnames : ∀ other ∈ middle ++ [name], Path.IsName other := by
        rw [hlocation]
        exact Path.isName_location hhere _
      have habove : above = middle := by
        rw [FileTree.follow_of_descend hmiddle,
          Path.follow_of_isName fun other hother => hnames other (List.mem_append_left _ hother),
          List.nil_append]
      subst habove
      simp only [bind, Except.bind]
      rcases descend_name_alike hname hname' hsize tree above with
        ⟨cause, herror, herror'⟩ | ⟨hleads, hleads'⟩
      · rw [herror, herror']
        exact .inl ⟨cause, rfl, rfl⟩
      · rw [hleads, hleads', hlocation, hlocation']
        simp only [hfree, hfree']
        exact .inr ⟨_, _, rfl, rfl⟩

end Action

end DumpReplay
