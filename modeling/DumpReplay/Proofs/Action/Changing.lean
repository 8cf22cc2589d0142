import DumpReplay.Host.Process
import DumpReplay.Proofs.Action.Looking
import DumpReplay.Proofs.Files.Paving

/-!
# What actions change

Files are changed by the edits that an action makes at certain places, and by the processes that it
starts.  What each such change keeps, the action keeps.  A machine spares some places if its
processes leave them as they are.

Main results:

- `Changed.keeps` : what every change keeps, changes in a row keep.
- `Changed.get?_eq`, `Changed.onlyMade` : what stays at places that are spared.
- `Changes.bind`, `Changes.forIn` : where the steps of an action change files, the action does.
- `changes_download` : fetching a file changes files only at the place of the file.
-/

namespace DumpReplay

/-- A machine spares some places if its processes leave them as they are. -/
def Machine.Spares (machine : Machine) (spot : Location → Prop) : Prop :=
  ∀ earlier command tree location, spot location →
    (machine.launch earlier command tree).2.get? location = tree.get? location

/-- Whatever stands somewhere when a process ends stands in a directory, if it was so before. -/
def Machine.Roots (machine : Machine) : Prop :=
  ∀ earlier command tree, FileTree.Rooted tree →
    FileTree.Rooted (machine.launch earlier command tree).2

/-- One change of the files: an edit at certain places, or what a process does to them. -/
inductive Change (machine : Machine) (made written : Location → Prop) (tree : FileTree) :
    FileTree → Prop
  /-- An edit. -/
  | edit {after : FileTree} (hedit : FileTree.Edit made written tree after) :
      Change machine made written tree after
  /-- A process. -/
  | process (earlier : Nat) (command : Command) :
      Change machine made written tree (machine.launch earlier command tree).2

/-- The files are changed, any number of times. -/
abbrev Changed (machine : Machine) (made written : Location → Prop) :
    FileTree → FileTree → Prop :=
  Relation.ReflTransGen (Change machine made written)

namespace Changed

variable {machine : Machine} {made written spot : Location → Prop} {before after : FileTree}
variable {location : Location} {path : Path}

theorem of_edited (h : FileTree.Edited made written before after) :
    Changed machine made written before after :=
  Relation.ReflTransGen.mono (fun _ _ hedit => Change.edit hedit) _ _ h

/-- Changes are ones at more places. -/
theorem mono {more most : Location → Prop} (h : Changed machine made written before after)
    (hmore : ∀ location, made location → more location)
    (hmost : ∀ location, written location → most location) :
    Changed machine more most before after := by
  refine Relation.ReflTransGen.mono (fun tree next hchange => ?_) _ _ h
  cases hchange with
  | edit hedit => exact .edit (hedit.mono hmore hmost)
  | process earlier command => exact .process earlier command

/-- Changes are ones anywhere. -/
theorem anywhere (h : Changed machine made written before after) :
    Changed machine (fun _ => True) (fun _ => True) before after :=
  h.mono (fun _ _ => True.intro) fun _ _ => True.intro

/-- What every change keeps, changes in a row keep. -/
theorem keeps (property : FileTree → Prop) (h : Changed machine made written before after)
    (hedit : ∀ tree next, FileTree.Edit made written tree next → property tree → property next)
    (hprocess : ∀ earlier command tree, property tree →
      property (machine.launch earlier command tree).2)
    (hbefore : property before) : property after := by
  induction h with
  | refl => exact hbefore
  | tail _ hchange ih =>
    cases hchange with
    | edit hstep => exact hedit _ _ hstep ih
    | process earlier command => exact hprocess earlier command _ ih

/-- An open directory stays open, if it is spared with everything above it. -/
theorem isOpen (h : Changed machine made written before after) (hspares : machine.Spares spot)
    (hspot : ∀ above, above <+: location → spot above) (hopen : before.IsOpen location) :
    after.IsOpen location := by
  refine h.keeps (fun tree => tree.IsOpen location) (fun _ _ hstep => hstep.isOpen) (fun earlier command tree hbefore => ?_) hopen
  intro above habove
  rw [hspares _ _ _ _ (hspot above habove)]
  exact hbefore above habove

/-- A paved path stays paved, if the way to it is spared. -/
theorem paved {here : Location} (h : Changed machine made written before after)
    (hspares : machine.Spares spot)
    (hspot : ∀ location, path.Way here location → ∀ above, above <+: location → spot above)
    (hpaved : before.Paved here path) : after.Paved here path :=
  hpaved.of_isOpen fun location hway hopen => h.isOpen hspares (hspot location hway) hopen

/-- What stands in an open directory stays, if it is spared, and is not written and no directory is
made for it. -/
theorem get?_eq (h : Changed machine made written before after) (hspares : machine.Spares spot)
    (hspot : ∀ above, above <+: location → spot above)
    (hopen : before.IsOpen location.dropLast)
    (hmade : made location → before.get? location ≠ none) (hwritten : ¬written location) :
    after.get? location = before.get? location := by
  have habove : ∀ above, above <+: location.dropLast → spot above :=
    fun above hover => hspot above (hover.trans (List.dropLast_prefix _))
  induction h with
  | refl => rfl
  | tail hfirst hchange ih =>
    rw [← ih]
    cases hchange with
    | edit hedit =>
      refine hedit.get?_eq (isOpen hfirst hspares habove hopen) ?_ hwritten
      rwa [ih]
    | process earlier command => exact hspares _ _ _ _ (hspot _ List.prefix_rfl)

/-- Where no directory stands and none is made, none stands afterwards, if the place is spared. -/
theorem not_directory (h : Changed machine made written before after) (hspares : machine.Spares spot)
    (hspot : spot location) (hmade : ¬made location)
    (hnot : before.get? location ≠ some .directory) : after.get? location ≠ some .directory := by
  refine h.keeps (fun tree => tree.get? location ≠ some .directory)
    (fun _ _ hstep => hstep.not_directory hmade) (fun earlier command tree hbefore => ?_) hnot
  rwa [hspares _ _ _ _ hspot]

/-- A rooted tree stays rooted, if processes leave it so. -/
theorem rooted (h : Changed machine made written before after) (hroots : machine.Roots)
    (hbefore : before.Rooted) : after.Rooted :=
  h.keeps FileTree.Rooted (fun _ _ hstep => hstep.rooted) hroots hbefore

/-- A place that is spared and apart from what is written changes only when a directory is made
there. -/
theorem onlyMade (h : Changed machine made written before after)
    (hspares : machine.Spares spot) (hspot : spot location)
    (hwritten : ∀ above, above <+: location → ¬written above) :
    FileTree.OnlyMade made before after location := by
  refine h.keeps (fun tree => FileTree.OnlyMade made before tree location) ?_ ?_ (.inl rfl)
  · exact fun tree next hedit hbefore => hbefore.trans (hedit.onlyMade hwritten)
  · intro earlier command tree hbefore
    exact hbefore.trans (.inl (hspares _ _ _ _ hspot))

end Changed

namespace Action

variable {α β : Type} {machine : Machine} {made written : Location → Prop} {host after : Host}

/-- An action changes files at certain places only, but for what its processes do. -/
def Changes (machine : Machine) (made written : Location → Prop) (action : Action α) : Prop :=
  ∀ host, Changed machine made written host.files (action.on machine host).2.files

/-- An action gives values with a property only. -/
def Gives (machine : Machine) (property : α → Prop) (action : Action α) : Prop :=
  ∀ host after value, action.on machine host = (.ok value, after) → property value

namespace Gives

variable {property : β → Prop}

theorem pure {value : β} (h : property value) :
    Gives machine property (Pure.pure value : Action β) := by
  intro host after other hrun
  rw [on_pure, Prod.mk.injEq, Except.ok.injEq] at hrun
  rwa [← hrun.1]

theorem fail (failure : Failure) : Gives machine property (Action.fail failure : Action β) := by
  intro host after other hrun
  rw [on_fail, Prod.mk.injEq] at hrun
  exact absurd hrun.1 (by simp)

/-- A sequence gives what its second action gives. -/
theorem bind {given : α → Prop} {first : Action α} {next : α → Action β}
    (hfirst : Gives machine given first)
    (hnext : ∀ value, given value → Gives machine property (next value)) :
    Gives machine property (first >>= next) := by
  intro host after other hrun
  obtain ⟨value, middle, hvalue, hother⟩ := on_bind_eq_ok.mp hrun
  exact hnext value (hfirst _ _ _ hvalue) _ _ _ hother

theorem trivial (action : Action α) : Gives machine (fun _ => True) action :=
  fun _ _ _ _ => True.intro

theorem ite {condition : Prop} [Decidable condition] {yes no : Action β}
    (hyes : Gives machine property yes) (hno : Gives machine property no) :
    Gives machine property (if condition then yes else no) := by
  split
  · exact hyes
  · exact hno

end Gives

namespace Changes

/-- The changes of a run of an action. -/
theorem changed {action : Action α} (h : Changes machine made written action)
    {outcome : Except Failure α} (hrun : action.on machine host = (outcome, after)) :
    Changed machine made written host.files after.files := by
  have hchanged := h host
  rwa [hrun] at hchanged

/-- An action that keeps the files changes none. -/
theorem of_keeps {action : Action α} (h : Keeps Host.files action) :
    Changes machine made written action := by
  intro host
  rw [h machine host]

/-- An action that only looks changes no files. -/
theorem of_looks {action : Action α} (h : Looks action) : Changes machine made written action :=
  of_keeps h.keepsFiles

/-- What follows an action need change files at the right places only for the values that the action
can give. -/
theorem bind_of_gives {property : α → Prop} {first : Action α} {next : α → Action β}
    (hfirst : Changes machine made written first) (hgives : Gives machine property first)
    (hnext : ∀ value, property value → Changes machine made written (next value)) :
    Changes machine made written (first >>= next) := by
  intro host
  rw [on_bind]
  have hchanged := hfirst host
  rcases hrun : first.on machine host with ⟨outcome, after⟩
  rw [hrun] at hchanged
  cases outcome with
  | ok value => exact hchanged.trans (hnext value (hgives _ _ _ hrun) after)
  | error failure => exact hchanged

/-- A sequence changes files where its actions do. -/
theorem bind {first : Action α} {next : α → Action β} (hfirst : Changes machine made written first)
    (hnext : ∀ value, Changes machine made written (next value)) :
    Changes machine made written (first >>= next) := by
  exact hfirst.bind_of_gives (.trivial first) fun value _ => hnext value

/-- An attempt at an action changes files where the action does. -/
theorem attempt {action : Action α} (h : Changes machine made written action) :
    Changes machine made written (Action.attempt action) := by
  intro host
  rw [run_attempt]
  exact h host

theorem ite {condition : Prop} [Decidable condition] {yes no : Action α}
    (hyes : Changes machine made written yes) (hno : Changes machine made written no) :
    Changes machine made written (if condition then yes else no) := by
  split
  · exact hyes
  · exact hno

/-- A loop changes files where its steps do. -/
theorem forIn {σ : Type} {step : β → σ → Action (ForInStep σ)} (items : List β) (state : σ)
    (hstep : ∀ item ∈ items, ∀ state, Changes machine made written (step item state)) :
    Changes machine made written (ForIn.forIn items state step) := by
  induction items generalizing state with
  | nil => exact of_looks (.pure state)
  | cons item items ih =>
    obtain ⟨hitem, hitems⟩ := List.forall_mem_cons.mp hstep
    rw [List.forIn_cons]
    refine bind (hitem state) fun outcome => ?_
    cases outcome with
    | done state => exact of_looks (.pure state)
    | yield state => exact ih state hitems

end Changes

/-! ## Files -/

/-- Writing a file changes files only at its place. -/
theorem changes_writeBytes {path : Path} (bytes : ByteArray)
    (hwritten : path.text ≠ "" → written (path.location machine.workingDirectory)) :
    Changes machine made written (writeBytes path bytes) := by
  intro host
  unfold writeBytes
  rw [on_bind_of_ok _ (on_look _)]
  cases hwrite : host.files.write machine.workingDirectory path bytes with
  | error cause => exact .refl
  | ok tree => exact .single (.edit (FileTree.edit_write made hwritten hwrite))

/-- What is written to a file is read from it. -/
theorem read_of_writeBytes {path : Path} {bytes : ByteArray}
    (h : (writeBytes path bytes).on machine host = (.ok (), after)) :
    after.files.read machine.workingDirectory path = .ok bytes := by
  unfold writeBytes at h
  rw [on_bind_of_ok _ (on_look _)] at h
  cases hwrite : host.files.write machine.workingDirectory path bytes with
  | error cause =>
    rw [hwrite, on_bind_of_error _ (on_ofIo _)] at h
    exact absurd (Prod.mk.inj h).1 (by simp)
  | ok tree =>
    rw [hwrite, on_bind_of_ok _ (on_ofIo _), on_setFiles] at h
    obtain ⟨_, rfl⟩ := Prod.mk.inj h
    exact (FileTree.write_of_ok hwrite).2

theorem changes_writeText {path : Path} (text : String)
    (hwritten : path.text ≠ "" → written (path.location machine.workingDirectory)) :
    Changes machine made written (writeText path text) :=
  changes_writeBytes _ hwritten

/-- Making directories changes files only on the way to the last of them. -/
theorem changes_makeDirectories? {path : Path}
    (hmade : ∀ location, path.Way machine.workingDirectory location → made location) :
    Changes machine made written (makeDirectories? path) := by
  intro host
  rcases hmake : host.files.makeDirectories machine.workingDirectory path with ⟨result, tree⟩
  have hedited := FileTree.edited_makeDirectories written hmade hmake
  unfold makeDirectories?
  rw [on_bind_of_ok _ (on_look _), hmake]
  exact .of_edited hedited

/-! ## Requests -/

theorem keepsFiles_request (method : Method) (address : String) :
    Keeps Host.files (request method address) := by
  intro machine host
  unfold request
  split <;> rfl

theorem keepsFiles_isAvailable (address : String) : Keeps Host.files (isAvailable address) := by
  refine .bind (keepsFiles_request .head address) fun reply => ?_
  cases reply <;> exact .pure _

/-- Fetching a file changes files only at its place, whatever the server answers: what came of a
body that broke off is removed. -/
theorem changes_download {target : Path} (address : String)
    (hwritten : written (target.location machine.workingDirectory)) :
    Changes machine made written (download address target) := by
  refine .bind (.of_looks (looks_inform _)) fun _ => ?_
  refine .bind (.of_keeps (keepsFiles_request .get address)) fun reply => ?_
  cases reply with
  | refused cause => exact .of_looks (.fail _)
  | answered status success body =>
    refine .ite (.of_looks (.fail _)) ?_
    exact .bind (changes_writeBytes body fun _ => hwritten) fun _ => .of_looks (looks_inform _)
  | brokenOff status success cause =>
    refine .ite (.of_looks (.fail _)) fun host => ?_
    have hchanged : Changed machine made written host.files
        ((writeBytes target ByteArray.empty).on machine host).2.files :=
      changes_writeBytes ByteArray.empty (fun _ => hwritten) host
    cases hwrite : (writeBytes target ByteArray.empty).on machine host with
    | mk outcome after =>
      rw [hwrite] at hchanged
      cases outcome with
      | error failure =>
        rw [on_bind_of_error _ hwrite]
        exact hchanged
      | ok value =>
        -- What was written is a file, so that removing it is an edit.
        obtain ⟨executable, hstatus⟩ := FileTree.read_eq_ok_iff.mp (read_of_writeBytes hwrite)
        obtain ⟨location, hlocate, hget⟩ := FileTree.status_eq_ok_iff.mp hstatus
        rw [on_bind_of_ok _ hwrite, on_bind_of_ok _ (on_look _), hlocate]
        rw [FileTree.location_of_locate hlocate] at hget ⊢
        exact hchanged.tail (.edit (.remove _ hwritten (by simp [hget])))

/-! ## Processes -/

theorem changes_launch (command : Command) : Changes machine made written (launch command) :=
  fun host => .single (.process host.launched.length command)

theorem changes_runCaptured (command : Command) :
    Changes machine made written (runCaptured command) := by
  refine .bind (.of_looks (looks_inform _)) fun _ => .bind (changes_launch command) fun ended => ?_
  cases ended with
  | ok ending => exact .of_looks (.pure _)
  | error cause => exact .of_looks (.fail _)

theorem changes_runChecked (command : Command) :
    Changes machine made written (runChecked command) :=
  .bind (changes_runCaptured command) fun _ =>
    .ite (.of_looks (.pure _)) (.of_looks (.fail _))

end Action

end DumpReplay
