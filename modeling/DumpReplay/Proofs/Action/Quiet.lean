import DumpReplay.Proofs.Action.Looking

/-!
# Quiet actions

An action is quiet if it starts no process and prints nothing.  Looking at files, changing them,
recording, and sending requests are quiet.

Main results:

- `quiet_download` : fetching a file is quiet.
- `quiet_makeScratch` : making a scratch directory is quiet.
-/

namespace DumpReplay

/-- What can be noticed of a host from outside: the processes that were started, and what was
printed. -/
def Host.outward (host : Host) : List Launch × String :=
  (host.launched, host.printed)

namespace Action

variable {α : Type}

/-- An action is quiet if it starts no process and prints nothing. -/
abbrev Quiet (action : Action α) : Prop :=
  Keeps Host.outward action

/-- What is quiet starts no process. -/
theorem Quiet.keepsLaunched {action : Action α} (h : Quiet action) : Keeps Host.launched action :=
  fun machine host => (Prod.mk.inj (h machine host)).1

/-- What only looks is quiet. -/
theorem Looks.quiet {action : Action α} (h : Looks action) : Quiet action :=
  h.keeps fun _ => rfl

/-! ## Files -/

theorem quiet_setFiles (tree : FileTree) : Quiet (setFiles tree) :=
  fun _ _ => rfl

theorem quiet_writeBytes (path : Path) (bytes : ByteArray) : Quiet (writeBytes path bytes) := by
  refine .bind (.look _) fun written => ?_
  exact .bind (.ofIo written) fun tree => quiet_setFiles tree

theorem quiet_writeText (path : Path) (text : String) : Quiet (writeText path text) :=
  quiet_writeBytes path _

theorem quiet_makeDirectories? (path : Path) : Quiet (makeDirectories? path) := by
  refine .bind (.look _) fun made => ?_
  exact .bind (quiet_setFiles made.2) fun _ => .pure _

theorem quiet_makeDirectories (path : Path) : Quiet (makeDirectories path) :=
  .bind (quiet_makeDirectories? path) fun _ => .ofIo _

/-! ## Requests -/

theorem quiet_request (method : Method) (address : String) : Quiet (request method address) := by
  intro machine host
  unfold request
  split <;> rfl

theorem quiet_isAvailable (address : String) : Quiet (isAvailable address) := by
  refine .bind (quiet_request .head address) fun reply => ?_
  cases reply <;> exact .pure _

/-- Fetching a file is quiet, whatever the server answers. -/
theorem quiet_download (address : String) (target : Path) : Quiet (download address target) := by
  refine .bind (looks_inform _).quiet fun _ => .bind (quiet_request .get address) fun reply => ?_
  cases reply with
  | refused cause => exact .fail _
  | answered status success body =>
    refine .ite (.fail _) ?_
    exact .bind (quiet_writeBytes target body) fun _ => (looks_inform _).quiet
  | brokenOff status success cause =>
    refine .ite (.fail _) ?_
    refine .bind (quiet_writeBytes target _) fun _ => ?_
    refine .bind (.look _) fun found => .bind (.ofIo found) fun location => ?_
    refine .bind .files fun tree => ?_
    exact .bind (quiet_setFiles _) fun _ => .fail _

/-! ## Scratch directories -/

/-- Making a scratch directory is quiet, whether or not it can be made. -/
theorem quiet_makeScratch : Quiet makeScratch := by
  intro machine host
  unfold makeScratch
  rw [on_bind_of_ok _ on_read, on_bind_of_ok _ on_get]
  dsimp only
  rw [on_bind_of_ok _ on_set]
  split
  · rfl
  · rfl

end Action

end DumpReplay
