import DumpReplay.Host.Request
import DumpReplay.Proofs.Action.Running

/-!
# Actions that only look

An action only looks if the log is all that it may change.  Looking at files and recording do, and
what only looks keeps every view of a host in which the log does not show.

Main results:

- `Looks.keeps` : what only looks keeps every view without the log.
- `looks_readText` : reading a file only looks.
- `readText_eq_ok` : which text is read from a file.
-/

namespace DumpReplay

/-- A host without its log. -/
def Host.withoutLog (host : Host) : Host :=
  { host with log := [] }

namespace Action

variable {α γ : Type}

/-- An action only looks if it changes nothing but the log. -/
abbrev Looks (action : Action α) : Prop :=
  Keeps Host.withoutLog action

/-- What only looks keeps every view in which the log does not show. -/
theorem Looks.keeps {action : Action α} {view : Host → γ} (h : Looks action)
    (hview : ∀ host : Host, view host.withoutLog = view host) : Keeps view action := by
  intro machine host
  rw [← hview, h machine host, hview]

/-- What only looks keeps the files. -/
theorem Looks.keepsFiles {action : Action α} (h : Looks action) : Keeps Host.files action :=
  h.keeps fun _ => rfl

/-- A sequence whose first action only looks fails with it, or is its second action, on the same
files. -/
theorem Looks.bind_cases {β : Type} {first : Action α} {next : α → Action β} {machine : Machine}
    {host after : Host} {outcome : Except Failure β} (hfirst : Looks first)
    (h : (first >>= next).on machine host = (outcome, after)) :
    ((∃ failure, outcome = .error failure) ∧ after.files = host.files) ∨
      ∃ value middle, first.on machine host = (.ok value, middle) ∧ middle.files = host.files ∧
        (next value).on machine middle = (outcome, after) := by
  rcases hfirst.keepsFiles.ok_or_error machine host with
    ⟨value, middle, hrun, hfiles⟩ | ⟨failure, behind, hrun, hfiles⟩
  · rw [on_bind_of_ok _ hrun] at h
    exact .inr ⟨value, middle, hrun, hfiles, h⟩
  · rw [on_bind_of_error _ hrun] at h
    obtain ⟨rfl, rfl⟩ := Prod.mk.inj h
    exact .inl ⟨⟨failure, rfl⟩, hfiles⟩

/-! ## Records -/

theorem looks_record (severity : Severity) (text : String) : Looks (record severity text) :=
  fun _ _ => rfl

theorem looks_inform (text : String) : Looks (inform text) :=
  looks_record .information text

theorem looks_warn (text : String) : Looks (warn text) :=
  looks_record .warning text

/-! ## Files -/

theorem looks_pathExists (path : Path) : Looks (pathExists path) :=
  .look _

theorem looks_isDirectory (path : Path) : Looks (isDirectory path) :=
  .look _

theorem looks_isFile (path : Path) : Looks (isFile path) :=
  .look _

theorem looks_readBytes? (path : Path) : Looks (readBytes? path) :=
  .look _

theorem looks_readText? (path : Path) : Looks (readText? path) := by
  refine .bind (looks_readBytes? path) fun bytes => ?_
  cases bytes with
  | error cause => exact .pure _
  | ok bytes =>
    dsimp only
    split <;> exact .pure _

/-- Reading a file only looks. -/
theorem looks_readText (path : Path) : Looks (readText path) :=
  .bind (looks_readText? path) fun _ => .ofIo _

/-- Bytes that are read as a text are its encoding. -/
theorem eq_toBytes_of_ofBytes? {bytes : ByteArray} {text : String}
    (h : Text.ofBytes? bytes = some text) : bytes = Text.toBytes text := by
  unfold Text.ofBytes? String.fromUTF8? at h
  split at h
  · rw [← Option.some.inj h]
    rfl
  · exact absurd h (by simp)

/-- Texts with the same encoding are the same. -/
theorem eq_of_toBytes_eq {text other : String} (h : Text.toBytes text = Text.toBytes other) :
    text = other := by
  have htexts := congrArg Text.ofBytes? h
  rwa [Text.ofBytes_toBytes, Text.ofBytes_toBytes, Option.some.injEq] at htexts

/-- A text is read from a file exactly if the file holds its encoding. -/
theorem readText_eq_ok {machine : Machine} {host after : Host} {path : Path} {text : String} :
    (readText path).on machine host = (.ok text, after) ↔
      host.files.read machine.workingDirectory path = .ok (Text.toBytes text) ∧ after = host := by
  unfold readText readText? readBytes?
  rw [bind_assoc, on_bind_of_ok _ (on_look _)]
  cases host.files.read machine.workingDirectory path with
  | error cause => simp
  | ok bytes =>
    dsimp only
    cases htext : Text.ofBytes? bytes with
    | none =>
      have hnot : bytes ≠ Text.toBytes text := by
        rintro rfl
        rw [Text.ofBytes_toBytes] at htext
        exact absurd htext (by simp)
      simp [hnot]
    | some found =>
      rw [eq_toBytes_of_ofBytes? htext]
      have hsame : found = text ↔ Text.toBytes found = Text.toBytes text :=
        ⟨fun h => by rw [h], eq_of_toBytes_eq⟩
      simp only [pure_bind, on_ofIo, mapError_ok, Prod.mk.injEq, Except.ok.injEq]
      rw [hsame, eq_comm (a := host)]

end Action

end DumpReplay
