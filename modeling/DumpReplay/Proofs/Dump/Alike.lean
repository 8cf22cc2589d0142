import DumpReplay.Proofs.Action.Agreeing
import DumpReplay.Proofs.Dump.Features
import DumpReplay.Proofs.Replay.Changing

/-!
# Dumps that look alike

A dump looks alike in two trees if the same stands there under each of its names, but for the content
of the keep rules.  Everything that a replay decides by looking at the dump is then decided alike.

Main results:

- `kept_of_changed` : a dump is kept as long as processes spare it, whatever a replay writes for itself.
- `Alike.found_eq`, `Alike.featuresIn_eq` : the same artifacts and features are found.
- `Alike.agrees_decideFor` : the same values of a replay are decided.
-/

namespace DumpReplay

open DumpReplay.Action

namespace Dump

variable {dump : Dump} {here : Location} {work : Path} {machine : Machine}
variable {before middle after : FileTree} {name : String}

/-! ## Places -/

/-- The place of a file that a dump can hold. -/
abbrev place (here : Location) (dump : Dump) (name : String) : Location :=
  dump.directory.location here ++ [name]

/-- A dump is kept: the same stands there under each of its names. -/
structure Kept (here : Location) (dump : Dump) (before after : FileTree) : Prop where
  paved : before.Paved here dump.directory
  still : after.Paved here dump.directory
  part : ∀ name, IsPart name → after.get? (dump.place here name) = before.get? (dump.place here name)

/-- A dump looks alike: the same stands there under each of its names, but for what the keep rules
are. -/
structure Alike (here : Location) (dump : Dump) (before after : FileTree) : Prop where
  paved : before.Paved here dump.directory
  still : after.Paved here dump.directory
  part : ∀ name, IsPart name → name ≠ Artifact.fileName .rules →
    after.get? (dump.place here name) = before.get? (dump.place here name)
  rules : (after.get? (dump.place here (Artifact.fileName .rules))).isSome =
    (before.get? (dump.place here (Artifact.fileName .rules))).isSome

namespace Kept

theorem refl (h : before.Paved here dump.directory) : Kept here dump before before :=
  ⟨h, h, fun _ _ => rfl⟩

theorem trans (first : Kept here dump before middle) (second : Kept here dump middle after) :
    Kept here dump before after :=
  ⟨first.paved, second.still, fun name hname => (second.part name hname).trans (first.part name hname)⟩

/-- A dump that is kept looks alike. -/
theorem alike (h : Kept here dump before after) : Alike here dump before after := by
  refine ⟨h.paved, h.still, fun name hname _ => h.part name hname, ?_⟩
  rw [h.part _ (isPart_fileName .rules)]

/-- A file of a dump that is kept keeps its content. -/
theorem read_iff (h : Kept here dump before after) (artifact : Artifact) {bytes : ByteArray} :
    after.read here (dump.path artifact) = .ok bytes ↔
      before.read here (dump.path artifact) = .ok bytes := by
  have hsame : FileTree.OnlyMade (fun _ => False) before after
      ((dump.directory.child artifact.fileName).location here) := .inl ?_
  · exact h.paved.read_iff_of_onlyMade h.still artifact.isName_fileName hsame
  rw [Path.location_child artifact.isName_fileName]
  exact h.part _ (isPart_fileName artifact)

end Kept

/-- A dump is kept as long as processes spare it, whatever a replay writes for itself. -/
theorem kept_of_changed (h : Changed machine (fun _ => False) (Own here work) before after)
    (hspares : machine.Spares (dump.Site here)) (hpaved : before.Paved here dump.directory) :
    Kept here dump before after :=
  ⟨hpaved, paved_of_changed h hspares hpaved, fun _ hpart => get?_part h hspares hpaved hpart⟩

namespace Alike

theorem trans (first : Alike here dump before middle) (second : Alike here dump middle after) :
    Alike here dump before after :=
  ⟨first.paved, second.still,
    fun name hname hrules => (second.part name hname hrules).trans (first.part name hname hrules),
    second.rules.trans first.rules⟩

/-! ## What is found -/

theorem isSome_eq (h : Alike here dump before after) (hname : IsPart name) :
    (after.get? (dump.place here name)).isSome = (before.get? (dump.place here name)).isSome := by
  by_cases hrules : name = Artifact.fileName .rules
  · rw [hrules, h.rules]
  · rw [h.part name hname hrules]

theorem has_eq (h : Alike here dump before after) (hname : IsPart name) :
    after.has here (dump.directory.child name) = before.has here (dump.directory.child name) :=
  Dump.has_eq h.paved h.still hname.isName (h.isSome_eq hname)

/-- The same artifacts are found. -/
theorem found_eq (h : Alike here dump before after) (artifact : Artifact) :
    dump.found after here artifact = dump.found before here artifact := by
  unfold found path
  rw [h.has_eq (isPart_fileName artifact)]

/-- The same features are found. -/
theorem featuresIn_eq (h : Alike here dump before after) :
    dump.featuresIn after here = dump.featuresIn before here := by
  obtain ⟨indices, hbefore, hafter⟩ :=
    exists_featuresIn_eq fun index => h.has_eq (isPart_featureName index)
  rw [hafter, hbefore]

end Alike

/-! ## What is read -/

variable {options : Replay.Options}

/-- Looking for an artifact agrees. -/
theorem agrees_find (dump : Dump) (artifact : Artifact) :
    Agrees machine (Alike machine.workingDirectory dump) Eq (dump.find artifact)
      (dump.find artifact) := by
  intro first second behind after one other halike hone hother
  rw [on_find] at hone hother
  rw [← Except.ok.inj (Prod.mk.inj hone).1, ← Except.ok.inj (Prod.mk.inj hother).1,
    halike.found_eq]

theorem agrees_has (dump : Dump) (artifact : Artifact) :
    Agrees machine (Alike machine.workingDirectory dump) Eq (dump.has artifact) (dump.has artifact) := by
  unfold has pathExists
  exact .look fun _ _ halike => (halike.has_eq (isPart_fileName artifact)).symm

/-- Reading an artifact other than the keep rules agrees. -/
theorem agrees_readText (dump : Dump) {artifact : Artifact}
    (h : artifact.fileName ≠ Artifact.fileName .rules) :
    Agrees machine (Alike machine.workingDirectory dump) Eq (readText (dump.path artifact))
      (readText (dump.path artifact)) := by
  intro first second behind after one other halike hone hother
  obtain ⟨hone, _⟩ := readText_eq_ok.mp hone
  obtain ⟨hother, _⟩ := readText_eq_ok.mp hother
  have hsame : FileTree.OnlyMade (fun _ => False) first.files second.files
      ((dump.directory.child artifact.fileName).location machine.workingDirectory) := by
    left
    rw [Path.location_child artifact.isName_fileName]
    exact halike.part _ (isPart_fileName artifact) h
  rw [path, halike.paved.read_iff_of_onlyMade halike.still artifact.isName_fileName hsame] at hother
  exact eq_of_toBytes_eq (Except.ok.inj (hone.symm.trans hother))

end Dump

namespace Replay

variable {dump : Dump} {machine : Machine} {options : Options} {work other : Path}

/-! ## What is decided -/

theorem agrees_propertiesOf (dump : Dump) :
    Agrees machine (dump.Alike machine.workingDirectory) Eq (propertiesOf dump)
      (propertiesOf dump) := by
  refine .bind_of_gives (dump.looks_find _) (dump.agrees_find _) (dump.gives_find _) fun found hfound => ?_
  cases found with
  | none => exact .pure rfl
  | some file =>
    rw [hfound file rfl]
    refine .bind (looks_readText _) (dump.agrees_readText (by decide)) fun content => ?_
    refine .bind (.forIn (fun _ _ => .bind (looks_warn _) fun _ => .pure _) _ _) ?_ fun _ => .pure rfl
    exact .unit _ _

theorem agrees_version (dump : Dump) :
    Agrees machine (dump.Alike machine.workingDirectory) Eq dump.version dump.version := by
  refine .bind_of_gives (dump.looks_find _) (dump.agrees_find _) (dump.gives_find _) fun found hfound => ?_
  cases found with
  | none => exact .pure rfl
  | some file =>
    rw [hfound file rfl]
    exact .bind (looks_readText _) (dump.agrees_readText (by decide)) fun _ => .pure rfl

theorem agrees_versionOf (requested : Option String) (dump : Dump) :
    Agrees machine (dump.Alike machine.workingDirectory) Eq (versionOf requested dump)
      (versionOf requested dump) := by
  cases requested with
  | none => exact .bind dump.looks_version (agrees_version dump) fun _ => .pure rfl
  | some token => exact .pure rfl

/-- The values of a replay in another work directory: only the output is elsewhere. -/
def Staged.movedTo (staged : Staged) (work : Path) : Staged :=
  { staged with invocation := { staged.invocation with output := Invocation.outputIn work } }

/-- The same values of a replay are decided for a dump that looks alike, but for the output in another
work directory. -/
theorem agrees_decideFor (options : Options) (work other : Path) (dump : Dump) :
    Agrees machine (dump.Alike machine.workingDirectory)
      (fun staged staged' => staged' = staged.movedTo other) (decideFor options work dump)
      (decideFor options other dump) := by
  refine .bind (dump.looks_has .program) (dump.agrees_has .program) fun _ =>
    .ite (.bind (.fail _) (.fail _ _) fun _ => ?_) ?_
  all_goals
    refine .bind (dump.looks_has .library) (dump.agrees_has .library) fun _ =>
      .ite (.bind (looks_warn _) (.unit _ _) fun _ => ?_) ?_
  all_goals
    refine .bind dump.looks_warnUnsupported (.unit _ _) fun _ => ?_
    refine .bind (looks_propertiesOf dump) (agrees_propertiesOf dump) fun properties => ?_
    refine .bind (looks_versionOf _ dump) (agrees_versionOf _ dump) fun version => ?_
    unfold Invocation.resolve
    cases Compiler.resolve options.invocationRequest.compiler properties with
    | error failure => exact .fail failure _
    | ok compiler => exact .pure rfl

end Replay

end DumpReplay
