import DumpReplay.Proofs.Action.Changing
import DumpReplay.Proofs.Files.Paving
import DumpReplay.Proofs.Replay.Looking

/-!
# Where a dump stands

A dump stands in its directory, under the names of its artifacts and features.  A replay writes files
of its own into the work directory, and none of those has such a name.  So as long as processes spare
the dump, what the dump holds stays.

Main results:

- `featureName_injective` : every feature has a name of its own.
- `get?_part` : what a dump holds stays, whatever a replay writes for itself.
- `has_eq` : whether a dump has a file is told by what stands there.
-/

namespace DumpReplay

/-! ## Names -/

theorem Artifact.isName_fileName (artifact : Artifact) : Path.IsName artifact.fileName := by
  cases artifact <;> exact ⟨by decide, by decide, by decide, by decide⟩

/-- What stands in front of the ending in the name of a feature. -/
def featureStem (index : Nat) : List Char :=
  "feature-".toList ++ Nat.toDigits 10 index

theorem featureStem_injective : Function.Injective featureStem := by
  intro first second h
  unfold featureStem at h
  rw [List.append_right_inj] at h
  rw [← Nat.ofDigitChars_ten_toDigits (n := first), h, Nat.ofDigitChars_ten_toDigits]

/-- Behind its fixed beginning, the name of a feature has nothing but digits in front of the ending. -/
theorem not_mem_featureStem {c : Char} (hfront : c ∉ "feature-".toList) (hdigit : c.isDigit = false)
    (index : Nat) : c ∉ featureStem index := by
  unfold featureStem
  rw [List.mem_append]
  rintro (hmem | hmem)
  · exact hfront hmem
  · rw [Nat.isDigit_of_mem_toDigits (by decide) (by decide) hmem] at hdigit
    exact absurd hdigit (by simp)

theorem toList_featureName (index : Nat) :
    (featureName index).toList = featureStem index ++ ".jar".toList := by
  unfold featureStem
  rw [featureName, String.toList_append, String.toList_append, Nat.toString_eq_repr, Nat.toList_repr]

/-- A text that starts like the name of a feature, and has no separators behind that, names something. -/
theorem isName_of_featureStem {name : String} {index : Nat} {ending : List Char}
    (hname : name.toList = featureStem index ++ ending) (hending : '/' ∉ ending) : Path.IsName name := by
  refine .of_head (by rw [hname]; rfl : name.toList.head? = some 'f') (by decide) ?_
  rw [hname, List.mem_append]
  rintro (hstem | hmem)
  · exact not_mem_featureStem (by decide) (by decide) index hstem
  · exact hending hmem

theorem head?_featureName (index : Nat) : (featureName index).toList.head? = some 'f' := by
  rw [toList_featureName]
  rfl

/-- Every feature has a name of its own. -/
theorem featureName_injective : Function.Injective featureName := by
  intro first second h
  have hlist := congrArg String.toList h
  rw [toList_featureName, toList_featureName, List.append_left_inj] at hlist
  exact featureStem_injective hlist

theorem isName_featureName (index : Nat) : Path.IsName (featureName index) :=
  isName_of_featureStem (toList_featureName index) (by decide)

namespace Dump

/-- Whether a text is the name of a file that a dump can hold. -/
def IsPart (name : String) : Prop :=
  (∃ artifact : Artifact, name = artifact.fileName) ∨ ∃ index, name = featureName index

variable {name : String}

theorem isPart_fileName (artifact : Artifact) : IsPart artifact.fileName :=
  .inl ⟨artifact, rfl⟩

theorem isPart_featureName (index : Nat) : IsPart (featureName index) :=
  .inr ⟨index, rfl⟩

theorem IsPart.isName (h : IsPart name) : Path.IsName name := by
  rcases h with ⟨artifact, rfl⟩ | ⟨index, rfl⟩
  · exact artifact.isName_fileName
  · exact isName_featureName index

/-- The names of the files that a replay writes into the work directory for itself. -/
def ownNames : List String :=
  [Store.plainJar, "stacktrace", "mapping.map"]

theorem isName_of_mem_ownNames (h : name ∈ ownNames) : Path.IsName name := by
  simp only [ownNames, List.mem_cons, List.not_mem_nil, or_false] at h
  rcases h with rfl | rfl | rfl <;> exact ⟨by decide, by decide, by decide, by decide⟩

theorem head?_of_mem_ownNames : ∀ name ∈ ownNames, name.toList.head? ≠ some 'f' := by
  decide

/-- A dump holds no file under a name of those. -/
theorem IsPart.not_mem_ownNames (h : IsPart name) : name ∉ ownNames := by
  rcases h with ⟨artifact, rfl⟩ | ⟨index, rfl⟩
  · cases artifact <;> decide
  · exact fun hmem => head?_of_mem_ownNames _ hmem (head?_featureName index)

/-! ## Places -/

/-- The places that a dump takes: those of the files that it can hold, and those of the directories
on the way to its own. -/
def Site (here : Location) (dump : Dump) (location : Location) : Prop :=
  (∃ passed, dump.directory.Way here passed ∧ location <+: passed) ∨
    ∃ name, IsPart name ∧ location = dump.directory.location here ++ [name]

/-- The places of the files that a replay writes into the work directory for itself. -/
def Own (here : Location) (work : Path) (location : Location) : Prop :=
  ∃ name ∈ ownNames, location = work.location here ++ [name]

variable {here location above : Location} {dump : Dump} {work : Path} {machine : Machine}
variable {made written : Location → Prop} {before after : FileTree}

theorem own_child (here : Location) (work : Path) (h : name ∈ ownNames) :
    Own here work ((work.child name).location here) :=
  ⟨name, h, Path.location_child (isName_of_mem_ownNames h) here work⟩

theorem Own.under (h : Own here work location) : work.Under here location := by
  obtain ⟨name, _, rfl⟩ := h
  exact ⟨List.prefix_append _ _, fun hsame => absurd (List.append_right_eq_self.mp hsame) (by simp)⟩

/-- No file that a dump holds is one that a replay writes for itself. -/
theorem not_own_part (h : IsPart name) : ¬Own here work (dump.directory.location here ++ [name]) := by
  rintro ⟨own, hown, hsame⟩
  rw [(List.append_singleton_inj.mp hsame).2] at h
  exact h.not_mem_ownNames hown

/-- What is above a file that a dump holds is a place that the dump takes. -/
theorem site_of_above (h : IsPart name) (habove : above <+: dump.directory.location here ++ [name]) :
    dump.Site here above := by
  rcases List.prefix_concat_iff.mp habove with hsame | hdirectory
  · exact .inr ⟨name, h, hsame⟩
  · exact .inl ⟨_, dump.directory.way_location here, hdirectory⟩

/-- The way to the directory of a dump stays paved, as long as processes spare the dump. -/
theorem paved_of_changed (h : Changed machine made written before after)
    (hspares : machine.Spares (dump.Site here)) (hpaved : before.Paved here dump.directory) :
    after.Paved here dump.directory :=
  h.paved hspares (fun passed hpassed _ habove => .inl ⟨passed, hpassed, habove⟩) hpaved

/-- What a dump holds stays as long as processes spare the dump, whatever a replay writes for
itself. -/
theorem get?_part (h : Changed machine (fun _ => False) (Own here work) before after)
    (hspares : machine.Spares (dump.Site here)) (hpaved : before.Paved here dump.directory)
    (hpart : IsPart name) :
    after.get? (dump.directory.location here ++ [name]) =
      before.get? (dump.directory.location here ++ [name]) := by
  refine h.get?_eq hspares (fun above habove => site_of_above hpart habove) ?_ False.elim
    (not_own_part hpart)
  rw [List.dropLast_concat]
  exact hpaved.isOpen_location

/-- Whether a path in the directory of a dump leads to something is told by what stands there. -/
theorem has_eq (hbefore : before.Paved here dump.directory) (hafter : after.Paved here dump.directory)
    (hname : Path.IsName name)
    (h : (after.get? (dump.directory.location here ++ [name])).isSome =
      (before.get? (dump.directory.location here ++ [name])).isSome) :
    after.has here (dump.directory.child name) = before.has here (dump.directory.child name) := by
  rw [Bool.eq_iff_iff, hafter.has_child hname, hbefore.has_child hname, Path.location_child hname, h]

end Dump

end DumpReplay
