import DumpReplay.Proofs.Dump.Summarizing
import DumpReplay.Proofs.Replay.Returning

/-!
# Names of scratch directories

The system draws a new name for every scratch directory.  A section shows that name only if it fails
because the directory cannot be made, or because nothing was extracted into it.

Main results:

- `FailsAlike.eq`, `Section.Alike.eq` : in the same scratch directory alike sections are the same.
- `sectionIn_alike_of_same` : a section is alike in the same scratch directory, whatever was made
  before.
- `sectionIn_alike` : in another new scratch directory a section is the same but for the failures that
  name it.
-/

namespace DumpReplay

open DumpReplay.Action

/-! ## Names that are drawn -/

/-- The codes of letters and digits lie between those of `0` and `z`. -/
theorem toNat_of_isAlphanum {c : Char} (h : c.isAlphanum = true) : 48 ≤ c.toNat ∧ c.toNat ≤ 122 := by
  unfold Char.isAlphanum Char.isAlpha Char.isUpper Char.isLower Char.isDigit at h
  simp only [Bool.or_eq_true, Bool.and_eq_true, decide_eq_true_eq, UInt32.le_iff_toNat_le,
    ge_iff_le] at h
  have hnat : c.toNat = c.val.toNat := rfl
  have hfirst : '0'.val.toNat = 48 := rfl
  have hdigit : '9'.val.toNat = 57 := rfl
  have hupper : 'A'.val.toNat = 65 := rfl
  have hupper' : 'Z'.val.toNat = 90 := rfl
  have hlower : 'a'.val.toNat = 97 := rfl
  have hlower' : 'z'.val.toNat = 122 := rfl
  omega

theorem utf8Size_of_isAlphanum {c : Char} (h : c.isAlphanum = true) : c.utf8Size = 1 := by
  obtain ⟨_, hlast⟩ := toNat_of_isAlphanum h
  rw [Char.utf8Size, if_pos]
  rw [UInt32.le_iff_toNat_le]
  exact Nat.le_trans hlast (by decide)

/-- Letters and digits need no escape. -/
theorem escapeCharacter_of_isAlphanum {c : Char} (h : c.isAlphanum = true) :
    Text.escapeCharacter c = [c] := by
  have hne : ∀ other : Char, other.isAlphanum = false → c ≠ other := by
    rintro _ hother rfl
    rw [h] at hother
    exact absurd hother (by simp)
  obtain ⟨hfirst, hlast⟩ := toNat_of_isAlphanum h
  have hranges : ∀ range ∈ Text.combiningRanges ++ Text.unprintableRanges,
      range.2 < 48 ∨ 122 < range.1 := by
    decide +kernel
  have hout : ∀ ranges : List (Nat × Nat), ranges ⊆ Text.combiningRanges ++ Text.unprintableRanges →
      Text.inRanges ranges c = false := by
    intro ranges hsubset
    rw [← Bool.not_eq_true, Text.inRanges_iff]
    rintro ⟨range, hmem, hlow, hhigh⟩
    rcases hranges range (hsubset hmem) with hbelow | habove <;> omega
  have hquotes : (c = '\\' || c = '\x22' || c = '\x27') = false := by
    simp [hne '\\' (by decide), hne '\x22' (by decide), hne '\x27' (by decide)]
  rw [Text.escapeCharacter, if_neg (hne _ (by decide)), if_neg (hne _ (by decide)),
    if_neg (hne _ (by decide)), if_neg (hne _ (by decide)), hquotes,
    hout _ (List.subset_append_left _ _), hout _ (List.subset_append_right _ _)]
  rfl

/-- The name of a scratch directory as the system draws it: six letters or digits. -/
structure IsDrawn (name : String) : Prop where
  length : name.toList.length = 6
  alphanumeric : ∀ c ∈ name.toList, c.isAlphanum = true

namespace IsDrawn

variable {name : String} (h : IsDrawn name)
include h

theorem utf8ByteSize_eq : name.utf8ByteSize = 6 := by
  have hsize : ∀ characters : List Char, (∀ c ∈ characters, c.isAlphanum = true) →
      (String.ofList characters).utf8ByteSize = characters.length := by
    intro characters hall
    induction characters with
    | nil => rfl
    | cons c rest ih =>
      obtain ⟨hc, hrest⟩ := List.forall_mem_cons.mp hall
      rw [String.ofList_cons, String.utf8ByteSize_append, String.utf8ByteSize_singleton, ih hrest,
        utf8Size_of_isAlphanum hc, List.length_cons, Nat.add_comm]
  have hname := hsize name.toList h.alphanumeric
  rwa [String.ofList_toList, h.length] at hname

theorem isName : Path.IsName ("compiledump" ++ name) :=
  Path.isName_scratch fun hslash => absurd (h.alphanumeric _ hslash) (by decide)

theorem not_nul : '\x00' ∉ ("compiledump" ++ name).toList := by
  rw [String.toList_append, List.mem_append]
  rintro (hfront | hend)
  · exact absurd hfront (by decide)
  · exact absurd (h.alphanumeric _ hend) (by decide)

theorem escape_eq : name.toList.flatMap Text.escapeCharacter = name.toList := by
  have hescape : ∀ characters : List Char, (∀ c ∈ characters, c.isAlphanum = true) →
      characters.flatMap Text.escapeCharacter = characters := by
    intro characters hall
    induction characters with
    | nil => rfl
    | cons c rest ih =>
      obtain ⟨hc, hrest⟩ := List.forall_mem_cons.mp hall
      rw [List.flatMap_cons, escapeCharacter_of_isAlphanum hc, ih hrest, List.singleton_append]
  exact hescape _ h.alphanumeric

end IsDrawn

namespace Dump

variable {machine machine' : Machine} {files files' : FileTree} {count count' : Nat} {path : Path}

/-- The scratch directory for a path is new: its name is drawn, nothing stands at its place, and the
path does not lead there. -/
structure NewScratch (machine : Machine) (files : FileTree) (count : Nat) (path : Path) : Prop where
  drawn : IsDrawn (machine.scratchName count)
  free : files.get? ((scratchPath machine count).location machine.workingDirectory) = none
  apart : ∀ location, path.Way machine.workingDirectory location →
    ¬(scratchPath machine count).location machine.workingDirectory <+: location

/-- Neither a path nor a file of the dump there leads into a new scratch directory. -/
theorem NewScratch.apart_part (h : NewScratch machine files count path) {part : String}
    (hpart : IsPart part) {location : Location}
    (hway : (path.child part).Way machine.workingDirectory location) :
    ¬(scratchPath machine count).location machine.workingDirectory <+: location := by
  rcases Path.way_child hpart.isName hway with hbefore | hsame
  · exact h.apart location hbefore
  · rw [hsame, Path.location_child hpart.isName]
    intro hinside
    rcases List.prefix_concat_iff.mp hinside with hequal | habove
    · rw [scratchPath, Path.location_child h.drawn.isName] at hequal
      exact hpart.ne_scratch _ (List.append_singleton_inj.mp hequal).2.symm
    · exact h.apart _ (path.way_location _) habove

/-! ## Sections in two scratch directories -/

/-- Two sections are alike: as much was written for both, and they stopped for the same reason, but for
the scratch directory that the failure names. -/
structure Section.Alike (work work' : Path) (shown shown' : Section) : Prop where
  wrote : shown'.wrote = shown.wrote
  failure : Option.Rel (FailsAlike work work') shown.failure shown'.failure

/-- A section names its scratch directory if it stopped with such a failure. -/
def Section.NamesScratch (shown : Section) : Prop :=
  ∃ failure, shown.failure = some failure ∧ failure.NamesScratch

/-- In the same scratch directory alike sections are the same. -/
theorem Section.Alike.eq {work : Path} {shown shown' : Section}
    (h : Section.Alike work work shown shown') : shown' = shown := by
  obtain ⟨wrote, failure⟩ := shown
  obtain ⟨wrote', failure'⟩ := shown'
  obtain ⟨hwrote, hfailure⟩ := h
  obtain rfl : wrote' = wrote := hwrote
  cases hfailure with
  | none => rfl
  | some hfails => rw [hfails.eq]

/-- Runs that end alike have alike failures, or none. -/
theorem rel_failureOf {α β : Type} {values : α → β → Prop} {failures : Failure → Failure → Prop}
    {outcome : Except Failure α} {outcome' : Except Failure β}
    (h : EndAlike values failures outcome outcome') :
    Option.Rel failures (failureOf outcome) (failureOf outcome') := by
  cases h with
  | ok => exact .none
  | error hfailure => exact .some hfailure

/-- Alike runs give alike sections. -/
theorem ShownAlike.sectionIn {work work' : Path}
    (h : ShownAlike work work' (freshHost files count) (freshHost files' count')
      ((summarizePath path printLine).on machine (freshHost files count))
      ((summarizePath path printLine).on machine' (freshHost files' count'))) :
    Section.Alike work work' (sectionIn machine files count path)
      (sectionIn machine' files' count' path) := by
  obtain ⟨text, hprinted, hprinted'⟩ := h.printed
  have hfailure := rel_failureOf h.outcome
  unfold Dump.sectionIn
  refine ⟨?_, ?_⟩
  · dsimp only
    rw [hprinted, hprinted']
    rfl
  · dsimp only
    exact hfailure

/-- In the same scratch directory a section is alike in any files that are the same where it is about
them. -/
theorem sectionIn_alike_of_same (hwork : machine'.workingDirectory = machine.workingDirectory)
    (hnamed : ∀ name ∈ machine.workingDirectory, Path.IsName name) (hrooted : files.Rooted)
    (hrooted' : files'.Rooted) (hscratch : scratchPath machine' count' = scratchPath machine count)
    (hsame : ∀ location, Concerns machine.workingDirectory (scratchPath machine count) path location →
      files'.get? location = files.get? location) :
    Section.Alike (scratchPath machine count) (scratchPath machine count)
      (sectionIn machine files count path) (sectionIn machine' files' count' path) := by
  have hsound : (freshHost files count).Sound machine := ⟨hrooted, hnamed⟩
  have hsound' : (freshHost files' count').Sound machine' := ⟨hrooted', hwork ▸ hnamed⟩
  exact (summarizePath_same path hwork hsound hsound' hscratch hsame).sectionIn

/-! ## New scratch directories -/

section

variable (henvironment : machine'.environment = machine.environment)
variable (hnew : NewScratch machine files count path) (hnew' : NewScratch machine' files count' path)
include henvironment

/-- Scratch directories are made in the same directory where the environment is the same. -/
theorem scratchPath_eq_child (count' : Nat) :
    scratchPath machine' count' =
      (scratchParent machine).child ("compiledump" ++ machine'.scratchName count') := by
  rw [scratchPath, scratchParent, scratchParent, Machine.valueOf?, Machine.valueOf?, henvironment]

include hnew hnew'

omit henvironment in
theorem utf8ByteSize_scratchName :
    ("compiledump" ++ machine'.scratchName count').utf8ByteSize =
      ("compiledump" ++ machine.scratchName count).utf8ByteSize := by
  rw [String.utf8ByteSize_append, String.utf8ByteSize_append, hnew.drawn.utf8ByteSize_eq,
    hnew'.drawn.utf8ByteSize_eq]

omit henvironment in
theorem nul_mem_scratchName_iff :
    '\x00' ∈ ("compiledump" ++ machine'.scratchName count').toList ↔
      '\x00' ∈ ("compiledump" ++ machine.scratchName count).toList :=
  iff_of_false hnew'.drawn.not_nul hnew.drawn.not_nul

/-- New scratch directories have the same room. -/
theorem sameRoom_scratch : (scratchPath machine count).SameRoom (scratchPath machine' count') := by
  rw [scratchPath_eq_child henvironment, scratchPath]
  exact (Path.SameRoom.refl _).child hnew.drawn.isName hnew'.drawn.isName
    (utf8ByteSize_scratchName hnew hnew') (nul_mem_scratchName_iff hnew hnew')

variable (hwork : machine'.workingDirectory = machine.workingDirectory)
include hwork

/-- Both of two new scratch directories can be made, or neither. -/
theorem madeAlike_scratch (hnamed : ∀ name ∈ machine.workingDirectory, Path.IsName name) :
    MadeAlike files files machine.workingDirectory (scratchPath machine count)
      (scratchPath machine' count') := by
  have hfree := hnew.free
  have hfree' := hnew'.free
  rw [hwork, scratchPath_eq_child henvironment] at hfree'
  rw [scratchPath_eq_child henvironment, scratchPath]
  exact madeAlike_of_new hnew.drawn.isName hnew'.drawn.isName (utf8ByteSize_scratchName hnew hnew')
    (nul_mem_scratchName_iff hnew hnew') hnamed hfree hfree'

omit henvironment in
/-- A path is seen alike with either of two new scratch directories. -/
theorem seenAlike_scratch :
    SeenAlike machine.workingDirectory (FileTree.Twins machine.workingDirectory
      (scratchPath machine count) (scratchPath machine' count') files files) path := by
  have hapart := hnew'.apart
  have hpart' : ∀ part, IsPart part → ∀ location,
      (path.child part).Way machine'.workingDirectory location →
        ¬(scratchPath machine' count').location machine'.workingDirectory <+: location :=
    fun part hpart location hway => hnew'.apart_part hpart hway
  rw [hwork] at hapart hpart'
  exact ⟨fun _ _ htwins => htwins.status_eq_of_apart hnew.apart hapart,
    fun _ _ htwins part hpart => htwins.status_eq_of_apart
      (fun location hway => hnew.apart_part hpart hway) (hpart' part hpart)⟩

/-- In another new scratch directory a section is the same but for the failures that name it. -/
theorem sectionIn_alike (hnamed : ∀ name ∈ machine.workingDirectory, Path.IsName name)
    (hrooted : files.Rooted) :
    Section.Alike (scratchPath machine count) (scratchPath machine' count')
      (sectionIn machine files count path) (sectionIn machine' files count' path) := by
  have hsound : (freshHost files count).Sound machine := ⟨hrooted, hnamed⟩
  have hsound' : (freshHost files count').Sound machine' := ⟨hrooted, hwork ▸ hnamed⟩
  have hshown := summarizePath_alike path hwork hsound hsound'
    (sameRoom_scratch henvironment hnew hnew') (madeAlike_scratch henvironment hnew hnew' hwork hnamed)
    (seenAlike_scratch hnew hnew' hwork)
  exact hshown.sectionIn

end

end Dump

end DumpReplay
