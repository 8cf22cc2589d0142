import DumpReplay.CommandLine.Dispatch
import DumpReplay.Proofs.Action.Changing
import DumpReplay.Proofs.Replay.Processes

/-!
# The layers of the toolchain

The places of a toolchain come from the usual ones, from the settings, and from the command line, each
in place of the one before.  The address of the store is checked where the settings are read, and not
again when the command line replaces it.

Main results:

- `usable_of_ofSettings` : settings that can be read give an address that can be used.
- `gives_load` : so does every way to find the settings.
- `store_usable_iff` : the address of a toolchain can be used unless the command line gives a blank one.
-/

namespace DumpReplay

open DumpReplay.Action

namespace Toolchain

variable {tools : Toolchain} {home : Option String}

/-- An address can be used if there is something in it that is not blank. -/
def Usable (address : String) : Prop :=
  ∃ c ∈ address.toList, Text.isBlank c = false

/-- Nothing is left of a text that is trimmed exactly if it cannot be used as an address. -/
theorem isEmpty_trim_eq_false_iff {address : String} :
    (Text.trim address.toList).isEmpty = false ↔ Usable address := by
  rw [← Bool.not_eq_true, List.isEmpty_iff, Text.trim_eq_nil_iff, Bool.not_eq_true, List.all_eq_false]
  simp only [Usable, Bool.not_eq_true]

/-- The address of the public store can be used. -/
theorem usable_default : Usable default.store :=
  ⟨'h', by decide, by decide⟩

/-- The entries of settings are refused if they give an address that cannot be used. -/
theorem usable_of_ofEntries {entries : Entries} (h : ofEntries home entries = .ok tools) :
    Usable tools.store := by
  unfold ofEntries at h
  dsimp only at h
  split at h
  · exact absurd h (by simp)
  · rename_i hblank
    rw [← Except.ok.inj h]
    exact isEmpty_trim_eq_false_iff.mp (Bool.eq_false_iff.mpr hblank)

/-- Settings that can be read give an address that can be used. -/
theorem usable_of_ofSettings {environment : List (String × String)} {content : String}
    (h : ofSettings environment home content = .ok tools) : Usable tools.store := by
  unfold ofSettings at h
  split at h
  · exact absurd h (by simp)
  · split at h
    · exact absurd h (by simp)
    · exact usable_of_ofEntries h

variable {machine : Machine}

theorem gives_readSettings (file : Path) :
    Gives machine (fun tools => Usable tools.store) (readSettings file) := by
  refine .bind (.trivial _) fun machine _ => .bind (.trivial _) fun content _ => ?_
  cases content with
  | error cause => exact .fail _
  | ok content =>
    intro host after tools hrun
    rw [on_ofExcept] at hrun
    exact usable_of_ofSettings (Prod.mk.inj hrun).1

/-- Whichever settings are found, and also without any, the address can be used. -/
theorem gives_load (explicit : Option Path) :
    Gives machine (fun tools => Usable tools.store) (load explicit) := by
  cases explicit with
  | some file => exact .bind (.trivial _) fun _ _ => gives_readSettings file
  | none =>
    refine .bind (.trivial _) fun machine _ => ?_
    split
    · refine .bind (.trivial _) fun found _ => .ite ?_ (.pure usable_default)
      exact .bind (.trivial _) fun _ _ => gives_readSettings _
    · exact .pure usable_default

end Toolchain

namespace CommandLine

open Toolchain (Usable)

variable {line : CommandLine} {machine : Machine} {host after : Host} {tools : Toolchain}

/-- The address of the store is the one that the command line gives, else that of the settings, which can
be used.  So it can be used exactly if the command line gives none or one that can be used: that one is not
checked. -/
theorem store_usable_iff (h : line.toolchain.on machine host = (.ok tools, after)) :
    (Usable tools.store ↔ ∀ address, line.storageUrl = some address → Usable address) ∧
      ∃ settings, (Toolchain.load line.config).on machine host = (.ok settings, after) ∧
        Usable settings.store ∧ tools.store = line.storageUrl.getD settings.store := by
  obtain ⟨settings, loaded, hload, hpure⟩ := on_bind_eq_ok.mp h
  obtain ⟨htools, rfl⟩ := Prod.mk.inj hpure
  have hsettings := Toolchain.gives_load line.config _ _ _ hload
  have hstore : tools.store = line.storageUrl.getD settings.store := by
    rw [← Except.ok.inj htools]
    rfl
  refine ⟨?_, settings, hload, hsettings, hstore⟩
  rw [hstore]
  cases line.storageUrl with
  | none => simpa using hsettings
  | some address => simp

/-- A blank address is accepted on the command line, and is the one that is worked with. -/
theorem store_usable_iff_blankFlag :
    ∃ line tools after, parseKnown [] ["compiledump", "--storage-url", ""] = .ok line ∧
      line.toolchain.on Replay.sampleMachine Replay.sampleHost = (.ok tools, after) ∧
      tools.store = "" ∧ ¬Usable tools.store := by
  obtain ⟨line, hline, haddress, hconfig⟩ : ∃ line : CommandLine,
      parseKnown [] ["compiledump", "--storage-url", ""] = .ok line ∧ line.storageUrl = some "" ∧
        line.config = none := ⟨_, rfl, rfl, rfl⟩
  have hload : (Toolchain.load line.config).on Replay.sampleMachine Replay.sampleHost =
      (.ok .default, Replay.sampleHost) := by
    rw [hconfig]
    rfl
  have hrun := on_bind_of_ok
    (fun tools : Toolchain => return tools.override line.repoRoot line.javaHome line.storageUrl) hload
  obtain ⟨husable, settings, -, -, hstore⟩ := store_usable_iff hrun
  have hblank : line.storageUrl.getD settings.store = "" := by
    rw [haddress]
    rfl
  refine ⟨line, _, _, hline, hrun, hstore.trans hblank, fun h => ?_⟩
  obtain ⟨c, hc, -⟩ := husable.mp h "" haddress
  exact absurd hc (by simp)

end CommandLine

end DumpReplay
