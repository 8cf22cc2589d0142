import DumpReplay.Proofs.Action.Quiet
import DumpReplay.Proofs.Replay.Looking

/-!
# The quiet steps of a replay

Of the steps of a replay only four are not quiet: compiling the adapters, handing the keep rules to
a consumer, running the compiler, and reporting what it wrote.

Main results:

- `quiet_openIn` : opening a dump is quiet, whatever is extracted.
- `quiet_stage`, `quiet_distributionFor` : deciding what to run is quiet.
- `quiet_fetchMap` : finding a symbol map is quiet.
-/

namespace DumpReplay

open DumpReplay.Action

/-! ## Archives -/

namespace Zip

theorem quiet_orIo {α : Type} (outcome : Except IoError α) : Quiet (orIo outcome) := by
  cases outcome with
  | ok value => exact .pure value
  | error cause => exact .fail _

theorem quiet_prepare (target : Path) (names : List String) : Quiet (prepare target names) := by
  induction names generalizing target with
  | nil => exact .pure target
  | cons name rest ih =>
    cases rest with
    | nil =>
      refine .bind (.look _) fun found => ?_
      split
      · exact .pure _
      · exact .pure _
      · exact .fail _
    | cons other rest =>
      refine .bind (.look _) fun found => ?_
      split
      · exact ih _
      · refine .bind (quiet_makeDirectories? _) fun made => ?_
        exact .bind (quiet_orIo made) fun _ => ih _
      · exact .fail _

theorem quiet_writeContent (archive : Archive) (entry : Entry) (path : Path) :
    Quiet (writeContent archive entry path) := by
  refine .bind (.look _) fun written => .bind (quiet_orIo written) fun tree => ?_
  refine .bind (quiet_setFiles tree) fun _ => ?_
  exact .ite (.fail _) (.pure _)

theorem quiet_extractEntry (archive : Archive) (target : Path) (entry : Entry) :
    Quiet (extractEntry archive target entry) := by
  unfold extractEntry
  refine .ite (.fail _) (.ite (.fail _) ?_)
  split
  · exact .fail _
  · refine .bind (quiet_prepare target _) fun path => .ite ?_ ?_
    · refine .bind (quiet_makeDirectories? path) fun made => ?_
      exact .bind (quiet_orIo made) fun _ => .pure _
    · exact .bind (quiet_writeContent archive entry path) fun _ => .pure _

theorem quiet_extractEntries (archive : Archive) (target : Path) (entries : List Entry) :
    Quiet (extractEntries archive target entries) := by
  induction entries with
  | nil => exact .pure _
  | cons entry rest ih =>
    refine .bind (quiet_extractEntry archive target entry) fun made => .bind ih fun others => ?_
    split <;> exact .pure _

theorem quiet_extract (archive : Archive) (target : Path) : Quiet (extract archive target) := by
  refine .bind (quiet_makeDirectories? target) fun made => .bind (quiet_orIo made) fun _ => ?_
  refine .bind (quiet_extractEntries archive target _) fun made => ?_
  refine .bind (.forIn (fun item state => ?_) made _) fun _ => .pure _
  exact .bind (.look _) fun tree => .bind (quiet_setFiles tree) fun _ => .pure _

end Zip

/-! ## Dumps -/

namespace Dump

theorem quiet_extract (source workDirectory : Path) (archive : Zip.Archive) (override : Bool) :
    Quiet (extract source workDirectory archive override) := by
  refine .bind (looks_isFile _).quiet fun extracted => .ite ?_ (looks_inform _).quiet
  refine .bind (looks_inform _).quiet fun _ => .bind (Zip.quiet_extract archive _) fun _ => ?_
  exact .bind (looks_isFile _).quiet fun _ => .ite (.fail _) (.pure _)

/-- Opening a dump is quiet, whatever is extracted. -/
theorem quiet_openIn (source workDirectory : Path) (override : Bool) :
    Quiet (openIn source workDirectory override) := by
  refine .bind (looks_isDirectory source).quiet fun _ => .ite (.pure _) ?_
  refine .bind (looks_readBytes? source).quiet fun bytes => ?_
  cases bytes with
  | error cause => exact .fail _
  | ok bytes =>
    refine .bind (.ofExcept _) fun archive => ?_
    exact .bind (quiet_extract source workDirectory archive override) fun _ => .pure _

end Dump

/-! ## Distributions -/

namespace Distribution

theorem quiet_fetch (version : Version) (plain : Bool) (workDirectory : Path) (tools : Toolchain) :
    Quiet (fetch version plain workDirectory tools) := by
  unfold fetch
  dsimp only
  split
  · exact .fail _
  · refine .bind (.attempt (quiet_download _ _)) fun fetched => ?_
    cases fetched with
    | ok value => exact .pure _
    | error cause => exact .fail _

theorem quiet_acquire (version : Version) (plain : Bool) (workDirectory : Path)
    (tools : Toolchain) : Quiet (acquire version plain workDirectory tools) := by
  have htold : ∀ distribution : Distribution, Quiet (do
      Action.inform ("Using distribution: " ++ distribution.shown)
      return distribution) :=
    fun _ => .bind (looks_inform _).quiet fun _ => .pure _
  unfold acquire
  cases version with
  | main => exact .bind (.pure _) htold
  | source => exact .bind (.pure _) htold
  | hash token => exact .bind (quiet_fetch _ plain workDirectory tools) htold
  | release token => exact .bind (quiet_fetch _ plain workDirectory tools) htold

end Distribution

/-! ## Replays -/

namespace Replay

/-- Deciding the values of a replay is quiet. -/
theorem quiet_stage (options : Options) (workDirectory : Path) :
    Quiet (stage options workDirectory) := by
  rw [stage_eq]
  split
  · exact .fail _
  · exact .bind (Dump.quiet_openIn _ workDirectory _) fun dump =>
      (looks_decideFor options workDirectory dump).quiet

/-- Finding the compiler is quiet. -/
theorem quiet_distributionFor (options : Options) (version : Option Version)
    (workDirectory : Path) (tools : Toolchain) :
    Quiet (distributionFor options version workDirectory tools) := by
  have hverify : ∀ distribution : Distribution,
      Quiet (do distribution.verify; return distribution) := by
    intro distribution
    exact .bind distribution.looks_verify.quiet fun _ => .pure _
  unfold distributionFor
  split
  · exact .bind (.pure _) hverify
  · exact .bind (Distribution.quiet_acquire _ _ workDirectory tools) hverify
  · exact .bind (.fail _) hverify

theorem quiet_adjustRules (file : Path) (toggles : Shrinker.Toggles) :
    Quiet (adjustRules file toggles) := by
  refine .bind (looks_readText file).quiet fun content => ?_
  refine .bind (.forIn (fun _ _ => ?_) _ _) fun _ => .bind (.forIn (fun _ _ => ?_) _ _) fun _ => ?_
  · exact .bind (looks_inform _).quiet fun _ => .pure _
  · exact .bind (looks_inform _).quiet fun _ => .pure _
  · exact .bind (quiet_writeText file _) fun _ => .pure _

/-- Finding a symbol map is quiet, whether it is there, fetched or missing. -/
theorem quiet_fetchMap (version : Version) (workDirectory : Path) (tools : Toolchain) :
    Quiet (fetchMap version workDirectory tools) := by
  unfold fetchMap
  split
  · exact .bind (looks_pathExists _).quiet fun _ => .ite (.pure _) (.fail _)
  · refine .bind (quiet_isAvailable _) fun _ => .ite ?_ (.fail _)
    exact .bind (quiet_download _ _) fun _ => .pure _
  · exact .fail _

end Replay

end DumpReplay
