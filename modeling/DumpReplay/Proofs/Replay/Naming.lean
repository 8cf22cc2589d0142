import DumpReplay.Proofs.Dump.Features
import DumpReplay.Proofs.Replay.Repeating
import DumpReplay.Proofs.Text.Cutting

/-!
# The files that a replay names

A replay names the files that the compiler is to write, one for every feature among them, and writes a
few files for itself.  All of them are in the work directory, which can be the directory of the dump.
The file for a feature has the number of the feature in its name, and another ending.

Main results:

- `featureOutputName_featurePath` : the name of the file that the code of a feature is written to.
- `nodup_outputNames` : no two files that a replay names have the same name.
- `not_isPart_of_mem_outputNames` : no file that a dump holds has such a name.
- `outputs_apart` : no file that a replay names takes the place of another one, or of one of the dump.
-/

namespace DumpReplay

/-! ## Names inside a directory -/

namespace Path

variable {name : String} {stem ending : List Char}

/-- The last name of a path inside a directory is the name there. -/
theorem fileName_child (h : IsName name) (directory : Path) :
    (directory.child name).fileName = some name := by
  obtain ⟨front, _, hsegments⟩ := h.segments_child directory
  have hlast : (directory.child name).names.getLast? = some name := by
    rw [names, hsegments, List.filter_append]
    simp [h.ne_empty, h.ne_dot]
  unfold fileName
  rw [hlast]
  split
  · rename_i hup
    exact absurd (Option.some.inj hup) h.ne_up
  · rfl

/-- The stem of a name ends in front of its last point. -/
theorem fileStem_child (h : IsName name) (hname : name.toList = stem ++ '.' :: ending)
    (hstem : stem ≠ []) (hending : '.' ∉ ending) (directory : Path) :
    (directory.child name).fileStem = some (String.ofList stem) := by
  have hcut : Text.cutLast '.' name.toList = some (stem, ending) :=
    Text.cutLast_eq_some_iff.mpr ⟨hname, hending⟩
  rw [fileStem, fileName_child h, Option.map_some, hcut]
  cases stem with
  | nil => exact absurd rfl hstem
  | cons first rest => rfl

end Path

/-! ## Files for features -/

/-- The name of the file that the code of the feature with a number is written to. -/
def featureOutName (index : Nat) : String :=
  "feature-" ++ toString index ++ ".out.jar"

theorem toList_featureOutName (index : Nat) :
    (featureOutName index).toList = featureStem index ++ '.' :: "out.jar".toList := by
  unfold featureStem
  rw [featureOutName, String.toList_append, String.toList_append, Nat.toString_eq_repr, Nat.toList_repr]
  rfl

theorem featureStem_ne_nil (index : Nat) : featureStem index ≠ [] :=
  List.append_ne_nil_of_left_ne_nil (by decide) _

theorem head?_featureOutName (index : Nat) : (featureOutName index).toList.head? = some 'f' := by
  rw [toList_featureOutName]
  rfl

theorem isName_featureOutName (index : Nat) : Path.IsName (featureOutName index) :=
  isName_of_featureStem (toList_featureOutName index) (by decide)

/-- What stands behind the first point tells a file for a feature from the feature. -/
theorem cutFirst_featureOutName (index : Nat) :
    Text.cutFirst '.' (featureOutName index).toList = some (featureStem index, "out.jar".toList) :=
  Text.cutFirst_eq_some_iff.mpr
    ⟨toList_featureOutName index, not_mem_featureStem (by decide) (by decide) index⟩

theorem cutFirst_featureName (index : Nat) :
    Text.cutFirst '.' (featureName index).toList = some (featureStem index, "jar".toList) :=
  Text.cutFirst_eq_some_iff.mpr
    ⟨toList_featureName index, not_mem_featureStem (by decide) (by decide) index⟩

/-- The files for two features have different names. -/
theorem featureOutName_injective : Function.Injective featureOutName := by
  intro first second h
  have hcut := cutFirst_featureOutName first
  rw [h, cutFirst_featureOutName, Option.some.injEq, Prod.mk.injEq] at hcut
  exact (featureStem_injective hcut.1).symm

/-- No file for a feature has the name of a feature. -/
theorem featureOutName_ne_featureName (index other : Nat) :
    featureOutName index ≠ featureName other := by
  intro h
  have hcut := cutFirst_featureOutName index
  rw [h, cutFirst_featureName, Option.some.injEq, Prod.mk.injEq] at hcut
  exact absurd hcut.2 (by decide)

/-- The name of the file that the code of a feature is written to. -/
theorem featureOutputName_featurePath (dump : Dump) (index : Nat) :
    Plan.featureOutputName (dump.featurePath index) = featureOutName index := by
  have hstem := Path.fileStem_child (isName_featureName index) (toList_featureName index)
    (featureStem_ne_nil index) (by decide) dump.directory
  rw [Plan.featureOutputName, Dump.featurePath, hstem, ← String.toList_inj, toList_featureOutName]
  simp

/-! ## The names that a replay uses -/

/-- The names that every replay uses in its work directory: those of the files that it writes for itself,
of the output and of the symbol map beside it. -/
def fixedNames : List String :=
  Dump.ownNames ++ ["out.jar", "out.jar.map"]

/-- The names that a replay uses, if there are features with some numbers. -/
def outputNames (indices : List Nat) : List String :=
  fixedNames ++ indices.map featureOutName

variable {indices : List Nat} {name : String}

theorem isName_of_mem_fixedNames (h : name ∈ fixedNames) : Path.IsName name := by
  rw [fixedNames, List.mem_append] at h
  rcases h with hown | hout
  · exact Dump.isName_of_mem_ownNames hown
  · simp only [List.mem_cons, List.not_mem_nil, or_false] at hout
    rcases hout with rfl | rfl <;> exact ⟨by decide, by decide, by decide, by decide⟩

theorem isName_of_mem_outputNames (h : name ∈ outputNames indices) : Path.IsName name := by
  rw [outputNames, List.mem_append, List.mem_map] at h
  rcases h with hfixed | ⟨index, _, rfl⟩
  · exact isName_of_mem_fixedNames hfixed
  · exact isName_featureOutName index

theorem head?_of_mem_fixedNames : ∀ name ∈ fixedNames, name.toList.head? ≠ some 'f' := by
  decide

/-- No two files that a replay names have the same name. -/
theorem nodup_outputNames (h : indices.Nodup) : (outputNames indices).Nodup := by
  refine List.nodup_append'.mpr ⟨by decide, h.map featureOutName_injective, ?_⟩
  intro name hfixed hfeature
  obtain ⟨index, _, rfl⟩ := List.mem_map.mp hfeature
  exact head?_of_mem_fixedNames _ hfixed (head?_featureOutName index)

/-- No file that a dump holds has a name that a replay uses. -/
theorem not_isPart_of_mem_outputNames (h : name ∈ outputNames indices) : ¬Dump.IsPart name := by
  rw [outputNames, List.mem_append, List.mem_map] at h
  rcases h with hfixed | ⟨index, _, rfl⟩
  · rintro (⟨artifact, rfl⟩ | ⟨other, rfl⟩)
    · cases artifact <;> exact absurd hfixed (by decide)
    · exact head?_of_mem_fixedNames _ hfixed (head?_featureName other)
  · rintro (⟨artifact, hsame⟩ | ⟨other, hsame⟩)
    · have hstart := head?_featureOutName index
      rw [hsame] at hstart
      cases artifact <;> exact absurd hstart (by decide)
    · exact featureOutName_ne_featureName index other hsame

/-! ## The paths that a replay names -/

/-- The symbol map beside the output is in the work directory, too. -/
theorem mapOutput_outputIn (work : Path) :
    Plan.mapOutput (Invocation.outputIn work) = work.child "out.jar.map" := by
  have hout : (Path.mk "out.jar").isAbsolute = false := by decide
  have hmap : (Path.mk "out.jar.map").isAbsolute = false := by decide
  refine Path.ext_toList ?_
  rw [Path.child, Path.join_of_not_absolute hmap, Plan.mapOutput, Path.toList_mk, String.toList_append]
  change (Invocation.outputIn work).toList ++ _ = _
  rw [Invocation.outputIn, Path.child, Path.join_of_not_absolute hout, List.append_assoc]
  rfl

/-- The paths that a command line names as outputs: the output itself, the symbol map if it asks for one,
and a file for every feature. -/
def Plan.outputs (plan : Plan) : List Path :=
  plan.invocation.output :: (plan.requestedMap.toList ++
    plan.featureJars.map fun featureJar => Plan.featureOutput featureJar plan.workDirectory)

namespace Replay

/-- The paths that replays of a dump name in a work directory: those of the files that they write for
themselves, of the output, of the symbol map beside it, and of a file for every feature. -/
def outputsIn (tree : FileTree) (here : Location) (dump : Dump) (work : Path) : List Path :=
  Dump.ownNames.map work.child ++
    Invocation.outputIn work :: Plan.mapOutput (Invocation.outputIn work) ::
      (dump.featuresIn tree here).map fun featureJar => Plan.featureOutput featureJar work

variable {work : Path} {options : Options} {tools : Toolchain} {hooks : Hooks} {machine : Machine}
variable {start : Host}

/-- The paths that replays name, by the numbers of the features. -/
theorem outputsIn_eq (tree : FileTree) (here : Location) (dump : Dump) (work : Path) :
    ∃ indices : List Nat, indices.Nodup ∧
      outputsIn tree here dump work = (outputNames indices).map work.child := by
  obtain ⟨count, _, hgap⟩ := Dump.exists_firstGap_features tree here dump
  refine ⟨List.range' 1 count, List.nodup_range', ?_⟩
  have hfeatures : ∀ index, Plan.featureOutput (dump.featurePath index) work =
      work.child (featureOutName index) :=
    fun index => congrArg work.child (featureOutputName_featurePath dump index)
  rw [outputsIn, Dump.featuresIn_of_firstGap hgap, mapOutput_outputIn, outputNames, fixedNames]
  simp [Function.comp_def, hfeatures, Invocation.outputIn]

/-- A replay that runs the compiler was given a dump. -/
theorem Assembled.exists_dump (a : Assembled options tools hooks work machine start) :
    ∃ source, options.dump = some source := by
  have hstage := a.stage_eq
  rw [stage_eq] at hstage
  cases hdump : options.dump with
  | none =>
    rw [hdump] at hstage
    exact absurd (Prod.mk.inj hstage).1 (by simp)
  | some source => exact ⟨source, rfl⟩

/-- The symbol map that is asked for is beside the output. -/
theorem requestedMap_sublist (plan : Plan) :
    plan.requestedMap.toList.Sublist [Plan.mapOutput plan.invocation.output] := by
  unfold Plan.requestedMap
  split
  · exact .refl _
  · exact List.nil_sublist _

/-- A replay that runs the compiler names nothing else. -/
theorem Assembled.outputs_sublist (a : Assembled options tools hooks work machine start) :
    (Dump.ownNames.map work.child ++ a.plan.outputs).Sublist
      (outputsIn a.ruled.files machine.workingDirectory a.staged.dump work) := by
  obtain ⟨source, hdump⟩ := a.exists_dump
  obtain ⟨_, _, _, _, hplan⟩ := planIn_eq_ok a.planIn_eq
  have houtput : a.plan.invocation.output = Invocation.outputIn work := by
    rw [hplan]
    exact a.output_eq hdump
  have hfeatures : a.plan.featureJars =
      a.staged.dump.featuresIn a.ruled.files machine.workingDirectory := by
    rw [hplan]
    rfl
  have hwork : a.plan.workDirectory = work := by
    rw [hplan]
    rfl
  unfold Plan.outputs outputsIn
  rw [houtput, hfeatures, hwork, ← List.singleton_append (l := List.map _ _)]
  refine .append (.refl _) (.cons_cons _ (.append ?_ (.refl _)))
  rw [← houtput]
  exact requestedMap_sublist a.plan

/-- No file that a replay names in its work directory takes the place of another one, or of one that the
dump holds, be it there or not.  So it is when the dump is in the work directory, too.  And a replay that
runs the compiler names no outputs but these. -/
theorem outputs_apart (dump : Dump) (work : Path) (tree : FileTree) (here : Location) :
    (outputsIn tree here dump work).Pairwise
        (fun first second => first.location here ≠ second.location here) ∧
      (∀ output ∈ outputsIn tree here dump work,
        (∀ artifact, output.location here ≠ (dump.path artifact).location here) ∧
          ∀ index, output.location here ≠ (dump.featurePath index).location here) ∧
      ∀ {options : Options} {tools : Toolchain} {hooks : Hooks} {machine : Machine} {start : Host}
        (a : Assembled options tools hooks work machine start),
        (Dump.ownNames.map work.child ++ a.plan.outputs).Sublist
          (outputsIn a.ruled.files machine.workingDirectory a.staged.dump work) := by
  obtain ⟨indices, hindices, houtputs⟩ := outputsIn_eq tree here dump work
  have hlocation : ∀ name ∈ outputNames indices,
      (work.child name).location here = work.location here ++ [name] :=
    fun name hname => Path.location_child (isName_of_mem_outputNames hname) here work
  have happart : ∀ output ∈ outputsIn tree here dump work, ∀ part, Dump.IsPart part →
      output.location here ≠ (dump.directory.child part).location here := by
    intro output houtput part hpart hsame
    rw [houtputs] at houtput
    obtain ⟨name, hname, rfl⟩ := List.mem_map.mp houtput
    rw [hlocation name hname, Path.location_child hpart.isName] at hsame
    rw [← (List.append_singleton_inj.mp hsame).2] at hpart
    exact not_isPart_of_mem_outputNames hname hpart
  refine ⟨?_, fun output houtput => ⟨fun artifact => ?_, fun index => ?_⟩, fun a => a.outputs_sublist⟩
  · rw [houtputs, List.pairwise_map]
    refine (nodup_outputNames hindices).imp_of_mem fun {first second} hfirst hsecond hne hsame => hne ?_
    rw [hlocation first hfirst, hlocation second hsecond] at hsame
    exact (List.append_singleton_inj.mp hsame).2
  · exact happart output houtput _ (Dump.isPart_fileName artifact)
  · exact happart output houtput _ (Dump.isPart_featureName index)

end Replay

end DumpReplay
