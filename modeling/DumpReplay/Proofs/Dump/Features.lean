import DumpReplay.Proofs.Dump.Reopening
import DumpReplay.Proofs.Dump.Site
import Mathlib.Data.List.Nodup
import Mathlib.Data.List.Perm.Subperm
import Mathlib.Data.Nat.Find

/-!
# The features of a dump

Features are looked for one number after the other, until one is missing.  Nothing bounds the numbers,
but every feature takes an entry of its own in the tree.  So the search ends, and it has then found the
features that stand in a row from the first number on.

Main results:

- `upToGap_of_firstGap`, `searched_iff` : a search finds the numbers in front of the first gap.
- `exists_firstGap_features` : there is a first gap, behind no more features than the tree has entries.
- `featuresIn_of_firstGap` : the features in front of it are found.
- `exists_featuresIn_eq` : dumps that have features with the same numbers are alike in what is found.
- `featureJars_up_to_gap` : what looking for the features gives.
-/

namespace DumpReplay

namespace Dump

variable {p : Nat → Bool} {count index length : Nat}

/-! ## Gaps -/

/-- From a number on, so many have a property, and the one behind them does not. -/
structure FirstGap (p : Nat → Bool) (index length : Nat) : Prop where
  before : ∀ j, index ≤ j → j < index + length → p j = true
  gap : p (index + length) = false

namespace FirstGap

theorem zero (h : p index = false) : FirstGap p index 0 :=
  ⟨fun j hfirst hlast => by omega, h⟩

/-- A number with the property in front moves the first gap one further away. -/
theorem succ_iff (h : p index = true) :
    FirstGap p index (length + 1) ↔ FirstGap p (index + 1) length := by
  have hbehind : index + (length + 1) = index + 1 + length := by omega
  constructor
  · rintro ⟨hbefore, hgap⟩
    exact ⟨fun j hfirst hlast => hbefore j (by omega) (by omega), hbehind ▸ hgap⟩
  · rintro ⟨hbefore, hgap⟩
    refine ⟨fun j hfirst hlast => ?_, hbehind.symm ▸ hgap⟩
    rcases Nat.eq_or_lt_of_le hfirst with rfl | hlater
    · exact h
    · exact hbefore j hlater (by omega)

/-- In front of the first gap are as many numbers as have the property in a row. -/
theorem forall_iff (h : FirstGap p index length) (more : Nat) :
    (∀ j, index ≤ j → j < index + more → p j = true) ↔ more ≤ length := by
  constructor
  · intro hall
    by_contra hmore
    have hgap := hall (index + length) (by omega) (by omega)
    rw [h.gap] at hgap
    exact absurd hgap (by simp)
  · exact fun hmore j hfirst hlast => h.before j hfirst (by omega)

end FirstGap

/-- There is a first gap if the numbers in a row are bounded. -/
theorem exists_firstGap (h : ∀ more, (∀ j, index ≤ j → j < index + more → p j = true) → more ≤ count) :
    ∃ length ≤ count, FirstGap p index length := by
  have hgap : ∃ length, p (index + length) = false := by
    by_contra hnone
    have hall : ∀ j, index ≤ j → j < index + (count + 1) → p j = true := by
      intro j hfirst hlast
      by_contra hj
      exact hnone ⟨j - index, by rw [Nat.add_sub_cancel' hfirst]; simpa using hj⟩
    exact absurd (h (count + 1) hall) (by omega)
  have hbefore : ∀ j, index ≤ j → j < index + Nat.find hgap → p j = true := by
    intro j hfirst hlast
    have hj := Nat.find_min hgap (m := j - index) (by omega)
    rwa [Nat.add_sub_cancel' hfirst, Bool.not_eq_false] at hj
  exact ⟨Nat.find hgap, h _ hbefore, hbefore, Nat.find_spec hgap⟩

/-! ## Searches -/

/-- A search that looks at enough numbers finds those in front of the first gap. -/
theorem upToGap_of_firstGap (h : FirstGap p index length) (hcount : length ≤ count) :
    upToGap p count index = List.range' index length := by
  induction count generalizing index length with
  | zero =>
    obtain rfl : length = 0 := by omega
    rfl
  | succ count ih =>
    rw [upToGap]
    cases length with
    | zero => rw [if_neg (by simpa using h.gap), List.range'_zero]
    | succ length =>
      have hfirst : p index = true := h.before index (Nat.le_refl _) (by omega)
      rw [if_pos hfirst, ih ((FirstGap.succ_iff hfirst).mp h) (by omega), List.range'_succ]

/-- The search without a bound: from a number on, it takes every number with a property, and ends at the
first without it. -/
inductive Searched (p : Nat → Bool) : Nat → List Nat → Prop
  | stop {index : Nat} (h : p index = false) : Searched p index []
  | take {index : Nat} {indices : List Nat} (h : p index = true)
      (hrest : Searched p (index + 1) indices) : Searched p index (index :: indices)

/-- Where there is a first gap, the search ends there, and nowhere else. -/
theorem searched_iff (h : FirstGap p index length) {indices : List Nat} :
    Searched p index indices ↔ indices = List.range' index length := by
  constructor
  · intro hsearched
    induction hsearched generalizing length with
    | stop hstop =>
      have hzero : length ≤ 0 := ((FirstGap.zero hstop).forall_iff length).mp h.before
      obtain rfl : length = 0 := by omega
      rfl
    | take htake hrest ih =>
      cases length with
      | zero =>
        have hgap := h.gap
        rw [Nat.add_zero, htake] at hgap
        exact absurd hgap (by simp)
      | succ length => rw [ih ((FirstGap.succ_iff htake).mp h), List.range'_succ]
  · rintro rfl
    induction length generalizing index with
    | zero => exact .stop h.gap
    | succ length ih =>
      have hfirst : p index = true := h.before index (Nat.le_refl _) (by omega)
      rw [List.range'_succ]
      exact .take hfirst (ih ((FirstGap.succ_iff hfirst).mp h))

/-! ## Features -/

variable {tree : FileTree} {here : Location} {dump : Dump} {name : String}

/-- Whether a tree has the feature with a number. -/
def hasFeature (tree : FileTree) (here : Location) (dump : Dump) (index : Nat) : Bool :=
  tree.has here (dump.featurePath index)

/-- Whatever stands in the directory of a dump takes an entry of the tree. -/
theorem mem_entries_of_has (hname : Path.IsName name)
    (h : tree.has here (dump.directory.child name) = true) :
    dump.directory.location here ++ [name] ∈ tree.entries.map Prod.fst := by
  obtain ⟨node, hstatus⟩ := FileTree.has_iff.mp h
  obtain ⟨location, hlocate, hget⟩ := FileTree.status_eq_ok_iff.mp hstatus
  rw [FileTree.location_of_locate hlocate, Path.location_child hname, FileTree.get?, if_neg (by simp)]
    at hget
  obtain ⟨_, _, hentries, _⟩ := List.lookup_eq_some_iff.mp hget
  rw [hentries]
  simp

/-- A row of features takes as many entries of the tree. -/
theorem features_le_length {more : Nat}
    (h : ∀ index, 1 ≤ index → index < 1 + more → dump.hasFeature tree here index = true) :
    more ≤ tree.entries.length := by
  let places := (List.range' 1 more).map fun index =>
    dump.directory.location here ++ [featureName index]
  have hnodup : places.Nodup := by
    refine List.Nodup.map (fun first second hsame => ?_) List.nodup_range'
    exact featureName_injective (List.append_singleton_inj.mp hsame).2
  have hsubset : places ⊆ tree.entries.map Prod.fst := by
    intro location hlocation
    obtain ⟨index, hindex, rfl⟩ := List.mem_map.mp hlocation
    rw [List.mem_range'_1] at hindex
    exact mem_entries_of_has (isName_featureName index) (h index hindex.1 hindex.2)
  have hlength := (List.subperm_of_subset hnodup hsubset).length_le
  rwa [List.length_map, List.length_range', List.length_map] at hlength

/-- There is a first gap among the features, and in front of it no more of them than the tree has
entries. -/
theorem exists_firstGap_features (tree : FileTree) (here : Location) (dump : Dump) :
    ∃ length ≤ tree.entries.length, FirstGap (dump.hasFeature tree here) 1 length :=
  exists_firstGap fun _ => features_le_length

/-- The features in front of the first gap are found. -/
theorem featuresIn_of_firstGap (h : FirstGap (dump.hasFeature tree here) 1 length) :
    dump.featuresIn tree here = (List.range' 1 length).map dump.featurePath :=
  congrArg (List.map dump.featurePath) (upToGap_of_firstGap h (features_le_length h.before))

/-- Where two dumps, each in a tree of its own, have features with the same numbers, the same numbers are
found. -/
theorem exists_featuresIn_eq {tree' : FileTree} {here' : Location} {dump' : Dump}
    (h : ∀ index, dump'.hasFeature tree' here' index = dump.hasFeature tree here index) :
    ∃ indices : List Nat, dump.featuresIn tree here = indices.map dump.featurePath ∧
      dump'.featuresIn tree' here' = indices.map dump'.featurePath := by
  obtain ⟨length, _, hgap⟩ := exists_firstGap_features tree here dump
  exact ⟨_, featuresIn_of_firstGap hgap, featuresIn_of_firstGap ((funext h).symm ▸ hgap)⟩

/-- What looking for the features of a dump gives: all those in front of the first gap, in the order of
their numbers, and nothing changes.  The search without a bound ends, and with these numbers only.  They
are as many as there are features in a row, be they files or directories, and no more than the tree has
entries.  What stands behind the first gap makes no difference. -/
theorem featureJars_up_to_gap (dump : Dump) (machine : Machine) (host : Host) :
    ∃ count ≤ host.files.entries.length,
      dump.featureJars.on machine host = (.ok ((List.range' 1 count).map dump.featurePath), host) ∧
      (∀ indices, Searched (dump.hasFeature host.files machine.workingDirectory) 1 indices ↔
        indices = List.range' 1 count) ∧
      (∀ more, (∀ index, 1 ≤ index → index ≤ more →
        ∃ node, host.files.status machine.workingDirectory (dump.featurePath index) = .ok node) ↔
          more ≤ count) ∧
      ∀ other : Host, (∀ index, 1 ≤ index → index ≤ count + 1 →
          dump.hasFeature other.files machine.workingDirectory index =
            dump.hasFeature host.files machine.workingDirectory index) →
        (dump.featureJars.on machine other).1 = (dump.featureJars.on machine host).1 := by
  obtain ⟨count, hbound, hgap⟩ :=
    exists_firstGap_features host.files machine.workingDirectory dump
  refine ⟨count, hbound, ?_, fun indices => searched_iff hgap, fun more => ?_, fun other hsame => ?_⟩
  · rw [on_featureJars, featuresIn_of_firstGap hgap]
  · rw [← hgap.forall_iff more]
    refine forall₂_congr fun index _ => ?_
    rw [Nat.add_comm, Nat.lt_succ_iff, ← FileTree.has_iff]
    rfl
  · have hgap' : FirstGap (dump.hasFeature other.files machine.workingDirectory) 1 count :=
      ⟨fun index hfirst hlast => by rw [hsame index hfirst (by omega), hgap.before index hfirst hlast],
        by rw [hsame _ (by omega) (by omega), hgap.gap]⟩
    rw [on_featureJars, on_featureJars, featuresIn_of_firstGap hgap, featuresIn_of_firstGap hgap']

/-- A host with a feature, a directory in place of the second one, and a feature behind a gap. -/
def gapHost : Host :=
  .ofFiles ⟨[(["d"], .directory), (["d", "feature-4.jar"], .file ⟨#[]⟩ false),
    (["d", "feature-2.jar"], .directory), (["d", "feature-1.jar"], .file ⟨#[]⟩ false)]⟩

/-- The same host without the feature behind the gap. -/
def shortHost : Host :=
  .ofFiles ⟨[(["d"], .directory), (["d", "feature-2.jar"], .directory),
    (["d", "feature-1.jar"], .file ⟨#[]⟩ false)]⟩

/-- The feature behind the gap is not found, and makes no difference. -/
theorem featureJars_up_to_gap_gapHost :
    ((⟨⟨"/d"⟩⟩ : Dump).featureJars.on idleMachine gapHost).1 =
        .ok [⟨"/d/feature-1.jar"⟩, ⟨"/d/feature-2.jar"⟩] ∧
      ((⟨⟨"/d"⟩⟩ : Dump).featureJars.on idleMachine shortHost).1 =
        ((⟨⟨"/d"⟩⟩ : Dump).featureJars.on idleMachine gapHost).1 := by
  obtain ⟨count, _, hfound, hsearched, _, hother⟩ :=
    featureJars_up_to_gap ⟨⟨"/d"⟩⟩ idleMachine gapHost
  have hcount : [1, 2] = List.range' 1 count :=
    (hsearched [1, 2]).mp (.take (by decide +kernel) (.take (by decide +kernel)
      (.stop (by decide +kernel))))
  obtain rfl : count = 2 := by simpa using (congrArg List.length hcount).symm
  refine ⟨by rw [hfound]; decide +kernel, hother shortHost fun index hfirst hlast => ?_⟩
  obtain rfl | rfl | rfl : index = 1 ∨ index = 2 ∨ index = 3 := by omega
  all_goals decide +kernel

end Dump

end DumpReplay
