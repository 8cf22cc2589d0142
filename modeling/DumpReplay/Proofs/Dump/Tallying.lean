import DumpReplay.Dump.Summary
import DumpReplay.Proofs.Dump.Reopening
import DumpReplay.Proofs.Text.Cutting
import DumpReplay.Proofs.Text.Ordering
import Mathlib.Data.Set.Card

/-!
# The packages of a jar

The classes of a jar are counted one after the other, each under its package.  The list of counts is kept
in the order of the packages, and a package is in it if it has a class.  So what comes out depends on the
names only, and not on their order.

Main results:

- `Tallied.tally`, `countOf_tally` : what counting one more does to a list of counts.
- `tallied_packages`, `countOf_packages` : the packages of some names, with the number of their classes.
- `packages_eq_of_perm` : the order of the names makes no difference.
- `summarizeJar_counts` : what summarizing a jar gives.
-/

namespace DumpReplay.Dump

open DumpReplay.Action

variable {name key package : String} {count : Nat} {counts others : List (String × Nat)}
variable {names : List String}

/-! ## Lists of counts -/

/-- A list of counts is in the strict order of its names, and counts nothing that does not occur. -/
structure Tallied (counts : List (String × Nat)) : Prop where
  sorted : (counts.map Prod.fst).Pairwise (· < ·)
  pos : ∀ entry ∈ counts, 0 < entry.2

/-- How often a list of counts counts a name. -/
def countOf (counts : List (String × Nat)) (name : String) : Nat :=
  ((counts.filter fun entry => entry.1 = name).map Prod.snd).sum

@[simp] theorem countOf_nil (name : String) : countOf [] name = 0 := rfl

theorem countOf_cons (key : String) (count : Nat) (counts : List (String × Nat)) (name : String) :
    countOf ((key, count) :: counts) name = (if name = key then count else 0) + countOf counts name := by
  unfold countOf
  by_cases h : name = key
  · simp [h]
  · simp [h, Ne.symm h]

/-- A list of counts does not count a name that is not in it. -/
theorem countOf_eq_zero (h : name ∉ counts.map Prod.fst) : countOf counts name = 0 := by
  induction counts with
  | nil => rfl
  | cons entry counts ih =>
    rw [List.map_cons, List.mem_cons, not_or] at h
    rw [countOf_cons, if_neg h.1, ih h.2]

namespace Tallied

theorem nil : Tallied [] :=
  ⟨.nil, by simp⟩

theorem cons_iff {entry : String × Nat} :
    Tallied (entry :: counts) ↔
      (∀ other ∈ counts.map Prod.fst, entry.1 < other) ∧ 0 < entry.2 ∧ Tallied counts := by
  constructor
  · rintro ⟨hsorted, hpos⟩
    obtain ⟨hfirst, hrest⟩ := List.pairwise_cons.mp hsorted
    obtain ⟨hentry, hcounts⟩ := List.forall_mem_cons.mp hpos
    exact ⟨hfirst, hentry, hrest, hcounts⟩
  · rintro ⟨hfirst, hentry, hrest, hcounts⟩
    exact ⟨List.pairwise_cons.mpr ⟨hfirst, hrest⟩, List.forall_mem_cons.mpr ⟨hentry, hcounts⟩⟩

/-- An entry is in a list of counts exactly if it says how often the list counts the name. -/
theorem mem_iff (h : Tallied counts) : (name, count) ∈ counts ↔ 0 < count ∧ count = countOf counts name := by
  induction counts with
  | nil =>
    simp only [List.not_mem_nil, countOf_nil, false_iff, not_and]
    omega
  | cons entry counts ih =>
    obtain ⟨hfirst, hentry, hcounts⟩ := cons_iff.mp h
    rw [List.mem_cons, ih hcounts, countOf_cons]
    by_cases hname : name = entry.1
    · have hnone : countOf counts name = 0 :=
        countOf_eq_zero fun hmem => String.lt_irrefl _ (hname ▸ hfirst name hmem)
      rw [if_pos hname, hnone, Prod.ext_iff]
      simp only [hname, true_and]
      omega
    · rw [if_neg hname, Nat.zero_add, Prod.ext_iff]
      simp [hname]

/-- Lists of counts that count every name as often as each other are the same. -/
theorem eq_of_countOf (h : Tallied counts) (hothers : Tallied others)
    (hsame : ∀ name, countOf counts name = countOf others name) : counts = others := by
  have hmembers : ∀ entry, entry ∈ counts ↔ entry ∈ others :=
    fun entry => by rw [h.mem_iff, hothers.mem_iff, hsame]
  have hpairwise : ∀ {list : List (String × Nat)}, Tallied list →
      list.Pairwise fun first second => first.1 < second.1 :=
    fun hlist => List.pairwise_map.mp hlist.sorted
  have hnodup : ∀ {list : List (String × Nat)}, Tallied list → list.Nodup := fun hlist =>
    (hpairwise hlist).imp fun {first second} hless (hsame : first = second) =>
      String.lt_irrefl _ (hsame ▸ hless)
  refine List.Perm.eq_of_pairwise (fun first second _ _ hless hgreater => ?_) (hpairwise h)
    (hpairwise hothers) ((List.perm_ext_iff_of_nodup (hnodup h) (hnodup hothers)).mpr hmembers)
  exact absurd hgreater (String.lt_asymm hless)

end Tallied

/-! ## Counting one more -/

/-- Counting one more of a name raises the count of that name by one, and of no other. -/
theorem countOf_tally (key : String) (counts : List (String × Nat)) (name : String) :
    countOf (tally key counts) name = countOf counts name + if name = key then 1 else 0 := by
  induction counts with
  | nil =>
    rw [tally, countOf_cons]
    omega
  | cons entry counts ih =>
    obtain ⟨other, count⟩ := entry
    unfold tally
    split
    · rename_i hsame
      rw [countOf_cons, countOf_cons, hsame]
      split <;> omega
    · split
      · rw [countOf_cons]
        omega
      · rw [countOf_cons, ih, countOf_cons]
        omega

/-- Counting one more raises the sum of all counts by one. -/
theorem sum_tally (key : String) (counts : List (String × Nat)) :
    ((tally key counts).map Prod.snd).sum = (counts.map Prod.snd).sum + 1 := by
  induction counts with
  | nil => rfl
  | cons entry counts ih =>
    unfold tally
    split
    · simp only [List.map_cons, List.sum_cons]
      omega
    · split
      · simp only [List.map_cons, List.sum_cons]
        omega
      · simp only [List.map_cons, List.sum_cons, ih]
        omega

/-- A list of counts stays one when one more is counted. -/
theorem Tallied.tally (h : Tallied counts) (key : String) : Tallied (tally key counts) := by
  induction counts with
  | nil => exact cons_iff.mpr ⟨by simp, Nat.one_pos, nil⟩
  | cons entry counts ih =>
    obtain ⟨hfirst, hentry, hcounts⟩ := cons_iff.mp h
    unfold Dump.tally
    split
    · exact cons_iff.mpr ⟨hfirst, Nat.succ_pos _, hcounts⟩
    · rename_i hne
      split
      · rename_i hless
        refine cons_iff.mpr ⟨fun other hother => ?_, Nat.one_pos, h⟩
        rcases List.mem_cons.mp hother with rfl | hrest
        · exact hless
        · exact String.lt_trans hless (hfirst other hrest)
      · rename_i hnot
        refine cons_iff.mpr ⟨fun other hother => ?_, hentry, ih hcounts⟩
        rcases mem_keys_tally.mp hother with rfl | hrest
        · exact Std.lt_of_le_of_ne hnot (Ne.symm hne)
        · exact hfirst other hrest

/-! ## Counting some names -/

/-- The counts when more names are counted, one after the other. -/
def tallyAll (counts : List (String × Nat)) (keys : List String) : List (String × Nat) :=
  keys.foldl (fun counts key => tally key counts) counts

/-- A list of counts stays one when more names are counted. -/
theorem Tallied.tallyAll (h : Tallied counts) (keys : List String) : Tallied (tallyAll counts keys) := by
  induction keys generalizing counts with
  | nil => exact h
  | cons key keys ih => exact ih (h.tally key)

/-- Every name is counted as often as it is among those names, on top of what there was. -/
theorem countOf_tallyAll (counts : List (String × Nat)) (keys : List String) (name : String) :
    countOf (tallyAll counts keys) name = countOf counts name + keys.count name := by
  induction keys generalizing counts with
  | nil => rfl
  | cons key keys ih =>
    change countOf (tallyAll (tally key counts) keys) name = _
    rw [ih, countOf_tally, List.count_cons]
    by_cases hname : name = key
    · rw [if_pos hname, if_pos (by simp [hname])]
      omega
    · rw [if_neg hname, if_neg (by simpa using Ne.symm hname)]
      omega

theorem sum_tallyAll (counts : List (String × Nat)) (keys : List String) :
    ((tallyAll counts keys).map Prod.snd).sum = (counts.map Prod.snd).sum + keys.length := by
  induction keys generalizing counts with
  | nil => rfl
  | cons key keys ih =>
    change ((tallyAll (tally key counts) keys).map Prod.snd).sum = _
    rw [ih, sum_tally, List.length_cons]
    omega

/-! ## Packages -/

/-- Whether a name of an entry is that of a class. -/
def IsClass (name : String) : Prop :=
  ∃ front : String, name = front ++ ".class"

/-- Whether a text is the package of a name: what stands in front of the last slash, or nothing if there
is no slash. -/
def InPackage (package name : String) : Prop :=
  (∃ last : String, '/' ∉ last.toList ∧ name = package ++ "/" ++ last) ∨
    '/' ∉ name.toList ∧ package = ""

theorem mem_classNames_iff : name ∈ classNames names ↔ name ∈ names ∧ IsClass name := by
  rw [classNames, List.mem_filter, Text.endsWith_iff]
  refine and_congr_right fun _ => ⟨fun ⟨front, hfront⟩ => ⟨String.ofList front, ?_⟩, ?_⟩
  · rw [← String.toList_inj, ← hfront, String.toList_append, String.toList_ofList]
    rfl
  · rintro ⟨front, rfl⟩
    rw [String.toList_append]
    exact List.suffix_append _ _

/-- Every name has one package. -/
theorem packageOf_eq_iff : packageOf name = package ↔ InPackage package name := by
  have hslash : ∀ last : String, name = package ++ "/" ++ last ↔
      name.toList = package.toList ++ '/' :: last.toList := by
    intro last
    rw [← String.toList_inj, String.toList_append, String.toList_append, List.append_assoc]
    rfl
  unfold packageOf
  cases hcut : Text.cutLast '/' name.toList with
  | none =>
    have hnone := Text.cutLast_eq_none_iff.mp hcut
    constructor
    · exact fun h => .inr ⟨hnone, h.symm⟩
    · rintro (⟨last, _, hname⟩ | ⟨_, rfl⟩)
      · rw [hslash] at hname
        exact absurd (by rw [hname]; simp) hnone
      · rfl
  | some cut =>
    obtain ⟨before, after⟩ := cut
    obtain ⟨hname, hafter⟩ := Text.cutLast_eq_some_iff.mp hcut
    constructor
    · rintro rfl
      exact .inl ⟨String.ofList after, by simpa using hafter, (hslash _).mpr (by simpa using hname)⟩
    · rintro (⟨last, hlast, hsame⟩ | ⟨hnone, _⟩)
      · have hcut' := Text.cutLast_eq_some_iff.mpr ⟨(hslash last).mp hsame, hlast⟩
        rw [hcut, Option.some.injEq, Prod.mk.injEq] at hcut'
        rw [← String.toList_inj, ← hcut'.1, String.toList_ofList]
      · exact absurd (by rw [hname]; simp) hnone

theorem packages_eq_tallyAll (names : List String) :
    packages names = tallyAll [] ((classNames names).map packageOf) := by
  rw [tallyAll, List.foldl_map]
  rfl

theorem tallied_packages (names : List String) : Tallied (packages names) := by
  rw [packages_eq_tallyAll]
  exact Tallied.nil.tallyAll _

/-- A package is counted as often as there are classes in it. -/
theorem countOf_packages (names : List String) (package : String) :
    countOf (packages names) package =
      ((classNames names).filter fun name => packageOf name == package).length := by
  rw [packages_eq_tallyAll, countOf_tallyAll, countOf_nil, Nat.zero_add, List.count_eq_countP,
    List.countP_map, List.countP_eq_length_filter]
  rfl

theorem sum_packages (names : List String) :
    ((packages names).map Prod.snd).sum = (classNames names).length := by
  rw [packages_eq_tallyAll, sum_tallyAll, List.length_map]
  exact Nat.zero_add _

/-- The order of the names makes no difference. -/
theorem packages_eq_of_perm {names' : List String} (h : names.Perm names') :
    packages names = packages names' := by
  refine (tallied_packages names).eq_of_countOf (tallied_packages names') fun package => ?_
  rw [countOf_packages, countOf_packages]
  exact ((h.filter _).filter _).length_eq

/-! ## Jars -/

/-- A list without repetitions has as many members as its length says. -/
theorem ncard_eq_length {list : List String} (h : list.Nodup) {p : String → Prop}
    (hp : ∀ name, p name ↔ name ∈ list) : {name | p name}.ncard = list.length := by
  have hlist : {name | p name} = (list.toFinset : Set String) := Set.ext fun name => by simp [hp]
  rw [hlist, Set.ncard_coe_finset, List.toFinset_card_of_nodup h]

variable {machine : Machine} {host : Host} {jar : Path} {archive : Zip.Archive}

/-- Summarizing a jar that can be read gives the packages of the names in it, and changes nothing. -/
theorem on_summarizeJar (h : Holds machine jar archive host.files) :
    (summarizeJar jar).on machine host = (.ok (packages archive.names), host) := by
  obtain ⟨bytes, hread, harchive⟩ := h
  unfold summarizeJar readBytes?
  rw [on_bind_of_ok _ (on_look _), hread, readArchive, harchive]
  rfl

theorem nodup_names_of_holds (h : Holds machine jar archive host.files) : archive.names.Nodup := by
  obtain ⟨_, _, harchive⟩ := h
  exact Zip.nodup_names_of_ofBytes harchive

/-- What summarizing a jar gives that can be read: the packages in the strict order of their bytes, and
each that has a class with the number of them.  The numbers add up to that of all classes.  A jar with the
same names, in whatever order, gives the same. -/
theorem summarizeJar_counts (h : Holds machine jar archive host.files) :
    ∃ counts, (summarizeJar jar).on machine host = (.ok counts, host) ∧
      (counts.map fun entry => (Text.toBytes entry.1).data.toList).Pairwise (· < ·) ∧
      (∀ package count, (package, count) ∈ counts ↔ 0 < count ∧
        count = {name | name ∈ archive.names ∧ IsClass name ∧ InPackage package name}.ncard) ∧
      (counts.map Prod.snd).sum = {name | name ∈ archive.names ∧ IsClass name}.ncard ∧
      ∀ (machine' : Machine) (host' : Host) (jar' : Path) (archive' : Zip.Archive),
        Holds machine' jar' archive' host'.files →
        (∀ name, name ∈ archive'.names ↔ name ∈ archive.names) →
        (summarizeJar jar').on machine' host' = (.ok counts, host') := by
  have hclasses : (classNames archive.names).Nodup := (nodup_names_of_holds h).filter _
  refine ⟨packages archive.names, on_summarizeJar h, ?_, fun package count => ?_, ?_,
    fun machine' host' jar' archive' h' hsame => ?_⟩
  · have hsorted := (tallied_packages archive.names).sorted
    rw [List.pairwise_map] at hsorted ⊢
    exact hsorted.imp Text.toBytes_lt
  · have hmem : ∀ name, (name ∈ archive.names ∧ IsClass name ∧ InPackage package name) ↔
        name ∈ (classNames archive.names).filter fun name => packageOf name == package := by
      intro name
      rw [List.mem_filter, mem_classNames_iff, beq_iff_eq, packageOf_eq_iff, and_assoc]
    rw [(tallied_packages archive.names).mem_iff, countOf_packages,
      ncard_eq_length (hclasses.filter _) hmem]
  · rw [sum_packages, ncard_eq_length hclasses fun name => mem_classNames_iff.symm]
  · have hperm : archive'.names.Perm archive.names :=
      (List.perm_ext_iff_of_nodup (nodup_names_of_holds h') (nodup_names_of_holds h)).mpr hsame
    rw [on_summarizeJar h', packages_eq_of_perm hperm]

/-- The bytes of a jar with three classes, the second of which has no package. -/
def classBytes : ByteArray :=
  ⟨#[
    80, 75, 3, 4, 20, 0, 0, 0, 0, 0, 0, 0, 33, 0, 0, 0, 0, 0, 0, 0, 0, 0, 0, 0, 0, 0, 9, 0, 0, 0,
    97, 47, 66, 46, 99, 108, 97, 115, 115, 80, 75, 3, 4, 20, 0, 0, 0, 0, 0, 0, 0, 33, 0, 0, 0, 0, 0,
    0, 0, 0, 0, 0, 0, 0, 0, 7, 0, 0, 0, 67, 46, 99, 108, 97, 115, 115, 80, 75, 3, 4, 20, 0, 0, 0, 0,
    0, 0, 0, 33, 0, 0, 0, 0, 0, 0, 0, 0, 0, 0, 0, 0, 0, 9, 0, 0, 0, 97, 47, 68, 46, 99, 108, 97,
    115, 115, 80, 75, 1, 2, 20, 3, 20, 0, 0, 0, 0, 0, 0, 0, 33, 0, 0, 0, 0, 0, 0, 0, 0, 0, 0, 0, 0,
    0, 9, 0, 0, 0, 0, 0, 0, 0, 0, 0, 0, 0, 128, 1, 0, 0, 0, 0, 97, 47, 66, 46, 99, 108, 97, 115,
    115, 80, 75, 1, 2, 20, 3, 20, 0, 0, 0, 0, 0, 0, 0, 33, 0, 0, 0, 0, 0, 0, 0, 0, 0, 0, 0, 0, 0, 7,
    0, 0, 0, 0, 0, 0, 0, 0, 0, 0, 0, 128, 1, 39, 0, 0, 0, 67, 46, 99, 108, 97, 115, 115, 80, 75, 1,
    2, 20, 3, 20, 0, 0, 0, 0, 0, 0, 0, 33, 0, 0, 0, 0, 0, 0, 0, 0, 0, 0, 0, 0, 0, 9, 0, 0, 0, 0, 0,
    0, 0, 0, 0, 0, 0, 128, 1, 76, 0, 0, 0, 97, 47, 68, 46, 99, 108, 97, 115, 115, 80, 75, 5, 6, 0,
    0, 0, 0, 3, 0, 3, 0, 163, 0, 0, 0, 115, 0, 0, 0, 0, 0]⟩

/-- The archive that these bytes hold. -/
def classArchive : Zip.Archive :=
  ⟨classBytes, [⟨"a/B.class", false, 0, 0, 0, 0, 39, some 384⟩,
    ⟨"C.class", false, 0, 0, 0, 39, 76, some 384⟩, ⟨"a/D.class", false, 0, 0, 0, 76, 115, some 384⟩]⟩

/-- A host with this jar as its only file. -/
def classHost : Host :=
  .ofFiles ⟨[(["p"], .file classBytes false)]⟩

theorem holds_classHost : Holds idleMachine ⟨"/p"⟩ classArchive classHost.files := by
  have hrecord : Zip.readEndRecord classBytes 278 = .ok ⟨0, 115, 3, true⟩ := by decide +kernel
  have hentries : Zip.readDirectory classBytes ⟨0, 115, 3, true⟩ = .ok classArchive.entries := by
    decide +kernel
  exact ⟨classBytes, rfl, Zip.ofBytes_of_last (by decide +kernel) (by decide +kernel)
    (by decide +kernel) hrecord hentries⟩

/-- Two classes of this jar are in the package that is shown behind the one without a name. -/
theorem summarizeJar_counts_classHost :
    (summarizeJar ⟨"/p"⟩).on idleMachine classHost = (.ok [("", 1), ("a", 2)], classHost) ∧
      {name | name ∈ classArchive.names ∧ IsClass name ∧ InPackage "a" name}.ncard = 2 := by
  obtain ⟨counts, hrun, _, hcounts, _⟩ := summarizeJar_counts holds_classHost
  have hpackages : packages classArchive.names = [("", 1), ("a", 2)] := by decide +kernel
  have hsame : counts = [("", 1), ("a", 2)] := by
    rw [on_summarizeJar holds_classHost, hpackages, Prod.mk.injEq, Except.ok.injEq] at hrun
    exact hrun.1.symm
  rw [hsame] at hrun hcounts
  exact ⟨hrun, ((hcounts "a" 2).mp (by simp)).2.symm⟩

end DumpReplay.Dump
