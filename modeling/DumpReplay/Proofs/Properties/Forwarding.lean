import DumpReplay.Proofs.Properties.Recording

/-!
# Forwarded system properties

A dump records the system properties of its build, and a replay sets them again by flags.  The flags
can be read back: a key has no equals sign, so that the first one in a flag is that between name and
value.  No name is set twice, those that would make the compiler write a dump again are left out, and
all others are set to the value of their last line, in the order of their first lines.

Main results:

- `forwardedName?_eq_some_iff` : which keys are forwarded, and under which names.
- `readDefinition_definition` : a flag gives back its name and its value.
- `mem_forwarded_iff`, `Records.forwarded_order` : which properties are set, and in which order.
- `systemProperties_decode` : what the flags for the properties of a text say.
-/

namespace DumpReplay

namespace Properties

variable {properties : Properties} {history : List (String × String)} {key name value : String}

/-! ## Names -/

/-- A system property that would make the compiler write a dump again. -/
def WritesDump (name : String) : Prop :=
  "dumpinputtofile".toList <:+ name.toList ∨ "dumpinputtodirectory".toList <:+ name.toList

theorem any_endsWith_iff (name : List Char) :
    (dumpingEnds.any fun ending => Text.endsWith ending.toList name) = true ↔
      WritesDump (String.ofList name) := by
  simp [dumpingEnds, Text.endsWith_iff, WritesDump]

/-- A key is forwarded under its name exactly if it records a system property that does not make the
compiler write a dump again. -/
theorem forwardedName?_eq_some_iff :
    forwardedName? key = some name ↔ key = "system-property-" ++ name ∧ ¬ WritesDump name := by
  have hkey : ∀ text : List Char,
      Text.afterStart systemPropertyStart.toList key.toList = some text ↔
        key = systemPropertyStart ++ String.ofList text := by
    intro text
    rw [Text.afterStart_eq_some_iff, ← String.toList_inj, String.toList_append, String.toList_ofList]
  unfold forwardedName?
  constructor
  · intro h
    split at h
    · exact absurd h (by simp)
    · rename_i text hstart
      split at h
      · exact absurd h (by simp)
      · rename_i hends
        rw [← Option.some.inj h]
        exact ⟨(hkey text).mp hstart, mt (any_endsWith_iff text).mpr hends⟩
  · rintro ⟨hstart, hends⟩
    have htext := (hkey name.toList).mpr (by rw [String.ofList_toList]; exact hstart)
    have hnone : ¬ (dumpingEnds.any fun ending => Text.endsWith ending.toList name.toList) = true := by
      rw [any_endsWith_iff, String.ofList_toList]
      exact hends
    simp [htext, hnone]

/-- The names and values of the system properties that are forwarded, in order. -/
def forwarded (properties : Properties) : List (String × String) :=
  properties.entries.filterMap fun (key, value) => (forwardedName? key).map fun name => (name, value)

/-- The flags are those for the properties that are forwarded. -/
theorem systemProperties_eq (properties : Properties) :
    properties.systemProperties =
      properties.forwarded.map fun (name, value) => definition name value := by
  rw [systemProperties, forwarded, List.map_filterMap]
  simp only [Option.map_map]
  rfl

/-! ## Flags -/

/-- The name that a flag for a system property sets and, behind its first equals sign, the value. -/
def readDefinition (flag : String) : Option (String × Option String) :=
  (Text.afterStart "-D".toList flag.toList).map fun text =>
    match Text.cutFirst '=' text with
    | some (name, value) => (String.ofList name, some (String.ofList value))
    | none => (String.ofList text, none)

/-- A flag gives back its name, if that has no equals sign, and its value, if that is not empty. -/
theorem readDefinition_definition (hname : '=' ∉ name.toList) (value : String) :
    readDefinition (definition name value) = some (name, if value = "" then none else some value) := by
  by_cases hvalue : value = ""
  · have hstart : Text.afterStart "-D".toList (definition name value).toList = some name.toList := by
      rw [Text.afterStart_eq_some_iff, definition, hvalue]
      simp
    have hcut : Text.cutFirst '=' name.toList = none := Text.cutFirst_eq_none_iff.mpr hname
    rw [readDefinition, hstart, Option.map_some, hcut, if_pos hvalue, String.ofList_toList]
  · have hstart : Text.afterStart "-D".toList (definition name value).toList =
        some (name.toList ++ '=' :: value.toList) := by
      rw [Text.afterStart_eq_some_iff, definition]
      simp [hvalue]
    have hcut : Text.cutFirst '=' (name.toList ++ '=' :: value.toList) =
        some (name.toList, value.toList) :=
      Text.cutFirst_eq_some_iff.mpr ⟨rfl, hname⟩
    rw [readDefinition, hstart, Option.map_some, hcut, if_neg hvalue]
    dsimp only
    rw [String.ofList_toList, String.ofList_toList]

/-! ## Properties -/

/-- With every key there once, an entry is a key with its value. -/
theorem mem_entries_iff (h : properties.keys.Nodup) :
    (key, value) ∈ properties.entries ↔ properties.get? key = some value := by
  obtain ⟨entries⟩ := properties
  rw [keys, get?] at *
  dsimp only at h ⊢
  induction entries with
  | nil => simp
  | cons entry entries ih =>
    obtain ⟨k, v⟩ := entry
    rw [List.map_cons, List.nodup_cons] at h
    by_cases hkey : key = k
    · subst hkey
      have hnew : (key, value) ∉ entries := by
        intro hmem
        exact h.1 (List.mem_map.mpr ⟨_, hmem, rfl⟩)
      simp [hnew, eq_comm]
    · rw [List.lookup_cons, beq_eq_false_iff_ne.mpr hkey, ← ih h.2]
      simp [hkey]

/-- A system property is set to a value exactly if its key has this value and it does not make the
compiler write a dump again. -/
theorem mem_forwarded_iff (h : properties.keys.Nodup) :
    (name, value) ∈ properties.forwarded ↔
      ¬ WritesDump name ∧ properties.get? ("system-property-" ++ name) = some value := by
  rw [forwarded, List.mem_filterMap, ← mem_entries_iff h]
  constructor
  · rintro ⟨⟨key, found⟩, hmem, hname⟩
    obtain ⟨_, hforwarded, hpair⟩ := Option.map_eq_some_iff.mp hname
    obtain ⟨rfl, rfl⟩ := Prod.mk.inj hpair
    obtain ⟨rfl, hdump⟩ := forwardedName?_eq_some_iff.mp hforwarded
    exact ⟨hdump, hmem⟩
  · rintro ⟨hdump, hmem⟩
    refine ⟨_, hmem, ?_⟩
    dsimp only
    rw [forwardedName?_eq_some_iff.mpr ⟨rfl, hdump⟩, Option.map_some]

/-- System properties are set in the order in which their keys came first. -/
theorem Records.forwarded_order (h : Records properties history) :
    properties.forwarded.Pairwise fun first second =>
      CameBefore history ("system-property-" ++ first.1) ("system-property-" ++ second.1) := by
  have hentries := List.pairwise_map.mp h.order
  refine hentries.filterMap _ ?_
  rintro ⟨key, value⟩ ⟨other, later⟩ hbefore first hfirst second hsecond
  obtain ⟨name, hname, rfl⟩ := Option.map_eq_some_iff.mp hfirst
  obtain ⟨name', hname', rfl⟩ := Option.map_eq_some_iff.mp hsecond
  rw [(forwardedName?_eq_some_iff.mp hname).1, (forwardedName?_eq_some_iff.mp hname').1] at hbefore
  exact hbefore

/-! ## Texts -/

/-- The key of an entry of a text has no equals sign. -/
theorem equals_not_mem_of_recorded {content : String} (h : key ∈ (recorded content).map Prod.fst) :
    '=' ∉ key.toList := by
  obtain ⟨⟨_, value⟩, hentry, rfl⟩ := List.mem_map.mp h
  obtain ⟨line, -, hline⟩ := List.mem_filterMap.mp hentry
  obtain ⟨cut, hcut, hpair⟩ := Option.map_eq_some_iff.mp hline
  obtain ⟨rfl, -⟩ := Prod.mk.inj hpair
  rw [String.toList_ofList]
  exact (Text.cutFirst_eq_some_iff.mp hcut).2

/-- What the flags for the system properties of a text say.  Read back, they are pairs of names and
values, in order; the value of a flag without an equals sign is empty.  There is one pair for every key
of the text that records a system property which does not make the compiler write a dump again, it has
the value of the last line with that key, and the pairs are in the order of the first lines with their
keys. -/
theorem systemProperties_decode (content : String) :
    ∃ forwarded : List (String × String),
      (parse content).systemProperties.map readDefinition = forwarded.map (fun (name, value) =>
        some (name, if value = "" then none else some value)) ∧
      (forwarded.map Prod.fst).Nodup ∧
      (∀ name value, (name, value) ∈ forwarded ↔
        ¬ WritesDump name ∧
          lastValue? (recorded content) ("system-property-" ++ name) = some value) ∧
      forwarded.Pairwise fun first second =>
        CameBefore (recorded content) ("system-property-" ++ first.1)
          ("system-property-" ++ second.1) := by
  have hrecords := records_parse content
  have hmem : ∀ name value, (name, value) ∈ (parse content).forwarded ↔
      ¬ WritesDump name ∧
        lastValue? (recorded content) ("system-property-" ++ name) = some value := by
    intro name value
    rw [mem_forwarded_iff hrecords.nodup, hrecords.get?_eq]
  refine ⟨(parse content).forwarded, ?_, ?_, hmem, hrecords.forwarded_order⟩
  · rw [systemProperties_eq, List.map_map]
    refine List.map_congr_left fun (name, value) hforwarded => ?_
    have hset : "system-property-" ++ name ∈ (recorded content).map Prod.fst := by
      rw [← isSome_lastValue?_iff, ((hmem name value).mp hforwarded).2]
      rfl
    have hname : '=' ∉ name.toList := by
      have hkey := equals_not_mem_of_recorded hset
      rw [String.toList_append, List.mem_append, not_or] at hkey
      exact hkey.2
    exact readDefinition_definition hname value
  · refine List.pairwise_map.mpr (hrecords.forwarded_order.imp fun {first second} hbefore hsame => ?_)
    rw [CameBefore, hsame] at hbefore
    exact Nat.lt_irrefl _ hbefore

/-- One flag for each name, with the value of the last line, in which only the first equals sign is cut
at. -/
example : (parse "system-property-x=1\nsystem-property-x=a=b").systemProperties = ["-Dx=a=b"] := by
  decide

end Properties

end DumpReplay
