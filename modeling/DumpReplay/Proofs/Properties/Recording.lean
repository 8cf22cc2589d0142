import DumpReplay.Properties
import Mathlib.Data.List.Nodup

/-!
# What properties record

Properties come about by settings: a text has one in every line with an equals sign, and further ones
may be inserted.  Whatever the settings were, the properties say what was said last about every key,
and have the keys in the order in which they came first.

Main results:

- `Records.insert`, `Records.insertAll` : what one setting, and what any number of them, adds to the
  record.
- `parse_eq_insertAll` : a text is read by inserting its entries one after the other.
- `records_parse` : the properties of a text record its entries.
- `insertAll_entries` : inserting what some settings came to is inserting the settings.
-/

namespace DumpReplay.Properties

variable {properties : Properties} {history entries : List (String × String)}
  {key other value later : String}

/-! ## Settings -/

/-- Insert entries one after the other. -/
def insertAll (properties : Properties) (entries : List (String × String)) : Properties :=
  entries.foldl (fun properties entry => properties.insert entry.1 entry.2) properties

@[simp] theorem insertAll_nil (properties : Properties) : properties.insertAll [] = properties := rfl

@[simp] theorem insertAll_cons (properties : Properties) (entry : String × String)
    (entries : List (String × String)) :
    properties.insertAll (entry :: entries) = (properties.insert entry.1 entry.2).insertAll entries :=
  rfl

theorem insertAll_append (properties : Properties) (first second : List (String × String)) :
    properties.insertAll (first ++ second) = (properties.insertAll first).insertAll second :=
  List.foldl_append

/-- The value that a history of settings gave to a key last. -/
def lastValue? (history : List (String × String)) (key : String) : Option String :=
  history.reverse.lookup key

theorem lastValue?_concat (history : List (String × String)) (key value other : String) :
    lastValue? (history ++ [(key, value)]) other =
      if other = key then some value else lastValue? history other := by
  rw [lastValue?, List.reverse_append, List.reverse_singleton, List.singleton_append]
  by_cases h : other = key
  · rw [h, List.lookup_cons_self, if_pos rfl]
  · rw [List.lookup_cons, beq_eq_false_iff_ne.mpr h, if_neg h, lastValue?]

/-! ## Keys -/

theorem isSome_lookup_iff : (entries.lookup key).isSome ↔ key ∈ entries.map Prod.fst := by
  rw [List.lookup_isSome_iff, List.mem_map]
  simp only [beq_iff_eq, eq_comm (a := key)]

/-- The keys are those that have a value. -/
theorem mem_keys_iff : key ∈ properties.keys ↔ (properties.get? key).isSome :=
  isSome_lookup_iff.symm

/-- The keys that were set are those for which there is a last value. -/
theorem isSome_lastValue?_iff : (lastValue? history key).isSome ↔ key ∈ history.map Prod.fst := by
  rw [lastValue?, isSome_lookup_iff, List.map_reverse, List.mem_reverse]

/-- No key comes twice by an insertion. -/
theorem nodup_keys_insert (h : properties.keys.Nodup) (key value : String) :
    (properties.insert key value).keys.Nodup := by
  rw [keys_insert]
  split
  · exact h
  · rename_i hkey
    rw [List.nodup_append]
    refine ⟨h, List.nodup_singleton key, ?_⟩
    rintro other hother _ hmem rfl
    rw [List.mem_singleton] at hmem
    exact hkey (hmem ▸ hother)

/-! ## The order of settings -/

/-- In a history of settings, one key came for the first time before another one did. -/
def CameBefore (history : List (String × String)) (key other : String) : Prop :=
  (history.map Prod.fst).idxOf key < (history.map Prod.fst).idxOf other

/-- Further settings do not change which of two keys came before the other. -/
theorem CameBefore.append (h : CameBefore history key other) (hkey : key ∈ history.map Prod.fst)
    (hother : other ∈ history.map Prod.fst) (entries : List (String × String)) :
    CameBefore (history ++ entries) key other := by
  rw [CameBefore, List.map_append, List.idxOf_append_of_mem hkey, List.idxOf_append_of_mem hother]
  exact h

/-- A key that was set came before one that was not. -/
theorem cameBefore_of_new (hkey : key ∈ history.map Prod.fst) (hnew : other ∉ history.map Prod.fst)
    (entries : List (String × String)) : CameBefore (history ++ entries) key other := by
  rw [CameBefore, List.map_append, List.idxOf_append_of_mem hkey, List.idxOf_append_of_notMem hnew]
  exact Nat.lt_add_right _ (List.idxOf_lt_length_of_mem hkey)

/-! ## Records -/

/-- Properties record a history of settings. -/
structure Records (properties : Properties) (history : List (String × String)) : Prop where
  /-- No key is there twice. -/
  nodup : properties.keys.Nodup
  /-- Every key has the value that it was given last, and no other key has a value. -/
  get?_eq : ∀ key, properties.get? key = lastValue? history key
  /-- The keys are in the order in which they came first. -/
  order : properties.keys.Pairwise (CameBefore history)

theorem records_empty : Records empty [] where
  nodup := .nil
  get?_eq := fun _ => rfl
  order := .nil

namespace Records

/-- The keys of properties are those that were set. -/
theorem mem_keys_iff (h : Records properties history) :
    key ∈ properties.keys ↔ key ∈ history.map Prod.fst := by
  rw [Properties.mem_keys_iff, h.get?_eq, isSome_lastValue?_iff]

/-- One setting more is recorded by inserting it. -/
theorem insert (h : Records properties history) (key value : String) :
    Records (properties.insert key value) (history ++ [(key, value)]) where
  nodup := nodup_keys_insert h.nodup key value
  get?_eq := by
    intro other
    rw [get?_insert, lastValue?_concat, h.get?_eq]
  order := by
    have hkept : properties.keys.Pairwise (CameBefore (history ++ [(key, value)])) := by
      refine h.order.imp_of_mem fun {first second} hfirst hsecond hbefore => ?_
      exact hbefore.append (h.mem_keys_iff.mp hfirst) (h.mem_keys_iff.mp hsecond) _
    rw [keys_insert]
    split
    · exact hkept
    · rename_i hkey
      rw [List.pairwise_append]
      refine ⟨hkept, List.pairwise_singleton _ key, ?_⟩
      intro first hfirst second hsecond
      rw [List.mem_singleton.mp hsecond]
      exact cameBefore_of_new (h.mem_keys_iff.mp hfirst) (mt h.mem_keys_iff.mpr hkey) _

/-- Any number of further settings is recorded by inserting them. -/
theorem insertAll (h : Records properties history) (entries : List (String × String)) :
    Records (properties.insertAll entries) (history ++ entries) := by
  induction entries generalizing properties history with
  | nil =>
    rw [List.append_nil]
    exact h
  | cons entry entries ih =>
    have hnext := ih (h.insert entry.1 entry.2)
    rw [List.append_assoc, List.singleton_append] at hnext
    exact hnext

end Records

/-! ## Texts -/

/-- The entry of a line: the text before its first equals sign and the text behind it, without the
blanks at the ends of the line. -/
def entryOf? (line : List Char) : Option (String × String) :=
  (Text.cutFirst '=' (Text.trim line)).map fun cut => (String.ofList cut.1, String.ofList cut.2)

/-- The entries of a text, one for each line with an equals sign. -/
def recorded (content : String) : List (String × String) :=
  (Text.lines content.toList).filterMap entryOf?

/-- What a line says is its entry, if it has one. -/
theorem apply_readLine (properties : Properties) (line : List Char) :
    properties.apply (readLine line) = properties.insertAll (entryOf? line).toList := by
  unfold readLine entryOf?
  cases Text.trim line with
  | nil => rfl
  | cons c cs => cases hcut : Text.cutFirst '=' (c :: cs) <;> simp [hcut, apply]

/-- Lines are taken over by inserting their entries one after the other. -/
theorem foldl_apply_readLine (lines : List (List Char)) (properties : Properties) :
    (lines.map readLine).foldl apply properties =
      properties.insertAll (lines.filterMap entryOf?) := by
  induction lines generalizing properties with
  | nil => rfl
  | cons line lines ih =>
    rw [List.map_cons, List.foldl_cons, apply_readLine, ih, List.filterMap_cons]
    cases entryOf? line <;> rfl

/-- A text is read by inserting its entries one after the other. -/
theorem parse_eq_insertAll (content : String) : parse content = empty.insertAll (recorded content) :=
  foldl_apply_readLine _ _

/-- The properties of a text record its entries. -/
theorem records_parse (content : String) : Records (parse content) (recorded content) := by
  rw [parse_eq_insertAll]
  exact records_empty.insertAll _

/-- A key that comes again keeps its place and takes the later value. -/
example : (parse "a=1\r\nb=2\n\na=3=").entries = [("a", "3="), ("b", "2")] := by
  decide

/-! ## Insertions after insertions -/

theorem insertEntry_insertEntry (key value later : String) (entries : List (String × String)) :
    insertEntry key later (insertEntry key value entries) = insertEntry key later entries := by
  induction entries with
  | nil => simp [insertEntry]
  | cons entry entries ih =>
    by_cases h : entry.1 = key
    · simp [insertEntry, h]
    · simp [insertEntry, h, ih]

/-- Of two insertions for one key, the second one counts. -/
theorem insert_insert (properties : Properties) (key value later : String) :
    (properties.insert key value).insert key later = properties.insert key later :=
  congrArg Properties.mk (insertEntry_insertEntry key value later properties.entries)

theorem insertEntry_comm (hkey : key ∈ entries.map Prod.fst) (hne : key ≠ other)
    (value later : String) :
    insertEntry key value (insertEntry other later entries) =
      insertEntry other later (insertEntry key value entries) := by
  induction entries with
  | nil => simp at hkey
  | cons entry entries ih =>
    obtain ⟨k, v⟩ := entry
    by_cases h : k = key
    · subst h
      simp [insertEntry, hne]
    · have hrest : key ∈ entries.map Prod.fst := by
        simpa [Ne.symm h] using hkey
      by_cases ho : k = other
      · simp [insertEntry, ho, Ne.symm hne]
      · simp [insertEntry, h, ho, ih hrest]

/-- A key that is there may be set before or after another one. -/
theorem insert_comm (hkey : key ∈ properties.keys) (hne : key ≠ other) (value later : String) :
    (properties.insert other later).insert key value =
      (properties.insert key value).insert other later :=
  congrArg Properties.mk (insertEntry_comm hkey hne value later)

/-- A key that is there may be set before or after other ones. -/
theorem insert_insertAll (hkey : key ∈ properties.keys) (hnew : key ∉ entries.map Prod.fst)
    (value : String) :
    (properties.insertAll entries).insert key value =
      (properties.insert key value).insertAll entries := by
  induction entries generalizing properties with
  | nil => rfl
  | cons entry entries ih =>
    rw [List.map_cons, List.mem_cons, not_or] at hnew
    have hkept : key ∈ (properties.insert entry.1 entry.2).keys := by
      rw [keys_insert]
      split
      · exact hkey
      · exact List.mem_append_left _ hkey
    rw [insertAll_cons, ih hkept hnew.2, insert_comm hkey hnew.1]
    rfl

/-- Inserting entries to which one was added is inserting them and then that one. -/
theorem insertAll_insertEntry (hnodup : (entries.map Prod.fst).Nodup) (key value : String) :
    properties.insertAll (insertEntry key value entries) =
      (properties.insertAll entries).insert key value := by
  induction entries generalizing properties with
  | nil => rfl
  | cons entry entries ih =>
    obtain ⟨k, v⟩ := entry
    rw [List.map_cons, List.nodup_cons] at hnodup
    by_cases h : k = key
    · subst h
      have hkey : k ∈ (properties.insert k v).keys := by
        rw [mem_keys_iff, get?_insert, if_pos rfl]
        rfl
      rw [insertEntry, if_pos rfl, insertAll_cons, insertAll_cons, insert_insertAll hkey hnodup.1,
        insert_insert]
    · rw [insertEntry, if_neg h, insertAll_cons, insertAll_cons, ih hnodup.2]

/-- Inserting what came of entries and of further settings is inserting these entries and then the
settings. -/
theorem insertAll_entries_insertAll {start : Properties} (h : start.keys.Nodup)
    (entries : List (String × String)) :
    properties.insertAll (start.insertAll entries).entries =
      (properties.insertAll start.entries).insertAll entries := by
  induction entries generalizing start with
  | nil => rfl
  | cons entry entries ih =>
    have hinserted : properties.insertAll (start.insert entry.1 entry.2).entries =
        (properties.insertAll start.entries).insert entry.1 entry.2 :=
      insertAll_insertEntry h entry.1 entry.2
    rw [insertAll_cons, insertAll_cons, ih (nodup_keys_insert h _ _), hinserted]

/-- Inserting what some settings came to is inserting the settings. -/
theorem insertAll_entries (properties : Properties) (entries : List (String × String)) :
    properties.insertAll (empty.insertAll entries).entries = properties.insertAll entries :=
  insertAll_entries_insertAll records_empty.nodup entries

end DumpReplay.Properties
