import DumpReplay.Text.Blank
import DumpReplay.Text.Line

/-!
# Build properties

The `key=value` lines that a dump records about the build it was taken from.  Keys keep the order
of their first line; a repeated key takes its last value.

Main results:

- `get?_insert` : an insertion changes the value of its own key and no other.
- `keys_insert` : an insertion keeps the keys and their order, and puts a new key last.
-/

namespace DumpReplay

/-- An ordered map of text keys to text values. -/
structure Properties where
  /-- The keys with their values, in the order in which the keys first came. -/
  entries : List (String × String)
deriving DecidableEq, Repr, Inhabited

namespace Properties

/-! ## The map -/

/-- No properties. -/
def empty : Properties :=
  ⟨[]⟩

/-- Whether there are no properties. -/
def isEmpty (properties : Properties) : Bool :=
  properties.entries.isEmpty

/-- The keys, in order. -/
def keys (properties : Properties) : List String :=
  properties.entries.map Prod.fst

/-- The value of a key. -/
def get? (properties : Properties) (key : String) : Option String :=
  properties.entries.lookup key

/-- Whether a key has a value. -/
def contains (properties : Properties) (key : String) : Bool :=
  (properties.get? key).isSome

/-- Whether the value of a key is the word `true`, in letters of either case. -/
def isTrue (properties : Properties) (key : String) : Bool :=
  match properties.get? key with
  | some value => Text.equalIgnoringCase value.toList "true".toList
  | none => false

/-- Set a key in a list of entries: in its place if it is there, else at the end. -/
def insertEntry (key value : String) : List (String × String) → List (String × String)
  | [] => [(key, value)]
  | (k, v) :: rest =>
    if k = key then (k, value) :: rest else (k, v) :: insertEntry key value rest

/-- Set the value of a key. -/
def insert (properties : Properties) (key value : String) : Properties :=
  ⟨insertEntry key value properties.entries⟩

theorem lookup_insertEntry (key value other : String) (entries : List (String × String)) :
    (insertEntry key value entries).lookup other =
      if other = key then some value else entries.lookup other := by
  induction entries with
  | nil => by_cases h : other = key <;> grind [insertEntry]
  | cons entry rest ih =>
    obtain ⟨k, v⟩ := entry
    by_cases hk : k = key <;> by_cases ho : other = k <;> grind [insertEntry]

/-- An insertion changes the value of its own key and no other. -/
@[simp] theorem get?_insert (properties : Properties) (key value other : String) :
    (properties.insert key value).get? other =
      if other = key then some value else properties.get? other :=
  lookup_insertEntry key value other properties.entries

theorem map_fst_insertEntry (key value : String) (entries : List (String × String)) :
    (insertEntry key value entries).map Prod.fst =
      if key ∈ entries.map Prod.fst then entries.map Prod.fst
      else entries.map Prod.fst ++ [key] := by
  induction entries with
  | nil => simp [insertEntry]
  | cons entry rest ih =>
    obtain ⟨k, v⟩ := entry
    by_cases hk : k = key
    · simp [insertEntry, hk]
    · have hk' : ¬ key = k := fun h => hk h.symm
      simp only [insertEntry, hk, if_false, List.map_cons, ih, List.mem_cons, hk', false_or]
      split <;> simp

/-- An insertion keeps the keys and their order, and puts a new key last. -/
theorem keys_insert (properties : Properties) (key value : String) :
    (properties.insert key value).keys =
      if key ∈ properties.keys then properties.keys else properties.keys ++ [key] :=
  map_fst_insertEntry key value properties.entries

/-! ## Reading -/

/-- What a line of a properties file says. -/
inductive Line where
  /-- Nothing but blanks. -/
  | blank
  /-- A key and the text behind the first equals sign. -/
  | entry (key value : String)
  /-- Text without an equals sign. -/
  | malformed (text : String)
deriving DecidableEq, Repr

/-- Read one line, without the blanks at its ends. -/
def readLine (line : List Char) : Line :=
  let stripped := Text.trim line
  if stripped.isEmpty then .blank
  else
    match Text.cutFirst '=' stripped with
    | some (key, value) => .entry (String.ofList key) (String.ofList value)
    | none => .malformed (String.ofList stripped)

/-- Take over what a line says. -/
def apply (properties : Properties) : Line → Properties
  | .entry key value => properties.insert key value
  | _ => properties

/-- The lines of a text, read one by one. -/
def readLines (content : String) : List Line :=
  (Text.lines content.toList).map readLine

/-- The properties that a text gives. -/
def parse (content : String) : Properties :=
  (readLines content).foldl apply empty

/-- The lines of a text that are neither blank nor entries, in order. -/
def malformedLines (content : String) : List String :=
  (readLines content).filterMap fun line =>
    match line with
    | .malformed text => some text
    | _ => none

/-! ## System properties -/

/-- The beginning of the keys that record a system property of the build. -/
def systemPropertyStart : String :=
  "system-property-"

/-- The ends of names of system properties that would make the compiler write a dump again. -/
def dumpingEnds : List String :=
  ["dumpinputtofile", "dumpinputtodirectory"]

/-- The name of the system property that a key records, unless it would make the compiler write a
dump again. -/
def forwardedName? (key : String) : Option String :=
  match Text.afterStart systemPropertyStart.toList key.toList with
  | none => none
  | some name =>
    if dumpingEnds.any fun ending => Text.endsWith ending.toList name then none
    else some (String.ofList name)

/-- The flag that sets a system property. -/
def definition (name value : String) : String :=
  if value.isEmpty then "-D" ++ name else "-D" ++ name ++ "=" ++ value

/-- The flags for all recorded system properties that are forwarded, in order. -/
def systemProperties (properties : Properties) : List String :=
  properties.entries.filterMap fun (key, value) =>
    (forwardedName? key).map fun name => definition name value

end Properties

end DumpReplay
