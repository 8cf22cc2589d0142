import DumpReplay.Host.IoError
import DumpReplay.Host.Path

/-!
# File trees

The files of a machine as a value: a finite list of locations with what is there.  Paths are
resolved the way the system does it, component by component; every operation gives the new tree or
the error the system answers with.

There are files and directories, and no links.  Of the access rights of a file only the right to run
it is kept: whoever runs the program may read and write everything.

Main results:

- `get?_insert` : after an insertion the location holds the new node and every other location what
  it held before.
- `get?_removeBelow` : a removal empties a location and everything below it, and nothing else.
-/

namespace DumpReplay

/-! ## Trees -/

/-- The names that lead from the root to a file. -/
abbrev Location := List String

/-- What stands at a location: a file or a directory, never a link. -/
inductive Node where
  /-- A file with its content, which may be marked as a program. -/
  | file (bytes : ByteArray) (executable : Bool)
  /-- A directory. -/
  | directory

namespace Node

/-- Whether a node is a directory. -/
def isDirectory : Node → Bool
  | directory => true
  | file _ _ => false

/-- Whether a node is a file that may be run. -/
def isProgram : Node → Bool
  | directory => false
  | file _ executable => executable

end Node

/-- The files of a machine.  Of two entries for one location the first counts. -/
structure FileTree where
  /-- The locations that are taken, with what is there. -/
  entries : List (Location × Node)

namespace FileTree

/-- A tree that has only its root. -/
def empty : FileTree :=
  ⟨[]⟩

instance : Inhabited FileTree :=
  ⟨empty⟩

/-- What stands at a location; the root is always a directory. -/
def get? (tree : FileTree) (location : Location) : Option Node :=
  if location = [] then some .directory else tree.entries.lookup location

/-- Put a node at a location, in place of what was there. -/
def insert (tree : FileTree) (location : Location) (node : Node) : FileTree :=
  ⟨(location, node) :: tree.entries.filter fun entry => entry.1 ≠ location⟩

/-- Remove a location and everything below it. -/
def removeBelow (tree : FileTree) (location : Location) : FileTree :=
  ⟨tree.entries.filter fun entry => !location.isPrefixOf entry.1⟩

theorem lookup_filter_fst {p : Location → Bool} (entries : List (Location × Node))
    (location : Location) :
    (entries.filter fun entry => p entry.1).lookup location =
      if p location then entries.lookup location else none := by
  induction entries with
  | nil => simp
  | cons entry entries ih =>
    obtain ⟨key, node⟩ := entry
    by_cases hp : p key <;> by_cases hk : location = key <;> grind

/-- An insertion changes its own location and no other. -/
theorem get?_insert (tree : FileTree) {location : Location} (node : Node) (other : Location)
    (h : location ≠ []) :
    (tree.insert location node).get? other =
      if other = location then some node else tree.get? other := by
  unfold get? insert
  by_cases ho : other = location
  · subst ho
    simp [h]
  · have hne : (other == location) = false := by simpa using ho
    simp only [ho, if_false, List.lookup_cons, hne]
    have := lookup_filter_fst (p := fun key => decide (key ≠ location)) tree.entries other
    simp only [ho, ne_eq, not_false_eq_true, decide_true, if_true] at this
    simp only [ne_eq]
    rw [this]

/-- A removal empties a location and everything below it, and nothing else. -/
theorem get?_removeBelow (tree : FileTree) (location other : Location) (h : other ≠ []) :
    (tree.removeBelow location).get? other =
      if location.isPrefixOf other then none else tree.get? other := by
  unfold get? removeBelow
  rw [if_neg h, if_neg h, lookup_filter_fst (p := fun key => !location.isPrefixOf key)]
  by_cases hp : location.isPrefixOf other <;> simp [hp]

/-! ## Resolving paths -/

/-- Follow names from a location.  Every name but the last must lead to a directory; what the last
leads to may be missing. -/
def descend (tree : FileTree) : Location → List String → Except IoError Location
  | here, [] => .ok here
  | here, name :: rest =>
    match tree.get? here with
    | none => .error .notFound
    | some (.file _ _) => .error .notADirectory
    | some .directory =>
      if name = "" || name = "." then tree.descend here rest
      else if name = ".." then tree.descend here.dropLast rest
      else if name.utf8ByteSize > 255 then .error .nameTooLong
      else tree.descend (here ++ [name]) rest

/-- The location that a relative path starts from. -/
def start (workingDirectory : Location) (path : Path) : Location :=
  if path.isAbsolute then [] else workingDirectory

/-- The location that a path leads to. -/
def locate (tree : FileTree) (workingDirectory : Location) (path : Path) :
    Except IoError Location :=
  if path.toList.contains '\x00' then .error .nulInPath
  else if path.text = "" then .error .notFound
  else if path.text.utf8ByteSize > 4095 then .error .nameTooLong
  else tree.descend (start workingDirectory path) path.segments

/-- What a path leads to. -/
def status (tree : FileTree) (workingDirectory : Location) (path : Path) : Except IoError Node := do
  match tree.get? (← tree.locate workingDirectory path) with
  | some node => .ok node
  | none => .error .notFound

/-- Whether a path leads to something. -/
def has (tree : FileTree) (workingDirectory : Location) (path : Path) : Bool :=
  match tree.status workingDirectory path with
  | .ok _ => true
  | .error _ => false

/-- Whether a path leads to a directory. -/
def hasDirectory (tree : FileTree) (workingDirectory : Location) (path : Path) : Bool :=
  match tree.status workingDirectory path with
  | .ok node => node.isDirectory
  | .error _ => false

/-- Whether a path leads to a file. -/
def hasFile (tree : FileTree) (workingDirectory : Location) (path : Path) : Bool :=
  match tree.status workingDirectory path with
  | .ok node => !node.isDirectory
  | .error _ => false

/-! ## Reading and writing -/

/-- The content of a file. -/
def read (tree : FileTree) (workingDirectory : Location) (path : Path) :
    Except IoError ByteArray := do
  match ← tree.status workingDirectory path with
  | .file bytes _ => .ok bytes
  | .directory => .error .isADirectory

/-- Write a file: an existing one keeps its mark as a program, a new one has none. -/
def write (tree : FileTree) (workingDirectory : Location) (path : Path) (bytes : ByteArray) :
    Except IoError FileTree := do
  let location ← tree.locate workingDirectory path
  match tree.get? location with
  | some .directory => .error .isADirectory
  | some (.file _ executable) => .ok (tree.insert location (.file bytes executable))
  | none => .ok (tree.insert location (.file bytes false))

/-- Mark a file as a program or not. -/
def setExecutable (tree : FileTree) (workingDirectory : Location) (path : Path)
    (executable : Bool) : FileTree :=
  match tree.locate workingDirectory path with
  | .error _ => tree
  | .ok location =>
    match tree.get? location with
    | some (.file bytes _) => tree.insert location (.file bytes executable)
    | _ => tree

/-! ## Directories -/

/-- Make the directory that some names lead to from a location. -/
def makeDirectory (tree : FileTree) (from_ : Location) (names : List String) :
    Except IoError FileTree := do
  let location ← tree.descend from_ names
  match tree.get? location with
  | some _ => .error .alreadyExists
  | none => .ok (tree.insert location .directory)

/-- Whether some names lead to a directory. -/
def leadsToDirectory (tree : FileTree) (from_ : Location) (names : List String) : Bool :=
  match tree.descend from_ names with
  | .ok location => (tree.get? location).any Node.isDirectory
  | .error _ => false

/-- The outcome of making a directory where one may stand already. -/
def settleDirectory (tree : FileTree) (from_ : Location) (names : List String) :
    Except IoError Unit × FileTree :=
  match tree.makeDirectory from_ names with
  | .ok tree' => (.ok (), tree')
  | .error e => (if tree.leadsToDirectory from_ names then .ok () else .error e, tree)

/-- Make the directory that some names, the last one first, lead to, and those on the way that are
missing.  Directories made before a refusal stay. -/
def makeParents (tree : FileTree) (from_ : Location) : List String → Except IoError Unit × FileTree
  | [] => (.ok (), tree)
  | last :: before =>
    match tree.makeDirectory from_ (last :: before).reverse with
    | .error .notFound =>
      match tree.makeParents from_ before with
      | (.error e, tree') => (.error e, tree')
      | (.ok (), tree') => tree'.settleDirectory from_ (last :: before).reverse
    | _ => tree.settleDirectory from_ (last :: before).reverse

/-- Drop the empty segments behind the last separator of a path. -/
def withoutTrailing (segments : List String) : List String :=
  (segments.reverse.dropWhile (· == "")).reverse

/-- Make a directory and all missing ones on the way to it. -/
def makeDirectories (tree : FileTree) (workingDirectory : Location) (path : Path) :
    Except IoError Unit × FileTree :=
  if path.toList.contains '\x00' then (.error .nulInPath, tree)
  else if path.text = "" then (.ok (), tree)
  else if path.text.utf8ByteSize > 4095 then (.error .nameTooLong, tree)
  else
    let from_ := start workingDirectory path
    let segments := withoutTrailing path.segments
    match tree.makeDirectory from_ segments with
    | .error .notFound =>
      match tree.makeParents from_ path.names.dropLast.reverse with
      | (.error e, tree') => (.error e, tree')
      | (.ok (), tree') => tree'.settleDirectory from_ segments
    | _ => tree.settleDirectory from_ segments

/-- Everything below a location: the names from there, and what stands there. -/
def below (tree : FileTree) (location : Location) : List (Location × Node) :=
  tree.entries.filterMap fun (key, node) =>
    if location.isPrefixOf key && key != location then some (key.drop location.length, node)
    else none

/-- The listing of a directory: one line for everything below it, with a slash behind directories,
in the order of the characters. -/
def listing (tree : FileTree) (location : Location) : List String :=
  let line := fun ((names, node) : Location × Node) =>
    String.intercalate "/" names ++ if node.isDirectory then "/" else ""
  ((tree.below location).map line).mergeSort fun a b => decide (a ≤ b)

end FileTree

end DumpReplay
