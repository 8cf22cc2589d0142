import DumpReplay.Host.Action
import DumpReplay.Zip.Archive

/-!
# Extraction

An archive is extracted entry by entry, in order.  The path of an entry may not lead out of the
target directory.  A file is made before its content is read, so that what was extracted before a
failure stays.

File trees have no links, so that only archives without links are in the scope of this module: an
entry whose access rights mark it as a link is written as a file that holds the path it leads to.
Of the other access rights the right to run a file is the only one that is kept.
-/

namespace DumpReplay.Zip

/-! ## Paths of entries -/

/-- Follow the components of a path from a directory, given the names passed so far, the last one
first: nothing may lead above the start. -/
def climb : List String → List String → Option (List String)
  | passed, [] => some passed.reverse
  | passed, name :: rest =>
    if name = "" || name = "." then climb passed rest
    else if name = ".." then
      match passed with
      | [] => none
      | _ :: passed => climb passed rest
    else climb (name :: passed) rest

/-- The names that lead from the target directory to an entry. -/
def Entry.names? (entry : Entry) : Option (List String) :=
  let path : Path := ⟨entry.name⟩
  if path.toList.contains '\x00' || path.isAbsolute then none else climb [] path.segments

/-! ## Extracting -/

/-- Fail with a fault of the archive. -/
def fail (fault : Fault) : Action α :=
  Action.fail (.archive fault)

/-- Take the value of a system operation; any refusal is a fault of input or output. -/
def orIo (outcome : Except IoError α) : Action α :=
  match outcome with
  | .ok value => pure value
  | .error _ => fail .io

/-- Make the directories that lead to an entry, one after the other, as far as they are missing. -/
def prepare (target : Path) : List String → Action Path
  | [] => return target
  | [name] => do
    let path := target.child name
    match ← Action.look fun files here => files.status here path with
    | .ok _ | .error .notFound => return path
    | .error _ => fail .io
  | name :: rest => do
    let path := target.child name
    match ← Action.look fun files here => files.status here path with
    | .ok _ => prepare path rest
    | .error .notFound =>
      orIo (← Action.makeDirectories? path)
      prepare path rest
    | .error _ => fail .io

/-- Write the content of an entry to a file. -/
def writeContent (archive : Archive) (entry : Entry) (path : Path) : Action Unit := do
  let content := archive.content entry
  let files ← orIo (← Action.look fun files here => files.write here path content.bytes)
  Action.setFiles files
  if !content.intact then fail .io

/-- Extract one entry, and give the path of the file that it makes.  What the entry holds becomes the
content of a file, also if the entry stands for a link. -/
def extractEntry (archive : Archive) (target : Path) (entry : Entry) : Action (Option Path) := do
  if entry.encrypted then fail .encrypted
  else if !entry.isReadable then fail .unknownCompression
  else
    match entry.names? with
    | none => fail .badPath
    | some names =>
      let path ← prepare target names
      if entry.isDirectory then
        orIo (← Action.makeDirectories? path)
        return none
      else
        writeContent archive entry path
        return some path

/-- Extract entries in order, and give the files with their access rights. -/
def extractEntries (archive : Archive) (target : Path) :
    List Entry → Action (List (Path × Nat))
  | [] => return []
  | entry :: rest => do
    let made ← extractEntry archive target entry
    let others ← extractEntries archive target rest
    match made, entry.mode with
    | some path, some mode => return (path, mode) :: others
    | _, _ => return others

/-- Whether access rights let anyone run a file. -/
def allowsRunning (mode : Nat) : Bool :=
  mode % 2 = 1 || mode / 8 % 2 = 1 || mode / 64 % 2 = 1

/-- Extract an archive into a directory, which is made if it is missing.  Access rights are set when
everything is extracted. -/
def extract (archive : Archive) (target : Path) : Action Unit := do
  orIo (← Action.makeDirectories? target)
  let made ← extractEntries archive target archive.entries
  for (path, mode) in made do
    let files ← Action.look fun files here => files.setExecutable here path (allowsRunning mode)
    Action.setFiles files

end DumpReplay.Zip
