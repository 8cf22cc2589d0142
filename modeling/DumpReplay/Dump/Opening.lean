import DumpReplay.Dump.Artifact
import DumpReplay.Zip.Extraction

/-!
# Opening a dump

A dump is given as a directory or as an archive.  An archive is extracted into a work directory,
unless the version file there shows that it was extracted before.
-/

namespace DumpReplay.Dump

/-- Whether a work directory holds the version file, which marks an extraction. -/
def isExtracted (workDirectory : Path) : Action Bool :=
  Action.isFile ((Dump.mk workDirectory).path .version)

/-- The archive in a file. -/
def readArchive (bytes : Except IoError ByteArray) : Except Failure Zip.Archive :=
  match bytes with
  | .error .isADirectory => .error (.archive .io)
  | .error cause => .error (.io cause)
  | .ok bytes => (Zip.Archive.ofBytes bytes).mapError .archive

/-- Extract a dump, or find it extracted. -/
def extract (source workDirectory : Path) (archive : Zip.Archive) (override : Bool) :
    Action Unit := do
  if override || !(← isExtracted workDirectory) then
    Action.inform ("Extracting " ++ source.text ++ " into " ++ workDirectory.text)
    Zip.extract archive workDirectory
    if !(← isExtracted workDirectory) then
      Action.fail (.dump (.notExtracted workDirectory))
  else Action.inform ("Reusing dump extracted in " ++ workDirectory.text)

/-- Open a dump: a directory as it is, an archive by way of the work directory. -/
def openIn (source workDirectory : Path) (override : Bool) : Action Dump := do
  if ← Action.isDirectory source then return ⟨source⟩
  else
    match ← Action.readBytes? source with
    | .error cause => Action.fail (.dump (.cannotOpen source cause))
    | .ok bytes =>
      let archive ← Action.ofExcept (readArchive (.ok bytes))
      extract source workDirectory archive override
      return ⟨workDirectory⟩

end DumpReplay.Dump
