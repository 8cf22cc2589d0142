/-!
# Input and output errors

The ways in which an operation on files or processes can be refused, and the text that names each.
-/

namespace DumpReplay

/-- Why the system refused an operation on a file or a process. -/
inductive IoError where
  /-- Nothing has the given name. -/
  | notFound
  /-- The program may not be run. -/
  | permissionDenied
  /-- Something has the given name already. -/
  | alreadyExists
  /-- A name inside something that is no directory. -/
  | notADirectory
  /-- The content of a directory was asked for. -/
  | isADirectory
  /-- A name of more than 255 bytes, or a path of more than 4095. -/
  | nameTooLong
  /-- A program that is neither a script nor understood by the machine. -/
  | notExecutable
  /-- The machine cannot start processes. -/
  | notSupported
  /-- A file that was to be read as text is not UTF-8. -/
  | notText
  /-- A path with a NUL character in it. -/
  | nulInPath
  /-- A program or argument with a NUL character in it. -/
  | nulInArgument
  /-- A refusal met while making a scratch directory at the path given in quoted form. -/
  | atPath (cause : IoError) (quotedPath : String)
deriving DecidableEq, Repr, Inhabited

namespace IoError

/-- The text of an error. -/
def message : IoError → String
  | notFound => "No such file or directory (os error 2)"
  | permissionDenied => "Permission denied (os error 13)"
  | alreadyExists => "File exists (os error 17)"
  | notADirectory => "Not a directory (os error 20)"
  | isADirectory => "Is a directory (os error 21)"
  | nameTooLong => "File name too long (os error 36)"
  | notExecutable => "Exec format error (os error 8)"
  | notSupported => "Function not implemented (os error 38)"
  | notText => "stream did not contain valid UTF-8"
  | nulInPath => "file name contained an unexpected NUL byte"
  | nulInArgument => "nul byte found in provided data"
  | atPath cause quotedPath => cause.message ++ " at path " ++ quotedPath

end IoError

end DumpReplay
