/-!
# Faults of zip archives

What can be wrong with a zip archive, or with writing what it holds.
-/

namespace DumpReplay.Zip

/-- Why an archive cannot be read or extracted. -/
inductive Fault where
  /-- The archive ends too early, its content does not match its checksum or cannot be inflated, or
  the files cannot be written. -/
  | io
  /-- There is no record that ends the central directory. -/
  | noEndRecord
  /-- There is no header where the central directory should start. -/
  | noDirectory
  /-- The start of the central directory lies behind its end. -/
  | directoryBehindEnd
  /-- The comment runs beyond the end of the archive. -/
  | badCommentLength
  /-- A local header does not start as one. -/
  | badLocalHeader
  /-- A header of the central directory does not start as one. -/
  | badDirectoryHeader
  /-- A header or the data of an entry lies behind the central directory. -/
  | badLayout
  /-- A record of large sizes is broken. -/
  | badLargeRecord
  /-- The archive is spread over several disks. -/
  | multipleDisks
  /-- An encrypted entry lacks the record that says how. -/
  | missingEncryptionRecord
  /-- The name of an entry leads out of the target directory. -/
  | badPath
  /-- The entry is encrypted. -/
  | encrypted
  /-- The entry is compressed in a way that is not known. -/
  | unknownCompression
deriving DecidableEq, Repr, Inhabited

namespace Fault

/-- The text of a fault. -/
def message : Fault → String
  | io => "i/o error"
  | noEndRecord => "invalid Zip archive: Could not find EOCD"
  | noDirectory => "invalid Zip archive: No CDFH found"
  | directoryBehindEnd => "invalid Zip archive: Invalid CDFH offset in EOCD"
  | badCommentLength => "invalid Zip archive: Invalid EOCD comment length"
  | badLocalHeader => "invalid Zip archive: Invalid local file header"
  | badDirectoryHeader => "invalid Zip archive: Invalid Central Directory header"
  | badLayout => "invalid Zip archive: A local file entry starts after the central directory"
  | badLargeRecord => "invalid Zip archive: Invalid zip64 EOCD record"
  | multipleDisks => "unsupported Zip archive: Support for multi-disk files is not implemented"
  | missingEncryptionRecord =>
    "invalid Zip archive: AES encryption without AES extra data field"
  | badPath => "invalid Zip archive: Invalid file path"
  | encrypted => "unsupported Zip archive: Password required to decrypt file"
  | unknownCompression => "unsupported Zip archive: Compression method not supported"

end Fault

end DumpReplay.Zip
