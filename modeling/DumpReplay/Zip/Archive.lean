import DumpReplay.Text.Utf8
import DumpReplay.Zip.CodePage437
import DumpReplay.Zip.Crc32
import DumpReplay.Zip.Fault
import DumpReplay.Zip.Inflate

/-!
# Zip archives

An archive is read from its end: the record that ends the central directory says where the directory
is, and the directory lists the entries.  Bytes before the archive are passed over.  Where several
records could be the one that ends the directory, the last one counts under which the directory can
be read.

Main results:

- `nodup_names_addEntry` : of entries with the same name only one stays.
-/

namespace DumpReplay.Zip

/-! ## Numbers in bytes -/

/-- The number that bytes give, the first one lowest. -/
def numberAt? (bytes : ByteArray) (position : Nat) : Nat → Option Nat
  | 0 => some 0
  | count + 1 => do
    let low ← bytes[position]?
    let high ← numberAt? bytes (position + 1) count
    some (low.toNat + 256 * high)

/-- Whether a signature, given as a number, stands at a position. -/
def hasSignature (bytes : ByteArray) (signature position : Nat) : Bool :=
  numberAt? bytes position 4 == some signature

/-! ## Entries -/

/-- An entry of an archive. -/
structure Entry where
  /-- The name. -/
  name : String
  /-- Whether the content is encrypted. -/
  encrypted : Bool
  /-- The number of the compression method. -/
  method : Nat
  /-- The checksum of the content. -/
  checksum : Nat
  /-- The size of the compressed content. -/
  compressedSize : Nat
  /-- Where the local header starts. -/
  headerStart : Nat
  /-- Where the compressed content starts. -/
  dataStart : Nat
  /-- The access rights, if they are given. -/
  mode : Option Nat
deriving DecidableEq, Repr

/-- An archive, with one entry for each name. -/
structure Archive where
  /-- The bytes. -/
  bytes : ByteArray
  /-- The entries, in the order in which their names first come. -/
  entries : List Entry

/-- The names of the entries. -/
def Archive.names (archive : Archive) : List String :=
  archive.entries.map Entry.name

/-- Add an entry in the place of one with the same name, or at the end. -/
def addEntry (entry : Entry) : List Entry → List Entry
  | [] => [entry]
  | e :: rest => if e.name = entry.name then entry :: rest else e :: addEntry entry rest

theorem names_addEntry (entry : Entry) (entries : List Entry) :
    (addEntry entry entries).map Entry.name =
      if entry.name ∈ entries.map Entry.name then entries.map Entry.name
      else entries.map Entry.name ++ [entry.name] := by
  induction entries with
  | nil => simp [addEntry]
  | cons e rest ih =>
    by_cases h : e.name = entry.name
    · simp [addEntry, h]
    · have h' : ¬ entry.name = e.name := fun h' => h h'.symm
      simp only [addEntry, h, if_false, List.map_cons, ih, List.mem_cons, h', false_or]
      split <;> simp

/-- Of entries with the same name only one stays. -/
theorem nodup_names_addEntry (entry : Entry) {entries : List Entry}
    (h : (entries.map Entry.name).Nodup) : ((addEntry entry entries).map Entry.name).Nodup := by
  rw [names_addEntry]
  split
  · exact h
  · rename_i hn
    rw [List.nodup_append]
    refine ⟨h, by simp, ?_⟩
    intro a ha b hb
    simp only [List.mem_singleton] at hb
    subst hb
    intro hab
    exact hn (hab ▸ ha)

/-! ## The end of the directory -/

/-- What the record that ends a central directory says, and where the directory starts. -/
structure Directory where
  /-- How far the archive is moved by bytes before it. -/
  shift : Nat
  /-- Where the directory starts. -/
  start : Nat
  /-- The number of headers. -/
  count : Nat
  /-- Whether the archive is on one disk. -/
  singleDisk : Bool
deriving DecidableEq, Repr

/-- The first position from some position on, and before another, at which a signature stands. -/
def findSignature (bytes : ByteArray) (signature from_ before : Nat) : Option Nat :=
  ((List.range (before - from_)).map (· + from_)).find? fun position =>
    position + 4 ≤ before && hasSignature bytes signature position

/-- Read the record that ends a directory. -/
def readEndRecord (bytes : ByteArray) (position : Nat) : Except Fault Directory :=
  let number := fun offset size => numberAt? bytes (position + offset) size
  match number 4 2, number 6 2, number 8 2, number 10 2, number 16 4, number 20 2 with
  | some disk, some directoryDisk, some countHere, some count, some start, some commentLength =>
    if position + 22 + commentLength > bytes.size then .error .badCommentLength
    else if count = 0 then
      .ok ⟨position - start, start + (position - start), countHere, disk == directoryDisk⟩
    else if start ≥ position then .error .directoryBehindEnd
    else
      match findSignature bytes 0x02014B50 start position with
      | some found => .ok ⟨found - start, found, countHere, disk == directoryDisk⟩
      | none => .error .noDirectory
  | _, _, _, _, _, _ => .error .io

/-! ## The directory -/

/-- The sizes and the offset that an extra field gives in place of those that are too large for
their fields. -/
structure Sizes where
  /-- The size of the content. -/
  uncompressed : Nat
  /-- The size of the compressed content. -/
  compressed : Nat
  /-- Where the local header starts. -/
  offset : Nat

/-- Read a record of large sizes, of the given length. -/
def readLargeSizes (sizes : Sizes) (fields : ByteArray) (position length : Nat) :
    Except Fault Sizes :=
  let limit := 0xFFFFFFFF
  let take := fun (value position used : Nat) =>
    if length ≥ 24 || value = limit then
      (numberAt? fields position 8).map fun large => (large, position + 8, used + 8)
    else some (value, position, used)
  let result := do
    let (uncompressed, position, used) ← take sizes.uncompressed position 0
    let (compressed, position, used) ← take sizes.compressed position used
    let (offset, _, used) ← take sizes.offset position used
    some (Sizes.mk uncompressed compressed offset, used)
  match result with
  | some (sizes, used) => if used ≤ length then .ok sizes else .error .badLargeRecord
  | none => .ok sizes

/-- Read extra fields; fields that are cut off say nothing. -/
def readExtraFields (fields : ByteArray) : Nat → Nat → Sizes → Except Fault Sizes
  | 0, _, sizes => .ok sizes
  | fuel + 1, position, sizes =>
    match numberAt? fields position 2, numberAt? fields (position + 2) 2 with
    | some kind, some length =>
      if kind = 1 then do
        let sizes ← readLargeSizes sizes fields (position + 4) length
        readExtraFields fields fuel (position + 4 + length) sizes
      else readExtraFields fields fuel (position + 4 + length) sizes
    | _, _ => .ok sizes

/-- The name that some bytes give. -/
def nameOf (isUtf8 : Bool) (bytes : ByteArray) : String :=
  if isUtf8 then Text.ofBytesLenient bytes
  else String.ofList (CodePage437.decode bytes.toList)

/-- The access rights that a header gives: those of the system itself, or those that the mark for
read-only files and directories stands for. -/
def modeOf (system attributes : Nat) : Option Nat :=
  if attributes = 0 then none
  else if system = 3 then some (attributes / 65536)
  else if system = 0 then
    let directory := attributes / 16 % 2 = 1
    let readOnly := attributes % 2 = 1
    some (if readOnly then if directory then 0o555 else 0o444
      else if directory then 0o775 else 0o664)
  else none

/-- Read a header of the directory, and the position behind it. -/
def readHeader (bytes : ByteArray) (directory : Directory) (position : Nat) :
    Except Fault (Entry × Nat) :=
  let number := fun offset size => numberAt? bytes (position + offset) size
  if (number 42 4).isNone then .error .io
  else if !hasSignature bytes 0x02014B50 position then .error .badDirectoryHeader
  else
    let field := fun offset size => (number offset size).getD 0
    let nameStart := position + 46
    let extraStart := nameStart + field 28 2
    let commentStart := extraStart + field 30 2
    let behind := commentStart + field 32 2
    if behind > bytes.size then .error .io
    else do
      let sizes ← readExtraFields (bytes.extract extraStart commentStart) (field 30 2) 0
        ⟨field 24 4, field 20 4, field 42 4⟩
      if field 10 2 = 99 then .error .missingEncryptionRecord
      else
        let headerStart := sizes.offset + directory.shift
        if headerStart ≥ directory.start then .error .badLayout
        else
          let flags := field 8 2
          match numberAt? bytes (headerStart + 26) 2, numberAt? bytes (headerStart + 28) 2 with
          | some nameLength, some extraLength =>
            let dataStart := headerStart + 30 + nameLength + extraLength
            if !hasSignature bytes 0x04034B50 headerStart then .error .badLocalHeader
            else if dataStart > directory.start then .error .badLayout
            else
              .ok ({
                name := nameOf (flags / 2048 % 2 = 1) (bytes.extract nameStart extraStart)
                encrypted := flags % 2 = 1
                method := field 10 2
                checksum := field 16 4
                compressedSize := sizes.compressed
                headerStart := headerStart
                dataStart := dataStart
                mode := modeOf (field 5 1) (field 38 4) }, behind)
          | _, _ => .error .io

/-- Read headers of the directory, and add their entries to others. -/
def readHeaders (bytes : ByteArray) (directory : Directory) :
    Nat → Nat → List Entry → Except Fault (List Entry)
  | 0, _, entries => .ok entries
  | count + 1, position, entries => do
    let (entry, behind) ← readHeader bytes directory position
    readHeaders bytes directory count behind (addEntry entry entries)

/-- Read the whole directory. -/
def readDirectory (bytes : ByteArray) (directory : Directory) : Except Fault (List Entry) :=
  if !directory.singleDisk then .error .multipleDisks
  else readHeaders bytes directory directory.count directory.start []

/-! ## Archives -/

/-- The positions at which a record that ends a directory may stand, the last one first. -/
def endCandidates (bytes : ByteArray) : List Nat :=
  ((List.range (bytes.size - 3)).filter (hasSignature bytes 0x06054B50)).reverse

/-- Try the records that may end the directory one after the other, given what was wrong with those
before. -/
def openFrom (bytes : ByteArray) (fault : Option Fault) : List Nat → Except Fault Archive
  | [] => .error (fault.getD .noEndRecord)
  | position :: earlier =>
    match readEndRecord bytes position with
    | .error .io => openFrom bytes (fault.or (some .io)) earlier
    | .error found => openFrom bytes (some found) earlier
    | .ok directory =>
      match readDirectory bytes directory with
      | .ok entries => .ok ⟨bytes, entries⟩
      | .error _ => openFrom bytes none earlier

/-- Read an archive. -/
def Archive.ofBytes (bytes : ByteArray) : Except Fault Archive :=
  openFrom bytes none (endCandidates bytes)

/-! ## Content -/

/-- The content of an entry. -/
structure Content where
  /-- The bytes that can be read. -/
  bytes : ByteArray
  /-- Whether they are all, and match the checksum. -/
  intact : Bool

/-- The content of an entry that is stored or deflated.  Where deflated content is broken, only
whole blocks of 32 KiB can be read. -/
def Archive.content (archive : Archive) (entry : Entry) : Content :=
  let raw := archive.bytes.extract entry.dataStart (entry.dataStart + entry.compressedSize)
  let matches_ := fun bytes => (Crc32.checksum bytes).toNat == entry.checksum
  if entry.method = 0 then ⟨raw, matches_ raw⟩
  else
    match inflate raw with
    | (.corrupt, bytes) => ⟨bytes.extract 0 (bytes.size / 32768 * 32768), false⟩
    | (_, bytes) => ⟨bytes, matches_ bytes⟩

/-- Whether an entry stands for a directory. -/
def Entry.isDirectory (entry : Entry) : Bool :=
  match entry.name.toList.getLast? with
  | some c => c == '/' || c == '\\'
  | none => false

/-- Whether an entry is compressed in a way that is known. -/
def Entry.isReadable (entry : Entry) : Bool :=
  entry.method == 0 || entry.method == 8

end DumpReplay.Zip
