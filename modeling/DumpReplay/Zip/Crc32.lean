/-!
# Checksums

The cyclic redundancy check of 32 bits that archives keep of the content of every entry.
-/

namespace DumpReplay.Zip.Crc32

/-- Shift one bit out of a remainder. -/
def shift (remainder : UInt32) : UInt32 :=
  if remainder &&& 1 = 1 then (remainder >>> 1) ^^^ 0xEDB88320 else remainder >>> 1

/-- The remainder behind one more byte. -/
def step (remainder : UInt32) (b : UInt8) : UInt32 :=
  Nat.repeat shift 8 (remainder ^^^ b.toUInt32)

/-- The checksum of some bytes. -/
def checksum (bytes : ByteArray) : UInt32 :=
  bytes.foldl step 0xFFFFFFFF ^^^ 0xFFFFFFFF

end DumpReplay.Zip.Crc32
