/-!
# Text from bytes

Bytes of a file read as UTF-8: strictly, where bytes that are no text have no value, or leniently,
where each maximal part that starts no character is replaced by U+FFFD.
-/

namespace DumpReplay.Text

/-! ## The strict reading -/

/-- The text with a given encoding, if the bytes are one. -/
def ofBytes? (bytes : ByteArray) : Option String :=
  String.fromUTF8? bytes

/-- The encoding of a text. -/
def toBytes (text : String) : ByteArray :=
  text.toUTF8

/-- Every text is read back from its encoding. -/
@[simp] theorem ofBytes_toBytes (text : String) : ofBytes? (toBytes text) = some text := by
  simpa [ofBytes?, toBytes, String.fromUTF8?, String.fromUTF8] using text.isValidUTF8

/-! ## The lenient reading -/

/-- What the first byte of a character says: the bits it gives, how many bytes follow, and the
range of the first of them. -/
def leadByte (b : Nat) : Option (Nat × Nat × Nat × Nat) :=
  if b < 0x80 then some (b, 0, 0x80, 0xBF)
  else if 0xC2 ≤ b && b ≤ 0xDF then some (b - 0xC0, 1, 0x80, 0xBF)
  else if b = 0xE0 then some (0, 2, 0xA0, 0xBF)
  else if b = 0xED then some (0xD, 2, 0x80, 0x9F)
  else if 0xE1 ≤ b && b ≤ 0xEF then some (b - 0xE0, 2, 0x80, 0xBF)
  else if b = 0xF0 then some (0, 3, 0x90, 0xBF)
  else if b = 0xF4 then some (4, 3, 0x80, 0x8F)
  else if 0xF1 ≤ b && b ≤ 0xF3 then some (b - 0xF0, 3, 0x80, 0xBF)
  else none

/-- Read the bytes that follow a first byte: the bits gathered, or nothing if one of them is out of
range, and the bytes that were not read. -/
def followingBytes (bits : Nat) : Nat → Nat → Nat → List UInt8 → Option Nat × List UInt8
  | 0, _, _, rest => (some bits, rest)
  | _ + 1, _, _, [] => (none, [])
  | count + 1, low, high, b :: rest =>
    if low ≤ b.toNat && b.toNat ≤ high then
      followingBytes (bits * 64 + b.toNat % 64) count 0x80 0xBF rest
    else (none, b :: rest)

theorem length_followingBytes_le (bits count low high : Nat) (bytes : List UInt8) :
    (followingBytes bits count low high bytes).2.length ≤ bytes.length := by
  induction bytes generalizing bits count low high with
  | nil => cases count <;> simp [followingBytes]
  | cons b rest ih =>
    cases count with
    | zero => simp [followingBytes]
    | succ n =>
      simp only [followingBytes]
      split
      · have := ih (bits * 64 + b.toNat % 64) n 0x80 0xBF
        simp only [List.length_cons]
        omega
      · simp

/-- The text of some bytes, with U+FFFD for every maximal part that starts no character. -/
def lenient : List UInt8 → List Char
  | [] => []
  | b :: rest =>
    match leadByte b.toNat with
    | none => '\uFFFD' :: lenient rest
    | some (bits, count, low, high) =>
      let read := followingBytes bits count low high rest
      let c := match read.1 with
        | some code => Char.ofNat code
        | none => '\uFFFD'
      c :: lenient read.2
termination_by bytes => bytes.length
decreasing_by
  · simp
  · have := length_followingBytes_le bits count low high rest
    simp only [List.length_cons]
    omega

/-- The lenient reading of a file's bytes. -/
def ofBytesLenient (bytes : ByteArray) : String :=
  match ofBytes? bytes with
  | some text => text
  | none => String.ofList (lenient bytes.toList)

end DumpReplay.Text
