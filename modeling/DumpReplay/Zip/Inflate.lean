/-!
# Inflating

Deflated content is a row of blocks: stored bytes, or literal bytes and back references in Huffman
codes.  Reading stops at the end of the last block, at the end of the input, or at something that
is no deflated content.
-/

namespace DumpReplay.Zip

/-! ## Bits -/

/-- A place in the input, counted in bits. -/
structure Bits where
  /-- The input. -/
  bytes : ByteArray
  /-- The number of bits before the place. -/
  position : Nat

namespace Bits

/-- The next bit. -/
def next? (bits : Bits) : Option (Nat × Bits) :=
  match bits.bytes[bits.position / 8]? with
  | some b => some ((b.toNat >>> (bits.position % 8)) % 2, { bits with position := bits.position + 1 })
  | none => none

/-- The number that the next bits give, the first one lowest. -/
def number? : Nat → Bits → Option (Nat × Bits)
  | 0, bits => some (0, bits)
  | count + 1, bits => do
    let (low, bits) ← bits.next?
    let (high, bits) ← number? count bits
    some (low + 2 * high, bits)

/-- Pass over the bits up to the next whole byte. -/
def align (bits : Bits) : Bits :=
  { bits with position := (bits.position + 7) / 8 * 8 }

end Bits

/-! ## Codes -/

/-- A Huffman code: how many codes there are of each length, and the symbols in the order of their
codes. -/
structure Huffman where
  /-- The number of codes of each length. -/
  counts : Array Nat
  /-- The symbols in the order of their codes. -/
  symbols : Array Nat

namespace Huffman

/-- The code in which each symbol has a code of the given length; zero means that it has none. -/
def ofLengths (lengths : List Nat) : Huffman where
  counts := (List.range 16).toArray.map fun length => lengths.count length
  symbols :=
    ((List.range 15).flatMap fun i =>
      (lengths.zipIdx.filter fun entry => entry.1 = i + 1).map Prod.snd).toArray

/-- The number of symbols that have a code. -/
def used (code : Huffman) : Nat :=
  code.symbols.size

/-- Whether the codes fill the space of all codes, or there is at most one. -/
def isComplete (code : Huffman) : Bool :=
  let total := ((List.range 15).map fun i =>
    (code.counts[i + 1]?).getD 0 <<< (14 - i)).foldl Nat.add 0
  code.used ≤ 1 || total == 1 <<< 15

/-- What reading a symbol gives. -/
inductive Outcome (α : Type) where
  | value (value : α)
  | exhausted
  | corrupt

/-- Read the symbol of the next code, given how many lengths are still to be tried, the length, the
bits so far, and the first code and symbol of the length. -/
def readFrom (code : Huffman) : Nat → Nat → Nat → Nat → Nat → Bits → Outcome (Nat × Bits)
  | 0, _, _, _, _, _ => .corrupt
  | tries + 1, length, soFar, first, index, bits =>
    match bits.next? with
    | none => .exhausted
    | some (bit, bits) =>
      let soFar := soFar + bit
      let count := (code.counts[length]?).getD 0
      if soFar < first + count then
        match code.symbols[index + (soFar - first)]? with
        | some symbol => .value (symbol, bits)
        | none => .corrupt
      else
        readFrom code tries (length + 1) (2 * soFar) (2 * (first + count)) (index + count) bits

/-- Read the symbol of the next code. -/
def read (code : Huffman) (bits : Bits) : Outcome (Nat × Bits) :=
  code.readFrom 15 1 0 0 0 bits

end Huffman

/-! ## Blocks -/

/-- How the reading of deflated content ended. -/
inductive InflateEnd where
  /-- At the end of the last block. -/
  | complete
  /-- At the end of the input. -/
  | exhausted
  /-- At something that is no deflated content. -/
  | corrupt
deriving DecidableEq, Repr

/-- The base length and the number of further bits of a length symbol, counted from 257. -/
def lengthSymbols : Array (Nat × Nat) := #[
  (3, 0), (4, 0), (5, 0), (6, 0), (7, 0), (8, 0), (9, 0), (10, 0), (11, 1), (13, 1), (15, 1),
  (17, 1), (19, 2), (23, 2), (27, 2), (31, 2), (35, 3), (43, 3), (51, 3), (59, 3), (67, 4),
  (83, 4), (99, 4), (115, 4), (131, 5), (163, 5), (195, 5), (227, 5), (258, 0)]

/-- The base distance and the number of further bits of a distance symbol. -/
def distanceSymbols : Array (Nat × Nat) := #[
  (1, 0), (2, 0), (3, 0), (4, 0), (5, 1), (7, 1), (9, 2), (13, 2), (17, 3), (25, 3), (33, 4),
  (49, 4), (65, 5), (97, 5), (129, 6), (193, 6), (257, 7), (385, 7), (513, 8), (769, 8),
  (1025, 9), (1537, 9), (2049, 10), (3073, 10), (4097, 11), (6145, 11), (8193, 12), (12289, 12),
  (16385, 13), (24577, 13)]

/-- The order in which the lengths of the codes for code lengths are given. -/
def lengthOrder : List Nat :=
  [16, 17, 18, 0, 8, 7, 9, 6, 10, 5, 11, 4, 12, 3, 13, 2, 14, 1, 15]

/-- The lengths of the fixed code for literals and lengths. -/
def fixedLengths : List Nat :=
  List.replicate 144 8 ++ List.replicate 112 9 ++ List.replicate 24 7 ++ List.replicate 8 8

/-- Append bytes that stand a distance back; in front of all bytes there are zeros. -/
def copyBack (distance : Nat) : Nat → ByteArray → ByteArray
  | 0, output => output
  | length + 1, output =>
    let b := if distance ≤ output.size then (output[output.size - distance]?).getD 0 else 0
    copyBack distance length (output.push b)

/-- What reading a block gives: how it ended, the place behind it, and the output. -/
structure BlockEnd where
  /-- How the block ended. -/
  ending : InflateEnd
  /-- The place behind the block. -/
  bits : Bits
  /-- The output so far. -/
  output : ByteArray

/-- Read the rest of a back reference whose length symbol was read. -/
def readReference (distances : Huffman) (symbol : Nat) (bits : Bits) :
    Huffman.Outcome (Nat × Nat × Bits) :=
  match lengthSymbols[symbol - 257]? with
  | none => .corrupt
  | some (base, extra) =>
    match bits.number? extra with
    | none => .exhausted
    | some (more, bits) =>
      match distances.read bits with
      | .exhausted => .exhausted
      | .corrupt => .corrupt
      | .value (distanceSymbol, bits) =>
        match distanceSymbols[distanceSymbol]? with
        | none => .corrupt
        | some (distance, extra) =>
          match bits.number? extra with
          | none => .exhausted
          | some (further, bits) => .value (base + more, distance + further, bits)

/-- Read symbols up to the end of a block; every symbol takes a bit at least. -/
def readSymbols (literals distances : Huffman) : Nat → Bits → ByteArray → BlockEnd
  | 0, bits, output => ⟨.exhausted, bits, output⟩
  | fuel + 1, bits, output =>
    match literals.read bits with
    | .exhausted => ⟨.exhausted, bits, output⟩
    | .corrupt => ⟨.corrupt, bits, output⟩
    | .value (symbol, bits) =>
      if symbol < 256 then
        readSymbols literals distances fuel bits (output.push (UInt8.ofNat symbol))
      else if symbol = 256 then ⟨.complete, bits, output⟩
      else
        match readReference distances symbol bits with
        | .exhausted => ⟨.exhausted, bits, output⟩
        | .corrupt => ⟨.corrupt, bits, output⟩
        | .value (length, distance, bits) =>
          readSymbols literals distances fuel bits (copyBack distance length output)

/-- Read the code lengths of a block, given those read so far, the last one first. -/
def readLengths (code : Huffman) (total : Nat) : Nat → List Nat → Bits →
    Huffman.Outcome (List Nat × Bits)
  | 0, _, _ => .corrupt
  | fuel + 1, lengths, bits =>
    if lengths.length = total then .value (lengths.reverse, bits)
    else if lengths.length > total then .corrupt
    else
      match code.read bits with
      | .exhausted => .exhausted
      | .corrupt => .corrupt
      | .value (symbol, bits) =>
        if symbol < 16 then readLengths code total fuel (symbol :: lengths) bits
        else
          let (base, extra, repeated) :=
            if symbol = 16 then (3, 2, lengths.head?)
            else if symbol = 17 then (3, 3, some 0)
            else (11, 7, some 0)
          match repeated, bits.number? extra with
          | none, _ => .corrupt
          | _, none => .exhausted
          | some length, some (more, bits) =>
            readLengths code total fuel (List.replicate (base + more) length ++ lengths) bits

/-- Read the codes of a block that brings its own. -/
def readCodes (bits : Bits) : Huffman.Outcome (Huffman × Huffman × Bits) :=
  match bits.number? 5 with
  | none => .exhausted
  | some (literalCount, bits) =>
    match bits.number? 5 with
    | none => .exhausted
    | some (distanceCount, bits) =>
      match bits.number? 4 with
      | none => .exhausted
      | some (lengthCount, bits) =>
        let literalCount := literalCount + 257
        let distanceCount := distanceCount + 1
        let orders := lengthOrder.take (lengthCount + 4)
        let given := orders.foldl (fun acc order =>
          acc.bind fun ((lengths, bits) : List (Nat × Nat) × Bits) =>
            (bits.number? 3).map fun (length, bits) => ((order, length) :: lengths, bits))
          (some ([], bits))
        match given with
        | none => .exhausted
        | some (given, bits) =>
          let lengths := (List.range 19).map fun symbol => (given.lookup symbol).getD 0
          let code := Huffman.ofLengths lengths
          if !code.isComplete then .corrupt
          else
            let total := literalCount + distanceCount
            match readLengths code total (total + 1) [] bits with
            | .exhausted => .exhausted
            | .corrupt => .corrupt
            | .value (lengths, bits) =>
              let literals := Huffman.ofLengths (lengths.take literalCount)
              let distances := Huffman.ofLengths (lengths.drop literalCount)
              if literals.isComplete && distances.isComplete then
                .value (literals, distances, bits)
              else .corrupt

/-- Read a block of stored bytes. -/
def readStored (bits : Bits) (output : ByteArray) : BlockEnd :=
  let bits := bits.align
  match bits.number? 16 with
  | none => ⟨.exhausted, bits, output⟩
  | some (length, bits) =>
    match bits.number? 16 with
    | none => ⟨.exhausted, bits, output⟩
    | some (complement, bits) =>
      if length + complement ≠ 65535 then ⟨.corrupt, bits, output⟩
      else
        let start := bits.position / 8
        let content := bits.bytes.extract start (start + length)
        let ending := if content.size < length then InflateEnd.exhausted else .complete
        ⟨ending, { bits with position := (start + content.size) * 8 }, output ++ content⟩

/-- Read one block behind its first bit. -/
def readBlock (bits : Bits) (output : ByteArray) : BlockEnd :=
  let fuel := bits.bytes.size * 8 + 1
  match bits.number? 2 with
  | none => ⟨.exhausted, bits, output⟩
  | some (kind, bits) =>
    if kind = 0 then readStored bits output
    else if kind = 1 then
      readSymbols (Huffman.ofLengths fixedLengths) (Huffman.ofLengths (List.replicate 30 5)) fuel
        bits output
    else if kind = 2 then
      match readCodes bits with
      | .exhausted => ⟨.exhausted, bits, output⟩
      | .corrupt => ⟨.corrupt, bits, output⟩
      | .value (literals, distances, bits) => readSymbols literals distances fuel bits output
    else ⟨.corrupt, bits, output⟩

/-- Read blocks up to the last one; every block takes three bits at least. -/
def readBlocks : Nat → Bits → ByteArray → InflateEnd × ByteArray
  | 0, _, output => (.exhausted, output)
  | fuel + 1, bits, output =>
    match bits.next? with
    | none => (.exhausted, output)
    | some (last, bits) =>
      let block := readBlock bits output
      match block.ending with
      | .complete =>
        if last = 1 then (.complete, block.output) else readBlocks fuel block.bits block.output
      | ending => (ending, block.output)

/-- Inflate content: how the reading ended, and what it gave until then. -/
def inflate (bytes : ByteArray) : InflateEnd × ByteArray :=
  readBlocks (bytes.size * 8 + 1) ⟨bytes, 0⟩ ByteArray.empty

end DumpReplay.Zip
