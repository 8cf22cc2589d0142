import DumpReplay.Text.Utf8

/-!
# What scripts print

The bytes that `echo` and `printf` write: texts with escapes, and formats with their arguments.
-/

namespace DumpReplay.Script

/-! ## Escapes -/

/-- The number that some octal digits give. -/
def octalValue (digits : List Char) : Nat :=
  digits.foldl (fun value c => value * 8 + (c.toNat - 48)) 0

/-- Whether a character is an octal digit. -/
def isOctal (c : Char) : Bool :=
  '0' ≤ c && c ≤ '7'

/-- The bytes of a character. -/
def bytesOf (c : Char) : List UInt8 :=
  (Text.toBytes c.toString).toList

/-- The byte that a letter behind a backslash stands for. -/
def escapeByte? : Char → Option UInt8
  | 'a' => some 7
  | 'b' => some 8
  | 'f' => some 12
  | 'n' => some 10
  | 'r' => some 13
  | 't' => some 9
  | 'v' => some 11
  | '\\' => some 92
  | _ => none

/-- The bytes of a text with escapes, and whether they end the whole output.  Octal escapes start
with a zero if `zero` says so. -/
def unescape (zero : Bool) : Nat → List Char → List UInt8 × Bool
  | 0, _ => ([], false)
  | _, [] => ([], false)
  | fuel + 1, '\\' :: c :: rest =>
    let go := fun (bytes : List UInt8) (rest : List Char) =>
      let (others, ended) := unescape zero fuel rest
      (bytes ++ others, ended)
    match escapeByte? c with
    | some b => go [b] rest
    | none =>
      if c = 'c' && zero then ([], true)
      else if c = '0' && zero then
        let digits := (rest.take 3).takeWhile isOctal
        go [UInt8.ofNat (octalValue digits)] (rest.drop digits.length)
      else if isOctal c && !zero then
        let digits := ((c :: rest).take 3).takeWhile isOctal
        go [UInt8.ofNat (octalValue digits)] ((c :: rest).drop digits.length)
      else if c = '\x22' && !zero then go [34] rest
      else go (92 :: bytesOf c) rest
  | fuel + 1, c :: rest =>
    let (others, ended) := unescape zero fuel rest
    (bytesOf c ++ others, ended)

/-- The bytes of a text with escapes. -/
def unescaped (zero : Bool) (text : List Char) : List UInt8 × Bool :=
  unescape zero (text.length + 1) text

/-! ## Output -/

/-- What `echo` writes: its arguments with escapes read, between spaces, and a line end unless the
first argument asks for none. -/
def echoed (arguments : List String) : ByteArray :=
  let silent := arguments.head? == some "-n"
  let text := String.intercalate " " (if silent then arguments.drop 1 else arguments)
  let (bytes, ended) := unescaped true text.toList
  ⟨(bytes ++ if silent || ended then [] else [10]).toArray⟩

/-- One pass of `printf` over its format: the bytes, and the arguments that are left. -/
def formatted : Nat → List Char → List String → List UInt8 × List String
  | 0, _, arguments => ([], arguments)
  | _, [], arguments => ([], arguments)
  | fuel + 1, '%' :: c :: rest, arguments =>
    let argument := arguments.head?.getD ""
    let go := fun (bytes : List UInt8) (arguments : List String) =>
      let (others, arguments) := formatted fuel rest arguments
      (bytes ++ others, arguments)
    if c = '%' then go [37] arguments
    else if c = 'b' then go (unescaped true argument.toList).1 (arguments.drop 1)
    else if c = 'c' then go (argument.toList.take 1 |>.flatMap bytesOf) (arguments.drop 1)
    else if c = 'd' || c = 'i' || c = 'u' then
      let number := if argument.toInt?.isSome then argument else "0"
      go (number.toList.flatMap bytesOf) (arguments.drop 1)
    else if c = 's' then go (argument.toList.flatMap bytesOf) (arguments.drop 1)
    else go (37 :: bytesOf c) arguments
  | fuel + 1, '\\' :: c :: rest, arguments =>
    let digits := ((c :: rest).take 3).takeWhile isOctal
    let (bytes, rest) :=
      if digits.isEmpty then ((unescaped false ['\\', c]).1, rest)
      else ([UInt8.ofNat (octalValue digits)], (c :: rest).drop digits.length)
    let (others, arguments) := formatted fuel rest arguments
    (bytes ++ others, arguments)
  | fuel + 1, c :: rest, arguments =>
    let (others, arguments) := formatted fuel rest arguments
    (bytesOf c ++ others, arguments)

/-- What `printf` writes: its format is used again as long as arguments are left. -/
def printed (format : List Char) : Nat → List String → List UInt8
  | 0, _ => []
  | fuel + 1, arguments =>
    let (bytes, rest) := formatted (format.length + 1) format arguments
    if rest.isEmpty || rest.length = arguments.length then bytes
    else bytes ++ printed format fuel rest

end DumpReplay.Script
