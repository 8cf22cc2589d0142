import DumpReplay.Failure
import DumpReplay.Text.Line

/-!
# Addresses

An address is brought into normal form before a request is sent: the scheme and the host in small
letters, no default port, no dot segments, and percent escapes for characters that may not stand in
an address.  Requests can only be sent to addresses of the web.
-/

namespace DumpReplay.Url

open Text

/-! ## Percent escapes -/

/-- The escape of a byte. -/
def escapeByte (b : UInt8) : List Char :=
  let digit := fun n => (Nat.digitChar n).toUpper
  ['%', digit (b.toNat / 16), digit (b.toNat % 16)]

/-- Escape the characters of a text that need it. -/
def percentEncode (needsEscape : Char → Bool) (text : List Char) : List Char :=
  text.flatMap fun c =>
    if needsEscape c then c.toString.toUTF8.toList.flatMap escapeByte else [c]

/-- Control characters and everything beyond the basic characters. -/
def isControl (c : Char) : Bool :=
  c.toNat < 0x20 || c.toNat > 0x7E

/-- The characters that are escaped in a path. -/
def escapedInPath (c : Char) : Bool :=
  isControl c || " \x22#<>?\x60\x7b\x7d^".toList.contains c

/-- The characters that are escaped in a query. -/
def escapedInQuery (special : Bool) (c : Char) : Bool :=
  isControl c || " \x22#<>".toList.contains c || (special && c == '\x27')

/-- The characters that are escaped in a fragment. -/
def escapedInFragment (c : Char) : Bool :=
  isControl c || " \x22<>\x60".toList.contains c

/-! ## Hosts -/

/-- The number that a part of a numeric host gives, in decimal, octal or hexadecimal form. -/
def numericPart? (part : List Char) : Option Nat :=
  let inBase := fun base (digits : List Char) =>
    digits.foldlM (fun value c =>
      let d :=
        if c.isDigit then c.toNat - 48
        else if 'a' ≤ c && c ≤ 'f' then c.toNat - 87
        else 99
      if d < base then some (value * base + d) else none) 0
  match part with
  | [] => none
  | '0' :: 'x' :: digits => inBase 16 digits
  | '0' :: digits => inBase 8 digits
  | digits => inBase 10 digits

/-- The address in four parts that the numbers of a numeric host give. -/
def fourParts? (numbers : List Nat) : Option (List Char) :=
  match numbers.reverse with
  | [] => none
  | last :: before =>
    if numbers.length > 4 || before.any (· > 255) || last >>> (8 * (5 - numbers.length)) > 0 then none
    else
      let value := last + ((numbers.dropLast.zipIdx).map fun (n, i) => n <<< (8 * (3 - i))).foldl Nat.add 0
      let part := fun i => (toString ((value >>> (8 * i)) % 256)).toList
      some (part 3 ++ '.' :: part 2 ++ '.' :: part 1 ++ '.' :: part 0)

/-- Whether a character may not stand in a host. -/
def forbiddenInHost (special : Bool) (c : Char) : Bool :=
  c == '\x00' || "\t\n\r #/:<>?@[\\]^|".toList.contains c
    || (special && (c == '%' || c.toNat < 0x20 || c.toNat == 0x7F))

/-- The normal form of a host. -/
def normalHost (special : Bool) (host : List Char) : Option (List Char) :=
  match host with
  | '[' :: inner =>
    if inner.getLast? = some ']' && inner.dropLast.all fun c =>
        c.isDigit || ('a' ≤ c.toLower && c.toLower ≤ 'f') || c == ':' || c == '.' then
      some (host.map Char.toLower)
    else none
  | _ =>
    if host.any (forbiddenInHost special) then none
    else if !special then some (percentEncode isControl host)
    else
      let lower := host.map Char.toLower
      let parts := Path.splitAt '.' lower
      let parts := if parts.getLast? = some [] && parts.length > 1 then parts.dropLast else parts
      let numeric := fun (part : List Char) =>
        (!part.isEmpty && part.all Char.isDigit)
          || (part.take 2 == ['0', 'x'] && (numericPart? part).isSome)
      if parts.getLast?.any numeric then (parts.mapM numericPart?).bind fourParts? else some lower

/-! ## Paths -/

/-- Whether a segment stands for the directory itself. -/
def isSingleDot (segment : List Char) : Bool :=
  segment == ['.'] || segment.map Char.toLower == ['%', '2', 'e']

/-- Whether a segment stands for the directory above. -/
def isDoubleDot (segment : List Char) : Bool :=
  let lower := segment.map Char.toLower
  lower == ['.', '.'] || lower == ".%2e".toList || lower == "%2e.".toList
    || lower == "%2e%2e".toList

/-- Resolve the dot segments of a path, given the segments before, the last one first. -/
def resolveDots (before : List (List Char)) : List (List Char) → List (List Char)
  | [] => before.reverse
  | segment :: rest =>
    if isDoubleDot segment then
      resolveDots (if rest.isEmpty then [] :: before.drop 1 else before.drop 1) rest
    else if isSingleDot segment then
      resolveDots (if rest.isEmpty then [] :: before else before) rest
    else resolveDots (segment :: before) rest

/-- The normal form of a path that starts with a slash. -/
def normalPath (special : Bool) (path : List Char) : List Char :=
  let path := if special then path.map fun c => if c = '\\' then '/' else c else path
  let segments := Path.splitAt '/' (path.drop 1)
  let segments := segments.map (percentEncode escapedInPath)
  (resolveDots [] segments).flatMap fun segment => '/' :: segment

/-! ## Addresses -/

/-- An address in normal form. -/
structure Normal where
  /-- The scheme. -/
  scheme : String
  /-- Whether the address names a host. -/
  hasHost : Bool
  /-- The whole text. -/
  text : String
deriving DecidableEq, Repr

/-- The schemes whose hosts and paths follow the rules of the web, with their default ports. -/
def specialSchemes : List (String × Option Nat) :=
  [("http", some 80), ("https", some 443), ("ws", some 80), ("wss", some 443), ("ftp", some 21),
    ("file", none)]

/-- Cut off what follows a mark; what stands before it comes first. -/
def cutTail (mark : Char) (text : List Char) : List Char × Option (List Char) :=
  match cutFirst mark text with
  | some (before, after) => (before, some after)
  | none => (text, none)

/-- The scheme that a text starts with, in small letters, and what follows its colon. -/
def scheme? (text : List Char) : Option (String × List Char) :=
  match cutFirst ':' text with
  | some (c :: name, rest) =>
    if c.isAlpha && name.all fun d => d.isAlphanum || d == '+' || d == '-' || d == '.' then
      some (String.ofList ((c :: name).map Char.toLower), rest)
    else none
  | _ => none

/-- A host, its port, and what follows them in normal form. -/
def authority? (special : Bool) (defaultPort : Option Nat) (text : List Char) :
    Option (List Char × List Char) := do
  let ends := fun c => c == '/' || c == '?' || c == '#' || (special && c == '\\')
  let authority := text.takeWhile fun c => !ends c
  let rest := text.dropWhile fun c => !ends c
  let hostAndPort := match cutLast '@' authority with
    | some (_, after) => after
    | none => authority
  let bracketed := hostAndPort.head? == some '['
  let inBrackets := if bracketed then hostAndPort.takeWhile (· ≠ ']') ++ [']'] else []
  let (host, port) :=
    if bracketed then (inBrackets, (cutTail ':' (hostAndPort.drop inBrackets.length)).2)
    else cutTail ':' hostAndPort
  if host.isEmpty && (special || port.isSome) then none
  else
    let host ← normalHost special host
    match port with
    | none | some [] => some (host, rest)
    | some digits =>
      if digits.all Char.isDigit then
        let number := digits.foldl (fun value c => value * 10 + (c.toNat - 48)) 0
        if number > 65535 then none
        else if some number = defaultPort then some (host, rest)
        else some (host ++ ':' :: (toString number).toList, rest)
      else none

/-- The normal form of what follows the host: a path, a query and a fragment. -/
def normalTail (special : Bool) (rest : List Char) : List Char :=
  let (rest, fragment) := cutTail '#' rest
  let (path, query) := cutTail '?' rest
  let path := if path.isEmpty && !special then [] else normalPath special path
  path ++ ((query.map fun q => '?' :: percentEncode (escapedInQuery special) q).getD [])
    ++ ((fragment.map fun f => '#' :: percentEncode escapedInFragment f).getD [])

/-- Put a slash in front of a path that has none. -/
def rooted (special : Bool) (rest : List Char) : List Char :=
  match rest.head? with
  | some c => if c = '/' || (special && c = '\\') then rest else '/' :: rest
  | none => ['/']

/-- The normal form of an address, if it is one. -/
def normalize? (address : String) : Option Normal := do
  let edge := fun (c : Char) => c.toNat ≤ 0x20
  let text := (address.toList.dropWhile edge).reverse.dropWhile edge |>.reverse
  let text := text.filter fun c => c ≠ '\t' && c ≠ '\n' && c ≠ '\r'
  let (scheme, rest) ← scheme? text
  let start := scheme.toList ++ [':']
  let slash := fun c => c == '/' || c == '\\'
  match specialSchemes.lookup scheme with
  | some none =>
    let slashes := rest.takeWhile slash
    let (host, rest) ←
      if slashes.length ≥ 2 then
        let authority := (rest.drop 2).takeWhile fun c => !slash c && c ≠ '?' && c ≠ '#'
        let host ← if authority.isEmpty then some [] else normalHost true authority
        some (if host = "localhost".toList then [] else host, (rest.drop 2).drop authority.length)
      else some ([], rest)
    let text := start ++ "//".toList ++ host ++ normalTail true (rooted true rest)
    some ⟨scheme, !host.isEmpty, String.ofList text⟩
  | some (some port) =>
    let (host, rest) ← authority? true (some port) (rest.dropWhile slash)
    let text := start ++ "//".toList ++ host ++ normalTail true (rooted true rest)
    some ⟨scheme, true, String.ofList text⟩
  | none =>
    if rest.take 2 = ['/', '/'] then
      let (host, rest) ← authority? false none (rest.drop 2)
      let text := start ++ "//".toList ++ host ++ normalTail false rest
      some ⟨scheme, !host.isEmpty, String.ofList text⟩
    else if rest.head? = some '/' then
      some ⟨scheme, false, String.ofList (start ++ normalTail false rest)⟩
    else
      let (rest, fragment) := cutTail '#' rest
      let (path, query) := cutTail '?' rest
      let text := start ++ percentEncode isControl path
        ++ ((query.map fun q => '?' :: percentEncode (escapedInQuery false) q).getD [])
        ++ ((fragment.map fun f => '#' :: percentEncode escapedInFragment f).getD [])
      some ⟨scheme, false, String.ofList text⟩

/-- The normal form of an address that a request can be sent to. -/
def forRequest (address : String) : Except RequestFault String :=
  match normalize? address with
  | none => .error .badAddress
  | some normal =>
    if normal.hasHost && (normal.scheme == "http" || normal.scheme == "https") then
      .ok normal.text
    else .error (.unsupportedAddress normal.text)

end DumpReplay.Url
