import DumpReplay.Script.Shell

/-!
# Programs for scripts

The small programs that a machine has by itself: those that show files, pass on parts of their
input, and change files.
-/

namespace DumpReplay.Script

/-! ## Messages -/

/-- The text of a system error, without its number. -/
def reason (error : IoError) : String :=
  match Text.cutFirst '(' error.message.toList with
  | some (text, _) => String.ofList (Text.trimEnd text)
  | none => error.message

/-- A name as messages of programs show it: between quotes if it is empty. -/
def shownName (name : String) : String :=
  if name = "" then "\x27\x27" else name

/-! ## Reading files -/

/-- Write the contents of files, or of the input if none are named. -/
def cat (streams : Streams) (shell : Shell) (names : List String) : Shell :=
  if names.isEmpty then (shell.emit streams.output streams.input).setStatus 0
  else
    names.foldl (fun shell name =>
      if name = "-" then shell.emit streams.output streams.input
      else
        match shell.readFile ⟨name⟩ with
        | .ok bytes => shell.emit streams.output bytes
        | .error error =>
          shell.complain streams ("cat: " ++ shownName name ++ ": " ++ reason error) 1)
      (shell.setStatus 0)

/-- Count the lines, words or bytes of a file, or of the input. -/
def wc (streams : Streams) (shell : Shell) (arguments : List String) : Shell :=
  let (flags, names) := arguments.partition fun a => a.startsWith "-"
  let count := fun (bytes : ByteArray) =>
    if flags.contains "-c" then bytes.size
    else if flags.contains "-w" then (Text.words (Text.ofBytesLenient bytes).toList).length
    else bytes.toList.count 10
  match names with
  | [] => (shell.say streams.output (toString (count streams.input) ++ "\n")).setStatus 0
  | name :: _ =>
    match shell.readFile ⟨name⟩ with
    | .ok bytes =>
      (shell.say streams.output (toString (count bytes) ++ " " ++ name ++ "\n")).setStatus 0
    | .error error => shell.complain streams ("wc: " ++ name ++ ": " ++ reason error) 1

/-! ## Parts of the input -/

/-- The content of the first named file, or of the input if none is named. -/
def source (streams : Streams) (shell : Shell) (names : List String) :
    Except (String × IoError) ByteArray :=
  match names with
  | [] | "-" :: _ => .ok streams.input
  | name :: _ => (shell.readFile ⟨name⟩).mapError fun error => (name, error)

/-- How much of the input a program passes on. -/
structure Amount where
  /-- Whether bytes are counted, and not lines. -/
  inBytes : Bool
  /-- The number of bytes or lines. -/
  count : Nat
deriving DecidableEq, Repr

/-- Read how much is asked for, and the names behind it; without a word it is ten lines. -/
def readAmount : List String → Amount × List String
  | "-n" :: count :: rest => (⟨false, count.toNat?.getD 10⟩, rest)
  | "-c" :: count :: rest => (⟨true, count.toNat?.getD 10⟩, rest)
  | first :: rest =>
    match first.toList with
    | '-' :: 'n' :: count => (⟨false, (String.ofList count).toNat?.getD 10⟩, rest)
    | '-' :: 'c' :: count => (⟨true, (String.ofList count).toNat?.getD 10⟩, rest)
    | '-' :: count@(_ :: _) => (⟨false, (String.ofList count).toNat?.getD 10⟩, rest)
    | _ => (⟨false, 10⟩, first :: rest)
  | [] => (⟨false, 10⟩, [])

/-- Cut bytes behind every line end. -/
def byteLines (bytes : List UInt8) : List (List UInt8) :=
  let step := fun ((lines, line) : List (List UInt8) × List UInt8) (b : UInt8) =>
    if b = 10 then ((b :: line).reverse :: lines, []) else (lines, b :: line)
  let (lines, last) := bytes.foldl step ([], [])
  (if last.isEmpty then lines else last.reverse :: lines).reverse

/-- The part of some bytes at their start, or at their end. -/
def Amount.of (amount : Amount) (atEnd : Bool) (bytes : List UInt8) : List UInt8 :=
  let part := fun {α : Type} (items : List α) =>
    if atEnd then items.drop (items.length - amount.count) else items.take amount.count
  if amount.inBytes then part bytes else (part (byteLines bytes)).flatten

/-- Write the start or the end of a file or of the input. -/
def partOf (atEnd : Bool) (streams : Streams) (shell : Shell) (arguments : List String) : Shell :=
  let (amount, names) := readAmount arguments
  match source streams shell names with
  | .ok bytes =>
    (shell.emit streams.output ⟨(amount.of atEnd bytes.toList).toArray⟩).setStatus 0
  | .error (name, error) =>
    let program := if atEnd then "tail" else "head"
    shell.complain streams
      (program ++ ": cannot open \x27" ++ name ++ "\x27 for reading: " ++ reason error) 1

/-- Count from one whole number to another, one number a line. -/
def seq (streams : Streams) (shell : Shell) (arguments : List String) : Shell :=
  let (first, step, last) : Int × Int × Int := match arguments.filterMap String.toInt? with
    | [last] => (1, 1, last)
    | [first, last] => (first, 1, last)
    | [first, step, last] => (first, step, last)
    | _ => (1, 1, 0)
  let count := if step = 0 then 0 else ((last - first) / step + 1).toNat
  let lines := (List.range count).map fun i => toString (first + step * Int.ofNat i) ++ "\n"
  (shell.say streams.output (String.join lines)).setStatus 0

/-- The characters that a set of `tr` names: ranges, escapes, and characters for themselves. -/
def characterSet : List Char → List Char
  | '\\' :: 'n' :: rest => '\n' :: characterSet rest
  | '\\' :: 't' :: rest => '\t' :: characterSet rest
  | '\\' :: 'r' :: rest => '\r' :: characterSet rest
  | '\\' :: '0' :: rest => '\x00' :: characterSet rest
  | '\\' :: '\\' :: rest => '\\' :: characterSet rest
  | a :: '-' :: b :: rest =>
    (List.range (b.toNat + 1 - a.toNat)).map (fun i => Char.ofNat (a.toNat + i)) ++ characterSet rest
  | c :: rest => c :: characterSet rest
  | [] => []

/-- Exchange the characters of one set for those of another, or drop them. -/
def tr (streams : Streams) (shell : Shell) (arguments : List String) : Shell :=
  let text := (Text.ofBytesLenient streams.input).toList
  let result := match arguments with
    | ["-d", dropped] =>
      let dropped := characterSet dropped.toList
      text.filter fun c => !dropped.contains c
    | [old, new] =>
      let new := characterSet new.toList
      let table := (characterSet old.toList).zipIdx
      text.map fun c =>
        match table.lookup c with
        | some index => ((new[index]?).or new.getLast?).getD c
        | none => c
    | _ => text
  (shell.say streams.output (String.ofList result)).setStatus 0

/-- List the names in a directory, or the name of a file. -/
def ls (streams : Streams) (shell : Shell) (arguments : List String) : Shell :=
  let name := (arguments.filter fun a => !a.startsWith "-").head?.getD "."
  let refuse := fun (error : IoError) =>
    shell.complain streams ("ls: cannot access \x27" ++ name ++ "\x27: " ++ reason error) 2
  match shell.files.locate shell.here ⟨name⟩ with
  | .error error => refuse error
  | .ok location =>
    match shell.files.get? location with
    | none => refuse .notFound
    | some (.file _ _) => (shell.say streams.output (name ++ "\n")).setStatus 0
    | some .directory =>
      let names := (shell.files.below location).filterMap fun (names, _) => match names with
        | [name] => if name.startsWith "." then none else some (name ++ "\n")
        | _ => none
      (shell.say streams.output (String.join (names.mergeSort fun a b => decide (a ≤ b)))).setStatus 0

/-- Write a line over and over; nothing reads more of it than this. -/
def yes (streams : Streams) (shell : Shell) (arguments : List String) : Shell :=
  let line := (if arguments.isEmpty then "y" else String.intercalate " " arguments) ++ "\n"
  (shell.say streams.output (String.join (List.replicate 500000 line))).setStatus 0

/-! ## Names of files -/

/-- The last name of a path, without an ending. -/
def basename (streams : Streams) (shell : Shell) (arguments : List String) : Shell :=
  let path := arguments.head?.getD ""
  let name := (Path.mk path).names.getLast?.getD (if path.startsWith "/" then "/" else path)
  let ending := (arguments.drop 1).head?.getD ""
  let name :=
    if name.endsWith ending && name ≠ ending then (name.dropEnd ending.length).toString else name
  (shell.say streams.output (name ++ "\n")).setStatus 0

/-- A path without its last name. -/
def dirname (streams : Streams) (shell : Shell) (arguments : List String) : Shell :=
  let path := (arguments.head?.getD "").toList
  let withoutSlashes := fun (text : List Char) => (text.reverse.dropWhile (· = '/')).reverse
  let parent := match Text.cutLast '/' (withoutSlashes path) with
    | some (before, _) =>
      if (withoutSlashes before).isEmpty then ['/'] else withoutSlashes before
    | none => if path.head? = some '/' then ['/'] else ['.']
  (shell.say streams.output (String.ofList parent ++ "\n")).setStatus 0

/-! ## Changing files -/

/-- Remove files, and directories if asked to. -/
def rm (streams : Streams) (shell : Shell) (arguments : List String) : Shell :=
  let (flags, names) := arguments.partition fun a => a.startsWith "-"
  let has := fun (c : Char) => flags.any fun flag => flag.toList.contains c
  names.foldl (fun shell name =>
    let refuse := fun (error : IoError) =>
      shell.complain streams ("rm: cannot remove \x27" ++ name ++ "\x27: " ++ reason error) 1
    match shell.files.locate shell.here ⟨name⟩ with
    | .error error => if has 'f' then shell else refuse error
    | .ok location =>
      match shell.files.get? location with
      | none => if has 'f' then shell else refuse .notFound
      | some .directory =>
        if has 'r' || has 'R' then { shell with files := shell.files.removeBelow location }
        else refuse .isADirectory
      | some (.file _ _) => { shell with files := shell.files.removeBelow location })
    (shell.setStatus 0)

/-- Make directories. -/
def mkdir (streams : Streams) (shell : Shell) (arguments : List String) : Shell :=
  let (flags, names) := arguments.partition fun a => a.startsWith "-"
  names.foldl (fun shell name =>
    let path : Path := ⟨name⟩
    let refuse := fun (error : IoError) =>
      shell.complain streams
        ("mkdir: cannot create directory \u2018" ++ name ++ "\u2019: " ++ reason error) 1
    if flags.contains "-p" then
      match shell.files.makeDirectories shell.here path with
      | (.ok (), files) => { shell with files := files }
      | (.error error, _) => refuse error
    else
      match shell.files.makeDirectory (FileTree.start shell.here path)
          (FileTree.withoutTrailing path.segments) with
      | .ok files => { shell with files := files }
      | .error error => refuse error)
    (shell.setStatus 0)

/-- Make files that are missing. -/
def touch (streams : Streams) (shell : Shell) (names : List String) : Shell :=
  names.foldl (fun shell name =>
    match shell.openFile ⟨name⟩ true with
    | .ok (_, shell) => shell
    | .error .isADirectory => shell
    | .error error =>
      shell.complain streams ("touch: cannot touch \x27" ++ name ++ "\x27: " ++ reason error) 1)
    (shell.setStatus 0)

/-- Copy a file, and remove the old one if it is to be moved. -/
def copy (move : Bool) (streams : Streams) (shell : Shell) (names : List String) : Shell :=
  match names with
  | [source, target] =>
    let target : Path :=
      if shell.files.hasDirectory shell.here ⟨target⟩ then
        (Path.mk target).child ((Path.mk source).fileName.getD "")
      else ⟨target⟩
    let result : Except IoError Shell := do
      let location ← shell.files.locate shell.here ⟨source⟩
      let bytes ← shell.files.read shell.here ⟨source⟩
      let files ← shell.files.write shell.here target bytes
      let executable := (shell.files.get? location).any Node.isProgram
      let files := files.setExecutable shell.here target executable
      .ok { shell with files := if move then files.removeBelow location else files }
    match result with
    | .ok shell => shell.setStatus 0
    | .error error =>
      let name := if move then "mv" else "cp"
      shell.complain streams (name ++ ": cannot stat \x27" ++ source ++ "\x27: " ++ reason error) 1
  | _ => shell.setStatus 1

/-! ## All programs -/

/-- The programs that a machine has without any script. -/
def programs : List String :=
  ["basename", "cat", "cp", "dirname", "echo", "false", "head", "ls", "mkdir", "mv", "printf", "pwd",
    "rm", "seq", "sh", "sleep", "tail", "test", "touch", "tr", "true", "wc", "yes"]

/-- Run one of the programs. -/
def runProgram (streams : Streams) (shell : Shell) (name : String) (arguments : List String) :
    Shell :=
  match name with
  | "cat" => cat streams shell arguments
  | "cp" => copy false streams shell arguments
  | "mv" => copy true streams shell arguments
  | "mkdir" => mkdir streams shell arguments
  | "rm" => rm streams shell arguments
  | "touch" => touch streams shell arguments
  | "wc" => wc streams shell arguments
  | "head" => partOf false streams shell arguments
  | "tail" => partOf true streams shell arguments
  | "seq" => seq streams shell arguments
  | "tr" => tr streams shell arguments
  | "ls" => ls streams shell arguments
  | "yes" => yes streams shell arguments
  | "basename" => basename streams shell arguments
  | "dirname" => dirname streams shell arguments
  | "echo" =>
    let silent := arguments.head? == some "-n"
    let text := String.intercalate " " (if silent then arguments.drop 1 else arguments)
    (shell.say streams.output (if silent then text else text ++ "\n")).setStatus 0
  | "false" => shell.setStatus 1
  | _ => shell.setStatus 0

end DumpReplay.Script
