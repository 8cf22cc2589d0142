import DumpReplay.Script.Printing
import DumpReplay.Script.Shell

/-!
# Commands of the shell

The commands that a script has without any program: conditions, output, variables, and ending.
-/

namespace DumpReplay.Script

/-! ## Conditions -/

/-- The condition that the arguments of `test` state, or nothing if they state none. -/
def test? (shell : Shell) : List String → Option Bool
  | [] => some false
  | "!" :: first :: rest => (test? shell (first :: rest)).map not
  | [text] => some (text ≠ "")
  | [operator, operand] =>
    let path : Path := ⟨operand⟩
    match operator with
    | "-n" => some (operand ≠ "")
    | "-z" => some (operand = "")
    | "-e" => some (shell.files.has shell.here path)
    | "-f" => some (shell.files.hasFile shell.here path)
    | "-d" => some (shell.files.hasDirectory shell.here path)
    | "-r" | "-w" => some (shell.files.has shell.here path)
    | "-s" =>
      some (match shell.files.read shell.here path with
        | .ok bytes => bytes.size > 0
        | .error _ => shell.files.hasDirectory shell.here path)
    | "-x" =>
      some (match shell.files.status shell.here path with
        | .ok node => node.isDirectory || node.isProgram
        | .error _ => false)
    | _ => none
  | [left, operator, right] =>
    let compare := fun (p : Int → Int → Bool) =>
      match left.trimAscii.toString.toInt?, right.trimAscii.toString.toInt? with
      | some a, some b => some (p a b)
      | _, _ => none
    match operator with
    | "=" | "==" => some (left = right)
    | "!=" => some (left ≠ right)
    | "-eq" => compare fun a b => a == b
    | "-ne" => compare fun a b => a != b
    | "-gt" => compare fun a b => a > b
    | "-ge" => compare fun a b => a ≥ b
    | "-lt" => compare fun a b => a < b
    | "-le" => compare fun a b => a ≤ b
    | "-a" => some (left ≠ "" && right ≠ "")
    | "-o" => some (left ≠ "" || right ≠ "")
    | _ => none
  | first :: second :: third :: "-a" :: rest => do
    some ((← test? shell [first, second, third]) && (← test? shell rest))
  | first :: second :: third :: "-o" :: rest => do
    some ((← test? shell [first, second, third]) || (← test? shell rest))
  | first :: second :: "-a" :: rest => do
    some ((← test? shell [first, second]) && (← test? shell rest))
  | first :: second :: "-o" :: rest => do
    some ((← test? shell [first, second]) || (← test? shell rest))
  | _ => none
termination_by arguments => arguments.length

/-! ## Ending -/

/-- The signals that end a process, by number and by name. -/
def killingSignals : List (String × String) :=
  [("1", "HUP"), ("2", "INT"), ("3", "QUIT"), ("4", "ILL"), ("5", "TRAP"), ("6", "ABRT"), ("7", "BUS"),
    ("8", "FPE"), ("9", "KILL"), ("10", "USR1"), ("11", "SEGV"), ("12", "USR2"), ("13", "PIPE"),
    ("14", "ALRM"), ("15", "TERM")]

/-- Whether a text names a signal that ends a process. -/
def isKilling (signal : String) : Bool :=
  killingSignals.any fun (number, name) => signal = number || signal = name

/-- Whether a text names the signal that the program which starts scripts does not die of: the one for
output that nobody reads. -/
def isIgnoredByStarter (signal : String) : Bool :=
  signal = "13" || signal = "PIPE"

/-- End with an exit code. -/
def exitWith (streams : Streams) (shell : Shell) (line : Nat) (arguments : List String) : Shell :=
  match arguments with
  | [] => { shell with halt := some (.exited shell.status) }
  | text :: _ =>
    match text.toNat? with
    | some code =>
      { shell with halt := some (.exited (code % 256)), status := code % 256 }
    | none =>
      let shell := shell.complainAt streams line ("exit: Illegal number: " ++ text) 2
      { shell with halt := some (.exited 2) }

/-! ## All commands -/

/-- Run a command of the shell itself, if there is one of the given name. -/
def runBuiltin? (streams : Streams) (shell : Shell) (line : Nat) (name : String)
    (arguments : List String) : Option Shell :=
  match name with
  | ":" | "true" | "trap" | "wait" => some (shell.setStatus 0)
  | "break" => some { shell with halt := some .leavesLoop, status := 0 }
  | "continue" => some { shell with halt := some .endsRound, status := 0 }
  | "export" =>
    some (arguments.foldl (fun shell argument =>
      match Text.cutFirst '=' argument.toList with
      | some (name, value) =>
        (shell.setVariable (String.ofList name) (String.ofList value)).passOn (String.ofList name)
      | none => shell.passOn argument) (shell.setStatus 0))
  | "unset" => some (arguments.foldl Shell.unset (shell.setStatus 0))
  | "set" =>
    match arguments with
    | "--" :: rest => some { shell with arguments := rest, status := 0 }
    | first :: _ =>
      if first.startsWith "-" || first.startsWith "+" then some (shell.setStatus 0)
      else some { shell with arguments := arguments, status := 0 }
    | [] => some (shell.setStatus 0)
  | "false" => some (shell.setStatus 1)
  | "echo" => some ((shell.emit streams.output (echoed arguments)).setStatus 0)
  | "printf" =>
    match arguments with
    | [] => some (shell.complainAt streams line "printf: usage: printf format [arg ...]" 2)
    | format :: rest =>
      let bytes := printed format.toList (rest.length + 1) rest
      some ((shell.emit streams.output ⟨bytes.toArray⟩).setStatus 0)
  | "test" => some (judge (test? shell arguments) arguments)
  | "[" =>
    if arguments.getLast? = some "]" then some (judge (test? shell arguments.dropLast) arguments)
    else some (shell.complainAt streams line "[: missing ]" 2)
  | "exit" => some (exitWith streams shell line arguments)
  | "shift" =>
    let count := (arguments.head?.bind String.toNat?).getD 1
    if count > shell.arguments.length then
      let shell := shell.complainAt streams line "shift: can\x27t shift that many" 2
      some { shell with halt := some (.exited 2) }
    else some { shell with arguments := shell.arguments.drop count, status := 0 }
  | "kill" =>
    match arguments with
    | [flag, number] => some (signal (String.ofList (flag.toList.drop 1)) number)
    | ["-s", name, number] => some (signal name number)
    | [number] => some (signal "TERM" number)
    | _ => some (shell.setStatus 1)
  | "cd" =>
    let directory := arguments.head?.getD (shell.valueOf "HOME")
    match shell.files.locate shell.here ⟨directory⟩ with
    | .ok location =>
      if (shell.files.get? location).any Node.isDirectory then
        some { shell with here := location, status := 0 }
      else some (refuse directory)
    | .error _ => some (refuse directory)
  | "pwd" =>
    some ((shell.say streams.output ("/" ++ String.intercalate "/" shell.here ++ "\n")).setStatus 0)
  | _ => none
where
  /-- Send a signal to a process. -/
  signal (name number : String) : Shell :=
    if number = Shell.ownNumber then
      if name = "0" then shell.setStatus 0
      else if isKilling name then { shell with halt := some .killed }
      else shell.setStatus 1
    else if number = Shell.starterNumber then
      if name = "0" then shell.setStatus 0
      else if isKilling name then
        { shell with struck := shell.struck || !isIgnoredByStarter name, status := 0 }
      else shell.setStatus 1
    else shell.complainAt streams line "kill: No such process\n" 1
  /-- The refusal to go to a directory. -/
  refuse (directory : String) : Shell :=
    shell.complainAt streams line ("cd: can\x27t cd to " ++ directory) 2
  /-- The exit code for a condition. -/
  judge (condition : Option Bool) (arguments : List String) : Shell :=
    match condition with
    | some true => shell.setStatus 0
    | some false => shell.setStatus 1
    | none =>
      let operand := (arguments.head?).getD ""
      shell.complainAt streams line ("[: Illegal number: " ++ operand) 2

end DumpReplay.Script
