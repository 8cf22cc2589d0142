import DumpReplay.Replay.Run

/-!
# Replaying over and over

A dump can be replayed until a replay fails.  Every replay works in a directory of its own, named
for its number.

Main results:

- `loopFor_succ` : a loop is its first replay, followed by the others.
-/

namespace DumpReplay.Replay

/-- A number in at least three digits. -/
def padded (iteration : Nat) : String :=
  let digits := toString iteration
  String.ofList (List.replicate (3 - digits.length) '0' ++ digits.toList)

/-- The directory of one of the replays. -/
def iterationDirectory (parent : Option Path) (iteration : Nat) : Option Path :=
  parent.map fun directory => directory.child (padded iteration)

/-- A status as log records show it. -/
def Status.shown : Status → String
  | succeeded => "Succeeded"
  | compilerFailed => "CompilerFailed"

/-- One of the replays.  Its number is a natural number, where the program has 64 bits for it. -/
def iterate (parent : Option Path) (options : Options) (tools : Toolchain) (iteration : Nat) :
    Action Unit := do
  Action.printLine ("Iteration " ++ padded iteration)
  let status ← run (iterationDirectory parent iteration) options tools .none
  Action.inform ("Iteration " ++ padded iteration ++ " finished: " ++ status.shown)

/-- The first replays of a loop, up to the given number of them, from a number on; it ends early
with the first failure.  The next number is always one higher: no loop goes on for so long that the
64 bits of the program are used up. -/
def loopFor (parent : Option Path) (options : Options) (tools : Toolchain) :
    Nat → Nat → Action Unit
  | 0, _ => pure ()
  | count + 1, iteration => do
    iterate parent options tools iteration
    loopFor parent options tools count (iteration + 1)

/-- A loop is its first replay, followed by the others. -/
theorem loopFor_succ (parent : Option Path) (options : Options) (tools : Toolchain)
    (count iteration : Nat) :
    loopFor parent options tools (count + 1) iteration = (do
      iterate parent options tools iteration
      loopFor parent options tools count (iteration + 1)) := rfl

end DumpReplay.Replay
