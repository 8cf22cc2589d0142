import DumpReplay.Distribution
import DumpReplay.Host.Process
import DumpReplay.Toolchain

/-!
# Adapters

Two classes adapt the compilers to the arguments of a dump.  They are compiled into the work
directory before the compiler is run.
-/

namespace DumpReplay.Adapters

/-- The classes, in the order in which they are compiled. -/
def classNames : List String :=
  ["CompileDumpCompatR8", "CompileDumpD8"]

/-- The arguments for the compiler of one class. -/
def arguments (source workDirectory : Path) (classpath : String) : List String :=
  [source.text, "-d", workDirectory.text, "-cp", classpath]

/-- Compile the classes into a work directory, against a distribution. -/
def prepare (javac : Path) (distribution : Distribution) (workDirectory : Path)
    (tools : Toolchain) : Action Unit := do
  let classpath ← Action.ofExcept (distribution.classpathWith none)
  for className in classNames do
    let source := tools.adapterSource className
    let _ ← Action.runChecked ⟨javac, arguments source workDirectory classpath⟩

end DumpReplay.Adapters
