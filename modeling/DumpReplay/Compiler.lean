/-!
# Compilers

The four compilers that a dump can be replayed with, and what the rest of the library has to know
about each: its name, the class that runs it, and the options that only some of them take.

Main results:

- `ofName?_name` : every compiler is found by its name.
- `ofName?_eq_some_iff` : a name belongs to the compiler that bears it and to no other.
-/

namespace DumpReplay

/-- A compiler that can replay a dump. -/
inductive Compiler where
  /-- The dexer, which does not shrink. -/
  | d8
  /-- The shrinker, in the mode that is compatible with older rules. -/
  | r8
  /-- The shrinker in full mode. -/
  | r8full
  /-- The compiler for desugared libraries. -/
  | l8
deriving DecidableEq, Repr, Inhabited

namespace Compiler

/-- All compilers, in the order in which messages list them. -/
def all : List Compiler :=
  [d8, r8, r8full, l8]

/-- The name by which a compiler is asked for. -/
def name : Compiler → String
  | d8 => "d8"
  | r8 => "r8"
  | r8full => "r8full"
  | l8 => "l8"

/-- The compiler with a given name. -/
def ofName? (wanted : String) : Option Compiler :=
  all.find? fun compiler => compiler.name == wanted

/-- The names of all compilers, as messages list them. -/
def allNames : String :=
  String.intercalate ", " (all.map name)

/-- The class whose main method runs the compiler. -/
def entryPoint : Compiler → String
  | d8 => "com.android.tools.r8.utils.CompileDumpD8"
  | r8 | r8full => "com.android.tools.r8.utils.CompileDumpCompatR8"
  | l8 => "com.android.tools.r8.L8"

/-- Whether compatibility mode has to be asked for by a flag. -/
def needsCompatibilityFlag : Compiler → Bool
  | r8 => true
  | _ => false

/-- Whether the compiler takes a file of keep rules. -/
def takesRules : Compiler → Bool
  | d8 => false
  | _ => true

/-- Whether the compiler writes a symbol map, given whether it is passed keep rules. -/
def writesMap (hasRules : Bool) : Compiler → Bool
  | d8 => false
  | l8 => hasRules
  | r8 | r8full => true

/-- Every compiler is found by its name. -/
@[simp] theorem ofName?_name (compiler : Compiler) : ofName? compiler.name = some compiler := by
  cases compiler <;> decide

/-- A name belongs to the compiler that bears it and to no other. -/
theorem ofName?_eq_some_iff {wanted : String} {compiler : Compiler} :
    ofName? wanted = some compiler ↔ wanted = compiler.name := by
  constructor
  · intro h
    unfold ofName? at h
    have found := List.find?_some h
    exact (beq_iff_eq.1 found).symm
  · rintro rfl
    exact ofName?_name compiler

end Compiler

end DumpReplay
