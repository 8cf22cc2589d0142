import DumpReplay.Host.Path

/-!
# The toolchain

Where a replay finds what it works with: the checkout of the compiler, the JDK, and the artifact
store.
-/

namespace DumpReplay

/-- The places that a replay takes its tools from. -/
structure Toolchain where
  /-- The root of a checkout of the compiler. -/
  root : Path
  /-- The JDK; without one the programs are taken from the search path. -/
  javaHome : Option Path
  /-- The base address of the artifact store. -/
  store : String
deriving DecidableEq, Repr

namespace Toolchain

/-- The address of the store that holds the published builds. -/
def publicStore : String :=
  "https://storage.googleapis.com/r8-releases/raw"

/-- The toolchain of a user without settings. -/
def default : Toolchain :=
  ⟨⟨"."⟩, none, publicStore⟩

instance : Inhabited Toolchain :=
  ⟨default⟩

/-- The directory of the jars built in the checkout. -/
def libraries (tools : Toolchain) : Path :=
  (tools.root.child "build").child "libs"

/-- The jar of the checkout that is not obfuscated. -/
def plainJar (tools : Toolchain) : Path :=
  tools.libraries.child "r8.jar"

/-- The obfuscated jar of the checkout. -/
def libraryJar (tools : Toolchain) : Path :=
  tools.libraries.child "r8lib.jar"

/-- The symbol map that belongs to the obfuscated jar. -/
def libraryMap (tools : Toolchain) : Path :=
  tools.libraries.child "r8lib.jar.map"

/-- The class files of the checkout. -/
def classes (tools : Toolchain) : Path :=
  (((tools.root.child "build").child "classes").child "java").child "main"

/-- The jar with everything that the class files depend on. -/
def dependencies (tools : Toolchain) : Path :=
  tools.libraries.child "deps_all.jar"

/-- The source file of a class that adapts a compiler to the arguments of a dump. -/
def adapterSource (tools : Toolchain) (className : String) : Path :=
  (tools.root.child "src/main/java/com/android/tools/r8/utils").child (className ++ ".java")

/-- Replace the places that are given. -/
def override (tools : Toolchain) (root javaHome : Option Path) (store : Option String) :
    Toolchain where
  root := root.getD tools.root
  javaHome := javaHome.or tools.javaHome
  store := store.getD tools.store

end Toolchain

end DumpReplay
