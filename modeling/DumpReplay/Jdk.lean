import DumpReplay.Host.Action

/-!
# The JDK

The programs of the JDK are taken from its directory if it is given, else from the first directory
of the search path that has them.
-/

namespace DumpReplay

/-- A JDK, by its directory; without one the search path is used. -/
structure Jdk where
  /-- The directory of the JDK. -/
  home : Option Path
deriving DecidableEq, Repr

namespace Jdk

/-- The directories of a search path; empty parts stand for none. -/
def searchDirectories (searchPath : String) : List Path :=
  ((Path.splitAt ':' searchPath.toList).filter (· ≠ [])).map Path.ofList

/-- The first path of a program in some directories that can be run. -/
def search (canRun : Path → Bool) (program : String) (directories : List Path) : Option Path :=
  (directories.map fun directory => directory.child program).find? canRun

/-- The path of a program. -/
def executable (jdk : Jdk) (program : String) : Action Path := do
  match jdk.home with
  | some home =>
    let path := (home.child "bin").child program
    if ← Action.pathExists path then return path
    else Action.fail (.configuration (.notInJdk program home))
  | none =>
    let machine ← read
    let files ← Action.files
    let canRun := fun path =>
      match files.status machine.workingDirectory path with
      | .ok node => node.isProgram
      | .error _ => false
    let directories := searchDirectories ((machine.valueOf? "PATH").getD "")
    match search canRun program directories with
    | some path => return path
    | none => Action.fail (.configuration (.notOnSearchPath program))

/-- The path of the program that runs classes. -/
def java (jdk : Jdk) : Action Path :=
  jdk.executable "java"

/-- The path of the program that compiles classes. -/
def javac (jdk : Jdk) : Action Path :=
  jdk.executable "javac"

end Jdk

end DumpReplay
