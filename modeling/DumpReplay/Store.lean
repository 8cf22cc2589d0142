import DumpReplay.Version

/-!
# The artifact store

Where the store keeps the builds of the compiler: releases below their name, commits below `main`
and their hash.

Main results:

- `artifactUrl?_eq_none_iff` : exactly the builds of a checkout have no address in the store.
-/

namespace DumpReplay

/-- A store of compiler builds, by its base address without slashes at the end. -/
structure Store where
  /-- The base address. -/
  base : String
deriving DecidableEq, Repr

namespace Store

/-- The name of the build that is not obfuscated. -/
def plainJar : String :=
  "r8.jar"

/-- The name of the obfuscated build. -/
def libraryJar : String :=
  "r8lib.jar"

/-- The name of the symbol map of the obfuscated build. -/
def libraryMap : String :=
  "r8lib.jar.map"

/-- The store at an address; slashes at its end do not matter. -/
def ofAddress (address : String) : Store :=
  ⟨String.ofList (address.toList.reverse.dropWhile (· == '/')).reverse⟩

/-- The name of the build to fetch: the plain one or the obfuscated one. -/
def distributionName (plain : Bool) : String :=
  if plain then plainJar else libraryJar

/-- The address of a file of a build; the builds of a checkout have none. -/
def artifactUrl? (store : Store) (version : Version) (name : String) : Option String :=
  match version with
  | .hash digits => some (store.base ++ "/main/" ++ digits ++ "/" ++ name)
  | .release release => some (store.base ++ "/" ++ release ++ "/" ++ name)
  | .main | .source => none

/-- Exactly the builds of a checkout have no address in the store. -/
theorem artifactUrl?_eq_none_iff (store : Store) (version : Version) (name : String) :
    store.artifactUrl? version name = none ↔ version.isRemote = false := by
  cases version <;> simp [artifactUrl?, Version.isRemote]

end Store

end DumpReplay
