import DumpReplay.Failure

/-!
# Distributions

A distribution is what runs a compiler: one jar, or directories of class files with jars.  Its
class path is the text that the JVM takes, with the entries between colons.

Main results:

- `classpathWith_eq_error_iff` : a class path cannot be built exactly when an entry holds a colon.
-/

namespace DumpReplay

/-- A compiler that can be run. -/
inductive Distribution where
  /-- A single jar. -/
  | jar (file : Path)
  /-- Directories and jars, in the order in which classes are looked up. -/
  | classpath (entries : List Path)
deriving DecidableEq, Repr

namespace Distribution

/-- The entries of the class path, in order. -/
def entries : Distribution → List Path
  | jar file => [file]
  | classpath entries => entries

/-- The entries of the class path with an entry in front, if one is given. -/
def entriesAfter (distribution : Distribution) (first : Option Path) : List Path :=
  first.toList ++ distribution.entries

/-- Whether an entry holds the character that separates entries. -/
def holdsSeparator (entry : Path) : Bool :=
  entry.toList.contains ':'

/-- The class path, with an entry in front if one is given. -/
def classpathWith (distribution : Distribution) (first : Option Path) : Except Failure String :=
  let entries := distribution.entriesAfter first
  if entries.any holdsSeparator then .error .separatorInClasspath
  else .ok (String.intercalate ":" (entries.map Path.text))

/-- A class path cannot be built exactly when an entry holds the separator. -/
theorem classpathWith_eq_error_iff (distribution : Distribution) (first : Option Path) :
    distribution.classpathWith first = .error .separatorInClasspath ↔
      ∃ entry ∈ distribution.entriesAfter first, ':' ∈ entry.toList := by
  unfold classpathWith
  simp [holdsSeparator]

end Distribution

end DumpReplay
