import DumpReplay.Dump.Opening

/-!
# Summaries

A summary of a dump shows its version, its build properties, which archives it has, and how many
classes each package of the program holds.  A dump that cannot be read is reported in its place, and
the summary of the others goes on.

Main results:

- `mem_keys_tally` : a tally has the names it had, and the new one.
-/

namespace DumpReplay.Dump

/-! ## Packages -/

/-- The end of the names of classes. -/
def classEnding : List Char :=
  ".class".toList

/-- The package of an entry: what stands before the last slash of its name. -/
def packageOf (name : String) : String :=
  match Text.cutLast '/' name.toList with
  | some (package, _) => String.ofList package
  | none => ""

/-- Count one more of a name, in a list that is in the order of the names. -/
def tally (name : String) : List (String × Nat) → List (String × Nat)
  | [] => [(name, 1)]
  | (other, count) :: rest =>
    if name = other then (other, count + 1) :: rest
    else if name < other then (name, 1) :: (other, count) :: rest
    else (other, count) :: tally name rest

/-- The names of classes among the names of entries. -/
def classNames (names : List String) : List String :=
  names.filter fun name => Text.endsWith classEnding name.toList

/-- The packages of the classes among some names, in order, with how many classes each has. -/
def packages (names : List String) : List (String × Nat) :=
  (classNames names).foldl (fun counts name => tally (packageOf name) counts) []

/-- A tally has the names it had, and the new one. -/
theorem mem_keys_tally {name other : String} {counts : List (String × Nat)} :
    other ∈ (tally name counts).map Prod.fst ↔ other = name ∨ other ∈ counts.map Prod.fst := by
  induction counts with
  | nil => simp [tally]
  | cons entry rest ih =>
    obtain ⟨key, count⟩ := entry
    unfold tally
    split
    · rename_i h
      subst h
      simp
    · split
      · simp
      · simp only [List.map_cons, List.mem_cons, ih]
        grind

/-- The packages of a jar with the number of their classes. -/
def summarizeJar (jar : Path) : Action (List (String × Nat)) := do
  let archive ← Action.ofExcept (readArchive (← Action.readBytes? jar))
  return packages archive.names

/-! ## Dumps -/

/-- Where the lines of a summary go. -/
abbrev Sink := String → Action Unit

/-- Show a line if a dump has an artifact. -/
def showPresence (dump : Dump) (artifact : Artifact) (out : Sink) : Action Unit := do
  if ← dump.has artifact then out (artifact.fileName ++ " present")

/-- Show what a dump holds. -/
def summarize (dump : Dump) (out : Sink) : Action Unit := do
  match ← dump.version with
  | none => out "No dump version info"
  | some version =>
    out ("version=" ++ version)
    match ← dump.find .buildProperties with
    | some file => out (← Action.readText file)
    | none => pure ()
    showPresence dump .library out
    showPresence dump .classpath out
    match ← dump.find .program with
    | some program =>
      out (Artifact.program.fileName ++ " content:")
      for (package, count) in ← summarizeJar program do
        out ("  " ++ package ++ ": " ++ toString count)
    | none => pure ()

/-- Show what the dump at a path holds; an archive is extracted into a scratch directory. -/
def summarizePath (path : Path) (out : Sink) : Action Unit :=
  Action.withScratch fun scratch => do
    let dump ← openIn path scratch false
    summarize dump out

/-- Show the section of one path: the path, what it holds, and the failure if there is one. -/
def summarizeSection (path : Path) (out : Sink) : Action Unit := do
  out (path.text ++ ":")
  match ← Action.attempt (summarizePath path out) with
  | .ok () => pure ()
  | .error failure => out ("Error: " ++ failure.message)

/-- Show the sections of some paths, one after the other. -/
def summarizeAll (paths : List Path) (out : Sink) : Action Unit := do
  if paths.isEmpty then Action.fail (.configuration .nothingToSummarize)
  else
    for path in paths do
      summarizeSection path out

end DumpReplay.Dump
