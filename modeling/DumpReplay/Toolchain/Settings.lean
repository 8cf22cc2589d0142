import DumpReplay.Host.Action
import DumpReplay.Text.Blank
import DumpReplay.Toolchain
import DumpReplay.Toolchain.Placeholder
import DumpReplay.Yaml.Node

/-!
# Settings

A settings file is a YAML mapping that says where the tools are.  Its placeholders are expanded
before it is read; a tilde at the start of a path stands for the home directory.
-/

namespace DumpReplay.Toolchain

open Yaml (Fault)

/-! ## Reading the mapping -/

/-- The places that a settings file gives. -/
structure Entries where
  /-- The checkout of the compiler. -/
  root : Option String
  /-- The JDK, which may be said to be absent. -/
  javaHome : Option (Option String)
  /-- The address of the artifact store. -/
  store : Option String
deriving DecidableEq, Repr

/-- The text of a scalar. -/
def textOf : Yaml.Node → Except Fault String
  | .scalar _ _ text => .ok text
  | _ => .error .notText

/-- Whether a plain scalar says that there is no value. -/
def isNull (text : String) : Bool :=
  ["~", "null", "Null", "NULL"].contains text

/-- The text of a scalar that may say that there is no value. -/
def optionalTextOf : Yaml.Node → Except Fault (Option String)
  | .scalar _ false text => .ok (some text)
  | .scalar none true text => .ok (if text = "" || isNull text then none else some text)
  | .scalar (some tag) true text =>
    if tag ≠ "tag:yaml.org,2002:null" then .ok (some text)
    else if isNull text then .ok none
    else .error .notText
  | _ => .error .notText

/-- Take over one entry of the mapping; unknown keys say nothing. -/
def addEntry (entries : Entries) (entry : Yaml.Node × Yaml.Node) : Except Fault Entries := do
  match entry.1 with
  | .scalar _ _ key =>
    if key = "repo_root" then
      if entries.root.isSome then .error (.repeatedKey key)
      else .ok { entries with root := some (← textOf entry.2) }
    else if key = "java_home" then
      if entries.javaHome.isSome then .error (.repeatedKey key)
      else .ok { entries with javaHome := some (← optionalTextOf entry.2) }
    else if key = "storage_url" then
      if entries.store.isSome then .error (.repeatedKey key)
      else .ok { entries with store := some (← textOf entry.2) }
    else .ok entries
  | _ => .error .keyNotText

/-- The entries of a document; an empty one has none. -/
def entriesOf : Option Yaml.Node → Except Fault Entries
  | none => .ok ⟨none, none, none⟩
  | some (.mapping entries) => entries.foldlM addEntry ⟨none, none, none⟩
  | some (.scalar _ true "") => .ok ⟨none, none, none⟩
  | some _ => .error .notAMapping

/-! ## Paths -/

/-- Put the home directory in place of a tilde that stands alone or before a slash at the start of
a path. -/
def expandTilde (home : Option String) (path : String) : String :=
  match home, path.toList with
  | some home, ['~'] => home
  | some home, '~' :: '/' :: rest => home ++ String.ofList ('/' :: rest)
  | _, _ => path

/-- The toolchain of some entries, with the usual places for what they do not give. -/
def ofEntries (home : Option String) (entries : Entries) : Except Failure Toolchain :=
  let tools : Toolchain := {
    root := ⟨expandTilde home (entries.root.getD default.root.text)⟩
    javaHome := (entries.javaHome.getD none).map fun path => ⟨expandTilde home path⟩
    store := entries.store.getD default.store }
  if (Text.trim tools.store.toList).isEmpty then .error (.configuration .emptyStore)
  else .ok tools

/-- The toolchain that the text of a settings file gives, with the given variables for its
placeholders. -/
def ofSettings (environment : List (String × String)) (home : Option String) (content : String) :
    Except Failure Toolchain :=
  match expand environment content with
  | .error names => .error (.configuration (.unsetVariables names))
  | .ok expanded =>
    match (Yaml.read expanded.toList).bind entriesOf with
    | .error fault => .error (.yaml fault)
    | .ok entries => ofEntries home entries

/-! ## Settings files -/

/-- The home directory of the user. -/
def home? (machine : Machine) : Option String :=
  machine.nonEmptyValueOf? "HOME"

/-- The settings file of the user, below the directory for settings. -/
def userSettings? (machine : Machine) : Option Path :=
  let given := (machine.valueOf? "XDG_CONFIG_HOME").map Path.mk
  let directory := (given.filter Path.isAbsolute).or
    ((home? machine).map fun home => (Path.mk home).child ".config")
  directory.map fun directory => (directory.child "compiledump").child "config.yaml"

/-- Read a settings file. -/
def readSettings (file : Path) : Action Toolchain := do
  let machine ← read
  match ← Action.readText? file with
  | .error cause => Action.fail (.configuration (.unreadableSettings file cause))
  | .ok content => Action.ofExcept (ofSettings machine.environment (home? machine) content)

/-- Whether settings can be looked for.  Before anything else all variables of the environment are
collected as texts, and the program breaks off where one is none. -/
def canLoad (machine : Machine) : Bool :=
  machine.garbled.isEmpty

/-- Read the settings file that is given, else that of the user if there is one, else take the usual
places.  This is for machines on which settings can be looked for. -/
def load (explicit : Option Path) : Action Toolchain := do
  match explicit with
  | some file =>
    Action.inform ("Loading tool configuration from: " ++ file.text)
    readSettings file
  | none =>
    match userSettings? (← read) with
    | some file =>
      if ← Action.pathExists file then
        Action.inform ("Loading tool configuration from: " ++ file.text)
        readSettings file
      else return default
    | none => return default

end DumpReplay.Toolchain
