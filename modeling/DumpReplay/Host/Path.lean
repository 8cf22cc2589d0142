import DumpReplay.Text.Line

/-!
# Paths

A path is the text that names a file.  Joining, the name of the last component and its stem work on
the text alone; nothing is looked up and nothing is normalised.  The system may also have files whose
names are no text; these have no path here.

Main results:

- `join_of_not_absolute` : joining a relative path keeps it as the end of the result.
- `join_absolute` : joining an absolute path gives that path.
-/

namespace DumpReplay

/-- A path, as the text that was given for it. -/
structure Path where
  /-- The text of the path. -/
  text : String
deriving DecidableEq, Repr, Inhabited

namespace Path

/-! ## Joining -/

/-- A path from its characters. -/
def ofList (characters : List Char) : Path :=
  ⟨String.ofList characters⟩

/-- The characters of a path. -/
def toList (path : Path) : List Char :=
  path.text.toList

@[simp] theorem toList_ofList (characters : List Char) : (ofList characters).toList = characters := by
  simp [ofList, toList]

@[simp] theorem toList_mk (text : String) : (Path.mk text).toList = text.toList := rfl

/-- Two paths with the same characters are the same. -/
theorem ext_toList {a b : Path} (h : a.toList = b.toList) : a = b := by
  cases a
  cases b
  simpa [toList, String.toList_inj] using h

/-- Whether the path starts at the root. -/
def isAbsolute (path : Path) : Bool :=
  path.toList.head? == some '/'

/-- Whether a separator has to stand between the path and a name put behind it. -/
def needsSeparator (path : Path) : Bool :=
  match path.toList.getLast? with
  | none => false
  | some c => c != '/'

/-- The path of `rest` seen from `base`: an absolute `rest` stands for itself, any other is put
behind `base` with one separator if `base` has none at its end. -/
def join (base rest : Path) : Path :=
  if rest.isAbsolute then rest
  else if base.needsSeparator then ⟨base.text ++ "/" ++ rest.text⟩
  else ⟨base.text ++ rest.text⟩

/-- The path of a name inside a directory. -/
def child (directory : Path) (name : String) : Path :=
  directory.join ⟨name⟩

/-- Joining an absolute path gives that path. -/
theorem join_absolute {base rest : Path} (h : rest.isAbsolute = true) : base.join rest = rest := by
  simp [join, h]

/-- Joining a relative path keeps it as the end of the result. -/
theorem join_of_not_absolute {base rest : Path} (h : rest.isAbsolute = false) :
    (base.join rest).toList =
      base.toList ++ (if base.needsSeparator then ['/'] else []) ++ rest.toList := by
  by_cases hs : base.needsSeparator <;> simp [join, toList, h, hs]

/-! ## Components -/

/-- Cut a text at every separator. -/
def splitAt (separator : Char) : List Char → List (List Char)
  | [] => [[]]
  | c :: cs =>
    if c = separator then [] :: splitAt separator cs
    else
      match splitAt separator cs with
      | [] => [[c]]
      | piece :: rest => (c :: piece) :: rest

@[simp] theorem splitAt_nil (separator : Char) : splitAt separator [] = [[]] := rfl

theorem splitAt_cons (separator c : Char) (cs : List Char) :
    splitAt separator (c :: cs) =
      if c = separator then [] :: splitAt separator cs
      else
        match splitAt separator cs with
        | [] => [[c]]
        | piece :: rest => (c :: piece) :: rest := rfl

/-- The texts between the separators of a path, empty ones included. -/
def segments (path : Path) : List String :=
  (splitAt '/' path.toList).map String.ofList

/-- The segments that are names, without those that stand for the directory itself. -/
def names (path : Path) : List String :=
  path.segments.filter fun s => s != "" && s != "."

/-- The last name of a path, unless the path ends by going up or has no name. -/
def fileName (path : Path) : Option String :=
  match path.names.getLast? with
  | some ".." => none
  | last => last

/-- The last name of a path without the part from its last point on; a name whose only point
stands first is kept. -/
def fileStem (path : Path) : Option String :=
  path.fileName.map fun name =>
    match Text.cutLast '.' name.toList with
    | some ([], _) => name
    | some (before, _) => String.ofList before
    | none => name

end Path

end DumpReplay
