import DumpReplay.Shrinker.Toggle
import DumpReplay.Text.Line

/-!
# Keep rules for a replay

The keep rules of a dump name jars and report files of the build that the dump was taken from.  For
a replay the lines with those are dropped, and the rules that switch phases off are put in front or
dropped as the toggles ask.

Main results:

- `toList_content_adjust` : the content of adjusted rules is the header followed by the kept lines,
  byte for byte.
-/

namespace DumpReplay.Shrinker

/-- The words whose lines never belong into a replay: input jars, library jars and reports. -/
def strippedDirectives : List String :=
  ["-injars", "-libraryjars", "-print"]

/-- The words whose lines are dropped under the given toggles. -/
def droppedDirectives (toggles : Toggles) : List String :=
  strippedDirectives ++ toggles.directivesOf .forceEnable

/-- Whether a line is dropped: it holds one of the words, wherever in the line. -/
def isDropped (toggles : Toggles) (line : List Char) : Bool :=
  (droppedDirectives toggles).any fun directive => Text.occursIn directive.toList line

/-- Rules adjusted for a replay. -/
structure Adjusted where
  /-- The new rules. -/
  content : String
  /-- The rules put in front. -/
  added : List String
  /-- The lines dropped, without their ends. -/
  removed : List String
deriving DecidableEq, Repr

/-- The lines put in front of the rules, one for each phase that is forced off. -/
def header (toggles : Toggles) : List Char :=
  (toggles.directivesOf .forceDisable).flatMap fun directive => directive.toList ++ ['\n']

/-- The lines that stay, each with its end. -/
def keptLines (toggles : Toggles) (content : List Char) : List (List Char) :=
  (Text.pieces content).filter fun line => !isDropped toggles line

/-- The lines that are dropped, each with its end. -/
def droppedLines (toggles : Toggles) (content : List Char) : List (List Char) :=
  (Text.pieces content).filter fun line => isDropped toggles line

/-- Adjust rules for a replay. -/
def adjust (toggles : Toggles) (content : String) : Adjusted where
  content := String.ofList (header toggles ++ (keptLines toggles content.toList).flatten)
  added := toggles.directivesOf .forceDisable
  removed :=
    (droppedLines toggles content.toList).map fun line => String.ofList (Text.chompAll line)

/-- The content of adjusted rules is the header followed by the kept lines. -/
@[simp] theorem toList_content_adjust (toggles : Toggles) (content : String) :
    (adjust toggles content).content.toList =
      header toggles ++ (keptLines toggles content.toList).flatten := by
  simp [adjust]

/-- What is dropped from adjusted rules is given back without the ends of lines. -/
theorem removed_adjust (toggles : Toggles) (content : String) :
    (adjust toggles content).removed =
      (droppedLines toggles content.toList).map fun line => String.ofList (Text.chompAll line) := rfl

end DumpReplay.Shrinker
