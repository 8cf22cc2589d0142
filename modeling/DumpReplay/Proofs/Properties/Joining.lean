import DumpReplay.Proofs.Action.Running
import DumpReplay.Proofs.Properties.Recording
import DumpReplay.Proofs.Shrinker.Readjusting
import DumpReplay.Replay.Staging

/-!
# Properties of joined texts

Two texts of properties may be put together, with a line feed between them.  The properties of the
whole are those of the first text into which those of the second are inserted, and the warnings are
those of the two texts, one after the other.  It does not matter how the first text ends: line feeds
and carriage returns are blanks, and blanks at the ends of lines say nothing.

Main results:

- `strippedLines_join` : the lines of joined texts, without the blanks at their ends.
- `parse_join`, `warnings_join` : properties and warnings of joined texts.
- `on_readProperties` : reading a file of properties gives those of its text and its warnings.
- `parse_records_and_joins` : properties are an ordered map, and reading goes along with joining.
-/

namespace DumpReplay

namespace Text

variable {text blanks : List Char}

/-! ## Blanks at the ends of lines -/

/-- Blanks at the end of a text are trimmed away. -/
theorem trim_append_blanks (h : blanks.all isBlank = true) : trim (text ++ blanks) = trim text := by
  have hblanks : blanks.dropWhile isBlank = [] := dropWhile_eq_nil_iff_all.mpr h
  have hreverse : ∀ c ∈ blanks.reverse, isBlank c = true := by
    intro c hc
    exact List.all_eq_true.mp h c (List.mem_reverse.mp hc)
  unfold trim trimStart
  rw [List.dropWhile_append]
  split
  · rename_i hstart
    rw [List.isEmpty_iff.mp hstart, hblanks]
  · rw [trimEnd, List.reverse_append, List.dropWhile_append_of_pos hreverse, trimEnd]

/-- The end of a line consists of blanks. -/
theorem trim_withoutEnd (piece : List Char) : trim (withoutEnd piece) = trim piece := by
  unfold withoutEnd
  split
  · rename_i rest hpiece
    have hends : piece = rest.reverse ++ ['\r', '\n'] := by
      rw [← List.reverse_reverse piece, hpiece]
      simp
    rw [hends, trim_append_blanks rfl]
  · rename_i rest _ hpiece
    have hends : piece = rest.reverse ++ ['\n'] := by
      rw [← List.reverse_reverse piece, hpiece]
      simp
    rw [hends, trim_append_blanks rfl]
  · rfl

/-! ## Stripped lines -/

/-- What the lines of a text say: the lines without the blanks at their ends, and no blank ones. -/
def strippedLines (text : List Char) : List (List Char) :=
  ((lines text).map trim).filter (· ≠ [])

theorem strippedLines_eq (text : List Char) :
    strippedLines text = ((pieces text).map trim).filter (· ≠ []) := by
  have htrim : trim ∘ withoutEnd = trim := funext trim_withoutEnd
  rw [strippedLines, lines, List.map_map, htrim]

/-- A line feed behind the last piece of a text does not change what the pieces say. -/
theorem IsCut.stripped_join {lines : List (List Char)} (h : IsCut lines) (second : List Char) :
    ((pieces (lines.flatten ++ '\n' :: second)).map trim).filter (· ≠ []) =
      (lines.map trim).filter (· ≠ []) ++ ((pieces second).map trim).filter (· ≠ []) := by
  have hend : ∀ line : List Char, trim (line ++ ['\n']) = trim line :=
    fun line => trim_append_blanks rfl
  induction h with
  | nil =>
    -- The line feed makes one blank line more.
    rw [List.flatten_nil, pieces_line [] (by simp), List.map_cons, hend]
    rfl
  | last line hne hline =>
    rw [List.flatten_singleton, pieces_line line hline, List.map_cons, hend, ← List.singleton_append,
      List.filter_append, List.map_singleton]
  | cons line hline _ ih =>
    rw [List.flatten_cons, List.append_assoc, List.append_assoc, List.singleton_append,
      pieces_line line hline, List.map_cons, List.map_cons, List.filter_cons, List.filter_cons, ih]
    split <;> rfl

/-- A line feed between two texts does not change what their lines say. -/
theorem strippedLines_join (first second : List Char) :
    strippedLines (first ++ '\n' :: second) = strippedLines first ++ strippedLines second := by
  have hwhole := (isCut_pieces first).stripped_join second
  rw [flatten_pieces] at hwhole
  rw [strippedLines_eq, hwhole, strippedLines_eq, strippedLines_eq]

end Text

namespace Properties

/-! ## Entries and warnings -/

/-- The record that is logged for a line that is neither blank nor an entry. -/
def warningOf (line : String) : LogRecord :=
  ⟨.warning, "Ignoring malformed build property line: " ++ line⟩

/-- The warnings of a text. -/
def warnings (content : String) : List LogRecord :=
  (malformedLines content).map warningOf

/-- The entries of a text are those of the lines that say something. -/
theorem recorded_eq (content : String) :
    recorded content = (Text.strippedLines content.toList).filterMap fun line =>
      (Text.cutFirst '=' line).map fun cut => (String.ofList cut.1, String.ofList cut.2) := by
  rw [recorded, Text.strippedLines, List.filterMap_filter, List.filterMap_map]
  refine List.filterMap_congr fun line _ => ?_
  rw [Function.comp_apply, entryOf?]
  cases Text.trim line <;> rfl

/-- The malformed lines of a text are the ones that say something and have no equals sign. -/
theorem malformedLines_eq (content : String) :
    malformedLines content =
      ((Text.strippedLines content.toList).filter ('=' ∉ ·)).map String.ofList := by
  unfold malformedLines readLines Text.strippedLines
  induction Text.lines content.toList with
  | nil => rfl
  | cons line lines ih =>
    rw [List.map_cons, List.map_cons, List.filterMap_cons, ih, readLine]
    cases Text.trim line with
    | nil => rfl
    | cons c cs =>
      cases hcut : Text.cutFirst '=' (c :: cs) with
      | none =>
        have hfree : '=' ∉ c :: cs := Text.cutFirst_eq_none_iff.mp hcut
        simp [hfree]
      | some cut =>
        have hmem : '=' ∈ c :: cs := by
          rw [(Text.cutFirst_eq_some_iff.mp hcut).1]
          simp
        simp [hmem]

theorem toList_join (first second : String) :
    (first ++ "\n" ++ second).toList = first.toList ++ '\n' :: second.toList := by
  simp

theorem recorded_join (first second : String) :
    recorded (first ++ "\n" ++ second) = recorded first ++ recorded second := by
  rw [recorded_eq, toList_join, Text.strippedLines_join, List.filterMap_append, recorded_eq, recorded_eq]

/-- The warnings of joined texts are those of the first one and then those of the second one. -/
theorem warnings_join (first second : String) :
    warnings (first ++ "\n" ++ second) = warnings first ++ warnings second := by
  rw [warnings, malformedLines_eq, toList_join, Text.strippedLines_join, List.filter_append,
    List.map_append, List.map_append, warnings, warnings, malformedLines_eq, malformedLines_eq]

/-- The properties of joined texts are those of the first one, into which those of the second one are
inserted. -/
theorem parse_join (first second : String) :
    parse (first ++ "\n" ++ second) = (parse first).insertAll (parse second).entries := by
  calc parse (first ++ "\n" ++ second)
      = empty.insertAll (recorded first ++ recorded second) := by
        rw [parse_eq_insertAll, recorded_join]
    _ = (parse first).insertAll (recorded second) := by
        rw [insertAll_append, ← parse_eq_insertAll]
    _ = (parse first).insertAll (parse second).entries := by
        rw [parse_eq_insertAll second, insertAll_entries]

/-! ## Reading files -/

variable {machine : Machine} {host after : Host}

/-- A loop of warnings logs one record for each line. -/
theorem on_forIn_warn (lines : List String) :
    (forIn lines PUnit.unit fun line _ => do
      Action.warn ("Ignoring malformed build property line: " ++ line)
      pure (ForInStep.yield PUnit.unit)).on machine host =
        (.ok PUnit.unit, { host with log := host.log ++ lines.map warningOf }) := by
  induction lines generalizing host with
  | nil => simp
  | cons line lines ih =>
    have hwarned : (do
        Action.warn ("Ignoring malformed build property line: " ++ line)
        pure (ForInStep.yield PUnit.unit)).on machine host =
          (.ok (.yield PUnit.unit), { host with log := host.log ++ [warningOf line] }) := rfl
    rw [List.forIn_cons, Action.on_bind_of_ok _ hwarned]
    dsimp only
    rw [ih, List.map_cons, List.append_assoc, List.singleton_append]

/-- Reading a file of properties gives those of its text, and logs the warnings of the text; a file that
cannot be read fails the reading. -/
theorem on_readProperties (file : Path) :
    (Replay.readProperties file).on machine host =
      match (Action.readText file).on machine host with
      | (.ok content, after) =>
        (.ok (parse content), { after with log := after.log ++ warnings content })
      | (.error failure, after) => (.error failure, after) := by
  unfold Replay.readProperties
  rw [Action.on_bind]
  rcases (Action.readText file).on machine host with ⟨outcome, after⟩
  cases outcome with
  | error failure => rfl
  | ok content =>
    dsimp only
    rw [Action.on_bind_of_ok _ (on_forIn_warn _)]
    rfl

/-! ## Whole texts -/

/-- Properties are an ordered map, whatever was set, and reading goes along with joining.  The
properties of a text into which further entries were inserted record the entries of the text and then
these.  The properties of joined texts are those of the first one, into which those of the second one
are inserted, and their warnings are those of the first one and then those of the second one.  There is
one warning for every line that is not blank and has no equals sign, and reading a file logs exactly
these. -/
theorem parse_records_and_joins (content further : String) (inserted : List (String × String)) :
    Records ((parse content).insertAll inserted) (recorded content ++ inserted) ∧
      parse (content ++ "\n" ++ further) = (parse content).insertAll (parse further).entries ∧
      warnings (content ++ "\n" ++ further) = warnings content ++ warnings further ∧
      warnings content = (((Text.lines content.toList).map Text.trim).filter
        fun line => line ≠ [] ∧ '=' ∉ line).map (fun line => warningOf (String.ofList line)) ∧
      ∀ (file : Path) (machine : Machine) (host : Host),
        (Replay.readProperties file).on machine host =
          match (Action.readText file).on machine host with
          | (.ok text, after) =>
            (.ok (parse text), { after with log := after.log ++ warnings text })
          | (.error failure, after) => (.error failure, after) := by
  refine ⟨(records_parse content).insertAll inserted, parse_join content further,
    warnings_join content further, ?_, fun file _ _ => on_readProperties file⟩
  rw [warnings, malformedLines_eq, Text.strippedLines, List.filter_filter, List.map_map]
  refine congrArg (List.map _) (List.filter_congr fun line _ => ?_)
  rw [Bool.and_comm, Bool.decide_and]

end Properties

end DumpReplay
