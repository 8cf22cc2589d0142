import DumpReplay.Shrinker.Rules

/-!
# Adjusting rules again

Rules that were adjusted are adjusted again when the dump is replayed again.  No line is dropped then:
not those that were kept, and not those that were put in front.  So every time the lines that switch
phases off are put in front once more, and nothing else is changed.

Main results:

- `adjust_adjust` : what adjusting rules again does.
- `adjust_adjust_eq_iff` : it does nothing exactly if no phase is forced off.
-/

namespace DumpReplay

namespace Text

/-! ## Lines that are cut -/

/-- Lines as a text is cut into them: none but the last one may lack its line feed, and none has a
line feed elsewhere. -/
inductive IsCut : List (List Char) → Prop where
  /-- There are no lines. -/
  | nil : IsCut []
  /-- The last line lacks its line feed. -/
  | last (line : List Char) (hne : line ≠ []) (hline : '\n' ∉ line) : IsCut [line]
  /-- A line with its line feed stands in front. -/
  | cons (line : List Char) (hline : '\n' ∉ line) {rest : List (List Char)} (hrest : IsCut rest) :
      IsCut ((line ++ ['\n']) :: rest)

/-- A text is cut behind its first line feed. -/
theorem pieces_line (line : List Char) (hline : '\n' ∉ line) (rest : List Char) :
    pieces (line ++ '\n' :: rest) = (line ++ ['\n']) :: pieces rest := by
  induction line with
  | nil => simp [pieces]
  | cons c line ih =>
    obtain ⟨hc, hline⟩ := List.ne_and_not_mem_of_not_mem_cons hline
    rw [List.cons_append, pieces, if_neg (Ne.symm hc), ih hline]
    rfl

/-- A text without a line feed is one piece. -/
theorem pieces_of_not_mem (line : List Char) (hne : line ≠ []) (hline : '\n' ∉ line) :
    pieces line = [line] := by
  induction line with
  | nil => exact absurd rfl hne
  | cons c line ih =>
    obtain ⟨hc, hline⟩ := List.ne_and_not_mem_of_not_mem_cons hline
    rw [pieces, if_neg (Ne.symm hc)]
    cases line with
    | nil => rfl
    | cons d line => rw [ih (by simp) hline]

/-- Lines as a text is cut into them are what their text is cut into. -/
theorem IsCut.pieces_flatten {lines : List (List Char)} (h : IsCut lines) :
    pieces lines.flatten = lines := by
  induction h with
  | nil => rfl
  | last line hne hline => rw [List.flatten_singleton, pieces_of_not_mem line hne hline]
  | cons line hline _ ih =>
    rw [List.flatten_cons, List.append_assoc, List.singleton_append, pieces_line line hline, ih]

/-- A text is cut into such lines. -/
theorem isCut_pieces (text : List Char) : IsCut (pieces text) := by
  induction text with
  | nil => exact .nil
  | cons c text ih =>
    unfold pieces
    split
    · rename_i hc
      rw [hc]
      exact .cons [] (by simp) ih
    · rename_i hc
      generalize pieces text = lines at ih
      cases ih with
      | nil => exact .last [c] (by simp) (by simpa using Ne.symm hc)
      | last line hne hline =>
        exact .last (c :: line) (by simp) (List.not_mem_cons_of_ne_of_not_mem (Ne.symm hc) hline)
      | cons line hline hrest =>
        exact .cons (c :: line) (List.not_mem_cons_of_ne_of_not_mem (Ne.symm hc) hline) hrest

/-- Some of the lines still are such lines. -/
theorem IsCut.filter {lines : List (List Char)} (h : IsCut lines) (p : List Char → Bool) :
    IsCut (lines.filter p) := by
  induction h with
  | nil => exact .nil
  | last line hne hline =>
    rw [List.filter_cons]
    split
    · exact .last line hne hline
    · exact .nil
  | cons line hline _ ih =>
    rw [List.filter_cons]
    split
    · exact .cons line hline ih
    · exact ih

/-- Lines with their line feeds may stand in front. -/
theorem isCut_append {front lines : List (List Char)}
    (hfront : ∀ piece ∈ front, ∃ line, '\n' ∉ line ∧ piece = line ++ ['\n']) (h : IsCut lines) :
    IsCut (front ++ lines) := by
  induction front with
  | nil => exact h
  | cons piece front ih =>
    obtain ⟨⟨line, hline, hpiece⟩, hothers⟩ := List.forall_mem_cons.mp hfront
    rw [hpiece]
    exact .cons line hline (ih hothers)

end Text

namespace Shrinker

/-! ## The lines put in front -/

/-- The lines put in front of the rules, each with its line feed. -/
def headerLines (toggles : Toggles) : List (List Char) :=
  (toggles.directivesOf .forceDisable).map fun directive => directive.toList ++ ['\n']

theorem flatten_headerLines (toggles : Toggles) : (headerLines toggles).flatten = header toggles := by
  rw [headerLines, header, List.flatMap_def]

theorem headerLines_spec (toggles : Toggles) :
    ∀ piece ∈ headerLines toggles, ∃ line, '\n' ∉ line ∧ piece = line ++ ['\n'] := by
  intro piece hpiece
  obtain ⟨directive, hdirective, rfl⟩ := List.mem_map.mp hpiece
  refine ⟨directive.toList, ?_, rfl⟩
  rcases Toggles.mem_directivesOf_iff.mp hdirective with ⟨_, rfl⟩ | ⟨_, rfl⟩ | ⟨_, rfl⟩
  · exact (by decide : '\n' ∉ "-dontobfuscate".toList)
  · exact (by decide : '\n' ∉ "-dontoptimize".toList)
  · exact (by decide : '\n' ∉ "-dontshrink".toList)

/-- No line that is put in front is dropped: a phase is not forced on and off. -/
theorem not_isDropped_headerLines (toggles : Toggles) :
    ∀ line ∈ headerLines toggles, isDropped toggles line = false := by
  obtain ⟨minify, optimize, shrink⟩ := toggles
  cases minify <;> cases optimize <;> cases shrink <;> decide

/-- Nothing is put in front exactly if no phase is forced off. -/
theorem header_eq_nil_iff {toggles : Toggles} :
    header toggles = [] ↔ toggles.directivesOf .forceDisable = [] := by
  rw [header, List.flatMap_eq_nil_iff]
  constructor
  · intro h
    refine List.eq_nil_iff_forall_not_mem.mpr fun directive hdirective => ?_
    exact absurd (h directive hdirective) (by simp)
  · intro h directive hdirective
    rw [h] at hdirective
    exact absurd hdirective (by simp)

/-! ## Adjusting again -/

/-- The lines of adjusted rules: those that are put in front, and those that are kept. -/
theorem pieces_adjust (toggles : Toggles) (content : String) :
    Text.pieces (adjust toggles content).content.toList =
      headerLines toggles ++ keptLines toggles content.toList := by
  rw [toList_content_adjust, ← flatten_headerLines, ← List.flatten_append]
  exact (Text.isCut_append (headerLines_spec toggles)
    ((Text.isCut_pieces _).filter _)).pieces_flatten

/-- No line of adjusted rules is dropped when they are adjusted again. -/
theorem keptLines_adjust (toggles : Toggles) (content : String) :
    keptLines toggles (adjust toggles content).content.toList =
      headerLines toggles ++ keptLines toggles content.toList := by
  rw [keptLines, pieces_adjust, List.filter_append]
  congr 1
  · refine List.filter_eq_self.mpr fun line hline => ?_
    rw [not_isDropped_headerLines toggles line hline]
    rfl
  · rw [keptLines, List.filter_filter]
    simp only [Bool.and_self]

/-- When adjusted rules are adjusted again, the lines in front are put there once more, and nothing
else is changed. -/
theorem adjust_adjust (toggles : Toggles) (content : String) :
    (adjust toggles (adjust toggles content).content).content =
      String.ofList (header toggles) ++ (adjust toggles content).content := by
  apply String.toList_injective
  rw [toList_content_adjust, keptLines_adjust, List.flatten_append, flatten_headerLines,
    String.toList_append, String.toList_ofList, toList_content_adjust]

/-- Adjusting adjusted rules does nothing exactly if no phase is forced off. -/
theorem adjust_adjust_eq_iff (toggles : Toggles) (content : String) :
    (adjust toggles (adjust toggles content).content).content = (adjust toggles content).content ↔
      toggles.directivesOf .forceDisable = [] := by
  rw [adjust_adjust, ← String.toList_inj, String.toList_append, List.append_left_eq_self,
    String.toList_ofList, header_eq_nil_iff]

end Shrinker

end DumpReplay
