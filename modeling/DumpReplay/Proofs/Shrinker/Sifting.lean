import DumpReplay.Proofs.Shrinker.Readjusting
import Mathlib.Data.List.Forall2

/-!
# Which lines are dropped

Adjusting rules sorts their lines.  A line is dropped exactly if one of the unwanted words stands in
it, and every other line is kept as it is, with its end.  No unwanted word has a line feed, and all
lines but the last one end with theirs, so that none of these words can come about where lines are
joined.

Main results:

- `IsCut.infix_flatten_iff` : a word that stands in a text stands in one of its lines.
- `isDropped_iff` : which lines are dropped.
- `not_infix_content_adjust` : no unwanted word is left in adjusted rules.
- `adjust_sifts` : what becomes of every line of the rules.
-/

namespace DumpReplay

namespace Text

/-! ## Words in lines -/

variable {wanted : List Char}

/-- What has no line feed and stands at the start of a line ends before the line does. -/
theorem prefix_of_prefix_line (hwanted : '\n' ∉ wanted) (line : List Char) {rest : List Char}
    (h : wanted <+: line ++ '\n' :: rest) : wanted <+: line := by
  have hline : line ++ ['\n'] <+: line ++ '\n' :: rest := ⟨rest, by simp⟩
  rcases List.prefix_or_prefix_of_prefix h hline with hwithin | hbeyond
  · rcases List.prefix_concat_iff.mp hwithin with hall | hbefore
    · exact absurd (by simp [hall]) hwanted
    · exact hbefore
  · exact absurd (hbeyond.subset (by simp)) hwanted

/-- What has no line feed and stands in a line and what follows it, stands in one of the two. -/
theorem infix_line_iff (hwanted : '\n' ∉ wanted) {line rest : List Char} :
    wanted <:+: line ++ '\n' :: rest ↔ wanted <:+: line ∨ wanted <:+: rest := by
  constructor
  · intro h
    induction line with
    | nil =>
      rcases List.infix_cons_iff.mp h with hstart | hrest
      · exact .inl (prefix_of_prefix_line hwanted [] hstart).isInfix
      · exact .inr hrest
    | cons c line ih =>
      rcases List.infix_cons_iff.mp h with hstart | hlater
      · exact .inl (prefix_of_prefix_line hwanted (c :: line) hstart).isInfix
      · exact (ih hlater).imp_left List.infix_cons
  · rintro (hline | hrest)
    · exact hline.trans (List.prefix_append line _).isInfix
    · exact hrest.trans (List.suffix_append_of_suffix (List.suffix_cons '\n' rest)).isInfix

/-- A word without a line feed stands in a text exactly if it stands in one of the lines that the text
is cut into. -/
theorem IsCut.infix_flatten_iff {lines : List (List Char)} (h : IsCut lines) (hne : wanted ≠ [])
    (hwanted : '\n' ∉ wanted) : wanted <:+: lines.flatten ↔ ∃ line ∈ lines, wanted <:+: line := by
  constructor
  · intro hin
    induction h with
    | nil => exact absurd (List.infix_nil.mp hin) hne
    | last line => exact ⟨line, by simp, by simpa using hin⟩
    | cons line _ _ ih =>
      -- All but the last line end with a line feed, and the word has none to reach over it.
      rw [List.flatten_cons, List.append_assoc, List.singleton_append] at hin
      rcases (infix_line_iff hwanted).mp hin with hhere | hlater
      · exact ⟨line ++ ['\n'], by simp, hhere.trans (List.prefix_append line _).isInfix⟩
      · obtain ⟨other, hother, hin⟩ := ih hlater
        exact ⟨other, List.mem_cons_of_mem _ hother, hin⟩
  · rintro ⟨line, hline, hin⟩
    exact hin.trans (List.infix_of_mem_flatten hline)

/-! ## Ends of lines -/

/-- Whether a character is one of those that end lines. -/
def IsBreak (c : Char) : Prop :=
  c = '\n' ∨ c = '\r'

/-- A text is a line without its end if what follows it in the line are line feeds and carriage
returns, and it ends with neither. -/
structure IsBare (line text : List Char) : Prop where
  ending : ∃ breaks, line = text ++ breaks ∧ ∀ c ∈ breaks, IsBreak c
  last : ∀ c, text.getLast? = some c → ¬ IsBreak c

/-- A line without its end is what dropping the line feeds and carriage returns at its end leaves. -/
theorem isBare_chompAll (line : List Char) : IsBare line (chompAll line) := by
  have hbreak : ∀ c : Char, (c == '\n' || c == '\r') = true ↔ IsBreak c := by
    intro c
    simp [IsBreak]
  constructor
  · refine ⟨(line.reverse.takeWhile fun c => c == '\n' || c == '\r').reverse, ?_, ?_⟩
    · rw [chompAll, ← List.reverse_append, List.takeWhile_append_dropWhile, List.reverse_reverse]
    · intro c hc
      exact (hbreak c).mp (List.all_eq_true.mp List.all_takeWhile c (List.mem_reverse.mp hc))
  · intro c hc hends
    have hfirst := List.head?_dropWhile_not (fun c => c == '\n' || c == '\r') line.reverse
    rw [chompAll, List.getLast?_reverse] at hc
    rw [hc] at hfirst
    dsimp only at hfirst
    rw [(hbreak c).mpr hends] at hfirst
    exact absurd hfirst (by simp)

end Text

namespace Shrinker

variable {toggles : Toggles} {directive : String} {line : List Char}

/-! ## Unwanted words -/

/-- The words that no adjusted rules hold: those for jars and reports of the build that the dump was
taken from, and those that switch off a phase that is forced on. -/
inductive Unwanted (toggles : Toggles) : String → Prop
  | inputJars : Unwanted toggles "-injars"
  | libraryJars : Unwanted toggles "-libraryjars"
  | reports : Unwanted toggles "-print"
  | minify (h : toggles.minify = .forceEnable) : Unwanted toggles "-dontobfuscate"
  | optimize (h : toggles.optimize = .forceEnable) : Unwanted toggles "-dontoptimize"
  | shrink (h : toggles.shrink = .forceEnable) : Unwanted toggles "-dontshrink"

theorem mem_droppedDirectives_iff :
    directive ∈ droppedDirectives toggles ↔ Unwanted toggles directive := by
  rw [droppedDirectives, List.mem_append, Toggles.mem_directivesOf_iff]
  constructor
  · rintro (hstripped | ⟨h, rfl⟩ | ⟨h, rfl⟩ | ⟨h, rfl⟩)
    · simp only [strippedDirectives, List.mem_cons, List.not_mem_nil, or_false] at hstripped
      rcases hstripped with rfl | rfl | rfl
      · exact .inputJars
      · exact .libraryJars
      · exact .reports
    · exact .minify h
    · exact .optimize h
    · exact .shrink h
  · intro h
    cases h with
    | inputJars => exact .inl (by simp [strippedDirectives])
    | libraryJars => exact .inl (by simp [strippedDirectives])
    | reports => exact .inl (by simp [strippedDirectives])
    | minify h => exact .inr (.inl ⟨h, rfl⟩)
    | optimize h => exact .inr (.inr (.inl ⟨h, rfl⟩))
    | shrink h => exact .inr (.inr (.inr ⟨h, rfl⟩))

/-- An unwanted word is not empty, and it has no line feed. -/
theorem Unwanted.fits_line (h : Unwanted toggles directive) :
    directive.toList ≠ [] ∧ '\n' ∉ directive.toList := by
  cases h <;> decide

/-- Whether an unwanted word stands in a line, wherever it does. -/
def HoldsUnwanted (toggles : Toggles) (line : List Char) : Prop :=
  ∃ directive, Unwanted toggles directive ∧ directive.toList <:+: line

/-- A line is dropped exactly if an unwanted word stands in it. -/
theorem isDropped_iff : isDropped toggles line = true ↔ HoldsUnwanted toggles line := by
  rw [isDropped, List.any_eq_true]
  simp only [Text.occursIn_iff, mem_droppedDirectives_iff, HoldsUnwanted]

/-- No unwanted word is left in adjusted rules, neither in a line nor where lines are joined. -/
theorem not_infix_content_adjust (content : String) (h : Unwanted toggles directive) :
    ¬ directive.toList <:+: (adjust toggles content).content.toList := by
  rw [← Text.flatten_pieces (adjust toggles content).content.toList,
    (Text.isCut_pieces _).infix_flatten_iff h.fits_line.1 h.fits_line.2, pieces_adjust]
  rintro ⟨line, hline, hin⟩
  have hdropped : isDropped toggles line = true := isDropped_iff.mpr ⟨directive, h, hin⟩
  rcases List.mem_append.mp hline with hfront | hkept
  · rw [not_isDropped_headerLines toggles line hfront] at hdropped
    exact absurd hdropped (by simp)
  · rw [keptLines, List.mem_filter, hdropped] at hkept
    exact absurd hkept.2 (by simp)

/-! ## Sorting lines -/

/-- Lines are sorted into those that are kept and those that are dropped.  Each line goes one of the two
ways, and both kinds stay in their order. -/
inductive Sifted (drops : List Char → Prop) :
    List (List Char) → List (List Char) → List (List Char) → Prop
  | nil : Sifted drops [] [] []
  | keep {line : List Char} {lines kept dropped : List (List Char)} (hline : ¬ drops line)
      (h : Sifted drops lines kept dropped) : Sifted drops (line :: lines) (line :: kept) dropped
  | drop {line : List Char} {lines kept dropped : List (List Char)} (hline : drops line)
      (h : Sifted drops lines kept dropped) : Sifted drops (line :: lines) kept (line :: dropped)

/-- The lines of rules are sorted by whether an unwanted word stands in them. -/
theorem sifted_lines (toggles : Toggles) (content : List Char) :
    Sifted (HoldsUnwanted toggles) (Text.pieces content) (keptLines toggles content)
      (droppedLines toggles content) := by
  unfold keptLines droppedLines
  induction Text.pieces content with
  | nil => exact .nil
  | cons line lines ih =>
    by_cases hline : HoldsUnwanted toggles line
    · have hdropped := isDropped_iff.mpr hline
      rw [List.filter_cons_of_neg (by simp [hdropped]), List.filter_cons_of_pos hdropped]
      exact .drop hline ih
    · have hkept := mt isDropped_iff.mp hline
      rw [List.filter_cons_of_pos (by simp [hkept]), List.filter_cons_of_neg hkept]
      exact .keep hline ih

/-- What becomes of every line of the rules.  The lines are those that the text is cut into behind its
line feeds.  Adjusted rules are the lines for the phases that are forced off, in the order of the
phases, and then the lines that are kept, and the new text is cut into the same lines again.  The lines
in which an unwanted word stands are given back without their ends, in their order.  No unwanted word
stands anywhere in the new text. -/
theorem adjust_sifts (toggles : Toggles) (content : String) :
    ∃ lines kept dropped : List (List Char),
      Text.IsCut lines ∧ lines.flatten = content.toList ∧
      Sifted (HoldsUnwanted toggles) lines kept dropped ∧
      (adjust toggles content).added =
        (if toggles.minify = .forceDisable then ["-dontobfuscate"] else []) ++
          ((if toggles.optimize = .forceDisable then ["-dontoptimize"] else []) ++
            if toggles.shrink = .forceDisable then ["-dontshrink"] else []) ∧
      Text.IsCut (((adjust toggles content).added.map fun directive => directive.toList ++ ['\n']) ++
        kept) ∧
      (adjust toggles content).content.toList =
        (((adjust toggles content).added.map fun directive => directive.toList ++ ['\n']) ++
          kept).flatten ∧
      List.Forall₂ (fun line text => Text.IsBare line text.toList) dropped
        (adjust toggles content).removed ∧
      ∀ directive, Unwanted toggles directive →
        ¬ directive.toList <:+: (adjust toggles content).content.toList := by
  have hpieces := pieces_adjust toggles content
  refine ⟨Text.pieces content.toList, keptLines toggles content.toList,
    droppedLines toggles content.toList, Text.isCut_pieces _, Text.flatten_pieces _,
    sifted_lines toggles _, toggles.directivesOf_eq .forceDisable, ?_, ?_, ?_,
    fun directive h => not_infix_content_adjust content h⟩
  · change Text.IsCut (headerLines toggles ++ keptLines toggles content.toList)
    rw [← hpieces]
    exact Text.isCut_pieces _
  · change _ = (headerLines toggles ++ keptLines toggles content.toList).flatten
    rw [← hpieces, Text.flatten_pieces]
  · rw [removed_adjust]
    refine List.forall₂_map_right_iff.mpr (List.forall₂_same.mpr fun line _ => ?_)
    rw [String.toList_ofList]
    exact Text.isBare_chompAll line

/-- Renaming is forced on and optimising off; lines end with and without carriage returns, and the last
one does not end at all. -/
example :
    adjust ⟨.forceEnable, .forceDisable, .default⟩
        "-keep class A\r\n-dontobfuscate\r\n-dontshrink\n-keep class B" =
      ⟨"-dontoptimize\n-keep class A\r\n-dontshrink\n-keep class B", ["-dontoptimize"],
        ["-dontobfuscate"]⟩ := by
  decide +kernel

end Shrinker

end DumpReplay
