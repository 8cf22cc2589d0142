import DumpReplay.Proofs.Shrinker.Sifting

/-!
# Adjusting rules over and over

Rules can be adjusted any number of times, each time as the time before left them.  The lines of the
first time stay as they are from then on, and every time adds the lines for the phases that are forced
off once more.

Main results:

- `keptLines_adjustTimes` : the lines that are kept after any number of times.
- `droppedLines_adjust` : adjusted rules lose no line when they are adjusted again.
- `holdsUnwanted_directive_iff` : what it takes to drop a line that was put in front.
- `adjustTimes_repeats` : what adjusting rules over and over leaves.
-/

namespace DumpReplay.Shrinker

variable {toggles later : Toggles} {state : Toggle} {directive : String}

/-- Rules that were adjusted a number of times, each time as the time before left them. -/
def adjustTimes (toggles : Toggles) (content : String) : Nat → String
  | 0 => content
  | times + 1 => (adjust toggles (adjustTimes toggles content times)).content

/-! ## Lines that stay -/

/-- Every time adds the lines in front once more, and the lines that were kept at first are kept. -/
theorem keptLines_adjustTimes (toggles : Toggles) (content : String) (times : Nat) :
    keptLines toggles (adjustTimes toggles content times).toList =
      (List.replicate times (headerLines toggles)).flatten ++ keptLines toggles content.toList := by
  induction times with
  | zero => rfl
  | succ times ih =>
    rw [adjustTimes, keptLines_adjust, ih, List.replicate_succ, List.flatten_cons, List.append_assoc]

/-- Adjusted rules lose no line when they are adjusted again. -/
theorem droppedLines_adjust (toggles : Toggles) (content : String) :
    droppedLines toggles (adjust toggles content).content.toList = [] := by
  have hkept : keptLines toggles (adjust toggles content).content.toList =
      Text.pieces (adjust toggles content).content.toList := by
    rw [keptLines_adjust, pieces_adjust]
  rw [droppedLines, List.filter_eq_nil_iff]
  intro line hline hdropped
  have hstays := List.filter_eq_self.mp hkept line hline
  rw [hdropped] at hstays
  exact absurd hstays (by simp)

/-- The text after any number of times: the lines in front as often, and then the lines that are kept
at first. -/
theorem toList_adjustTimes (toggles : Toggles) (content : String) (times : Nat) :
    (adjustTimes toggles content (times + 1)).toList =
      (List.replicate (times + 1) (header toggles)).flatten ++
        (keptLines toggles content.toList).flatten := by
  have hheaders : ∀ count, (List.replicate count (headerLines toggles)).flatten.flatten =
      (List.replicate count (header toggles)).flatten := by
    intro count
    induction count with
    | zero => rfl
    | succ count ih =>
      rw [List.replicate_succ, List.replicate_succ, List.flatten_cons, List.flatten_cons,
        List.flatten_append, flatten_headerLines, ih]
  rw [adjustTimes, toList_content_adjust, keptLines_adjustTimes, List.flatten_append, hheaders,
    List.replicate_succ, List.flatten_cons, List.append_assoc]

/-! ## Lines in front -/

/-- Of the unwanted words, none but itself stands in the word that switches a phase off. -/
theorem Unwanted.infix_directive_iff {word : String} (h : Unwanted later word)
    (hdirective : directive ∈ toggles.directivesOf state) :
    word.toList <:+: directive.toList ↔ word = directive := by
  rw [← Text.occursIn_iff]
  rcases Toggles.mem_directivesOf_iff.mp hdirective with ⟨_, rfl⟩ | ⟨_, rfl⟩ | ⟨_, rfl⟩ <;>
    cases h <;> decide

/-- A line that was put in front is dropped exactly if its phase is forced on. -/
theorem holdsUnwanted_directive_iff (hdirective : directive ∈ toggles.directivesOf .forceDisable) :
    HoldsUnwanted later (directive.toList ++ ['\n']) ↔
      directive ∈ later.directivesOf .forceEnable := by
  have hphase := Toggles.mem_directivesOf_iff.mp hdirective
  constructor
  · rintro ⟨word, hunwanted, hin⟩
    have hhere : word.toList <:+: directive.toList := by
      rcases (Text.infix_line_iff hunwanted.fits_line.2).mp hin with hhere | hnowhere
      · exact hhere
      · exact absurd (List.infix_nil.mp hnowhere) hunwanted.fits_line.1
    -- The word for one phase does not stand in that for another.
    obtain rfl := (hunwanted.infix_directive_iff hdirective).mp hhere
    rw [Toggles.mem_directivesOf_iff]
    cases hunwanted with
    | inputJars => simp at hphase
    | libraryJars => simp at hphase
    | reports => simp at hphase
    | minify h => exact .inl ⟨h, rfl⟩
    | optimize h => exact .inr (.inl ⟨h, rfl⟩)
    | shrink h => exact .inr (.inr ⟨h, rfl⟩)
  · intro hforced
    have hunwanted : Unwanted later directive :=
      mem_droppedDirectives_iff.mp (List.mem_append_right _ hforced)
    exact ⟨directive, hunwanted, (List.prefix_append _ _).isInfix⟩

/-! ## Over and over -/

/-- What adjusting rules over and over leaves.  After any number of times but none, the rules are the
lines for the phases that are forced off, as many times, and then the lines that the first time kept;
one time more drops no line and puts the same lines in front.  So adjusting rules twice is the same as
adjusting them once exactly if no phase is forced off.  Nothing but forcing its phase on drops a line
that was put in front. -/
theorem adjustTimes_repeats (toggles : Toggles) (content : String) :
    (∃ lines kept dropped : List (List Char),
      Text.IsCut lines ∧ lines.flatten = content.toList ∧
      Sifted (HoldsUnwanted toggles) lines kept dropped ∧
      ∀ times,
        (adjustTimes toggles content (times + 1)).toList =
          (List.replicate (times + 1) (header toggles)).flatten ++ kept.flatten ∧
        (adjust toggles (adjustTimes toggles content (times + 1))).removed = [] ∧
        (adjust toggles (adjustTimes toggles content (times + 1))).added =
          (adjust toggles content).added) ∧
    ((adjust toggles (adjust toggles content).content).content = (adjust toggles content).content ↔
      toggles.minify ≠ .forceDisable ∧ toggles.optimize ≠ .forceDisable ∧
        toggles.shrink ≠ .forceDisable) ∧
    ∀ (later : Toggles) (directive : String), directive ∈ (adjust toggles content).added →
      (HoldsUnwanted later (directive.toList ++ ['\n']) ↔
        directive ∈ later.directivesOf .forceEnable) := by
  refine ⟨⟨Text.pieces content.toList, keptLines toggles content.toList,
    droppedLines toggles content.toList, Text.isCut_pieces _, Text.flatten_pieces _,
    sifted_lines toggles _, fun times => ⟨toList_adjustTimes toggles content times, ?_, rfl⟩⟩, ?_, ?_⟩
  · rw [adjustTimes, removed_adjust, droppedLines_adjust, List.map_nil]
  · rw [adjust_adjust_eq_iff, Toggles.directivesOf_eq_nil_iff]
  · intro later directive hadded
    exact holdsUnwanted_directive_iff hadded

/-- Renaming is forced off, and the second time puts the word for it in front once more. -/
example :
    adjustTimes ⟨.forceDisable, .default, .default⟩ "-injars a.jar\n-keep class A" 2 =
      "-dontobfuscate\n-dontobfuscate\n-keep class A" := by
  decide +kernel

end DumpReplay.Shrinker
