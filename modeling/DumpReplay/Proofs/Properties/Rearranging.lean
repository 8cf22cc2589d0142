import DumpReplay.Proofs.Properties.Recording
import Mathlib.Logic.Relation

/-!
# Rearranged lines

The lines of a text of properties may be put in another order, as long as lines with the same key keep
theirs.  For what some keys are set to, lines with other keys may come and go as well.

Main results:

- `rearranged_iff` : lines are rearranged exactly if each of the keys has the same lines, in the same
  order.
- `lastValue?_recorded_eq` : rearranged lines set the keys to the same values.
-/

namespace DumpReplay.Properties

variable {keys : List String} {key : String} {line : List Char}
  {first middle second lines front behind : List (List Char)}

/-! ## Lines and their keys -/

/-- The key of a line, if the line is an entry. -/
def lineKey? (line : List Char) : Option String :=
  (entryOf? line).map Prod.fst

/-- The lines with a key, in order. -/
def linesFor (key : String) (lines : List (List Char)) : List (List Char) :=
  lines.filter fun line => lineKey? line = some key

theorem linesFor_append (key : String) (front behind : List (List Char)) :
    linesFor key (front ++ behind) = linesFor key front ++ linesFor key behind :=
  List.filter_append front behind

theorem linesFor_cons_of_pos (h : lineKey? line = some key) (lines : List (List Char)) :
    linesFor key (line :: lines) = line :: linesFor key lines :=
  List.filter_cons_of_pos (decide_eq_true h)

theorem linesFor_cons_of_neg (h : lineKey? line ≠ some key) (lines : List (List Char)) :
    linesFor key (line :: lines) = linesFor key lines :=
  List.filter_cons_of_neg (by simpa using h)

/-! ## Rearranging -/

/-- One step of rearranging lines for some keys: two neighbours change places, unless they have the same
key, or a line with none of the keys is left out. -/
inductive RearrangeStep (keys : List String) : List (List Char) → List (List Char) → Prop
  | swap (front behind : List (List Char)) {line other : List Char}
      (h : lineKey? line ≠ lineKey? other) :
      RearrangeStep keys (front ++ line :: other :: behind) (front ++ other :: line :: behind)
  | leaveOut (front behind : List (List Char)) {line : List Char}
      (h : ∀ key ∈ keys, lineKey? line ≠ some key) :
      RearrangeStep keys (front ++ line :: behind) (front ++ behind)

/-- Lines are rearranged for some keys if steps lead from the one list to the other, forth or back. -/
def Rearranged (keys : List String) : List (List Char) → List (List Char) → Prop :=
  Relation.EqvGen (RearrangeStep keys)

/-- A step changes nothing for the lines with one of the keys. -/
theorem RearrangeStep.linesFor_eq (h : RearrangeStep keys first second) (hkey : key ∈ keys) :
    linesFor key first = linesFor key second := by
  cases h with
  | swap front behind hne =>
    rename_i line other
    rw [linesFor_append, linesFor_append]
    by_cases hline : lineKey? line = some key
    · have hother : lineKey? other ≠ some key := fun hother => hne (hline.trans hother.symm)
      rw [linesFor_cons_of_pos hline, linesFor_cons_of_neg hother, linesFor_cons_of_neg hother,
        linesFor_cons_of_pos hline]
    · by_cases hother : lineKey? other = some key
      · rw [linesFor_cons_of_neg hline, linesFor_cons_of_pos hother, linesFor_cons_of_pos hother,
          linesFor_cons_of_neg hline]
      · rw [linesFor_cons_of_neg hline, linesFor_cons_of_neg hother, linesFor_cons_of_neg hother,
          linesFor_cons_of_neg hline]
  | leaveOut front behind hother =>
    rw [linesFor_append, linesFor_append, linesFor_cons_of_neg (hother key hkey)]

namespace Rearranged

theorem refl (lines : List (List Char)) : Rearranged keys lines lines :=
  Relation.EqvGen.refl lines

theorem symm (h : Rearranged keys first second) : Rearranged keys second first :=
  Relation.EqvGen.symm _ _ h

theorem trans (h : Rearranged keys first middle) (h' : Rearranged keys middle second) :
    Rearranged keys first second :=
  Relation.EqvGen.trans _ _ _ h h'

/-- Rearranged lines have the same lines for each of the keys. -/
theorem linesFor_eq (h : Rearranged keys first second) (hkey : key ∈ keys) :
    linesFor key first = linesFor key second := by
  induction h with
  | rel _ _ hstep => exact hstep.linesFor_eq hkey
  | refl _ => rfl
  | symm _ _ _ ih => exact ih.symm
  | trans _ _ _ _ _ ih ih' => exact ih.trans ih'

/-- Lines may be rearranged behind a line. -/
theorem cons (h : Rearranged keys first second) (line : List Char) :
    Rearranged keys (line :: first) (line :: second) := by
  induction h with
  | rel _ _ hstep =>
    cases hstep with
    | swap front behind hne => exact .rel _ _ (.swap (line :: front) behind hne)
    | leaveOut front behind hother => exact .rel _ _ (.leaveOut (line :: front) behind hother)
  | refl _ => exact .refl _
  | symm _ _ _ ih => exact ih.symm
  | trans _ _ _ _ _ ih ih' => exact ih.trans ih'

/-- A line may be put in front of lines with other keys. -/
theorem move (h : ∀ other ∈ front, lineKey? other ≠ lineKey? line) (behind : List (List Char)) :
    Rearranged keys (front ++ line :: behind) (line :: (front ++ behind)) := by
  induction front with
  | nil => exact .refl _
  | cons other front ih =>
    obtain ⟨hne, hfront⟩ := List.forall_mem_cons.mp h
    exact ((ih hfront).cons other).trans (.rel _ _ (.swap [] (front ++ behind) hne))

/-- Lines with none of the keys may all be left out. -/
theorem of_linesFor_eq_nil (h : ∀ key ∈ keys, linesFor key lines = []) : Rearranged keys lines [] := by
  induction lines with
  | nil => exact .refl []
  | cons line lines ih =>
    have hother : ∀ key ∈ keys, lineKey? line ≠ some key := by
      intro key hkey hline
      have hnil := h key hkey
      rw [linesFor_cons_of_pos hline] at hnil
      exact List.cons_ne_nil _ _ hnil
    refine .trans (.rel _ _ (.leaveOut [] lines hother)) (ih fun key hkey => ?_)
    rw [← linesFor_cons_of_neg (hother key hkey) lines]
    exact h key hkey

end Rearranged

/-- Lines are rearranged exactly if each of the keys has the same lines, in the same order. -/
theorem rearranged_iff :
    Rearranged keys first second ↔ ∀ key ∈ keys, linesFor key first = linesFor key second := by
  refine ⟨fun h key hkey => h.linesFor_eq hkey, fun h => ?_⟩
  induction first generalizing second with
  | nil => exact (Rearranged.of_linesFor_eq_nil fun key hkey => (h key hkey).symm).symm
  | cons line first ih =>
    by_cases hother : ∀ key ∈ keys, lineKey? line ≠ some key
    · refine .trans (.rel _ _ (.leaveOut [] first hother)) (ih fun key hkey => ?_)
      rw [← h key hkey, linesFor_cons_of_neg (hother key hkey)]
    · push Not at hother
      obtain ⟨key, hkey, hline⟩ := hother
      -- The first line with this key is the same one, and can be moved to the front.
      have hsame := h key hkey
      rw [linesFor_cons_of_pos hline] at hsame
      obtain ⟨front, behind, rfl, hfront, -, hbehind⟩ := List.filter_eq_cons_iff.mp hsame.symm
      have hapart : ∀ other ∈ front, lineKey? other ≠ lineKey? line := by
        intro other hmem hkeys
        exact hfront other hmem (decide_eq_true (hkeys.trans hline))
      refine .trans (.cons (ih fun other hmem => ?_) line) (Rearranged.move hapart behind).symm
      rw [linesFor_append]
      have hwhole := h other hmem
      rw [linesFor_append] at hwhole
      by_cases hkeys : lineKey? line = some other
      · have hnone : linesFor other front = [] := by
          refine List.filter_eq_nil_iff.mpr fun line' hline' hkey' => ?_
          exact hapart line' hline' ((of_decide_eq_true hkey').trans hkeys.symm)
        rw [hnone, linesFor_cons_of_pos hkeys, linesFor_cons_of_pos hkeys, List.nil_append,
          List.cons.injEq] at hwhole
        rw [hnone, List.nil_append]
        exact hwhole.2
      · rwa [linesFor_cons_of_neg hkeys, linesFor_cons_of_neg hkeys] at hwhole

/-! ## Values -/

/-- The value that a key is set to last is told by the lines with this key. -/
theorem lastValue?_filterMap_entryOf? (key : String) (lines : List (List Char)) :
    lastValue? (lines.filterMap entryOf?) key = lastValue? ((linesFor key lines).filterMap entryOf?) key := by
  unfold lastValue? linesFor
  rw [← List.filterMap_reverse, ← List.filterMap_reverse, ← List.filter_reverse]
  induction lines.reverse with
  | nil => rfl
  | cons line lines ih =>
    cases hentry : entryOf? line with
    | none =>
      have hkey : lineKey? line ≠ some key := by simp [lineKey?, hentry]
      rw [List.filterMap_cons_none hentry, ih, List.filter_cons_of_neg (by simpa using hkey)]
    | some entry =>
      obtain ⟨other, value⟩ := entry
      have hline : lineKey? line = some other := by simp [lineKey?, hentry]
      rw [List.filterMap_cons_some hentry]
      by_cases hkey : other = key
      · rw [List.filter_cons_of_pos (by simp [hline, hkey]), List.filterMap_cons_some hentry, hkey,
          List.lookup_cons_self, List.lookup_cons_self]
      · have hne : (key == other) = false := beq_eq_false_iff_ne.mpr (Ne.symm hkey)
        rw [List.filter_cons_of_neg (by simp [hline, hkey]), List.lookup_cons, hne]
        exact ih

/-- Texts whose lines are rearranged for some keys set each of them to the same value last. -/
theorem lastValue?_recorded_eq {content other : String}
    (h : Rearranged keys (Text.lines content.toList) (Text.lines other.toList)) (hkey : key ∈ keys) :
    lastValue? (recorded content) key = lastValue? (recorded other) key := by
  rw [recorded, lastValue?_filterMap_entryOf?, h.linesFor_eq hkey, ← lastValue?_filterMap_entryOf?,
    ← recorded]

end DumpReplay.Properties
