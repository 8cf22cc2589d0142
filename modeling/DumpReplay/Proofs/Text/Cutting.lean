import DumpReplay.Text.Line

/-!
# Cutting texts

A text is cut at the last separator in it, if there is one, and what stands behind the cut has none.

Main results:

- `cutLast_eq_some_iff` : a cut at the last separator gives back the text it was made from.
- `cutLast_eq_none_iff` : a text is not cut exactly if it does not have the separator.
-/

namespace DumpReplay.Text

variable {separator : Char} {text before after : List Char}

/-- A cut at the last separator gives back the text it was made from. -/
theorem cutLast_eq_some_iff :
    cutLast separator text = some (before, after) ↔
      text = before ++ separator :: after ∧ separator ∉ after := by
  have hreverse : text = before ++ separator :: after ↔
      text.reverse = after.reverse ++ separator :: before.reverse := by
    rw [List.reverse_eq_iff]
    simp
  rw [cutLast, Option.map_eq_some_iff, hreverse]
  constructor
  · rintro ⟨⟨front, back⟩, hcut, hsame⟩
    obtain ⟨rfl, rfl⟩ := Prod.mk.inj hsame
    simpa using cutFirst_eq_some_iff.mp hcut
  · rintro ⟨htext, hafter⟩
    exact ⟨(after.reverse, before.reverse),
      cutFirst_eq_some_iff.mpr ⟨htext, by simpa using hafter⟩, by simp⟩

/-- A text is not cut exactly if it does not have the separator. -/
theorem cutLast_eq_none_iff : cutLast separator text = none ↔ separator ∉ text := by
  rw [cutLast, Option.map_eq_none_iff, cutFirst_eq_none_iff, List.mem_reverse]

end DumpReplay.Text
