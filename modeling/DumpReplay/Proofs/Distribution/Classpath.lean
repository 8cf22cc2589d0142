import DumpReplay.Distribution
import Mathlib.Data.List.Basic

/-!
# Class paths and their entries

A class path is the text of its entries with colons between them, so that the entries are read back from
it by cutting it at the colons, empty ones included.  An entry with a colon of its own would be cut, too,
and no class path is built with one.

Main results:

- `classpathWith_eq_ok_iff` : the class path of some entries.
- `splitOn_classpathWith` : the entries are read back from their class path.
- `classpathWith_some_eq_ok_iff` : what an entry in front adds to a class path.
-/

namespace DumpReplay.Distribution

variable {distribution : Distribution} {first : Option Path} {text : String}

/-- A class path is built exactly if no entry holds a colon, and it is the text of the entries with colons
between them. -/
theorem classpathWith_eq_ok_iff :
    distribution.classpathWith first = .ok text ↔
      (∀ entry ∈ distribution.entriesAfter first, ':' ∉ entry.toList) ∧
        text = String.intercalate ":" ((distribution.entriesAfter first).map Path.text) := by
  unfold classpathWith
  dsimp only
  split
  · rename_i hany
    simp only [List.any_eq_true, holdsSeparator, List.contains_iff_mem] at hany
    obtain ⟨entry, hentry, hcolon⟩ := hany
    simp only [reduceCtorEq, false_iff, not_and]
    exact fun hfree => absurd hcolon (hfree entry hentry)
  · rename_i hany
    simp only [Bool.not_eq_true, List.any_eq_false, holdsSeparator, List.contains_iff_mem] at hany
    simp only [Except.ok.injEq]
    exact ⟨fun htext => ⟨hany, htext.symm⟩, fun h => h.2.symm⟩

/-- Where no class path is built, an entry holds a colon. -/
theorem exists_classpathWith_eq_error_iff :
    (∃ failure, distribution.classpathWith first = .error failure) ↔
      ∃ entry ∈ distribution.entriesAfter first, ':' ∈ entry.toList := by
  rw [← classpathWith_eq_error_iff]
  constructor
  · rintro ⟨failure, h⟩
    unfold classpathWith at h ⊢
    dsimp only at h ⊢
    split at h
    · rename_i hany
      rw [if_pos hany]
    · exact absurd h (by simp)
  · exact fun h => ⟨_, h⟩

/-- The entries are read back from their class path by cutting it at the colons. -/
theorem splitOn_classpathWith (hne : distribution.entriesAfter first ≠ [])
    (h : distribution.classpathWith first = .ok text) :
    (text.toList.splitOn ':').map Path.ofList = distribution.entriesAfter first := by
  obtain ⟨hfree, rfl⟩ := classpathWith_eq_ok_iff.mp h
  have hentries : ((distribution.entriesAfter first).map Path.text).map String.toList =
      (distribution.entriesAfter first).map Path.toList := List.map_map
  have hcolons : ∀ entry ∈ (distribution.entriesAfter first).map Path.toList, ':' ∉ entry := by
    intro entry hentry
    obtain ⟨path, hpath, rfl⟩ := List.mem_map.mp hentry
    exact hfree path hpath
  have hseparator : ":".toList = [':'] := rfl
  rw [String.toList_intercalate, hentries, hseparator,
    List.splitOn_intercalate ':' hcolons (by simpa using hne), List.map_map]
  have hback : Path.ofList ∘ Path.toList = id := by
    funext path
    exact Path.ext_toList (Path.toList_ofList _)
  rw [hback, List.map_id]

/-- An entry in front of others is put before their class path, with a colon. -/
theorem classpathWith_some_eq_ok_iff {entry : Path} {classpath : String}
    (hne : distribution.entries ≠ []) (h : distribution.classpathWith none = .ok classpath) :
    distribution.classpathWith (some entry) = .ok text ↔
      ':' ∉ entry.toList ∧ text = entry.text ++ ":" ++ classpath := by
  obtain ⟨hfree, rfl⟩ := classpathWith_eq_ok_iff.mp h
  have hnone : distribution.entriesAfter none = distribution.entries := rfl
  have hsome : distribution.entriesAfter (some entry) = entry :: distribution.entries := rfl
  rw [hnone] at hfree
  obtain ⟨next, rest, hentries⟩ := List.exists_cons_of_ne_nil hne
  have hjoin : String.intercalate ":" ((entry :: distribution.entries).map Path.text) =
      entry.text ++ ":" ++ String.intercalate ":" (distribution.entries.map Path.text) := by
    rw [hentries]
    apply String.toList_inj.mp
    simp [String.toList_intercalate]
  rw [classpathWith_eq_ok_iff, hnone, hsome, hjoin, List.forall_mem_cons]
  constructor
  · rintro ⟨⟨hentry, _⟩, htext⟩
    exact ⟨hentry, htext⟩
  · rintro ⟨hentry, htext⟩
    exact ⟨⟨hentry, hfree⟩, htext⟩

end DumpReplay.Distribution
