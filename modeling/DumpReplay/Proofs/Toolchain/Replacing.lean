import DumpReplay.Toolchain.Placeholder

/-!
# Replacing placeholders

A text is a sequence of segments: single characters and whole placeholders.  Replacing one
placeholder everywhere in the text of some segments replaces the segments that are this placeholder,
and nothing else, unless the placeholder can be read in the single characters or is part of another
one.

Main results:

- `replaceAll_append_start`, `replaceAll_pass` : what replacing does at an occurrence and elsewhere.
- `prefix_source_cases` : where a text that ends with its only closing brace can be read at the start
  of segments.
- `replaceAll_source` : replacing a placeholder in the text of segments.
-/

namespace DumpReplay.Toolchain

open Text

/-! ## Replacing -/

/-- Passing over characters of an occurrence drops them. -/
theorem replaceFrom_skip (wanted replacement : List Char) (skip : Nat) (text : List Char) :
    replaceFrom wanted replacement skip text =
      replaceAll wanted replacement (text.drop skip) := by
  induction text generalizing skip with
  | nil => cases skip <;> rfl
  | cons c cs ih =>
    cases skip with
    | zero => rfl
    | succ skip => exact ih skip

/-- An occurrence at the start is replaced. -/
theorem replaceAll_append_start {wanted : List Char} (hne : wanted ≠ []) (replacement : List Char)
    (rest : List Char) :
    replaceAll wanted replacement (wanted ++ rest) =
      replacement ++ replaceAll wanted replacement rest := by
  cases wanted with
  | nil => exact absurd rfl hne
  | cons w ws =>
    have hstart : (afterStart (w :: ws) (w :: (ws ++ rest))).isSome :=
      isSome_afterStart_iff.mpr (List.prefix_append (w :: ws) rest)
    rw [List.cons_append, replaceAll, replaceFrom, if_pos hstart, replaceFrom_skip]
    simp

/-- Characters at which no occurrence starts are kept. -/
theorem replaceAll_pass {wanted passed rest : List Char} (replacement : List Char)
    (h : ∀ ending, ending ≠ [] → ending <:+ passed → ¬ wanted <+: ending ++ rest) :
    replaceAll wanted replacement (passed ++ rest) =
      passed ++ replaceAll wanted replacement rest := by
  induction passed with
  | nil => rfl
  | cons c cs ih =>
    have hstart : ¬ (afterStart wanted (c :: (cs ++ rest))).isSome := by
      rw [isSome_afterStart_iff]
      exact h (c :: cs) (by simp) (List.suffix_refl _)
    have hrest := ih fun ending hne hending => h ending hne (hending.trans (List.suffix_cons c cs))
    rw [List.cons_append, replaceAll, replaceFrom, if_neg hstart]
    exact congrArg (c :: ·) hrest

/-! ## Segments -/

/-- A part of a text: a single character, or a whole placeholder. -/
inductive Segment where
  /-- A single character. -/
  | literal (c : Char)
  /-- A placeholder, by its name. -/
  | placeholder (name : List Char)
deriving DecidableEq, Repr

namespace Segment

/-- The text of a segment. -/
def source : Segment → List Char
  | literal c => [c]
  | placeholder name => placeholderOf name

/-- Put a value in place of a placeholder. -/
def insert (name value : List Char) : Segment → List Segment
  | literal c => [literal c]
  | placeholder other => if other = name then value.map literal else [placeholder other]

/-- The text of single characters. -/
@[simp] theorem flatMap_source_literal (text : List Char) :
    (text.map literal).flatMap source = text := by
  induction text with
  | nil => rfl
  | cons c cs ih =>
    rw [List.map_cons, List.flatMap_cons, ih]
    rfl

/-- The placeholders that are left are those that were there, without the one that was replaced. -/
theorem placeholder_mem_insert {name value other : List Char} {segments : List Segment}
    (h : placeholder other ∈ segments.flatMap (insert name value)) :
    placeholder other ∈ segments ∧ other ≠ name := by
  obtain ⟨segment, hsegment, hother⟩ := List.mem_flatMap.mp h
  cases segment with
  | literal c => simp [insert] at hother
  | placeholder found =>
    simp only [insert] at hother
    split at hother
    · simp at hother
    · rename_i hne
      simp only [List.mem_singleton, placeholder.injEq] at hother
      subst hother
      exact ⟨hsegment, hne⟩

end Segment

/-! ## Closing braces -/

/-- A text up to its first closing brace is determined by the text. -/
theorem eq_of_append_brace {before other after rest : List Char} (hbefore : '\x7d' ∉ before)
    (hother : '\x7d' ∉ other) (h : before ++ '\x7d' :: after = other ++ '\x7d' :: rest) :
    before = other := by
  have hcut : cutFirst '\x7d' (before ++ '\x7d' :: after) = some (before, after) :=
    cutFirst_eq_some_iff.mpr ⟨rfl, hbefore⟩
  have hcut' : cutFirst '\x7d' (before ++ '\x7d' :: after) = some (other, rest) :=
    cutFirst_eq_some_iff.mpr ⟨h, hother⟩
  rw [hcut, Option.some.injEq, Prod.mk.injEq] at hcut'
  exact hcut'.1

/-- A placeholder is a text and the closing brace, which does not occur in the text. -/
theorem placeholderOf_eq (name : List Char) :
    placeholderOf name = ('$' :: '\x7b' :: name) ++ ['\x7d'] := rfl

/-- The closing brace is in the opening of a placeholder only if it is in its name. -/
theorem brace_not_mem_opening {name : List Char} (h : '\x7d' ∉ name) :
    '\x7d' ∉ '$' :: '\x7b' :: name := by
  simp [h]

/-- Different placeholders have different texts. -/
theorem placeholderOf_injective {name other : List Char}
    (h : placeholderOf name = placeholderOf other) : name = other := by
  simpa [placeholderOf] using h

/-- A text that ends with its only closing brace is read at the start of segments in single
characters, or it ends where the first placeholder ends. -/
theorem prefix_source_cases {segments : List Segment}
    (hclosed : ∀ other, Segment.placeholder other ∈ segments → '\x7d' ∉ other) {text : List Char}
    (htext : '\x7d' ∉ text) (h : text ++ ['\x7d'] <+: segments.flatMap Segment.source) :
    (text ++ ['\x7d']).map .literal <+: segments ∨
      ∃ before other after, segments = before.map .literal ++ .placeholder other :: after ∧
        text ++ ['\x7d'] = before ++ placeholderOf other := by
  induction segments generalizing text with
  | nil => simp at h
  | cons segment segments ih =>
    have hrest : ∀ other, Segment.placeholder other ∈ segments → '\x7d' ∉ other :=
      fun other hother => hclosed other (List.mem_cons_of_mem _ hother)
    obtain ⟨behind, hbehind⟩ := h
    cases segment with
    | placeholder other =>
      have hother := brace_not_mem_opening (hclosed other List.mem_cons_self)
      have hsame : text = '$' :: '\x7b' :: other := by
        apply eq_of_append_brace htext hother
        simpa [List.flatMap_cons, Segment.source, placeholderOf_eq] using hbehind
      exact .inr ⟨[], other, segments, rfl, by rw [hsame]; rfl⟩
    | literal c =>
      cases text with
      | nil =>
        obtain ⟨rfl, -⟩ : '\x7d' = c ∧ _ := by simpa [Segment.source] using hbehind
        exact .inl ⟨segments, rfl⟩
      | cons t ts =>
        obtain ⟨rfl, htail⟩ : t = c ∧ ts ++ '\x7d' :: behind = segments.flatMap Segment.source := by
          simpa [Segment.source] using hbehind
        have hts : '\x7d' ∉ ts := fun hmem => htext (List.mem_cons_of_mem t hmem)
        rcases ih hrest hts ⟨behind, by simpa using htail⟩ with
          hliteral | ⟨before, other, after, hsegments, hread⟩
        · exact .inl (by simpa [List.cons_prefix_cons] using hliteral)
        · refine .inr ⟨t :: before, other, after, by rw [hsegments]; rfl, ?_⟩
          rw [List.cons_append, hread]
          rfl

/-! ## Replacing in segments -/

/-- A placeholder that is neither part of another one nor the other way round is not read where the
text of the other one starts, or inside it. -/
theorem not_prefix_of_ending {name other ending rest : List Char} (hname : '\x7d' ∉ name)
    (hother : '\x7d' ∉ other) (hpart : ¬ placeholderOf name <:+: placeholderOf other)
    (hne : ending ≠ []) (hending : ending <:+ placeholderOf other) :
    ¬ placeholderOf name <+: ending ++ rest := by
  rintro ⟨behind, hbehind⟩
  obtain ⟨front, hfront⟩ := hending
  -- the ending is closed by the brace of the other placeholder
  obtain ⟨opening, rfl⟩ : ∃ opening, ending = opening ++ ['\x7d'] := by
    rcases List.eq_nil_or_concat ending with hnil | ⟨opening, last, rfl⟩
    · exact absurd hnil hne
    · refine ⟨opening, ?_⟩
      rw [placeholderOf_eq, List.concat_eq_append, ← List.append_assoc] at hfront
      rw [List.concat_eq_append, List.append_inj_right' hfront rfl]
  have hopening : front ++ opening = '$' :: '\x7b' :: other := by
    rw [placeholderOf_eq, ← List.append_assoc] at hfront
    exact List.append_inj_left' hfront rfl
  have hfree : '\x7d' ∉ opening := by
    intro hmem
    apply brace_not_mem_opening hother
    rw [← hopening]
    exact List.mem_append_right front hmem
  have hsame : '$' :: '\x7b' :: name = opening := by
    apply eq_of_append_brace (brace_not_mem_opening hname) hfree
    simpa [placeholderOf_eq] using hbehind
  apply hpart
  rw [placeholderOf_eq name, hsame]
  exact ⟨front, [], by simpa using hfront⟩

/-- A placeholder is not read where a single character stands, if it cannot be read in single
characters and no other placeholder is part of it. -/
theorem not_prefix_of_literal {c : Char} {segments : List Segment} {name : List Char}
    (hclosed : ∀ other, Segment.placeholder other ∈ Segment.literal c :: segments → '\x7d' ∉ other)
    (hname : '\x7d' ∉ name)
    (hpart : ∀ other, Segment.placeholder other ∈ Segment.literal c :: segments → other ≠ name →
      ¬ placeholderOf other <:+: placeholderOf name)
    (hliteral : ¬ (placeholderOf name).map .literal <:+: Segment.literal c :: segments) :
    ¬ placeholderOf name <+: [c] ++ segments.flatMap Segment.source := by
  intro hread
  rcases prefix_source_cases hclosed (brace_not_mem_opening hname) hread with
    hread | ⟨before, other, after, hsegments, htext⟩
  · exact hliteral hread.isInfix
  · cases before with
    | nil => simp at hsegments
    | cons b bs =>
      -- another placeholder ends where this one is read to end
      have hmem : Segment.placeholder other ∈ Segment.literal c :: segments := by
        rw [hsegments]
        simp
      have hlonger : other ≠ name := by
        rintro rfl
        have hlength := congrArg List.length htext
        simp only [List.length_append, List.length_cons, placeholderOf] at hlength
        omega
      refine hpart other hmem hlonger ⟨b :: bs, [], ?_⟩
      rw [List.append_nil, ← htext]
      rfl

/-- Replacing a placeholder in the text of segments replaces the segments that are this placeholder,
if it cannot be read in single characters and no placeholder is part of another one. -/
theorem replaceAll_source {segments : List Segment} {name : List Char} (value : List Char)
    (hclosed : ∀ other, Segment.placeholder other ∈ segments → '\x7d' ∉ other)
    (hname : '\x7d' ∉ name)
    (hpart : ∀ other, Segment.placeholder other ∈ segments → other ≠ name →
      ¬ placeholderOf name <:+: placeholderOf other ∧
        ¬ placeholderOf other <:+: placeholderOf name)
    (hliteral : ¬ (placeholderOf name).map .literal <:+: segments) :
    replaceAll (placeholderOf name) value (segments.flatMap Segment.source) =
      (segments.flatMap (Segment.insert name value)).flatMap Segment.source := by
  induction segments with
  | nil => rfl
  | cons segment segments ih =>
    have hclosed' : ∀ other, Segment.placeholder other ∈ segments → '\x7d' ∉ other :=
      fun other hother => hclosed other (List.mem_cons_of_mem _ hother)
    have hrest := ih hclosed' (fun other hother => hpart other (List.mem_cons_of_mem _ hother))
      (fun hread => hliteral (List.infix_cons hread))
    rw [List.flatMap_cons, List.flatMap_cons, List.flatMap_append, ← hrest]
    cases segment with
    | literal c =>
      have hpass : replaceAll (placeholderOf name) value
          ([c] ++ segments.flatMap Segment.source) =
            [c] ++ replaceAll (placeholderOf name) value (segments.flatMap Segment.source) := by
        refine replaceAll_pass value fun ending hne hending => ?_
        obtain rfl : ending = [c] := by
          rcases List.suffix_cons_iff.mp hending with rfl | hnil
          · rfl
          · exact absurd (List.suffix_nil.mp hnil) hne
        exact not_prefix_of_literal hclosed hname
          (fun other hother hne => (hpart other hother hne).2) hliteral
      exact hpass
    | placeholder other =>
      by_cases hsame : other = name
      · subst hsame
        have hne : placeholderOf other ≠ [] := by simp [placeholderOf]
        rw [Segment.source, replaceAll_append_start hne]
        simp [Segment.insert]
      · have hmem : Segment.placeholder other ∈ Segment.placeholder other :: segments :=
          List.mem_cons_self
        rw [Segment.source, replaceAll_pass value fun ending hne hending =>
          not_prefix_of_ending hname (hclosed other hmem) (hpart other hmem hsame).1 hne hending]
        simp [Segment.insert, hsame, Segment.source]

end DumpReplay.Toolchain
