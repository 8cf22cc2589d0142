import DumpReplay.Proofs.Toolchain.Replacing

/-!
# Expanding as one substitution

Expanding a text substitutes its placeholders one after the other, each in the text that the earlier
ones have left.  Putting all values in at once would leave inserted text alone.  The two agree, and
the order of the placeholders makes no difference, as long as no placeholder is part of another one
and none of them can be read in the finished text.

Main results:

- `flatMap_source_segments`, `filterMap_name?_segments` : the segments of a text.
- `foldl_substitute` : substituting placeholders in any order puts in all values at once.
- `expand_eq_insertValues` : when expanding is one substitution.
-/

namespace DumpReplay.Toolchain

open Text

/-! ## The segments of a text -/

/-- What a placeholder that a text starts with looks like. -/
theorem eq_append_of_placeholder? {text name after : List Char}
    (h : placeholder? text = some (name, after)) :
    text = placeholderOf name ++ after ∧ '\x7d' ∉ name := by
  unfold placeholder? at h
  split at h
  · split at h
    · exact absurd h (by simp)
    · rename_i found behind _ hcut
      obtain ⟨rfl, rfl⟩ : found = name ∧ behind = after := by simpa using h
      obtain ⟨rfl, hfree⟩ := cutFirst_eq_some_iff.mp hcut
      exact ⟨by simp [placeholderOf], hfree⟩
    · exact absurd h (by simp)
  · exact absurd h (by simp)

/-- The segments of a text: its placeholders, from the left and without overlaps, and the characters
between them. -/
def segments : List Char → List Segment
  | [] => []
  | c :: rest =>
    match _h : placeholder? (c :: rest) with
    | some (name, after) => .placeholder name :: segments after
    | none => .literal c :: segments rest
termination_by text => text.length
decreasing_by
  · exact length_lt_of_placeholder? _h
  · simp

/-- The name of a segment that is a placeholder. -/
def Segment.name? : Segment → Option (List Char)
  | literal _ => none
  | placeholder name => some name

/-- A text that starts with a placeholder. -/
theorem segments_of_placeholder {c : Char} {rest name after : List Char}
    (h : placeholder? (c :: rest) = some (name, after)) :
    segments (c :: rest) = .placeholder name :: segments after := by
  rw [segments]
  split
  · rename_i found behind hfound
    rw [h, Option.some.injEq, Prod.mk.injEq] at hfound
    rw [hfound.1, hfound.2]
  · rename_i hnone
    rw [h] at hnone
    exact absurd hnone (by simp)

/-- A text that starts with any other character. -/
theorem segments_of_literal {c : Char} {rest : List Char} (h : placeholder? (c :: rest) = none) :
    segments (c :: rest) = .literal c :: segments rest := by
  rw [segments]
  split
  · rename_i hsome
    rw [h] at hsome
    exact absurd hsome (by simp)
  · rfl

/-- The names of a text that starts with a placeholder. -/
theorem placeholderNames_of_placeholder {c : Char} {rest name after : List Char}
    (h : placeholder? (c :: rest) = some (name, after)) :
    placeholderNames (c :: rest) = name :: placeholderNames after := by
  rw [placeholderNames]
  split
  · rename_i found behind hfound
    rw [h, Option.some.injEq, Prod.mk.injEq] at hfound
    rw [hfound.1, hfound.2]
  · rename_i hnone
    rw [h] at hnone
    exact absurd hnone (by simp)

/-- The names of a text that starts with any other character. -/
theorem placeholderNames_of_literal {c : Char} {rest : List Char}
    (h : placeholder? (c :: rest) = none) :
    placeholderNames (c :: rest) = placeholderNames rest := by
  rw [placeholderNames]
  split
  · rename_i hsome
    rw [h] at hsome
    exact absurd hsome (by simp)
  · rfl

/-- The segments of a text join to the text. -/
theorem flatMap_source_segments (text : List Char) :
    (segments text).flatMap Segment.source = text := by
  induction text using segments.induct with
  | case1 => simp [segments]
  | case2 c rest name after h ih =>
    rw [segments_of_placeholder h, List.flatMap_cons, ih, (eq_append_of_placeholder? h).1]
    rfl
  | case3 c rest h ih =>
    rw [segments_of_literal h, List.flatMap_cons, ih]
    rfl

/-- The names of the placeholders among the segments of a text are the names that are looked for. -/
theorem filterMap_name?_segments (text : List Char) :
    (segments text).filterMap Segment.name? = placeholderNames text := by
  induction text using segments.induct with
  | case1 => simp [segments, placeholderNames]
  | case2 c rest name after h ih =>
    rw [segments_of_placeholder h, placeholderNames_of_placeholder h, ← ih]
    rfl
  | case3 c rest h ih =>
    rw [segments_of_literal h, placeholderNames_of_literal h, ← ih]
    rfl

/-- A placeholder is among the segments of a text if its name is among those that are looked for. -/
theorem placeholder_mem_segments {text name : List Char} :
    .placeholder name ∈ segments text ↔ name ∈ placeholderNames text := by
  rw [← filterMap_name?_segments, List.mem_filterMap]
  constructor
  · exact fun hmem => ⟨.placeholder name, hmem, rfl⟩
  · rintro ⟨segment, hmem, hname⟩
    cases segment with
    | literal c => exact absurd hname (by simp [Segment.name?])
    | placeholder other =>
      obtain rfl : other = name := by simpa [Segment.name?] using hname
      exact hmem

/-- The names of the placeholders of a text hold no closing brace. -/
theorem brace_not_mem_of_mem_segments {text name : List Char}
    (h : .placeholder name ∈ segments text) : '\x7d' ∉ name := by
  induction text using segments.induct with
  | case1 => simp [segments] at h
  | case2 c rest found after hfound ih =>
    rw [segments_of_placeholder hfound] at h
    rcases List.mem_cons.mp h with hname | h
    · rw [Segment.placeholder.inj hname]
      exact (eq_append_of_placeholder? hfound).2
    · exact ih h
  | case3 c rest hnone ih =>
    rw [segments_of_literal hnone] at h
    rcases List.mem_cons.mp h with hliteral | h
    · exact absurd hliteral (by simp)
    · exact ih h

/-! ## All values at once -/

section Values

variable (environment : List (String × String))

/-- The text that stands for a segment once values are put in: that of its variable for a
placeholder, if the variable is set. -/
def Segment.value : Segment → List Char
  | literal c => [c]
  | placeholder name =>
    match valueOf? environment name with
    | some value => value.toList
    | none => placeholderOf name

/-- A text with the values of all its placeholders put in at once. -/
def insertValues (text : List Char) : List Char :=
  (segments text).flatMap (Segment.value environment)

/-- Single characters stand for themselves. -/
@[simp] theorem flatMap_value_literal (text : List Char) :
    (text.map .literal).flatMap (Segment.value environment) = text := by
  induction text with
  | nil => rfl
  | cons c cs ih =>
    rw [List.map_cons, List.flatMap_cons, ih]
    rfl

/-- Putting one value in first does not change what all values come to. -/
theorem flatMap_value_insert {name : List Char} {value : String}
    (hvalue : valueOf? environment name = some value) (parts : List Segment) :
    (parts.flatMap (Segment.insert name value.toList)).flatMap (Segment.value environment) =
      parts.flatMap (Segment.value environment) := by
  rw [List.flatMap_assoc]
  congr 1
  funext part
  cases part with
  | literal c => simp [Segment.insert, Segment.value]
  | placeholder other =>
    by_cases hsame : other = name
    · subst hsame
      simp [Segment.insert, Segment.value, hvalue]
    · simp [Segment.insert, hsame]

/-- A placeholder that is read in single characters is read in the finished text. -/
theorem infix_value_of_literal {text : List Char} {parts : List Segment}
    (h : text.map .literal <:+: parts) : text <:+: parts.flatMap (Segment.value environment) := by
  obtain ⟨front, behind, rfl⟩ := h
  refine ⟨front.flatMap (Segment.value environment), behind.flatMap (Segment.value environment), ?_⟩
  simp

/-- Substituting the placeholders of segments one after the other, in any order, puts in all values
at once, if no placeholder is part of another one and none can be read in the finished text. -/
theorem foldl_substitute {order : List (List Char)} {parts : List Segment}
    (hset : ∀ name ∈ order, (valueOf? environment name).isSome)
    (hclosed : ∀ name ∈ order, '\x7d' ∉ name)
    (hpart : ∀ name ∈ order, ∀ other ∈ order, name ≠ other →
      ¬ placeholderOf name <:+: placeholderOf other)
    (hfinished : ∀ name ∈ order,
      ¬ placeholderOf name <:+: parts.flatMap (Segment.value environment))
    (hcover : ∀ name, .placeholder name ∈ parts → name ∈ order) :
    order.foldl (substitute environment) (parts.flatMap Segment.source) =
      parts.flatMap (Segment.value environment) := by
  induction order generalizing parts with
  | nil =>
    -- no placeholder is left
    have hliteral : ∀ part ∈ parts, part.source = part.value environment := by
      intro part hmem
      cases part with
      | literal c => rfl
      | placeholder name => exact absurd (hcover name hmem) List.not_mem_nil
    rw [List.foldl_nil, List.flatMap_def, List.flatMap_def, List.map_congr_left hliteral]
  | cons name order ih =>
    have hname : name ∈ name :: order := List.mem_cons_self
    have hlater : ∀ other ∈ order, other ∈ name :: order :=
      fun other hother => List.mem_cons_of_mem name hother
    obtain ⟨value, hvalue⟩ := Option.isSome_iff_exists.mp (hset name hname)
    have hreplace := replaceAll_source value.toList
      (fun other hother => hclosed other (hcover other hother)) (hclosed name hname)
      (fun other hother hne => ⟨hpart name hname other (hcover other hother) hne.symm,
        hpart other (hcover other hother) name hname hne⟩)
      (fun hread => hfinished name hname (infix_value_of_literal environment hread))
    have hstep : substitute environment (parts.flatMap Segment.source) name =
        (parts.flatMap (Segment.insert name value.toList)).flatMap Segment.source := by
      rw [substitute, hvalue]
      exact hreplace
    have hsame := flatMap_value_insert environment hvalue parts
    rw [List.foldl_cons, hstep, ← hsame]
    apply ih (fun other hother => hset other (hlater other hother))
      (fun other hother => hclosed other (hlater other hother))
      (fun other hother third hthird => hpart other (hlater other hother) third (hlater third hthird))
    · intro other hother
      rw [hsame]
      exact hfinished other (hlater other hother)
    · intro other hother
      obtain ⟨hmem, hne⟩ := Segment.placeholder_mem_insert hother
      exact (List.mem_cons.mp (hcover other hmem)).resolve_left hne

/-! ## Expanding -/

/-- Expanding a text whose variables are all set is one substitution, and so is substituting its
placeholders in any other order, if no placeholder of the text is part of another one and none can
be read in the finished text. -/
theorem expand_eq_insertValues (content : String)
    (hset : ∀ name ∈ placeholderNames content.toList, (valueOf? environment name).isSome)
    (hpart : ∀ name ∈ placeholderNames content.toList, ∀ other ∈ placeholderNames content.toList,
      name ≠ other → ¬ placeholderOf name <:+: placeholderOf other)
    (hfinished : ∀ name ∈ placeholderNames content.toList,
      ¬ placeholderOf name <:+: insertValues environment content.toList) :
    expand environment content =
        .ok (String.ofList (insertValues environment content.toList)) ∧
      ∀ order : List (List Char), order.Perm (placeholderNames content.toList) →
        order.foldl (substitute environment) content.toList =
          insertValues environment content.toList := by
  have hanyOrder : ∀ order : List (List Char), order.Perm (placeholderNames content.toList) →
      order.foldl (substitute environment) content.toList =
        insertValues environment content.toList := by
    intro order hperm
    have hfold := @foldl_substitute environment order (segments content.toList)
      (fun name hname => hset name (hperm.subset hname))
      (fun name hname => brace_not_mem_of_mem_segments
        (placeholder_mem_segments.mpr (hperm.subset hname)))
      (fun name hname other hother => hpart name (hperm.subset hname) other (hperm.subset hother))
      (fun name hname => hfinished name (hperm.subset hname))
      (fun name hname => hperm.symm.subset (placeholder_mem_segments.mp hname))
    rwa [flatMap_source_segments] at hfold
  refine ⟨?_, hanyOrder⟩
  have hunset : unsetNames environment content.toList = [] := by
    rw [unsetNames, List.filter_eq_nil_iff]
    intro name hname
    have hsome := hset name hname
    rw [Option.isSome_iff_ne_none] at hsome
    simpa using hsome
  rw [expand, hunset]
  simp [substituteAll, hanyOrder _ (List.Perm.refl _)]

end Values

/-- The segments of a text with two placeholders that are parted by a slash. -/
theorem segments_slash :
    segments "$\x7bA\x7d/$\x7bB\x7d".toList =
      [.placeholder ['A'], .literal '/', .placeholder ['B']] := by
  have htext : "$\x7bA\x7d/$\x7bB\x7d".toList =
      ['$', '\x7b', 'A', '\x7d', '/', '$', '\x7b', 'B', '\x7d'] := rfl
  have hend : segments [] = [] := by rw [segments]
  rw [htext, segments_of_placeholder rfl, segments_of_literal rfl, segments_of_placeholder rfl, hend]

/-- The names of the placeholders of that text. -/
theorem placeholderNames_slash :
    placeholderNames "$\x7bA\x7d/$\x7bB\x7d".toList = [['A'], ['B']] := by
  rw [← filterMap_name?_segments, segments_slash]
  rfl

/-- Values with a dollar sign and a brace are put in as they are.  A value that is the placeholder
of the other variable is expanded again. -/
theorem expand_eq_insertValues_slash :
    (let environment := [("A", "$1"), ("B", "b\x7d")];
      (∀ name ∈ placeholderNames "$\x7bA\x7d/$\x7bB\x7d".toList,
          (valueOf? environment name).isSome) ∧
        (∀ name ∈ placeholderNames "$\x7bA\x7d/$\x7bB\x7d".toList,
          ∀ other ∈ placeholderNames "$\x7bA\x7d/$\x7bB\x7d".toList,
            name ≠ other → ¬ placeholderOf name <:+: placeholderOf other) ∧
        (∀ name ∈ placeholderNames "$\x7bA\x7d/$\x7bB\x7d".toList,
          ¬ placeholderOf name <:+: insertValues environment "$\x7bA\x7d/$\x7bB\x7d".toList) ∧
        expand environment "$\x7bA\x7d/$\x7bB\x7d" = .ok "$1/b\x7d") ∧
      (let environment := [("A", "$\x7bB\x7d"), ("B", "x")];
        insertValues environment "$\x7bA\x7d/$\x7bB\x7d".toList = "$\x7bB\x7d/x".toList ∧
          expand environment "$\x7bA\x7d/$\x7bB\x7d" = .ok "x/x") := by
  constructor
  · intro environment
    have hvalues : insertValues environment "$\x7bA\x7d/$\x7bB\x7d".toList = "$1/b\x7d".toList := by
      rw [insertValues, segments_slash]
      rfl
    have hset : ∀ name ∈ placeholderNames "$\x7bA\x7d/$\x7bB\x7d".toList,
        (valueOf? environment name).isSome := by
      rw [placeholderNames_slash]
      decide
    have hpart : ∀ name ∈ placeholderNames "$\x7bA\x7d/$\x7bB\x7d".toList,
        ∀ other ∈ placeholderNames "$\x7bA\x7d/$\x7bB\x7d".toList,
          name ≠ other → ¬ placeholderOf name <:+: placeholderOf other := by
      rw [placeholderNames_slash]
      simp only [List.forall_mem_cons, List.not_mem_nil, false_implies, implies_true, and_true]
      have hlength : ∀ c d, placeholderOf [c] <:+: placeholderOf [d] → [c] = [d] :=
        fun c d hpart => placeholderOf_injective (hpart.eq_of_length rfl)
      exact ⟨⟨fun hne => absurd rfl hne, fun hne hpart => hne (hlength _ _ hpart)⟩,
        fun hne hpart => hne (hlength _ _ hpart), fun hne => absurd rfl hne⟩
    have hfinished : ∀ name ∈ placeholderNames "$\x7bA\x7d/$\x7bB\x7d".toList,
        ¬ placeholderOf name <:+: insertValues environment "$\x7bA\x7d/$\x7bB\x7d".toList := by
      intro name _ hread
      have hbrace : '\x7b' ∈ placeholderOf name := by simp [placeholderOf]
      have hvalue := hread.subset hbrace
      rw [hvalues] at hvalue
      exact absurd hvalue (by decide)
    have hexpand := (expand_eq_insertValues environment _ hset hpart hfinished).1
    rw [hvalues] at hexpand
    exact ⟨hset, hpart, hfinished, hexpand⟩
  · intro environment
    refine ⟨by rw [insertValues, segments_slash]; rfl, ?_⟩
    rw [expand, unsetNames, substituteAll, placeholderNames_slash]
    rfl

end DumpReplay.Toolchain
