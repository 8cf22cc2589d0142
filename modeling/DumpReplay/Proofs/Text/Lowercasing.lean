import DumpReplay.Text.Line
import DumpReplay.Text.Lowercase

/-!
# Lower case and basic letters

The lower case mapping of Unicode leads from outside of basic Latin into it at two characters only:
the Kelvin sign becomes a `k`, and the capital `I` with a dot becomes an `i` with a mark behind it.
So a text of other basic characters is the small form of another one exactly if the two are the same
but for the case of basic letters.

Main results:

- `smallLetter_eq_iff` : which characters have a given plain small letter.
- `lowercase_eq_iff` : which texts have a given plain small form.
-/

namespace DumpReplay.Text

variable {c wanted : Char} {text small : List Char}

/-! ## Characters -/

/-- Whether a character is basic and not the small letter of any character that is not. -/
structure IsPlain (c : Char) : Prop where
  pos : 0 < c.toNat
  basic : c.toNat < 128
  ne_kelvin : c ≠ 'k'

theorem toNat_ofNat_cases (code : Nat) : (Char.ofNat code).toNat = code ∨ (Char.ofNat code).toNat = 0 := by
  unfold Char.ofNat
  by_cases h : code.isValidChar
  · rw [dif_pos h]
    exact .inl rfl
  · rw [dif_neg h]
    exact .inr rfl

/-- Besides that of the basic letters, the run of the Kelvin sign is the only one with basic small
letters. -/
theorem lowercaseRuns_basic : ∀ run ∈ lowercaseRuns,
    run = (0x41, 0x5A, 1, 32) ∨ run = (0x212A, 0x212A, 1, -8383) ∨ 128 ≤ run.1 + run.2.2.2 := by
  decide +kernel

/-- A basic character has the small letter that the basic letters give it. -/
theorem smallLetter_of_basic (h : c.toNat < 128) : smallLetter c = c.toLower := by
  have hall : ∀ n < 128, smallLetter (Char.ofNat n) = (Char.ofNat n).toLower := by decide +kernel
  rw [← Char.ofNat_toNat c]
  exact hall c.toNat h

/-- A character that is not basic is no capital letter of the basic ones. -/
theorem toLower_of_not_basic (h : 128 ≤ c.toNat) : c.toLower = c := by
  have hletter : ¬(c.val ≥ 'A'.val ∧ c.val ≤ 'Z'.val) := by
    rintro ⟨-, hlast⟩
    have hbound : c.toNat ≤ 90 := UInt32.le_iff_toNat_le.mp hlast
    omega
  exact dif_neg hletter

/-- A character that is not basic has no plain small letter. -/
theorem smallLetter_ne (h : 128 ≤ c.toNat) (hplain : IsPlain wanted) : smallLetter c ≠ wanted := by
  intro hsame
  have hbasic := hplain.basic
  unfold smallLetter at hsame
  dsimp only at hsame
  split at hsame
  · rename_i first last step distance hfind
    have hrange := List.find?_some hfind
    simp only [Bool.and_eq_true, decide_eq_true_eq] at hrange
    rcases lowercaseRuns_basic _ (List.mem_of_find?_eq_some hfind) with hrun | hrun | hfar
    · obtain ⟨rfl, rfl, rfl, rfl⟩ := hrun
      omega
    · obtain ⟨rfl, rfl, rfl, rfl⟩ := hrun
      have hkelvin : c.toNat = 0x212A := by omega
      rw [hkelvin] at hsame
      exact hplain.ne_kelvin hsame.symm
    · have hcode := congrArg Char.toNat hsame
      have hpos := hplain.pos
      dsimp only at hfar
      rcases toNat_ofNat_cases (c.toNat + distance).toNat with hvalid | hzero <;> omega
  · rw [hsame] at h
    omega

/-- The characters with a plain small letter are those that the basic letters give it. -/
theorem smallLetter_eq_iff (hplain : IsPlain wanted) : smallLetter c = wanted ↔ c.toLower = wanted := by
  rcases Nat.lt_or_ge c.toNat 128 with hbasic | hother
  · rw [smallLetter_of_basic hbasic]
  · have hne : c.toLower ≠ wanted := by
      rw [toLower_of_not_basic hother]
      rintro rfl
      exact absurd hplain.basic (by omega)
    simp [smallLetter_ne hother hplain, hne]

/-! ## Texts -/

/-- The texts with a plain small form are those that the basic letters give it, whatever comes before
them. -/
theorem lowercaseAfter_eq_iff (hplain : ∀ c ∈ small, IsPlain c) (before : List Char) :
    lowercaseAfter before text = small ↔ text.map Char.toLower = small := by
  induction text generalizing before small with
  | nil => rw [lowercaseAfter, List.map_nil]
  | cons c rest ih =>
    have hfar : ∀ other : Char, 128 ≤ other.toNat → other ∉ small := fun _ h hmem =>
      absurd (hplain _ hmem).basic (by omega)
    rw [lowercaseAfter, List.map_cons]
    -- The two characters with small forms of their own lead out of the plain ones either way.
    by_cases hdotted : c = '\u0130'
    · subst hdotted
      refine iff_of_false (fun hsame => hfar '\u0307' (by decide) ?_)
        (fun hsame => hfar (Char.toLower '\u0130') (by decide) ?_)
      · rw [← hsame]
        simp
      · rw [← hsame]
        exact List.mem_cons_self
    · by_cases hsigma : c = 'Σ'
      · subst hsigma
        refine iff_of_false (fun hsame => ?_) (fun hsame => ?_)
        · have hmem : 'ς' ∈ small ∨ 'σ' ∈ small := by
            rw [← hsame, if_neg hdotted, if_pos rfl]
            split <;> simp
          exact hmem.elim (hfar 'ς' (by decide)) (hfar 'σ' (by decide))
        · refine hfar (Char.toLower 'Σ') (by decide) ?_
          rw [← hsame]
          exact List.mem_cons_self
      · rw [if_neg hdotted, if_neg hsigma]
        cases small with
        | nil => simp
        | cons wanted others =>
          have hothers : ∀ c ∈ others, IsPlain c := fun c hc => hplain c (List.mem_cons_of_mem _ hc)
          rw [List.singleton_append, List.cons.injEq, List.cons.injEq,
            smallLetter_eq_iff (hplain wanted List.mem_cons_self), ih hothers]

/-- The texts with a plain small form are those that are the same but for the case of basic letters. -/
theorem lowercase_eq_iff (hplain : ∀ c ∈ small, IsPlain c) (hsmall : small.map Char.toLower = small) :
    lowercase text = small ↔ equalIgnoringCase text small = true := by
  rw [lowercase, lowercaseAfter_eq_iff hplain, equalIgnoringCase, beq_iff_eq, hsmall]

end DumpReplay.Text
