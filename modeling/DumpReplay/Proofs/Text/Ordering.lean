import DumpReplay.Text.Utf8
import Mathlib.Algebra.Group.Nat.Defs

/-!
# The order of texts

Texts are ordered by the numbers of their characters.  That is the order of their bytes, too: a character
with a larger number has a larger first byte, or as many bytes as the other and a larger one among them
where the two first differ.

Main results:

- `utf8EncodeChar_append_lt` : of two characters, the larger one has larger bytes, whatever stands behind.
- `toBytes_lt` : of two texts, the larger one has larger bytes.
-/

namespace DumpReplay.Text

/-! ## Characters -/

/-- The bytes behind the first one of a character with a number, each with six bits of it. -/
def following (number : Nat) : Nat → List UInt8
  | 0 => []
  | count + 1 => UInt8.ofNat (number / 64 ^ count % 64 + 128) :: following number count

/-- How many bytes a character with a number has behind the first one. -/
def followingCount (number : Nat) : Nat :=
  if number ≤ 127 then 0 else if number ≤ 2047 then 1 else if number ≤ 65535 then 2 else 3

/-- The first byte of a character with a number, as a number itself. -/
def leading (number : Nat) : Nat :=
  if number ≤ 127 then number
  else if number ≤ 2047 then number / 64 + 192
  else if number ≤ 65535 then number / 4096 + 224
  else number / 262144 + 240

variable {number other : Nat} {rest rest' : List UInt8}

theorem ofNat_cons_lt {byte byte' : Nat} (h : byte < byte') (hbound : byte' < 256) :
    UInt8.ofNat byte :: rest < UInt8.ofNat byte' :: rest' := by
  refine List.cons_lt_cons_iff.mpr (.inl (UInt8.lt_iff_toNat_lt.mpr ?_))
  rwa [UInt8.toNat_ofNat_of_lt' hbound, UInt8.toNat_ofNat_of_lt' (Nat.lt_trans h hbound)]

theorem toNat_lt (c : Char) : c.toNat < 0x110000 := by
  rcases c.valid with hlow | ⟨_, hhigh⟩
  · exact Nat.lt_trans hlow (by decide)
  · exact hhigh

/-- The bytes of a character. -/
theorem utf8EncodeChar_eq (c : Char) :
    String.utf8EncodeChar c =
      UInt8.ofNat (leading c.toNat) :: following c.toNat (followingCount c.toNat) := by
  have hbound := toNat_lt c
  unfold String.utf8EncodeChar leading followingCount
  generalize hnumber : c.toNat = number at hbound
  rw [show c.val.toNat = number from hnumber]
  dsimp only
  split
  · rfl
  · split
    · rw [Nat.mod_eq_of_lt (by omega : number / 64 < 32)]
      simp [following]
    · split
      · rw [Nat.mod_eq_of_lt (by omega : number / 4096 < 16)]
        simp [following]
      · rw [Nat.mod_eq_of_lt (by omega : number / 262144 < 8)]
        simp [following]

/-- Where the bits in front are the same, the bytes behind the first one are in the order of the numbers. -/
theorem following_append_lt {count : Nat} (hfront : number / 64 ^ count = other / 64 ^ count)
    (h : number < other) : following number count ++ rest < following other count ++ rest' := by
  induction count with
  | zero =>
    rw [Nat.pow_zero, Nat.div_one, Nat.div_one] at hfront
    omega
  | succ count ih =>
    rw [Nat.pow_succ, ← Nat.div_div_eq_div_mul, ← Nat.div_div_eq_div_mul] at hfront
    have hle : number / 64 ^ count ≤ other / 64 ^ count := Nat.div_le_div_right (Nat.le_of_lt h)
    rw [following, following, List.cons_append, List.cons_append]
    rcases Nat.eq_or_lt_of_le hle with hsame | hless
    · rw [hsame]
      exact List.cons_lt_cons_iff.mpr (.inr ⟨rfl, ih hsame⟩)
    · exact ofNat_cons_lt (by omega) (by omega)

theorem leading_lt (h : number < 0x110000) : leading number < 256 := by
  unfold leading
  split
  · omega
  · split
    · omega
    · split <;> omega

/-- The first bytes are in the order of the numbers, or as many bytes follow and the bits in front of
those are the same. -/
theorem leading_lt_or (h : number < other) (hbound : other < 0x110000) :
    leading number < leading other ∨ leading number = leading other ∧
      followingCount number = followingCount other ∧
      number / 64 ^ followingCount number = other / 64 ^ followingCount number := by
  unfold leading followingCount
  (repeat' split) <;> simp <;> omega

/-- Of two characters, the larger one has larger bytes, whatever stands behind them. -/
theorem utf8EncodeChar_append_lt {c d : Char} (h : c < d) :
    String.utf8EncodeChar c ++ rest < String.utf8EncodeChar d ++ rest' := by
  rw [utf8EncodeChar_eq, utf8EncodeChar_eq, List.cons_append, List.cons_append]
  have hnumber : c.toNat < d.toNat := h
  rcases leading_lt_or hnumber (toNat_lt d) with hless | ⟨hsame, hcount, hfront⟩
  · exact ofNat_cons_lt hless (leading_lt (toNat_lt d))
  · rw [hsame, ← hcount]
    exact List.cons_lt_cons_iff.mpr (.inr ⟨rfl, following_append_lt hfront hnumber⟩)

/-! ## Texts -/

theorem data_toBytes (text : String) :
    (toBytes text).data.toList = text.toList.flatMap String.utf8EncodeChar := by
  conv => lhs; rw [← String.ofList_toList (s := text)]
  rw [toBytes, String.toUTF8_eq_toByteArray, String.toByteArray_ofList, List.utf8Encode,
    List.toList_data_toByteArray]

theorem flatMap_utf8EncodeChar_lt {first second : List Char} (h : first < second) :
    first.flatMap String.utf8EncodeChar < second.flatMap String.utf8EncodeChar := by
  induction first generalizing second with
  | nil =>
    cases second with
    | nil => exact absurd h (List.lt_irrefl _)
    | cons d rest =>
      rw [List.flatMap_nil, List.flatMap_cons, utf8EncodeChar_eq, List.cons_append]
      exact List.nil_lt_cons _ _
  | cons c rest ih =>
    cases second with
    | nil => exact absurd h (List.not_lt_nil _)
    | cons d rest' =>
      rw [List.flatMap_cons, List.flatMap_cons]
      rcases List.cons_lt_cons_iff.mp h with hless | ⟨rfl, hrest⟩
      · exact utf8EncodeChar_append_lt hless
      · exact List.append_left_lt (ih hrest)

/-- Of two texts, the larger one has larger bytes. -/
theorem toBytes_lt {first second : String} (h : first < second) :
    (toBytes first).data.toList < (toBytes second).data.toList := by
  rw [data_toBytes, data_toBytes]
  exact flatMap_utf8EncodeChar_lt h

end DumpReplay.Text
