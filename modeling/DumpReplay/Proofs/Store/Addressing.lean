import DumpReplay.Store
import Mathlib.Data.List.Basic

/-!
# Addresses in the store

The store keeps a release in a folder of its name, and a commit in the folder of its hash below `main`.
A release may be named `main/` and a hash: then it has the folder of that commit.  No other two versions
share one.

Main results:

- `isHash_iff` : a text is a commit hash exactly if it is 40 of the hexadecimal digits.
- `folder_eq_iff` : which versions share a folder.
- `ofAddress_append_slashes` : slashes at the end of the base address do not matter.
- `artifactUrl?_parse_eq_iff` : which versions share an address, and which have none.
-/

namespace DumpReplay

/-! ## Hashes -/

namespace Version

variable {token : String}

/-- A text is a commit hash if it is 40 hexadecimal digits, in small or capital letters. -/
structure IsCommit (token : String) : Prop where
  /-- There are 40 characters. -/
  length_eq : token.toList.length = 40
  /-- Each of them is a digit. -/
  digits : ∀ c ∈ token.toList, c ∈ "0123456789abcdefABCDEF".toList

/-- The hexadecimal digits are the ten digits and the first six letters, small or capital. -/
theorem isHexDigit_iff {c : Char} : isHexDigit c = true ↔ c ∈ "0123456789abcdefABCDEF".toList := by
  simp only [isHexDigit, Char.isDigit, Bool.or_eq_true, Bool.and_eq_true, decide_eq_true_eq,
    Char.le_def, UInt32.le_iff_toNat_le, String.reduceToList, List.mem_cons, List.not_mem_nil,
    or_false, Char.ext_iff, ← UInt32.toNat_inj, ge_iff_le, Char.reduceVal, UInt32.reduceToNat]
  omega

/-- A text is recognised as a hash exactly if it is one. -/
theorem isHash_iff : isHash token = true ↔ IsCommit token := by
  rw [isHash, Bool.and_eq_true, beq_iff_eq, List.all_eq_true]
  simp only [isHexDigit_iff]
  exact ⟨fun ⟨hlength, hdigits⟩ => ⟨hlength, hdigits⟩, fun h => ⟨h.length_eq, h.digits⟩⟩

/-- A text with more in front of it than a hash has room for is no hash. -/
theorem IsCommit.not_behind_main (h : IsCommit token) : ¬IsCommit ("main/" ++ token) := by
  intro hbehind
  have hlength := hbehind.length_eq
  rw [String.toList_append, List.length_append, h.length_eq] at hlength
  exact absurd hlength (by decide)

/-- A text is read as a build of the checkout exactly if it names one; any other one is read as a hash or
as a release of that name. -/
theorem parse_eq_of_isRemote (h : (parse token).isRemote = true) :
    parse token = if isHash token then hash token else release token := by
  unfold parse at h ⊢
  split at h
  · exact absurd h (by decide)
  · rename_i hmain
    split at h
    · exact absurd h (by decide)
    · rename_i hsource
      rw [if_neg hmain, if_neg hsource]

/-- Exactly two texts name a build of the checkout. -/
theorem isRemote_parse_eq_false_iff :
    (parse token).isRemote = false ↔ token = "main" ∨ token = "source" := by
  constructor
  · intro h
    by_contra hnamed
    rw [not_or] at hnamed
    rw [parse, if_neg hnamed.1, if_neg hnamed.2] at h
    split at h <;> exact absurd h (by simp [isRemote])
  · rintro (rfl | rfl)
    · rfl
    · rfl

end Version

namespace Store

open Version

variable {s t : String}

/-! ## Folders -/

/-- The folder of a version, below the base address. -/
def folder (token : String) : String :=
  if isHash token then "main/" ++ token else token

/-- Two versions share a folder only if one of them is a commit, and the other one is named for the
folder of the commit. -/
theorem folder_eq_iff (hne : s ≠ t) :
    folder s = folder t ↔ (IsCommit s ∧ t = "main/" ++ s) ∨ (IsCommit t ∧ s = "main/" ++ t) := by
  unfold folder
  rw [← isHash_iff, ← isHash_iff]
  cases hs : isHash s with
  | true =>
    have hbehind := (isHash_iff.mp hs).not_behind_main
    cases ht : isHash t with
    | true =>
      have hfree : t ≠ "main/" ++ s := fun h => hbehind (h ▸ isHash_iff.mp ht)
      have hfree' : s ≠ "main/" ++ t := fun h =>
        (isHash_iff.mp ht).not_behind_main (h ▸ isHash_iff.mp hs)
      simp [hne, hfree, hfree']
    | false => simp [eq_comm]
  | false =>
    cases ht : isHash t with
    | true => simp
    | false => simp [hne]

/-! ## Addresses -/

/-- A version that has to be fetched has its files in its folder. -/
theorem eq_of_artifactUrl?_parse {store : Store} {name token url : String}
    (h : store.artifactUrl? (parse token) name = some url) :
    url = store.base ++ ("/" ++ (folder token ++ ("/" ++ name))) := by
  have hremote : (parse token).isRemote = true := by
    rw [← Bool.not_eq_false, ← artifactUrl?_eq_none_iff store (parse token) name, h]
    simp
  rw [parse_eq_of_isRemote hremote] at h
  unfold folder
  cases hash : isHash token with
  | true =>
    have hmain : "/main/" = "/" ++ "main/" := rfl
    rw [hash, if_pos rfl, artifactUrl?, Option.some.injEq, hmain] at h
    rw [← h, if_pos rfl]
    simp only [String.append_assoc]
  | false =>
    rw [hash, if_neg (by decide), artifactUrl?, Option.some.injEq] at h
    rw [← h, if_neg (by decide)]
    simp only [String.append_assoc]

/-- Slashes at the end of the base address do not matter. -/
theorem ofAddress_append_slashes (base : String) {slashes : String}
    (h : ∀ c ∈ slashes.toList, c = '/') : ofAddress (base ++ slashes) = ofAddress base := by
  unfold ofAddress
  rw [String.toList_append, List.reverse_append, List.dropWhile_append_of_pos]
  intro c hc
  rw [h c (List.mem_reverse.mp hc)]
  rfl

/-- Two versions that are read from different texts have the same address in the store only if one text
is a commit hash and the other one is that hash behind `main/`.  Exactly the builds of a checkout have no
address.  A version is shown as the text that it is read from, and slashes at the end of the base address
change nothing. -/
theorem artifactUrl?_parse_eq_iff (base name : String) (hne : s ≠ t) :
    (∀ url url', (ofAddress base).artifactUrl? (parse s) name = some url →
      (ofAddress base).artifactUrl? (parse t) name = some url' →
      (url = url' ↔ (IsCommit s ∧ t = "main/" ++ s) ∨ (IsCommit t ∧ s = "main/" ++ t))) ∧
    (∀ token, (ofAddress base).artifactUrl? (parse token) name = none ↔
      token = "main" ∨ token = "source") ∧
    (∀ token, (parse token).display = token) ∧
    ∀ (version : Version) (slashes : String), (∀ c ∈ slashes.toList, c = '/') →
      (ofAddress (base ++ slashes)).artifactUrl? version name =
        (ofAddress base).artifactUrl? version name := by
  refine ⟨fun url url' hs ht => ?_, fun token => ?_, display_parse, fun version slashes hslashes => ?_⟩
  · rw [eq_of_artifactUrl?_parse hs, eq_of_artifactUrl?_parse ht, String.append_right_inj,
      String.append_right_inj, String.append_left_inj, folder_eq_iff hne]
  · rw [artifactUrl?_eq_none_iff, isRemote_parse_eq_false_iff]
  · rw [ofAddress_append_slashes base hslashes]

/-- A release that is named for the folder of a commit has the address of the commit, also with slashes
behind the base address. -/
theorem artifactUrl?_parse_eq_iff_folder :
    "0123456789abcdef0123456789ABCDEF01234567" ≠ "main/0123456789abcdef0123456789ABCDEF01234567" ∧
      IsCommit "0123456789abcdef0123456789ABCDEF01234567" ∧
      ∃ url, (ofAddress "http://s/r//").artifactUrl?
          (parse "0123456789abcdef0123456789ABCDEF01234567") "r8.jar" = some url ∧
        (ofAddress "http://s/r").artifactUrl?
          (parse "main/0123456789abcdef0123456789ABCDEF01234567") "r8.jar" = some url := by
  have hcommit : IsCommit "0123456789abcdef0123456789ABCDEF01234567" := isHash_iff.mp (by decide)
  have hne : "0123456789abcdef0123456789ABCDEF01234567" ≠
      "main/0123456789abcdef0123456789ABCDEF01234567" := by decide
  obtain ⟨hsame, -, -, hslashes⟩ := artifactUrl?_parse_eq_iff "http://s/r" "r8.jar" hne
  obtain ⟨url, hurl⟩ : ∃ url, (ofAddress "http://s/r").artifactUrl?
      (parse "0123456789abcdef0123456789ABCDEF01234567") "r8.jar" = some url := ⟨_, rfl⟩
  obtain ⟨url', hurl'⟩ : ∃ url, (ofAddress "http://s/r").artifactUrl?
      (parse "main/0123456789abcdef0123456789ABCDEF01234567") "r8.jar" = some url := ⟨_, rfl⟩
  obtain rfl := (hsame url url' hurl hurl').mpr (.inl ⟨hcommit, rfl⟩)
  exact ⟨hne, hcommit, url, (hslashes _ "//" (by simp)).trans hurl, hurl'⟩

end Store

end DumpReplay
