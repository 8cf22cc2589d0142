import DumpReplay.Proofs.CommandLine.Position
import Mathlib.Data.List.FinRange

/-!
# Where the tokens of a line go

Splitting sorts the positions of a line.  A position is one of a flag if no separator and no flag
that lacks its value stands before it.  The token of such a position stays in front exactly if it is
recognised, and the one behind a flag that awaits its value stays there with it, whatever it is.  The
first separator in the position of a flag is dropped.  All other tokens are moved, and what stands
behind that separator is among them.

Main results:

- `Complete.append_iff` : positions of flags are found one part of the line after the other.
- `divide_eq_byPosition` : the two parts of a line are the tokens of the positions that stay and of
  those that are moved.
- `split_sorts` : where every token of a line goes.
-/

namespace DumpReplay.CommandLine

variable {args before rest : List String} {token value : String} {recognized : Flag.Recognized}

/-! ## Parts of lines -/

/-- Behind a token that is no flag, a flag may stand where it may without the token. -/
theorem Complete.foreign_iff (h : IsForeign token) : Complete (token :: rest) ↔ Complete rest := by
  constructor
  · intro hcomplete
    cases hcomplete with
    | foreign _ hrest => exact hrest
    | alone hrecognized => simp [h.2] at hrecognized
    | valued hrecognized => simp [h.2] at hrecognized
  · exact .foreign h

/-- Behind a flag that awaits no further token, a flag may stand where it may without that one. -/
theorem Complete.alone_iff (h : Flag.recognize? token = some recognized)
    (hawaits : recognized.awaitsValue = false) : Complete (token :: rest) ↔ Complete rest := by
  constructor
  · intro hcomplete
    cases hcomplete with
    | foreign hforeign => exact absurd hforeign.2 (by simp [h])
    | alone _ _ hrest => exact hrest
    | valued hrecognized hvalue =>
      rw [h, Option.some.injEq] at hrecognized
      subst hrecognized
      simp [hawaits] at hvalue
  · exact .alone h hawaits

/-- Behind a flag and its value, a flag may stand where it may without the two. -/
theorem Complete.valued_iff (h : Flag.recognize? token = some recognized)
    (hawaits : recognized.awaitsValue = true) :
    Complete (token :: value :: rest) ↔ Complete rest := by
  constructor
  · intro hcomplete
    cases hcomplete with
    | foreign hforeign => exact absurd hforeign.2 (by simp [h])
    | alone hrecognized hvalue =>
      rw [h, Option.some.injEq] at hrecognized
      subst hrecognized
      simp [hawaits] at hvalue
    | valued _ _ hrest => exact hrest
  · exact .valued h hawaits

/-- No flag may stand behind the separator. -/
theorem not_complete_separator : ¬ Complete ("--" :: rest) := by
  intro hcomplete
  cases hcomplete with
  | foreign hforeign => exact hforeign.1 rfl
  | alone hrecognized => exact ne_separator_of_recognized hrecognized rfl
  | valued hrecognized => exact ne_separator_of_recognized hrecognized rfl

/-- No flag may stand directly behind one that awaits its value. -/
theorem not_complete_open (h : Flag.recognize? token = some recognized)
    (hawaits : recognized.awaitsValue = true) : ¬ Complete [token] := by
  intro hcomplete
  cases hcomplete with
  | foreign hforeign => exact absurd hforeign.2 (by simp [h])
  | alone hrecognized hvalue =>
    rw [h, Option.some.injEq] at hrecognized
    subst hrecognized
    simp [hawaits] at hvalue

/-- Behind tokens behind which a flag may stand, a flag may stand where it may without them. -/
theorem Complete.append_iff (h : Complete before) : Complete (before ++ rest) ↔ Complete rest := by
  induction h with
  | nil => rfl
  | foreign h _ ih => exact (foreign_iff h).trans ih
  | alone h hawaits _ ih => exact (alone_iff h hawaits).trans ih
  | valued h hawaits _ ih => exact (valued_iff h hawaits).trans ih

/-! ## Positions -/

/-- A position of a line is one of a flag: a flag may stand behind the tokens before it. -/
def FlagMayStand (args : List String) (i : Nat) : Prop :=
  Complete (args.take i)

/-- In the position of a flag stands a token that is recognised. -/
def HoldsFlag (args : List String) (i : Nat) : Prop :=
  FlagMayStand args i ∧ ∃ token, args[i]? = some token ∧ (Flag.recognize? token).isSome

/-- Directly before a position stands a flag that awaits its value. -/
def HoldsValue (args : List String) (i : Nat) : Prop :=
  ∃ j token recognized, i = j + 1 ∧ FlagMayStand args j ∧ args[j]? = some token ∧
    Flag.recognize? token = some recognized ∧ recognized.awaitsValue = true

/-- In the position of a flag stands the separator. -/
def HoldsSeparator (args : List String) (i : Nat) : Prop :=
  FlagMayStand args i ∧ args[i]? = some "--"

/-- The token at a position stays in front. -/
def Stays (args : List String) (i : Nat) : Prop :=
  HoldsFlag args i ∨ HoldsValue args i

/-- The token at a position is moved. -/
def Moves (args : List String) (i : Nat) : Prop :=
  ¬ HoldsSeparator args i ∧ ¬ Stays args i

theorem getElem?_append_length (before rest : List String) (i : Nat) :
    (before ++ rest)[i + before.length]? = rest[i]? := by
  rw [List.getElem?_append_right (by omega), Nat.add_sub_cancel]

namespace Complete

theorem flagMayStand_append (h : Complete before) (i : Nat) :
    FlagMayStand (before ++ rest) (i + before.length) ↔ FlagMayStand rest i := by
  rw [FlagMayStand, Nat.add_comm, List.take_length_add_append, h.append_iff, FlagMayStand]

theorem holdsSeparator_append (h : Complete before) (i : Nat) :
    HoldsSeparator (before ++ rest) (i + before.length) ↔ HoldsSeparator rest i := by
  rw [HoldsSeparator, h.flagMayStand_append, getElem?_append_length, HoldsSeparator]

theorem holdsFlag_append (h : Complete before) (i : Nat) :
    HoldsFlag (before ++ rest) (i + before.length) ↔ HoldsFlag rest i := by
  rw [HoldsFlag, h.flagMayStand_append, getElem?_append_length, HoldsFlag]

/-- No flag awaits its value at the end of tokens behind which a flag may stand. -/
theorem not_holdsValue_length (h : Complete before) :
    ¬ HoldsValue (before ++ rest) before.length := by
  rintro ⟨j, token, recognized, hj, hmay, htoken, hrecognized, hawaits⟩
  rw [FlagMayStand, List.take_append_of_le_length (by omega)] at hmay
  rw [List.getElem?_append_left (by omega)] at htoken
  -- What is complete would end with the flag that awaits its value.
  have hlast : before = before.take j ++ [token] := by
    have hlength := List.take_length (l := before)
    rw [hj, List.take_add_one, htoken] at hlength
    exact hlength.symm
  rw [hlast, hmay.append_iff] at h
  exact not_complete_open hrecognized hawaits h

theorem holdsValue_append (h : Complete before) (i : Nat) :
    HoldsValue (before ++ rest) (i + before.length) ↔ HoldsValue rest i := by
  cases i with
  | zero =>
    have hnone : ¬ HoldsValue rest 0 := by
      rintro ⟨j, _, _, hj, _⟩
      omega
    rw [Nat.zero_add]
    exact iff_of_false h.not_holdsValue_length hnone
  | succ i =>
    constructor
    · rintro ⟨j, token, recognized, hj, hmay, htoken, hrecognized⟩
      have hbefore : j = i + before.length := by omega
      rw [hbefore, h.flagMayStand_append] at hmay
      rw [hbefore, getElem?_append_length] at htoken
      exact ⟨i, token, recognized, rfl, hmay, htoken, hrecognized⟩
    · rintro ⟨j, token, recognized, hj, hmay, htoken, hrecognized⟩
      refine ⟨j + before.length, token, recognized, by omega, ?_, ?_, hrecognized⟩
      · rwa [h.flagMayStand_append]
      · rwa [getElem?_append_length]

/-- Tokens behind which a flag may stand change nothing in what stays of those behind them. -/
theorem stays_behind (h : Complete before) :
    (fun i => Stays (before ++ rest) (i + before.length)) = Stays rest := by
  funext i
  rw [Stays, h.holdsFlag_append, h.holdsValue_append, Stays]

/-- Tokens behind which a flag may stand change nothing in what is moved of those behind them. -/
theorem moves_behind (h : Complete before) :
    (fun i => Moves (before ++ rest) (i + before.length)) = Moves rest := by
  funext i
  rw [Moves, h.holdsSeparator_append, congrFun h.stays_behind i, Moves]

end Complete

variable {i j : Nat}

/-- Behind the separator in the position of a flag, no flag may stand. -/
theorem HoldsSeparator.not_flagMayStand (h : HoldsSeparator args i) (hij : i < j) :
    ¬ FlagMayStand args j := by
  obtain ⟨hmay, hseparator⟩ := h
  obtain ⟨hlength, htoken⟩ := List.getElem?_eq_some_iff.mp hseparator
  obtain ⟨distance, rfl⟩ : ∃ distance, j = i + (distance + 1) := ⟨j - i - 1, by omega⟩
  rw [FlagMayStand, List.take_add, hmay.append_iff, List.drop_eq_getElem_cons hlength, htoken,
    List.take_succ_cons]
  exact not_complete_separator

/-- What stands behind the separator in the position of a flag is moved. -/
theorem HoldsSeparator.moves (h : HoldsSeparator args i) (hij : i < j) : Moves args j := by
  have hmay := h.not_flagMayStand hij
  refine ⟨fun hseparator => hmay hseparator.1, ?_⟩
  rintro (hflag | ⟨k, token, recognized, rfl, hbefore, htoken, hrecognized, -⟩)
  · exact hmay hflag.1
  · rcases Nat.lt_or_eq_of_le (Nat.le_of_lt_succ hij) with hik | rfl
    · exact h.not_flagMayStand hik hbefore
    · rw [h.2, Option.some.injEq] at htoken
      exact ne_separator_of_recognized hrecognized htoken.symm

/-- No flag may stand where a flag before awaits its value. -/
theorem HoldsValue.not_flagMayStand (h : HoldsValue args i) : ¬ FlagMayStand args i := by
  obtain ⟨j, token, recognized, rfl, hmay, htoken, hrecognized, hawaits⟩ := h
  rw [FlagMayStand, List.take_add_one, htoken, hmay.append_iff]
  exact not_complete_open hrecognized hawaits

theorem stays_zero_iff : Stays (token :: rest) 0 ↔ (Flag.recognize? token).isSome := by
  have hstart : FlagMayStand (token :: rest) 0 := .nil
  have hvalue : ¬ HoldsValue (token :: rest) 0 := fun h => h.not_flagMayStand hstart
  simp [Stays, HoldsFlag, hstart, hvalue]

theorem moves_zero_iff : Moves (token :: rest) 0 ↔ IsForeign token := by
  have hstart : FlagMayStand (token :: rest) 0 := .nil
  simp [Moves, HoldsSeparator, stays_zero_iff, hstart, IsForeign]

/-! ## Tokens of positions -/

variable {p : Nat → Prop}

open Classical in
/-- The positions of a line with a property, in order. -/
noncomputable def positionsWhere (args : List String) (p : Nat → Prop) : List (Fin args.length) :=
  (List.finRange args.length).filter fun i => p i

/-- The tokens of a line at the positions with a property, in order. -/
noncomputable def tokensWhere (args : List String) (p : Nat → Prop) : List String :=
  (positionsWhere args p).map args.get

theorem mem_positionsWhere {i : Fin args.length} : i ∈ positionsWhere args p ↔ p i := by
  simp [positionsWhere]

theorem positionsWhere_increasing (args : List String) (p : Nat → Prop) :
    (positionsWhere args p).Pairwise (· < ·) :=
  (List.pairwise_lt_finRange args.length).filter _

theorem finRange_cons (token : String) (rest : List String) :
    List.finRange (token :: rest).length = 0 :: (List.finRange rest.length).map Fin.succ :=
  List.finRange_succ

theorem tokensWhere_cons_of_pos (h : p 0) :
    tokensWhere (token :: rest) p = token :: tokensWhere rest fun i => p (i + 1) := by
  classical
  have hfirst : decide (p (0 : Fin (token :: rest).length)) = true := decide_eq_true h
  rw [tokensWhere, positionsWhere, finRange_cons, List.filter_cons, if_pos hfirst, List.filter_map,
    List.map_cons, List.map_map]
  rfl

theorem tokensWhere_cons_of_neg (h : ¬ p 0) :
    tokensWhere (token :: rest) p = tokensWhere rest fun i => p (i + 1) := by
  classical
  have hfirst : ¬ decide (p (0 : Fin (token :: rest).length)) = true := mt of_decide_eq_true h
  rw [tokensWhere, positionsWhere, finRange_cons, List.filter_cons, if_neg hfirst, List.filter_map,
    List.map_map]
  rfl

theorem tokensWhere_of_forall (h : ∀ i, p i) : tokensWhere args p = args := by
  have hall : positionsWhere args p = List.finRange args.length := by
    simp [positionsWhere, h]
  rw [tokensWhere, hall, List.map_get_finRange]

theorem tokensWhere_of_forall_not (h : ∀ i, ¬ p i) : tokensWhere args p = [] := by
  have hnone : positionsWhere args p = [] := by
    simp [positionsWhere, h]
  rw [tokensWhere, hnone, List.map_nil]

/-! ## Parts by position -/

/-- The tokens of the positions that stay, and those of the positions that are moved. -/
noncomputable def byPosition (args : List String) : Split :=
  ⟨tokensWhere args (Stays args), tokensWhere args (Moves args)⟩

theorem byPosition_separator (rest : List String) : byPosition ("--" :: rest) = ⟨[], rest⟩ := by
  have hseparator : HoldsSeparator ("--" :: rest) 0 := ⟨.nil, rfl⟩
  have hmoves : ∀ i, Moves ("--" :: rest) (i + 1) := fun i => hseparator.moves (Nat.succ_pos i)
  have hstays : ∀ i, ¬ Stays ("--" :: rest) i := by
    intro i
    cases i with
    | zero => simp [stays_zero_iff, Flag.recognize?_separator]
    | succ i => exact (hmoves i).2
  rw [byPosition, tokensWhere_of_forall_not hstays, tokensWhere_cons_of_neg fun h => h.1 hseparator,
    tokensWhere_of_forall hmoves]

theorem byPosition_foreign (h : IsForeign token) (rest : List String) :
    byPosition (token :: rest) = (byPosition rest).prependTail token := by
  have hcomplete : Complete [token] := .foreign h .nil
  have hmoves : Moves (token :: rest) 0 := moves_zero_iff.mpr h
  have hstaysBehind : (fun i => Stays (token :: rest) (i + 1)) = Stays rest :=
    hcomplete.stays_behind
  have hmovesBehind : (fun i => Moves (token :: rest) (i + 1)) = Moves rest :=
    hcomplete.moves_behind
  rw [byPosition, tokensWhere_cons_of_neg hmoves.2, tokensWhere_cons_of_pos hmoves, hstaysBehind,
    hmovesBehind]
  rfl

theorem byPosition_open (h : Flag.recognize? token = some recognized) :
    byPosition [token] = ⟨[token], []⟩ := by
  have hstays : Stays [token] 0 := by simp [stays_zero_iff, h]
  rw [byPosition, tokensWhere_cons_of_pos hstays,
    tokensWhere_cons_of_neg fun hmoves => hmoves.2 hstays]
  rfl

theorem byPosition_valued (h : Flag.recognize? token = some recognized)
    (hawaits : recognized.awaitsValue = true) (value : String) (rest : List String) :
    byPosition (token :: value :: rest) = (byPosition rest).prependHead [token, value] := by
  have hcomplete : Complete [token, value] := .valued h hawaits .nil
  have hstays : Stays (token :: value :: rest) 0 := by simp [stays_zero_iff, h]
  have hvalue : Stays (token :: value :: rest) 1 :=
    .inr ⟨0, token, recognized, rfl, .nil, rfl, h, hawaits⟩
  have hstaysBehind : (fun i => Stays (token :: value :: rest) (i + 1 + 1)) = Stays rest :=
    hcomplete.stays_behind
  have hmovesBehind : (fun i => Moves (token :: value :: rest) (i + 1 + 1)) = Moves rest :=
    hcomplete.moves_behind
  rw [byPosition, tokensWhere_cons_of_pos hstays, tokensWhere_cons_of_pos hvalue,
    tokensWhere_cons_of_neg fun hmoves => hmoves.2 hstays,
    tokensWhere_cons_of_neg fun hmoves => hmoves.2 hvalue, hstaysBehind, hmovesBehind]
  rfl

theorem byPosition_alone (h : Flag.recognize? token = some recognized)
    (hawaits : recognized.awaitsValue = false) (rest : List String) :
    byPosition (token :: rest) = (byPosition rest).prependHead [token] := by
  have hcomplete : Complete [token] := .alone h hawaits .nil
  have hstays : Stays (token :: rest) 0 := by simp [stays_zero_iff, h]
  have hstaysBehind : (fun i => Stays (token :: rest) (i + 1)) = Stays rest :=
    hcomplete.stays_behind
  have hmovesBehind : (fun i => Moves (token :: rest) (i + 1)) = Moves rest :=
    hcomplete.moves_behind
  rw [byPosition, tokensWhere_cons_of_pos hstays,
    tokensWhere_cons_of_neg fun hmoves => hmoves.2 hstays, hstaysBehind, hmovesBehind]
  rfl

/-- The tokens that splitting keeps in front are those of the positions that stay, and the others
those of the positions that are moved. -/
theorem divide_eq_byPosition (args : List String) : divide args = byPosition args := by
  fun_induction divide args with
  | case1 => rfl
  | case2 rest => exact (byPosition_separator rest).symm
  | case3 token rest hne hunknown ih =>
    rw [byPosition_foreign ⟨hne, hunknown⟩, ih]
  | case4 token hne recognized h hawaits => exact (byPosition_open h).symm
  | case5 token hne recognized h hawaits value rest ih =>
    rw [byPosition_valued h hawaits, ih]
  | case6 token rest hne recognized h hawaits ih =>
    rw [byPosition_alone h (by simpa using hawaits), ih]

/-! ## Whole lines -/

/-- How the positions of a line are sorted into those whose tokens stay in front and those whose tokens
are moved.  Both are given in the order of the line. -/
structure Sorted (args : List String) (front moved : List (Fin args.length)) : Prop where
  front_increasing : front.Pairwise (· < ·)
  moved_increasing : moved.Pairwise (· < ·)
  /-- The separator in the position of a flag is in neither part. -/
  separator : ∀ i : Fin args.length, HoldsSeparator args i → i ∉ front ∧ i ∉ moved
  /-- Every other token is in exactly one of the parts. -/
  other : ∀ i : Fin args.length, ¬ HoldsSeparator args i → (i ∈ moved ↔ i ∉ front)
  /-- In the position of a flag, exactly what is recognised stays. -/
  flag : ∀ i : Fin args.length,
    FlagMayStand args i → (i ∈ front ↔ (Flag.recognize? args[i]).isSome)
  /-- Behind a flag that awaits its value, every token stays. -/
  value : ∀ i : Fin args.length, HoldsValue args i → i ∈ front
  /-- Nothing stays but flags and their values. -/
  front_cases : ∀ i ∈ front, FlagMayStand args i ∨ HoldsValue args i
  /-- Everything behind that separator is moved. -/
  behind : ∀ i j : Fin args.length, HoldsSeparator args i → i < j → j ∈ moved

/-- In the position of a flag, exactly what is recognised stays. -/
theorem stays_iff_of_flagMayStand {i : Fin args.length} (h : FlagMayStand args i) :
    Stays args i ↔ (Flag.recognize? args[i]).isSome := by
  have htoken : args[(i : Nat)]? = some args[i] := List.getElem?_eq_getElem i.isLt
  have hvalue : ¬ HoldsValue args i := fun hvalue => hvalue.not_flagMayStand h
  simp [Stays, HoldsFlag, h, hvalue]

theorem sorted_positions (args : List String) :
    Sorted args (positionsWhere args (Stays args)) (positionsWhere args (Moves args)) where
  front_increasing := positionsWhere_increasing args _
  moved_increasing := positionsWhere_increasing args _
  separator := by
    intro i hseparator
    have hstays : ¬ Stays args i := by
      have htoken : args[i] = "--" := (List.getElem?_eq_some_iff.mp hseparator.2).2
      simp [stays_iff_of_flagMayStand hseparator.1, htoken, Flag.recognize?_separator]
    rw [mem_positionsWhere, mem_positionsWhere]
    exact ⟨hstays, fun hmoves => hmoves.1 hseparator⟩
  other := by
    intro i hseparator
    rw [mem_positionsWhere, mem_positionsWhere, Moves]
    exact and_iff_right hseparator
  flag := by
    intro i hmay
    rw [mem_positionsWhere]
    exact stays_iff_of_flagMayStand hmay
  value := by
    intro i hvalue
    exact mem_positionsWhere.mpr (.inr hvalue)
  front_cases := by
    intro i hstays
    exact (mem_positionsWhere.mp hstays).imp_left And.left
  behind := by
    intro i j hseparator hij
    exact mem_positionsWhere.mpr (hseparator.moves hij)

/-- With no moved token there is no separator, and else there is one. -/
theorem arrange_map {α : Type} [DecidableEq α] (head : List String) (token : α → String)
    (moved : List α) :
    Split.arrange ⟨head, moved.map token⟩ =
      head ++ if moved = [] then [] else "--" :: moved.map token := by
  cases moved <;> simp [Split.arrange]

/-- Where every token of a line goes.  The name of the program comes first.  The tokens of the positions
that stay follow, and if there are positions that are moved, one separator and their tokens. -/
theorem split_sorts (line : List String) :
    ∃ front moved : List (Fin line.tail.length),
      Sorted line.tail front moved ∧
        split line = line.take 1 ++ (front.map line.tail.get ++
          if moved = [] then [] else "--" :: moved.map line.tail.get) := by
  refine ⟨_, _, sorted_positions line.tail, ?_⟩
  cases line with
  | nil => rfl
  | cons program args =>
    rw [split_cons, divide_eq_byPosition]
    exact congrArg (program :: ·) (arrange_map _ args.get _)

/-- Behind `-d` the separator is a value, and the next one ends the search for flags. -/
example : split ["compiledump", "a", "-d", "--", "-q", "--", "-c"] =
    ["compiledump", "-d", "--", "-q", "--", "a", "-c"] := by
  decide

end DumpReplay.CommandLine
