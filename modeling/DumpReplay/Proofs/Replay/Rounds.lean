import DumpReplay.Proofs.Replay.Looping
import DumpReplay.Proofs.Replay.Output

/-!
# The rounds of a loop

A loop without a limit is known by what it does under every limit on the number of its replays.  Replays
that end well, whatever their status, are followed by the next one, and the first one that fails is the
end of the loop.  Every replay shows its number before it starts.

Main results:

- `padded_injective` : every number is shown differently.
- `eq_of_under_iterations` : the directories of two replays have no place in common.
- `Rounds.on_loopFor` : a loop goes on behind replays that end well.
- `loopFor_course` : what a loop does under a limit.
- `loop_course` : what a loop does.
-/

namespace DumpReplay.Replay

open DumpReplay.Action

variable {parent : Option Path} {options : Options} {tools : Toolchain} {machine : Machine}
variable {host behind after : Host} {iteration : Nat} {status : Status} {failure : Failure}
variable {here location : Location} {directory : Path}

/-! ## Numbers -/

/-- A number is shown by its digits, with zeros in front as far as there are less than three. -/
theorem toList_padded (iteration : Nat) :
    (padded iteration).toList =
      List.replicate (3 - (Nat.toDigits 10 iteration).length) '0' ++ Nat.toDigits 10 iteration := by
  rw [padded, String.toList_ofList, Nat.toString_eq_repr, Nat.toList_repr, ← String.length_toList,
    Nat.toList_repr]

/-- A number can be read from what is shown of it. -/
theorem ofDigitChars_padded (iteration : Nat) :
    Nat.ofDigitChars 10 (padded iteration).toList 0 = iteration := by
  rw [toList_padded, Nat.ofDigitChars_append, Nat.ofDigitChars_replicate_zero, Nat.mul_zero,
    Nat.ofDigitChars_ten_toDigits]

/-- Every number is shown differently. -/
theorem padded_injective : Function.Injective padded := by
  intro first second h
  rw [← ofDigitChars_padded first, h, ofDigitChars_padded]

/-! ## Directories -/

/-- The directories of two replays have no place in common. -/
theorem eq_of_under_iterations {first second : Nat}
    (hfirst : (directory.child (padded first)).Under here location)
    (hsecond : (directory.child (padded second)).Under here location) : first = second := by
  have habove := hfirst.1
  have habove' := hsecond.1
  rw [Path.location_child (isName_padded _)] at habove habove'
  have hlength : (directory.location here ++ [padded first]).length =
      (directory.location here ++ [padded second]).length := by simp
  have hsame := (List.prefix_of_prefix_length_le habove habove' (Nat.le_of_eq hlength)).eq_of_length hlength
  exact padded_injective (List.append_singleton_inj.mp hsame).2

/-- The directories of two replays are different. -/
theorem child_padded_injective (directory : Path) :
    Function.Injective fun iteration => directory.child (padded iteration) := by
  intro first second h
  have hlocation := congrArg (Path.location []) h
  dsimp only at hlocation
  rw [Path.location_child (isName_padded first), Path.location_child (isName_padded second)] at hlocation
  exact padded_injective (List.append_singleton_inj.mp hlocation).2

/-! ## Single replays -/

/-- What is printed before a replay of a loop. -/
def heading (iteration : Nat) : String :=
  "Iteration " ++ padded iteration ++ "\n"

theorem printed_announced (iteration : Nat) (host : Host) :
    (announced iteration host).printed = host.printed ++ heading iteration := rfl

/-- A host on which the end of a replay was recorded. -/
def concluded (iteration : Nat) (status : Status) (host : Host) : Host :=
  { host with
    log := host.log ++
      [⟨.information, "Iteration " ++ padded iteration ++ " finished: " ++ status.shown⟩] }

/-- A replay that ends well, whatever its status, ends its part of the loop well. -/
theorem iterate_of_ok
    (h : (run (iterationDirectory parent iteration) options tools .none).on machine
      (announced iteration host) = (.ok status, behind)) :
    (iterate parent options tools iteration).on machine host =
      (.ok (), concluded iteration status behind) := by
  unfold iterate
  rw [on_bind_of_ok _ (on_printLine _)]
  exact on_bind_of_ok _ h

/-- A replay that fails ends its part of the loop with its failure. -/
theorem iterate_of_error
    (h : (run (iterationDirectory parent iteration) options tools .none).on machine
      (announced iteration host) = (.error failure, behind)) :
    (iterate parent options tools iteration).on machine host = (.error failure, behind) := by
  unfold iterate
  rw [on_bind_of_ok _ (on_printLine _)]
  exact on_bind_of_error _ h

/-! ## Rounds -/

/-- A replay of a loop that ended well: its status, and what it printed itself. -/
structure Round where
  status : Status
  output : String

/-- The replays of a loop from a number on that end well, one after the other, each on the host that the
one before left. -/
inductive Rounds (parent : Option Path) (options : Options) (tools : Toolchain) (machine : Machine) :
    Nat → Host → List Round → Host → Prop where
  /-- There are none yet. -/
  | nil (iteration : Nat) (host : Host) : Rounds parent options tools machine iteration host [] host
  /-- A replay ends well, and the others follow. -/
  | cons {iteration : Nat} {host behind after : Host} {status : Status} {output : String}
      {rounds : List Round}
      (hrun : (run (iterationDirectory parent iteration) options tools .none).on machine
        (announced iteration host) = (.ok status, behind))
      (hprinted : behind.printed = (announced iteration host).printed ++ output)
      (hrest : Rounds parent options tools machine (iteration + 1)
        (concluded iteration status behind) rounds after) :
      Rounds parent options tools machine iteration host (⟨status, output⟩ :: rounds) after

/-- What is printed for the replays from a number on: for each its number, and then what it printed
itself. -/
def transcript : Nat → List Round → String
  | _, [] => ""
  | iteration, round :: rounds => heading iteration ++ round.output ++ transcript (iteration + 1) rounds

variable {rounds : List Round}

namespace Rounds

variable (h : Rounds parent options tools machine iteration host rounds after)
include h

/-- What is printed until the end of some replays. -/
theorem printed_eq : after.printed = host.printed ++ transcript iteration rounds := by
  induction h with
  | nil => exact String.append_empty.symm
  | cons _ hprinted _ ih =>
    rw [ih, transcript, concluded, hprinted, printed_announced]
    simp only [String.append_assoc]

/-- A loop goes on behind replays that end well. -/
theorem on_loopFor (more : Nat) :
    (loopFor parent options tools (rounds.length + more) iteration).on machine host =
      (loopFor parent options tools more (iteration + rounds.length)).on machine after := by
  induction h with
  | nil => rw [List.length_nil, Nat.zero_add, Nat.add_zero]
  | cons hrun _ _ ih =>
    rw [List.length_cons, Nat.add_right_comm, loopFor_succ, on_bind_of_ok _ (iterate_of_ok hrun), ih,
      Nat.add_assoc, Nat.add_comm 1]

end Rounds

/-- A replay of a loop ends well and is the next round, or it fails and prints nothing behind its
number. -/
theorem round_or_failure (parent : Option Path) (options : Options) (tools : Toolchain)
    (machine : Machine) (iteration : Nat) (host : Host) :
    (∃ status output behind,
      (run (iterationDirectory parent iteration) options tools .none).on machine
        (announced iteration host) = (.ok status, behind) ∧
      behind.printed = (announced iteration host).printed ++ output) ∨
    ∃ failure behind,
      (run (iterationDirectory parent iteration) options tools .none).on machine
        (announced iteration host) = (.error failure, behind) ∧
      behind.printed = (announced iteration host).printed := by
  rcases hrun : (run (iterationDirectory parent iteration) options tools .none).on machine
    (announced iteration host) with ⟨outcome, behind⟩
  obtain ⟨output, hprinted, hfinished⟩ := run_finished hrun
  cases hfinished with
  | failed failure => exact .inr ⟨failure, behind, rfl, hprinted.trans String.append_empty⟩
  | reported => exact .inl ⟨_, output, behind, rfl, hprinted⟩

/-- What a loop does under a limit: all its replays end well, or some do and the next one fails, which
is the end of the loop under every other limit that allows as many replays. -/
theorem loopFor_course (parent : Option Path) (options : Options) (tools : Toolchain)
    (machine : Machine) (count iteration : Nat) (host : Host) :
    (∃ rounds after, rounds.length = count ∧
      Rounds parent options tools machine iteration host rounds after ∧
      (loopFor parent options tools count iteration).on machine host = (.ok (), after)) ∨
    ∃ rounds before failure after, rounds.length < count ∧
      Rounds parent options tools machine iteration host rounds before ∧
      (run (iterationDirectory parent (iteration + rounds.length)) options tools .none).on machine
        (announced (iteration + rounds.length) before) = (.error failure, after) ∧
      after.printed = before.printed ++ heading (iteration + rounds.length) := by
  -- The host is general too, as the other replays start from what the first one leaves.
  induction count generalizing iteration host with
  | zero => exact .inl ⟨[], host, rfl, .nil iteration host, rfl⟩
  | succ count ih =>
    rcases round_or_failure parent options tools machine iteration host with
      ⟨status, output, behind, hrun, hprinted⟩ | ⟨failure, behind, hrun, hprinted⟩
    · rcases ih (iteration + 1) (concluded iteration status behind) with
        ⟨rounds, after, hlength, hrounds, hloop⟩ |
          ⟨rounds, before, failure, after, hlength, hrounds, hfails, hquiet⟩
      · refine .inl ⟨⟨status, output⟩ :: rounds, after, by simp [hlength], .cons hrun hprinted hrounds, ?_⟩
        rw [loopFor_succ, on_bind_of_ok _ (iterate_of_ok hrun), hloop]
      · rw [Nat.add_assoc, Nat.add_comm 1] at hfails hquiet
        exact .inr ⟨⟨status, output⟩ :: rounds, before, failure, after, by simpa using hlength,
          .cons hrun hprinted hrounds, hfails, hquiet⟩
    · exact .inr ⟨[], host, failure, behind, by simp, .nil iteration host, hrun, hprinted⟩

/-- Behind replays that end well, one that fails is the end of the loop under every limit that allows
as many replays. -/
theorem loopFor_of_failure {before : Host} {count : Nat}
    (h : Rounds parent options tools machine iteration host rounds before)
    (hfails : (run (iterationDirectory parent (iteration + rounds.length)) options tools .none).on
      machine (announced (iteration + rounds.length) before) = (.error failure, after))
    (hcount : rounds.length < count) :
    (loopFor parent options tools count iteration).on machine host = (.error failure, after) := by
  obtain ⟨more, rfl⟩ : ∃ more, count = rounds.length + (more + 1) := ⟨count - rounds.length - 1, by omega⟩
  rw [h.on_loopFor, loopFor_succ]
  exact on_bind_of_error _ (iterate_of_error hfails)

/-! ## Loops without a limit -/

/-- A loop without a limit ends in some way if it does so under every limit from some number of replays
on. -/
def LoopEnds (parent : Option Path) (options : Options) (tools : Toolchain) (machine : Machine)
    (host : Host) (outcome : Except Failure Unit) (after : Host) : Prop :=
  ∃ enough, ∀ count, enough ≤ count →
    (loopFor parent options tools count 1).on machine host = (outcome, after)

/-- A replay of a loop shows its number, so that it never leaves the host as it was. -/
theorem iterate_ne_self (parent : Option Path) (options : Options) (tools : Toolchain)
    (machine : Machine) (iteration : Nat) (host : Host) :
    (iterate parent options tools iteration).on machine host ≠ (.ok (), host) := by
  intro h
  rcases round_or_failure parent options tools machine iteration host with
    ⟨status, output, behind, hrun, hprinted⟩ | ⟨failure, behind, hrun, _⟩
  · rw [iterate_of_ok hrun] at h
    have hsame := congrArg (fun result => result.2.printed.toList.length) h
    simp [concluded, hprinted, printed_announced, heading] at hsame
  · rw [iterate_of_error hrun] at h
    exact absurd (Prod.mk.inj h).1 (by simp)

/-- A loop without a limit that ends, ends with a failure. -/
theorem LoopEnds.failed {outcome : Except Failure Unit}
    (h : LoopEnds parent options tools machine host outcome after) :
    ∃ failure, outcome = .error failure := by
  obtain ⟨enough, hends⟩ := h
  have hhere := hends enough (Nat.le_refl enough)
  rcases loopFor_course parent options tools machine enough 1 host with
    ⟨rounds, last, hlength, hrounds, hloop⟩ | ⟨rounds, before, failure, last, hlength, hrounds, hfails, _⟩
  · -- One more replay would have to leave everything as it was.
    rw [hloop, Prod.mk.injEq] at hhere
    obtain ⟨rfl, rfl⟩ := hhere
    have hmore := hends (rounds.length + 1) (by omega)
    rw [hrounds.on_loopFor, loopFor_succ] at hmore
    obtain ⟨⟨⟩, middle, hiterate, hpure⟩ := on_bind_eq_ok.mp hmore
    obtain rfl : middle = last := (Prod.mk.inj hpure).2
    exact (iterate_ne_self _ _ _ _ _ _ hiterate).elim
  · rw [loopFor_of_failure hrounds hfails hlength, Prod.mk.injEq] at hhere
    exact ⟨failure, hhere.1.symm⟩

/-- A loop without a limit ends exactly with the failure of a replay behind replays that end well. -/
theorem loopEnds_iff {outcome : Except Failure Unit} :
    LoopEnds parent options tools machine host outcome after ↔
      ∃ rounds before failure, outcome = .error failure ∧
        Rounds parent options tools machine 1 host rounds before ∧
        (run (iterationDirectory parent (1 + rounds.length)) options tools .none).on machine
          (announced (1 + rounds.length) before) = (.error failure, after) := by
  constructor
  · intro h
    obtain ⟨failure, rfl⟩ := h.failed
    obtain ⟨enough, hends⟩ := h
    have hhere := hends enough (Nat.le_refl enough)
    rcases loopFor_course parent options tools machine enough 1 host with
      ⟨_, _, _, _, hloop⟩ | ⟨rounds, before, other, last, hlength, hrounds, hfails, _⟩
    · rw [hloop] at hhere
      exact absurd (Prod.mk.inj hhere).1 (by simp)
    · rw [loopFor_of_failure hrounds hfails hlength, Prod.mk.injEq, Except.error.injEq] at hhere
      obtain ⟨rfl, rfl⟩ := hhere
      exact ⟨rounds, before, other, rfl, hrounds, hfails⟩
  · rintro ⟨rounds, before, failure, rfl, hrounds, hfails⟩
    exact ⟨rounds.length + 1, fun count hcount => loopFor_of_failure hrounds hfails hcount⟩

/-- What a loop does.  Under a limit, either all replays end well, whatever their statuses, or some do and
the next one fails; then the loop ends with that failure, under every limit that allows as many replays.
What is printed is, for every replay, its number in at least three digits and then what it prints itself;
one that fails prints nothing but its number.  Without a limit the loop ends exactly if a replay fails, with
that failure, and never with a status.  The directories of two replays are different, and no place is in
both. -/
theorem loop_course (parent : Option Path) (options : Options) (tools : Toolchain) (machine : Machine)
    (host : Host) :
    (∀ count,
      (∃ rounds after, rounds.length = count ∧
        Rounds parent options tools machine 1 host rounds after ∧
        (loopFor parent options tools count 1).on machine host = (.ok (), after) ∧
        after.printed = host.printed ++ transcript 1 rounds) ∨
      ∃ rounds before failure after, rounds.length < count ∧
        Rounds parent options tools machine 1 host rounds before ∧
        (run (iterationDirectory parent (1 + rounds.length)) options tools .none).on machine
          (announced (1 + rounds.length) before) = (.error failure, after) ∧
        (∀ limit, rounds.length < limit →
          (loopFor parent options tools limit 1).on machine host = (.error failure, after)) ∧
        after.printed = host.printed ++ transcript 1 rounds ++ heading (1 + rounds.length)) ∧
    (∀ outcome after, LoopEnds parent options tools machine host outcome after ↔
      ∃ rounds before failure, outcome = .error failure ∧
        Rounds parent options tools machine 1 host rounds before ∧
        (run (iterationDirectory parent (1 + rounds.length)) options tools .none).on machine
          (announced (1 + rounds.length) before) = (.error failure, after)) ∧
    (∀ iteration, ∃ zeros, (padded iteration).toList = List.replicate zeros '0' ++ Nat.toDigits 10 iteration ∧
      (padded iteration).toList.length = max 3 (Nat.toDigits 10 iteration).length) ∧
    ∀ (directory : Path) (first second : Nat), first ≠ second →
      iterationDirectory (some directory) first ≠ iterationDirectory (some directory) second ∧
      ∀ here location, ¬ ((directory.child (padded first)).Under here location ∧
        (directory.child (padded second)).Under here location) := by
  refine ⟨fun count => ?_, fun outcome after => loopEnds_iff, fun iteration => ?_, ?_⟩
  · rcases loopFor_course parent options tools machine count 1 host with
      ⟨rounds, after, hlength, hrounds, hloop⟩ |
        ⟨rounds, before, failure, after, hlength, hrounds, hfails, hquiet⟩
    · exact .inl ⟨rounds, after, hlength, hrounds, hloop, hrounds.printed_eq⟩
    · refine .inr ⟨rounds, before, failure, after, hlength, hrounds, hfails, ?_, ?_⟩
      · exact fun limit hlimit => loopFor_of_failure hrounds hfails hlimit
      · rw [hquiet, hrounds.printed_eq]
  · refine ⟨_, toList_padded iteration, ?_⟩
    rw [toList_padded, List.length_append, List.length_replicate]
    omega
  · intro directory first second hne
    constructor
    · intro hsame
      exact hne (child_padded_injective directory (Option.some.inj hsame))
    · intro here location hboth
      exact hne (eq_of_under_iterations hboth.1 hboth.2)

/-- The compiler of the first replay fails and is retraced, and the second replay follows. -/
example :
    ((loopFor (some ⟨"/w"⟩) unminifiedOptions sampleTools 2 1).on sampleMachine keepHost).2.printed =
      "Iteration 001\n" ++ retracedReport "" ++ "Iteration 002\n\n" := by
  decide +kernel

end DumpReplay.Replay
