import DumpReplay.Proofs.CommandLine.Interleaving

/-!
# Accepted lines

A line is accepted when its flags can be settled and the variables that stand for flags can be
added.  A flag that no variable stands for has no part in the second step.

Main results:

- `parse_eq_ok_iff` : when a line is accepted, and what it says.
- `accept_eq_ok_iff` : when a flag can be settled.
- `withVariables_agree` : variables are added alike to settled flags that differ in one flag only.
-/

namespace DumpReplay.CommandLine

/-! ## Settled flags -/

/-- Among settled flags, those are found that have a value. -/
theorem any_eq_isSome_lookup (given : Given) (flag : Flag) :
    (given.any fun entry => entry.1 = flag) = (given.lookup flag).isSome := by
  induction given with
  | nil => rfl
  | cons entry given ih =>
    obtain ⟨other, value⟩ := entry
    by_cases hflag : other = flag
    · subst hflag
      simp
    · have hne : (flag == other) = false := beq_eq_false_iff_ne.mpr (Ne.symm hflag)
      simp only [List.any_cons, hflag, decide_false, Bool.false_or, List.lookup_cons, hne]
      exact ih

/-- A flag is settled if it was not settled before and takes its value; it is then the last one. -/
theorem accept_eq_ok_iff {given next : Given} {flag : Flag} {value : String} :
    accept given flag value = .ok next ↔
      given.lookup flag = none ∧ checkValue flag value = .ok () ∧ next = (flag, value) :: given := by
  unfold accept
  rw [any_eq_isSome_lookup]
  cases hlookup : given.lookup flag with
  | some other => simp
  | none =>
    cases hcheck : checkValue flag value with
    | error error => simp [bind, Except.bind]
    | ok _ => simp [bind, Except.bind, eq_comm]

/-- Settled flags that say the same of every flag but one. -/
def Given.AgreeBut (flag : Flag) (given others : Given) : Prop :=
  ∀ other, other ≠ flag → others.lookup other = given.lookup other

/-- Agreement on the other flags goes both ways. -/
theorem Given.AgreeBut.symm {flag : Flag} {given others : Given}
    (h : Given.AgreeBut flag given others) : Given.AgreeBut flag others given :=
  fun other hother => (h other hother).symm

/-- A flag that is added says nothing of the others. -/
theorem Given.agreeBut_cons (flag : Flag) (value : String) (given : Given) :
    Given.AgreeBut flag given ((flag, value) :: given) := by
  intro other hother
  have hkey : (other == flag) = false := beq_eq_false_iff_ne.mpr hother
  simp only [List.lookup_cons, hkey]

/-! ## Variables -/

/-- Add one flag from its variable, where it was not given. -/
def addVariable (environment : List (String × String)) (given : Given) (flag : Flag) :
    Except UsageError Given :=
  match flag.environmentName?.bind fun name => environment.lookup name with
  | some value => if given.any fun entry => entry.1 = flag then .ok given else accept given flag value
  | none => .ok given

/-- Variables are added for one flag after the other. -/
theorem withVariables_eq (environment : List (String × String)) (given : Given) :
    withVariables environment given = Flag.all.foldlM (addVariable environment) given := rfl

/-- One variable is added alike to settled flags that differ in a flag only for which no variable
stands, and leaves that flag alone. -/
theorem addVariable_agree {environment : List (String × String)} {flag added : Flag}
    (hflag : flag.environmentName? = none) {given others next : Given}
    (hagree : Given.AgreeBut flag given others) (h : addVariable environment given added = .ok next) :
    ∃ next', addVariable environment others added = .ok next' ∧ Given.AgreeBut flag next next' ∧
      next'.lookup flag = others.lookup flag := by
  unfold addVariable at h ⊢
  cases hvalue : added.environmentName?.bind fun name => environment.lookup name with
  | none =>
    simp only [hvalue, Except.ok.injEq] at h
    subst h
    exact ⟨others, rfl, hagree, rfl⟩
  | some value =>
    have hne : added ≠ flag := by
      rintro rfl
      rw [hflag] at hvalue
      exact absurd hvalue (by simp)
    simp only [hvalue, any_eq_isSome_lookup, hagree added hne] at h ⊢
    cases hlookup : given.lookup added with
    | some other =>
      simp only [hlookup, Option.isSome_some, if_true, Except.ok.injEq] at h
      subst h
      exact ⟨others, by simp, hagree, rfl⟩
    | none =>
      simp only [hlookup, Option.isSome_none, Bool.false_eq_true, if_false] at h ⊢
      obtain ⟨-, hcheck, rfl⟩ := accept_eq_ok_iff.mp h
      have hothers : others.lookup added = none := by rw [hagree added hne, hlookup]
      refine ⟨(added, value) :: others, accept_eq_ok_iff.mpr ⟨hothers, hcheck, rfl⟩, ?_,
        Given.agreeBut_cons added value others flag hne.symm⟩
      intro other hother
      simp only [List.lookup_cons, hagree other hother]

/-- Variables are added alike to settled flags that differ in a flag only for which no variable
stands, and leave that flag alone. -/
theorem withVariables_agree {environment : List (String × String)} {flag : Flag}
    (hflag : flag.environmentName? = none) {given others next : Given}
    (hagree : Given.AgreeBut flag given others) (h : withVariables environment given = .ok next) :
    ∃ next', withVariables environment others = .ok next' ∧ Given.AgreeBut flag next next' ∧
      next'.lookup flag = others.lookup flag := by
  rw [withVariables_eq] at h ⊢
  generalize Flag.all = flags at h ⊢
  induction flags generalizing given others with
  | nil =>
    simp only [List.foldlM_nil, pure, Except.pure, Except.ok.injEq] at h
    subst h
    exact ⟨others, rfl, hagree, rfl⟩
  | cons added flags ih =>
    rw [List.foldlM_cons] at h ⊢
    obtain ⟨between, hadd, hlater⟩ := bind_eq_ok_iff.mp h
    obtain ⟨between', hadd', hbetween, hkept⟩ := addVariable_agree hflag hagree hadd
    obtain ⟨next', hlater', hnext, hkept'⟩ := ih hbetween hlater
    exact ⟨next', bind_eq_ok_iff.mpr ⟨between', hadd', hlater'⟩, hnext, hkept'.trans hkept⟩

/-- Variables leave a flag alone for which no variable stands. -/
theorem lookup_withVariables {environment : List (String × String)} {flag : Flag}
    (hflag : flag.environmentName? = none) {given next : Given}
    (h : withVariables environment given = .ok next) : next.lookup flag = given.lookup flag := by
  obtain ⟨next', hnext', -, hkept⟩ := withVariables_agree hflag (fun _ _ => rfl) h
  rw [h, Except.ok.injEq] at hnext'
  rw [hnext', hkept]

/-! ## Whole lines -/

/-- A line is accepted when its flags can be settled and those that variables give can be added. -/
theorem parse_eq_ok_iff {environment : List (String × String)} {arguments : List String}
    {line : CommandLine} :
    parse environment arguments = .ok line ↔
      ∃ given rest all, readSettled ⟨[], none⟩ arguments = .ok (given, rest) ∧
        withVariables environment given = .ok all ∧ line = ofGiven all rest := by
  rw [parse_eq_readSettled]
  simp only [bind_eq_ok_iff, Prod.exists, Except.ok.injEq]
  constructor
  · rintro ⟨given, rest, hread, all, hall, rfl⟩
    exact ⟨given, rest, all, hread, hall, rfl⟩
  · rintro ⟨given, rest, all, hread, hall, rfl⟩
    exact ⟨given, rest, hread, all, hall, rfl⟩

end DumpReplay.CommandLine
