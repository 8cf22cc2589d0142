import DumpReplay.Proofs.Action.Matching

/-!
# How actions fail

An action fails only in a kind of ways if each of its steps does.  Looking, recording, printing,
replacing the files and attempts never fail.

Main results:

- `FailsOnly.bind`, `FailsOnly.forIn` : the failures of a sequence are those of its steps.
- `Matches.failsOnly` : actions that match and fail alike do so in the ways of the first one.
-/

namespace DumpReplay.Action

variable {α β : Type} {kind : Failure → Prop}

/-- An action fails only with failures of a kind. -/
def FailsOnly (kind : Failure → Prop) (action : Action α) : Prop :=
  ∀ machine host failure, (action.on machine host).1 = .error failure → kind failure

namespace FailsOnly

theorem mono {more : Failure → Prop} {action : Action α} (h : FailsOnly kind action)
    (hkind : ∀ failure, kind failure → more failure) : FailsOnly more action :=
  fun machine host failure hrun => hkind failure (h machine host failure hrun)

/-! ## Single steps -/

/-- What ends well on every machine fails in no way. -/
theorem of_ok {action : Action α} (h : ∀ machine host, ∃ value, (action.on machine host).1 = .ok value) :
    FailsOnly kind action := by
  intro machine host failure hrun
  obtain ⟨value, hvalue⟩ := h machine host
  rw [hvalue] at hrun
  exact absurd hrun (by simp)

theorem pure (value : α) : FailsOnly kind (Pure.pure value : Action α) :=
  .of_ok fun _ _ => ⟨value, rfl⟩

theorem look (question : FileTree → Location → α) : FailsOnly kind (Action.look question) :=
  .of_ok fun _ _ => ⟨_, rfl⟩

theorem inform (text : String) : FailsOnly kind (Action.inform text) :=
  .of_ok fun _ _ => ⟨(), rfl⟩

theorem warn (text : String) : FailsOnly kind (Action.warn text) :=
  .of_ok fun _ _ => ⟨(), rfl⟩

theorem printLine (text : String) : FailsOnly kind (Action.printLine text) :=
  .of_ok fun _ _ => ⟨(), rfl⟩

theorem setFiles (tree : FileTree) : FailsOnly kind (Action.setFiles tree) :=
  .of_ok fun _ _ => ⟨(), rfl⟩

theorem attempt (action : Action α) : FailsOnly kind (Action.attempt action) :=
  .of_ok fun _ _ => ⟨_, congrArg Prod.fst (run_attempt ..)⟩

theorem fail {failure : Failure} (h : kind failure) : FailsOnly kind (Action.fail failure : Action α) := by
  intro machine host _ hrun
  rw [on_fail, Except.error.injEq] at hrun
  exact hrun ▸ h

theorem ofExcept {outcome : Except Failure α} (h : ∀ failure, outcome = .error failure → kind failure) :
    FailsOnly kind (Action.ofExcept outcome) := by
  intro machine host failure hrun
  rw [on_ofExcept] at hrun
  exact h failure hrun

theorem ofIo (h : ∀ cause, kind (.io cause)) (outcome : Except IoError α) :
    FailsOnly kind (Action.ofIo outcome) := by
  cases outcome with
  | ok value => exact pure value
  | error cause => exact fail (h cause)

/-! ## Sequences -/

theorem bind {first : Action α} {next : α → Action β} (hfirst : FailsOnly kind first)
    (hnext : ∀ value, FailsOnly kind (next value)) : FailsOnly kind (first >>= next) := by
  intro machine host failure hrun
  have hkind := hfirst machine host
  rcases hmiddle : first.on machine host with ⟨outcome, middle⟩
  rw [hmiddle] at hkind
  cases outcome with
  | ok value =>
    rw [on_bind_of_ok _ hmiddle] at hrun
    exact hnext value machine middle failure hrun
  | error cause =>
    rw [on_bind_of_error _ hmiddle, Except.error.injEq] at hrun
    exact hkind failure (congrArg Except.error hrun)

/-- A sequence that fails in another way than its first action can has passed the first one. -/
theorem passed {first : Action α} {next : α → Action β} {machine : Machine} {host after : Host}
    {failure : Failure} (hfirst : FailsOnly kind first) (hfailure : ¬kind failure)
    (h : (first >>= next).on machine host = (.error failure, after)) :
    ∃ value middle, first.on machine host = (.ok value, middle) ∧
      (next value).on machine middle = (.error failure, after) := by
  rcases on_bind_eq_error.mp h with hfailed | hpassed
  · exact absurd (hfirst machine host failure (congrArg Prod.fst hfailed)) hfailure
  · exact hpassed

/-- What follows a look need only be considered for answers. -/
theorem bind_look {question : FileTree → Location → α} {next : α → Action β}
    (hnext : ∀ tree here, FailsOnly kind (next (question tree here))) :
    FailsOnly kind (Action.look question >>= next) := by
  intro machine host failure hrun
  rw [on_bind_of_ok _ (on_look question)] at hrun
  exact hnext _ _ machine host failure hrun

theorem ite {condition : Prop} [Decidable condition] {yes no : Action α}
    (hyes : FailsOnly kind yes) (hno : FailsOnly kind no) :
    FailsOnly kind (if condition then yes else no) := by
  split
  · exact hyes
  · exact hno

/-- The failures of a loop are those of its steps. -/
theorem forIn {σ : Type} {step : β → σ → Action (ForInStep σ)}
    (hstep : ∀ item state, FailsOnly kind (step item state)) (items : List β) (state : σ) :
    FailsOnly kind (ForIn.forIn items state step) := by
  induction items generalizing state with
  | nil => exact pure state
  | cons item items ih =>
    rw [List.forIn_cons]
    refine bind (hstep item state) fun outcome => ?_
    cases outcome with
    | done state => exact pure state
    | yield state => exact ih state

theorem filterAuxM {question : β → Action Bool}
    (hquestion : ∀ item, FailsOnly kind (question item)) (items kept : List β) :
    FailsOnly kind (items.filterAuxM question kept) := by
  induction items generalizing kept with
  | nil => exact pure kept
  | cons item items ih => exact bind (hquestion item) fun keep => ih _

/-- The failures of a selection are those of its questions. -/
theorem filterM {question : β → Action Bool} (hquestion : ∀ item, FailsOnly kind (question item))
    (items : List β) : FailsOnly kind (items.filterM question) :=
  bind (filterAuxM hquestion items []) fun _ => pure _

end FailsOnly

/-- Actions that match and fail with the same failures do so with those of the first one. -/
theorem Matches.failsOnly {machine machine' : Machine} {alike : FileTree → FileTree → Prop}
    {values : α → β → Prop} {action : Action α} {action' : Action β}
    (h : Matches machine machine' alike values Eq action action') (hkind : FailsOnly kind action) :
    Matches machine machine' alike values (fun failure failure' => failure = failure' ∧ kind failure)
      action action' := by
  intro start start' host host' halong
  obtain ⟨hend, hbehind⟩ := h _ _ _ _ halong
  refine ⟨?_, hbehind⟩
  have hfailure := hkind machine host
  rcases hrun : action.on machine host with ⟨outcome, after⟩
  rcases hrun' : action'.on machine' host' with ⟨outcome', after'⟩
  rw [hrun] at hfailure hend
  rw [hrun'] at hend
  cases hend with
  | ok hvalues => exact .ok hvalues
  | error hsame => exact .error ⟨hsame, hfailure _ rfl⟩

end DumpReplay.Action
