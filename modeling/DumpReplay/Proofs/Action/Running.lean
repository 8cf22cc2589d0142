import DumpReplay.Host.Process

/-!
# Running actions

What the steps that actions are built from do to a host, and how the outcome of a composed action
is taken apart: it comes from the outcomes of its parts, each on the host that the part before left.

Main results:

- `on_bind_eq_ok`, `on_bind_eq_error` : a sequence of actions, taken apart at its first action.
- `Keeps.bind`, `Keeps.forIn` : what each step keeps, a whole run keeps.
-/

namespace DumpReplay.Action

variable {α β γ : Type} {machine : Machine} {host after : Host}

/-! ## Single steps -/

@[simp] theorem on_pure (value : α) :
    (pure value : Action α).on machine host = (.ok value, host) := rfl

@[simp] theorem on_fail (failure : Failure) :
    (fail failure : Action α).on machine host = (.error failure, host) := rfl

@[simp] theorem on_read : (read : Action Machine).on machine host = (.ok machine, host) := rfl

@[simp] theorem on_get : (get : Action Host).on machine host = (.ok host, host) := rfl

@[simp] theorem on_set : (set after : Action Unit).on machine host = (.ok (), after) := rfl

@[simp] theorem on_files : files.on machine host = (.ok host.files, host) := rfl

@[simp] theorem on_look (question : FileTree → Location → α) :
    (look question).on machine host = (.ok (question host.files machine.workingDirectory), host) :=
  rfl

@[simp] theorem on_pathExists (path : Path) :
    (pathExists path).on machine host =
      (.ok (host.files.has machine.workingDirectory path), host) := rfl

@[simp] theorem on_setFiles (tree : FileTree) :
    (setFiles tree).on machine host = (.ok (), { host with files := tree }) := rfl

@[simp] theorem on_inform (text : String) :
    (inform text).on machine host =
      (.ok (), { host with log := host.log ++ [⟨.information, text⟩] }) := rfl

@[simp] theorem on_warn (text : String) :
    (warn text).on machine host =
      (.ok (), { host with log := host.log ++ [⟨.warning, text⟩] }) := rfl

@[simp] theorem on_printLine (text : String) :
    (printLine text).on machine host =
      (.ok (), { host with printed := host.printed ++ (text ++ "\n") }) := rfl

@[simp] theorem on_ofExcept (outcome : Except Failure α) :
    (ofExcept outcome).on machine host = (outcome, host) := by
  cases outcome <;> rfl

@[simp] theorem mapError_ok {ε ε' : Type} (convert : ε → ε') (value : α) :
    (Except.ok value : Except ε α).mapError convert = .ok value := rfl

@[simp] theorem mapError_error {ε ε' : Type} (convert : ε → ε') (error : ε) :
    (Except.error error : Except ε α).mapError convert = .error (convert error) := rfl

@[simp] theorem on_ofIo (outcome : Except IoError α) :
    (ofIo outcome).on machine host = (outcome.mapError .io, host) := by
  cases outcome <;> rfl

/-! ## Sequences -/

/-- A sequence runs its second action on what the first one leaves, unless the first one fails. -/
theorem on_bind (first : Action α) (next : α → Action β) :
    (first >>= next).on machine host =
      match first.on machine host with
      | (.ok value, after) => (next value).on machine after
      | (.error failure, after) => (.error failure, after) := by
  unfold on ReaderT.run ExceptT.run
  simp only [bind, ReaderT.bind, ExceptT.bind, ExceptT.mk, StateT.bind, ExceptT.bindCont]
  rcases first machine host with ⟨outcome, after⟩
  cases outcome <;> rfl

/-- A sequence whose first action succeeds is its second action, on what the first one leaves. -/
theorem on_bind_of_ok {first : Action α} {value : α} (next : α → Action β)
    (h : first.on machine host = (.ok value, after)) :
    (first >>= next).on machine host = (next value).on machine after := by
  rw [on_bind, h]

/-- A sequence whose first action fails, fails with it. -/
theorem on_bind_of_error {first : Action α} {failure : Failure} (next : α → Action β)
    (h : first.on machine host = (.error failure, after)) :
    (first >>= next).on machine host = (.error failure, after) := by
  rw [on_bind, h]

/-- A sequence ends well if both of its actions do. -/
theorem on_bind_eq_ok {first : Action α} {next : α → Action β} {result : β} :
    (first >>= next).on machine host = (.ok result, after) ↔
      ∃ value middle, first.on machine host = (.ok value, middle) ∧
        (next value).on machine middle = (.ok result, after) := by
  rw [on_bind]
  rcases first.on machine host with ⟨outcome, middle⟩
  cases outcome with
  | ok value =>
    constructor
    · intro h
      exact ⟨value, middle, rfl, h⟩
    · rintro ⟨_, _, hfirst, hnext⟩
      cases hfirst
      exact hnext
  | error failure => simp

/-- A sequence fails if one of its actions does. -/
theorem on_bind_eq_error {first : Action α} {next : α → Action β} {failure : Failure} :
    (first >>= next).on machine host = (.error failure, after) ↔
      first.on machine host = (.error failure, after) ∨
        ∃ value middle, first.on machine host = (.ok value, middle) ∧
          (next value).on machine middle = (.error failure, after) := by
  rw [on_bind]
  rcases first.on machine host with ⟨outcome, middle⟩
  cases outcome with
  | ok value =>
    constructor
    · intro h
      exact .inr ⟨value, middle, rfl, h⟩
    · rintro (hfirst | ⟨_, _, hfirst, hnext⟩)
      · simp at hfirst
      · cases hfirst
        exact hnext
  | error failure' => simp

/-! ## What actions keep -/

/-- An action keeps a view of the host if the view is the same behind every run of the action,
however the run ends. -/
def Keeps (view : Host → γ) (action : Action α) : Prop :=
  ∀ machine host, view (action.on machine host).2 = view host

namespace Keeps

variable {view : Host → γ}

/-- What an action keeps is the same behind a run of it. -/
theorem eq {action : Action α} (h : Keeps view action) {outcome : Except Failure α}
    (hrun : action.on machine host = (outcome, after)) : view after = view host := by
  have hview := h machine host
  rwa [hrun] at hview

/-- A run of an action that keeps a view ends well or fails, and the view is the same either way. -/
theorem ok_or_error {action : Action α} (h : Keeps view action) (machine : Machine)
    (host : Host) :
    (∃ value after, action.on machine host = (.ok value, after) ∧ view after = view host) ∨
      ∃ failure after, action.on machine host = (.error failure, after) ∧
        view after = view host := by
  rcases hrun : action.on machine host with ⟨outcome, after⟩
  cases outcome with
  | ok value => exact .inl ⟨value, after, rfl, h.eq hrun⟩
  | error failure => exact .inr ⟨failure, after, rfl, h.eq hrun⟩

theorem pure (value : α) : Keeps view (Pure.pure value : Action α) :=
  fun _ _ => rfl

theorem fail (failure : Failure) : Keeps view (Action.fail failure : Action α) :=
  fun _ _ => rfl

theorem look (question : FileTree → Location → α) : Keeps view (Action.look question) :=
  fun _ _ => rfl

theorem files : Keeps view Action.files :=
  fun _ _ => rfl

theorem read : Keeps view (MonadReader.read : Action Machine) :=
  fun _ _ => rfl

theorem ofExcept (outcome : Except Failure α) : Keeps view (Action.ofExcept outcome) := by
  intro machine host
  rw [on_ofExcept]

theorem ofIo (outcome : Except IoError α) : Keeps view (Action.ofIo outcome) := by
  intro machine host
  rw [on_ofIo]

/-- What both actions of a sequence keep, the sequence keeps. -/
theorem bind {first : Action α} {next : α → Action β} (hfirst : Keeps view first)
    (hnext : ∀ value, Keeps view (next value)) : Keeps view (first >>= next) := by
  intro machine host
  rw [on_bind]
  have hview := hfirst machine host
  rcases hrun : first.on machine host with ⟨outcome, after⟩
  rw [hrun] at hview
  cases outcome with
  | ok value => exact (hnext value machine after).trans hview
  | error failure => exact hview

/-- What an action keeps, an attempt at it keeps. -/
theorem attempt {action : Action α} (h : Keeps view action) :
    Keeps view (Action.attempt action) := by
  intro machine host
  rw [run_attempt]
  exact h machine host

theorem ite {condition : Prop} [Decidable condition] {yes no : Action α} (hyes : Keeps view yes)
    (hno : Keeps view no) : Keeps view (if condition then yes else no) := by
  split
  · exact hyes
  · exact hno

/-- What every step of a loop keeps, the loop keeps. -/
theorem forIn {σ : Type} {step : β → σ → Action (ForInStep σ)}
    (hstep : ∀ item state, Keeps view (step item state)) (items : List β) (state : σ) :
    Keeps view (ForIn.forIn items state step) := by
  induction items generalizing state with
  | nil => exact Keeps.pure state
  | cons item items ih =>
    rw [List.forIn_cons]
    refine Keeps.bind (hstep item state) fun outcome => ?_
    cases outcome with
    | done state => exact Keeps.pure state
    | yield state => exact ih state

theorem filterAuxM {question : β → Action Bool} (hquestion : ∀ item, Keeps view (question item))
    (items kept : List β) : Keeps view (items.filterAuxM question kept) := by
  induction items generalizing kept with
  | nil => exact Keeps.pure kept
  | cons item items ih => exact Keeps.bind (hquestion item) fun keep => ih _

/-- What every question of a selection keeps, the selection keeps. -/
theorem filterM {question : β → Action Bool} (hquestion : ∀ item, Keeps view (question item))
    (items : List β) : Keeps view (items.filterM question) :=
  Keeps.bind (filterAuxM hquestion items []) fun _ => Keeps.pure _

end Keeps

end DumpReplay.Action
