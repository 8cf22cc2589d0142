import DumpReplay.Proofs.Action.Running
import Mathlib.Data.List.Forall2

/-!
# Actions side by side

Two actions match if they run side by side: on alike trees both end well with related values, or both
fail with related failures, and either way they print the same and leave alike trees.  The machines
that they run on may differ, and so may the logs.

Main results:

- `Matches.bind` : sequences match if their parts do.
- `Matches.forIn` : so do loops over related lists.
-/

namespace DumpReplay.Action

variable {α β γ δ : Type}

/-! ## Two runs -/

/-- Two runs end alike: both well, or both in failure. -/
inductive EndAlike (values : α → β → Prop) (failures : Failure → Failure → Prop) :
    Except Failure α → Except Failure β → Prop
  | ok {value : α} {value' : β} (h : values value value') :
    EndAlike values failures (.ok value) (.ok value')
  | error {failure failure' : Failure} (h : failures failure failure') :
    EndAlike values failures (.error failure) (.error failure')

/-- Two runs are at hosts with alike trees, and since their starts they have printed the same and made
no scratch directory. -/
structure Alongside (alike : FileTree → FileTree → Prop) (start start' host host' : Host) : Prop where
  files : alike host.files host'.files
  printed : ∃ text, host.printed = start.printed ++ text ∧ host'.printed = start'.printed ++ text
  scratches : host.scratches = start.scratches
  scratches' : host'.scratches = start'.scratches

/-- Two actions match if their runs stay side by side and end alike. -/
def Matches (machine machine' : Machine) (alike : FileTree → FileTree → Prop)
    (values : α → β → Prop) (failures : Failure → Failure → Prop) (action : Action α)
    (action' : Action β) : Prop :=
  ∀ start start' host host', Alongside alike start start' host host' →
    EndAlike values failures (action.on machine host).1 (action'.on machine' host').1 ∧
      Alongside alike start start' (action.on machine host).2 (action'.on machine' host').2

variable {machine machine' : Machine} {alike : FileTree → FileTree → Prop}
variable {start start' host host' : Host}

theorem EndAlike.mono {values more : α → β → Prop} {failures most : Failure → Failure → Prop}
    {outcome : Except Failure α} {outcome' : Except Failure β}
    (h : EndAlike values failures outcome outcome')
    (hvalues : ∀ value value', values value value' → more value value')
    (hfailures : ∀ failure failure', failures failure failure' → most failure failure') :
    EndAlike more most outcome outcome' := by
  cases h with
  | ok h => exact .ok (hvalues _ _ h)
  | error h => exact .error (hfailures _ _ h)

/-- Runs that end with the same are the same in their ends. -/
theorem EndAlike.eq {outcome outcome' : Except Failure α} (h : EndAlike Eq Eq outcome outcome') :
    outcome = outcome' := by
  cases h with
  | ok h => rw [h]
  | error h => rw [h]

/-- Two runs start side by side. -/
theorem Alongside.refl (h : alike host.files host'.files) : Alongside alike host host' host host' :=
  ⟨h, ⟨"", by simp, by simp⟩, rfl, rfl⟩

namespace Matches

variable {values : α → β → Prop} {results : γ → δ → Prop} {failures : Failure → Failure → Prop}

theorem mono {more : α → β → Prop} {most : Failure → Failure → Prop} {action : Action α}
    {action' : Action β} (h : Matches machine machine' alike values failures action action')
    (hvalues : ∀ value value', values value value' → more value value')
    (hfailures : ∀ failure failure', failures failure failure' → most failure failure') :
    Matches machine machine' alike more most action action' := by
  intro start start' host host' halong
  obtain ⟨hend, hbehind⟩ := h _ _ _ _ halong
  exact ⟨hend.mono hvalues hfailures, hbehind⟩

/-! ## Single steps -/

theorem pure {value : α} {value' : β} (h : values value value') :
    Matches machine machine' alike values failures (Pure.pure value) (Pure.pure value') :=
  fun _ _ _ _ halong => ⟨.ok h, halong⟩

theorem fail {failure failure' : Failure} (h : failures failure failure') :
    Matches machine machine' alike values failures (Action.fail failure) (Action.fail failure') :=
  fun _ _ _ _ halong => ⟨.error h, halong⟩

/-- Questions match if alike trees have related answers. -/
theorem look {question : FileTree → Location → α} {question' : FileTree → Location → β}
    (h : ∀ tree tree', alike tree tree' →
      values (question tree machine.workingDirectory) (question' tree' machine'.workingDirectory)) :
    Matches machine machine' alike values failures (Action.look question) (Action.look question') :=
  fun _ _ _ _ halong => ⟨.ok (h _ _ halong.files), halong⟩

theorem ofExcept_same (outcome : Except Failure α) :
    Matches machine machine' alike Eq Eq (Action.ofExcept outcome) (Action.ofExcept outcome) := by
  cases outcome with
  | ok value => exact pure rfl
  | error failure => exact fail rfl

theorem ofIo_same (outcome : Except IoError α) :
    Matches machine machine' alike Eq Eq (Action.ofIo outcome) (Action.ofIo outcome) := by
  cases outcome with
  | ok value => exact pure rfl
  | error cause => exact fail rfl

/-- The log does not count. -/
theorem record (severity severity' : Severity) (text text' : String) :
    Matches machine machine' alike Eq failures (Action.record severity text)
      (Action.record severity' text') :=
  fun _ _ _ _ halong =>
    ⟨.ok rfl, halong.files, halong.printed, halong.scratches, halong.scratches'⟩

/-- What is printed has to be the same. -/
theorem printLine (text : String) :
    Matches machine machine' alike Eq failures (Action.printLine text) (Action.printLine text) := by
  intro start start' host host' halong
  obtain ⟨before, hprinted, hprinted'⟩ := halong.printed
  refine ⟨.ok rfl, halong.files, ⟨before ++ (text ++ "\n"), ?_, ?_⟩, halong.scratches,
    halong.scratches'⟩
  · rw [on_printLine, hprinted, String.append_assoc]
  · rw [on_printLine, hprinted', String.append_assoc]

theorem setFiles {tree tree' : FileTree} (h : alike tree tree') :
    Matches machine machine' alike Eq failures (Action.setFiles tree) (Action.setFiles tree') :=
  fun _ _ _ _ halong => ⟨.ok rfl, h, halong.printed, halong.scratches, halong.scratches'⟩

/-! ## Sequences -/

/-- Sequences match if their first actions do, and what follows does for related values. -/
theorem bind {first : Action α} {first' : Action β} {next : α → Action γ} {next' : β → Action δ}
    (hfirst : Matches machine machine' alike values failures first first')
    (hnext : ∀ value value', values value value' →
      Matches machine machine' alike results failures (next value) (next' value')) :
    Matches machine machine' alike results failures (first >>= next) (first' >>= next') := by
  intro start start' host host' halong
  obtain ⟨hend, hbehind⟩ := hfirst _ _ _ _ halong
  rcases hrun : first.on machine host with ⟨outcome, after⟩
  rcases hrun' : first'.on machine' host' with ⟨outcome', after'⟩
  rw [hrun, hrun'] at hend hbehind
  cases hend with
  | ok hvalues =>
    rw [on_bind_of_ok _ hrun, on_bind_of_ok _ hrun']
    exact hnext _ _ hvalues _ _ _ _ hbehind
  | error hfailures =>
    rw [on_bind_of_error _ hrun, on_bind_of_error _ hrun']
    exact ⟨.error hfailures, hbehind⟩

/-- Sequences that start with the same value go on with it. -/
theorem bind_eq {first first' : Action α} {next : α → Action γ} {next' : α → Action δ}
    (hfirst : Matches machine machine' alike Eq failures first first')
    (hnext : ∀ value, Matches machine machine' alike results failures (next value) (next' value)) :
    Matches machine machine' alike results failures (first >>= next) (first' >>= next') :=
  bind hfirst fun value value' hsame => by
    rw [← hsame]
    exact hnext value

theorem ite {condition : Prop} [Decidable condition] {yes no : Action α} {yes' no' : Action β}
    (hyes : Matches machine machine' alike values failures yes yes')
    (hno : Matches machine machine' alike values failures no no') :
    Matches machine machine' alike values failures (if condition then yes else no)
      (if condition then yes' else no') := by
  split
  · exact hyes
  · exact hno

/-- Loops over related lists match if their steps do. -/
theorem forIn {items : List α} {items' : List β} {step : α → PUnit → Action (ForInStep PUnit)}
    {step' : β → PUnit → Action (ForInStep PUnit)} (hitems : List.Forall₂ values items items')
    (hstep : ∀ item item', values item item' →
      Matches machine machine' alike Eq failures (step item ⟨⟩) (step' item' ⟨⟩)) :
    Matches machine machine' alike Eq failures (ForIn.forIn items PUnit.unit step)
      (ForIn.forIn items' PUnit.unit step') := by
  induction hitems with
  | nil => exact pure rfl
  | cons hitem _ ih =>
    rw [List.forIn_cons, List.forIn_cons]
    refine bind_eq (hstep _ _ hitem) fun outcome => ?_
    cases outcome with
    | done state => exact pure rfl
    | yield state => exact ih

/-- Loops over the same list match if their steps do. -/
theorem forIn_same {items : List α} {step step' : α → PUnit → Action (ForInStep PUnit)}
    (hstep : ∀ item, Matches machine machine' alike Eq failures (step item ⟨⟩) (step' item ⟨⟩)) :
    Matches machine machine' alike Eq failures (ForIn.forIn items PUnit.unit step)
      (ForIn.forIn items PUnit.unit step') := by
  have hitems : List.Forall₂ Eq items items := List.forall₂_same.2 fun _ _ => rfl
  refine forIn hitems ?_
  rintro item _ rfl
  exact hstep item

theorem filterAuxM {question question' : α → Action Bool}
    (hquestion : ∀ item, Matches machine machine' alike Eq failures (question item) (question' item))
    (items kept : List α) :
    Matches machine machine' alike Eq failures (items.filterAuxM question kept)
      (items.filterAuxM question' kept) := by
  induction items generalizing kept with
  | nil => exact pure rfl
  | cons item items ih => exact bind_eq (hquestion item) fun keep => ih _

/-- Selections match if their questions do. -/
theorem filterM {question question' : α → Action Bool}
    (hquestion : ∀ item, Matches machine machine' alike Eq failures (question item) (question' item))
    (items : List α) :
    Matches machine machine' alike Eq failures (items.filterM question) (items.filterM question') :=
  bind_eq (filterAuxM hquestion items []) fun _ => pure rfl

end Matches

end DumpReplay.Action
