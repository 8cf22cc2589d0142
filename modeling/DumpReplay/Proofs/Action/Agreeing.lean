import DumpReplay.Proofs.Action.Changing

/-!
# Actions that see the same

Two actions agree on alike trees if they give related values there, whatever else is different.  What
only looks at places where the trees are alike agrees with itself.

Main results:

- `Agrees.bind` : sequences agree where what follows their first action does, if that only looks.
-/

namespace DumpReplay.Action

variable {α β γ : Type} {machine : Machine} {alike : FileTree → FileTree → Prop}

/-- Actions agree on alike trees if the values that they give there are related. -/
def Agrees (machine : Machine) (alike : FileTree → FileTree → Prop) (related : α → β → Prop)
    (action : Action α) (action' : Action β) : Prop :=
  ∀ (host host' after after' : Host) (value : α) (value' : β), alike host.files host'.files →
    action.on machine host = (.ok value, after) →
    action'.on machine host' = (.ok value', after') → related value value'

namespace Agrees

variable {related : β → γ → Prop}

theorem pure {value : β} {value' : γ} (h : related value value') :
    Agrees machine alike related (Pure.pure value : Action β) (Pure.pure value' : Action γ) := by
  intro host host' after after' one other _ hone hother
  rwa [← Except.ok.inj (Prod.mk.inj hone).1, ← Except.ok.inj (Prod.mk.inj hother).1]

/-- What fails gives no value. -/
theorem fail (failure : Failure) (action : Action γ) :
    Agrees machine alike related (Action.fail failure : Action β) action := by
  intro host host' after after' one other _ hone _
  exact absurd (Prod.mk.inj hone).1 (by simp)

/-- There is only one value of no interest. -/
theorem unit (action action' : Action Unit) : Agrees machine alike Eq action action' :=
  fun _ _ _ _ _ _ _ _ _ => rfl

/-- A question agrees with itself where it has the same answer. -/
theorem look {question : FileTree → Location → α}
    (h : ∀ tree tree', alike tree tree' →
      question tree machine.workingDirectory = question tree' machine.workingDirectory) :
    Agrees machine alike Eq (Action.look question) (Action.look question) := by
  intro host host' after after' one other halike hone hother
  rw [on_look] at hone hother
  rw [← Except.ok.inj (Prod.mk.inj hone).1, ← Except.ok.inj (Prod.mk.inj hother).1, h _ _ halike]

/-- What follows an action that leaves the files as they are need agree only for the values that the
action can give. -/
theorem bind_of_gives {property : α → Prop} {first : Action α} {next : α → Action β}
    {next' : α → Action γ} (hlooks : Looks first) (hfirst : Agrees machine alike Eq first first)
    (hgives : Gives machine property first)
    (hnext : ∀ value, property value → Agrees machine alike related (next value) (next' value)) :
    Agrees machine alike related (first >>= next) (first >>= next') := by
  intro host host' after after' result result' halike hresult hresult'
  obtain ⟨value, middle, hvalue, hresult⟩ := on_bind_eq_ok.mp hresult
  obtain ⟨value', middle', hvalue', hresult'⟩ := on_bind_eq_ok.mp hresult'
  obtain rfl := hfirst _ _ _ _ _ _ halike hvalue hvalue'
  refine hnext value (hgives _ _ _ hvalue) _ _ _ _ _ _ ?_ hresult hresult'
  rwa [hlooks.keepsFiles.eq hvalue, hlooks.keepsFiles.eq hvalue']

/-- Sequences agree where what follows their first action does, if that leaves the files as they
are. -/
theorem bind {first : Action α} {next : α → Action β} {next' : α → Action γ} (hlooks : Looks first)
    (hfirst : Agrees machine alike Eq first first)
    (hnext : ∀ value, Agrees machine alike related (next value) (next' value)) :
    Agrees machine alike related (first >>= next) (first >>= next') :=
  bind_of_gives hlooks hfirst (.trivial first) fun value _ => hnext value

theorem ite {condition : Prop} [Decidable condition] {yes no : Action β} {yes' no' : Action γ}
    (hyes : Agrees machine alike related yes yes') (hno : Agrees machine alike related no no') :
    Agrees machine alike related (if condition then yes else no)
      (if condition then yes' else no') := by
  split
  · exact hyes
  · exact hno

end Agrees

end DumpReplay.Action
