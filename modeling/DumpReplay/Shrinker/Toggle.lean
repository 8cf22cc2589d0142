/-!
# Shrinker toggles

Whether renaming, optimisation and shrinking are left to the dump's own rules or forced.

Main results:

- `directivesOf_eq`, `mem_directivesOf_iff` : which rules belong to the phases in a given state.
-/

namespace DumpReplay.Shrinker

/-- The forced state of one of the shrinker's phases. -/
inductive Toggle where
  /-- As the rules of the dump say. -/
  | default
  /-- On, whatever the rules say. -/
  | forceEnable
  /-- Off, whatever the rules say. -/
  | forceDisable
deriving DecidableEq, Repr, Inhabited

namespace Toggle

/-- All states, in the order in which they are offered. -/
def all : List Toggle :=
  [default, forceEnable, forceDisable]

/-- The word for a state. -/
def name : Toggle → String
  | default => "default"
  | forceEnable => "force-enable"
  | forceDisable => "force-disable"

/-- The state with a given name. -/
def ofName? (wanted : String) : Option Toggle :=
  all.find? fun toggle => toggle.name == wanted

/-- Every state is found by its name. -/
@[simp] theorem ofName?_name (toggle : Toggle) : ofName? toggle.name = some toggle := by
  cases toggle <;> decide

end Toggle

/-- The forced states of the shrinker's three phases. -/
structure Toggles where
  /-- Renaming. -/
  minify : Toggle
  /-- Optimisation. -/
  optimize : Toggle
  /-- The removal of unused code. -/
  shrink : Toggle
deriving DecidableEq, Repr, Inhabited

namespace Toggles

/-- Nothing is forced. -/
def unforced : Toggles :=
  ⟨.default, .default, .default⟩

/-- The three states, each with the rule that switches its phase off. -/
def directives (toggles : Toggles) : List (Toggle × String) :=
  [(toggles.minify, "-dontobfuscate"), (toggles.optimize, "-dontoptimize"),
    (toggles.shrink, "-dontshrink")]

/-- The rules that belong to the phases in a given state, in order. -/
def directivesOf (toggles : Toggles) (state : Toggle) : List String :=
  (toggles.directives.filter fun entry => entry.1 = state).map Prod.snd

/-- The rules for a state stand in the order of the phases, each exactly if its phase is in that
state. -/
theorem directivesOf_eq (toggles : Toggles) (state : Toggle) :
    toggles.directivesOf state =
      (if toggles.minify = state then ["-dontobfuscate"] else []) ++
        ((if toggles.optimize = state then ["-dontoptimize"] else []) ++
          if toggles.shrink = state then ["-dontshrink"] else []) := by
  unfold directivesOf directives
  by_cases hminify : toggles.minify = state <;> by_cases hoptimize : toggles.optimize = state <;>
    by_cases hshrink : toggles.shrink = state <;> simp [hminify, hoptimize, hshrink]

/-- A rule is one of those for a state exactly if its phase is in that state. -/
theorem mem_directivesOf_iff {toggles : Toggles} {state : Toggle} {directive : String} :
    directive ∈ toggles.directivesOf state ↔
      toggles.minify = state ∧ directive = "-dontobfuscate" ∨
        toggles.optimize = state ∧ directive = "-dontoptimize" ∨
          toggles.shrink = state ∧ directive = "-dontshrink" := by
  simp only [directivesOf_eq, List.mem_append, List.mem_ite_nil_right, List.mem_singleton]

/-- There are no rules for a state exactly if no phase is in it. -/
theorem directivesOf_eq_nil_iff {toggles : Toggles} {state : Toggle} :
    toggles.directivesOf state = [] ↔
      toggles.minify ≠ state ∧ toggles.optimize ≠ state ∧ toggles.shrink ≠ state := by
  rw [directivesOf_eq]
  by_cases hminify : toggles.minify = state <;> by_cases hoptimize : toggles.optimize = state <;>
    by_cases hshrink : toggles.shrink = state <;> simp [hminify, hoptimize, hshrink]

end Toggles

end DumpReplay.Shrinker
