import Mathlib.Logic.Function.Basic

/-!
# Selectors

Objects are selected by their labels: by labels that have to be there (`Includes`), and by
requirements on single keys (`Requirement`). Of an object with one label a requirement holds exactly
if it admits the label (`Requirement.holds_single_iff`), and a selector that is not empty selects it
together with another object only if the other one has the value of the label too
(`Includes.exists_value`).
-/

namespace Selectors

variable {K V : Type*}

/-- The labels of an object. -/
abbrev Labels (K V : Type*) := K → Option V

/-- A requirement on the label of a key. -/
inductive Requirement (K V : Type*)
  | isIn (key : K) (values : List V)
  | notIn (key : K) (values : List V)
  | present (key : K)
  | absent (key : K)

namespace Requirement

/-- The requirement holds of labels. -/
def Holds (labels : Labels K V) : Requirement K V → Prop
  | isIn key values => ∃ value ∈ values, labels key = some value
  | notIn key values => ∀ value ∈ values, labels key ≠ some value
  | present key => labels key ≠ none
  | absent key => labels key = none

/-- The requirement admits one label. -/
def Admits (key : K) (value : V) : Requirement K V → Prop
  | isIn key' values => key' = key ∧ value ∈ values
  | notIn key' values => key' = key → value ∉ values
  | present key' => key' = key
  | absent key' => key' ≠ key

end Requirement

/-- The labels of a selector are among those of an object. -/
def Includes (selector labels : Labels K V) : Prop :=
  ∀ key value, selector key = some value → labels key = some value

theorem Includes.refl (labels : Labels K V) : Includes labels labels := fun _ _ h => h

variable [DecidableEq K] {key : K} {value : V}

/-- One label. -/
def single (key : K) (value : V) : Labels K V := Function.update (fun _ => none) key (some value)

theorem single_eq_some {key' : K} {value' : V} :
    single key value key' = some value' ↔ key' = key ∧ value' = value := by
  unfold single
  by_cases h : key' = key
  · rw [h, Function.update_self, Option.some.injEq]
    exact ⟨fun h => ⟨rfl, h.symm⟩, fun h => h.2.symm⟩
  · rw [Function.update_of_ne h]
    exact iff_of_false nofun fun h' => h h'.1

theorem single_eq_none {key' : K} : single key value key' = none ↔ key' ≠ key := by
  rw [Option.eq_none_iff_forall_ne_some]
  constructor
  · exact fun h heq => h value (single_eq_some.2 ⟨heq, rfl⟩)
  · exact fun h value' heq => h (single_eq_some.1 heq).1

/-- Of one label a requirement holds exactly if it admits the label. -/
theorem Requirement.holds_single_iff (requirement : Requirement K V) :
    requirement.Holds (single key value) ↔ requirement.Admits key value := by
  cases requirement with
  | isIn key' values =>
    constructor
    · rintro ⟨value', hmem, h⟩
      obtain ⟨hkey, rfl⟩ := single_eq_some.1 h
      exact ⟨hkey, hmem⟩
    · rintro ⟨hkey, hmem⟩
      exact ⟨value, hmem, single_eq_some.2 ⟨hkey, rfl⟩⟩
  | notIn key' values =>
    constructor
    · exact fun h hkey hmem => h value hmem (single_eq_some.2 ⟨hkey, rfl⟩)
    · intro h value' hmem heq
      obtain ⟨hkey, rfl⟩ := single_eq_some.1 heq
      exact h hkey hmem
  | present key' => exact (not_congr single_eq_none).trans not_not
  | absent key' => exact single_eq_none

/-- A selector that is not empty and selects one label selects nothing without its value. -/
theorem Includes.exists_value {selector labels : Labels K V} (h : Includes selector labels)
    (hsingle : Includes selector (single key value)) {key' : K} {value' : V}
    (hentry : selector key' = some value') : ∃ key, labels key = some value := by
  obtain ⟨-, rfl⟩ := single_eq_some.1 (hsingle key' value' hentry)
  exact ⟨key', h key' _ hentry⟩

end Selectors
