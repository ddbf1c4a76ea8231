import Mathlib.Logic.Function.Basic

/-!
# Runs of a step relation

`Run step s as s'` is a finite run from `s` to `s'` taking the actions `as` in order. The two
rules every safety argument of this development goes through are `Run.invariant`, an invariant
each step preserves holds at the end of a run, and `Run.invariant_of_guard`, the same where each
step meets a condition on the state before it. The processes of a system are a function from their
names to their states, `none` for a process that has not started; `update_eq_some` reads such a
function after one process has taken a step.
-/

namespace Runs

variable {S A : Type*}

/-- A finite run of the step relation `step`, with the actions it takes. -/
inductive Run (step : S → A → S → Prop) : S → List A → S → Prop
  | nil {s : S} : Run step s [] s
  | cons {s s' s'' : S} {a : A} {as : List A} :
      step s a s' → Run step s' as s'' → Run step s (a :: as) s''

/-- The step relation `step` restricted to the steps whose action meets `guard` in the state
before the step. -/
def Guarded (step : S → A → S → Prop) (guard : S → A → Prop) (s : S) (a : A) (s' : S) : Prop :=
  step s a s' ∧ guard s a

/-- `s` ends a run that starts in a state of `init`. -/
def Reachable (step : S → A → S → Prop) (init : S → Prop) (s : S) : Prop :=
  ∃ s₀ as, init s₀ ∧ Run step s₀ as s

variable {step : S → A → S → Prop}

/-- A run whose steps are all steps of a wider relation is a run of that relation. -/
theorem Run.mono {step' : S → A → S → Prop} (h : ∀ {s a s'}, step s a s' → step' s a s')
    {s s' : S} {as : List A} (hrun : Run step s as s') : Run step' s as s' := by
  induction hrun with
  | nil => exact .nil
  | cons hs _ ih => exact .cons (h hs) ih

/-- A run goes on with a run from where it ended. -/
theorem Run.append {s s' s'' : S} {as bs : List A} (hrun : Run step s as s')
    (hrest : Run step s' bs s'') : Run step s (as ++ bs) s'' := by
  induction hrun with
  | nil => exact hrest
  | cons hs _ ih => exact .cons hs (ih hrest)

/-- What every step preserves holds at the end of every run. -/
theorem Run.invariant (inv : S → Prop) (hstep : ∀ s a s', step s a s' → inv s → inv s')
    {s s' : S} {as : List A} (hrun : Run step s as s') (h : inv s) : inv s' := by
  induction hrun with
  | nil => exact h
  | cons hs _ ih => exact ih (hstep _ _ _ hs h)

/-- What every step that meets the guard preserves holds at the end of every guarded run. -/
theorem Run.invariant_of_guard (inv : S → Prop) {guard : S → A → Prop}
    (hstep : ∀ s a s', step s a s' → guard s a → inv s → inv s')
    {s s' : S} {as : List A} (hrun : Run (Guarded step guard) s as s') (h : inv s) : inv s' :=
  Run.invariant inv (fun _ _ _ hs => hstep _ _ _ hs.1 hs.2) hrun h

/-- What every step preserves about the state and a record of the actions taken so far holds of the
record of a whole run. -/
theorem Run.invariant_foldl {T : Type*} (record : T → A → T) (inv : S → T → Prop)
    (hstep : ∀ s a s' t, step s a s' → inv s t → inv s' (record t a))
    {s s' : S} {as : List A} (hrun : Run step s as s') {t : T} (h : inv s t) :
    inv s' (as.foldl record t) := by
  induction hrun generalizing t with
  | nil => exact h
  | cons hs _ ih => exact ih (hstep _ _ _ _ hs h)

/-- Where a step leads to a bad state exactly from a bad one or against the guard, a run ends in a
good state exactly if it keeps the guard throughout. -/
theorem Run.not_bad_iff (inv bad : S → Prop) {guard : S → A → Prop}
    (hinv : ∀ s a s', step s a s' → inv s → inv s')
    (hbad : ∀ s a s', step s a s' → inv s → (bad s' ↔ bad s ∨ ¬guard s a))
    {s s' : S} {as : List A} (hrun : Run step s as s') (h : inv s) (hgood : ¬bad s) :
    ¬bad s' ↔ Run (Guarded step guard) s as s' := by
  have hstays : ∀ {s s' as}, Run step s as s' → inv s → bad s → bad s' := by
    intro s s' as hrun h hs
    refine (Run.invariant (fun s => inv s ∧ bad s) (fun s a s' hstep hs => ?_) hrun ⟨h, hs⟩).2
    exact ⟨hinv s a s' hstep hs.1, (hbad s a s' hstep hs.1).2 (.inl hs.2)⟩
  constructor
  · intro hend
    induction hrun with
    | nil => exact .nil
    | @cons s s' s'' a as hstep hrest ih =>
      have h' := hinv s a s' hstep h
      have hgood' : ¬bad s' := fun hs => hend (hstays hrest h' hs)
      have hguard : guard s a := by
        by_contra hviolated
        exact hgood' ((hbad s a s' hstep h).2 (.inr hviolated))
      exact .cons ⟨hstep, hguard⟩ (ih h' hgood' hend)
  · intro hguarded
    refine (Run.invariant_of_guard (fun s => inv s ∧ ¬bad s) (fun s a s' hstep hguard hs => ?_)
      hguarded ⟨h, hgood⟩).2
    refine ⟨hinv s a s' hstep hs.1, fun hs' => ?_⟩
    rcases (hbad s a s' hstep hs.1).1 hs' with hs' | hviolated
    · exact hs.2 hs'
    · exact hviolated hguard

/-- A deterministic system's actions, taken one after the other, are a run. -/
theorem Run.of_foldl {next : S → A → S} (hnext : ∀ s a, step s a (next s a)) (as : List A) (s : S) :
    Run step s as (as.foldl next s) := by
  induction as generalizing s with
  | nil => exact .nil
  | cons a as ih => exact .cons (hnext s a) (ih (next s a))

/-- A reachable state satisfies every invariant of the initial states. -/
theorem Reachable.invariant (inv : S → Prop) {init : S → Prop} (hinit : ∀ s, init s → inv s)
    (hstep : ∀ s a s', step s a s' → inv s → inv s') {s : S}
    (h : Reachable step init s) : inv s := by
  obtain ⟨s₀, as, h₀, hrun⟩ := h
  exact Run.invariant inv hstep hrun (hinit _ h₀)

/-! ## Processes -/

variable {I P : Type*} [DecidableEq I]

/-- After a step of the process `i`, the process `i` is in its new state and every other one where
it was. -/
theorem update_eq_some {procs : I → Option P} {i j : I} {v : Option P} {p : P}
    (h : Function.update procs i v j = some p) :
    (j = i ∧ v = some p) ∨ (j ≠ i ∧ procs j = some p) := by
  by_cases hj : j = i
  · subst hj
    rw [Function.update_self] at h
    exact .inl ⟨rfl, h⟩
  · rw [Function.update_of_ne hj] at h
    exact .inr ⟨hj, h⟩

/-- A process other than the one that takes a step stays where it was. -/
theorem update_of_eq_some {procs : I → Option P} {i j : I} {v : Option P} {p : P} (hj : j ≠ i)
    (h : procs j = some p) : Function.update procs i v j = some p := by
  rw [Function.update_of_ne hj, h]

end Runs
