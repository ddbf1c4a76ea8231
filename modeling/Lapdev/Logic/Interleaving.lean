import Lapdev.Logic.Program
import Lapdev.Logic.Run

/-!
# Interleaved programs

Some programs that share a state, each of which takes one statement at a time. A statement is
atomic, so this is the granularity at which programs without a common transaction see each other.
`Processes.Step` is the step relation, and a run of it is an interleaving.
-/

namespace Programs

universe u v

variable {σ ε α β : Type u} {I : Type v}

namespace Program

/-- The next statement of a program, and what is left of the program; `none` if there is nothing
left. -/
def advance : Program σ ε α → σ → Option (Program σ ε α × σ)
  | done _, _ => none
  | fail _, _ => none
  | stmt f next, s =>
    match f s with
    | .ok (b, s') => some (next b, s')
    | .error e => some (fail e, s)

@[simp] theorem advance_pure (a : α) (s : σ) : (pure a : Program σ ε α).advance s = none := rfl

/-- The first statement of a sequence is a write that succeeds. -/
theorem advance_write_bind {f : σ → Except ε σ} {g : PUnit → Program σ ε α} {s s' : σ}
    (h : f s = .ok s') : (write f >>= g).advance s = some (g ⟨⟩, s') := by
  change (stmt (fun s => (f s).map fun s' => (⟨⟩, s')) fun b => (done b).bind g).advance s = _
  simp only [advance, h, Except.map]
  rfl

/-- A program runs its next statement, and then what is left of it. -/
theorem run_of_advance {m m' : Program σ ε α} {s s' : σ} (h : m.advance s = some (m', s')) :
    m.run s = m'.run s' := by
  cases m with
  | done a => cases h
  | fail e => cases h
  | stmt f next =>
    rw [run]
    cases hf : f s with
    | ok p =>
      rw [advance, hf] at h
      obtain ⟨rfl, rfl⟩ := Prod.mk.inj (Option.some.inj h)
      rfl
    | error e =>
      rw [advance, hf] at h
      obtain ⟨rfl, rfl⟩ := Prod.mk.inj (Option.some.inj h)
      rfl

end Program

/-- A state, and what each process has left to run on it. -/
structure Processes (σ ε α : Type u) (I : Type v) where
  state : σ
  programs : I → Program σ ε α

namespace Processes

variable [DecidableEq I]

/-- The processes after one of them has taken its next statement; `none` if it has none left. -/
def next (sys : Processes σ ε α I) (i : I) : Option (Processes σ ε α I) :=
  ((sys.programs i).advance sys.state).map fun p => ⟨p.2, Function.update sys.programs i p.1⟩

/-- One process takes its next statement. -/
def Step (sys : Processes σ ε α I) (i : I) (sys' : Processes σ ε α I) : Prop :=
  sys.next i = some sys'

/-- All processes have come to an end without an error. -/
def Finished (sys : Processes σ ε α I) : Prop := ∀ i, ∃ a, sys.programs i = .done a

/-- What a step does: the next statement of the process moves the state, and the other processes
stay where they are. -/
theorem step_iff {sys sys' : Processes σ ε α I} {i : I} :
    Step sys i sys' ↔ ∃ m s, (sys.programs i).advance sys.state = some (m, s) ∧
      sys' = ⟨s, Function.update sys.programs i m⟩ := by
  rw [Step, next, Option.map_eq_some_iff]
  constructor
  · rintro ⟨⟨m, s⟩, h, rfl⟩
    exact ⟨m, s, h, rfl⟩
  · rintro ⟨m, s, h, rfl⟩
    exact ⟨(m, s), h, rfl⟩

end Processes

end Programs
