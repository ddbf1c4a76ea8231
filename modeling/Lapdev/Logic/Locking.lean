import Lapdev.Logic.Run

/-!
# Transactions with locks

Transactions that share a committed state, each of which takes one statement at a time and holds
locks until it ends. `Protocol.step` is what a statement of one transaction does; `Step` adds that a
statement waits until nobody else holds the locks it has taken afterwards.

The rule of this module is `Discipline.run`. A lock `k` protects the part of the state that `inv k`
is about if every statement keeps what a holder of `k` knows unless the transaction of the
statement holds `k` itself (`frame`), and if every statement keeps `inv k` given what its own
transaction knows about `k` (`own`). Then `inv k` holds in every state of every run, however the
statements interleave.
-/

namespace Locking

open Runs

variable {σ τ K I : Type*}

/-- What the transactions of a kind do. `step db t db' t'` is one statement of a transaction in the
state `t`, after which it is in the state `t'`, or over. -/
structure Protocol (σ τ K : Type*) where
  starts : σ → τ → Prop
  step : σ → τ → σ → Option τ → Prop
  holds : τ → K → Prop
  not_holds_of_starts : ∀ {db t k}, starts db t → ¬holds t k

/-- A committed state and the transactions on it. -/
structure System (σ τ I : Type*) where
  db : σ
  txns : I → Option τ

variable [DecidableEq I]

/-- A transaction starts, or takes a statement that leaves it with locks nobody else holds. -/
inductive Step (P : Protocol σ τ K) : System σ τ I → I → System σ τ I → Prop
  | start {sys : System σ τ I} {i : I} {t : τ} : sys.txns i = none → P.starts sys.db t →
      Step P sys i ⟨sys.db, Function.update sys.txns i (some t)⟩
  | statement {sys : System σ τ I} {i : I} {t : τ} {db : σ} {t' : Option τ} :
      sys.txns i = some t → P.step sys.db t db t' →
      (∀ u k, t' = some u → P.holds u k → ∀ j v, j ≠ i → sys.txns j = some v → ¬P.holds v k) →
      Step P sys i ⟨db, Function.update sys.txns i t'⟩

/-- Nobody holds a lock that somebody else holds. -/
def Exclusive (P : Protocol σ τ K) (sys : System σ τ I) : Prop :=
  ∀ i j t u k, sys.txns i = some t → sys.txns j = some u → P.holds t k → P.holds u k → i = j

variable {P : Protocol σ τ K} {sys sys' : System σ τ I} {i : I}

theorem Step.exclusive (h : Step P sys i sys') (hex : Exclusive P sys) : Exclusive P sys' := by
  cases h with
  | start hnone hstarts =>
    intro j j' t u k hj hj' ht hu
    rcases update_eq_some hj with ⟨-, heq⟩ | ⟨-, hj⟩
    · cases heq
      exact absurd ht (P.not_holds_of_starts hstarts)
    rcases update_eq_some hj' with ⟨-, heq⟩ | ⟨-, hj'⟩
    · cases heq
      exact absurd hu (P.not_holds_of_starts hstarts)
    exact hex j j' t u k hj hj' ht hu
  | statement hsome hstep hfree =>
    intro j j' t u k hj hj' ht hu
    rcases update_eq_some hj with ⟨rfl, htt⟩ | ⟨hne, hold⟩
    · rcases update_eq_some hj' with ⟨rfl, -⟩ | ⟨hne', hold'⟩
      · rfl
      · exact absurd hu (hfree t k htt ht j' u hne' hold')
    · rcases update_eq_some hj' with ⟨rfl, huu⟩ | ⟨-, hold'⟩
      · exact absurd ht (hfree u k huu hu j t hne hold)
      · exact hex j j' t u k hold hold' ht hu

/-- A proof that locks protect invariants: facts of the committed state and of a transaction that
need no lock, what a lock protects, and what the holder of a lock knows. -/
structure Discipline (P : Protocol σ τ K) where
  env : σ → Prop
  valid : σ → τ → Prop
  inv : K → σ → Prop
  knows : K → σ → τ → Prop
  start : ∀ {db t}, P.starts db t → env db → valid db t
  env_step : ∀ {db t db' t'}, P.step db t db' t' → env db → valid db t → env db'
  valid_step : ∀ {db t db' u}, P.step db t db' (some u) → env db → valid db t → valid db' u
  valid_frame : ∀ {db t db' t' u}, P.step db t db' t' → env db → valid db t → valid db u →
    valid db' u
  own : ∀ {k db t db' t'}, P.step db t db' t' → env db → valid db t → inv k db →
    (P.holds t k → knows k db t) →
    inv k db' ∧ ∀ u, t' = some u → P.holds u k → knows k db' u
  frame : ∀ {k db t db' t' u}, P.step db t db' t' → env db → valid db t → valid db u →
    ¬P.holds t k → P.holds u k → knows k db u → knows k db' u

/-- A state in which every lock protects its invariant. -/
structure Discipline.Protected (D : Discipline P) (sys : System σ τ I) : Prop where
  exclusive : Exclusive P sys
  env : D.env sys.db
  valid : ∀ i t, sys.txns i = some t → D.valid sys.db t
  inv : ∀ k, D.inv k sys.db
  knows : ∀ i t k, sys.txns i = some t → P.holds t k → D.knows k sys.db t

/-- A step keeps every lock's invariant. -/
theorem Discipline.step (D : Discipline P) (h : Step P sys i sys') (hp : D.Protected sys) :
    D.Protected sys' := by
  refine ⟨h.exclusive hp.exclusive, ?_, ?_, ?_, ?_⟩
  all_goals cases h with
  | start hnone hstarts => ?_
  | statement hsome hstep hfree => ?_
  · exact hp.env
  · exact D.env_step hstep hp.env (hp.valid _ _ hsome)
  · intro j u hj
    rcases update_eq_some hj with ⟨-, heq⟩ | ⟨-, hj⟩
    · cases heq
      exact D.start hstarts hp.env
    · exact hp.valid j u hj
  · intro j u hj
    rcases update_eq_some hj with ⟨-, rfl⟩ | ⟨-, hj⟩
    · exact D.valid_step hstep hp.env (hp.valid _ _ hsome)
    · exact D.valid_frame hstep hp.env (hp.valid _ _ hsome) (hp.valid j u hj)
  · exact hp.inv
  · exact fun k => (D.own hstep hp.env (hp.valid _ _ hsome) (hp.inv k) (hp.knows _ _ k hsome)).1
  · intro j u k hj hu
    rcases update_eq_some hj with ⟨-, heq⟩ | ⟨-, hj⟩
    · cases heq
      exact absurd hu (P.not_holds_of_starts hstarts)
    · exact hp.knows j u k hj hu
  · intro j u k hj hu
    rcases update_eq_some hj with ⟨-, rfl⟩ | ⟨hne, hj⟩
    · exact (D.own hstep hp.env (hp.valid _ _ hsome) (hp.inv k) (hp.knows _ _ k hsome)).2 u rfl hu
    · -- the lock is held by another transaction, so not by the one of the statement
      exact D.frame hstep hp.env (hp.valid _ _ hsome) (hp.valid j u hj)
        (fun ht => hne (hp.exclusive j _ u _ k hj hsome hu ht)) hu (hp.knows j u k hj hu)

/-- Every lock's invariant holds at the end of every run. -/
theorem Discipline.run (D : Discipline P) {as : List I} (hrun : Run (Step P) sys as sys')
    (hp : D.Protected sys) : D.Protected sys' :=
  Run.invariant D.Protected (fun _ _ _ hstep hp => D.step hstep hp) hrun hp

omit [DecidableEq I] in
/-- Without a transaction under way every lock protects its invariant if it holds. -/
theorem Discipline.protected_of_idle (D : Discipline P) (hidle : ∀ i, sys.txns i = none)
    (henv : D.env sys.db) (hinv : ∀ k, D.inv k sys.db) : D.Protected sys := by
  refine ⟨fun i j t u k hi => ?_, henv, fun i t hi => ?_, hinv, fun i t k hi => ?_⟩
  all_goals
    rw [hidle i] at hi
    cases hi

end Locking
