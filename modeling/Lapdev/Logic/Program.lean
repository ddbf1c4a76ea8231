import Mathlib.Tactic.TypeStar

/-!
# Programs over a shared state

A `Program σ ε α` is a sequence of statements on a state `σ` that ends with a result or an error.
A statement is atomic: it succeeds and moves the state, or fails and leaves it. An error between
two statements does not undo the first one, unless both stand in one `atomic` block.

`Program.run` runs a program with no other program in between. `Triple` is partial correctness for
`run`, with a postcondition for each of the two ends, and the rules below follow the way a program
is built. `Succeeds` is total: the program does not fail, and relates the two states.
-/

namespace Programs

universe u

/-- A sequence of statements on `σ`, by what follows each of them. -/
inductive Program (σ ε α : Type u) : Type (u + 1)
  | done (a : α)
  | fail (e : ε)
  | stmt {β : Type u} (f : σ → Except ε (β × σ)) (next : β → Program σ ε α)

variable {σ ε ε' α β : Type u}

namespace Program

/-- A program followed by one that depends on its result. -/
def bind : Program σ ε α → (α → Program σ ε β) → Program σ ε β
  | done a, g => g a
  | fail e, _ => fail e
  | stmt f next, g => stmt f fun b => (next b).bind g

instance : Monad (Program σ ε) where
  pure := done
  bind := bind

/-- The state is read. -/
def read (f : σ → α) : Program σ ε α := stmt (fun s => .ok (f s, s)) done

/-- The state is changed by a statement without a result. -/
def write (f : σ → Except ε σ) : Program σ ε PUnit :=
  stmt (fun s => (f s).map fun s' => (⟨⟩, s')) done

/-- `ok_or`: the value of an option, or an error. -/
def orFail (o : Option α) (e : ε) : Program σ ε α :=
  match o with
  | some a => done a
  | none => fail e

/-- A result that needs no statement. -/
def ofExcept : Except ε α → Program σ ε α
  | .ok a => done a
  | .error e => fail e

/-- A statement under a condition. -/
def when (c : Bool) (m : Program σ ε PUnit) : Program σ ε PUnit := if c then m else done ⟨⟩

/-- A loop over a list with a variable that each round assigns. -/
def foldEach {γ : Type*} (f : β → γ → Program σ ε β) : β → List γ → Program σ ε β
  | b, [] => done b
  | b, c :: cs => (f b c).bind fun b => foldEach f b cs

/-- A loop over a list. -/
def forEach {γ : Type*} (f : γ → Program σ ε PUnit) (cs : List γ) : Program σ ε PUnit :=
  foldEach (fun _ c => f c) ⟨⟩ cs

/-- A program as a function of the state: its result, and the state it leaves. -/
def run : Program σ ε α → σ → Except ε α × σ
  | done a, s => (.ok a, s)
  | fail e, s => (.error e, s)
  | stmt f next, s =>
    match f s with
    | .ok (b, s') => (next b).run s'
    | .error e => (.error e, s)

/-- A transaction: its statements take effect together, or not at all. -/
def atomic (m : Program σ ε α) : Program σ ε α :=
  stmt (fun s =>
    match m.run s with
    | (.ok a, s') => .ok (a, s')
    | (.error e, _) => .error e) done

/-- A program whose error is rewritten, `with_context`. -/
def mapError (g : ε → ε') : Program σ ε α → Program σ ε' α
  | done a => done a
  | fail e => fail (g e)
  | stmt f next =>
    stmt (fun s =>
      match f s with
      | .ok p => .ok p
      | .error e => .error (g e))
      fun b => (next b).mapError g

/-- A program whose error is handed to the caller as a value. -/
def attempt : Program σ ε α → Program σ ε (Except ε α)
  | done a => done (.ok a)
  | fail e => done (.error e)
  | stmt f next =>
    stmt (β := Except ε _)
      (fun s =>
        match f s with
        | .ok (b, s') => .ok (.ok b, s')
        | .error e => .ok (.error e, s))
      fun r =>
        match r with
        | .ok b => (next b).attempt
        | .error e => done (.error e)

/-- A program on a part of the state, on the whole of it. -/
def zoom {τ : Type u} (get : σ → τ) (set : σ → τ → σ) : Program τ ε α → Program σ ε α
  | done a => done a
  | fail e => fail e
  | stmt f next =>
    stmt (fun s =>
      match f (get s) with
      | .ok (b, t) => .ok (b, set s t)
      | .error e => .error e)
      fun b => (next b).zoom get set

/-! ## Running the constructs -/

@[simp] theorem run_pure (a : α) (s : σ) : (pure a : Program σ ε α).run s = (.ok a, s) := rfl

@[simp] theorem run_done (a : α) (s : σ) : (done a : Program σ ε α).run s = (.ok a, s) := rfl

@[simp] theorem run_fail (e : ε) (s : σ) : (fail e : Program σ ε α).run s = (.error e, s) := rfl

@[simp] theorem run_read (f : σ → α) (s : σ) :
    (read f : Program σ ε α).run s = (.ok (f s), s) := rfl

/-- A result is returned, and the state left. -/
@[simp] theorem run_ofExcept (x : Except ε α) (s : σ) :
    (ofExcept x : Program σ ε α).run s = (x, s) := by
  cases x <;> rfl

/-- A missing value is an error, and the state left. -/
@[simp] theorem run_orFail (o : Option α) (e : ε) (s : σ) :
    (orFail o e : Program σ ε α).run s = (o.elim (.error e) .ok, s) := by
  cases o <;> rfl

/-- The two ends of a `write`. -/
theorem run_write (f : σ → Except ε σ) (s : σ) :
    (write f : Program σ ε PUnit).run s =
      match f s with
      | .ok s' => (.ok ⟨⟩, s')
      | .error e => (.error e, s) := by
  rw [write, run]
  cases f s <;> rfl

/-- A sequence runs its second part from the state and result of its first. -/
theorem run_bind (m : Program σ ε α) (g : α → Program σ ε β) (s : σ) :
    (m >>= g).run s =
      match m.run s with
      | (.ok a, s') => (g a).run s'
      | (.error e, s') => (.error e, s') := by
  change (m.bind g).run s = _
  induction m generalizing s with
  | done a => rfl
  | fail e => rfl
  | stmt f next ih =>
    rw [bind, run, run]
    cases f s with
    | ok p => exact ih p.1 p.2
    | error e => rfl

/-- A sequence whose first part succeeds. -/
theorem run_bind_of_ok {m : Program σ ε α} {g : α → Program σ ε β} {s s' : σ} {a : α}
    (h : m.run s = (.ok a, s')) : (m >>= g).run s = (g a).run s' := by
  rw [run_bind, h]

/-- A program on a part of the state runs on that part. -/
theorem run_zoom {τ : Type u} (get : σ → τ) (set : σ → τ → σ) (hget : ∀ s t, get (set s t) = t)
    (hset : ∀ s t t', set (set s t) t' = set s t') (hself : ∀ s, set s (get s) = s)
    (m : Program τ ε α) (s : σ) :
    (m.zoom get set).run s = ((m.run (get s)).1, set s (m.run (get s)).2) := by
  induction m generalizing s with
  | done a => simp only [zoom, run, hself]
  | fail e => simp only [zoom, run, hself]
  | stmt f next ih =>
    simp only [zoom, run]
    cases f (get s) with
    | ok p =>
      dsimp only
      rw [ih, hget, hset]
    | error e =>
      dsimp only
      rw [hself]

/-- What is read goes to the rest of the program. -/
theorem run_read_bind (f : σ → α) (g : α → Program σ ε β) (s : σ) :
    (read f >>= g).run s = (g (f s)).run s := rfl

/-- What is required is there, or the program fails. -/
theorem run_orFail_bind (o : Option α) (e : ε) (g : α → Program σ ε β) (s : σ) :
    (orFail o e >>= g).run s = o.elim (.error e, s) fun a => (g a).run s := by
  cases o <;> rfl

/-- A result that needs no statement goes to the rest of the program. -/
theorem run_ofExcept_bind_eq_ok {x : Except ε α} {g : α → Program σ ε β} {s s' : σ} {b : β} :
    (ofExcept x >>= g).run s = (.ok b, s') ↔ ∃ a, x = .ok a ∧ (g a).run s = (.ok b, s') := by
  cases x with
  | ok a =>
    constructor
    · exact fun h => ⟨a, rfl, h⟩
    · rintro ⟨a', heq, h⟩
      cases heq
      exact h
  | error e =>
    constructor
    · exact nofun
    · rintro ⟨a', heq, -⟩
      cases heq

/-- What is required goes to the rest of the program. -/
theorem run_orFail_bind_eq_ok {o : Option α} {e : ε} {g : α → Program σ ε β} {s s' : σ} {b : β} :
    (orFail o e >>= g).run s = (.ok b, s') ↔ ∃ a, o = some a ∧ (g a).run s = (.ok b, s') := by
  cases o with
  | some a =>
    constructor
    · exact fun h => ⟨a, rfl, h⟩
    · rintro ⟨a', heq, h⟩
      cases heq
      exact h
  | none =>
    constructor
    · exact nofun
    · rintro ⟨a', heq, -⟩
      cases heq

/-- A sequence succeeds exactly when both its parts do. -/
theorem run_bind_eq_ok {m : Program σ ε α} {g : α → Program σ ε β} {s s' : σ} {b : β} :
    (m >>= g).run s = (.ok b, s') ↔
      ∃ a s₁, m.run s = (.ok a, s₁) ∧ (g a).run s₁ = (.ok b, s') := by
  rw [run_bind]
  rcases hm : m.run s with ⟨_ | a, s₁⟩
  · simp
  · constructor
    · exact fun h => ⟨a, s₁, rfl, h⟩
    · rintro ⟨a', s₁', heq, h⟩
      cases heq
      exact h

@[simp] theorem run_foldEach_nil {γ : Type*} (f : β → γ → Program σ ε β) (b : β) (s : σ) :
    (foldEach f b []).run s = (.ok b, s) := rfl

/-- A loop does its first round and, if that is done, the others. -/
theorem run_foldEach_cons {γ : Type*} (f : β → γ → Program σ ε β) (b : β) (c : γ) (cs : List γ)
    (s : σ) :
    (foldEach f b (c :: cs)).run s =
      match (f b c).run s with
      | (.ok b', s') => (foldEach f b' cs).run s'
      | (.error e, s') => (.error e, s') :=
  run_bind (f b c) (fun b' => foldEach f b' cs) s

/-- A loop whose rounds leave the state as it is computes a fold. -/
theorem run_foldEach_of_unchanged {γ : Type*} {f : β → γ → Program σ ε β} {g : β → γ → β} {s : σ}
    (h : ∀ b c, (f b c).run s = (.ok (g b c), s)) (b : β) (cs : List γ) :
    (foldEach f b cs).run s = (.ok (cs.foldl g b), s) := by
  induction cs generalizing b with
  | nil => rfl
  | cons c cs ih =>
    rw [run_foldEach_cons, h, List.foldl_cons]
    exact ih (g b c)

/-- A transaction is its body, with the state put back on an error. -/
theorem run_atomic (m : Program σ ε α) (s : σ) :
    m.atomic.run s =
      match m.run s with
      | (.ok a, s') => (.ok a, s')
      | (.error e, _) => (.error e, s) := by
  rw [atomic, run]
  rcases m.run s with ⟨_ | a, s'⟩ <;> rfl

/-- Rewriting the error changes neither the result nor the state. -/
theorem run_mapError (g : ε → ε') (m : Program σ ε α) (s : σ) :
    (m.mapError g).run s =
      match m.run s with
      | (.ok a, s') => (.ok a, s')
      | (.error e, s') => (.error (g e), s') := by
  induction m generalizing s with
  | done a => rfl
  | fail e => rfl
  | stmt f next ih =>
    rw [mapError, run, run]
    cases f s with
    | ok p => exact ih p.1 p.2
    | error e => rfl

/-- What is read goes to the rest of the program, also where the read could fail otherwise. -/
theorem run_mapError_read_bind {δ : Type u} (g : ε → ε') (f : σ → δ) (k : δ → Program σ ε' β)
    (s : σ) : ((read f : Program σ ε δ).mapError g >>= k).run s = (k (f s)).run s := rfl

/-- A program succeeds under another error as it does under its own. -/
theorem run_mapError_eq_ok {g : ε → ε'} {m : Program σ ε α} {s s' : σ} {a : α} :
    (m.mapError g).run s = (.ok a, s') ↔ m.run s = (.ok a, s') := by
  rw [run_mapError]
  rcases m.run s with ⟨_ | _, s₁⟩ <;> simp

/-- Handing an error over as a value changes neither the result nor the state. -/
theorem run_attempt (m : Program σ ε α) (s : σ) :
    m.attempt.run s = (.ok (m.run s).1, (m.run s).2) := by
  induction m generalizing s with
  | done a => rfl
  | fail e => rfl
  | stmt f next ih =>
    rw [attempt, run, run]
    cases f s with
    | ok p => exact ih p.1 p.2
    | error e => rfl

end Program

/-! ## Partial correctness -/

/-- From a state of `P`, the program ends in `Q` with its result or in `E` with its error. -/
def Triple (P : σ → Prop) (m : Program σ ε α) (Q : α → σ → Prop) (E : ε → σ → Prop) : Prop :=
  ∀ s, P s →
    match m.run s with
    | (.ok a, s') => Q a s'
    | (.error e, s') => E e s'

/-- An invariant the program keeps, however it ends. -/
def Preserves (I : σ → Prop) (m : Program σ ε α) : Prop :=
  Triple I m (fun _ => I) (fun _ => I)

variable {P P' I : σ → Prop} {Q Q' : α → σ → Prop} {E E' : ε → σ → Prop}

/-- What a triple says of a run that succeeds. -/
theorem Triple.of_run_ok {m : Program σ ε α} (h : Triple P m Q E) {s s' : σ} {a : α} (hs : P s)
    (hrun : m.run s = (.ok a, s')) : Q a s' := by
  have := h s hs
  rwa [hrun] at this

/-- A preserved invariant holds of the state a run leaves. -/
theorem Preserves.run {m : Program σ ε α} (h : Preserves I m) {s : σ} (hs : I s) :
    I (m.run s).2 := by
  have := h s hs
  rcases hrun : m.run s with ⟨_ | a, s'⟩ <;> rwa [hrun] at this

/-- A triple with a stronger precondition and weaker postconditions. -/
theorem Triple.consequence {m : Program σ ε α} (h : Triple P m Q E) (hP : ∀ s, P' s → P s)
    (hQ : ∀ a s, Q a s → Q' a s) (hE : ∀ e s, E e s → E' e s) : Triple P' m Q' E' := by
  intro s hs
  have := h s (hP s hs)
  rcases hrun : m.run s with ⟨_ | a, s'⟩ <;> rw [hrun] at this
  · exact hE _ _ this
  · exact hQ _ _ this

/-- A value that is returned leaves the state, so its postcondition has to hold before. -/
theorem Triple.pure {a : α} (h : ∀ s, P s → Q a s) : Triple P (pure a : Program σ ε α) Q E :=
  fun s hs => h s hs

/-- An error leaves the state, so its postcondition has to hold before. -/
theorem Triple.fail {e : ε} (h : ∀ s, P s → E e s) : Triple P (.fail e : Program σ ε α) Q E :=
  fun s hs => h s hs

/-- What is read is what the state has. -/
theorem Triple.read {f : σ → α} (h : ∀ s, P s → Q (f s) s) :
    Triple P (Program.read f : Program σ ε α) Q E :=
  fun s hs => h s hs

/-- A write either changes the state as its function says or is an error that leaves it. -/
theorem Triple.write {f : σ → Except ε σ} {Q : PUnit → σ → Prop}
    (hok : ∀ s s', P s → f s = .ok s' → Q ⟨⟩ s') (herr : ∀ s e, P s → f s = .error e → E e s) :
    Triple P (Program.write f) Q E := by
  intro s hs
  rw [Program.run_write]
  cases hf : f s with
  | ok s' => exact hok s s' hs hf
  | error e => exact herr s e hs hf

/-- Two programs one after the other; an error of either is an error of both. -/
theorem Triple.bind {m : Program σ ε α} {g : α → Program σ ε β} {R : β → σ → Prop}
    (hm : Triple P m Q E) (hg : ∀ a, Triple (Q a) (g a) R E) : Triple P (m >>= g) R E := by
  intro s hs
  rw [Program.run_bind]
  have := hm s hs
  rcases hrun : m.run s with ⟨_ | a, s'⟩ <;> rw [hrun] at this
  · exact this
  · exact hg a s' this

/-- A computed result leaves the state. -/
theorem Triple.ofExcept {x : Except ε α} (hok : ∀ a s, x = .ok a → P s → Q a s)
    (herr : ∀ e s, P s → E e s) : Triple P (.ofExcept x) Q E := by
  intro s hs
  rw [Program.run_ofExcept]
  cases x with
  | error e => exact herr e s hs
  | ok a => exact hok a s rfl hs

/-- A value that has to be there leaves the state. -/
theorem Triple.orFail {o : Option α} {e : ε} (hok : ∀ a s, o = some a → P s → Q a s)
    (herr : ∀ s, P s → E e s) : Triple P (.orFail o e) Q E := by
  intro s hs
  rw [Program.run_orFail]
  cases o with
  | none => exact herr s hs
  | some a => exact hok a s rfl hs

/-- An error under another name. -/
theorem Triple.mapError {m : Program σ ε α} {g : ε → ε'} {F : ε' → σ → Prop}
    (h : Triple P m Q fun e => F (g e)) : Triple P (m.mapError g) Q F := by
  intro s hs
  rw [Program.run_mapError]
  have := h s hs
  rcases hrun : m.run s with ⟨_ | a, s'⟩ <;> rw [hrun] at this <;> exact this

/-- Two programs that keep an invariant keep it one after the other. -/
theorem Preserves.bind {m : Program σ ε α} {g : α → Program σ ε β} (hm : Preserves I m)
    (hg : ∀ a, Preserves I (g a)) : Preserves I (m >>= g) :=
  Triple.bind hm hg

/-- A program keeps an invariant under other error names. -/
theorem Preserves.mapError {m : Program σ ε α} (g : ε → ε') (hm : Preserves I m) :
    Preserves I (m.mapError g) :=
  Triple.mapError hm

/-- A transaction keeps on an error what held before it. -/
theorem Triple.atomic {m : Program σ ε α} {F : ε → σ → Prop} (h : Triple P m Q F) :
    Triple P m.atomic Q fun _ => P := by
  intro s hs
  rw [Program.run_atomic]
  have := h s hs
  rcases hrun : m.run s with ⟨_ | a, s'⟩ <;> rw [hrun] at this
  · exact hs
  · exact this

/-- The loop rule: `J` holds of the elements still to come and the loop's variable at the start of
each round. -/
theorem Triple.foldEach {γ : Type*} {f : β → γ → Program σ ε β} {J : List γ → β → σ → Prop}
    (h : ∀ b c cs, Triple (J (c :: cs) b) (f b c) (J cs) E) (cs : List γ) (b : β) :
    Triple (J cs b) (Program.foldEach f b cs) (J []) E := by
  induction cs generalizing b with
  | nil => exact fun s hs => hs
  | cons c cs ih => exact Triple.bind (h b c cs) ih

/-- The loop rule with the rounds made instead of those to come. -/
theorem Triple.foldEach_done {γ : Type*} {f : β → γ → Program σ ε β} {I : List γ → β → σ → Prop}
    {cs : List γ} (h : ∀ done b c rest, done ++ c :: rest = cs →
      Triple (I done b) (f b c) (I (done ++ [c])) E) (b : β) :
    Triple (I [] b) (Program.foldEach f b cs) (I cs) E := by
  let J (rest : List γ) (b : β) (s : σ) : Prop := ∃ done, done ++ rest = cs ∧ I done b s
  have hloop : Triple (J cs b) (Program.foldEach f b cs) (J []) E := by
    refine Triple.foldEach (fun b c rest => ?_) cs b
    rintro s ⟨done, hdone, hs⟩
    have := h done b c rest hdone s hs
    split at this
    · exact ⟨done ++ [c], by rw [List.append_assoc, List.singleton_append, hdone], this⟩
    · exact this
  refine hloop.consequence (fun s hs => ⟨[], rfl, hs⟩) (fun b s hs => ?_) fun _ _ h => h
  obtain ⟨done, hdone, hs⟩ := hs
  rwa [← hdone, List.append_nil]

/-- The loop rule for a loop without a variable. -/
theorem Triple.forEach {γ : Type*} {f : γ → Program σ ε PUnit} {J : List γ → σ → Prop}
    (h : ∀ c cs, Triple (J (c :: cs)) (f c) (fun _ => J cs) E) (cs : List γ) :
    Triple (J cs) (Program.forEach f cs) (fun _ => J []) E :=
  Triple.foldEach (J := fun cs _ => J cs) (fun _ c cs => h c cs) cs PUnit.unit

/-- The loop rule for a loop without a variable, with the rounds made. -/
theorem Triple.forEach_done {γ : Type*} {f : γ → Program σ ε PUnit} {I : List γ → σ → Prop}
    {cs : List γ} (h : ∀ done c rest, done ++ c :: rest = cs →
      Triple (I done) (f c) (fun _ => I (done ++ [c])) E) :
    Triple (I []) (Program.forEach f cs) (fun _ => I cs) E :=
  Triple.foldEach_done (I := fun done _ => I done) (fun done _ c rest => h done c rest) PUnit.unit

/-! ## Programs that only read -/

/-- The program leaves every state as it is. -/
def ReadOnly (m : Program σ ε α) : Prop := ∀ s, (m.run s).2 = s

section
variable {m : Program σ ε α} {g : α → Program σ ε β}

/-- A run of a program that only reads is its result. -/
theorem ReadOnly.run (h : ReadOnly m) (s : σ) : m.run s = ((m.run s).1, s) :=
  Prod.ext rfl (h s)

/-- Returning a value writes nothing. -/
theorem ReadOnly.pure (a : α) : ReadOnly (pure a : Program σ ε α) := fun _ => rfl

/-- Failing writes nothing. -/
theorem ReadOnly.fail (e : ε) : ReadOnly (.fail e : Program σ ε α) := fun _ => rfl

/-- Reading writes nothing. -/
theorem ReadOnly.read (f : σ → α) : ReadOnly (Program.read f : Program σ ε α) := fun _ => rfl

/-- Computing a result writes nothing. -/
theorem ReadOnly.ofExcept (x : Except ε α) : ReadOnly (.ofExcept x : Program σ ε α) := by
  intro s
  rw [Program.run_ofExcept]

/-- Insisting on a value writes nothing. -/
theorem ReadOnly.orFail (o : Option α) (e : ε) : ReadOnly (.orFail o e : Program σ ε α) := by
  intro s
  rw [Program.run_orFail]

/-- Two programs that write nothing write nothing one after the other. -/
theorem ReadOnly.bind (hm : ReadOnly m) (hg : ∀ a, ReadOnly (g a)) : ReadOnly (m >>= g) := by
  intro s
  rw [Program.run_bind, hm.run s]
  cases (m.run s).1 with
  | error e => rfl
  | ok a => exact hg a s

/-- A program writes nothing under other error names. -/
theorem ReadOnly.mapError (hm : ReadOnly m) (f : ε → ε') : ReadOnly (m.mapError f) := by
  intro s
  rw [Program.run_mapError, hm.run s]
  cases (m.run s).1 <;> rfl

/-- What only reads keeps everything. -/
theorem ReadOnly.preserves (h : ReadOnly m) (I : σ → Prop) : Preserves I m := by
  intro s hs
  rw [h.run s]
  cases (m.run s).1 <;> exact hs

/-- A sequence of programs that only read succeeds where each of its parts does. -/
theorem ReadOnly.bind_eq_ok (hm : ReadOnly m) {s : σ} {b : β} :
    ((m >>= g).run s).1 = .ok b ↔ ∃ a, (m.run s).1 = .ok a ∧ ((g a).run s).1 = .ok b := by
  rw [Program.run_bind, hm.run s]
  cases (m.run s).1 <;> simp

end

/-! ## Programs that move along a relation -/

/-- However it ends, the program leaves a state related to the first. -/
def Along (R : σ → σ → Prop) (m : Program σ ε α) : Prop := ∀ s, R s (m.run s).2

section
variable {R : σ → σ → Prop} {m : Program σ ε α} {g : α → Program σ ε β}

/-- A program that writes nothing goes along every reflexive relation. -/
theorem ReadOnly.along (hrefl : ∀ s, R s s) (h : ReadOnly m) : Along R m := by
  intro s
  rw [h s]
  exact hrefl s

/-- Two programs that go along a transitive relation do so one after the other. -/
theorem Along.bind (htrans : ∀ s₁ s₂ s₃, R s₁ s₂ → R s₂ s₃ → R s₁ s₃) (hm : Along R m)
    (hg : ∀ a, Along R (g a)) : Along R (m >>= g) := by
  intro s
  have h₁ := hm s
  rw [Program.run_bind]
  rcases hrun : m.run s with ⟨e | a, s₁⟩ <;> rw [hrun] at h₁
  · exact h₁
  · exact htrans _ _ _ h₁ (hg a s₁)

/-- A program goes along a relation under other error names. -/
theorem Along.mapError (hm : Along R m) (f : ε → ε') : Along R (m.mapError f) := by
  intro s
  have h := hm s
  rw [Program.run_mapError]
  rcases hrun : m.run s with ⟨_ | _, s'⟩ <;> rw [hrun] at h <;> exact h

/-- A program whose error is caught goes along the relation that it goes along. -/
theorem Along.attempt (hm : Along R m) : Along R m.attempt := by
  intro s
  rw [Program.run_attempt]
  exact hm s

/-- A program that is run under a condition, or not at all. -/
theorem Along.when (hrefl : ∀ s, R s s) (c : Bool) {m : Program σ ε PUnit} (hm : Along R m) :
    Along R (.when c m) := by
  cases c with
  | true => exact hm
  | false => exact hrefl

/-- A loop goes along a preorder that its rounds go along. -/
theorem Along.foldEach (hrefl : ∀ s, R s s) (htrans : ∀ s₁ s₂ s₃, R s₁ s₂ → R s₂ s₃ → R s₁ s₃)
    {γ : Type*} {f : β → γ → Program σ ε β} (hf : ∀ b c, Along R (f b c)) (b : β) (cs : List γ) :
    Along R (Program.foldEach f b cs) := by
  induction cs generalizing b with
  | nil => exact hrefl
  | cons c cs ih => exact Along.bind htrans (hf b c) ih

/-- The same of a loop without an accumulator. -/
theorem Along.forEach (hrefl : ∀ s, R s s) (htrans : ∀ s₁ s₂ s₃, R s₁ s₂ → R s₂ s₃ → R s₁ s₃)
    {γ : Type*} {f : γ → Program σ ε PUnit} (hf : ∀ c, Along R (f c)) (cs : List γ) :
    Along R (Program.forEach f cs) :=
  Along.foldEach hrefl htrans (fun _ c => hf c) PUnit.unit cs

/-- What moves along a relation keeps what the relation keeps. -/
theorem Along.preserves (hm : Along R m) (hI : ∀ s s', R s s' → I s → I s') : Preserves I m := by
  intro s hs
  have h := hI _ _ (hm s) hs
  rcases hrun : m.run s with ⟨_ | _, s'⟩ <;> rw [hrun] at h <;> exact h

end

/-! ## Programs that differ in their errors -/

/-- The programs leave the same states, and succeed together with the same results. -/
def SameOutcome (m : Program σ ε α) (m' : Program σ ε' α) : Prop :=
  ∀ s, (m.run s).2 = (m'.run s).2 ∧ ∀ a, (m.run s).1 = .ok a ↔ (m'.run s).1 = .ok a

section
variable {m : Program σ ε α} {m' : Program σ ε' α}

/-- Programs that differ in the names of their errors only. -/
theorem SameOutcome.mapError {ε₁ ε₂ : Type u} (m : Program σ ε α) (f : ε → ε₁) (f' : ε → ε₂) :
    SameOutcome (m.mapError f) (m.mapError f') := by
  intro s
  rw [Program.run_mapError, Program.run_mapError]
  rcases m.run s with ⟨_ | _, s'⟩ <;> simp

/-- Programs with the same outcomes, one after the other. -/
theorem SameOutcome.bind (hm : SameOutcome m m') {g : α → Program σ ε β}
    {g' : α → Program σ ε' β} (hg : ∀ a, SameOutcome (g a) (g' a)) :
    SameOutcome (m >>= g) (m' >>= g') := by
  intro s
  obtain ⟨hstate, hok⟩ := hm s
  rw [Program.run_bind, Program.run_bind]
  rcases hrun : m.run s with ⟨e | a, s₁⟩ <;> rcases hrun' : m'.run s with ⟨e' | a', s₁'⟩ <;>
    rw [hrun, hrun'] at hstate hok <;> dsimp only at hstate hok ⊢
  · exact ⟨hstate, fun _ => by simp⟩
  · cases (hok a').2 rfl
  · cases (hok a).1 rfl
  · cases (hok a).1 rfl
    cases hstate
    exact hg a s₁

/-- Loops whose rounds have the same outcomes. -/
theorem SameOutcome.forEach {γ : Type*} {f : γ → Program σ ε PUnit} {f' : γ → Program σ ε' PUnit}
    (h : ∀ c, SameOutcome (f c) (f' c)) (cs : List γ) :
    SameOutcome (Program.forEach f cs) (Program.forEach f' cs) := by
  induction cs with
  | nil => exact fun s => ⟨rfl, fun a => by simp [Program.forEach]⟩
  | cons c cs ih => exact SameOutcome.bind (h c) fun _ => ih

/-- A run with an outcome is a run of the other program. -/
theorem SameOutcome.run_eq_ok (h : SameOutcome m m') {s s' : σ} {a : α} :
    m.run s = (.ok a, s') ↔ m'.run s = (.ok a, s') := by
  obtain ⟨hstate, hok⟩ := h s
  rw [Prod.ext_iff, Prod.ext_iff, hstate]
  exact and_congr_left fun _ => hok a

end

/-! ## Programs that succeed -/

/-- From every state the program succeeds, and the state it leaves is related to the first. -/
def Succeeds (R : σ → σ → Prop) (m : Program σ ε PUnit) : Prop :=
  ∀ s, ∃ s', m.run s = (.ok ⟨⟩, s') ∧ R s s'

section
variable {R : σ → σ → Prop}

/-- Two programs that succeed along a transitive relation do so one after the other. -/
theorem Succeeds.bind (htrans : ∀ s₁ s₂ s₃, R s₁ s₂ → R s₂ s₃ → R s₁ s₃)
    {m m' : Program σ ε PUnit} (hm : Succeeds R m) (hm' : Succeeds R m') :
    Succeeds R (m >>= fun _ => m') := by
  intro s
  obtain ⟨s₁, hrun₁, h₁⟩ := hm s
  obtain ⟨s₂, hrun₂, h₂⟩ := hm' s₁
  exact ⟨s₂, (Program.run_bind_of_ok hrun₁).trans hrun₂, htrans _ _ _ h₁ h₂⟩

/-- A program that is run under a condition succeeds if it succeeds at all. -/
theorem Succeeds.when (hrefl : ∀ s, R s s) (c : Bool) {m : Program σ ε PUnit}
    (hm : Succeeds R m) : Succeeds R (.when c m) := by
  cases c with
  | true => exact hm
  | false => exact fun s => ⟨s, rfl, hrefl s⟩

/-- A loop succeeds along a preorder if its rounds do. -/
theorem Succeeds.forEach (hrefl : ∀ s, R s s)
    (htrans : ∀ s₁ s₂ s₃, R s₁ s₂ → R s₂ s₃ → R s₁ s₃) {γ : Type*} {f : γ → Program σ ε PUnit}
    (hf : ∀ c, Succeeds R (f c)) (cs : List γ) : Succeeds R (.forEach f cs) := by
  induction cs with
  | nil => exact fun s => ⟨s, rfl, hrefl s⟩
  | cons c cs ih => exact Succeeds.bind htrans (hf c) ih

end

end Programs
