import Lapdev.Logic.Program

/-!
# Programs whose statements fail

`m.inject faults` is `m` where a statement may fail with an error of its own: `faults n` is the
error of the statement that comes after `n` others, if it has one. A run that succeeds had none
(`run_inject_eq_ok`), and what every statement of a program keeps, every run of it with faults keeps
(`Each.along`, `Each.inject`).
-/

namespace Programs

universe u

variable {σ ε ε' α β : Type u}

namespace Program

/-- A program with faults. -/
def inject : Program σ ε α → (Nat → Option ε) → Program σ ε α
  | done a, _ => done a
  | fail e, _ => fail e
  | stmt f next, faults =>
    stmt
      (fun s =>
        match faults 0 with
        | some e => .error e
        | none => f s)
      fun b => (next b).inject fun n => faults (n + 1)

/-- Without faults it is the program. -/
@[simp] theorem inject_none (m : Program σ ε α) : (m.inject fun _ => none) = m := by
  induction m with
  | done a => rfl
  | fail e => rfl
  | stmt f next ih =>
    rw [inject]
    exact congrArg (stmt f) (funext ih)

/-- A run that succeeds is one without faults. -/
theorem run_inject_eq_ok {m : Program σ ε α} {faults : Nat → Option ε} {s s' : σ} {a : α}
    (h : (m.inject faults).run s = (.ok a, s')) : m.run s = (.ok a, s') := by
  induction m generalizing s faults with
  | done a => exact h
  | fail e => exact h
  | stmt f next ih =>
    rw [inject, run] at h
    rw [run]
    cases hfault : faults 0 with
    | some e =>
      simp only [hfault] at h
      cases h
    | none =>
      simp only [hfault] at h
      cases hf : f s with
      | ok p =>
        rw [hf] at h
        exact ih p.1 h
      | error e =>
        rw [hf] at h
        exact h

/-- An error is one of the program, or a fault. -/
theorem run_inject_eq_error {m : Program σ ε α} {faults : Nat → Option ε} {s s' : σ} {e : ε}
    (h : (m.inject faults).run s = (.error e, s')) :
    m.run s = (.error e, s') ∨ ∃ n, faults n = some e := by
  induction m generalizing s faults with
  | done a => exact .inl h
  | fail e => exact .inl h
  | stmt f next ih =>
    rw [inject, run] at h
    rw [run]
    cases hfault : faults 0 with
    | some e' =>
      simp only [hfault] at h
      cases h
      exact .inr ⟨0, hfault⟩
    | none =>
      simp only [hfault] at h
      cases hf : f s with
      | ok p =>
        rw [hf] at h
        rcases ih p.1 h with hrun | ⟨n, hn⟩
        · exact .inl hrun
        · exact .inr ⟨n + 1, hn⟩
      | error e' =>
        rw [hf] at h
        exact .inl h

/-- A single statement fails, or is run. -/
theorem run_inject_stmt (f : σ → Except ε (α × σ)) (g : ε → ε') (faults : Nat → Option ε') (s : σ) :
    (((stmt f done).mapError g).inject faults).run s =
      match faults 0 with
      | some e => (.error e, s)
      | none => ((stmt f done).mapError g).run s := by
  rw [mapError, inject, run]
  cases faults 0 with
  | some e => rfl
  | none =>
    rw [run]
    dsimp only
    split <;> rfl

/-- The faults of a sequence are those of its first part, and then those of its second part. -/
theorem run_inject_bind (m : Program σ ε α) (g : α → Program σ ε β) (faults : Nat → Option ε)
    (s : σ) : ∃ n, ((m >>= g).inject faults).run s =
      match (m.inject faults).run s with
      | (.ok a, s') => ((g a).inject fun i => faults (n + i)).run s'
      | (.error e, s') => (.error e, s') := by
  change ∃ n, ((m.bind g).inject faults).run s = _
  induction m generalizing s faults with
  | done a =>
    refine ⟨0, ?_⟩
    simp only [Nat.zero_add]
    rfl
  | fail e => exact ⟨0, rfl⟩
  | stmt f next ih =>
    rw [bind, inject, inject, run, run]
    cases faults 0 with
    | some e => exact ⟨0, rfl⟩
    | none =>
      dsimp only
      cases f s with
      | error e => exact ⟨0, rfl⟩
      | ok p =>
        obtain ⟨n, hn⟩ := ih p.1 (fun n => faults (n + 1)) p.2
        refine ⟨n + 1, ?_⟩
        simp only [Nat.add_right_comm n 1]
        exact hn

/-- Sequences associate. -/
theorem bind_assoc {γ : Type u} (m : Program σ ε α) (g : α → Program σ ε β)
    (k : β → Program σ ε γ) : (m >>= g) >>= k = m >>= fun a => g a >>= k := by
  change (m.bind g).bind k = m.bind fun a => (g a).bind k
  induction m with
  | done a => rfl
  | fail e => rfl
  | stmt f next ih => exact congrArg (stmt f) (funext ih)

/-! ## What every statement keeps -/

/-- Every statement of the program moves along the relation. -/
def Each (R : σ → σ → Prop) : Program σ ε α → Prop
  | done _ => True
  | fail _ => True
  | stmt f next => (∀ s b s', f s = .ok (b, s') → R s s') ∧ ∀ b, (next b).Each R

section
variable {R : σ → σ → Prop} {m : Program σ ε α} {g : α → Program σ ε β}

/-- Faults add no write. -/
theorem Each.inject (h : m.Each R) (faults : Nat → Option ε) : (m.inject faults).Each R := by
  induction m generalizing faults with
  | done a => trivial
  | fail e => trivial
  | stmt f next ih =>
    refine ⟨fun s b s' hf => ?_, fun b => ih b (h.2 b) _⟩
    dsimp only at hf
    split at hf
    · cases hf
    · exact h.1 s b s' hf

/-- The program as a whole moves along the relation, however it ends. -/
theorem Each.along (hrefl : ∀ s, R s s) (htrans : ∀ s₁ s₂ s₃, R s₁ s₂ → R s₂ s₃ → R s₁ s₃)
    (h : m.Each R) : Along R m := by
  intro s
  induction m generalizing s with
  | done a => exact hrefl s
  | fail e => exact hrefl s
  | stmt f next ih =>
    rw [run]
    cases hf : f s with
    | ok p => exact htrans _ _ _ (h.1 s p.1 p.2 hf) (ih p.1 (h.2 p.1) p.2)
    | error e => exact hrefl s

/-- A program that returns writes nothing. -/
theorem Each.pure (a : α) : (pure a : Program σ ε α).Each R := trivial

/-- Nor does one that computes a result. -/
theorem Each.ofExcept (x : Except ε α) : (ofExcept x : Program σ ε α).Each R := by
  cases x <;> trivial

/-- Nor does one that insists on a value. -/
theorem Each.orFail (o : Option α) (e : ε) : (orFail o e : Program σ ε α).Each R := by
  cases o <;> trivial

/-- A read leaves the state. -/
theorem Each.read (hrefl : ∀ s, R s s) (f : σ → α) : (read f : Program σ ε α).Each R := by
  refine ⟨fun s b s' hf => ?_, fun _ => trivial⟩
  cases hf
  exact hrefl s

/-- A write goes along the relation. -/
theorem Each.write {f : σ → Except ε σ} (h : ∀ s s', f s = .ok s' → R s s') :
    (write f).Each R := by
  refine ⟨fun s b s' hf => ?_, fun _ => trivial⟩
  dsimp only at hf
  cases hfs : f s with
  | ok s'' =>
    rw [hfs] at hf
    cases hf
    exact h s _ hfs
  | error e =>
    rw [hfs] at hf
    cases hf

/-- The statements of two programs, one after the other. -/
theorem Each.bind (hm : m.Each R) (hg : ∀ a, (g a).Each R) : (m >>= g).Each R := by
  change (m.bind g).Each R
  induction m with
  | done a => exact hg a
  | fail e => trivial
  | stmt f next ih => exact ⟨hm.1, fun b => ih b (hm.2 b)⟩

/-- The statements under other error names. -/
theorem Each.mapError (hm : m.Each R) (f : ε → ε') : (m.mapError f).Each R := by
  induction m with
  | done a => trivial
  | fail e => trivial
  | stmt f' next ih =>
    refine ⟨fun s b s' hf => ?_, fun b => ih b (hm.2 b)⟩
    dsimp only at hf
    split at hf
    · next p hp =>
      cases hf
      exact hm.1 s b s' hp
    · cases hf

/-- The statements of a program that may not be run. -/
theorem Each.when (c : Bool) {m : Program σ ε PUnit} (hm : m.Each R) : (when c m).Each R := by
  cases c
  · trivial
  · exact hm

/-- The statements of a loop are those of its rounds. -/
theorem Each.foldEach {γ : Type*} {f : β → γ → Program σ ε β} {cs : List γ}
    (h : ∀ b, ∀ c ∈ cs, (f b c).Each R) (b : β) : (foldEach f b cs).Each R := by
  induction cs generalizing b with
  | nil => trivial
  | cons c cs ih =>
    exact Each.bind (h b c (.head _)) fun b => ih (fun b c hc => h b c (.tail _ hc)) b

/-- So are those of a loop without an accumulator. -/
theorem Each.forEach {γ : Type*} {f : γ → Program σ ε PUnit} {cs : List γ}
    (h : ∀ c ∈ cs, (f c).Each R) : (forEach f cs).Each R :=
  Each.foldEach (fun _ => h) PUnit.unit

end

end Program

end Programs
