import Mathlib.Data.List.Forall2
import Mathlib.Tactic.TypeStar

/-!
# Results

Rust's `Result` is `Except`. A computation that succeeds is taken apart step by step: `?` is `bind`,
`map_err` is `mapError`, and a loop with `?` in its body is a `foldlM`.
-/

namespace RustStd.Result

variable {ε ε' α β γ : Type*}

theorem map_eq_ok {f : α → β} {x : Except ε α} {b : β} :
    x.map f = .ok b ↔ ∃ a, x = .ok a ∧ f a = b := by
  cases x <;> simp [Except.map]

theorem bind_eq_ok {x : Except ε α} {f : α → Except ε β} {b : β} :
    x.bind f = .ok b ↔ ∃ a, x = .ok a ∧ f a = .ok b := by
  cases x <;> simp [Except.bind]

theorem mapError_eq_ok {f : ε → ε'} {x : Except ε α} {a : α} :
    x.mapError f = .ok a ↔ x = .ok a := by
  cases x <;> simp [Except.mapError]

/-- `collect::<Result<Vec<_>, _>>()`: the values, or the first error. -/
def collect : List (Except ε α) → Except ε (List α)
  | [] => .ok []
  | x :: xs => x.bind fun a => (collect xs).map (a :: ·)

/-- A mapped list is collected where each of its values is. -/
theorem collect_map_eq_ok {f : β → Except ε α} {bs : List β} {as : List α} :
    collect (bs.map f) = .ok as ↔ List.Forall₂ (fun b a => f b = .ok a) bs as := by
  induction bs generalizing as with
  | nil => cases as <;> simp [collect]
  | cons b bs ih =>
    rw [List.map_cons, collect, bind_eq_ok]
    constructor
    · rintro ⟨a, ha, h⟩
      obtain ⟨rest, hrest, rfl⟩ := map_eq_ok.1 h
      exact .cons ha (ih.1 hrest)
    · rintro (_ | ⟨ha, hrest⟩)
      exact ⟨_, ha, map_eq_ok.2 ⟨_, ih.2 hrest, rfl⟩⟩

/-- A loop over a list with a variable, which ends with the first error. -/
def foldEach (f : β → γ → Except ε β) : β → List γ → Except ε β
  | b, [] => .ok b
  | b, c :: cs => (f b c).bind fun b => foldEach f b cs

/-- The loop rule: what each round keeps holds at the end, of the rounds made. -/
theorem foldEach_invariant {f : β → γ → Except ε β} (I : List γ → β → Prop)
    (hstep : ∀ done b c b', I done b → f b c = .ok b' → I (done ++ [c]) b') {cs : List γ}
    {b b' : β} (hb : I [] b) (h : foldEach f b cs = .ok b') : I cs b' := by
  suffices ∀ done b, I done b → foldEach f b cs = .ok b' → I (done ++ cs) b' from this [] b hb h
  clear hb h
  induction cs with
  | nil =>
    intro done b hb h
    cases h
    rwa [List.append_nil]
  | cons c cs ih =>
    intro done b hb h
    obtain ⟨b₁, hb₁, hrest⟩ := bind_eq_ok.1 h
    have := ih _ b₁ (hstep done b c b₁ hb hb₁) hrest
    rwa [List.append_assoc] at this

/-- A loop whose rounds all succeed while an invariant holds succeeds, and keeps it. -/
theorem exists_foldEach {f : β → γ → Except ε β} (I : List γ → β → Prop)
    (hstep : ∀ done b c, I done b → ∃ b', f b c = .ok b' ∧ I (done ++ [c]) b') {cs : List γ}
    {b : β} (hb : I [] b) : ∃ b', foldEach f b cs = .ok b' ∧ I cs b' := by
  suffices ∀ done b, I done b → ∃ b', foldEach f b cs = .ok b' ∧ I (done ++ cs) b' from
    this [] b hb
  clear hb
  induction cs with
  | nil => exact fun done b hb => ⟨b, rfl, by rwa [List.append_nil]⟩
  | cons c cs ih =>
    intro done b hb
    obtain ⟨b₁, hb₁, hI⟩ := hstep done b c hb
    obtain ⟨b', hrest, hI'⟩ := ih _ b₁ hI
    rw [List.append_assoc] at hI'
    exact ⟨b', bind_eq_ok.2 ⟨b₁, hb₁, hrest⟩, hI'⟩

end RustStd.Result
