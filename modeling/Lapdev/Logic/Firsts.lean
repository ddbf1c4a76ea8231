import Mathlib.Data.List.Infix
import Mathlib.Data.List.Nodup
import Mathlib.Data.List.Perm.Basic

/-!
# First occurrences by key

`firsts key l seen` walks over a list and keeps what has a key that was not seen before. When the
list is put together of parts, the result depends on the order of the parts, and
`firsts_eq_iff_of_perm` says on which parts and for which result it does not: the parts are
`Nested`, each with its repetitions dropped a prefix of the other, or the result is put together of
`Blocks` of no order of the parts.
-/

namespace Lists

universe u v

variable {α : Type u} {κ : Type v} [DecidableEq κ] (key : α → κ)

/-- The elements of a list whose key was not seen before. -/
def firsts : List α → List κ → List α
  | [], _ => []
  | a :: l, seen => if key a ∈ seen then firsts l seen else a :: firsts l (key a :: seen)

/-- Each of two parts, without its repetitions, is a prefix of the other. -/
def Nested (parts : List (List α)) : Prop :=
  ∀ l ∈ parts, ∀ l' ∈ parts,
    firsts key l [] <+: firsts key l' [] ∨ firsts key l' [] <+: firsts key l []

/-- The list has one block for each part, in some order of the parts: what has a key that was not
seen in an earlier block. -/
inductive Blocks : List (List α) → List κ → List α → Prop
  | nil {seen : List κ} : Blocks [] seen []
  | cons {parts rest : List (List α)} {part ys : List α} {seen : List κ}
      (hperm : parts.Perm (part :: rest)) (hrest : Blocks rest (part.map key ++ seen) ys) :
      Blocks parts seen (firsts key part seen ++ ys)

variable {key} {l l' : List α} {seen seen' : List κ}

@[simp] theorem firsts_nil : firsts key [] seen = [] := rfl

theorem firsts_cons_of_mem {a : α} (h : key a ∈ seen) :
    firsts key (a :: l) seen = firsts key l seen := if_pos h

theorem firsts_cons_of_not_mem {a : α} (h : key a ∉ seen) :
    firsts key (a :: l) seen = a :: firsts key l (key a :: seen) := if_neg h

/-- Only what was seen matters, not when. -/
theorem firsts_congr (h : ∀ k, k ∈ seen ↔ k ∈ seen') : firsts key l seen = firsts key l seen' := by
  induction l generalizing seen seen' with
  | nil => rfl
  | cons a l ih =>
    by_cases hmem : key a ∈ seen
    · rw [firsts_cons_of_mem hmem, firsts_cons_of_mem ((h _).1 hmem), ih h]
    · have hcons : ∀ k, k ∈ key a :: seen ↔ k ∈ key a :: seen' := by
        intro k
        rw [List.mem_cons, h, List.mem_cons]
      rw [firsts_cons_of_not_mem hmem, firsts_cons_of_not_mem (mt (h _).2 hmem), ih hcons]

/-- The second half of a list sees the keys of the first. -/
theorem firsts_append :
    firsts key (l ++ l') seen = firsts key l seen ++ firsts key l' (l.map key ++ seen) := by
  induction l generalizing seen with
  | nil => rfl
  | cons a l ih =>
    rw [List.cons_append, List.map_cons]
    by_cases hmem : key a ∈ seen
    · rw [firsts_cons_of_mem hmem, firsts_cons_of_mem hmem, ih]
      congr 1
      refine firsts_congr fun k => ?_
      simp only [List.cons_append, List.mem_cons, List.mem_append]
      constructor
      · exact .inr
      · rintro (rfl | h)
        · exact .inr hmem
        · exact h
    · rw [firsts_cons_of_not_mem hmem, firsts_cons_of_not_mem hmem, ih, List.cons_append]
      congr 2
      refine firsts_congr fun k => ?_
      simp only [List.cons_append, List.mem_cons, List.mem_append]
      tauto

theorem firsts_sublist (l : List α) (seen : List κ) : (firsts key l seen).Sublist l := by
  induction l generalizing seen with
  | nil => exact .slnil
  | cons a l ih =>
    by_cases hmem : key a ∈ seen
    · rw [firsts_cons_of_mem hmem]
      exact (ih seen).cons a
    · rw [firsts_cons_of_not_mem hmem]
      exact (ih (key a :: seen)).cons_cons a

/-- The keys that are left are those that were not seen. -/
theorem mem_map_firsts {k : κ} : k ∈ (firsts key l seen).map key ↔ k ∈ l.map key ∧ k ∉ seen := by
  induction l generalizing seen with
  | nil => simp
  | cons a l ih =>
    by_cases hmem : key a ∈ seen
    · rw [firsts_cons_of_mem hmem, ih, List.map_cons, List.mem_cons]
      constructor
      · exact fun ⟨h, hk⟩ => ⟨.inr h, hk⟩
      · rintro ⟨rfl | h, hk⟩
        · exact absurd hmem hk
        · exact ⟨h, hk⟩
    · rw [firsts_cons_of_not_mem hmem, List.map_cons, List.mem_cons, ih, List.map_cons,
        List.mem_cons, List.mem_cons]
      constructor
      · rintro (rfl | ⟨h, hk⟩)
        · exact ⟨.inl rfl, hmem⟩
        · exact ⟨.inr h, fun hk' => hk (.inr hk')⟩
      · rintro ⟨rfl | h, hk⟩
        · exact .inl rfl
        · by_cases heq : k = key a
          · exact .inl heq
          · exact .inr ⟨h, fun hk' => hk'.elim heq hk⟩

theorem firsts_eq_nil : firsts key l seen = [] ↔ ∀ a ∈ l, key a ∈ seen := by
  rw [← List.map_eq_nil_iff (f := key), List.eq_nil_iff_forall_not_mem]
  constructor
  · intro h a ha
    by_contra hmem
    exact h (key a) (mem_map_firsts.2 ⟨List.mem_map_of_mem ha, hmem⟩)
  · intro h k hk
    obtain ⟨hmap, hnot⟩ := mem_map_firsts.1 hk
    obtain ⟨a, ha, rfl⟩ := List.mem_map.1 hmap
    exact hnot (h a ha)

theorem nodup_map_firsts : ((firsts key l seen).map key).Nodup := by
  induction l generalizing seen with
  | nil => exact .nil
  | cons a l ih =>
    by_cases hmem : key a ∈ seen
    · rw [firsts_cons_of_mem hmem]
      exact ih
    · rw [firsts_cons_of_not_mem hmem, List.map_cons, List.nodup_cons, mem_map_firsts]
      exact ⟨fun h => h.2 List.mem_cons_self, ih⟩

/-- Distinct keys that were not seen are kept. -/
theorem firsts_of_nodup (hnodup : (l.map key).Nodup) (hseen : ∀ a ∈ l, key a ∉ seen) :
    firsts key l seen = l := by
  induction l generalizing seen with
  | nil => rfl
  | cons a l ih =>
    rw [List.map_cons, List.nodup_cons] at hnodup
    rw [firsts_cons_of_not_mem (hseen a List.mem_cons_self), ih hnodup.2]
    intro b hb hmem
    rcases List.mem_cons.1 hmem with heq | hmem
    · exact hnodup.1 (heq ▸ List.mem_map_of_mem hb)
    · exact hseen b (List.mem_cons_of_mem a hb) hmem

/-- Repetitions that are dropped first are dropped all the same. -/
theorem firsts_firsts (h : ∀ k ∈ seen', k ∈ seen) :
    firsts key (firsts key l seen') seen = firsts key l seen := by
  induction l generalizing seen seen' with
  | nil => rfl
  | cons a l ih =>
    by_cases hmem' : key a ∈ seen'
    · rw [firsts_cons_of_mem hmem', firsts_cons_of_mem (h _ hmem'), ih h]
    · rw [firsts_cons_of_not_mem hmem']
      by_cases hmem : key a ∈ seen
      · rw [firsts_cons_of_mem hmem, firsts_cons_of_mem hmem, ih]
        intro k hk
        rcases List.mem_cons.1 hk with rfl | hk
        · exact hmem
        · exact h k hk
      · rw [firsts_cons_of_not_mem hmem, firsts_cons_of_not_mem hmem, ih]
        exact fun k hk => List.mem_cons.2 ((List.mem_cons.1 hk).imp_right (h k))

/-- After a prefix of what a list keeps, it keeps the rest. -/
theorem firsts_of_prefix {ys zs : List α} (h : firsts key l [] = ys ++ zs) :
    firsts key l (ys.map key) = zs := by
  have hnodup : ((ys ++ zs).map key).Nodup := h ▸ nodup_map_firsts
  rw [List.map_append, List.nodup_append] at hnodup
  have hnil : ∀ k ∈ ([] : List κ), k ∈ ys.map key := fun k hk => absurd hk List.not_mem_nil
  rw [← firsts_firsts hnil, h, firsts_append,
    firsts_eq_nil.2 fun a ha => List.mem_map_of_mem ha, List.nil_append]
  refine firsts_of_nodup hnodup.2.1 fun a ha hmem => ?_
  rw [List.mem_append, or_self] at hmem
  exact hnodup.2.2 _ hmem _ (List.mem_map_of_mem ha) rfl

/-! ## Parts in some order -/

variable {parts parts' : List (List α)} {ys : List α}

/-- Of nested parts in some order, the longest one is kept. -/
theorem exists_firsts_flatten (h : Nested key parts) :
    ∃ l, (l ∈ parts ∨ l = []) ∧ firsts key parts.flatten [] = firsts key l [] ∧
      ∀ l' ∈ parts, firsts key l' [] <+: firsts key l [] := by
  induction parts using List.reverseRecOn with
  | nil => exact ⟨[], .inr rfl, rfl, fun _ h => absurd h List.not_mem_nil⟩
  | append_singleton parts part ih =>
    have hmem : ∀ {l}, l ∈ parts → l ∈ parts ++ [part] := List.mem_append_left _
    have hlast : part ∈ parts ++ [part] := List.mem_append_right _ List.mem_cons_self
    obtain ⟨l, hl, heq, hall⟩ := ih fun l hl l' hl' => h l (hmem hl) l' (hmem hl')
    have hnested : firsts key l [] <+: firsts key part [] ∨
        firsts key part [] <+: firsts key l [] := by
      rcases hl with hl | rfl
      · exact h l (hmem hl) part hlast
      · exact .inl List.nil_prefix
    -- what the last part sees is the keys of the longest one before it
    have hseen : ∀ k, k ∈ parts.flatten.map key ++ [] ↔ k ∈ (firsts key l []).map key := by
      intro k
      rw [← heq, mem_map_firsts, List.append_nil]
      simp
    have hstep : firsts key (parts ++ [part]).flatten [] =
        firsts key l [] ++ firsts key part ((firsts key l []).map key) := by
      rw [List.flatten_append, List.flatten_singleton, firsts_append, heq, firsts_congr hseen]
    rcases hnested with hpre | hpre
    · obtain ⟨zs, hzs⟩ := hpre
      refine ⟨part, .inl hlast, ?_, fun l' hl' => ?_⟩
      · rw [hstep, firsts_of_prefix hzs.symm, hzs]
      · rcases List.mem_append.1 hl' with hl' | hl'
        · exact (hall l' hl').trans ⟨zs, hzs⟩
        · rw [List.mem_singleton.1 hl']
    · refine ⟨l, hl.imp_left hmem, ?_, fun l' hl' => ?_⟩
      · have hnil : firsts key part ((firsts key l []).map key) = [] := by
          refine firsts_eq_nil.2 fun a ha => ?_
          have hkept : key a ∈ (firsts key part []).map key :=
            mem_map_firsts.2 ⟨List.mem_map_of_mem ha, List.not_mem_nil⟩
          exact (hpre.sublist.map key).subset hkept
        rw [hstep, hnil, List.append_nil]
      · rcases List.mem_append.1 hl' with hl' | hl'
        · exact hall l' hl'
        · rw [List.mem_singleton.1 hl']
          exact hpre

/-- The order of nested parts does not matter. -/
theorem firsts_flatten_of_nested (h : Nested key parts) (hperm : parts'.Perm parts) :
    firsts key parts'.flatten [] = firsts key parts.flatten [] := by
  have h' : Nested key parts' := fun l hl l' hl' =>
    h l (hperm.subset hl) l' (hperm.subset hl')
  obtain ⟨l, hl, heq, hall⟩ := exists_firsts_flatten h
  obtain ⟨l', hl', heq', hall'⟩ := exists_firsts_flatten h'
  have hle : firsts key l [] <+: firsts key l' [] := by
    rcases hl with hl | rfl
    · exact hall' l (hperm.symm.subset hl)
    · exact List.nil_prefix
  have hge : firsts key l' [] <+: firsts key l [] := by
    rcases hl' with hl' | rfl
    · exact hall l' (hperm.subset hl')
    · exact List.nil_prefix
  rw [heq, heq', hge.eq_of_length_le hle.length_le]

/-- Parts whose order does not matter are nested. -/
theorem nested_of_forall_perm
    (h : ∀ parts' : List (List α), parts'.Perm parts → firsts key parts'.flatten [] = ys) :
    Nested key parts := by
  have hstart : ∀ l ∈ parts, firsts key l [] <+: ys := by
    intro l hl
    obtain ⟨before, after, rfl⟩ := List.append_of_mem hl
    rw [← h (l :: (before ++ after)) List.perm_middle.symm, List.flatten_cons, firsts_append]
    exact List.prefix_append _ _
  exact fun l hl l' hl' => List.prefix_or_prefix_of_prefix (hstart l hl) (hstart l' hl')

/-- The blocks of a list are what some order of the parts keeps. -/
theorem blocks_iff :
    Blocks key parts seen ys ↔
      ∃ parts' : List (List α), parts'.Perm parts ∧ firsts key parts'.flatten seen = ys := by
  constructor
  · intro h
    induction h with
    | nil => exact ⟨[], .refl _, rfl⟩
    | @cons parts rest part ys seen hperm _ ih =>
      obtain ⟨parts', hperm', rfl⟩ := ih
      refine ⟨part :: parts', (hperm'.cons part).trans hperm.symm, ?_⟩
      rw [List.flatten_cons, firsts_append]
  · rintro ⟨parts', hperm, rfl⟩
    induction parts' generalizing parts seen with
    | nil =>
      rw [hperm.symm.eq_nil]
      exact .nil
    | cons part rest ih =>
      rw [List.flatten_cons, firsts_append]
      exact .cons hperm.symm (ih (.refl _))

/-- **When the order of the parts does not matter.** Whether the parts are kept as `ys` is the same
in every order exactly if the parts are nested or `ys` is not made of their blocks. -/
theorem firsts_eq_iff_of_perm :
    (∀ parts₁ parts₂ : List (List α), parts₁.Perm parts → parts₂.Perm parts →
      (firsts key parts₁.flatten [] = ys ↔ firsts key parts₂.flatten [] = ys)) ↔
      Nested key parts ∨ ¬Blocks key parts [] ys := by
  constructor
  · intro h
    by_cases hblocks : Blocks key parts [] ys
    · obtain ⟨parts₁, hperm₁, heq⟩ := blocks_iff.1 hblocks
      exact .inl (nested_of_forall_perm fun parts₂ hperm₂ => (h parts₁ parts₂ hperm₁ hperm₂).1 heq)
    · exact .inr hblocks
  · rintro (hnested | hblocks) parts₁ parts₂ hperm₁ hperm₂
    · rw [firsts_flatten_of_nested hnested hperm₁, firsts_flatten_of_nested hnested hperm₂]
    · exact iff_of_false (fun heq => hblocks (blocks_iff.2 ⟨parts₁, hperm₁, heq⟩))
        fun heq => hblocks (blocks_iff.2 ⟨parts₂, hperm₂, heq⟩)

/-! ## Related lists -/

/-- The first elements of two related lists with a property that the relation keeps. -/
theorem find?_of_forall₂ {α : Type u} {β : Type v} {R : α → β → Prop} {p : α → Bool} {q : β → Bool}
    (hpq : ∀ a b, R a b → p a = q b) {as : List α} {bs : List β} (h : List.Forall₂ R as bs) :
    as.find? p = none ∧ bs.find? q = none ∨
      ∃ a b, as.find? p = some a ∧ bs.find? q = some b ∧ R a b := by
  induction h with
  | nil => exact .inl ⟨rfl, rfl⟩
  | @cons a b as bs hab _ ih =>
    rw [List.find?_cons, List.find?_cons, hpq a b hab]
    cases q b with
    | true => exact .inr ⟨a, b, rfl, rfl, hab⟩
    | false => exact ih

end Lists
