import Mathlib.Data.List.Count
import Mathlib.Data.List.Nodup
import Mathlib.Data.List.Perm.Basic

/-!
# Lists that are updated by key

`upsert key a l` replaces the first element of a list that has the key of `a`, and `ensure key a l`
adds `a` where its key is missing. Both are known by what they do to the elements of each key
(`withKey_upsert`, `withKey_ensure`), and a list is known by these up to its order if it has each key
at most once (`perm_iff_withKey`).
-/

namespace Lists

universe u v

variable {α : Type u} {κ : Type v} [DecidableEq κ] (key : α → κ)

/-- The elements of a list with a key. -/
def withKey (k : κ) (l : List α) : List α := l.filter fun a => key a = k

/-- The first element with the key of `a` is replaced; `a` is put last if there is none. -/
def upsert (a : α) : List α → List α
  | [] => [a]
  | b :: l => if key b = key a then a :: l else b :: upsert a l

/-- Several elements are put into a list, one after the other. -/
def upserts (as : List α) (l : List α) : List α := as.foldl (fun l a => upsert key a l) l

/-- An element is put last if its key is missing. -/
def ensure (a : α) (l : List α) : List α := if l.any fun b => key b = key a then l else l ++ [a]

variable {key} {a : α} {as l l' : List α} {k : κ}

/-! ## The elements of a key -/

@[simp] theorem withKey_nil (k : κ) : withKey key k [] = [] := rfl

/-- The elements with a key, of one list after the other. -/
theorem withKey_append (k : κ) (l l' : List α) :
    withKey key k (l ++ l') = withKey key k l ++ withKey key k l' := List.filter_append ..

/-- An element with a key. -/
theorem mem_withKey : a ∈ withKey key k l ↔ a ∈ l ∧ key a = k := by
  rw [withKey, List.mem_filter, decide_eq_true_eq]

/-- The only element, if it has the key. -/
theorem withKey_singleton (k : κ) (a : α) : withKey key k [a] = if k = key a then [a] else [] := by
  rw [withKey, List.filter_singleton]
  by_cases h : k = key a
  · rw [if_pos h, decide_eq_true h.symm]
    rfl
  · rw [if_neg h, decide_eq_false (Ne.symm h)]
    rfl

/-- An upsert replaces the first element of its key and leaves those of other keys. -/
theorem withKey_upsert (k : κ) (a : α) (l : List α) :
    withKey key k (upsert key a l) =
      if k = key a then a :: (withKey key k l).tail else withKey key k l := by
  induction l with
  | nil => exact withKey_singleton k a
  | cons b l ih =>
    unfold upsert
    split
    · next hb =>
      rw [withKey, withKey, List.filter_cons, List.filter_cons, hb]
      by_cases h : k = key a
      · rw [if_pos h, h]
        simp
      · rw [if_neg h, if_neg (by simpa using Ne.symm h), if_neg (by simpa using Ne.symm h)]
    · next hb =>
      have hcons : ∀ m : List α, withKey key k (b :: m) =
          if key b = k then b :: withKey key k m else withKey key k m := by
        intro m
        rw [withKey, List.filter_cons]
        by_cases h : key b = k
        · rw [if_pos h, if_pos (decide_eq_true h)]
          rfl
        · rw [if_neg h, if_neg (by simpa using h)]
          rfl
      rw [hcons, hcons, ih]
      by_cases h : k = key a
      · have hne : key b ≠ k := fun hkey => hb (hkey.trans h)
        rw [if_pos h, if_neg hne, if_neg hne, if_pos h]
      · rw [if_neg h, if_neg h]

/-- An element is added only where there is none with its key. -/
theorem withKey_ensure (k : κ) (a : α) (l : List α) :
    withKey key k (ensure key a l) =
      if k = key a ∧ withKey key k l = [] then [a] else withKey key k l := by
  unfold ensure
  split
  · next hany =>
    rw [if_neg]
    rintro ⟨rfl, hnil⟩
    obtain ⟨b, hb, hkey⟩ := List.any_eq_true.1 hany
    have hmem : b ∈ withKey key (key a) l := mem_withKey.2 ⟨hb, of_decide_eq_true hkey⟩
    rw [hnil] at hmem
    cases hmem
  · next hany =>
    have hnil : withKey key (key a) l = [] := by
      refine List.filter_eq_nil_iff.2 fun b hb hkey => hany ?_
      exact List.any_eq_true.2 ⟨b, hb, hkey⟩
    rw [withKey_append, withKey_singleton]
    by_cases h : k = key a
    · rw [if_pos h, if_pos ⟨h, h ▸ hnil⟩, h, hnil]
      rfl
    · rw [if_neg h, if_neg fun h' => h h'.1, List.append_nil]

@[simp] theorem upserts_nil (l : List α) : upserts key [] l = l := rfl

/-- One upsert after the other. -/
theorem upserts_cons (a : α) (as l : List α) :
    upserts key (a :: as) l = upserts key as (upsert key a l) := rfl

/-- Elements with other keys are left. -/
theorem withKey_upserts_of_notMem (hk : k ∉ as.map key) (l : List α) :
    withKey key k (upserts key as l) = withKey key k l := by
  induction as generalizing l with
  | nil => rfl
  | cons a as ih =>
    rw [List.map_cons, List.mem_cons, not_or] at hk
    rw [upserts_cons, ih hk.2, withKey_upsert, if_neg hk.1]

/-- Each of several elements with distinct keys replaces the first one with its key. -/
theorem withKey_upserts_of_mem (hnodup : (as.map key).Nodup) (ha : a ∈ as) (l : List α) :
    withKey key (key a) (upserts key as l) = a :: (withKey key (key a) l).tail := by
  induction as generalizing l with
  | nil => cases ha
  | cons b as ih =>
    rw [List.map_cons, List.nodup_cons] at hnodup
    rw [upserts_cons]
    cases ha with
    | head => rw [withKey_upserts_of_notMem hnodup.1, withKey_upsert, if_pos rfl]
    | tail _ ha =>
      have hne : key a ≠ key b := fun h => hnodup.1 (h ▸ List.mem_map_of_mem ha)
      rw [ih hnodup.2 ha, withKey_upsert, if_neg hne]

/-! ## Updates that change nothing -/

/-- Upserting what is there changes nothing. -/
theorem upsert_eq_self (h : (withKey key (key a) l).head? = some a) : upsert key a l = l := by
  induction l with
  | nil => cases h
  | cons b l ih =>
    unfold upsert
    rw [withKey, List.filter_cons] at h
    split
    · next hb =>
      rw [if_pos (decide_eq_true hb)] at h
      cases h
      rfl
    · next hb =>
      rw [if_neg (by simpa using hb)] at h
      rw [ih h]

/-- So do several upserts of what is there. -/
theorem upserts_eq_self (h : ∀ a ∈ as, (withKey key (key a) l).head? = some a) :
    upserts key as l = l := by
  induction as with
  | nil => rfl
  | cons a as ih =>
    rw [upserts_cons, upsert_eq_self (h a List.mem_cons_self)]
    exact ih fun a' ha' => h a' (List.mem_cons_of_mem a ha')

/-- Ensuring what is there changes nothing. -/
theorem ensure_eq_self (h : withKey key (key a) l ≠ []) : ensure key a l = l := by
  obtain ⟨b, hb⟩ := List.exists_mem_of_ne_nil _ h
  obtain ⟨hmem, hkey⟩ := mem_withKey.1 hb
  exact if_pos (List.any_eq_true.2 ⟨b, hmem, decide_eq_true hkey⟩)

/-! ## Lists up to their order -/

/-- A list of at most one element has no rest. -/
theorem tail_eq_nil_iff : l.tail = [] ↔ l.length ≤ 1 := by
  rw [← List.length_eq_zero_iff, List.length_tail]
  omega

/-- A member of a list of at most one element is all of it. -/
theorem eq_singleton_of_mem (hl : l.length ≤ 1) (ha : a ∈ l) :
    l = [a] := by
  cases l with
  | nil => cases ha
  | cons b rest =>
    have hrest : rest = [] := List.eq_nil_of_length_eq_zero (by simpa using hl)
    rw [hrest] at ha ⊢
    rw [List.mem_singleton.1 ha]

/-- The keys of a list are distinct if there is at most one element of each. -/
theorem nodup_iff_withKey : (l.map key).Nodup ↔ ∀ k, (withKey key k l).length ≤ 1 := by
  rw [List.nodup_iff_count_le_one]
  refine forall_congr' fun k => ?_
  rw [withKey, ← List.countP_eq_length_filter, List.count_eq_countP, List.countP_map]
  exact Iff.of_eq (congrArg (· ≤ 1) (List.countP_congr fun a _ => by simp))

/-- A list without a key twice is known by its elements of each key. -/
theorem perm_iff_withKey (hone : ∀ k, (withKey key k l').length ≤ 1) :
    l.Perm l' ↔ ∀ k, withKey key k l = withKey key k l' := by
  classical
  constructor
  · intro hperm k
    have hfilter : (withKey key k l).Perm (withKey key k l') := hperm.filter _
    cases hkey : withKey key k l' with
    | nil => exact (hkey ▸ hfilter).eq_nil
    | cons a rest =>
      have hsingle := eq_singleton_of_mem (hone k) (hkey ▸ List.mem_cons_self : a ∈ _)
      rw [← hkey, hsingle]
      rw [hsingle] at hfilter
      exact List.perm_singleton.1 hfilter
  · intro h
    refine List.perm_iff_count.2 fun a => ?_
    have hcount : ∀ m : List α, (withKey key (key a) m).count a = m.count a :=
      fun m => List.count_filter (decide_eq_true rfl)
    rw [← hcount l, ← hcount l', h (key a)]

end Lists
