import Mathlib.Data.List.Count
import Mathlib.Data.List.Induction
import Mathlib.Order.Lattice
import Mathlib.Tactic.TypeStar

/-!
# Tickets that are good for one use

A ticket is good from when it is issued until its time is over or it is used, whichever comes first.
A history of tickets is a list of events, and it is fair if every ticket was good when it was used.
In a fair history no ticket is used more often than it was issued (`uses_le_issues`). `Kept` relates
the tickets to a table that may forget those whose time is over: such a table answers the same
questions.
-/

/-- The tickets that were issued and not used, with the time until which they are good. -/
abbrev Tickets (T Time : Type*) := T → Option Time

namespace Tickets

variable {T Time : Type*}

/-- What happens to tickets. -/
inductive Event (T Time : Type*)
  | issue (t : T) (expiry : Time)
  | revokeAll
  | use (t : T) (now : Time)

variable [LinearOrder Time]

/-- The ticket is good at a time. -/
def Good (tickets : Tickets T Time) (t : T) (now : Time) : Prop :=
  ∃ expiry, tickets t = some expiry ∧ now ≤ expiry

section
variable [DecidableEq T]

omit [LinearOrder Time] in
/-- The tickets after an event. -/
def apply (tickets : Tickets T Time) : Event T Time → Tickets T Time
  | .issue t expiry => Function.update tickets t (some expiry)
  | .revokeAll => fun _ => none
  | .use t _ => Function.update tickets t none

omit [LinearOrder Time] in
/-- The tickets after a history. -/
def after (events : List (Event T Time)) : Tickets T Time := events.foldl apply fun _ => none

/-- The event is no use of a ticket that is not good. -/
def Allows (tickets : Tickets T Time) : Event T Time → Prop
  | .use t now => tickets.Good t now
  | _ => True

/-- Every ticket was good when it was used. -/
def Fair (events : List (Event T Time)) : Prop :=
  ∀ before e, before ++ [e] <+: events → (after before).Allows e

/-- The event issues the ticket. -/
def Event.issues (t : T) : Event T Time → Bool
  | .issue t' _ => t' = t
  | _ => false

/-- The event uses the ticket. -/
def Event.uses (t : T) : Event T Time → Bool
  | .use t' _ => t' = t
  | _ => false

variable {tickets : Tickets T Time} {events : List (Event T Time)} {e : Event T Time} {t : T}

omit [LinearOrder Time] in
@[simp] theorem after_append_singleton : after (events ++ [e]) = (after events).apply e := by
  rw [after, List.foldl_append]
  rfl

theorem Fair.nil : Fair ([] : List (Event T Time)) := by
  intro before e hprefix
  have hlen := hprefix.length_le
  rw [List.length_append, List.length_singleton] at hlen
  exact absurd hlen (Nat.not_succ_le_zero _)

/-- A fair history stays fair with an event that its tickets allow. -/
theorem Fair.append_singleton (h : Fair events) (he : (after events).Allows e) :
    Fair (events ++ [e]) := by
  intro before e' hprefix
  rcases List.prefix_concat_iff.1 hprefix with heq | hprefix
  · obtain ⟨rfl, hlast⟩ := List.append_inj' heq rfl
    cases hlast
    exact he
  · exact h before e' hprefix

/-- A part of a fair history. -/
theorem Fair.of_append_singleton (h : Fair (events ++ [e])) :
    Fair events ∧ (after events).Allows e :=
  ⟨fun before e' hbefore => h before e' (hbefore.trans (List.prefix_append _ _)),
    h events e (List.prefix_refl _)⟩

omit [LinearOrder Time] [DecidableEq T] in
/-- How often the ticket can still be used. -/
def left (tickets : Tickets T Time) (t : T) : Nat :=
  match tickets t with
  | some _ => 1
  | none => 0

/-- What an event uses up was left or is issued by it. -/
theorem left_apply (h : tickets.Allows e) (t : T) :
    (e.uses t).toNat + (tickets.apply e).left t ≤ tickets.left t + (e.issues t).toNat := by
  cases e with
  | issue t' expiry =>
    by_cases heq : t = t'
    · simp [Event.uses, Event.issues, apply, left, heq]
    · simp [Event.uses, apply, left, Function.update_of_ne heq]
  | revokeAll => simp [Event.uses, apply, left]
  | use t' now =>
    obtain ⟨expiry, hgood, -⟩ := h
    by_cases heq : t = t'
    · simp [Event.uses, apply, left, heq, hgood]
    · simp [Event.uses, apply, left, Function.update_of_ne heq, Ne.symm heq]

/-- The uses of a ticket, and the one that is still to come, are covered by its issues. -/
theorem uses_add_le_issues (h : Fair events) (t : T) :
    events.countP (Event.uses t) + (after events).left t ≤ events.countP (Event.issues t) := by
  induction events using List.reverseRecOn with
  | nil => exact Nat.le_refl 0
  | append_singleton events e ih =>
    obtain ⟨hfair, hallows⟩ := h.of_append_singleton
    have hstep := left_apply hallows t
    have ih := ih hfair
    have hcount : ∀ p : Event T Time → Bool, [e].countP p = (p e).toNat := by
      intro p
      rw [List.countP_singleton]
      cases p e <;> rfl
    rw [List.countP_append, List.countP_append, hcount, hcount, after_append_singleton]
    omega

/-- **One use for each issue.** -/
theorem uses_le_issues (h : Fair events) (t : T) :
    events.countP (Event.uses t) ≤ events.countP (Event.issues t) :=
  Nat.le_trans (Nat.le_add_right _ _) (uses_add_le_issues h t)

omit [LinearOrder Time] in
/-- What is outstanding was issued. -/
theorem issued_of_after {expiry : Time} (h : after events t = some expiry) :
    .issue t expiry ∈ events := by
  induction events using List.reverseRecOn with
  | nil => cases h
  | append_singleton events e ih =>
    rw [after_append_singleton] at h
    rw [List.mem_append, List.mem_singleton]
    cases e with
    | issue t' expiry' =>
      by_cases heq : t = t'
      · subst heq
        rw [apply, Function.update_self] at h
        cases h
        exact .inr rfl
      · rw [apply, Function.update_of_ne heq] at h
        exact .inl (ih h)
    | revokeAll => cases h
    | use t' now =>
      by_cases heq : t = t'
      · subst heq
        rw [apply, Function.update_self] at h
        cases h
      · rw [apply, Function.update_of_ne heq] at h
        exact .inl (ih h)

end

/-! ## Tables that forget what is over -/

/-- The table has the tickets, but perhaps not all whose time is over. -/
structure Kept (tickets table : Tickets T Time) (now : Time) : Prop where
  of_table : ∀ {t expiry}, table t = some expiry → tickets t = some expiry
  of_tickets : ∀ {t expiry}, tickets t = some expiry → now ≤ expiry → table t = some expiry

section
variable {tickets table table' : Tickets T Time} {now now' : Time}

theorem Kept.refl (tickets : Tickets T Time) (now : Time) : Kept tickets tickets now :=
  ⟨id, fun h _ => h⟩

/-- The table may forget tickets whose time is over. -/
theorem Kept.forget (h : Kept tickets table now) (hle : now ≤ now')
    (hsub : ∀ {t expiry}, table' t = some expiry → table t = some expiry)
    (hkeep : ∀ {t expiry}, table t = some expiry → now' ≤ expiry → table' t = some expiry) :
    Kept tickets table' now' :=
  ⟨fun ht => h.of_table (hsub ht),
    fun ht hgood => hkeep (h.of_tickets ht (hle.trans hgood)) hgood⟩

/-- The table follows a change of one ticket. -/
theorem Kept.update [DecidableEq T] (h : Kept tickets table now) (t : T) (v : Option Time) :
    Kept (Function.update tickets t v) (Function.update table t v) now := by
  constructor
  · intro t' expiry ht'
    by_cases heq : t' = t
    · subst heq
      rwa [Function.update_self] at ht' ⊢
    · rw [Function.update_of_ne heq] at ht' ⊢
      exact h.of_table ht'
  · intro t' expiry ht' hgood
    by_cases heq : t' = t
    · subst heq
      rwa [Function.update_self] at ht' ⊢
    · rw [Function.update_of_ne heq] at ht' ⊢
      exact h.of_tickets ht' hgood

/-- Whether a ticket is good can be read off the table. -/
theorem Kept.good_iff (h : Kept tickets table now) (hle : now ≤ now') (t : T) :
    tickets.Good t now' ↔ ∃ expiry, table t = some expiry ∧ now' ≤ expiry := by
  constructor
  · rintro ⟨expiry, ht, hgood⟩
    exact ⟨expiry, h.of_tickets ht (hle.trans hgood), hgood⟩
  · rintro ⟨expiry, ht, hgood⟩
    exact ⟨expiry, h.of_table ht, hgood⟩

end

end Tickets
