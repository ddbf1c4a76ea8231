import Lapdev.Enterprise.Usage

/-!
# What a window of time costs

`charge` is what a usage costs in a window of time, and `total` what all usages of an organization
or of a user do. `getCost` adds stored costs and costs it computes again; the windows a usage has
either kind of cost in exclude each other (`not_reachesOver_of_inside`), and a usage with neither
has no second in the window (`charge_eq_zero`). What remains are the stored costs, which are products of
32 bits.
-/

namespace Lapdev

open RustStd Sql

namespace Usage

/-- The whole seconds a usage overlaps a window; a usage that has not ended lasts until now. -/
def overlap (start end' now : Int) (r : Model) : Nat :=
  ((min (r.end.getD now) end' - max r.start start) / 1000000).toNat

/-- What a usage costs in a window. -/
def charge (start end' now : Int) (r : Model) : Nat :=
  r.costPerSecond.toNat * overlap start end' now r

/-- What the usages of an organization, or of one user there, cost in a window. -/
def total (db : UsageDb) (organization : Uuid) (user : Option Uuid) (start end' now : Int) :
    Nat :=
  ((db.usages.select (scope organization user)).map (charge start end' now)).sum

/-! ## One usage -/

section Rows

variable {start end' now : Int} {r : Model}

theorem clippedDuration_eq (start end' now : Int) (r : Model) :
    clippedDuration start end' now r = overlap start end' now r % 2 ^ 64 := by
  have hstart : (if r.start < start then start else r.start) = max r.start start := by
    rcases Int.lt_or_le r.start start with h | h
    · rw [if_pos h, Int.max_eq_right (Int.le_of_lt h)]
    · rw [if_neg (Int.not_lt.2 h), Int.max_eq_left h]
  have hend : (if r.end.getD now > end' then end' else r.end.getD now) =
      min (r.end.getD now) end' := by
    rcases Int.lt_or_le end' (r.end.getD now) with h | h
    · rw [if_pos h, Int.min_eq_right (Int.le_of_lt h)]
    · rw [if_neg (Int.not_lt.2 h), Int.min_eq_left h]
  rw [clippedDuration, hstart, hend, numSeconds_max, asUsize_natCast, overlap]

/-- A cost that is computed again is the charge, as far as it fits. -/
theorem clippedCost_eq (start end' now : Int) (r : Model) :
    clippedCost start end' now r = charge start end' now r % 2 ^ 64 := by
  have hcost : max r.costPerSecond 0 = (r.costPerSecond.toNat : Int) := by omega
  rw [clippedCost, clippedDuration_eq, hcost, asUsize_natCast, ← Nat.mul_mod, charge, Nat.mul_comm]

/-- No usage is counted twice. -/
theorem not_reachesOver_of_inside (h : inside start end' r = true) :
    reachesOver start end' r = false := by
  cases hend : r.end with
  | none => simp [inside, hend] at h
  | some e =>
    simp only [inside, hend, Option.any_some, Bool.and_eq_true, decide_eq_true_eq] at h
    simp only [reachesOver, hend, Option.isNone_some, Option.any_some, Bool.and_false,
      Bool.false_or, Bool.or_eq_false_iff, Bool.and_eq_false_iff, decide_eq_false_iff_not]
    omega

/-- A usage that is not counted has no second in the window. -/
theorem charge_eq_zero (hinside : inside start end' r = false)
    (hreaches : reachesOver start end' r = false) : charge start end' now r = 0 := by
  have hoverlap : min (r.end.getD now) end' - max r.start start ≤ 0 := by
    cases hend : r.end with
    | none =>
      simp only [reachesOver, hend, Option.isNone_none, Option.any_none, Bool.and_true,
        Bool.and_false, Bool.or_false, decide_eq_false_iff_not] at hreaches
      omega
    | some e =>
      simp only [inside, hend, Option.any_some, Bool.and_eq_false_iff,
        decide_eq_false_iff_not] at hinside
      simp only [reachesOver, hend, Option.isNone_some, Option.any_some, Bool.and_false,
        Bool.false_or, Bool.or_eq_false_iff, Bool.and_eq_false_iff,
        decide_eq_false_iff_not] at hreaches
      rw [Option.getD_some]
      omega
  have hseconds : overlap start end' now r = 0 := Int.toNat_of_nonpos (by omega)
  rw [charge, hseconds, Nat.mul_zero]

/-- The seconds that a usage lasts, as `end_usage` counts them. -/
def seconds (r : Model) : Int := max (numSeconds (r.end.getD 0 - r.start)) 0

/-- A usage inside the window costs all its seconds. -/
theorem charge_of_inside (h : inside start end' r = true) (hcost : 0 ≤ r.costPerSecond) :
    (charge start end' now r : Int) = r.costPerSecond * seconds r := by
  cases hend : r.end with
  | none => simp [inside, hend] at h
  | some e =>
    simp only [inside, hend, Option.any_some, Bool.and_eq_true, decide_eq_true_eq] at h
    rw [charge, overlap, seconds, hend, Option.getD_some, Option.getD_some, numSeconds_max,
      Int.min_eq_left h.2, Int.max_eq_left h.1, Int.natCast_mul, Int.toNat_of_nonneg hcost]

end Rows

/-! ## Sums -/

section Sums

variable {db : UsageDb} {organization : Uuid} {user : Option Uuid} {start end' now : Int}

/-- The sums of two lists of numbers, none of the first above its number in the second, are equal
exactly if the numbers are. -/
theorem sum_map_eq_iff_of_le {α : Type*} {f g : α → Int} {l : List α} (h : ∀ a ∈ l, f a ≤ g a) :
    (l.map f).sum = (l.map g).sum ↔ ∀ a ∈ l, f a = g a := by
  induction l with
  | nil => simp
  | cons a l ih =>
    have hl : ∀ b ∈ l, f b ≤ g b := fun b hb => h b (List.mem_cons_of_mem _ hb)
    have hsum : (l.map f).sum ≤ (l.map g).sum := List.sum_le_sum hl
    have ha := h a List.mem_cons_self
    simp only [List.map_cons, List.sum_cons, List.mem_cons, forall_eq_or_imp, ← ih hl]
    omega

/-- The usages that cost something in a window are those whose stored cost counts and those whose
cost is computed again. -/
theorem sum_charge_eq (rows : List Model) (p : Model → Bool) (start end' now : Int) :
    ((rows.filter p).map (charge start end' now)).sum =
      ((rows.filter fun r => p r && inside start end' r).map (charge start end' now)).sum +
      ((rows.filter fun r => p r && reachesOver start end' r).map (charge start end' now)).sum := by
  induction rows with
  | nil => rfl
  | cons r rows ih =>
    rcases hp : p r with _ | _
    · simp [hp, ih]
    rcases hinside : inside start end' r with _ | _
    · rcases hreaches : reachesOver start end' r with _ | _
      · simp [hp, hinside, hreaches, ih, charge_eq_zero hinside hreaches]
      · simp [hp, hinside, hreaches, ih]
        omega
    · simp [hp, hinside, not_reachesOver_of_inside hinside, ih]
      omega

/-- The stored costs of the usages inside a window. -/
def stored (db : UsageDb) (organization : Uuid) (user : Option Uuid) (start end' : Int) : Int :=
  ((db.usages.select fun r => scope organization user r && inside start end' r).map
    (·.totalCost)).sum

/-- The charges of the usages inside a window. -/
def insideTotal (db : UsageDb) (organization : Uuid) (user : Option Uuid) (start end' now : Int) :
    Nat :=
  ((db.usages.select fun r => scope organization user r && inside start end' r).map
    (charge start end' now)).sum

/-- The charges of the usages that reach over an end of a window. -/
def reachingTotal (db : UsageDb) (organization : Uuid) (user : Option Uuid)
    (start end' now : Int) : Nat :=
  ((db.usages.select fun r => scope organization user r && reachesOver start end' r).map
    (charge start end' now)).sum

theorem total_eq (db : UsageDb) (organization : Uuid) (user : Option Uuid) (start end' now : Int) :
    total db organization user start end' now =
      insideTotal db organization user start end' now +
        reachingTotal db organization user start end' now :=
  sum_charge_eq _ _ _ _ _

/-- Costs that are computed again are summed up to what fits. -/
theorem sum_clippedCost (rows : List Model) (start end' now : Int) :
    (rows.map (clippedCost start end' now)).sum % 2 ^ 64 =
      (rows.map (charge start end' now)).sum % 2 ^ 64 := by
  have hcost : clippedCost start end' now = (· % 2 ^ 64) ∘ charge start end' now :=
    funext fun r => clippedCost_eq start end' now r
  rw [List.sum_nat_mod (rows.map (charge start end' now)), List.map_map, hcost]

/-- `get_cost` is the sum of the stored costs and of the charges that reach over an end of the
window, as far as it fits. -/
theorem getCost_eq (db : UsageDb) (organization : Uuid) (user : Option Uuid)
    (start end' now : Int) :
    getCost db organization user none start end' now =
      ((stored db organization user start end').toNat +
        reachingTotal db organization user start end' now) % 2 ^ 64 := by
  have hfixed : max (stored db organization user start end') 0 =
      ((stored db organization user start end').toNat : Int) := by omega
  have hfold : ∀ rows : List Model,
      rows.foldl (fun total r => (total + clippedCost start end' now r) % 2 ^ 64) 0 % 2 ^ 64 =
        (rows.map (charge start end' now)).sum % 2 ^ 64 := by
    intro rows
    have hsum := foldl_add_mod (2 ^ 64) (rows.map (clippedCost start end' now)) 0
    rw [List.foldl_map, Nat.zero_add, sum_clippedCost] at hsum
    exact hsum
  simp only [getCost, Option.all_none, Bool.and_true]
  rw [← stored, hfixed, asUsize_natCast, Nat.add_mod_mod, ← Nat.mod_add_mod, hfold, Nat.mod_add_mod,
    Nat.add_comm, reachingTotal]

end Sums

end Usage

end Lapdev
