import Lapdev.Enterprise.Charges
import Mathlib.Algebra.BigOperators.Ring.Finset
import Mathlib.Algebra.Order.Ring.Nat

/-!
# Billing

When `get_cost` and the pages of `get_usage_records` add up to what a window of time costs. A
history of calls stores the product of 32 bits for every usage it ends (`Recorded`), so `get_cost`
is exact where each of the products it reads fits, and below the total everywhere else
(`getCost_eq_iff`). The pages compute every cost again; `flatMap_pages` puts them together.
`billsExactly_iff` adds the products that no query of the window reads.
-/

namespace Lapdev

open RustStd Sql

namespace Usage

/-! ## What a history stores -/

/-- A row as the calls write it. -/
structure Recorded (r : Model) : Prop where
  costPerSecond : 0 ≤ r.costPerSecond
  totalCost : r.end.isSome → r.totalCost = asI32 (r.costPerSecond * seconds r)

/-- A call that succeeds leaves rows that are as calls write them. -/
theorem recorded_of_run {db db' : UsageDb} {call : Call} (hcall : call.Valid)
    (h : call.run db = .ok db') (hdb : ∀ r ∈ db.usages.rows, Recorded r) :
    ∀ r ∈ db'.usages.rows, Recorded r := by
  cases call with
  | newUsage start orgId userId resourceKind resourceId resourceName machineTypeId costPerSecond =>
    simp only [Call.run, newUsage] at h
    cases hinsert : db.usages.insert
        { id := db.nextId, start, «end» := none, resourceKind := resourceKind.toString, resourceId,
          resourceName, organizationId := orgId, machineTypeId, userId, duration := none,
          costPerSecond, totalCost := 0 } with
    | error e =>
      rw [hinsert] at h
      cases h
    | ok usages =>
      rw [hinsert] at h
      cases h
      intro r hr
      rcases (Table.mem_insert hinsert).1 hr with hr | rfl
      · exact hdb r hr
      · exact ⟨hcall, fun hend => nomatch hend⟩
  | endUsage id end' =>
    simp only [Call.run, endUsage] at h
    cases hone : db.usages.one fun r => r.id = id with
    | none =>
      rw [hone] at h
      cases h
    | some usage =>
      rw [hone] at h
      obtain ⟨husage, hid⟩ := Table.mem_of_one hone
      dsimp only at h
      cases hupdate : db.usages.updateOne (fun r => r.id = id) fun r =>
          { r with
            «end» := some end'
            duration := some (asI32 (max (numSeconds (end' - usage.start)) 0))
            totalCost := asI32 (usage.costPerSecond *
              asI32 (max (numSeconds (end' - usage.start)) 0)) } with
      | error e =>
        rw [hupdate] at h
        cases h
      | ok usages =>
        rw [hupdate] at h
        cases h
        intro r hr
        rcases (Table.mem_updateMany (Table.updateOne_eq_ok.1 hupdate).2).1 hr with
          ⟨r₀, hr₀, hid₀, rfl⟩ | ⟨hr, -⟩
        · -- the row that was found is the only one of its id
          have heq : r₀ = usage := db.usages.eq_of_conflict hr₀ husage
            ((of_decide_eq_true hid₀).trans (of_decide_eq_true hid).symm)
          subst heq
          exact ⟨(hdb r₀ hr₀).costPerSecond, fun _ => asI32_mul_asI32 _ _⟩
        · exact hdb r hr

theorem recorded_after {db : UsageDb} {call : Call} (hcall : call.Valid)
    (hdb : ∀ r ∈ db.usages.rows, Recorded r) : ∀ r ∈ (call.after db).usages.rows, Recorded r := by
  rw [Call.after]
  cases h : call.run db with
  | ok db' => exact recorded_of_run hcall h hdb
  | error e => exact hdb

/-- The rows after a history are as calls write them. -/
theorem recorded_of_mem {users : Table User.Profile} {machineTypes : Table MachineType.Model}
    {history : List Call} (hvalid : ∀ call ∈ history, call.Valid) :
    ∀ r ∈ (recorded users machineTypes history).usages.rows, Recorded r := by
  have hrun : ∀ (history : List Call) (db : UsageDb), (∀ call ∈ history, call.Valid) →
      (∀ r ∈ db.usages.rows, Recorded r) →
      ∀ r ∈ (history.foldl Call.after db).usages.rows, Recorded r := by
    intro history
    induction history with
    | nil => exact fun _ _ hdb => hdb
    | cons call history ih =>
      intro db hvalid hdb
      exact ih _ (fun c hc => hvalid c (List.mem_cons_of_mem _ hc))
        (recorded_after (hvalid call List.mem_cons_self) hdb)
  exact hrun history _ hvalid fun r hr => absurd hr Table.mem_empty

/-! ## Stored costs -/

section Stored

variable {db : UsageDb} {organization : Uuid} {user : Option Uuid} {start end' now : Int}

/-- The stored cost of a usage inside the window is its charge, as far as it fits. -/
theorem Recorded.totalCost_of_inside {r : Model} (h : Recorded r)
    (hinside : inside start end' r = true) :
    r.totalCost = asI32 (charge start end' now r) := by
  have hend : r.end.isSome := by
    cases hend : r.end with
    | none => simp [inside, hend] at hinside
    | some e => rfl
  rw [h.totalCost hend, charge_of_inside hinside h.costPerSecond]

/-- Every product that a sum of stored costs reads fits. -/
def Fits (db : UsageDb) (organization : Uuid) (user : Option Uuid) (start end' : Int) : Prop :=
  ∀ r ∈ db.usages.rows, scope organization user r → inside start end' r →
    r.costPerSecond * seconds r < 2 ^ 31

/-- The stored costs add up to the charges exactly if their products fit, and to less otherwise. -/
theorem stored_eq_iff (hdb : ∀ r ∈ db.usages.rows, Recorded r) :
    (stored db organization user start end').toNat ≤ insideTotal db organization user start end' now
    ∧ ((stored db organization user start end').toNat =
        insideTotal db organization user start end' now ↔ Fits db organization user start end') := by
  have hle : ∀ r ∈ db.usages.select fun r => scope organization user r && inside start end' r,
      r.totalCost ≤ (charge start end' now r : Int) := by
    intro r hr
    obtain ⟨hmem, hr⟩ := Table.mem_select.1 hr
    rw [(hdb r hmem).totalCost_of_inside (Bool.and_eq_true_iff.1 hr).2]
    exact asI32_le (Int.natCast_nonneg _)
  have hcast : ∀ rows : List Model, ((rows.map (charge start end' now)).sum : Int) =
      (rows.map fun r => (charge start end' now r : Int)).sum := by
    intro rows
    rw [Nat.cast_list_sum, List.map_map]
    rfl
  have hsum := List.sum_le_sum hle
  have heq := sum_map_eq_iff_of_le hle
  rw [← hcast, ← stored, ← insideTotal] at hsum heq
  have hfits : (∀ r ∈ db.usages.select fun r => scope organization user r && inside start end' r,
      r.totalCost = (charge start end' now r : Int)) ↔ Fits db organization user start end' := by
    constructor
    · intro hall r hmem hscope hinside
      have hr := hall r (Table.mem_select.2 ⟨hmem, by rw [hscope, hinside]; rfl⟩)
      rw [(hdb r hmem).totalCost_of_inside hinside,
        asI32_eq_self_iff (Int.natCast_nonneg _)] at hr
      rwa [charge_of_inside hinside (hdb r hmem).costPerSecond] at hr
    · intro hall r hr
      obtain ⟨hmem, hr⟩ := Table.mem_select.1 hr
      obtain ⟨hscope, hinside⟩ := Bool.and_eq_true_iff.1 hr
      have hfit := hall r hmem hscope hinside
      rw [← @charge_of_inside start end' now r hinside (hdb r hmem).costPerSecond] at hfit
      rw [@Recorded.totalCost_of_inside start end' now r (hdb r hmem) hinside,
        asI32_eq_self (Int.natCast_nonneg _) hfit]
  refine ⟨by omega, ?_⟩
  rw [← hfits]
  constructor
  · intro h
    rcases Nat.eq_zero_or_pos (insideTotal db organization user start end' now) with hzero | hpos
    · -- with nothing to charge, every stored cost is zero
      intro r hr
      obtain ⟨hmem, hscope⟩ := Table.mem_select.1 hr
      have hcharge : charge start end' now r = 0 :=
        List.sum_eq_zero_iff_forall_eq_nat.1 hzero _ (List.mem_map_of_mem hr)
      rw [(hdb r hmem).totalCost_of_inside (Bool.and_eq_true_iff.1 hscope).2, hcharge]
      rfl
    · exact heq.1 (by omega)
  · intro h
    have := heq.2 h
    omega

/-- `get_cost` is what the window costs exactly if the products it reads fit in 32 bits and the
total fits in 64. -/
theorem getCost_eq_iff (hdb : ∀ r ∈ db.usages.rows, Recorded r) :
    getCost db organization user none start end' now = total db organization user start end' now ↔
      Fits db organization user start end' ∧
        total db organization user start end' now < 2 ^ 64 := by
  obtain ⟨hle, hfits⟩ := @stored_eq_iff db organization user start end' now hdb
  rw [getCost_eq, total_eq, ← hfits]
  constructor
  · intro h
    have hlt := Nat.mod_lt ((stored db organization user start end').toNat +
      reachingTotal db organization user start end' now) (show 0 < 2 ^ 64 by decide)
    rw [h] at hlt
    rw [Nat.mod_eq_of_lt (by omega)] at h
    omega
  · rintro ⟨h, hlt⟩
    rw [h, Nat.mod_eq_of_lt hlt]

end Stored

/-! ## Pages -/

/-- Pages one after the other are the list up to where they end. -/
theorem flatMap_pages {α : Type*} (l : List α) (k n : Nat) :
    ((List.range n).flatMap fun page => (l.drop (page * k)).take k) = l.take (n * k) := by
  induction n with
  | zero => simp
  | succ n ih => rw [List.range_succ, List.flatMap_append, ih, Nat.succ_mul, List.take_add]; simp

/-- As many pages as a list has hold all of it. -/
theorem length_le_numPages {n k : Nat} (hk : 0 < k) :
    n ≤ (n / k + if n % k > 0 then 1 else 0) * k := by
  have hdiv := Nat.div_add_mod n k
  have hmod := Nat.mod_lt n hk
  rw [Nat.add_mul, Nat.mul_comm]
  split <;> omega

/-- The records on all pages of `get_usage_records`, one page after the other. -/
def allRecords (db : UsageDb) (organization : Uuid) (user : Option Uuid) (start end' : Int)
    (pageSize : Nat) (now : Int) : List UsageRecord :=
  (List.range (getUsageRecords db organization user start end' pageSize 0 now).numPages).flatMap
    fun page => (getUsageRecords db organization user start end' pageSize page now).records

section Pages

variable {db : UsageDb} {organization : Uuid} {user : Option Uuid} {start end' now : Int}
  {pageSize : Nat}

/-- The pages hold every listed row once. -/
theorem allRecords_eq (hsize : 0 < pageSize) :
    allRecords db organization user start end' pageSize now =
      (listed db organization user start end').map (record db start end' now) := by
  have hmap : ∀ n, ((List.range n).flatMap fun page =>
      (getUsageRecords db organization user start end' pageSize page now).records) =
      ((List.range n).flatMap fun page =>
        ((listed db organization user start end').drop (page * pageSize)).take pageSize).map
          (record db start end' now) := by
    intro n
    rw [List.map_flatMap]
    rfl
  rw [allRecords, hmap, flatMap_pages]
  exact congrArg _ (List.take_of_length_le (length_le_numPages hsize))

/-- The costs on the pages add up to the charges, as long as these fit in 64 bits. -/
theorem sum_allRecords (hsize : 0 < pageSize)
    (htotal : total db organization user start end' now < 2 ^ 64) :
    ((allRecords db organization user start end' pageSize now).map (·.cost)).sum =
      total db organization user start end' now := by
  have hrows : ∀ rows : List Model,
      ((rows.filter fun r => scope organization user r &&
        (inside start end' r || reachesOver start end' r)).map (charge start end' now)).sum =
      ((rows.filter (scope organization user)).map (charge start end' now)).sum := by
    intro rows
    induction rows with
    | nil => rfl
    | cons r rows ih =>
      rcases hscope : scope organization user r with _ | _
      · simp [hscope, ih]
      rcases hin : inside start end' r with _ | _
      · rcases hreaches : reachesOver start end' r with _ | _
        · simp [hscope, hin, hreaches, ih, charge_eq_zero hin hreaches]
        · simp [hscope, hin, hreaches, ih]
      · simp [hscope, hin, ih]
  have hperm : (listed db organization user start end').Perm (db.usages.select fun r =>
      scope organization user r && (inside start end' r || reachesOver start end' r)) :=
    List.perm_insertionSort _ _
  have hcosts : ((db.usages.select fun r => scope organization user r &&
      (inside start end' r || reachesOver start end' r)).map (clippedCost start end' now)) =
      ((db.usages.select fun r => scope organization user r &&
      (inside start end' r || reachesOver start end' r)).map (charge start end' now)) := by
    refine List.map_congr_left fun r hr => ?_
    have hle : charge start end' now r ≤ total db organization user start end' now := by
      rw [total, Table.select, ← hrows]
      exact List.le_sum_of_mem (List.mem_map_of_mem hr)
    rw [clippedCost_eq, Nat.mod_eq_of_lt (Nat.lt_of_le_of_lt hle htotal)]
  calc ((allRecords db organization user start end' pageSize now).map (·.cost)).sum
      = ((listed db organization user start end').map (clippedCost start end' now)).sum := by
        rw [allRecords_eq hsize, List.map_map]
        rfl
    _ = ((db.usages.select fun r => scope organization user r &&
          (inside start end' r || reachesOver start end' r)).map (charge start end' now)).sum := by
        rw [(hperm.map _).sum_eq, hcosts]
    _ = total db organization user start end' now := hrows _

end Pages

/-! ## Products -/

/-- The numbers that a call multiplies in 32 bits: the cost of a second, and the seconds of the
usage it ends. -/
def Call.product (db : UsageDb) : Call → Option (Int × Int)
  | .newUsage _ _ _ _ _ _ _ _ => none
  | .endUsage id end' => (db.usages.one fun r => r.id = id).map fun usage =>
      (usage.costPerSecond, max (numSeconds (end' - usage.start)) 0)

/-- All that the calls of a history multiply. -/
def products (db : UsageDb) : List Call → List (Int × Int)
  | [] => []
  | call :: history => (call.product db).toList ++ products (call.after db) history

/-- Every product of a history fits in 32 bits, as far as its seconds do. -/
def ProductsFit (users : Table User.Profile) (machineTypes : Table MachineType.Model)
    (history : List Call) : Prop :=
  ∀ x ∈ products { usages := .empty, users, machineTypes, nextId := 1 } history,
    x.2 < 2 ^ 31 → x.1 * x.2 < 2 ^ 31

/-- Nothing that a call multiplies is negative. -/
theorem nonneg_of_product {db : UsageDb} {call : Call} (hdb : ∀ r ∈ db.usages.rows, Recorded r)
    {x : Int × Int} (h : call.product db = some x) : 0 ≤ x.1 ∧ 0 ≤ x.2 := by
  cases call with
  | newUsage => cases h
  | endUsage id end' =>
    obtain ⟨usage, hone, rfl⟩ := Option.map_eq_some_iff.1 h
    exact ⟨(hdb usage (Table.mem_of_one hone).1).costPerSecond, Int.le_max_right _ _⟩

theorem nonneg_of_mem_products {db : UsageDb} {history : List Call}
    (hvalid : ∀ call ∈ history, call.Valid) (hdb : ∀ r ∈ db.usages.rows, Recorded r)
    {x : Int × Int} (hx : x ∈ products db history) : 0 ≤ x.1 * x.2 := by
  induction history generalizing db with
  | nil => cases hx
  | cons call history ih =>
    rcases List.mem_append.1 hx with hx | hx
    · have hproduct := nonneg_of_product hdb (Option.mem_toList.1 hx)
      exact Int.mul_nonneg hproduct.1 hproduct.2
    · exact ih (fun c hc => hvalid c (List.mem_cons_of_mem _ hc))
        (recorded_after (hvalid call List.mem_cons_self) hdb) hx

/-! ## The theorem -/

/-- The cost of a window is what its usages cost, the pages add up to it, and no arithmetic on the
way there overflows: not the products that `end_usage` stores, whenever the seconds fit in their
column, not the products that the queries compute, and not the sum. -/
structure BillsExactly (users : Table User.Profile) (machineTypes : Table MachineType.Model)
    (history : List Call) (organization : Uuid) (user : Option Uuid) (start end' : Int)
    (pageSize : Nat) (now : Int) : Prop where
  cost : getCost (recorded users machineTypes history) organization user none start end' now =
    total (recorded users machineTypes history) organization user start end' now
  pages : ((allRecords (recorded users machineTypes history) organization user start end' pageSize
      now).map (·.cost)).sum =
    getCost (recorded users machineTypes history) organization user none start end' now
  products : ∀ x ∈ products { usages := .empty, users, machineTypes, nextId := 1 } history,
    x.2 < 2 ^ 31 → asI32 (x.1 * asI32 x.2) = x.1 * x.2
  charges : ∀ r ∈ (recorded users machineTypes history).usages.rows, scope organization user r →
    charge start end' now r < 2 ^ 64
  sum : (stored (recorded users machineTypes history) organization user start end').toNat +
    reachingTotal (recorded users machineTypes history) organization user start end' now < 2 ^ 64

/-- After every history of calls, a window is billed exactly if every product of the history fits in
its 32 bits, those of the usages inside the window whatever their seconds, and the cost of the
window in 64 bits. -/
theorem billsExactly_iff (users : Table User.Profile) (machineTypes : Table MachineType.Model)
    {history : List Call} (hvalid : ∀ call ∈ history, call.Valid) (organization : Uuid)
    (user : Option Uuid) (start end' : Int) {pageSize : Nat} (hsize : 0 < pageSize) (now : Int) :
    BillsExactly users machineTypes history organization user start end' pageSize now ↔
      ProductsFit users machineTypes history ∧
      Fits (recorded users machineTypes history) organization user start end' ∧
        total (recorded users machineTypes history) organization user start end' now < 2 ^ 64 := by
  have hdb := @recorded_of_mem users machineTypes history hvalid
  have hproduct : ∀ x ∈ products { usages := .empty, users, machineTypes, nextId := 1 } history,
      asI32 (x.1 * asI32 x.2) = x.1 * x.2 ↔ x.1 * x.2 < 2 ^ 31 := by
    intro x hx
    rw [asI32_mul_asI32, asI32_eq_self_iff]
    exact nonneg_of_mem_products hvalid (fun r hr => absurd hr Table.mem_empty) hx
  constructor
  · intro h
    exact ⟨fun x hx hfits => (hproduct x hx).1 (h.products x hx hfits),
      (getCost_eq_iff hdb).1 h.cost⟩
  · rintro ⟨hproducts, hfits, htotal⟩
    have hcost := (getCost_eq_iff hdb).2 ⟨hfits, htotal⟩
    refine ⟨hcost, (sum_allRecords hsize htotal).trans hcost.symm,
      fun x hx hlt => (hproduct x hx).2 (hproducts x hx hlt), fun r hr hscope => ?_, ?_⟩
    · refine Nat.lt_of_le_of_lt ?_ htotal
      exact List.le_sum_of_mem (List.mem_map_of_mem (Table.mem_select.2 ⟨hr, hscope⟩))
    · have hstored := (@stored_eq_iff _ organization user start end' now hdb).1
      rw [total_eq] at htotal
      omega

/-- An hour at a cost of two a second, asked for as a whole. -/
theorem billsExactly_iff_hour :
    BillsExactly .empty .empty
      [.newUsage 0 1#128 (some 2#128) .workspace 3#128 "w" 4#128 2, .endUsage 1 3600000000]
      1#128 (some 2#128) 0 86400000000 10 86400000000 := by
  refine (billsExactly_iff .empty .empty ?_ 1#128 (some 2#128) 0 86400000000 (by decide)
    86400000000).2 ⟨?_, ?_, by decide +kernel⟩
  · intro call hcall
    rcases List.mem_cons.1 hcall with rfl | hcall
    · exact (by decide : (0 : Int) ≤ 2)
    · rw [List.mem_singleton.1 hcall]
      trivial
  · unfold ProductsFit
    decide +kernel
  · unfold Fits
    decide +kernel

/-- A year at a cost of a hundred a second costs nothing. -/
theorem not_billsExactly_year :
    ¬BillsExactly .empty .empty
      [.newUsage 0 1#128 none .workspace 3#128 "w" 4#128 100, .endUsage 1 31536000000000]
      1#128 none 0 31536000000000 10 31536000000000 := by
  intro h
  have hcost : 0 = 3153600000 := h.cost
  omega

end Usage

end Lapdev
