import Lapdev.Enterprise.QuotaRequests
import Lapdev.Enterprise.QuotaUnits
import Mathlib.Algebra.BigOperators.Group.Finset.Piecewise

/-!
# Quotas over whole runs

A quota for workspaces holds in every run: the row of the quota is locked from before the count to
the commit of the new row, so the number of workspaces the quota is about belongs to the holder of
that lock (`workspaceDiscipline`). Projects have no such lock: what the check of a request counts are
the projects there are, and not those of the requests between their check and their row. So the quota
of an organization holds in the runs in which no such request is there whenever another one counts
(`Alone`). The quota of a user is compared with nothing, and holds back no request
(`exists_run_past_userQuota`).
-/

namespace Lapdev

open RustStd Sql Locking Runs

namespace Conductor

variable {I : Type*}

/-! ## The row of a quota that is in force -/

/-- What no step of a fold changes. -/
theorem foldl_congr {α β γ : Type*} {f : β → α → β} {g : β → γ} {l : List α} {b : β}
    (h : ∀ a ∈ l, ∀ b, g (f b a) = g b) : g (l.foldl f b) = g b := by
  induction l generalizing b with
  | nil => rfl
  | cons a l ih =>
    rw [List.foldl_cons, ih fun a' ha => h a' (List.mem_cons_of_mem _ ha), h a List.mem_cons_self]

/-- Only a row without a user sets the quota of the organization. -/
theorem organization_ownQuotas {user : Uuid} {row : Quota.Model} (h : row.user ≠ none)
    (value : QuotaValue) : (Quota.ownQuotas user value row).organization = value.organization := by
  rw [Quota.ownQuotas, if_neg fun hrow => h (Option.isNone_iff_eq_none.1 hrow.1)]
  split <;> rfl

/-- A default quota is one of the organization. -/
theorem organization_defaultQuotas (value : QuotaValue) (row : Quota.Model) :
    (Quota.defaultQuotas value row).organization = value.organization := by
  rw [Quota.defaultQuotas]
  split <;> rfl

/-- The value is of the kind that was asked for. -/
@[simp] theorem kind_quotaValue (quotas : Table Quota.Model) (kind : QuotaKind)
    (organization user : Uuid) :
    (Quota.quotaValue quotas kind organization user).kind = kind := by
  have hown : ∀ (value : QuotaValue) (row : Quota.Model),
      (Quota.ownQuotas user value row).kind = value.kind := by
    intro value row
    rw [Quota.ownQuotas]
    split
    · rfl
    · split <;> rfl
  have hdefault : ∀ (value : QuotaValue) (row : Quota.Model),
      (Quota.defaultQuotas value row).kind = value.kind := by
    intro value row
    rw [Quota.defaultQuotas]
    split <;> rfl
  simp only [Quota.quotaValue]
  split
  · rw [foldl_congr (g := QuotaValue.kind) fun row _ value => hdefault value row,
      foldl_congr (g := QuotaValue.kind) fun row _ value => hown value row]
  · rw [foldl_congr (g := QuotaValue.kind) fun row _ value => hown value row]

/-- A quota in force has a row that every request it covers locks. -/
theorem Limit.InForce.exists_row {l : Limit} {quotas : Table Quota.Model} {q : Nat} (hq : 0 < q)
    (h : l.InForce quotas q) :
    ∃ row ∈ quotas.rows, ∀ r : Request, l.Covers r →
      Quota.selected l.resource.kind r.organization r.user row = true := by
  rw [Limit.InForce] at h
  cases huser : l.user with
  | none =>
    rw [huser] at h
    have hvalue := h 0
    simp only [Quota.quotaValue] at hvalue
    by_cases hrow : ∃ row ∈ quotas.select (Quota.selected l.resource.kind l.organization 0),
        row.user = none
    · obtain ⟨row, hmem, hnone⟩ := hrow
      obtain ⟨hmem, hselected⟩ := Table.mem_select.1 hmem
      refine ⟨row, hmem, fun r hr => ?_⟩
      simp only [Quota.selected, hnone, Option.isNone_none, Bool.true_or, Bool.and_true] at hselected ⊢
      rwa [hr.2.1]
    · have hzero : ∀ value, ((quotas.select (Quota.selected l.resource.kind l.organization 0)).foldl
          (Quota.ownQuotas 0) value).organization = value.organization := fun value =>
        foldl_congr (g := QuotaValue.organization) fun row hmem =>
          organization_ownQuotas fun hnone => hrow ⟨row, hmem, hnone⟩
      split at hvalue
      · rw [foldl_congr (g := QuotaValue.organization) fun row _ value =>
          organization_defaultQuotas value row, hzero] at hvalue
        exact absurd hvalue (Nat.ne_of_lt hq)
      · rw [hzero] at hvalue
        exact absurd hvalue (Nat.ne_of_lt hq)
  | some u =>
    rw [huser] at h
    cases hrows : quotas.select (Quota.selected l.resource.kind l.organization u) with
    | nil =>
      simp only [Quota.quotaValue, hrows, List.foldl_nil] at h
      exact absurd h (Nat.ne_of_lt hq)
    | cons row rows =>
      have hmem : row ∈ quotas.select (Quota.selected l.resource.kind l.organization u) := by
        rw [hrows]
        exact List.mem_cons_self
      obtain ⟨hmem, hselected⟩ := Table.mem_select.1 hmem
      refine ⟨row, hmem, fun r hr => ?_⟩
      rwa [hr.2.1, hr.2.2 u huser]

/-! ## What a new row adds -/

section Rows

variable {l : Limit} {r : Request} {db : QuotaDb} {id machineTypeId hostId : Uuid} {cores : CpuCore}

/-- A workspace that is committed is one more where it is covered. -/
theorem existing_commitWorkspace {workspaces : Table Workspace.Model} (hl : l.resource = .workspace)
    (hr : r.resource = .workspace)
    (h : db.workspaces.insert (r.workspace id machineTypeId hostId cores) = .ok workspaces) :
    l.existing { db with workspaces } = l.existing db + if l.Covers r then 1 else 0 := by
  have hnew : (Quota.liveWorkspace l.organization (r.workspace id machineTypeId hostId cores) &&
      l.user.all fun u => (r.workspace id machineTypeId hostId cores).userId = u) =
      decide (l.Covers r) := by
    change (decide (r.organization = l.organization) && l.user.all fun u => decide (r.user = u)) = _
    rw [Bool.eq_iff_iff, decide_eq_true_eq, Limit.Covers, hl, hr]
    simp [Option.all_eq_true]
  simp only [Limit.existing, hl]
  rw [Table.select_insert h, hnew, List.length_append]
  by_cases hcovers : l.Covers r <;> simp [hcovers]

/-- A project that is committed is one more where it is covered. -/
theorem existing_commitProject {projects : Table Project.Model} (hl : l.resource = .project)
    (hr : r.resource = .project)
    (h : db.projects.insert (r.project id machineTypeId hostId) = .ok projects) :
    l.existing { db with projects } = l.existing db + if l.Covers r then 1 else 0 := by
  have hnew : (Quota.liveProject l.organization (r.project id machineTypeId hostId) &&
      l.user.all fun u => (r.project id machineTypeId hostId).createdBy = u) =
      decide (l.Covers r) := by
    change (decide (r.organization = l.organization) && l.user.all fun u => decide (r.user = u)) = _
    rw [Bool.eq_iff_iff, decide_eq_true_eq, Limit.Covers, hl, hr]
    simp [Option.all_eq_true]
  simp only [Limit.existing, hl]
  rw [Table.select_insert h, hnew, List.length_append]
  by_cases hcovers : l.Covers r <;> simp [hcovers]

/-- The rows of the other table do not count. -/
theorem existing_of_workspaces (hl : l.resource = .project) (workspaces : Table Workspace.Model) :
    l.existing { db with workspaces } = l.existing db := by
  simp only [Limit.existing, hl]

/-- Projects do not count against a quota for workspaces. -/
theorem existing_of_projects (hl : l.resource = .workspace) (projects : Table Project.Model) :
    l.existing { db with projects } = l.existing db := by
  simp only [Limit.existing, hl]

end Rows

/-! ## Workspaces -/

section Workspaces

variable {calendar : Calendar} {l : Limit} {q : Nat} {quotas : Table Quota.Model}
  {row : Quota.Model}

/-- A count of the user's workspaces that does not reach the quota. -/
theorem existing_lt_of_checkUser {db : QuotaDb} {value : QuotaValue} {u : Uuid} {now : Int}
    (hl : l.resource = .workspace) (huser : l.user = some u) (hkind : value.kind = .workspace)
    (hvalue : value.user = q) (hq : 0 < q)
    (h : Quota.checkUser calendar db value l.organization u now = .ok none) :
    l.existing db < q := by
  subst hvalue
  simp only [Quota.checkUser, hq, hkind, Quota.getUserExisting, if_true] at h
  by_contra hle
  simp only [Limit.existing, hl, huser, Option.all_some, Nat.not_lt] at hle
  change (if _ then _ else _) = _ at h
  rw [if_pos hle] at h
  cases h

/-- A count of the organization's workspaces that does not reach the quota. -/
theorem existing_lt_of_checkOrganization {db : QuotaDb} {value : QuotaValue} {now : Int}
    (huser : l.user = none) (hkind : value.kind = l.resource.kind)
    (hvalue : value.organization = q) (hq : 0 < q)
    (h : Quota.checkOrganization calendar db value l.organization now = .ok none) :
    l.existing db < q := by
  subst hvalue
  by_contra hle
  rw [Nat.not_lt] at hle
  cases hl : l.resource with
  | workspace =>
    rw [hl] at hkind
    simp only [Limit.existing, hl, huser, Option.all_none, Bool.and_true] at hle
    simp only [Quota.checkOrganization, hq, hkind, Resource.kind, Quota.getOrganizationExisting,
      if_true] at h
    change (if _ then _ else _) = _ at h
    rw [if_pos hle] at h
    cases h
  | project =>
    rw [hl] at hkind
    simp only [Limit.existing, hl, huser, Option.all_none, Bool.and_true] at hle
    simp only [Quota.checkOrganization, hq, hkind, Resource.kind, Quota.getOrganizationExisting,
      if_true] at h
    change (if _ then _ else _) = _ at h
    rw [if_pos hle] at h
    cases h

/-- What a request has locked and read, if the quota covers it: before its first check nothing, and
afterwards the row of the quota. -/
def LockedRow (l : Limit) (quotas : Table Quota.Model) (row : Quota.Model) (t : Txn) : Prop :=
  match t.phase with
  | .checking kinds => kinds = Resource.checks .workspace ∨ .workspace ∉ kinds ∧ row ∈ t.locked
  | .countingUser value kinds | .countingOrganization value kinds =>
    .workspace ∉ kinds ∧ row ∈ t.locked ∧ (value.kind = .workspace →
      value = Quota.quotaValue quotas .workspace l.organization t.request.user)
  | .checked | .insertedWorkspace _ _ _ _ => row ∈ t.locked
  | .prepared | .insertedProject _ _ _ => True

/-- The number of workspaces has been compared with the quota. -/
def Counted (l : Limit) : Phase → Prop
  | .checking kinds => .workspace ∉ kinds
  | .countingUser value _ => value.kind ≠ .workspace
  | .countingOrganization value _ => l.user.isSome ∨ value.kind ≠ .workspace
  | .checked | .insertedWorkspace _ _ _ _ => True
  | .prepared | .insertedProject _ _ _ => False

/-- A request that has counted has locked the row. -/
theorem LockedRow.mem_locked {t : Txn} (h : LockedRow l quotas row t) (hcounted : Counted l t.phase) :
    row ∈ t.locked := by
  obtain ⟨r, phase, locked⟩ := t
  cases phase with
  | checking kinds =>
    rcases h with heq | ⟨-, hmem⟩
    · exact absurd (heq ▸ List.mem_cons_self) hcounted
    · exact hmem
  | countingUser | countingOrganization => exact h.2.1
  | checked | insertedWorkspace => exact h
  | prepared | insertedProject => exact hcounted.elim

/-- A statement that a quota for workspaces covers keeps what the request has locked and read. -/
theorem lockedRow_step {db db' : QuotaDb} {t u : Txn}
    (hrow : row ∈ quotas.rows) (hselected : ∀ r : Request, l.Covers r →
      Quota.selected .workspace r.organization r.user row = true)
    (h : Statement calendar db t db' (some u)) (henv : db.quotas = quotas)
    (hcovers : l.Covers t.request) (hlocked : LockedRow l quotas row t) :
    LockedRow l quotas row u := by
  cases h with
  | @quotaValue r kind kinds locked =>
    rcases hlocked with heq | ⟨hnot, hmem⟩
    · -- the first check, which locks the row
      cases heq
      refine ⟨by decide, ?_, fun _ => by rw [henv, hcovers.2.1]⟩
      rw [henv]
      exact List.mem_append_right _ (Table.mem_select.2 ⟨hrow, hselected r hcovers⟩)
    · refine ⟨fun hin => hnot (List.mem_cons_of_mem _ hin), List.mem_append_left _ hmem, ?_⟩
      intro hkind
      rw [kind_quotaValue] at hkind
      exact absurd (hkind ▸ List.mem_cons_self) hnot
  | countUser => exact hlocked
  | @countOrganization r value kinds locked now =>
    obtain ⟨hnot, hmem, -⟩ := hlocked
    cases kinds with
    | nil => exact hmem
    | cons kind kinds => exact .inr ⟨hnot, hmem⟩
  | commitChecks => trivial
  | insertProject => trivial
  | insertWorkspace => exact hlocked

/-- The holder of the row of a quota for workspaces that has counted stays below the quota. -/
theorem counted_step {db db' : QuotaDb} {t u : Txn} (hl : l.resource = .workspace) (hq : 0 < q)
    (hforce : l.InForce quotas q) (h : Statement calendar db t db' (some u))
    (hcovers : l.Covers t.request) (hlocked : LockedRow l quotas row t)
    (hcounted : Counted l t.phase → l.existing db < q) (hu : Counted l u.phase) :
    l.existing db' < q := by
  cases h with
  | @quotaValue r kind kinds locked =>
    refine hcounted fun hin => ?_
    change (Quota.quotaValue _ _ _ _).kind ≠ _ at hu
    rw [kind_quotaValue] at hu
    rcases hlocked with heq | ⟨hnot, -⟩
    · cases heq
      exact hu rfl
    · exact hnot hin
  | @countUser r value kinds locked now hcheck =>
    by_cases hkind : value.kind = .workspace
    · obtain ⟨-, -, hvalue⟩ := hlocked
      cases huser : l.user with
      | none =>
        rcases hu with hsome | hne
        · rw [huser] at hsome
          cases hsome
        · exact absurd hkind hne
      | some u =>
        rw [Limit.InForce, huser, hl] at hforce
        rw [hcovers.2.1, hcovers.2.2 u huser] at hcheck
        refine existing_lt_of_checkUser hl huser hkind ?_ hq hcheck
        rw [hvalue hkind, ← hforce]
        exact congrArg (fun u => (Quota.quotaValue _ _ _ u).user) (hcovers.2.2 u huser)
    · exact hcounted hkind
  | @countOrganization r value kinds locked now hcheck =>
    by_cases hearlier : l.user.isSome ∨ value.kind ≠ .workspace
    · exact hcounted hearlier
    · obtain ⟨hnone, hkind⟩ := not_or.1 hearlier
      obtain ⟨-, -, hvalue⟩ := hlocked
      have huser : l.user = none := Option.not_isSome_iff_eq_none.1 hnone
      rw [Limit.InForce, huser, hl] at hforce
      rw [hcovers.2.1] at hcheck
      refine existing_lt_of_checkOrganization huser ((not_ne_iff.1 hkind).trans (by rw [hl]; rfl))
        ?_ hq hcheck
      rw [hvalue (not_ne_iff.1 hkind)]
      exact hforce _
  | commitChecks => exact hu.elim
  | insertProject => exact hu.elim
  | insertWorkspace => exact hcounted trivial

/-- A statement changes the number of workspaces only by the commit of a workspace the quota
covers. -/
theorem existing_step {db db' : QuotaDb} {t : Txn} {t' : Option Txn} (hl : l.resource = .workspace)
    (h : Statement calendar db t db' t') :
    l.existing db' = l.existing db ∨ l.existing db' = l.existing db + 1 ∧ t' = none ∧
      l.Covers t.request ∧ ∃ id machineTypeId hostId cores,
        t.phase = .insertedWorkspace id machineTypeId hostId cores := by
  cases h with
  | @commitWorkspace r locked id machineTypeId hostId cores workspaces hr hinsert =>
    rw [existing_commitWorkspace hl hr hinsert]
    by_cases hcovers : l.Covers r
    · exact .inr ⟨by rw [if_pos hcovers], rfl, hcovers, _, _, _, _, rfl⟩
    · exact .inl (by rw [if_neg hcovers, Nat.add_zero])
  | commitProject => exact .inl (existing_of_projects hl _)
  | quotaValue | countUser | countOrganization | commitChecks | insertProject | insertWorkspace
  | fail => exact .inl rfl

/-- The row of a quota for workspaces protects the number of workspaces the quota is about. -/
def workspaceDiscipline (calendar : Calendar) {l : Limit} {q : Nat} {quotas : Table Quota.Model}
    {row : Quota.Model} (hl : l.resource = .workspace) (hq : 0 < q) (hforce : l.InForce quotas q)
    (hrow : row ∈ quotas.rows) (hselected : ∀ r : Request, l.Covers r →
      Quota.selected .workspace r.organization r.user row = true) :
    Discipline (requests calendar true) where
  env db := db.quotas = quotas
  valid _ t := l.Covers t.request → LockedRow l quotas row t
  inv k db := k = row → l.existing db ≤ q
  knows k db t := k = row → l.Covers t.request → Counted l t.phase → l.existing db < q
  start := by
    rintro db ⟨r, phase, locked⟩ ⟨-, hphase⟩ - hcovers
    change phase = .checking r.resource.checks at hphase
    subst hphase
    exact .inl (by rw [hcovers.1, hl])
  env_step h henv _ := by cases h <;> exact henv
  valid_step h henv hvalid hcovers := by
    have hsame : ∀ {db t db' u}, Statement calendar db t db' (some u) → u.request = t.request := by
      intro db t db' u h
      cases h <;> rfl
    rw [hsame h] at hcovers
    exact lockedRow_step hrow hselected h henv hcovers (hvalid hcovers)
  valid_frame _ _ _ hvalid := hvalid
  own := by
    intro k db t db' t' h henv hvalid hinv hknows
    refine ⟨?_, ?_⟩
    · rintro rfl
      rcases existing_step hl h with heq | ⟨hadd, -, hcovers, id, machineTypeId, hostId, cores, hphase⟩
      · rw [heq]
        exact hinv rfl
      · -- the new row is committed by a holder of the lock that has counted
        have hlocked := hvalid hcovers
        rw [LockedRow, hphase] at hlocked
        have := hknows hlocked rfl hcovers (by rw [hphase]; trivial)
        omega
    · rintro u rfl hu rfl hcovers hcounted
      have hsame : u.request = t.request := by cases h <;> rfl
      rw [hsame] at hcovers
      have hlocked := hvalid hcovers
      exact counted_step hl hq hforce h hcovers hlocked
        (fun ht => hknows (hlocked.mem_locked ht) rfl hcovers ht) hcounted
  frame := by
    intro k db t db' t' u h henv hvalid _ hnot hu hknows hk hcovers hcounted
    subst hk
    rcases existing_step hl h with heq | ⟨-, -, hcov, id, machineTypeId, hostId, cores, hphase⟩
    · rw [heq]
      exact hknows rfl hcovers hcounted
    · have hlocked := hvalid hcov
      rw [LockedRow, hphase] at hlocked
      exact absurd hlocked hnot

end Workspaces

/-! ## Projects -/

section Projects

variable [Fintype I] [DecidableEq I] {calendar : Calendar} {l : Limit} {q : Nat}

/-- A request that the quota covers is between its check and its row. -/
def Limit.isPending (l : Limit) : Option Txn → Bool
  | none => false
  | some t => decide (l.Covers t.request) && match t.phase with
    | .checked | .prepared | .insertedProject _ _ _ => true
    | .checking _ | .countingUser _ _ | .countingOrganization _ _ | .insertedWorkspace _ _ _ _ =>
      false

/-- The number of these requests. -/
def Limit.pending (l : Limit) (sys : System QuotaDb Txn I) : Nat :=
  (Finset.univ.filter fun i => l.isPending (sys.txns i)).card

/-- When a request for a project that the quota covers counts for the last time, no other one is
between its check and its row. -/
def Alone (l : Limit) (sys : System QuotaDb Txn I) (i : I) : Prop :=
  l.resource = .project → ∀ r value locked,
    sys.txns i = some ⟨r, .countingOrganization value [], locked⟩ → l.Covers r → l.pending sys = 0

/-- What a request for a project has read, if the quota covers it. -/
def ReadValue (l : Limit) (quotas : Table Quota.Model) (t : Txn) : Prop :=
  match t.phase with
  | .checking kinds => kinds = Resource.checks .project
  | .countingUser value kinds | .countingOrganization value kinds =>
    kinds = [] ∧ value = Quota.quotaValue quotas .project l.organization t.request.user
  | .checked | .prepared | .insertedProject _ _ _ | .insertedWorkspace _ _ _ _ => True

/-- A statement keeps the value that the transaction has read. -/
theorem readValue_step {quotas : Table Quota.Model} {db db' : QuotaDb} {t u : Txn}
    (h : Statement calendar db t db' (some u)) (henv : db.quotas = quotas)
    (hcovers : l.Covers t.request) (hread : ReadValue l quotas t) : ReadValue l quotas u := by
  cases h with
  | quotaValue =>
    cases hread
    exact ⟨rfl, by rw [henv, hcovers.2.1]⟩
  | countUser => exact hread
  | @countOrganization r value kinds locked now hcheck =>
    obtain ⟨rfl, -⟩ := hread
    trivial
  | commitChecks | insertProject | insertWorkspace => trivial

/-- No lock protects the projects, but what a request has read of the quotas stays true. -/
def projectDiscipline (calendar : Calendar) {l : Limit} (quotas : Table Quota.Model)
    (hl : l.resource = .project) : Discipline (requests calendar true) where
  env db := db.quotas = quotas
  valid _ t := l.Covers t.request → ReadValue l quotas t
  inv _ _ := True
  knows _ _ _ := True
  start := by
    rintro db ⟨r, phase, locked⟩ ⟨-, hphase⟩ - hcovers
    change phase = .checking r.resource.checks at hphase
    subst hphase
    exact congrArg Resource.checks (hcovers.1.trans hl)
  env_step h henv _ := by cases h <;> exact henv
  valid_step h henv hvalid hcovers := by
    have hsame : ∀ {db t db' u}, Statement calendar db t db' (some u) → u.request = t.request := by
      intro db t db' u h
      cases h <;> rfl
    rw [hsame h] at hcovers
    exact readValue_step h henv hcovers (hvalid hcovers)
  valid_frame _ _ _ hvalid := hvalid
  own _ _ _ _ _ := ⟨trivial, fun _ _ _ => trivial⟩
  frame _ _ _ _ _ _ _ := trivial

/-- The transactions of one process in a count over all. -/
theorem card_filter_update {τ : Type*} (p : Option τ → Bool) (txns : I → Option τ) (i : I)
    (v : Option τ) :
    (Finset.univ.filter fun j => p (Function.update txns i v j)).card + (p (txns i)).toNat =
      (Finset.univ.filter fun j => p (txns j)).card + (p v).toNat := by
  have hsum : ∀ f : I → Option τ, (Finset.univ.filter fun j => p (f j)).card =
      (p (f i)).toNat + ∑ j ∈ Finset.univ.erase i, (p (f j)).toNat := by
    intro f
    rw [Finset.add_sum_erase _ (fun j => (p (f j)).toNat) (Finset.mem_univ i), Finset.card_filter]
    refine Finset.sum_congr rfl fun j _ => ?_
    cases p (f j) <;> rfl
  have hrest : ∑ j ∈ Finset.univ.erase i, (p (Function.update txns i v j)).toNat =
      ∑ j ∈ Finset.univ.erase i, (p (txns j)).toNat := by
    refine Finset.sum_congr rfl fun j hj => ?_
    rw [Function.update_of_ne (Finset.ne_of_mem_erase hj)]
  rw [hsum, hsum txns, hrest, Function.update_self]
  omega

/-- A statement adds to the projects there are and those to come only if it is the last check of a
request, and lets it through. -/
theorem load_statement {db db' : QuotaDb} {t : Txn} {t' : Option Txn} (hl : l.resource = .project)
    (h : Statement calendar db t db' t') :
    l.existing db' + (l.isPending t').toNat ≤ l.existing db + (l.isPending (some t)).toNat ∨
      l.existing db' = l.existing db ∧ ∃ r value locked now,
        t = ⟨r, .countingOrganization value [], locked⟩ ∧ l.Covers r ∧
          Quota.checkOrganization calendar db value r.organization now = .ok none := by
  cases h with
  | quotaValue | countUser | fail => exact .inl (by simp [Limit.isPending])
  | @countOrganization r value kinds locked now hcheck =>
    cases kinds with
    | cons kind kinds => exact .inl (by simp [Limit.isPending, Phase.next])
    | nil =>
      by_cases hcovers : l.Covers r
      · exact .inr ⟨rfl, r, value, locked, now, rfl, hcovers, hcheck⟩
      · exact .inl (by simp [Limit.isPending, hcovers])
  | commitChecks | insertProject => exact .inl (Nat.le_refl _)
  | insertWorkspace => exact .inl (by simp [Limit.isPending])
  | @commitProject r locked id machineTypeId hostId projects hr hinsert =>
    rw [existing_commitProject hl hr hinsert]
    by_cases hcovers : l.Covers r <;> exact .inl (by simp [Limit.isPending, hcovers])
  | commitWorkspace => exact .inl (by simp [Limit.isPending, existing_of_workspaces hl])

/-- A request that counts alone keeps the projects there are and those to come within the quota of
its organization, as its check has compared them. -/
theorem load_step {quotas : Table Quota.Model} {sys sys' : System QuotaDb Txn I} {i : I}
    (hl : l.resource = .project) (huser : l.user = none) (hq : 0 < q) (hforce : l.InForce quotas q)
    (hprotected : (projectDiscipline calendar quotas hl).Protected sys)
    (hstep : Step (requests calendar true) sys i sys') (halone : Alone l sys i)
    (h : l.existing sys.db + l.pending sys ≤ q) : l.existing sys'.db + l.pending sys' ≤ q := by
  cases hstep with
  | @start t hnone hstarts =>
    have hcard := card_filter_update l.isPending sys.txns i (some t)
    have hpending : l.isPending (some t) = false := by
      rw [Limit.isPending, hstarts.2]
      exact Bool.and_false _
    have hidle : l.isPending none = false := rfl
    rw [hnone, hpending, hidle, Bool.toNat_false, Nat.add_zero, Nat.add_zero] at hcard
    rw [Limit.pending] at h ⊢
    rwa [hcard]
  | @statement t db' t' hsome hstatement _ =>
    have hcard := card_filter_update l.isPending sys.txns i t'
    rw [hsome] at hcard
    have hpending : l.pending sys = (Finset.univ.filter fun j => l.isPending (sys.txns j)).card := rfl
    rw [Limit.pending]
    rcases load_statement hl hstatement with hle | ⟨heq, r, value, locked, now, rfl, hcovers, hcheck⟩
    · dsimp only
      omega
    · -- the check that lets a request through has counted all projects there are or will be
      obtain ⟨-, hvalue⟩ := hprotected.valid i _ hsome hcovers
      rw [Limit.InForce, huser, hl] at hforce
      have hread : value.organization = q := by
        rw [hvalue]
        exact hforce _
      have hkind : value.kind = l.resource.kind := by
        rw [hvalue, kind_quotaValue, hl]
        rfl
      rw [hcovers.2.1] at hcheck
      have hlt : l.existing sys.db < q :=
        existing_lt_of_checkOrganization huser hkind hread hq hcheck
      have hnone : l.pending sys = 0 := halone hl r value locked hsome hcovers
      have hone := Bool.toNat_le (l.isPending t')
      dsimp only
      omega

omit [Fintype I] in
/-- A statement of the only request there is. -/
theorem step_only {db db' : QuotaDb} {txns : I → Option Txn} {i : I} {t : Txn} {t' : Option Txn}
    (hothers : ∀ j, j ≠ i → txns j = none) (h : Statement calendar db t db' t') :
    Step (requests calendar true) ⟨db, Function.update txns i (some t)⟩ i
      ⟨db', Function.update txns i t'⟩ := by
  have hstep := @Step.statement _ _ _ _ _ (requests calendar true)
    ⟨db, Function.update txns i (some t)⟩ i t db' t' (Function.update_self ..) h
    fun u k _ _ j v hj hv => by
      change Function.update txns i (some t) j = some v at hv
      rw [Function.update_of_ne hj, hothers j hj] at hv
      cases hv
  rwa [Function.update_idem] at hstep

/-- The only request there is is not preceded by others between their check and their row. -/
theorem alone_only {db : QuotaDb} {txns : I → Option Txn} {i : I} {t : Txn}
    (hothers : ∀ j, j ≠ i → txns j = none) :
    Alone l ⟨db, Function.update txns i (some t)⟩ i := by
  intro _ r value locked hsome _
  change Function.update txns i (some t) i = _ at hsome
  rw [Function.update_self] at hsome
  cases hsome
  rw [Limit.pending, Finset.card_eq_zero, Finset.filter_eq_empty_iff]
  intro j _ hpending
  change l.isPending (Function.update txns i (some _) j) = true at hpending
  by_cases hj : j = i
  · rw [hj, Function.update_self] at hpending
    exact absurd hpending (by simp [Limit.isPending])
  · rw [Function.update_of_ne hj, hothers j hj] at hpending
    cases hpending

/-- **The quota of a user for projects holds back no request.** Where no request is under way and the
organization's own quota is not reached, a single request of the user adds a project, whatever the
user's quota is and however many projects the user has. -/
theorem exists_run_past_userQuota {u : Uuid} (hl : l.resource = .project) (huser : l.user = some u)
    {sys : System QuotaDb Txn I} (hidle : ∀ i, sys.txns i = none) (i : I) {now : Int}
    (hroom : Quota.checkOrganization calendar sys.db
      (Quota.quotaValue sys.db.quotas .project l.organization u) l.organization now = .ok none)
    {id : Uuid} (hfresh : ∀ p ∈ sys.db.projects.rows, p.id ≠ id) :
    ∃ as sys', Run (Guarded (Step (requests calendar true)) (Alone l)) sys as sys' ∧
      (∀ i, sys'.txns i = none) ∧ l.existing sys'.db = l.existing sys.db + 1 := by
  obtain ⟨db, txns⟩ := sys
  let r : Request := ⟨.project, l.organization, u⟩
  have hcovers : l.Covers r := ⟨hl.symm, rfl, fun v hv => Option.some.inj (huser.symm.trans hv)⟩
  have hothers : ∀ j, j ≠ i → txns j = none := fun j _ => hidle j
  have hstart : Step (requests calendar true) ⟨db, txns⟩ i
      ⟨db, Function.update txns i (some ⟨r, .checking [.project], []⟩)⟩ :=
    @Step.start _ _ _ _ _ (requests calendar true) ⟨db, txns⟩ i _ (hidle i) ⟨rfl, rfl⟩
  have hfirst : Alone l ⟨db, txns⟩ i := by
    intro _ r value locked hsome _
    rw [hidle i] at hsome
    cases hsome
  -- the user's projects are counted as none
  have hcount : Quota.checkUser calendar db (Quota.quotaValue db.quotas .project l.organization u)
      l.organization u now = .ok none := by
    rw [Quota.checkUser, kind_quotaValue]
    split_ifs with hpos
    · change (if _ then _ else _) = _
      rw [if_neg (Nat.not_le_of_lt hpos)]
      rfl
    · rfl
  obtain ⟨projects, hinsert⟩ := db.projects.insert_of_not_conflict (r.project id 0 0) hfresh
  refine ⟨[i, i, i, i, i, i, i], ⟨{ db with projects }, Function.update txns i none⟩,
    .cons ⟨hstart, hfirst⟩ <| .cons ⟨step_only hothers .quotaValue, alone_only hothers⟩ <|
    .cons ⟨step_only hothers (.countUser hcount), alone_only hothers⟩ <|
    .cons ⟨step_only hothers (.countOrganization hroom), alone_only hothers⟩ <|
    .cons ⟨step_only hothers (.commitChecks rfl), alone_only hothers⟩ <|
    .cons ⟨step_only hothers (.insertProject rfl), alone_only hothers⟩ <|
    .cons ⟨step_only hothers (.commitProject rfl hinsert), alone_only hothers⟩ .nil,
    fun j => ?_, ?_⟩
  · change Function.update txns i none j = none
    by_cases hj : j = i
    · rw [hj, Function.update_self]
    · rw [Function.update_of_ne hj]
      exact hidle j
  · rw [existing_commitProject hl rfl hinsert, if_pos hcovers]

end Projects

/-! ## The theorem -/

variable [Fintype I] [DecidableEq I]

/-- A quota that is in force holds in every run from a state within it, as long as it is not a user's
quota for projects and no two requests for projects overlap between their last check and their row.
A user's quota for projects holds back no request. -/
theorem existing_le_of_run (calendar : Calendar) {l : Limit} {q : Nat} (hq : 0 < q)
    {sys : System QuotaDb Txn I} (hidle : ∀ i, sys.txns i = none)
    (hforce : l.InForce sys.db.quotas q) :
    ((l.resource = .project → l.user = none) → l.existing sys.db ≤ q → ∀ as sys',
      Run (Guarded (Step (requests calendar true)) (Alone l)) sys as sys' →
        l.existing sys'.db ≤ q) ∧
    (l.resource = .project → ∀ u, l.user = some u → ∀ (_ : I) (now : Int) (id : Uuid),
      Quota.checkOrganization calendar sys.db
        (Quota.quotaValue sys.db.quotas .project l.organization u) l.organization now = .ok none →
      (∀ p ∈ sys.db.projects.rows, p.id ≠ id) →
      ∃ as sys', Run (Guarded (Step (requests calendar true)) (Alone l)) sys as sys' ∧
        (∀ i, sys'.txns i = none) ∧ l.existing sys'.db = l.existing sys.db + 1) := by
  refine ⟨fun huser hstart as sys' hrun => ?_, fun hl u huser i now id hroom hfresh =>
    exists_run_past_userQuota hl huser hidle i hroom hfresh⟩
  cases hl : l.resource with
  | workspace =>
    obtain ⟨row, hrow, hselected⟩ := hforce.exists_row hq
    rw [hl] at hselected
    have hprotected := (workspaceDiscipline calendar hl hq hforce hrow hselected).run
      (hrun.mono And.left)
      (Discipline.protected_of_idle _ hidle rfl fun _ _ => hstart)
    exact hprotected.inv row rfl
  | project =>
    have hpending : l.pending sys = 0 := by
      simp [Limit.pending, hidle, Limit.isPending]
    let discipline := projectDiscipline calendar sys.db.quotas hl
    have hstep : ∀ (sys : System QuotaDb Txn I) (i : I) (sys' : System QuotaDb Txn I),
        Step (requests calendar true) sys i sys' → Alone l sys i →
        discipline.Protected sys ∧ l.existing sys.db + l.pending sys ≤ q →
        discipline.Protected sys' ∧ l.existing sys'.db + l.pending sys' ≤ q :=
      fun _ _ _ hstep halone h =>
        ⟨discipline.step hstep h.1, load_step hl (huser hl) hq hforce h.1 hstep halone h.2⟩
    have hload := Run.invariant_of_guard
      (fun sys => discipline.Protected sys ∧ l.existing sys.db + l.pending sys ≤ q) hstep hrun
      ⟨discipline.protected_of_idle hidle rfl fun _ => trivial, by rwa [hpending, Nat.add_zero]⟩
    exact Nat.le_trans (Nat.le_add_right _ _) hload.2

/-! ## One request and two -/

/-- The requests of two processes. -/
def pair (i : Bool) (mine other : Option Txn) : Bool → Option Txn :=
  fun j => if j = i then mine else other

/-- A step of one of two transactions. -/
theorem update_pair (i : Bool) (mine mine' other : Option Txn) :
    Function.update (pair i mine other) i mine' = pair i mine' other := by
  funext j
  rcases Bool.eq_or_eq_not j i with rfl | rfl
  · rw [Function.update_self, pair, if_pos rfl]
  · rw [Function.update_of_ne (by cases i <;> decide), pair, pair, if_neg (by cases i <;> decide),
      if_neg (by cases i <;> decide)]

/-- Two transactions, seen from the other one. -/
theorem pair_not (i : Bool) (mine other : Option Txn) : pair (!i) other mine = pair i mine other := by
  funext j
  rcases Bool.eq_or_eq_not j i with rfl | rfl
  · rw [pair, pair, if_neg (by cases j <;> decide), if_pos rfl]
  · rw [pair, pair, if_pos rfl, if_neg (by cases i <;> decide)]

/-- A statement of one of two requests while the other one holds no lock. -/
theorem step_pair {calendar : Calendar} {db db' : QuotaDb} (i : Bool) {t : Txn}
    {t' other : Option Txn} (h : Statement calendar db t db' t')
    (hfree : other.all fun v => v.locked.isEmpty) :
    Step (requests calendar true) ⟨db, pair i (some t) other⟩ i ⟨db', pair i t' other⟩ := by
  rw [← update_pair i (some t) t' other]
  refine @Step.statement _ _ _ _ _ (requests calendar true) ⟨db, pair i (some t) other⟩ i t db' t'
    (if_pos rfl) h fun u k _ _ j v hj hv hk => ?_
  change (if j = i then some t else other) = some v at hv
  rw [if_neg hj] at hv
  rw [hv, Option.all_some, List.isEmpty_iff] at hfree
  change k ∈ v.locked at hk
  rw [hfree] at hk
  cases hk

/-- The start of one of two requests. -/
theorem step_start {calendar : Calendar} {db : QuotaDb} (i : Bool) (r : Request)
    (other : Option Txn) :
    Step (requests calendar true) ⟨db, pair i none other⟩ i
      ⟨db, pair i (some ⟨r, .checking r.resource.checks, []⟩) other⟩ := by
  rw [← update_pair i none (some ⟨r, .checking r.resource.checks, []⟩) other]
  exact @Step.start _ _ _ _ _ (requests calendar true) ⟨db, pair i none other⟩ i
    ⟨r, .checking r.resource.checks, []⟩ (if_pos rfl) ⟨rfl, rfl⟩

/-- The row of a quota of one project. -/
def oneProjectQuota : Quota.Model := ⟨9, none, QuotaKind.project.toString, 1, 1, none⟩

/-- An organization with this quota, and some projects. -/
def oneProject (projects : Table Project.Model) : QuotaDb where
  workspaces := .empty
  projects := projects
  quotas := ⟨[oneProjectQuota], List.pairwise_singleton _ _⟩
  usage := Usage.recorded .empty .empty []

/-- The quota. -/
def oneProjectLimit : Limit := ⟨.project, 1, none⟩

/-- A request for a project there. -/
def projectRequest : Request := ⟨.project, 1, 2⟩

/-- The value its check finds. -/
def oneProjectValue : QuotaValue := ⟨.project, 0, 1⟩

/-- The tables with one project and with two. -/
def firstProject : Table Project.Model :=
  ⟨[projectRequest.project 5 6 7], List.pairwise_singleton _ _⟩

/-- Both projects. -/
def bothProjects : Table Project.Model :=
  ⟨[projectRequest.project 5 6 7, projectRequest.project 8 6 7], by decide⟩

section Statements

variable {calendar : Calendar}

/-- The request locks the quota of the projects. -/
theorem lock_projectRequest : Statement calendar (oneProject .empty)
    ⟨projectRequest, .checking [.project], []⟩ (oneProject .empty)
    (some ⟨projectRequest, .countingUser oneProjectValue [], [oneProjectQuota]⟩) :=
  .quotaValue

/-- It counts the projects of its user. -/
theorem countUser_projectRequest : Statement calendar (oneProject .empty)
    ⟨projectRequest, .countingUser oneProjectValue [], [oneProjectQuota]⟩ (oneProject .empty)
    (some ⟨projectRequest, .countingOrganization oneProjectValue [], [oneProjectQuota]⟩) :=
  @Statement.countUser _ _ _ _ _ _ 0 rfl

/-- It counts the projects of the organization. -/
theorem countOrganization_projectRequest : Statement calendar (oneProject .empty)
    ⟨projectRequest, .countingOrganization oneProjectValue [], [oneProjectQuota]⟩ (oneProject .empty)
    (some ⟨projectRequest, .checked, [oneProjectQuota]⟩) :=
  @Statement.countOrganization _ _ _ _ _ _ 0 rfl

/-- It commits its checks, which unlocks the quota. -/
theorem commitChecks_projectRequest : Statement calendar (oneProject .empty)
    ⟨projectRequest, .checked, [oneProjectQuota]⟩ (oneProject .empty)
    (some ⟨projectRequest, .prepared, []⟩) :=
  .commitChecks rfl

/-- It inserts its project. -/
theorem insert_projectRequest (projects : Table Project.Model) (id : Uuid) :
    Statement calendar (oneProject projects) ⟨projectRequest, .prepared, []⟩ (oneProject projects)
      (some ⟨projectRequest, .insertedProject id 6 7, []⟩) :=
  .insertProject rfl

/-- The first project is committed. -/
theorem commit_firstProject : Statement calendar (oneProject .empty)
    ⟨projectRequest, .insertedProject 5 6 7, []⟩ (oneProject firstProject) none :=
  .commitProject rfl (Table.ofRows_of_pairwise (List.pairwise_singleton _ _))

/-- The second one is committed beside it. -/
theorem commit_bothProjects : Statement calendar (oneProject firstProject)
    ⟨projectRequest, .insertedProject 8 6 7, []⟩ (oneProject bothProjects) none :=
  .commitProject rfl (Table.ofRows_of_pairwise (by decide))

end Statements

/-- A quota of one project of the user, and the one project. -/
def userProject : QuotaDb where
  workspaces := .empty
  projects := firstProject
  quotas := ⟨[{ oneProjectQuota with user := some 2 }], List.pairwise_singleton _ _⟩
  usage := Usage.recorded .empty .empty []

/-- The quota of the user. -/
def userProjectLimit : Limit := ⟨.project, 1, some 2⟩

/-- One request for a project, which the quota of the organization lets through, and one more that
the quota of the user does. -/
theorem existing_le_of_run_project :
    (∃ as : List Bool,
      Run (Guarded (Step (requests Quota.january true)) (Alone oneProjectLimit))
        ⟨oneProject .empty, pair false none none⟩ as
        ⟨oneProject firstProject, pair false none none⟩ ∧
      oneProjectLimit.existing (oneProject firstProject) ≤ 1) ∧
    ∃ (as : List Bool) (sys : System QuotaDb Txn Bool),
      Run (Guarded (Step (requests Quota.january true)) (Alone userProjectLimit))
        ⟨userProject, pair false none none⟩ as sys ∧
      userProjectLimit.existing sys.db = 2 := by
  have hidle : ∀ i, pair false none none i = none := fun i => by cases i <;> rfl
  constructor
  · have hrun : Run (Guarded (Step (requests Quota.january true)) (Alone oneProjectLimit))
        ⟨oneProject .empty, pair false none none⟩ [false, false, false, false, false, false, false]
        ⟨oneProject firstProject, pair false none none⟩ :=
      .cons ⟨step_start false projectRequest none, fun _ _ _ _ h => nomatch h⟩ <|
      .cons ⟨step_pair false lock_projectRequest rfl, fun _ _ _ _ h => nomatch h⟩ <|
      .cons ⟨step_pair false countUser_projectRequest rfl, fun _ _ _ _ h => nomatch h⟩ <|
      .cons ⟨step_pair false countOrganization_projectRequest rfl, fun _ _ _ _ _ _ => by decide⟩ <|
      .cons ⟨step_pair false commitChecks_projectRequest rfl, fun _ _ _ _ h => nomatch h⟩ <|
      .cons ⟨step_pair false (insert_projectRequest _ 5) rfl, fun _ _ _ _ h => nomatch h⟩ <|
      .cons ⟨step_pair false commit_firstProject rfl, fun _ _ _ _ h => nomatch h⟩ .nil
    exact ⟨_, hrun, (existing_le_of_run Quota.january (by decide) hidle (by exact fun _ => rfl)).1
      (fun _ => rfl) (by decide) _ _ hrun⟩
  · obtain ⟨as, sys, hrun, -, hexisting⟩ :=
      (@existing_le_of_run Bool _ _ Quota.january userProjectLimit 1 (by decide)
        ⟨userProject, pair false none none⟩ hidle rfl).2 rfl 2 rfl false 0 8 rfl (by decide)
    exact ⟨as, sys, hrun, hexisting⟩

/-- The checks of a request that finds no project, up to their commit. -/
theorem run_checks {calendar : Calendar} (i : Bool) {other : Option Txn}
    (hfree : other.all fun v => v.locked.isEmpty) {as : List Bool} {sys : System QuotaDb Txn Bool}
    (hrest : Run (Step (requests calendar true))
      ⟨oneProject .empty, pair i (some ⟨projectRequest, .prepared, []⟩) other⟩ as sys) :
    Run (Step (requests calendar true)) ⟨oneProject .empty, pair i none other⟩
      (i :: i :: i :: i :: i :: as) sys :=
  .cons (step_start i projectRequest other) <|
  .cons (step_pair i lock_projectRequest hfree) <|
  .cons (step_pair i countUser_projectRequest hfree) <|
  .cons (step_pair i countOrganization_projectRequest hfree) <|
  .cons (step_pair i commitChecks_projectRequest hfree) hrest

/-- Two requests that both count before either inserts its project: an organization with a quota of
one project and none at the start gets two. -/
theorem not_existing_le_two_projects :
    oneProjectLimit.InForce (oneProject .empty).quotas 1 ∧
      oneProjectLimit.existing (oneProject .empty) ≤ 1 ∧
      ∃ as : List Bool, Run (Step (requests Quota.january true))
        ⟨oneProject .empty, pair false none none⟩ as
        ⟨oneProject bothProjects, pair true none none⟩ ∧
      oneProjectLimit.existing (oneProject bothProjects) = 2 := by
  have hinserts : Run (Step (requests Quota.january true))
      ⟨oneProject .empty, pair true (some ⟨projectRequest, .prepared, []⟩)
        (some ⟨projectRequest, .prepared, []⟩)⟩ [true, true, false, false]
      ⟨oneProject bothProjects, pair true none none⟩ := by
    refine .cons (step_pair true (insert_projectRequest _ 5) rfl) ?_
    refine .cons (step_pair true commit_firstProject rfl) ?_
    rw [← pair_not true, ← pair_not true none none]
    refine .cons (step_pair false (insert_projectRequest _ 8) rfl) ?_
    exact .cons (step_pair false commit_bothProjects rfl) .nil
  have hsecond : Run (Step (requests Quota.january true))
      ⟨oneProject .empty, pair false (some ⟨projectRequest, .prepared, []⟩) none⟩
      [true, true, true, true, true, true, true, false, false]
      ⟨oneProject bothProjects, pair true none none⟩ := by
    rw [← pair_not false]
    exact run_checks true rfl hinserts
  exact ⟨fun _ => rfl, by decide, _, run_checks false rfl hsecond, rfl⟩

end Conductor

end Lapdev
