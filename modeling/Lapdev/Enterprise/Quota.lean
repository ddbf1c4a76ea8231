import Lapdev.Enterprise.Charges

/-!
# Quotas

`Quota` of `enterprise/src/quota.rs`. A quota limits what an organization or one of its members has
of a kind of thing; `check` locks the rows of the quotas and compares them with what exists.
-/

namespace Lapdev

open RustStd Sql

/-- Source: `common/src/lib.rs`. -/
inductive QuotaKind
  | workspace | runningWorkspace | project | dailyCost | monthlyCost
  deriving DecidableEq, Repr

/-- `strum_macros::Display`: the name of the variant. -/
def QuotaKind.toString : QuotaKind → String
  | workspace => "Workspace"
  | runningWorkspace => "RunningWorkspace"
  | project => "Project"
  | dailyCost => "DailyCost"
  | monthlyCost => "MonthlyCost"

/-- Source: `common/src/lib.rs`. -/
inductive QuotaLevel
  | user | organization
  deriving DecidableEq, Repr

/-- Source: `common/src/lib.rs`. -/
structure QuotaResult where
  kind : QuotaKind
  level : QuotaLevel
  existing : Nat
  quota : Nat
  deriving DecidableEq, Repr

/-- Source: `common/src/lib.rs`. -/
structure QuotaValue where
  kind : QuotaKind
  user : Nat
  organization : Nat
  deriving DecidableEq, Repr

/-- The tables that quotas are about. -/
structure QuotaDb where
  workspaces : Table Workspace.Model
  projects : Table Project.Model
  quotas : Table Quota.Model
  usage : UsageDb

namespace Quota

/-- The user whose quotas are everyone's who has none. -/
def defaultUser : Uuid := 0

/-- The rows that `quota_value` selects and locks. -/
def selected (kind : QuotaKind) (organization user : Uuid) (q : Model) : Bool :=
  q.deletedAt.isNone && q.organization = organization && q.kind = kind.toString &&
    (q.user.isNone || q.user = some user || q.user = some defaultUser)

/-- The first pass over the rows: the quota of the organization and the quota of the user. -/
def ownQuotas (user : Uuid) (value : QuotaValue) (quota : Model) : QuotaValue :=
  if quota.user.isNone ∧ 0 < quota.value then { value with organization := asUsize quota.value }
  else if quota.user = some user ∧ 0 < quota.value then { value with user := asUsize quota.value }
  else value

/-- The second pass, for a user without a quota: the quota of the default user. -/
def defaultQuotas (value : QuotaValue) (quota : Model) : QuotaValue :=
  if quota.user = some defaultUser ∧ 0 < quota.value then
    { value with user := asUsize quota.value }
  else value

/-- `Quota::quota_value`. -/
def quotaValue (quotas : Table Model) (kind : QuotaKind) (organization user : Uuid) : QuotaValue :=
  let rows := quotas.select (selected kind organization user)
  let value := rows.foldl (ownQuotas user) { kind, user := 0, organization := 0 }
  if value.user = 0 then rows.foldl defaultQuotas value else value

/-! ## What exists -/

/-- The workspaces of an organization that are not deleted. -/
def liveWorkspace (organization : Uuid) (w : Workspace.Model) : Bool :=
  w.deletedAt.isNone && w.organizationId = organization

/-- The workspaces among these that take resources on their own. -/
def runningWorkspace (w : Workspace.Model) : Bool :=
  w.status ≠ WorkspaceStatus.stopped.toString && w.composeParent.isNone

/-- The projects of an organization that are not deleted. -/
def liveProject (organization : Uuid) (p : Project.Model) : Bool :=
  p.deletedAt.isNone && p.organizationId = organization

/-- `Quota::get_user_existing`, at one instant. -/
def getUserExisting (calendar : Calendar) (db : QuotaDb) (kind : QuotaKind)
    (organization user : Uuid) (now : Int) : Except Usage.Error Nat :=
  match kind with
  | .workspace =>
    .ok (db.workspaces.select fun w => liveWorkspace organization w && w.userId = user).length
  | .runningWorkspace =>
    .ok (db.workspaces.select fun w =>
      liveWorkspace organization w && w.userId = user && runningWorkspace w).length
  | .project => .ok 0
  | .dailyCost => Usage.getDailyCost calendar db.usage organization (some user) none now now
  | .monthlyCost => Usage.getMonthlyCost calendar db.usage organization (some user) none now now

/-- `Quota::get_organization_existing`, at one instant. -/
def getOrganizationExisting (calendar : Calendar) (db : QuotaDb) (kind : QuotaKind)
    (organization : Uuid) (now : Int) : Except Usage.Error Nat :=
  match kind with
  | .workspace => .ok (db.workspaces.select (liveWorkspace organization)).length
  | .runningWorkspace =>
    .ok (db.workspaces.select fun w => liveWorkspace organization w && runningWorkspace w).length
  | .project => .ok (db.projects.select (liveProject organization)).length
  | .dailyCost => do
    let cost ← Usage.getDailyCost calendar db.usage organization none none now now
    pure (cost / 60 / 60)
  | .monthlyCost => do
    let cost ← Usage.getMonthlyCost calendar db.usage organization none none now now
    pure (cost / 60 / 60)

/-- The first half of `Quota::do_check`: the quota of the user. -/
def checkUser (calendar : Calendar) (db : QuotaDb) (quota : QuotaValue) (organization user : Uuid)
    (now : Int) : Except Usage.Error (Option QuotaResult) := do
  if 0 < quota.user then
    let n ← getUserExisting calendar db quota.kind organization user now
    if quota.user ≤ n then
      return some { kind := quota.kind, level := .user, existing := n, quota := quota.user }
  return none

/-- The second half of `Quota::do_check`: the quota of the organization. -/
def checkOrganization (calendar : Calendar) (db : QuotaDb) (quota : QuotaValue)
    (organization : Uuid) (now : Int) : Except Usage.Error (Option QuotaResult) := do
  if 0 < quota.organization then
    let n ← getOrganizationExisting calendar db quota.kind organization now
    if quota.organization ≤ n then
      return some
        { kind := quota.kind, level := .organization, existing := n, quota := quota.organization }
  return none

/-- `Quota::do_check`. -/
def doCheck (calendar : Calendar) (db : QuotaDb) (quota : QuotaValue) (organization user : Uuid)
    (now : Int) : Except Usage.Error (Option QuotaResult) := do
  match ← checkUser calendar db quota organization user now with
  | some result => return some result
  | none => checkOrganization calendar db quota organization now

/-- `Quota::check`. -/
def check (calendar : Calendar) (db : QuotaDb) (kind : QuotaKind) (organization user : Uuid)
    (now : Int) : Except Usage.Error (Option QuotaResult) :=
  doCheck calendar db (quotaValue db.quotas kind organization user) organization user now

end Quota

end Lapdev
