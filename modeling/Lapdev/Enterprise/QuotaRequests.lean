import Lapdev.Enterprise.Quota
import Lapdev.Logic.Locking

/-!
# Requests under a quota

`Conductor::create_project` and `Conductor::create_workspace_model` (`conductor/src/server.rs`) as
transactions whose statements interleave: the checks of `Enterprise::check_create_project_quota` and
`Enterprise::check_create_workspace_quota`, which lock the rows of the quotas and count over another
connection, and what comes between them and the new row. A workspace is inserted in the transaction
of its checks. A project is inserted in a second one, after the first has released the locks and
the workspace host has cloned the repository.
-/

namespace Lapdev

open RustStd Sql Locking

namespace Conductor

/-- What a request creates. -/
inductive Resource
  | project | workspace
  deriving DecidableEq, Repr

/-- The kind of quota that limits the number of a resource. -/
def Resource.kind : Resource → QuotaKind
  | project => .project
  | workspace => .workspace

/-- The quotas that are checked, in order. -/
def Resource.checks : Resource → List QuotaKind
  | project => [.project]
  | workspace => [.workspace, .runningWorkspace, .dailyCost, .monthlyCost]

/-- A request of a user in an organization. -/
structure Request where
  resource : Resource
  organization : Uuid
  user : Uuid
  deriving DecidableEq, Repr

/-- What a request has done so far. -/
inductive Phase
  /-- Some quotas are to be checked next. -/
  | checking (kinds : List QuotaKind)
  /-- The rows of a quota are locked, and the user's count is next. -/
  | countingUser (value : QuotaValue) (kinds : List QuotaKind)
  /-- The organization's count is next. -/
  | countingOrganization (value : QuotaValue) (kinds : List QuotaKind)
  /-- No quota is reached. -/
  | checked
  /-- The transaction of the checks of a project is committed. -/
  | prepared
  /-- The new row is inserted and not committed. -/
  | insertedProject (id machineTypeId hostId : Uuid)
  | insertedWorkspace (id machineTypeId hostId : Uuid) (cores : CpuCore)
  deriving DecidableEq, Repr

/-- The phase before the check of the next quotas. -/
def Phase.next : List QuotaKind → Phase
  | [] => checked
  | kind :: kinds => checking (kind :: kinds)

/-- A request under way, with the rows it has locked. -/
structure Txn where
  request : Request
  phase : Phase
  locked : List Quota.Model
  deriving DecidableEq, Repr

/-- The project a request creates. -/
def Request.project (r : Request) (id machineTypeId hostId : Uuid) : Project.Model where
  id := id
  deletedAt := none
  organizationId := r.organization
  createdBy := r.user
  machineTypeId := machineTypeId
  hostId := hostId

/-- The workspace a request creates. -/
def Request.workspace (r : Request) (id machineTypeId hostId : Uuid) (cores : CpuCore) :
    Workspace.Model where
  id := id
  deletedAt := none
  organizationId := r.organization
  userId := r.user
  status := WorkspaceStatus.new.toString
  hostId := hostId
  cores := cores
  machineTypeId := machineTypeId
  composeParent := none

/-- One statement of a request. Counts are of the committed state, which is what the other
connection sees. -/
inductive Statement (calendar : Calendar) : QuotaDb → Txn → QuotaDb → Option Txn → Prop
  /-- `Quota::quota_value`. -/
  | quotaValue {db : QuotaDb} {r : Request} {kind : QuotaKind} {kinds : List QuotaKind}
      {locked : List Quota.Model} :
      Statement calendar db ⟨r, .checking (kind :: kinds), locked⟩ db
        (some ⟨r, .countingUser (Quota.quotaValue db.quotas kind r.organization r.user) kinds,
          locked ++ db.quotas.select (Quota.selected kind r.organization r.user)⟩)
  /-- The first count of `Quota::do_check`. -/
  | countUser {db : QuotaDb} {r : Request} {value : QuotaValue} {kinds : List QuotaKind}
      {locked : List Quota.Model} {now : Int} :
      Quota.checkUser calendar db value r.organization r.user now = .ok none →
      Statement calendar db ⟨r, .countingUser value kinds, locked⟩ db
        (some ⟨r, .countingOrganization value kinds, locked⟩)
  /-- The second count. -/
  | countOrganization {db : QuotaDb} {r : Request} {value : QuotaValue} {kinds : List QuotaKind}
      {locked : List Quota.Model} {now : Int} :
      Quota.checkOrganization calendar db value r.organization now = .ok none →
      Statement calendar db ⟨r, .countingOrganization value kinds, locked⟩ db
        (some ⟨r, .next kinds, locked⟩)
  /-- The commit after the checks of a project, which releases the locks. -/
  | commitChecks {db : QuotaDb} {r : Request} {locked : List Quota.Model} :
      r.resource = .project →
      Statement calendar db ⟨r, .checked, locked⟩ db (some ⟨r, .prepared, []⟩)
  | insertProject {db : QuotaDb} {r : Request} {locked : List Quota.Model}
      {id machineTypeId hostId : Uuid} :
      r.resource = .project →
      Statement calendar db ⟨r, .prepared, locked⟩ db
        (some ⟨r, .insertedProject id machineTypeId hostId, locked⟩)
  | insertWorkspace {db : QuotaDb} {r : Request} {locked : List Quota.Model}
      {id machineTypeId hostId : Uuid} {cores : CpuCore} :
      r.resource = .workspace →
      Statement calendar db ⟨r, .checked, locked⟩ db
        (some ⟨r, .insertedWorkspace id machineTypeId hostId cores, locked⟩)
  | commitProject {db : QuotaDb} {r : Request} {locked : List Quota.Model}
      {id machineTypeId hostId : Uuid} {projects : Table Project.Model} :
      r.resource = .project →
      db.projects.insert (r.project id machineTypeId hostId) = .ok projects →
      Statement calendar db ⟨r, .insertedProject id machineTypeId hostId, locked⟩
        { db with projects } none
  | commitWorkspace {db : QuotaDb} {r : Request} {locked : List Quota.Model}
      {id machineTypeId hostId : Uuid} {cores : CpuCore} {workspaces : Table Workspace.Model} :
      r.resource = .workspace →
      db.workspaces.insert (r.workspace id machineTypeId hostId cores) = .ok workspaces →
      Statement calendar db ⟨r, .insertedWorkspace id machineTypeId hostId cores, locked⟩
        { db with workspaces } none
  /-- A quota that is reached, a host or a clone that fails, or any other error. -/
  | fail {db : QuotaDb} {t : Txn} : Statement calendar db t db none

/-- The requests of a server, with a license or without: without one nothing is checked. -/
def requests (calendar : Calendar) (hasValidLicense : Bool) :
    Locking.Protocol QuotaDb Txn Quota.Model where
  starts _ t := t.locked = [] ∧
    t.phase = if hasValidLicense then .checking t.request.resource.checks else .checked
  step := Statement calendar
  holds t q := q ∈ t.locked
  not_holds_of_starts h := by
    rw [h.1]
    exact List.not_mem_nil

/-! ## Limits -/

/-- A quota: what it limits the number of, and whose. -/
structure Limit where
  resource : Resource
  organization : Uuid
  user : Option Uuid

/-- The request creates something that the quota limits. -/
def Limit.Covers (l : Limit) (r : Request) : Prop :=
  r.resource = l.resource ∧ r.organization = l.organization ∧ ∀ u ∈ l.user, r.user = u

instance (l : Limit) (r : Request) : Decidable (l.Covers r) :=
  decidable_of_iff (r.resource = l.resource ∧ r.organization = l.organization ∧
    (l.user.all fun u => r.user = u) = true) (by simp [Limit.Covers, Option.all_eq_true])

/-- The live projects, or workspaces that are not deleted, of an organization or of a user there. -/
def Limit.existing (l : Limit) (db : QuotaDb) : Nat :=
  match l.resource with
  | .project =>
    (db.projects.select fun p =>
      Quota.liveProject l.organization p && l.user.all fun u => p.createdBy = u).length
  | .workspace =>
    (db.workspaces.select fun w =>
      Quota.liveWorkspace l.organization w && l.user.all fun u => w.userId = u).length

/-- A quota is in force: it is the value that the checks of the organization's requests find, or
those of the user's. -/
def Limit.InForce (l : Limit) (quotas : Table Quota.Model) (q : Nat) : Prop :=
  match l.user with
  | none => ∀ u, (Quota.quotaValue quotas l.resource.kind l.organization u).organization = q
  | some u => (Quota.quotaValue quotas l.resource.kind l.organization u).user = q

end Conductor

end Lapdev
