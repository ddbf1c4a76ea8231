import Lapdev.Conductor.Capacity
import Lapdev.Enterprise.QuotaRequests

/-!
# Reserving a host

`Conductor::create_workspace_model` from its choice of a host on, `Conductor::create_project_prebuild`
and the end of a prebuild (`conductor/src/server.rs`), as transactions whose statements interleave.
The choice of a host locks its row until the commit. A transaction reads its own writes: the second
reading of what exists sees the new row, or the new status, beside the committed state.
-/

namespace Lapdev

open RustStd Sql Locking

namespace Scheduler

/-- What a transaction is to create on a host. -/
inductive Target
  | workspace (request : Conductor.Request) (machineTypeId : Uuid)
  | prebuild (projectId : Uuid)

/-- The machine type it is created with. -/
def Target.machineType (db : SchedulerDb) : Target → Option MachineType.Model
  | .workspace _ machineTypeId => Scheduler.machineType db machineTypeId
  | .prebuild projectId => projectMachineType db projectId

/-- What a transaction writes besides the columns of the host. -/
inductive Write
  | workspace (row : Workspace.Model)
  | prebuild (row : Prebuild.Model)
  | status (id : Uuid) (status : PrebuildStatus)

/-- The new row of a target. -/
def Target.write (target : Target) (id hostId : Uuid) (cores : CpuCore) : Write :=
  match target with
  | .workspace request machineTypeId => .workspace (request.workspace id machineTypeId hostId cores)
  | .prebuild projectId =>
    .prebuild { id, deletedAt := none, projectId, cores, hostId,
                status := PrebuildStatus.building.toString, byWorkspace := false }

/-- The tables with a write. -/
def Write.apply (db : SchedulerDb) : Write → Except DbErr SchedulerDb
  | .workspace row => do
    let workspaces ← db.workspaces.insert row
    pure { db with workspaces }
  | .prebuild row => do
    let prebuilds ← db.prebuilds.insert row
    pure { db with prebuilds }
  | .status id newStatus => do
    let prebuilds ← db.prebuilds.updateOne (fun p => p.id = id) fun p =>
      { p with status := newStatus.toString }
    pure { db with prebuilds }

/-- The update of `recalcuate_workspce_host`, which sets the columns of what is available. -/
def storeAvailable (host row : WorkspaceHost.Model) : WorkspaceHost.Model :=
  { row with
    availableSharedCpu := host.availableSharedCpu
    availableDedicatedCpu := host.availableDedicatedCpu
    availableMemory := host.availableMemory
    availableDisk := host.availableDisk }

/-- The tables after the commit of a write, and of the columns of a host. -/
def commit (db : SchedulerDb) (write : Write) (host : Option WorkspaceHost.Model) :
    Except DbErr SchedulerDb := do
  let db ← write.apply db
  match host with
  | none => pure db
  | some host =>
    let hosts ← db.hosts.updateOne (fun row => row.id = host.id) (storeAvailable host)
    pure { db with hosts }

/-- A transaction under way. -/
inductive Txn
  | begun (target : Target)
  | choosing (target : Target) (m : MachineType.Model)
  /-- The row of the host is locked. -/
  | countingWorkspaces (target : Target) (m : MachineType.Model) (shared : Bool) (region : String)
      (host : WorkspaceHost.Model)
  | countingPrebuilds (target : Target) (m : MachineType.Model) (shared : Bool) (region : String)
      (host : WorkspaceHost.Model) (existing : ExistingResource)
  | inserting (target : Target) (m : MachineType.Model) (host : WorkspaceHost.Model)
      (cores : CpuCore)
  /-- The write is done, and what exists is read again. -/
  | recountingWorkspaces (host : WorkspaceHost.Model) (write : Write)
  | recountingPrebuilds (host : WorkspaceHost.Model) (write : Write) (existing : ExistingResource)
  | committing (write : Write) (host : Option WorkspaceHost.Model)
  /-- A prebuild has come to its end. -/
  | finishing (prebuild : Prebuild.Model) (status : PrebuildStatus)

/-- The host whose row is locked. -/
def Txn.host : Txn → Option WorkspaceHost.Model
  | .countingWorkspaces _ _ _ _ host | .countingPrebuilds _ _ _ _ host _ | .inserting _ _ host _
  | .recountingWorkspaces host _ | .recountingPrebuilds host _ _ => some host
  | .committing _ host => host
  | .begun _ | .choosing _ _ | .finishing _ _ => none

/-- One statement of a transaction. -/
inductive Statement (cpuOvercommit : Nat) :
    SchedulerDb → Txn → SchedulerDb → Option Txn → Prop
  | getMachineType {db : SchedulerDb} {target : Target} {m : MachineType.Model} :
      target.machineType db = some m →
      Statement cpuOvercommit db (.begun target) db (some (.choosing target m))
  /-- `decide_workspace_host`: among concurrent updates the order of its candidates is that of an
  older state, but the row it locks and returns is a current one that meets its condition. -/
  | decideWorkspaceHost {db : SchedulerDb} {target : Target} {m : MachineType.Model} {shared : Bool}
      {region : String} {host : WorkspaceHost.Model} :
      host ∈ db.hosts.rows → (HostRequest.ofMachineType m shared region).meets host = true →
      Statement cpuOvercommit db (.choosing target m) db
        (some (.countingWorkspaces target m shared region host))
  | countWorkspaces {db : SchedulerDb} {target : Target} {m : MachineType.Model} {shared : Bool}
      {region : String} {host : WorkspaceHost.Model} :
      Statement cpuOvercommit db (.countingWorkspaces target m shared region host) db
        (some (.countingPrebuilds target m shared region host
          ((workspaceHolders db host.id).foldl .add {})))
  | countPrebuilds {db : SchedulerDb} {target : Target} {m : MachineType.Model} {shared : Bool}
      {region : String} {host : WorkspaceHost.Model} {existing : ExistingResource}
      {seed : RandomState Nat} {cores : CpuCore} :
      pickCores seed cpuOvercommit (.ofMachineType m shared region) host
        ((prebuildHolders db host.id).foldl .add existing) = some cores →
      Statement cpuOvercommit db (.countingPrebuilds target m shared region host existing) db
        (some (.inserting target m host cores))
  | insert {db : SchedulerDb} {target : Target} {m : MachineType.Model}
      {host : WorkspaceHost.Model} {cores : CpuCore} {id : Uuid} :
      Statement cpuOvercommit db (.inserting target m host cores) db
        (some (.recountingWorkspaces host (target.write id host.id cores)))
  | recountWorkspaces {db own : SchedulerDb} {host : WorkspaceHost.Model} {write : Write} :
      write.apply db = .ok own →
      Statement cpuOvercommit db (.recountingWorkspaces host write) db
        (some (.recountingPrebuilds host write ((workspaceHolders own host.id).foldl .add {})))
  | recountPrebuilds {db own : SchedulerDb} {host : WorkspaceHost.Model} {write : Write}
      {existing : ExistingResource} :
      write.apply db = .ok own →
      Statement cpuOvercommit db (.recountingPrebuilds host write existing) db
        (some (.committing write (some (recalculated cpuOvercommit host
          ((prebuildHolders own host.id).foldl .add existing)))))
  /-- `get_workspace_host_with_lock`, and the update of the prebuild. -/
  | finish {db : SchedulerDb} {prebuild : Prebuild.Model} {status : PrebuildStatus}
      {host : WorkspaceHost.Model} :
      (db.hosts.one fun h => h.id = prebuild.hostId && h.deletedAt.isNone) = some host →
      Statement cpuOvercommit db (.finishing prebuild status) db
        (some (.recountingWorkspaces host (.status prebuild.id status)))
  | finishAlone {db : SchedulerDb} {prebuild : Prebuild.Model} {status : PrebuildStatus} :
      (db.hosts.one fun h => h.id = prebuild.hostId && h.deletedAt.isNone) = none →
      Statement cpuOvercommit db (.finishing prebuild status) db
        (some (.committing (.status prebuild.id status) none))
  | commit {db db' : SchedulerDb} {write : Write} {host : Option WorkspaceHost.Model} :
      Scheduler.commit db write host = .ok db' →
      Statement cpuOvercommit db (.committing write host) db' none
  /-- No host, no cores, a conflict, a deadlock, or any other error. -/
  | fail {db : SchedulerDb} {t : Txn} : Statement cpuOvercommit db t db none

/-- The host that `decide_workspace_host` takes alone on the database is one that its statement may
take. -/
theorem Statement.of_decideWorkspaceHost {cpuOvercommit : Nat} {db : SchedulerDb} {target : Target}
    {m : MachineType.Model} {shared : Bool} {region : String} {host : WorkspaceHost.Model}
    {prebuildWorkspaceHost : Option Uuid} {prebuildReplicaHosts : List Uuid}
    (h : Scheduler.decideWorkspaceHost db prebuildWorkspaceHost prebuildReplicaHosts
      (.ofMachineType m shared region) = some host) :
    Statement cpuOvercommit db (.choosing target m) db
      (some (.countingWorkspaces target m shared region host)) := by
  obtain ⟨hmem, hmeets⟩ := meets_of_decideWorkspaceHost h
  exact .decideWorkspaceHost hmem hmeets

/-- The transactions that reserve hosts. A prebuild that a workspace starts takes the resources of
the workspace, and its transaction locks no host. -/
def reservations (cpuOvercommit : Nat) : Locking.Protocol SchedulerDb Txn Uuid where
  starts db
    | .begun _ => True
    | .committing (.prebuild row) none => row.byWorkspace = true
    | .finishing prebuild status => prebuild ∈ db.prebuilds.rows ∧ status ≠ .building
    | _ => False
  step := Statement cpuOvercommit
  holds t k := ∃ host, t.host = some host ∧ host.id = k
  not_holds_of_starts := by
    rintro db t k hstarts ⟨host, hhost, -⟩
    cases t with
    | committing write host' =>
      cases host' with
      | none => cases hhost
      | some host' => cases write <;> exact hstarts.elim
    | begun | choosing | finishing => cases hhost
    | countingWorkspaces | countingPrebuilds | inserting | recountingWorkspaces
    | recountingPrebuilds => exact hstarts.elim

end Scheduler

end Lapdev
