import Lapdev.Db.Workspaces
import Lapdev.RustStd.HashMap
import Lapdev.RustStd.Int
import Mathlib.Data.Finset.Sort

/-!
# The scheduler of workspace hosts

`conductor/src/scheduler.rs`. A host is chosen by the columns of what it has available, and its
cores are picked from what its workspaces and prebuilds leave; afterwards the columns are computed
again from them. A `HashSet` is a `Finset`, and a `HashMap` the `Finset` of its entries.
-/

namespace Lapdev

open RustStd Sql

/-- The tables of the scheduler. -/
structure SchedulerDb where
  hosts : Table WorkspaceHost.Model
  workspaces : Table Workspace.Model
  prebuilds : Table Prebuild.Model
  projects : Table Project.Model
  machineTypes : Table MachineType.Model

namespace Scheduler

/-- Source: `conductor/src/scheduler.rs`. -/
structure AvailableCore where
  total : Nat
  overcommit : Nat
  available : Finset (Nat × Nat)

/-- `AvailableCore::dedicated`. -/
def AvailableCore.dedicated (c : AvailableCore) : Finset Nat :=
  (c.available.filter fun e => e.2 = 0).image Prod.fst

/-- Source: `conductor/src/scheduler.rs`. -/
structure ExistingResource where
  cores : List (Finset Nat × Bool) := []
  memory : Nat := 0
  disk : Nat := 0

/-- `available_cores`. -/
def availableCores (total overcommit : Nat) (existing : List (Finset Nat × Bool)) :
    AvailableCore :=
  let all := existing.foldl (fun all e => if !e.2 then all \ e.1 else all) (Finset.range total)
  let num := existing.foldl
    (fun num e =>
      if e.2 then num.image fun c => if c.1 ∈ e.1 then (c.1, c.2 + 1) else c else num)
    (all.image fun i => (i, 0))
  { total, overcommit, available := num.filter fun c => c.2 < overcommit }

/-! ## What a host's workspaces and prebuilds take -/

/-- A workspace or prebuild that takes resources of a host. -/
structure Holder where
  cores : CpuCore
  machineType : Option MachineType.Model

/-- The machine type with an id. -/
def machineType (db : SchedulerDb) (id : Uuid) : Option MachineType.Model :=
  db.machineTypes.one fun m => m.id = id

/-- The machine type of a project, `links::PrebuildToMachineType`. -/
def projectMachineType (db : SchedulerDb) (projectId : Uuid) : Option MachineType.Model :=
  (db.projects.one fun p => p.id = projectId).bind fun p => machineType db p.machineTypeId

/-- The workspaces that take resources of a host. -/
def countsWorkspace (hostId : Uuid) (w : Workspace.Model) : Bool :=
  w.hostId = hostId && w.deletedAt.isNone && w.composeParent.isNone

/-- The prebuilds that do: those being built that no workspace has started. -/
def countsPrebuild (hostId : Uuid) (p : Prebuild.Model) : Bool :=
  p.hostId = hostId && p.status = PrebuildStatus.building.toString && p.deletedAt.isNone &&
    p.byWorkspace = false

/-- A workspace with its machine type. -/
def ofWorkspace (db : SchedulerDb) (w : Workspace.Model) : Holder :=
  ⟨w.cores, machineType db w.machineTypeId⟩

/-- A prebuild with its machine type. -/
def ofPrebuild (db : SchedulerDb) (p : Prebuild.Model) : Holder :=
  ⟨p.cores, projectMachineType db p.projectId⟩

/-- The first query of `get_existing_resource`. -/
def workspaceHolders (db : SchedulerDb) (hostId : Uuid) : List Holder :=
  (db.workspaces.select (countsWorkspace hostId)).map (ofWorkspace db)

/-- The second query of `get_existing_resource`. -/
def prebuildHolders (db : SchedulerDb) (hostId : Uuid) : List Holder :=
  (db.prebuilds.select (countsPrebuild hostId)).map (ofPrebuild db)

/-- One round of the loops of `get_existing_resource`. -/
def ExistingResource.add (existing : ExistingResource) (holder : Holder) : ExistingResource :=
  match holder.machineType with
  | none => existing
  | some machineType =>
    { cores := match holder.cores with
        | .dedicated cores => existing.cores ++ [(cores.toFinset, false)]
        | .shared _ => existing.cores
      memory := existing.memory + asUsize (max machineType.memory 0)
      disk := existing.disk + asUsize (max machineType.disk 0) }

/-- `get_existing_resource`. -/
def getExistingResource (db : SchedulerDb) (hostId : Uuid) : ExistingResource :=
  (prebuildHolders db hostId).foldl .add ((workspaceHolders db hostId).foldl .add {})

/-! ## Choosing a host -/

/-- What a host is asked for. -/
structure HostRequest where
  shared : Bool
  cpu : Nat
  memory : Nat
  disk : Nat
  region : String

/-- The column that limits the cores of a request. -/
def HostRequest.cpuColumn (r : HostRequest) (host : WorkspaceHost.Model) : Int :=
  if !r.shared then host.availableDedicatedCpu else host.availableSharedCpu

/-- The condition of the queries of `decide_workspace_host`. -/
def HostRequest.meets (r : HostRequest) (host : WorkspaceHost.Model) : Bool :=
  host.region = r.region && host.deletedAt.isNone &&
    host.status = WorkspaceHostStatus.active.toString && host.availableMemory ≥ asI32 r.memory &&
    host.availableDisk ≥ asI32 r.disk && r.cpuColumn host ≥ asI32 r.cpu

/-- The order of these queries: by the column of the cores, then the memory, then the disk, the
largest first. -/
def HostRequest.before (r : HostRequest) (host host' : WorkspaceHost.Model) : Prop :=
  r.cpuColumn host' < r.cpuColumn host ∨ r.cpuColumn host = r.cpuColumn host' ∧
    (host'.availableMemory < host.availableMemory ∨ host.availableMemory = host'.availableMemory ∧
      host'.availableDisk ≤ host.availableDisk)

instance (r : HostRequest) : DecidableRel r.before :=
  fun _ _ => inferInstanceAs (Decidable (_ ∨ _ ∧ (_ ∨ _ ∧ _)))

/-- `decide_workspace_host`, alone on the database. -/
def decideWorkspaceHost (db : SchedulerDb) (prebuildWorkspaceHost : Option Uuid)
    (prebuildReplicaHosts : List Uuid) (r : HostRequest) : Option WorkspaceHost.Model :=
  let prebuilt := prebuildWorkspaceHost.bind fun id =>
    db.hosts.one fun host => r.meets host && host.id = id
  let replica := if prebuildReplicaHosts = [] then none else
    ((db.hosts.select fun host => r.meets host && host.id ∈ prebuildReplicaHosts).insertionSort
      r.before).head?
  prebuilt.or (replica.or ((db.hosts.select r.meets).insertionSort r.before).head?)

/-- A host that is chosen meets the request. -/
theorem meets_of_decideWorkspaceHost {db : SchedulerDb} {prebuildWorkspaceHost : Option Uuid}
    {prebuildReplicaHosts : List Uuid} {r : HostRequest} {host : WorkspaceHost.Model}
    (h : decideWorkspaceHost db prebuildWorkspaceHost prebuildReplicaHosts r = some host) :
    host ∈ db.hosts.rows ∧ r.meets host = true := by
  have hsorted : ∀ {p : WorkspaceHost.Model → Bool},
      ((db.hosts.select p).insertionSort r.before).head? = some host →
      host ∈ db.hosts.rows ∧ p host = true := fun h =>
    Table.mem_select.1 ((List.perm_insertionSort _ _).mem_iff.1 (List.mem_of_head? h))
  rw [decideWorkspaceHost, Option.or_eq_some_iff, Option.or_eq_some_iff] at h
  rcases h with h | ⟨-, h | ⟨-, h⟩⟩
  · obtain ⟨id, -, hone⟩ := Option.bind_eq_some_iff.1 h
    obtain ⟨hmem, hp⟩ := Table.mem_of_one hone
    exact ⟨hmem, (Bool.and_eq_true_iff.1 hp).1⟩
  · split at h
    · cases h
    · obtain ⟨hmem, hp⟩ := hsorted h
      exact ⟨hmem, (Bool.and_eq_true_iff.1 hp).1⟩
  · exact hsorted h

/-- The rest of `pick_workspce_host`: the cores of a request on a host. The seed is the order of the
set of cores that are free. -/
def pickCores (seed : RandomState Nat) (cpuOvercommit : Nat) (r : HostRequest)
    (host : WorkspaceHost.Model) (existing : ExistingResource) : Option CpuCore :=
  if !r.shared then
    let available := (availableCores (asUsize host.cpu) cpuOvercommit existing.cores).dedicated
    let cores := (seed.arrange (available.sort (· ≤ ·))).take r.cpu
    if cores.length ≠ r.cpu then none else some (.dedicated cores)
  else some (.shared r.cpu)

/-- `recalcuate_workspce_host`, given what exists: the row it writes. -/
def recalculated (cpuOvercommit : Nat) (host : WorkspaceHost.Model) (existing : ExistingResource) :
    WorkspaceHost.Model :=
  let availableCore := availableCores (asUsize host.cpu) cpuOvercommit existing.cores
  { host with
    availableSharedCpu := asI32 availableCore.available.card
    availableDedicatedCpu := asI32 availableCore.dedicated.card
    availableMemory := asI32 (host.memory - asI32 existing.memory)
    availableDisk := asI32 (host.disk - asI32 existing.disk) }

section Recalculated

variable (cpuOvercommit : Nat) (host : WorkspaceHost.Model) (existing : ExistingResource)

@[simp] theorem recalculated_id : (recalculated cpuOvercommit host existing).id = host.id := by
  rw [recalculated]

@[simp] theorem recalculated_cpu : (recalculated cpuOvercommit host existing).cpu = host.cpu := by
  rw [recalculated]

@[simp] theorem recalculated_memory :
    (recalculated cpuOvercommit host existing).memory = host.memory := by
  rw [recalculated]

@[simp] theorem recalculated_disk :
    (recalculated cpuOvercommit host existing).disk = host.disk := by
  rw [recalculated]

/-- The columns of what is available are not read. -/
theorem recalculated_recalculated :
    recalculated cpuOvercommit (recalculated cpuOvercommit host existing) existing =
      recalculated cpuOvercommit host existing := by
  rw [recalculated, recalculated_cpu, recalculated_memory, recalculated_disk, recalculated]

variable {cpuOvercommit host existing} in
/-- The columns of a host that say what is left are not changed. -/
theorem recalculated_eq_self
    (hshared : asI32 (availableCores (asUsize host.cpu) cpuOvercommit
      existing.cores).available.card = host.availableSharedCpu)
    (hdedicated : asI32 (availableCores (asUsize host.cpu) cpuOvercommit
      existing.cores).dedicated.card = host.availableDedicatedCpu)
    (hmemory : asI32 (host.memory - asI32 existing.memory) = host.availableMemory)
    (hdisk : asI32 (host.disk - asI32 existing.disk) = host.availableDisk) :
    recalculated cpuOvercommit host existing = host := by
  rw [recalculated, hshared, hdedicated, hmemory, hdisk]

end Recalculated

end Scheduler

end Lapdev
