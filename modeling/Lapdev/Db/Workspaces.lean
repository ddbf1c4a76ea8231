import Lapdev.Db.Entities

/-!
# The tables of workspaces

The rows of `db/entities/src` that the scheduler, the quotas and the usage records work on, with the
columns the modelled queries read and write.
-/

namespace Lapdev

open RustStd Sql

/-- Source: `db/entities/src/machine_type.rs`. -/
structure MachineType.Model where
  id : Uuid
  name : String
  shared : Bool
  cpu : Int
  memory : Int
  disk : Int
  costPerSecond : Int
  deriving DecidableEq, Repr

/-- Source: `common/src/lib.rs`. -/
inductive CpuCore
  | shared (n : Nat)
  | dedicated (cores : List Nat)
  deriving DecidableEq, Repr

/-- Source: `common/src/lib.rs`. -/
inductive WorkspaceStatus
  | new | prebuildBuilding | prebuildCopying | building | running | starting | stopping | stopped
  | stopFailed | failed | deleteFailed | deleting | deleted
  deriving DecidableEq, Repr

/-- `strum_macros::Display`: the name of the variant. -/
def WorkspaceStatus.toString : WorkspaceStatus → String
  | new => "New"
  | prebuildBuilding => "PrebuildBuilding"
  | prebuildCopying => "PrebuildCopying"
  | building => "Building"
  | running => "Running"
  | starting => "Starting"
  | stopping => "Stopping"
  | stopped => "Stopped"
  | stopFailed => "StopFailed"
  | failed => "Failed"
  | deleteFailed => "DeleteFailed"
  | deleting => "Deleting"
  | deleted => "Deleted"

/-- Source: `db/entities/src/workspace.rs`. The column of the cores holds the value its JSON is
written from. -/
structure Workspace.Model where
  id : Uuid
  deletedAt : Option Int
  organizationId : Uuid
  userId : Uuid
  status : String
  hostId : Uuid
  cores : CpuCore
  machineTypeId : Uuid
  composeParent : Option Uuid
  deriving DecidableEq, Repr

/-- Source: `db/entities/src/project.rs`. -/
structure Project.Model where
  id : Uuid
  deletedAt : Option Int
  organizationId : Uuid
  createdBy : Uuid
  machineTypeId : Uuid
  hostId : Uuid
  deriving DecidableEq, Repr

/-- Source: `common/src/lib.rs`. -/
inductive PrebuildStatus
  | building | ready | failed
  deriving DecidableEq, Repr

/-- `strum_macros::Display`: the name of the variant. -/
def PrebuildStatus.toString : PrebuildStatus → String
  | building => "Building"
  | ready => "Ready"
  | failed => "Failed"

/-- Source: `db/entities/src/prebuild.rs`. -/
structure Prebuild.Model where
  id : Uuid
  deletedAt : Option Int
  projectId : Uuid
  cores : CpuCore
  hostId : Uuid
  status : String
  byWorkspace : Bool
  deriving DecidableEq, Repr

/-- Source: `common/src/lib.rs`. -/
inductive WorkspaceHostStatus
  | new | active | inactive | versionMismatch
  deriving DecidableEq, Repr

/-- `strum_macros::Display`: the name of the variant. -/
def WorkspaceHostStatus.toString : WorkspaceHostStatus → String
  | new => "New"
  | active => "Active"
  | inactive => "Inactive"
  | versionMismatch => "VersionMismatch"

/-- Source: `db/entities/src/workspace_host.rs`. -/
structure WorkspaceHost.Model where
  id : Uuid
  deletedAt : Option Int
  status : String
  cpu : Int
  memory : Int
  disk : Int
  availableDedicatedCpu : Int
  availableSharedCpu : Int
  availableMemory : Int
  availableDisk : Int
  region : String
  deriving DecidableEq, Repr

/-- Source: `db/entities/src/quota.rs`. -/
structure Quota.Model where
  id : Uuid
  deletedAt : Option Int
  kind : String
  value : Int
  organization : Uuid
  user : Option Uuid
  deriving DecidableEq, Repr

/-- Source: `common/src/lib.rs`. -/
inductive UsageResourceKind
  | workspace | prebuild
  deriving DecidableEq, Repr

/-- `strum_macros::Display`: the name of the variant. -/
def UsageResourceKind.toString : UsageResourceKind → String
  | workspace => "Workspace"
  | prebuild => "Prebuild"

/-- Source: `db/entities/src/usage.rs`. The times are microseconds, the resolution of the columns. -/
structure Usage.Model where
  id : Nat
  start : Int
  «end» : Option Int
  resourceKind : String
  resourceId : Uuid
  resourceName : String
  organizationId : Uuid
  machineTypeId : Uuid
  userId : Option Uuid
  duration : Option Int
  costPerSecond : Int
  totalCost : Int
  deriving DecidableEq, Repr

/-- The columns of a user that a usage record shows. -/
structure User.Profile where
  id : Uuid
  name : Option String
  avatarUrl : Option String
  deriving DecidableEq, Repr

/-- The primary key. -/
instance MachineType.entity : Entity MachineType.Model where
  Conflict r r' := r.id = r'.id
  symm := Eq.symm
  dec := fun _ _ => inferInstance

/-- The primary key. -/
instance Workspace.entity : Entity Workspace.Model where
  Conflict r r' := r.id = r'.id
  symm := Eq.symm
  dec := fun _ _ => inferInstance

/-- The primary key. -/
instance Project.entity : Entity Project.Model where
  Conflict r r' := r.id = r'.id
  symm := Eq.symm
  dec := fun _ _ => inferInstance

/-- The primary key. -/
instance Prebuild.entity : Entity Prebuild.Model where
  Conflict r r' := r.id = r'.id
  symm := Eq.symm
  dec := fun _ _ => inferInstance

/-- The primary key. -/
instance WorkspaceHost.entity : Entity WorkspaceHost.Model where
  Conflict r r' := r.id = r'.id
  symm := Eq.symm
  dec := fun _ _ => inferInstance

/-- The primary key, and `quota_deleted_at_organization_user_kind_idx`. -/
instance Quota.entity : Entity Quota.Model where
  Conflict r r' := r.id = r'.id ∨ r.deletedAt = r'.deletedAt ∧ r.organization = r'.organization ∧
    r.user = r'.user ∧ r.kind = r'.kind
  symm := by
    rintro r r' (h | ⟨h₁, h₂, h₃, h₄⟩)
    · exact .inl h.symm
    · exact .inr ⟨h₁.symm, h₂.symm, h₃.symm, h₄.symm⟩
  dec := fun _ _ => inferInstance

/-- The primary key. -/
instance Usage.entity : Entity Usage.Model where
  Conflict r r' := r.id = r'.id
  symm := Eq.symm
  dec := fun _ _ => inferInstance

/-- The primary key. -/
instance User.profileEntity : Entity User.Profile where
  Conflict r r' := r.id = r'.id
  symm := Eq.symm
  dec := fun _ _ => inferInstance

end Lapdev
