import Lapdev.Db.EnvironmentWorkloads

/-!
# Writing a catalog sync to the database

`update_environment_workloads_in_db` of `api/src/kube_controller/environment.rs`: after the changed
workloads of a catalog are deployed, one transaction deletes the environment's workloads that left
the catalog and replaces those that were deployed.
-/

namespace Lapdev

open RustStd Sql Programs

/-- Source: `common/src/kube.rs`. -/
structure KubeAppCatalogWorkload (Text : Type) where
  id : Uuid
  name : String
  «namespace» : String
  kind : KubeWorkloadKind
  containers : List KubeContainerInfo
  ports : List KubeServicePort
  workloadYaml : Text
  catalogSyncVersion : Int

namespace KubeController

variable {Text : Type}

/-- A live workload row of an environment. -/
def liveIn (environmentId : Uuid) (row : KubeEnvironmentWorkload.Model Text) : Bool :=
  row.environmentId = environmentId && row.deletedAt = none

/-- A live workload row of an environment with a name. -/
def liveNamed (environmentId : Uuid) (name : String) (row : KubeEnvironmentWorkload.Model Text) :
    Bool :=
  row.environmentId = environmentId && row.name = name && row.deletedAt = none

/-- The row a sync inserts; its base workload is the one of the details, without a default. -/
def syncedModel (environmentId : Uuid) (environmentNamespace : String)
    (workload : NewEnvironmentWorkload Text) (newCatalogSyncVersion : Int) (now : Timestamp) :
    KubeEnvironmentWorkload.Model Text where
  id := workload.id
  createdAt := now
  deletedAt := none
  environmentId
  baseWorkloadId := workload.details.baseWorkloadId
  name := workload.details.name
  «namespace» := environmentNamespace
  kind := workload.details.kind.toString
  containers := workload.details.containers
  ports := workload.details.ports
  workloadYaml := workload.details.workloadYaml
  catalogSyncVersion := newCatalogSyncVersion
  readyReplicas := none

/-- The first loop: a workload whose name left the catalog is deleted. -/
def deleteMissing (catalogWorkloadNames : List String) (now : Timestamp)
    (existing : KubeEnvironmentWorkload.Model Text) : Query Text PUnit :=
  if existing.name ∈ catalogWorkloadNames then pure ⟨⟩
  else
    Database.onEnvironmentWorkloads fun t =>
      t.updateOne (fun row => row.id = existing.id) fun row => { row with deletedAt := some now }

/-- The second loop: the live rows of a deployed workload's name are deleted, and a row for it is
inserted. The pairs of replaced and new ids are collected. -/
def replaceDeployed (environmentId : Uuid) (environmentNamespace : String)
    (newCatalogSyncVersion : Int) (now : Timestamp) (replaced : List (Uuid × Uuid))
    (workload : NewEnvironmentWorkload Text) : Query Text (List (Uuid × Uuid)) := do
  let existing ← Program.read fun db =>
    db.environmentWorkloads.one (liveNamed environmentId workload.details.name)
  Database.onEnvironmentWorkloads fun t =>
    t.updateMany (liveNamed environmentId workload.details.name)
      fun row => { row with deletedAt := some now }
  Database.onEnvironmentWorkloads fun t =>
    t.insert (syncedModel environmentId environmentNamespace workload newCatalogSyncVersion now)
  match existing with
  | some existing => pure (replaced ++ [(existing.id, workload.id)])
  | none => pure replaced

/-- Source: `environment.rs`, `update_environment_workloads_in_db`. -/
def updateEnvironmentWorkloadsInDb (environmentId : Uuid) (environmentNamespace : String)
    (catalogWorkloads : List (KubeAppCatalogWorkload Text))
    (workloadsToDeploy : List (NewEnvironmentWorkload Text)) (serviceNames : List String)
    (newCatalogSyncVersion : Int) (now : Timestamp) : Query Text (List (Uuid × Uuid)) :=
  Program.atomic do
    let existing ← Program.read fun db => db.environmentWorkloads.select (liveIn environmentId)
    Program.forEach (deleteMissing (catalogWorkloads.map (·.name)) now) existing
    Database.onEnvironmentServices fun t =>
      t.updateMany
        (fun row => row.environmentId = environmentId && row.deletedAt = none &&
          (serviceNames.isEmpty || row.name ∉ serviceNames))
        fun row => { row with deletedAt := some now }
    let replaced ← Program.foldEach
      (replaceDeployed environmentId environmentNamespace newCatalogSyncVersion now) []
      workloadsToDeploy
    Database.onEnvironments fun t =>
      t.updateOne (fun row => row.id = environmentId) fun row =>
        { row with
          catalogSyncVersion := newCatalogSyncVersion
          lastCatalogSyncedAt := some now
          syncStatus := "Idle" }
    pure replaced

end KubeController

end Lapdev
