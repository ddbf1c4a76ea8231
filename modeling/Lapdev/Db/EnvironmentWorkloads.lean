import Lapdev.Db.WorkloadYaml

/-!
# Queries on environment workloads and their labels

The functions of `DbApi` that write workload rows of environments. Each writes the label rows of
the workload beside the row itself, in statements of their own.
-/

namespace Lapdev

open RustStd Sql Programs

/-- Source: `common/src/kube.rs`, `KubeServiceDetails`. -/
structure KubeServiceDetails where
  name : String
  ports : List KubeServicePort
  selector : HashMap String String

/-- Source: `common/src/kube.rs`. -/
structure KubeServiceWithYaml (Text : Type) where
  yaml : Text
  details : KubeServiceDetails

namespace DbApi

variable {Text : Type} (fromStr : Text → Option Yaml.Value)

/-- Source: `db/src/api.rs`. -/
def getEnvironmentWorkloadLabels (workloadId : Uuid) : Query Text (BTreeMap String String) :=
  .read fun db =>
    HashTable.collect <|
      (db.environmentWorkloadLabels.select fun row =>
        row.workloadId = workloadId && row.deletedAt = none).map fun row =>
          (row.labelKey, row.labelValue)

/-- The loop body of `replace_environment_workload_labels_with_conn`. -/
def insertLabel (workloadId environmentId : Uuid) (timestamp : Timestamp)
    (entry : (_ : String) × String) : Query Text PUnit :=
  Database.onEnvironmentWorkloadLabels fun t =>
    t.insert
      { createdAt := timestamp
        deletedAt := none
        environmentId
        workloadId
        labelKey := entry.1
        labelValue := entry.2 }

/-- Source: `db/src/api.rs`, `replace_environment_workload_labels_with_conn`. -/
def replaceEnvironmentWorkloadLabels (workloadId environmentId : Uuid)
    (labels : BTreeMap String String) (timestamp : Timestamp) : Query Text PUnit := do
  Database.onEnvironmentWorkloadLabels fun t =>
    t.updateMany (fun row => row.workloadId = workloadId && row.deletedAt = none)
      fun row => { row with deletedAt := some timestamp }
  Program.forEach (insertLabel workloadId environmentId timestamp) labels.entries

/-- Source: `db/src/api.rs`; `now` is `Utc::now()`. -/
def deleteEnvironmentWorkload (workloadId : Uuid) (now : Timestamp) : Query Text PUnit := do
  Database.onEnvironmentWorkloads fun t =>
    t.updateOne (fun row => row.id = workloadId) fun row => { row with deletedAt := some now }
  Database.onEnvironmentWorkloadLabels fun t =>
    t.updateMany (fun row => row.workloadId = workloadId && row.deletedAt = none)
      fun row => { row with deletedAt := some now }

/-- Source: `db/src/api.rs`. The update returns the row it wrote, and fails if there is none. -/
def updateEnvironmentWorkload (workloadId : Uuid) (containers : List KubeContainerInfo)
    (workloadYaml : Text) (now : Timestamp) :
    Query Text (KubeEnvironmentWorkload.Model Text) := do
  let updated ← Database.returning (·.environmentWorkloads)
    (fun db t => { db with environmentWorkloads := t })
    (fun row => row.id = workloadId) fun row => { row with containers, workloadYaml }
  let updatedModel ← Program.orFail updated (.db .recordNotUpdated)
  match KubeWorkloadKind.parse updatedModel.kind with
  | none => pure updatedModel
  | some kind => do
    replaceEnvironmentWorkloadLabels updatedModel.id updatedModel.environmentId
      (labelsFromWorkloadYaml fromStr kind updatedModel.workloadYaml) now
    pure updatedModel

/-- The row of a new workload. -/
def workloadModel (environmentId : Uuid) (workload : NewEnvironmentWorkload Text)
    (catalogSyncVersion : Int) (createdAt : Timestamp) : KubeEnvironmentWorkload.Model Text where
  id := workload.id
  createdAt
  deletedAt := none
  environmentId
  baseWorkloadId := workload.details.baseWorkloadId.or (some workload.id)
  name := workload.details.name
  «namespace» := workload.details.namespace
  kind := workload.details.kind.toString
  containers := workload.details.containers
  ports := workload.details.ports
  workloadYaml := workload.details.workloadYaml
  catalogSyncVersion
  readyReplicas := none

/-- Source: `db/src/api.rs`. -/
def insertEnvironmentWorkload (environmentId : Uuid) (workload : NewEnvironmentWorkload Text)
    (catalogSyncVersion : Int) (now : Timestamp) : Query Text PUnit := do
  let labels := labelsFromWorkloadYaml fromStr workload.details.kind workload.details.workloadYaml
  Database.onEnvironmentWorkloads fun t =>
    t.insert (workloadModel environmentId workload catalogSyncVersion now)
  replaceEnvironmentWorkloadLabels workload.id environmentId labels now

/-- Source: `db/src/api.rs`. -/
def updateBranchWorkloadLink (workloadId baseWorkloadId : Uuid) (catalogSyncVersion : Int) :
    Query Text PUnit :=
  Database.onEnvironmentWorkloads fun t =>
    t.updateOne (fun row => row.id = workloadId)
      fun row => { row with baseWorkloadId := some baseWorkloadId, catalogSyncVersion }

/-- Source: `db/src/api.rs`. One transaction; its loop over the workloads is the body of
`insert_environment_workload`. -/
def createKubeEnvironment (environmentId orgId userId appCatalogId clusterId : Uuid)
    (name «namespace» status : String) (isShared : Bool) (catalogSyncVersion : Int)
    (baseEnvironmentId : Option Uuid) (workloads : List (NewEnvironmentWorkload Text))
    (services : HashTable String (KubeServiceWithYaml Text)) (authToken : String)
    (now : Timestamp) : Query Text PUnit :=
  Program.atomic do
    Database.onEnvironments fun t =>
      t.insert
        { id := environmentId
          deletedAt := none
          organizationId := orgId
          userId
          appCatalogId
          clusterId
          name
          «namespace»
          status
          isShared
          catalogSyncVersion
          lastCatalogSyncedAt := some now
          syncStatus := "idle"
          baseEnvironmentId
          authToken }
    Program.forEach
      (fun workload => insertEnvironmentWorkload fromStr environmentId workload catalogSyncVersion now)
      workloads
    Program.forEach
      (fun service : (_ : String) × KubeServiceWithYaml Text =>
        Database.onEnvironmentServices fun t =>
          t.insert
            { createdAt := now
              deletedAt := none
              environmentId
              name := service.1
              «namespace»
              yaml := service.2.yaml
              ports := service.2.details.ports
              selector := service.2.details.selector })
      services.entries

end DbApi

end Lapdev
