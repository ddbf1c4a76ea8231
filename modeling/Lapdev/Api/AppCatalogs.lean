import Lapdev.Db.Catalogs

/-!
# Operations on app catalogs

`api/src/kube_controller/app_catalog.rs`: the deletion of a catalog, which leaves the rows of its
workloads live, and the three calls that change the workloads of one. Each of these writes the rows
first, then bumps the version of the catalog, and last stamps the written workloads with it.
-/

namespace Lapdev

open RustStd Sql Programs

/-- Source: `rpc/src/error.rs`, with the error an internal one comes from. -/
inductive ApiError
  | unauthorized
  | invalidRequest (message : String)
  | internalError (source : QueryErr)
  deriving DecidableEq, Repr

namespace KubeController

variable {Text : Type}

/-- Source: `app_catalog.rs`. The refresh of the namespaces that the cluster is watched for follows
and touches no row. -/
def deleteAppCatalog (orgId catalogId : Uuid) (now : Timestamp) :
    Program (Database Text) ApiError PUnit := do
  let found ← (DbApi.getAppCatalog catalogId).mapError .internalError
  let catalog ← Program.orFail found (.invalidRequest "App catalog not found")
  if catalog.organizationId ≠ orgId then .fail .unauthorized
  else
    let hasEnvironments ←
      (DbApi.checkAppCatalogHasEnvironments catalogId).mapError .internalError
    if hasEnvironments then
      .fail (.invalidRequest
        "Cannot delete app catalog: it has active environments. Please delete them first.")
    else (DbApi.deleteAppCatalog catalogId now).mapError .internalError

/-- A live workload of a live catalog of the organization. -/
def authorizeCatalogWorkload (orgId workloadId : Uuid) :
    Program (Database Text) ApiError (KubeAppCatalogWorkload.Model Text × KubeAppCatalog.Model) := do
  let found ← (DbApi.getAppCatalogWorkload workloadId).mapError .internalError
  let workload ← Program.orFail found (.invalidRequest "Workload not found")
  let found ← (DbApi.getAppCatalog workload.appCatalogId).mapError .internalError
  let catalog ← Program.orFail found (.invalidRequest "App catalog not found")
  if catalog.organizationId ≠ orgId then .fail .unauthorized
  else pure (workload, catalog)

/-- Source: `app_catalog.rs`. -/
def deleteAppCatalogWorkload (orgId workloadId : Uuid) (now : Timestamp) :
    Program (Database Text) ApiError PUnit := do
  let (workload, _) ← authorizeCatalogWorkload orgId workloadId
  (DbApi.deleteAppCatalogWorkload workloadId now).mapError .internalError
  let _ ← (DbApi.bumpAppCatalogSyncVersion workload.appCatalogId now).mapError .internalError

/-- Source: `app_catalog.rs`; `validateContainers` is that of `validation.rs`. -/
def updateAppCatalogWorkload (validateContainers : List KubeContainerInfo → Except ApiError PUnit)
    (orgId workloadId : Uuid) (containers : List KubeContainerInfo) (now : Timestamp) :
    Program (Database Text) ApiError PUnit := do
  let _ ← Program.ofExcept (validateContainers containers)
  let (workload, catalog) ← authorizeCatalogWorkload orgId workloadId
  (DbApi.updateAppCatalogWorkload workloadId containers).mapError .internalError
  let newVersion ← (DbApi.bumpAppCatalogSyncVersion catalog.id now).mapError .internalError
  (DbApi.updateCatalogWorkloadVersions [workload.id] newVersion).mapError .internalError

/-- The error of a failed insertion into a catalog. -/
def insertionError : QueryErr → ApiError
  | .db .uniqueViolation =>
    .invalidRequest "One or more selected workloads already exist in this catalog"
  | e => .internalError e

/-- Source: `app_catalog.rs`; `enriched` is what `enrich_workloads_with_details` gets from the
cluster, with the ids of the new rows. -/
def addWorkloadsToAppCatalog (fromStr : Text → Option Yaml.Value) (orgId catalogId : Uuid)
    (enriched : Except ApiError (List (Uuid × KubeWorkloadDetails Text))) (now : Timestamp) :
    Program (Database Text) ApiError PUnit := do
  let found ← (DbApi.getAppCatalog catalogId).mapError .internalError
  let catalog ← Program.orFail found (.invalidRequest "App catalog not found")
  if catalog.organizationId ≠ orgId then .fail .unauthorized
  else do
    let enrichedWorkloads ← Program.ofExcept enriched
    let insertedIds ← (Program.atomic (DbApi.insertEnrichedWorkloadsToCatalog fromStr catalogId
      catalog.clusterId enrichedWorkloads now)).mapError insertionError
    let newVersion ← (DbApi.bumpAppCatalogSyncVersion catalog.id now).mapError .internalError
    (DbApi.updateCatalogWorkloadVersions insertedIds newVersion).mapError .internalError

end KubeController

end Lapdev
