import Lapdev.Api.EnvironmentCreation
import Lapdev.Catalog.BranchManifests

/-!
# Branch environments

The calls on branch environments of `kube_controller/environment.rs` and
`kube_controller/workload.rs`: a branch has a row of its own for each workload of its base that it
overrides, linked to it by `base_workload_id`, and copies of the services that target the workload.
A rebase derives them again from the base's rows of the same names. The updates of the routes in
the cluster follow the writes and touch no row.
-/

namespace Lapdev

open RustStd Sql Programs

variable {Text : Type}

namespace DbApi

/-- Source: `db/src/api.rs`. -/
def getEnvironmentWorkload (workloadId : Uuid) :
    Query Text (Option (KubeEnvironmentWorkload.Model Text)) :=
  .read fun db => db.environmentWorkloads.one fun row =>
    row.id = workloadId && row.deletedAt = none

/-- Source: `db/src/api.rs`. -/
def getEnvironmentWorkloads (environmentId : Uuid) :
    Query Text (List (KubeEnvironmentWorkload.Model Text)) :=
  .read fun db => db.environmentWorkloads.select fun row =>
    row.environmentId = environmentId && row.deletedAt = none

/-- Source: `db/src/api.rs`. -/
def getBranchWorkloadOverride (baseWorkloadId branchEnvironmentId : Uuid) :
    Query Text (Option (KubeEnvironmentWorkload.Model Text)) :=
  .read fun db => db.environmentWorkloads.one fun row =>
    row.baseWorkloadId = some baseWorkloadId && row.environmentId = branchEnvironmentId &&
      row.deletedAt = none

/-- Source: `db/src/api.rs`. -/
def getEnvironmentServices (environmentId : Uuid) :
    Query Text (List (KubeEnvironmentService.Model Text)) :=
  .read fun db => db.environmentServices.select fun row =>
    row.environmentId = environmentId && row.deletedAt = none

/-- Source: `db/src/api.rs`. -/
def insertEnvironmentService (environmentId : Uuid) («namespace» : String)
    (service : KubeServiceWithYaml Text) (now : Timestamp) : Query Text PUnit :=
  Database.onEnvironmentServices fun t =>
    t.insert
      { createdAt := now
        deletedAt := none
        environmentId
        name := service.details.name
        «namespace»
        yaml := service.yaml
        ports := service.details.ports
        selector := service.details.selector }

/-- Source: `db/src/api.rs`. -/
def softDeleteEnvironmentService (environmentId : Uuid) (serviceName : String) (now : Timestamp) :
    Query Text PUnit :=
  Database.onEnvironmentServices fun t =>
    t.updateMany
      (fun row => row.environmentId = environmentId && row.name = serviceName &&
        row.deletedAt = none)
      fun row => { row with deletedAt := some now }

end DbApi

/-- What a call on a branch gets from outside: new identifiers, hash seeds, and the outcomes of the
calls to the cluster, by the row they are about. -/
structure BranchOutside where
  newId : Uuid
  seeds : String → RandomState ((_ : String) × String)
  connected : Bool
  deployment : Uuid → Except ApiError PUnit
  deletion : Except ApiError PUnit

namespace KubeController

section
variable (fromStr : Text → Option Yaml.Value) (codec : ManifestCodec Text)

/-! ## Workloads of a branch -/

/-- The containers of an override, by the same loop as those of a new environment. -/
def branchContainer (container : KubeContainerInfo) : KubeContainerInfo :=
  environmentContainer container

/-- Source: `environment.rs`; `newId` is the id it makes up. -/
def buildBranchWorkloadDetails (newId : Uuid) (workload : KubeEnvironmentWorkload.Model Text)
    («namespace» : String) (branchEnvironmentId : Uuid) :
    Except ApiError (NewEnvironmentWorkload Text × String) :=
  match KubeWorkloadKind.parse workload.kind with
  | none =>
    .error (.invalidRequest ("Invalid workload kind " ++ workload.kind ++ " in base environment"))
  | some kind =>
    if codec.isBlank workload.workloadYaml then
      .error (.invalidRequest ("Base workload " ++ workload.name ++ " is missing YAML"))
    else
      let branchName := branchResourceName workload.name branchEnvironmentId
      (stripSidecarProxyFromYaml codec kind workload.workloadYaml).bind fun sanitizedYaml =>
        (renameWorkloadYaml codec kind sanitizedYaml branchName
          (buildBranchServiceSelector branchName)).map fun workloadYaml =>
            ({ id := newId
               details :=
                { name := branchName
                  «namespace»
                  kind
                  containers := workload.containers.map branchContainer
                  ports := workload.ports
                  workloadYaml
                  baseWorkloadId := some workload.id } }, branchName)

/-- Source: `workload.rs`, with the text of its error. -/
def buildStandardWorkloadManifest (seeds : String → RandomState ((_ : String) × String))
    (kind : KubeWorkloadKind) (originalYaml : Text) (containers : List KubeContainerInfo) :
    Except ApiError Text :=
  (rebuildWorkloadYaml codec seeds kind originalYaml containers none).mapError fun err =>
    .invalidRequest ("Failed to rebuild workload manifest: " ++ err)

/-- A deployment of one workload. -/
def deployWorkload (environment : KubeEnvironment.Model) (deployment : Except ApiError PUnit) :
    Except ApiError PUnit :=
  if environment.authToken = "" then
    .error (.invalidRequest "Environment auth token is required")
  else deployment

/-! ## Services of a branch -/

/-- Source: `environment.rs`. -/
def serviceTargetsWorkload (service : KubeEnvironmentService.Model Text)
    (baseWorkloadName branchWorkloadName : String) : Bool :=
  if service.name = baseWorkloadName || service.name = branchWorkloadName then true
  else
    service.selector.any fun _ value =>
      value = baseWorkloadName || value = branchWorkloadName

/-- Source: `environment.rs`. -/
def buildBranchServiceEntry (service : KubeEnvironmentService.Model Text)
    (branchEnvironmentId : Uuid) (branchWorkloadName : String) :
    Except ApiError (KubeServiceWithYaml Text) :=
  let branchServiceName := branchResourceName service.name branchEnvironmentId
  let branchSelector := buildBranchServiceSelector branchWorkloadName
  (renameServiceYaml codec service.yaml branchServiceName branchSelector).bind fun renamedYaml =>
    (restoreServiceTargetPorts codec renamedYaml service.ports).map fun restored =>
      { yaml := restored.1
        details :=
          { name := branchServiceName
            ports := restored.2
            selector := branchSelector.toFinmap } }

/-- The loop body of `ensure_branch_services_for_workload`; the names are a set. -/
def ensureBranchService (environment : KubeEnvironment.Model)
    (baseWorkloadName branchWorkloadName : String) (now : Timestamp) (existingNames : List String)
    (service : KubeEnvironmentService.Model Text) : Call Text (List String) :=
  if serviceTargetsWorkload service baseWorkloadName branchWorkloadName then
    let branchServiceName := branchResourceName service.name environment.id
    if service.name ∈ existingNames ∨ branchServiceName ∈ existingNames then pure existingNames
    else do
      let branchEntry ← Program.ofExcept
        (buildBranchServiceEntry codec service environment.id branchWorkloadName)
      (DbApi.insertEnvironmentService environment.id environment.namespace branchEntry now).mapError
        .internalError
      pure (existingNames ++ [service.name, branchEntry.details.name])
  else pure existingNames

/-- Source: `environment.rs`. -/
def ensureBranchServicesForWorkload (environment : KubeEnvironment.Model)
    (baseWorkloadName branchWorkloadName : String) (now : Timestamp) : Call Text PUnit := do
  let baseEnvironmentId ← Program.orFail environment.baseEnvironmentId
    (.invalidRequest "Branch environment missing base environment")
  let baseServices ← (DbApi.getEnvironmentServices baseEnvironmentId).mapError .internalError
  let existingServices ← (DbApi.getEnvironmentServices environment.id).mapError .internalError
  let existingNames := existingServices.flatMap fun svc =>
    [svc.name, stripBranchSuffix svc.name environment.id]
  let _ ← Program.foldEach
    (ensureBranchService codec environment baseWorkloadName branchWorkloadName now) existingNames
    baseServices

/-- The entries of the services of the base that target a workload. -/
def desiredServices (branchEnvironmentId : Uuid) (baseWorkloadName branchWorkloadName : String)
    (baseServices : List (KubeEnvironmentService.Model Text)) :
    Except ApiError (List (KubeServiceWithYaml Text)) :=
  Result.collect <|
    (baseServices.filter fun service =>
      serviceTargetsWorkload service baseWorkloadName branchWorkloadName).map fun service =>
        buildBranchServiceEntry codec service branchEnvironmentId branchWorkloadName

/-- Source: `environment.rs`. -/
def refreshBranchServicesForWorkload (branchEnvironment : KubeEnvironment.Model)
    (baseWorkloadName branchWorkloadName : String)
    (baseServices : List (KubeEnvironmentService.Model Text)) (now : Timestamp) :
    Call Text PUnit := do
  let desired ← Program.ofExcept
    (desiredServices codec branchEnvironment.id baseWorkloadName branchWorkloadName baseServices)
  let existingServices ← (DbApi.getEnvironmentServices branchEnvironment.id).mapError .internalError
  Program.forEach
    (fun service : KubeEnvironmentService.Model Text =>
      Program.when (serviceTargetsWorkload service baseWorkloadName branchWorkloadName &&
          service.name ∉ desired.map fun entry => entry.details.name)
        ((DbApi.softDeleteEnvironmentService branchEnvironment.id service.name now).mapError
          .internalError))
    existingServices
  Program.forEach
    (fun entry => do
      (DbApi.softDeleteEnvironmentService branchEnvironment.id entry.details.name now).mapError
        .internalError
      (DbApi.insertEnvironmentService branchEnvironment.id branchEnvironment.namespace entry
        now).mapError .internalError)
    desired

/-! ## Overrides -/

/-- Source: `environment.rs`. -/
def ensureBranchWorkloadOverride (environment : KubeEnvironment.Model)
    (baseWorkload : KubeEnvironmentWorkload.Model Text) (newId : Uuid) (now : Timestamp) :
    Call Text (KubeEnvironmentWorkload.Model Text) := do
  let _ ← Program.orFail environment.baseEnvironmentId
    (.invalidRequest "Branch environment missing base environment")
  let existing ← (DbApi.getBranchWorkloadOverride baseWorkload.id environment.id).mapError
    .internalError
  match existing with
  | some existing => pure existing
  | none => do
    let (newWorkload, branchWorkloadName) ← Program.ofExcept
      (buildBranchWorkloadDetails codec newId baseWorkload environment.namespace environment.id)
    (DbApi.insertEnvironmentWorkload fromStr environment.id newWorkload
      environment.catalogSyncVersion now).mapError .internalError
    ensureBranchServicesForWorkload codec environment baseWorkload.name branchWorkloadName now
    let found ← (DbApi.getEnvironmentWorkload newWorkload.id).mapError .internalError
    Program.orFail found
      (.internalError (.anyhow "Failed to load newly created branch workload from database"))

/-- The row that an update writes: of a workload of the base it is the override. -/
def workloadRecord (environment : KubeEnvironment.Model)
    (existingWorkload : KubeEnvironmentWorkload.Model Text) (newId : Uuid) (now : Timestamp) :
    Call Text (KubeEnvironmentWorkload.Model Text) :=
  if environment.baseEnvironmentId = some existingWorkload.environmentId then
    ensureBranchWorkloadOverride fromStr codec environment existingWorkload newId now
  else pure existingWorkload

/-- The base of a branch is read again for the routes of an override. -/
def requireBaseEnvironment (environment : KubeEnvironment.Model)
    (record : KubeEnvironmentWorkload.Model Text) : Call Text PUnit :=
  match environment.baseEnvironmentId, record.baseWorkloadId with
  | some baseEnvironmentId, some _ => do
    let found ← (DbApi.getKubeEnvironment baseEnvironmentId).mapError .internalError
    let _ ← Program.orFail found (.invalidRequest
      ("Base environment " ++ baseEnvironmentId.hyphenated ++ " not found"))
  | _, _ => pure ⟨⟩

/-- Source: `workload.rs`. -/
def updateEnvironmentWorkload (outside : BranchOutside) (workloadId : Uuid)
    (containers : List KubeContainerInfo) (environment : KubeEnvironment.Model) (now : Timestamp) :
    Call Text Uuid := do
  let found ← (DbApi.getEnvironmentWorkload workloadId).mapError .internalError
  let existingWorkload ← Program.orFail found (.invalidRequest "Workload not found")
  let record ← workloadRecord fromStr codec environment existingWorkload outside.newId now
  let kind ← Program.orFail (KubeWorkloadKind.parse record.kind)
    (.invalidRequest ("Invalid workload kind " ++ record.kind ++ " for environment " ++
      record.environmentId.hyphenated))
  let persistedYaml ← Program.ofExcept
    (buildStandardWorkloadManifest codec outside.seeds kind record.workloadYaml containers)
  if !outside.connected then
    .fail (.invalidRequest "No connected KubeManager for this cluster")
  else do
    let _ ← Program.ofExcept (deployWorkload environment (outside.deployment record.id))
    requireBaseEnvironment environment record
    let _ ← (DbApi.updateEnvironmentWorkload fromStr record.id containers persistedYaml
      now).mapError .internalError
    pure record.id

/-! ## Rebases -/

/-- The loop body of `merge_branch_containers`. -/
def mergeBranchContainer (branchContainers : List KubeContainerInfo) (template : KubeContainerInfo) :
    KubeContainerInfo :=
  match branchContainers.find? fun container => container.name = template.name with
  | some branch =>
    { template with
      image := branch.image
      cpuRequest := branch.cpuRequest
      cpuLimit := branch.cpuLimit
      memoryRequest := branch.memoryRequest
      memoryLimit := branch.memoryLimit
      envVars := branch.envVars
      ports := branch.ports }
  | none => template

/-- Source: `environment.rs`. -/
def mergeBranchContainers (templateContainers branchContainers : List KubeContainerInfo) :
    List KubeContainerInfo :=
  templateContainers.map (mergeBranchContainer branchContainers)

/-- `base_workloads_by_name`: of two workloads with one name the later one counts. -/
def workloadsByName (baseWorkloads : List (KubeEnvironmentWorkload.Model Text)) :
    HashTable String (KubeEnvironmentWorkload.Model Text) :=
  HashTable.collect (baseWorkloads.map fun workload => (workload.name, workload))

/-- The loop body of `reapply_branch_overrides_from_base`. -/
def reapplyOverride (outside : BranchOutside) (branchEnvironment baseEnvironment : KubeEnvironment.Model)
    (baseWorkloads : List (KubeEnvironmentWorkload.Model Text))
    (baseServices : List (KubeEnvironmentService.Model Text)) (now : Timestamp)
    (branchWorkload : KubeEnvironmentWorkload.Model Text) : Call Text PUnit :=
  let baseName := stripBranchSuffix branchWorkload.name branchEnvironment.id
  match (workloadsByName baseWorkloads).lookup baseName with
  | none => pure ⟨⟩
  | some baseWorkload => do
    refreshBranchServicesForWorkload codec branchEnvironment baseName branchWorkload.name baseServices
      now
    let (template, _) ← Program.ofExcept (buildBranchWorkloadDetails codec outside.newId baseWorkload
      branchEnvironment.namespace branchEnvironment.id)
    let mergedContainers :=
      mergeBranchContainers template.details.containers branchWorkload.containers
    let kind ← Program.orFail (KubeWorkloadKind.parse branchWorkload.kind)
      (.invalidRequest ("Invalid workload kind " ++ branchWorkload.kind ++
        " when rebasing branch workload"))
    let persistedYaml ← Program.ofExcept (buildStandardWorkloadManifest codec outside.seeds kind
      template.details.workloadYaml mergedContainers)
    let _ ← Program.ofExcept
      (deployWorkload branchEnvironment (outside.deployment branchWorkload.id))
    let _ ← (DbApi.updateEnvironmentWorkload fromStr branchWorkload.id mergedContainers persistedYaml
      now).mapError .internalError
    (DbApi.updateBranchWorkloadLink branchWorkload.id baseWorkload.id
      baseEnvironment.catalogSyncVersion).mapError .internalError

/-- Source: `environment.rs`. -/
def reapplyBranchOverridesFromBase (outside : BranchOutside)
    (branchEnvironment baseEnvironment : KubeEnvironment.Model) (now : Timestamp) :
    Call Text PUnit := do
  let branchWorkloads ← (DbApi.getEnvironmentWorkloads branchEnvironment.id).mapError .internalError
  if branchWorkloads.isEmpty then pure ⟨⟩
  else do
    let baseWorkloads ← (DbApi.getEnvironmentWorkloads baseEnvironment.id).mapError .internalError
    let baseServices ← (DbApi.getEnvironmentServices baseEnvironment.id).mapError .internalError
    if !outside.connected then
      .fail (.invalidRequest "No connected KubeManager for the environment target cluster")
    else
      Program.forEach (reapplyOverride fromStr codec outside branchEnvironment baseEnvironment
        baseWorkloads baseServices now) branchWorkloads

/-- The environment of a rebase and its base. -/
def authorizeRebase (orgId userId environmentId : Uuid) :
    Call Text (KubeEnvironment.Model × KubeEnvironment.Model) := do
  let found ← (DbApi.getKubeEnvironment environmentId).mapError .internalError
  let environment ← Program.orFail found (.invalidRequest "Environment not found")
  if environment.organizationId ≠ orgId then .fail .unauthorized
  else if environment.userId ≠ userId then .fail .unauthorized
  else do
    let baseEnvironmentId ← Program.orFail environment.baseEnvironmentId (.invalidRequest
      "Only branch environments can be rebased from a shared environment")
    let found ← (DbApi.getKubeEnvironment baseEnvironmentId).mapError .internalError
    let baseEnvironment ← Program.orFail found (.invalidRequest "Base environment not found")
    if baseEnvironment.organizationId ≠ orgId then .fail .unauthorized
    else pure (environment, baseEnvironment)

/-- Source: `environment.rs`. -/
def rebaseBranchEnvironment (outside : BranchOutside) (orgId userId environmentId : Uuid)
    (now : Timestamp) : Call Text PUnit := do
  let (environment, baseEnvironment) ← authorizeRebase orgId userId environmentId
  setSyncStatus environment.id "Syncing"
  let rebaseResult ←
    (reapplyBranchOverridesFromBase fromStr codec outside environment baseEnvironment now).attempt
  match rebaseResult with
  | .error err => do
    let _ ← (setSyncStatus environment.id "Idle").attempt
    .fail err
  | .ok _ =>
    (Database.onEnvironments fun t =>
      t.updateOne (fun row => row.id = environment.id) fun row =>
        { row with
          catalogSyncVersion := baseEnvironment.catalogSyncVersion
          lastCatalogSyncedAt := some now
          syncStatus := "Idle" }).mapError .internalError

/-! ## Deletions and creations -/

/-- The resources of a branch workload are deleted before its row. -/
def deleteResources (outside : BranchOutside) (environment : KubeEnvironment.Model)
    (workload : KubeEnvironmentWorkload.Model Text) : Except ApiError PUnit :=
  if environment.baseEnvironmentId.isSome then
    if !outside.connected then
      .error (.invalidRequest
        "No connected KubeManager for this cluster; cannot delete branch workload")
    else if (KubeWorkloadKind.parse workload.kind).isNone then
      .error (.invalidRequest ("Invalid workload kind " ++ workload.kind ++ " in branch environment"))
    else outside.deletion
  else .ok ⟨⟩

/-- Source: `workload.rs`. -/
def deleteEnvironmentWorkload (outside : BranchOutside) (orgId userId environmentId workloadId : Uuid)
    (now : Timestamp) : Call Text PUnit := do
  let found ← (DbApi.getKubeEnvironment environmentId).mapError .internalError
  let environment ← Program.orFail found (.invalidRequest "Environment not found")
  if environment.organizationId ≠ orgId then .fail .unauthorized
  else if !environment.isShared && environment.userId ≠ userId then .fail .unauthorized
  else do
    let found ← (DbApi.getEnvironmentWorkload workloadId).mapError .internalError
    let workload ← Program.orFail found (.invalidRequest "Workload not found")
    if workload.environmentId ≠ environment.id then
      .fail (.invalidRequest "Workload does not belong to this environment")
    else do
      let _ ← Program.ofExcept (deleteResources outside environment workload)
      (DbApi.deleteEnvironmentWorkload workloadId now).mapError .internalError

/-- Source: `environment.rs`; `cluster` is whether the cluster of the base is found. -/
def validateBaseEnvironment (orgId baseEnvironmentId : Uuid) (cluster : Bool) :
    Call Text KubeEnvironment.Model := do
  let found ← (DbApi.getKubeEnvironment baseEnvironmentId).mapError .internalError
  let baseEnvironment ← Program.orFail found (.invalidRequest "Base environment not found")
  if baseEnvironment.organizationId ≠ orgId then .fail .unauthorized
  else if !baseEnvironment.isShared then
    .fail (.invalidRequest "Only shared environments can be used as base environments")
  else if baseEnvironment.baseEnvironmentId.isSome then
    .fail (.invalidRequest "Cannot create a branch from another branch environment")
  else if !cluster then .fail (.invalidRequest "Cluster not found")
  else do
    let found ← (DbApi.getAppCatalog baseEnvironment.appCatalogId).mapError .internalError
    let _ ← Program.orFail found (.invalidRequest "App catalog not found")
    pure baseEnvironment

/-- Source: `environment.rs`; the id and the token are those it makes up. -/
def createBranchEnvironment (orgId userId baseEnvironmentId : Uuid) (cluster : Bool) (name : String)
    (branchEnvironmentId : Uuid) (authToken : String) (now : Timestamp) : Call Text PUnit := do
  let name ← Program.ofExcept (normalizeEnvironmentName name)
  let baseEnvironment ← validateBaseEnvironment orgId baseEnvironmentId cluster
  (DbApi.createKubeEnvironment fromStr branchEnvironmentId orgId userId baseEnvironment.appCatalogId
    baseEnvironment.clusterId name baseEnvironment.namespace "Creating" false
    baseEnvironment.catalogSyncVersion (some baseEnvironmentId) [] ∅ authToken now).mapError
    .internalError
  (Database.onEnvironments fun t =>
    t.updateOne (fun row => row.id = branchEnvironmentId) fun row =>
      { row with status := "Running" }).mapError .internalError

end

end KubeController

end Lapdev
