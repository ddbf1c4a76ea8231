import Lapdev.Api.PreparedResources
import Lapdev.Db.CatalogServices

/-!
# Syncing an environment from its catalog

`sync_environment_from_catalog` of `kube_controller/environment.rs` with everything it calls: the
check that a sync is needed, the choice of the workloads to deploy, their preparation from the
cache, the deployment, the transaction of `Lapdev.Api.EnvironmentSync`, and the links of the branch
overrides. `run_syncEnvironmentFromCatalog` takes a run apart: it ends before the transaction with
nothing changed but the status, or it is a run of the transaction on what was read.
-/

namespace Lapdev

open RustStd Sql Programs

/-- What a sync gets from outside the database: ids, the seeds of its maps, whether a manager of
the target cluster is connected, and the replies of the clusters. -/
structure Outside (Text : Type) where
  newId : Uuid → Uuid
  environmentSeeds : Uuid → String → RandomState ((_ : String) × String)
  servicesByWorkload : RandomState ((_ : Uuid) × List (CachedClusterService Text))
  servicesOf : Uuid → RandomState Uuid
  proxyRoutes : RandomState ((_ : Uuid) × List ProxyPortRoute)
  connected : Bool
  managerNamespace : Option String
  dependencies : Except ApiError PUnit
  deployment : Except ApiError PUnit

/-- Source: `kube-rpc/src/lib.rs`, without the maps of config maps and secrets, which are deployed
and not stored. -/
structure KubeWorkloadsWithResources (Text : Type) where
  workloads : List (KubeWorkloadKind × Text)
  services : HashTable String (KubeServiceWithYaml Text)

variable {Text : Type}

namespace DbApi

/-- Source: `db/src/api.rs`. -/
def getKubeEnvironment (environmentId : Uuid) : Query Text (Option KubeEnvironment.Model) :=
  .read fun db => db.environments.one fun row => row.id = environmentId && row.deletedAt = none

/-- A catalog workload as it is read; an unknown kind is a Deployment. -/
def catalogWorkload (row : KubeAppCatalogWorkload.Model Text) : KubeAppCatalogWorkload Text where
  id := row.id
  name := row.name
  «namespace» := row.namespace
  kind := (KubeWorkloadKind.parse row.kind).getD .deployment
  containers := row.containers
  ports := row.ports
  workloadYaml := row.workloadYaml
  catalogSyncVersion := row.catalogSyncVersion

/-- A live workload row of a catalog. -/
def liveOf (catalogId : Uuid) (row : KubeAppCatalogWorkload.Model Text) : Bool :=
  row.appCatalogId = catalogId && row.deletedAt = none

/-- The workloads of a catalog; a row with an empty YAML is left out. -/
def readCatalogWorkloads (isEmpty : Text → Bool) (catalogId : Uuid) (db : Database Text) :
    List (KubeAppCatalogWorkload Text) :=
  ((db.catalogWorkloads.select (liveOf catalogId)).filter fun row => !isEmpty row.workloadYaml).map
    catalogWorkload

/-- Source: `db/src/api.rs`. -/
def getAppCatalogWorkloads (isEmpty : Text → Bool) (catalogId : Uuid) :
    Query Text (List (KubeAppCatalogWorkload Text)) :=
  .read (readCatalogWorkloads isEmpty catalogId)

end DbApi

namespace KubeController

/-- A program of `KubeController`. -/
abbrev Call (Text α : Type) := Program (Database Text) ApiError α

/-! ## Preparing workloads -/

/-- The containers of a new environment workload: the variables become the original ones, and a
customized image the original image. -/
def environmentContainer (container : KubeContainerInfo) : KubeContainerInfo :=
  match container.image with
  | .custom image =>
    { container with
      originalEnvVars := container.envVars
      envVars := []
      originalImage := image
      image := .followOriginal }
  | .followOriginal => { container with originalEnvVars := container.envVars, envVars := [] }

section
variable (codec : ManifestCodec Text) (isEmpty : Text → Bool) (outside : Outside Text)

/-- The loop body of `prepare_workload_details_from_catalog`. -/
def prepareWorkloadDetail («namespace» : String) (envWorkloadIds : HashTable Uuid Uuid)
    (workload : KubeAppCatalogWorkload Text) : Except ApiError (NewEnvironmentWorkload Text) :=
  if codec.isBlank workload.workloadYaml then
    .error (.invalidRequest ("Workload " ++ workload.name ++ " from catalog is missing YAML"))
  else
    match envWorkloadIds.lookup workload.id with
    | none =>
      .error (.invalidRequest
        ("Missing generated workload id for catalog workload " ++ workload.name))
    | some envWorkloadId =>
      .ok
        { id := envWorkloadId
          details :=
            { name := workload.name
              «namespace»
              kind := workload.kind
              containers := workload.containers.map environmentContainer
              ports := workload.ports
              workloadYaml := workload.workloadYaml
              baseWorkloadId := none } }

/-- Source: `environment.rs`. -/
def prepareWorkloadDetailsFromCatalog (workloads : List (KubeAppCatalogWorkload Text))
    («namespace» : String) (envWorkloadIds : HashTable Uuid Uuid) :
    Except ApiError (List (NewEnvironmentWorkload Text)) :=
  Result.collect (workloads.map (prepareWorkloadDetail codec «namespace» envWorkloadIds))

/-- Source: `app_catalog.rs`. The source cluster is asked only if a dependency is recorded. -/
def fetchDependencyResources (workloadIds : List Uuid) : Call Text PUnit :=
  if workloadIds.isEmpty then pure ⟨⟩
  else do
    let dependencyRows ← Program.read fun db =>
      db.catalogWorkloadDependencies.select fun row =>
        row.workloadId ∈ workloadIds && row.deletedAt = none
    if dependencyRows.isEmpty then pure ⟨⟩ else .ofExcept outside.dependencies

/-- Source: `app_catalog.rs`. -/
def getCatalogWorkloadsWithYamlFromDb (clusterId : Uuid)
    (workloads : List (KubeAppCatalogWorkload Text)) (injectionCtx : SidecarInjectionContext) :
    Call Text (KubeWorkloadsWithResources Text × List (NewEnvironmentWorkload Text)) := do
  let workloadIds := workloads.map (·.id)
  let servicesByWorkload ← (DbApi.getServicesForCatalogWorkloads outside.servicesByWorkload
    outside.servicesOf clusterId workloadIds).mapError .internalError
  let prepared ← Program.ofExcept (prepareWorkloadsFromCache codec outside.environmentSeeds outside.newId
    injectionCtx servicesByWorkload workloads)
  let services ← Program.ofExcept (prepareServicesFromCache codec outside.proxyRoutes
    servicesByWorkload prepared.proxyRoutes)
  fetchDependencyResources outside workloadIds
  let details ← Program.ofExcept (prepareWorkloadDetailsFromCatalog codec
    prepared.workloadsForDetails injectionCtx.namespace prepared.envWorkloadIds)
  pure (⟨prepared.workloadYamls, services⟩, details)

/-- Source: `deployment.rs`. -/
def deployEnvironmentResources (environment : KubeEnvironment.Model)
    (resources : KubeWorkloadsWithResources Text) : Except ApiError PUnit :=
  if resources.workloads.isEmpty then .ok ⟨⟩
  else if environment.authToken = "" then
    .error (.invalidRequest "Environment auth token is required")
  else outside.deployment

/-! ## The parts of a sync -/

/-- Source: `environment.rs`. -/
def authorizeAndValidateSync (orgId userId environmentId : Uuid) :
    Call Text (KubeEnvironment.Model × KubeAppCatalog.Model) := do
  let found ← (DbApi.getKubeEnvironment environmentId).mapError .internalError
  let environment ← Program.orFail found (.invalidRequest "Environment not found")
  if environment.organizationId ≠ orgId then .fail .unauthorized
  else if !environment.isShared && environment.userId ≠ userId then .fail .unauthorized
  else if environment.baseEnvironmentId.isSome then
    .fail (.invalidRequest "Branch environments must be rebased from their shared environment")
  else do
    let found ← (DbApi.getAppCatalog environment.appCatalogId).mapError .internalError
    let catalog ← Program.orFail found (.invalidRequest "App catalog not found")
    if catalog.organizationId ≠ orgId then .fail .unauthorized
    else if catalog.syncVersion = environment.catalogSyncVersion then
      .fail (.invalidRequest "Environment is already up to date")
    else pure (environment, catalog)

/-- The catalog workloads that are new to an environment, or newer than its workload of the name.
Of two rows with one name the later one counts. -/
def workloadsToDeploy (existing : List (KubeEnvironmentWorkload.Model Text))
    (catalogWorkloads : List (KubeAppCatalogWorkload Text)) : List (KubeAppCatalogWorkload Text) :=
  let existingByName : HashTable String (KubeEnvironmentWorkload.Model Text) :=
    HashTable.collect (existing.map fun row => (row.name, row))
  catalogWorkloads.filter fun workload =>
    match existingByName.lookup workload.name with
    | some row => row.catalogSyncVersion < workload.catalogSyncVersion
    | none => true

/-- Source: `environment.rs`. -/
def determineWorkloadsToSync (environmentId catalogId : Uuid) :
    Call Text (List (KubeAppCatalogWorkload Text) × List (KubeAppCatalogWorkload Text)) := do
  let existing ← Program.read fun db => db.environmentWorkloads.select (liveIn environmentId)
  let catalogWorkloads ←
    (DbApi.getAppCatalogWorkloads isEmpty catalogId).mapError .internalError
  pure (catalogWorkloads, workloadsToDeploy existing catalogWorkloads)

/-- The sidecars of an environment. -/
def injectionContext (environment : KubeEnvironment.Model) : SidecarInjectionContext where
  environmentId := environment.id
  «namespace» := environment.namespace
  authToken := environment.authToken
  managerNamespace := outside.managerNamespace

/-- Source: `environment.rs`. -/
def performWorkloadDeployment (environment : KubeEnvironment.Model) (catalog : KubeAppCatalog.Model)
    (workloads : List (KubeAppCatalogWorkload Text)) :
    Call Text (List String × List (NewEnvironmentWorkload Text)) :=
  if workloads.isEmpty then pure ([], [])
  else if !outside.connected then
    .fail (.invalidRequest "No connected KubeManager for the environment target cluster")
  else do
    let prepared ← getCatalogWorkloadsWithYamlFromDb codec outside catalog.clusterId workloads
      (injectionContext outside environment)
    Program.ofExcept (deployEnvironmentResources outside environment prepared.1)
    pure (prepared.1.services.keys, prepared.2)

/-- The update of an environment's status column. -/
def setSyncStatus (environmentId : Uuid) (syncStatus : String) : Call Text PUnit :=
  (Database.onEnvironments fun t =>
    t.updateOne (fun row => row.id = environmentId) fun row => { row with syncStatus }).mapError
    .internalError

/-- The inner loop body of `relink_branch_overrides`. -/
def relinkOverride (baseEnvironmentId newBaseId : Uuid) (newCatalogSyncVersion : Int)
    (branchWorkload : KubeEnvironmentWorkload.Model Text) : Call Text PUnit :=
  if branchWorkload.environmentId = baseEnvironmentId then pure ⟨⟩
  else
    (DbApi.updateBranchWorkloadLink branchWorkload.id newBaseId newCatalogSyncVersion).mapError
      .internalError

/-- The outer loop body of `relink_branch_overrides`. -/
def relinkReplaced (baseEnvironmentId : Uuid) (newCatalogSyncVersion : Int)
    (replaced : Uuid × Uuid) : Call Text PUnit := do
  let branchWorkloads ← Program.read fun db =>
    db.environmentWorkloads.select fun row =>
      row.baseWorkloadId = some replaced.1 && row.deletedAt = none
  Program.forEach (relinkOverride baseEnvironmentId replaced.2 newCatalogSyncVersion)
    branchWorkloads

/-- Source: `environment.rs`. -/
def relinkBranchOverrides (baseEnvironmentId : Uuid) (replacements : List (Uuid × Uuid))
    (newCatalogSyncVersion : Int) : Call Text PUnit :=
  Program.forEach (relinkReplaced baseEnvironmentId newCatalogSyncVersion) replacements

/-- The part of a sync whose errors put the status back: what to deploy, and its deployment. -/
def deployChanged (environment : KubeEnvironment.Model) (catalog : KubeAppCatalog.Model) :
    Call Text (List (KubeAppCatalogWorkload Text) ×
      List (NewEnvironmentWorkload Text) × List String) := do
  let determined ← determineWorkloadsToSync isEmpty environment.id catalog.id
  let deployed ← performWorkloadDeployment codec outside environment catalog determined.2
  pure (determined.1, deployed.2, deployed.1)

/-- The part of a sync that writes the workloads. -/
def storeSynced (environment : KubeEnvironment.Model) (catalog : KubeAppCatalog.Model)
    (now : Timestamp) (synced : List (KubeAppCatalogWorkload Text) ×
      List (NewEnvironmentWorkload Text) × List String) : Call Text PUnit := do
  let replaced ← (updateEnvironmentWorkloadsInDb environment.id environment.namespace synced.1
    synced.2.1 synced.2.2 catalog.syncVersion now).mapError .internalError
  relinkBranchOverrides environment.id replaced catalog.syncVersion

/-- Source: `environment.rs`; `now` is `Utc::now()`. -/
def syncEnvironmentFromCatalog (orgId userId environmentId : Uuid) (now : Timestamp) :
    Call Text PUnit := do
  let validated ← (authorizeAndValidateSync orgId userId environmentId).attempt
  match validated with
  | .error e =>
    if e = .invalidRequest "Environment is already up to date" then pure ⟨⟩ else .fail e
  | .ok (environment, catalog) => do
    setSyncStatus environment.id "Syncing"
    let syncResult ← (deployChanged codec isEmpty outside environment catalog).attempt
    match syncResult with
    | .error e => do
      let _ ← (setSyncStatus environment.id "Idle").attempt
      .fail e
    | .ok synced => storeSynced environment catalog now synced

end

/-! ## What is prepared -/

section
variable {codec : ManifestCodec Text} {isEmpty : Text → Bool} {outside : Outside Text}
  {workloads : List (KubeAppCatalogWorkload Text)}

/-- A new environment workload comes from a catalog workload. -/
structure DetailOf («namespace» : String) (workload : KubeAppCatalogWorkload Text)
    (new : NewEnvironmentWorkload Text) : Prop where
  name : new.details.name = workload.name
  kind : new.details.kind = workload.kind
  «namespace» : new.details.namespace = «namespace»
  baseWorkloadId : new.details.baseWorkloadId = none

/-- Preparation replaces the YAML of each workload and nothing else. -/
theorem forall₂_workloadsForDetails {newId : Uuid → Uuid}
    {seeds : Uuid → String → RandomState ((_ : String) × String)}
    {injectionCtx : SidecarInjectionContext} {servicesByWorkload : ServicesByWorkload Text}
    {prepared : PreparedWorkloads Text}
    (h : prepareWorkloadsFromCache codec seeds newId injectionCtx servicesByWorkload workloads =
      .ok prepared) :
    List.Forall₂ (fun workload workload' => ∃ yaml, workload' = { workload with workloadYaml := yaml })
      workloads prepared.workloadsForDetails := by
  refine Result.foldEach_invariant (fun done (prepared : PreparedWorkloads Text) =>
    List.Forall₂ (fun workload workload' => ∃ yaml,
      workload' = { workload with workloadYaml := yaml }) done prepared.workloadsForDetails)
    ?_ .nil h
  intro done prepared workload prepared' hdone hround
  unfold prepareWorkload at hround
  split at hround
  · cases hround
  · obtain ⟨yaml, -, rfl⟩ := Result.map_eq_ok.1 hround
    exact List.rel_append hdone (.cons ⟨yaml, rfl⟩ .nil)

/-- The details of prepared workloads are those of the catalog's. -/
theorem forall₂_detailOf {workloads' : List (KubeAppCatalogWorkload Text)} {«namespace» : String}
    {envWorkloadIds : HashTable Uuid Uuid} {details : List (NewEnvironmentWorkload Text)}
    (hprepared : List.Forall₂ (fun workload workload' => ∃ yaml,
      workload' = { workload with workloadYaml := yaml }) workloads workloads')
    (h : prepareWorkloadDetailsFromCatalog codec workloads' «namespace» envWorkloadIds =
      .ok details) : List.Forall₂ (DetailOf «namespace») workloads details := by
  have hdetails := Result.collect_map_eq_ok.1 h
  clear h
  induction hprepared generalizing details with
  | nil =>
    cases hdetails
    exact .nil
  | cons hyaml _ ih =>
    obtain ⟨yaml, rfl⟩ := hyaml
    cases hdetails with
    | cons hdetail hrest =>
      refine .cons ?_ (ih hrest)
      unfold prepareWorkloadDetail at hdetail
      split at hdetail
      · cases hdetail
      · split at hdetail
        · cases hdetail
        · cases hdetail
          exact ⟨rfl, rfl, rfl, rfl⟩

/-- The services prepared from the cache are the cached ones, by name. -/
theorem mem_prepareServicesFromCache {rs : RandomState ((_ : Uuid) × List ProxyPortRoute)}
    {servicesByWorkload : ServicesByWorkload Text}
    {proxyRoutes : HashTable Uuid (List ProxyPortRoute)} {services : ServicesMap Text}
    (h : prepareServicesFromCache codec rs servicesByWorkload proxyRoutes = .ok services)
    (name : String) :
    name ∈ services ↔ ∃ workloadId l service, servicesByWorkload.lookup workloadId = some l ∧
      service ∈ l ∧ service.name = name := by
  obtain ⟨cached, hcached, hrewritten⟩ := Result.bind_eq_ok.1 h
  have hmem : name ∈ cached ↔ ∃ service ∈ servicesByWorkload.entries.flatMap (·.2),
      service.name = name := by
    refine Result.foldEach_invariant (fun done (services : ServicesMap Text) =>
      (name ∈ services ↔ ∃ service ∈ done, service.name = name)) ?_ (by simp) hcached
    intro done services service services' hdone hround
    have hnew : name ∈ services' ↔ name ∈ services ∨ name = service.name := by
      unfold cacheService at hround
      split at hround
      · next hold =>
        cases hround
        exact ⟨.inl, fun h => h.elim id fun heq => heq ▸ hold⟩
      · obtain ⟨parsed, -, rfl⟩ := Result.map_eq_ok.1 hround
        rw [AList.mem_insert, or_comm]
    rw [hnew, hdone]
    simp [or_and_right, exists_or, eq_comm]
  have hkeep : name ∈ services ↔ name ∈ cached := by
    refine Result.foldEach_invariant (fun _ (services : ServicesMap Text) =>
      (name ∈ services ↔ name ∈ cached)) ?_ Iff.rfl hrewritten
    intro _ services entry services' hservices hround
    unfold rewriteServicesOf at hround
    split at hround
    · next l hl =>
      refine Result.foldEach_invariant (fun _ (services : ServicesMap Text) =>
        (name ∈ services ↔ name ∈ cached)) ?_ hservices hround
      intro _ services service services' hservices hround
      unfold rewriteNamed at hround
      split at hround
      · next entry hentry =>
        obtain ⟨entry', -, rfl⟩ := Result.map_eq_ok.1 hround
        rw [AList.mem_insert, ← hservices]
        refine ⟨fun h => h.elim (fun heq => heq ▸ ?_) id, .inr⟩
        exact AList.lookup_isSome.1 (by rw [hentry]; rfl)
      · cases hround
        exact hservices
    · cases hround
      exact hservices
  rw [hkeep, hmem]
  constructor
  · rintro ⟨service, hservice, rfl⟩
    obtain ⟨e, he, hservice⟩ := List.mem_flatMap.1 hservice
    exact ⟨e.1, e.2, service, AList.mem_lookup_iff.2 he, hservice, rfl⟩
  · rintro ⟨workloadId, l, service, hl, hservice, rfl⟩
    exact ⟨service, List.mem_flatMap.2 ⟨⟨workloadId, l⟩, AList.mem_lookup_iff.1 hl, hservice⟩, rfl⟩

/-- The name of a cached service that selects a workload. -/
def SelectedBy (db : Database Text) (clusterId : Uuid) (workload : KubeAppCatalogWorkload Text)
    (name : String) : Prop :=
  ∃ row ∈ db.clusterServices.rows, row.deletedAt = none ∧ DbApi.isClusterIp row = true ∧
    DbApi.SelectsCatalogWorkload db clusterId row.id workload.id ∧ row.name = name

theorem readOnly_fetchDependencyResources (workloadIds : List Uuid) :
    ReadOnly (fetchDependencyResources outside workloadIds) := by
  unfold fetchDependencyResources
  split
  · exact .pure _
  · refine .bind (.read _) fun rows => ?_
    split
    · exact .pure _
    · exact .ofExcept _

/-- What is prepared for a deployment: the details of the workloads, and the services that select
them. -/
theorem run_getCatalogWorkloadsWithYamlFromDb (codec : ManifestCodec Text)
    (outside : Outside Text) (db : Database Text) (clusterId : Uuid)
    (workloads : List (KubeAppCatalogWorkload Text)) (injectionCtx : SidecarInjectionContext) :
    ∃ r, (getCatalogWorkloadsWithYamlFromDb codec outside clusterId workloads injectionCtx).run db =
        (r, db) ∧
      ∀ resources details, r = .ok (resources, details) →
        List.Forall₂ (DetailOf injectionCtx.namespace) workloads details ∧
        ∀ name, name ∈ resources.services ↔
          ∃ workload ∈ workloads, SelectedBy db clusterId workload name := by
  obtain ⟨found, hrun, hfound⟩ := DbApi.run_getServicesForCatalogWorkloads
    outside.servicesByWorkload outside.servicesOf db clusterId (workloads.map (·.id))
  unfold getCatalogWorkloadsWithYamlFromDb
  rw [Program.run_bind, Program.run_mapError, hrun]
  dsimp only
  have hread : ReadOnly (do
      let prepared ← Program.ofExcept (prepareWorkloadsFromCache codec outside.environmentSeeds
        outside.newId injectionCtx found workloads)
      let services ← Program.ofExcept (prepareServicesFromCache codec outside.proxyRoutes
        found prepared.proxyRoutes)
      fetchDependencyResources outside (workloads.map (·.id))
      let details ← Program.ofExcept (prepareWorkloadDetailsFromCatalog codec
        prepared.workloadsForDetails injectionCtx.namespace prepared.envWorkloadIds)
      pure (KubeWorkloadsWithResources.mk prepared.workloadYamls services, details) :
        Call Text (KubeWorkloadsWithResources Text × List (NewEnvironmentWorkload Text))) :=
    .bind (.ofExcept _) fun _ => .bind (.ofExcept _) fun _ =>
      .bind (readOnly_fetchDependencyResources _) fun _ => .bind (.ofExcept _) fun _ => .pure _
  refine ⟨_, hread.run db, fun resources details hr => ?_⟩
  obtain ⟨prepared, hprepared, hr⟩ := (ReadOnly.ofExcept _).bind_eq_ok.1 hr
  obtain ⟨services, hservices, hr⟩ := (ReadOnly.ofExcept _).bind_eq_ok.1 hr
  obtain ⟨-, -, hr⟩ := (readOnly_fetchDependencyResources _).bind_eq_ok.1 hr
  obtain ⟨details', hdetails, hr⟩ := (ReadOnly.ofExcept _).bind_eq_ok.1 hr
  rw [Program.run_ofExcept] at hprepared hservices hdetails
  cases hr
  refine ⟨forall₂_detailOf (forall₂_workloadsForDetails hprepared) hdetails, fun name => ?_⟩
  rw [mem_prepareServicesFromCache hservices]
  constructor
  · rintro ⟨workloadId, l, service, hl, hservice, rfl⟩
    obtain ⟨hid, row, hrow, hlive, hip, hselects, rfl⟩ := (hfound _ _).1 ⟨l, hl, hservice⟩
    obtain ⟨workload, hworkload, rfl⟩ := List.mem_map.1 hid
    exact ⟨workload, hworkload, row, hrow, hlive, hip, hselects, rfl⟩
  · rintro ⟨workload, hworkload, row, hrow, hlive, hip, hselects, rfl⟩
    obtain ⟨l, hl, hservice⟩ := (hfound workload.id (DbApi.cachedService row)).2
      ⟨List.mem_map_of_mem hworkload, row, hrow, hlive, hip, hselects, rfl⟩
    exact ⟨_, l, _, hl, hservice, rfl⟩

/-- What is deployed: the details of the workloads, and the names of the services that select
them. -/
theorem run_performWorkloadDeployment (codec : ManifestCodec Text) (outside : Outside Text)
    (db : Database Text) (environment : KubeEnvironment.Model)
    (catalog : KubeAppCatalog.Model) (workloads : List (KubeAppCatalogWorkload Text)) :
    ∃ r, (performWorkloadDeployment codec outside environment catalog workloads).run db = (r, db) ∧
      ∀ names details, r = .ok (names, details) →
        List.Forall₂ (DetailOf environment.namespace) workloads details ∧
        ∀ name, name ∈ names ↔
          ∃ workload ∈ workloads, SelectedBy db catalog.clusterId workload name := by
  unfold performWorkloadDeployment
  split
  · next hempty =>
    refine ⟨_, rfl, fun names details hr => ?_⟩
    cases hr
    rw [List.isEmpty_iff.1 hempty]
    exact ⟨.nil, by simp⟩
  split
  · exact ⟨_, rfl, fun _ _ hr => nomatch hr⟩
  obtain ⟨r, hrun, hr⟩ := run_getCatalogWorkloadsWithYamlFromDb codec outside db catalog.clusterId workloads (injectionContext outside environment)
  rw [Program.run_bind, hrun]
  cases r with
  | error e => exact ⟨_, rfl, fun _ _ hr => nomatch hr⟩
  | ok prepared =>
    obtain ⟨resources, details⟩ := prepared
    dsimp only
    rw [Program.run_bind, Program.run_ofExcept]
    cases deployEnvironmentResources outside environment resources with
    | error e => exact ⟨_, rfl, fun _ _ hr => nomatch hr⟩
    | ok _ =>
      refine ⟨_, rfl, fun names details' heq => ?_⟩
      cases heq
      obtain ⟨hdetails, hservices⟩ := hr resources details rfl
      exact ⟨hdetails, hservices⟩

/-! ## Runs of a sync -/

/-- The environment and the catalog that a sync is about: both live, and the environment not a
branch. -/
structure SyncSubject (db : Database Text) (environmentId : Uuid)
    (environment : KubeEnvironment.Model) (catalog : KubeAppCatalog.Model) : Prop where
  environment_mem : environment ∈ db.environments.rows
  environment_id : environment.id = environmentId
  environment_live : environment.deletedAt = none
  notBranch : environment.baseEnvironmentId = none
  catalog_mem : catalog ∈ db.appCatalogs.rows
  catalog_id : catalog.id = environment.appCatalogId
  catalog_live : catalog.deletedAt = none

/-- What the check of a sync finds. -/
theorem run_authorizeAndValidateSync (db : Database Text) (orgId userId environmentId : Uuid) :
    ∃ r, (authorizeAndValidateSync orgId userId environmentId : Call Text _).run db = (r, db) ∧
      (∀ environment catalog, r = .ok (environment, catalog) →
        SyncSubject db environmentId environment catalog ∧
          catalog.syncVersion ≠ environment.catalogSyncVersion) ∧
      (r = .error (.invalidRequest "Environment is already up to date") →
        ∃ environment catalog, SyncSubject db environmentId environment catalog ∧
          catalog.syncVersion = environment.catalogSyncVersion) := by
  unfold authorizeAndValidateSync
  rw [Program.run_bind, Program.run_mapError, DbApi.getKubeEnvironment, Program.run_read]
  dsimp only
  rw [Program.run_bind, Program.run_orFail]
  cases henvironment : db.environments.one fun row =>
      row.id = environmentId && row.deletedAt = none with
  | none => exact ⟨_, rfl, fun _ _ h => (nomatch h), fun h => by simp at h⟩
  | some environment =>
  obtain ⟨hmem, hp⟩ := Table.mem_of_one henvironment
  simp only [Bool.and_eq_true, decide_eq_true_eq] at hp
  dsimp only [Option.elim]
  split
  · exact ⟨_, rfl, fun _ _ h => (nomatch h), fun h => nomatch h⟩
  split
  · exact ⟨_, rfl, fun _ _ h => (nomatch h), fun h => nomatch h⟩
  split
  · exact ⟨_, rfl, fun _ _ h => (nomatch h), fun h => by simp at h⟩
  next hbranch =>
  rw [Program.run_bind, Program.run_mapError, DbApi.getAppCatalog, Program.run_read]
  dsimp only
  rw [Program.run_bind, Program.run_orFail]
  cases hcatalog : db.appCatalogs.one fun row =>
      row.id = environment.appCatalogId && row.deletedAt = none with
  | none => exact ⟨_, rfl, fun _ _ h => (nomatch h), fun h => by simp at h⟩
  | some catalog =>
  obtain ⟨hmem', hp'⟩ := Table.mem_of_one hcatalog
  simp only [Bool.and_eq_true, decide_eq_true_eq] at hp'
  have hsubject : SyncSubject db environmentId environment catalog :=
    ⟨hmem, hp.1, hp.2, by simpa using hbranch, hmem', hp'.1, hp'.2⟩
  dsimp only [Option.elim]
  split
  · exact ⟨_, rfl, fun _ _ h => (nomatch h), fun h => nomatch h⟩
  split
  · next heq => exact ⟨_, rfl, fun _ _ h => (nomatch h), fun _ => ⟨_, _, hsubject, heq⟩⟩
  · next hne =>
    refine ⟨_, rfl, fun _ _ h => ?_, fun h => nomatch h⟩
    cases h
    exact ⟨hsubject, hne⟩

/-- Nothing but the status of environments differs. -/
def StatusOnly (db db' : Database Text) : Prop :=
  ∃ t f, db' = { db with environments := t } ∧ t.rows = db.environments.rows.map f ∧
    ∀ row, f row = { row with syncStatus := (f row).syncStatus }

theorem StatusOnly.refl (db : Database Text) : StatusOnly db db :=
  ⟨db.environments, id, rfl, List.map_id _ |>.symm, fun _ => rfl⟩

theorem StatusOnly.trans {db db' db'' : Database Text} (h : StatusOnly db db')
    (h' : StatusOnly db' db'') : StatusOnly db db'' := by
  obtain ⟨t, f, rfl, hrows, hf⟩ := h
  obtain ⟨t', f', rfl, hrows', hf'⟩ := h'
  refine ⟨t', f' ∘ f, rfl, ?_, fun row => ?_⟩
  · rw [hrows', hrows, List.map_map]
  · rw [Function.comp_apply, hf' (f row), hf row]

/-- A write of a status leaves everything else, whether it succeeds or not. -/
theorem statusOnly_setSyncStatus (db : Database Text) (environmentId : Uuid) (syncStatus : String) :
    StatusOnly db ((setSyncStatus environmentId syncStatus).run db).2 := by
  have htriple : Triple (fun db' => db' = db)
      (Database.onEnvironments fun t =>
        t.updateOne (fun row => row.id = environmentId) fun row => { row with syncStatus })
      (fun _ => StatusOnly db) fun _ => StatusOnly db := by
    refine Database.triple_statement ?_ fun db' _ heq => heq ▸ .refl db
    rintro db' t rfl h
    refine ⟨t, fun row => if row.id = environmentId then { row with syncStatus } else row, rfl, ?_,
      fun row => ?_⟩
    · rw [Table.rows_updateMany (Table.updateOne_eq_ok.1 h).2]
      simp
    · dsimp only
      split <;> rfl
  have hrun := htriple db rfl
  rw [setSyncStatus, Program.run_mapError]
  split at hrun <;> exact hrun

/-- What a sync read before it wrote the workloads. -/
structure SyncedFrom (isEmpty : Text → Bool) (db : Database Text)
    (environment : KubeEnvironment.Model) (catalog : KubeAppCatalog.Model)
    (synced : List (KubeAppCatalogWorkload Text) × List (NewEnvironmentWorkload Text) × List String) :
    Prop where
  catalogWorkloads : synced.1 = DbApi.readCatalogWorkloads isEmpty catalog.id db
  details : List.Forall₂ (DetailOf environment.namespace)
    (workloadsToDeploy (db.environmentWorkloads.select (liveIn environment.id)) synced.1) synced.2.1
  services : ∀ name, name ∈ synced.2.2 ↔
    ∃ workload ∈ workloadsToDeploy (db.environmentWorkloads.select (liveIn environment.id)) synced.1,
      SelectedBy db catalog.clusterId workload name

/-- What the first part of a sync reads and deploys. -/
theorem run_deployChanged (codec : ManifestCodec Text) (isEmpty : Text → Bool)
    (outside : Outside Text) (db : Database Text) (environment : KubeEnvironment.Model)
    (catalog : KubeAppCatalog.Model) :
    ∃ r, (deployChanged codec isEmpty outside environment catalog).run db = (r, db) ∧
      ∀ synced, r = .ok synced → SyncedFrom isEmpty db environment catalog synced := by
  obtain ⟨r, hrun, hr⟩ := run_performWorkloadDeployment codec outside db environment catalog (workloadsToDeploy (db.environmentWorkloads.select
      (liveIn environment.id)) (DbApi.readCatalogWorkloads isEmpty catalog.id db))
  have hdetermined : (determineWorkloadsToSync isEmpty environment.id catalog.id).run db =
      (.ok (DbApi.readCatalogWorkloads isEmpty catalog.id db,
        workloadsToDeploy (db.environmentWorkloads.select (liveIn environment.id))
          (DbApi.readCatalogWorkloads isEmpty catalog.id db)), db) := rfl
  unfold deployChanged
  rw [Program.run_bind_of_ok hdetermined, Program.run_bind, hrun]
  cases r with
  | error e => exact ⟨_, rfl, fun _ h => nomatch h⟩
  | ok deployed =>
    refine ⟨_, rfl, fun synced h => ?_⟩
    cases h
    obtain ⟨hdetails, hservices⟩ := hr _ _ rfl
    exact ⟨rfl, hdetails, hservices⟩

/-- **A run of a sync.** It changes nothing but the status, and then succeeds only if the
environment is up to date; or it writes what it read to a database that differs in the status. -/
theorem run_syncEnvironmentFromCatalog (codec : ManifestCodec Text) (isEmpty : Text → Bool)
    (outside : Outside Text) (db : Database Text) (orgId userId environmentId : Uuid)
    (now : Timestamp) :
    (StatusOnly db ((syncEnvironmentFromCatalog codec isEmpty outside orgId userId environmentId
          now).run db).2 ∧
        (((syncEnvironmentFromCatalog codec isEmpty outside orgId userId environmentId now).run
            db).1 = .ok ⟨⟩ →
          ((syncEnvironmentFromCatalog codec isEmpty outside orgId userId environmentId now).run
              db).2 = db ∧
          ∃ environment catalog, SyncSubject db environmentId environment catalog ∧
            catalog.syncVersion = environment.catalogSyncVersion)) ∨
      ∃ environment catalog synced db₁, SyncSubject db environmentId environment catalog ∧
        catalog.syncVersion ≠ environment.catalogSyncVersion ∧
        SyncedFrom isEmpty db environment catalog synced ∧ StatusOnly db db₁ ∧
        (syncEnvironmentFromCatalog codec isEmpty outside orgId userId environmentId now).run db =
          (storeSynced environment catalog now synced).run db₁ := by
  obtain ⟨r, hrun, hok, huptodate⟩ := run_authorizeAndValidateSync db orgId userId environmentId
  unfold syncEnvironmentFromCatalog
  rw [Program.run_bind, Program.run_attempt, hrun]
  dsimp only
  cases r with
  | error e =>
    dsimp only
    split
    · next heq => exact .inl ⟨.refl db, fun _ => ⟨rfl, huptodate (heq ▸ rfl)⟩⟩
    · exact .inl ⟨.refl db, fun h => nomatch h⟩
  | ok subject =>
  obtain ⟨environment, catalog⟩ := subject
  obtain ⟨hsubject, hne⟩ := hok environment catalog rfl
  have hstatus := statusOnly_setSyncStatus db environment.id "Syncing"
  dsimp only
  rw [Program.run_bind]
  rcases hset : (setSyncStatus environment.id "Syncing").run db with ⟨_ | _, db₁⟩
  · rw [hset] at hstatus
    exact .inl ⟨hstatus, fun h => nomatch h⟩
  rw [hset] at hstatus
  obtain ⟨r, hdeploy, hsynced⟩ := run_deployChanged codec isEmpty outside db₁ environment catalog
  dsimp only
  rw [Program.run_bind, Program.run_attempt, hdeploy]
  cases r with
  | error e =>
    dsimp only
    rw [Program.run_bind, Program.run_attempt]
    exact .inl ⟨hstatus.trans (statusOnly_setSyncStatus db₁ environment.id "Idle"),
      fun h => nomatch h⟩
  | ok synced =>
    have hfrom := hsynced synced rfl
    refine .inr ⟨environment, catalog, synced, db₁, hsubject, hne, ?_, hstatus, rfl⟩
    -- the status is not among what the deployment reads
    obtain ⟨t, f, rfl, -⟩ := hstatus
    exact ⟨hfrom.catalogWorkloads, hfrom.details, hfrom.services⟩

end

end KubeController

end Lapdev
