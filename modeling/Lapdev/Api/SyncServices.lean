import Lapdev.Api.SyncEffect

/-!
# The services an environment keeps in a sync

A sync deletes every service row of its environment whose name is not among the services of the
workloads it deploys, and inserts none. `keepsServices_iff` says when this keeps the services of
the workloads that stay: not if a service belongs only to workloads the sync leaves alone.
-/

namespace Lapdev

open RustStd Sql Programs

variable {Text : Type}

namespace DbApi

/-- The labels of a catalog workload. -/
def catalogLabels (db : Database Text) (workloadId : Uuid) : BTreeMap String String :=
  ((labelledWorkload (db.catalogWorkloadLabels.select fun row => row.deletedAt = none)
    workloadId).map (·.labels)).getD ∅

end DbApi

namespace KubeController

/-- A service selects the pods with given labels. An empty selector selects none. -/
def SelectsLabels (service : KubeEnvironmentService.Model Text) (labels : BTreeMap String String) :
    Prop :=
  (∃ k, k ∈ service.selector) ∧
    ∀ k v, service.selector.lookup k = some v → labels.lookup k = some v

/-- The catalog workloads a sync deploys: none if the environment is up to date. -/
def deployedWorkloads (isEmpty : Text → Bool) (db : Database Text)
    (environment : KubeEnvironment.Model) (catalog : KubeAppCatalog.Model) :
    List (KubeAppCatalogWorkload Text) :=
  if catalog.syncVersion = environment.catalogSyncVersion then []
  else toDeploy isEmpty db environment catalog

/-- A service selects a workload that a sync deploys. -/
def SelectsDeployed (isEmpty : Text → Bool) (db : Database Text)
    (environment : KubeEnvironment.Model) (catalog : KubeAppCatalog.Model)
    (service : KubeEnvironmentService.Model Text) : Prop :=
  ∃ workload ∈ deployedWorkloads isEmpty db environment catalog,
    SelectsLabels service (DbApi.catalogLabels db workload.id)

/-- The name of a service that a sync deploys. -/
def DeployedService (isEmpty : Text → Bool) (db : Database Text)
    (environment : KubeEnvironment.Model) (catalog : KubeAppCatalog.Model) (name : String) : Prop :=
  ∃ workload ∈ deployedWorkloads isEmpty db environment catalog,
    SelectedBy db catalog.clusterId workload name

/-- **A sync keeps the services**: those of the workloads it left alone are live, those it deployed
have a live row, and those it deleted select no workload that is left. -/
structure KeepsServices (fromStr : Text → Option Yaml.Value) (isEmpty : Text → Bool)
    (environment : KubeEnvironment.Model) (catalog : KubeAppCatalog.Model)
    (db db' : Database Text) : Prop where
  unchanged : ∀ service ∈ db.environmentServices.rows, liveService environment.id service →
    ∀ workload ∈ db.environmentWorkloads.rows, workload ∈ db'.environmentWorkloads.rows →
      liveIn environment.id workload = true →
      SelectsLabels service (storedLabels fromStr workload) →
        service ∈ db'.environmentServices.rows
  deployed : ∀ name, DeployedService isEmpty db environment catalog name →
    ∃ service ∈ db'.environmentServices.rows, liveService environment.id service ∧
      service.name = name
  deleted : ∀ service ∈ db.environmentServices.rows, liveService environment.id service →
    service ∉ db'.environmentServices.rows →
      (∀ workload ∈ db.environmentWorkloads.rows, workload ∈ db'.environmentWorkloads.rows →
        liveIn environment.id workload = true →
          ¬SelectsLabels service (storedLabels fromStr workload)) ∧
      ¬SelectsDeployed isEmpty db environment catalog service

/-- A service selects a live workload that a sync has no reason to delete or deploy. -/
def SelectsUnchanged (fromStr : Text → Option Yaml.Value) (isEmpty : Text → Bool)
    (db : Database Text) (environment : KubeEnvironment.Model) (catalog : KubeAppCatalog.Model)
    (service : KubeEnvironmentService.Model Text) : Prop :=
  ∃ workload ∈ db.environmentWorkloads.rows, liveIn environment.id workload = true ∧
    workload.name ∈ (DbApi.readCatalogWorkloads isEmpty catalog.id db).map (·.name) ∧
    (∀ changed ∈ deployedWorkloads isEmpty db environment catalog, changed.name ≠ workload.name) ∧
    SelectsLabels service (storedLabels fromStr workload)

/-- The services a sync deploys are those of the workloads that stay: each live service row that
selects one of these has the name of a deployed service, and each of these names has a row. -/
structure DeploysServices (fromStr : Text → Option Yaml.Value) (isEmpty : Text → Bool)
    (db : Database Text) (environment : KubeEnvironment.Model) (catalog : KubeAppCatalog.Model) :
    Prop where
  covers : ∀ service ∈ db.environmentServices.rows, liveService environment.id service →
    SelectsUnchanged fromStr isEmpty db environment catalog service ∨
      SelectsDeployed isEmpty db environment catalog service →
        DeployedService isEmpty db environment catalog service.name
  present : ∀ name, DeployedService isEmpty db environment catalog name →
    ∃ service ∈ db.environmentServices.rows, liveService environment.id service ∧
      service.name = name

section
variable {fromStr : Text → Option Yaml.Value} {codec : ManifestCodec Text} {isEmpty : Text → Bool}
  {outside : Outside Text} {orgId userId environmentId : Uuid} {now : Timestamp}
  {db db' : Database Text} {environment : KubeEnvironment.Model} {catalog : KubeAppCatalog.Model}
  {details : List (NewEnvironmentWorkload Text)}

/-- A query finds one environment and one catalog. -/
theorem SyncSubject.unique {environment' : KubeEnvironment.Model} {catalog' : KubeAppCatalog.Model}
    (h : SyncSubject db environmentId environment catalog)
    (h' : SyncSubject db environmentId environment' catalog') :
    environment' = environment ∧ catalog' = catalog := by
  have henvironment : environment' = environment :=
    Table.eq_of_conflict h'.environment_mem h.environment_mem
      (.inl (h'.environment_id.trans h.environment_id.symm))
  refine ⟨henvironment, Table.eq_of_conflict h'.catalog_mem h.catalog_mem ?_⟩
  exact h'.catalog_id.trans (henvironment ▸ h.catalog_id.symm)

/-- An environment that is up to date keeps its services. -/
theorem keepsServices_of_upToDate (h : catalog.syncVersion = environment.catalogSyncVersion) :
    KeepsServices fromStr isEmpty environment catalog db db where
  unchanged := fun _ hservice _ _ _ _ _ _ => hservice
  deployed := by
    rintro name ⟨workload, hworkload, -⟩
    rw [deployedWorkloads, if_pos h] at hworkload
    cases hworkload
  deleted := fun _ hservice _ hgone => absurd hservice hgone

/-- The workloads a sync leaves alone are there before and after it. -/
theorem SyncWrites.mem_unchanged (h : SyncWrites isEmpty db environment catalog now details db')
    {row : KubeEnvironmentWorkload.Model Text} (hmem : row ∈ db.environmentWorkloads.rows)
    (hlive : liveIn environment.id row = true) :
    row ∈ db'.environmentWorkloads.rows ↔
      row.name ∈ (DbApi.readCatalogWorkloads isEmpty catalog.id db).map (·.name) ∧
        ∀ workload ∈ toDeploy isEmpty db environment catalog, workload.name ≠ row.name := by
  rw [h.live row hlive]
  constructor
  · rintro (⟨-, hkept⟩ | hnew)
    · exact hkept
    · exact absurd rfl (h.fresh row hlive hnew row hmem)
  · exact fun hkept => .inl ⟨hmem, hkept⟩

/-- The services that are live after a sync are those with a deployed name. -/
theorem SyncWrites.mem_service (h : SyncWrites isEmpty db environment catalog now details db')
    (hne : catalog.syncVersion ≠ environment.catalogSyncVersion)
    {service : KubeEnvironmentService.Model Text} (hlive : liveService environment.id service) :
    service ∈ db'.environmentServices.rows ↔ service ∈ db.environmentServices.rows ∧
      DeployedService isEmpty db environment catalog service.name := by
  rw [h.services service hlive, DeployedService, deployedWorkloads, if_neg hne]

/-- A sync that deploys keeps the services exactly if it deploys those of the workloads that
stay. -/
theorem SyncWrites.keeps_iff_deploys
    (h : SyncWrites isEmpty db environment catalog now details db')
    (hne : catalog.syncVersion ≠ environment.catalogSyncVersion) :
    KeepsServices fromStr isEmpty environment catalog db db' ↔
      DeploysServices fromStr isEmpty db environment catalog := by
  have hdeployed : deployedWorkloads isEmpty db environment catalog =
      toDeploy isEmpty db environment catalog := if_neg hne
  constructor
  · intro hkeeps
    refine ⟨fun service hservice hlive hselects => ?_, fun name hname => ?_⟩
    · by_contra hname
      have hgone : service ∉ db'.environmentServices.rows :=
        fun hkept => hname ((h.mem_service hne hlive).1 hkept).2
      obtain ⟨hunchanged, hchanged⟩ := hkeeps.deleted service hservice hlive hgone
      rcases hselects with ⟨workload, hworkload, hlive', hcatalog, hnot, hselects⟩ | hselects
      · rw [hdeployed] at hnot
        exact hunchanged workload hworkload
          ((h.mem_unchanged hworkload hlive').2 ⟨hcatalog, hnot⟩) hlive' hselects
      · exact hchanged hselects
    · obtain ⟨service, hservice, hlive, heq⟩ := hkeeps.deployed name hname
      exact ⟨service, ((h.mem_service hne hlive).1 hservice).1, hlive, heq⟩
  · intro hdeploys
    have hunchanged : ∀ service, ∀ workload ∈ db.environmentWorkloads.rows,
        workload ∈ db'.environmentWorkloads.rows → liveIn environment.id workload = true →
        SelectsLabels service (storedLabels fromStr workload) →
          SelectsUnchanged fromStr isEmpty db environment catalog service := by
      intro service workload hworkload hkept hlive hselects
      obtain ⟨hcatalog, hnot⟩ := (h.mem_unchanged hworkload hlive).1 hkept
      exact ⟨workload, hworkload, hlive, hcatalog, hdeployed.symm ▸ hnot, hselects⟩
    refine ⟨fun service hservice hlive workload hworkload hkept hlive' hselects => ?_,
      fun name hname => ?_, fun service hservice hlive hgone =>
        ⟨fun workload hworkload hkept hlive' hselects => ?_, fun hselects => ?_⟩⟩
    · exact (h.mem_service hne hlive).2 ⟨hservice, hdeploys.covers service hservice hlive
        (.inl (hunchanged service workload hworkload hkept hlive' hselects))⟩
    · obtain ⟨service, hservice, hlive, rfl⟩ := hdeploys.present name hname
      exact ⟨service, (h.mem_service hne hlive).2 ⟨hservice, hname⟩, hlive, rfl⟩
    · exact hgone ((h.mem_service hne hlive).2 ⟨hservice, hdeploys.covers service hservice hlive
        (.inl (hunchanged service workload hworkload hkept hlive' hselects))⟩)
    · exact hgone ((h.mem_service hne hlive).2 ⟨hservice, hdeploys.covers service hservice hlive
        (.inr hselects)⟩)

/-- **A sync that succeeds keeps the services** exactly if its environment is up to date, or it
deploys the services of the workloads that stay, and each of them has a row. -/
theorem keepsServices_iff (hsubject : SyncSubject db environmentId environment catalog)
    (hrun : (syncEnvironmentFromCatalog codec isEmpty outside orgId userId environmentId now).run
      db = (.ok ⟨⟩, db')) :
    KeepsServices fromStr isEmpty environment catalog db db' ↔
      catalog.syncVersion = environment.catalogSyncVersion ∨
        DeploysServices fromStr isEmpty db environment catalog := by
  rcases syncEnvironmentFromCatalog_cases hrun with ⟨-, huptodate⟩ | ⟨-, environment', catalog',
    details, hsubject', hne, hwrites⟩
  · obtain ⟨rfl, environment', catalog', hsubject', heq⟩ := huptodate rfl
    obtain ⟨rfl, rfl⟩ := hsubject.unique hsubject'
    exact iff_of_true (keepsServices_of_upToDate heq) (.inl heq)
  · obtain ⟨rfl, rfl⟩ := hsubject.unique hsubject'
    rw [or_iff_right hne]
    exact hwrites.keeps_iff_deploys hne

end

/-! ## A sync of a changed workload -/

/-- A Deployment with a pod label `app`. -/
def labelledDeployment (app : String) : Document :=
  .workload .deployment ⟨⟨some app, none, []⟩,
    some ⟨some 1, ⟨none, []⟩, ⟨some ⟨none, some (HashTable.collect [("app", app)]), []⟩,
      some ⟨[⟨app, some "nginx", none, none, none, none, []⟩], none, none, none, none, none, []⟩⟩,
      []⟩, none⟩

/-- The pod labels of a Deployment, at the place `labels_from_workload_yaml` looks for them. -/
def deploymentLabels : Document → Option Yaml.Value
  | .workload .deployment manifest => do
    let labels ← (← (← manifest.spec).template.metadata).labels
    some <| .mapping [(.string "spec", .mapping [(.string "template", .mapping
      [(.string "metadata", .mapping [(.string "labels", .mapping
        (labels.entries.map fun e => (.string e.1, .string e.2)))])])])]
  | _ => none

/-- The manifest of a service that selects a label `app`. -/
def appService (app : String) : Document :=
  .service ⟨⟨some app, none, []⟩, some ⟨some [⟨none, 80, none, none, none, none⟩],
    some (HashTable.collect [("app", app)]), none, none, none, []⟩, none⟩

/-- The cached service of a label `app`. -/
def cachedAppService (id : Uuid) (app : String) : KubeClusterService.Model Document :=
  ⟨id, none, 1, "prod", app, "1", appService app, HashTable.collect [("app", app)],
    [⟨none, 80, none, none, none⟩], none, 0⟩

/-- The service row of a label `app`. -/
def appServiceRow (app : String) : KubeEnvironmentService.Model Document :=
  ⟨0, none, 5, app, "dev", appService app, [], (HashTable.collect [("app", app)]).toFinmap⟩

/-- A catalog at version `2`. -/
def shopCatalog : KubeAppCatalog.Model := ⟨1, none, 1, "shop", 1, 2, none⟩

/-- An environment of it at version `1`. -/
def devEnvironment : KubeEnvironment.Model :=
  ⟨5, none, 1, 1, 1, 1, "dev", "dev", "Running", false, 1, none, "Idle", none, "token"⟩

/-- A Deployment of the catalog. -/
def shopWorkload (id : Uuid) (app : String) (version : Int) :
    KubeAppCatalogWorkload.Model Document :=
  ⟨id, 0, none, 1, 1, app, "prod", "Deployment", [], [], labelledDeployment app, version⟩

/-- A Deployment of the environment. -/
def devWorkload (id : Uuid) (app : String) : KubeEnvironmentWorkload.Model Document :=
  ⟨id, 0, none, 5, none, app, "dev", "Deployment", [], [], labelledDeployment app, 1, none⟩

/-- The workload `web` was changed in version `2`, and `api` in a given one; each has a service. -/
def shop (apiVersion : Int) : Database Document where
  appCatalogs := ⟨[shopCatalog], by decide⟩
  catalogWorkloads := ⟨[shopWorkload 11 "web" 2, shopWorkload 12 "api" apiVersion],
    by simp [Entity.Conflict, shopWorkload]⟩
  catalogWorkloadLabels := ⟨[⟨0, none, 1, 11, 1, "prod", "app", "web"⟩,
    ⟨0, none, 1, 12, 1, "prod", "app", "api"⟩], by decide⟩
  catalogWorkloadDependencies := .empty
  clusterServices := ⟨[cachedAppService 21 "web", cachedAppService 22 "api"], by decide⟩
  clusterServiceSelectors := ⟨[⟨0, none, 1, "prod", 21, "app", "web"⟩,
    ⟨0, none, 1, "prod", 22, "app", "api"⟩], by decide⟩
  environments := ⟨[devEnvironment], by decide⟩
  environmentWorkloads := ⟨[devWorkload 31 "web", devWorkload 32 "api"], by decide⟩
  environmentWorkloadLabels := .empty
  environmentServices := ⟨[appServiceRow "web", appServiceRow "api"], by decide⟩
/-- A connected manager whose cluster accepts every deployment. -/
def connectedCluster : Outside Document where
  newId id := id + 100
  environmentSeeds _ _ := .identity _
  servicesByWorkload := .identity _
  servicesOf _ := .identity _
  proxyRoutes := .identity _
  connected := true
  managerNamespace := none
  dependencies := .ok ⟨⟩
  deployment := .ok ⟨⟩

/-- A sync of the environment. -/
def syncShop (apiVersion : Int) : Except ApiError PUnit × Database Document :=
  (syncEnvironmentFromCatalog Document.codec (fun _ => false) connectedCluster 1 1 5 3).run
    (shop apiVersion)


theorem syncSubject_shop (apiVersion : Int) :
    SyncSubject (shop apiVersion) 5 devEnvironment shopCatalog :=
  ⟨.head _, rfl, rfl, rfl, .head _, rfl, rfl⟩

/-- If both workloads were changed, both services are deployed, and kept. -/
theorem keepsServices_of_both_changed :
    KeepsServices deploymentLabels (fun _ => false) devEnvironment shopCatalog (shop 2)
      (syncShop 2).2 := by
  have hrun : (syncShop 2).1 = .ok ⟨⟩ := by decide +kernel
  refine (keepsServices_iff (syncSubject_shop 2) (Prod.ext hrun rfl)).2 (.inr ⟨?_, ?_⟩)
  · intro service hservice _ _
    have hweb : DeployedService (fun _ => false) (shop 2) devEnvironment shopCatalog "web" :=
      ⟨DbApi.catalogWorkload (shopWorkload 11 "web" 2), .head _, cachedAppService 21 "web",
        .head _, rfl, rfl, ⟨_, rfl, ⟨_, .head _, rfl, rfl⟩, by decide⟩, rfl⟩
    have hapi : DeployedService (fun _ => false) (shop 2) devEnvironment shopCatalog "api" :=
      ⟨DbApi.catalogWorkload (shopWorkload 12 "api" 2), .tail _ (.head _),
        cachedAppService 22 "api", .tail _ (.head _), rfl, rfl,
        ⟨_, rfl, ⟨_, .tail _ (.head _), rfl, rfl⟩, by decide⟩, rfl⟩
    rcases List.mem_pair.1 hservice with rfl | rfl
    · exact hweb
    · exact hapi
  · rintro name ⟨-, -, row, hrow, -, -, -, rfl⟩
    rcases List.mem_pair.1 hrow with rfl | rfl
    · exact ⟨appServiceRow "web", .head _, ⟨rfl, rfl⟩, rfl⟩
    · exact ⟨appServiceRow "api", .tail _ (.head _), ⟨rfl, rfl⟩, rfl⟩

/-- If only `web` was changed, the service of `api` is deleted, and `api` stays. -/
theorem sync_deletes_service :
    (syncShop 1).1 = .ok ⟨⟩ ∧
      ¬KeepsServices deploymentLabels (fun _ => false) devEnvironment shopCatalog (shop 1)
        (syncShop 1).2 := by
  have hrun : (syncShop 1).1 = .ok ⟨⟩ := by decide +kernel
  refine ⟨hrun, fun hkeeps => ?_⟩
  rcases syncEnvironmentFromCatalog_cases (Prod.ext hrun rfl : syncShop 1 = (.ok ⟨⟩, _)) with
    ⟨-, huptodate⟩ | ⟨-, environment, catalog, details, hsubject, hne, hwrites⟩
  · obtain ⟨-, environment, catalog, hsubject, heq⟩ := huptodate rfl
    obtain ⟨rfl, rfl⟩ := (syncSubject_shop 1).unique hsubject
    cases heq
  · obtain ⟨rfl, rfl⟩ := (syncSubject_shop 1).unique hsubject
    have hdeploys := (hwrites.keeps_iff_deploys hne).1 hkeeps
    have happ : SelectsLabels (appServiceRow "api")
        (storedLabels deploymentLabels (devWorkload 32 "api")) := ⟨⟨"app", by decide⟩, fun _ _ => id⟩
    obtain ⟨workload, hworkload, row, hrow, -, -, hselects, hname⟩ :=
      hdeploys.covers (appServiceRow "api") (.tail _ (.head _)) ⟨rfl, rfl⟩
        (.inl ⟨devWorkload 32 "api", .tail _ (.head _), rfl, .tail _ (.head _),
          List.forall_mem_singleton.2 (by decide), happ⟩)
    obtain ⟨labelled, hlabelled, -, hall⟩ := hselects
    cases List.mem_singleton.1 hworkload
    cases hlabelled
    rcases List.mem_pair.1 hrow with rfl | rfl
    · exact absurd hname (by decide)
    · exact absurd (hall _ (.tail _ (.head _)) rfl rfl) (by decide)

end KubeController

end Lapdev
