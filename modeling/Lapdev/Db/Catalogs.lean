import Lapdev.Db.WorkloadYaml

/-!
# Queries on catalogs and cluster services

The functions of `DbApi` that the handlers of resource events use: versions of catalogs and of
their workloads, label and dependency rows of workloads, and the cached services of a cluster.
-/

namespace Lapdev

open RustStd Sql Programs

/-- Two sets with the same elements. -/
def BTreeSet.Same {α : Type} (s s' : BTreeSet α) : Prop := s ⊆ s' ∧ s' ⊆ s

instance {α : Type} [DecidableEq α] (s s' : BTreeSet α) : Decidable (BTreeSet.Same s s') :=
  inferInstanceAs (Decidable (s ⊆ s' ∧ s' ⊆ s))

/-- Two maps with the same entries. -/
def BTreeMap.Same (m m' : BTreeMap String String) : Prop := m.entries.Perm m'.entries

instance (m m' : BTreeMap String String) : Decidable (BTreeMap.Same m m') :=
  inferInstanceAs (Decidable (m.entries.Perm m'.entries))

/-- Maps with the same entries are those with the same lookups. -/
theorem BTreeMap.same_iff {m m' : BTreeMap String String} :
    BTreeMap.Same m m' ↔ ∀ k v, m.lookup k = some v ↔ m'.lookup k = some v := by
  constructor
  · intro h k v
    rw [AList.perm_lookup h]
  · exact fun h => List.lookup_ext m.nodupKeys m'.nodupKeys h

/-- `StoredServicePort::into_service_port`. A target port that is not a number is dropped; the
original target of a port stored without one is its target. -/
def StoredServicePort.intoServicePort (port : StoredServicePort) : KubeServicePort :=
  let targetPort : Option Int :=
    match port.targetPort with
    | some (.int v) => some v
    | _ => none
  { name := port.name
    port := port.port
    targetPort
    protocol := port.protocol
    nodePort := port.nodePort
    originalTargetPort := targetPort }

namespace DbApi

variable {Text : Type}

/-! ## Versions -/

/-- Source: `db/src/api.rs`. The update returns the row it wrote; the event it publishes about the
row is left out. -/
def bumpAppCatalogSyncVersion (catalogId : Uuid) (syncedAt : Timestamp) : Query Text Int := do
  let updated ← Database.returning (·.appCatalogs) (fun db t => { db with appCatalogs := t })
    (fun row => row.id = catalogId && row.deletedAt = none)
    fun row => { row with syncVersion := row.syncVersion + 1, lastSyncedAt := some syncedAt }
  match updated with
  | some model => pure model.syncVersion
  | none =>
    .fail (.anyhow ("App catalog " ++ Uuid.hyphenated catalogId ++ " not found or already deleted"))

/-- Source: `db/src/api.rs`. -/
def updateCatalogWorkloadVersions (workloadIds : List Uuid) (version : Int) : Query Text PUnit :=
  if workloadIds.isEmpty then pure ⟨⟩
  else
    Database.onCatalogWorkloads fun t =>
      t.updateMany (fun row => row.id ∈ workloadIds)
        fun row => { row with catalogSyncVersion := version }

/-! ## Labels and dependencies of a catalog workload -/

/-- Source: `db/src/api.rs`, `replace_workload_labels_with_conn`. -/
def replaceWorkloadLabels (workloadId appCatalogId clusterId : Uuid) («namespace» : String)
    (labels : BTreeMap String String) (timestamp : Timestamp) : Query Text PUnit := do
  Database.onCatalogWorkloadLabels fun t =>
    t.updateMany (fun row => row.workloadId = workloadId && row.deletedAt = none)
      fun row => { row with deletedAt := some timestamp }
  Program.forEach
    (fun entry : (_ : String) × String =>
      Database.onCatalogWorkloadLabels fun t =>
        t.insert
          { createdAt := timestamp
            deletedAt := none
            appCatalogId
            workloadId
            clusterId
            «namespace»
            labelKey := entry.1
            labelValue := entry.2 })
    labels.entries

/-- The loop body of `replace_workload_dependencies_with_conn`, for both types of resource. -/
def insertDependency (workloadId appCatalogId clusterId : Uuid) («namespace» : String)
    (timestamp : Timestamp) (resourceType name : String) : Query Text PUnit :=
  Database.onCatalogWorkloadDependencies fun t =>
    t.insert
      { createdAt := timestamp
        deletedAt := none
        appCatalogId
        workloadId
        clusterId
        «namespace»
        resourceName := name
        resourceType }

/-- Source: `db/src/api.rs`, `replace_workload_dependencies_with_conn`. -/
def replaceWorkloadDependencies (workloadId appCatalogId clusterId : Uuid) («namespace» : String)
    (configmaps secrets : BTreeSet String) (timestamp : Timestamp) : Query Text PUnit := do
  Database.onCatalogWorkloadDependencies fun t =>
    t.updateMany (fun row => row.workloadId = workloadId && row.deletedAt = none)
      fun row => { row with deletedAt := some timestamp }
  Program.forEach
    (insertDependency workloadId appCatalogId clusterId «namespace» timestamp "configmap") configmaps
  Program.forEach
    (insertDependency workloadId appCatalogId clusterId «namespace» timestamp "secret") secrets

/-- The workloads that have as many of the label rows as the selector has entries. -/
def matchingWorkloadIds (selector : BTreeMap String String)
    (rows : List KubeAppCatalogWorkloadLabel.Model) : List Uuid :=
  (rows.map (·.workloadId)).dedup.filter fun id =>
    (rows.filter fun row => row.workloadId = id).length = selector.entries.length

/-- Source: `db/src/api.rs`. The condition of the query is that a label row is one of the entries
of the selector. -/
def findWorkloadsMatchingSelector (clusterId : Uuid) («namespace» : String)
    (selector : BTreeMap String String) : Query Text (List Uuid) :=
  if selector.entries.isEmpty then pure []
  else
    .read fun db =>
      matchingWorkloadIds selector <| db.catalogWorkloadLabels.select fun row =>
        row.clusterId = clusterId && row.namespace = «namespace» && row.deletedAt = none &&
          selector.lookup row.labelKey = some row.labelValue

/-! ## Cached services of a cluster -/

/-- The services whose selector rows are all among the labels. -/
def matchingServiceIds (labels : BTreeMap String String)
    (rows : List KubeClusterServiceSelector.Model) : List Uuid :=
  (rows.map (·.serviceId)).dedup.filter fun id =>
    (rows.filter fun row => row.serviceId = id).all fun row =>
      labels.lookup row.labelKey = some row.labelValue

/-- The service of a row, as `get_matching_cluster_services` reads it. -/
def cachedService (row : KubeClusterService.Model Text) : CachedClusterService Text where
  name := row.name
  selector := row.selector.toFinmap
  ports := row.ports.map StoredServicePort.intoServicePort
  serviceYaml := row.serviceYaml

/-- Source: `db/src/api.rs`. -/
def getMatchingClusterServices (clusterId : Uuid) («namespace» : String)
    (labels : BTreeMap String String) : Query Text (List (CachedClusterService Text)) := do
  if labels.entries.isEmpty then pure []
  else
    let rows ← Program.read fun db =>
      db.clusterServiceSelectors.select fun row =>
        row.clusterId = clusterId && row.namespace = «namespace» && row.deletedAt = none
    let matchingIds := matchingServiceIds labels rows
    if matchingIds.isEmpty then pure []
    else
      .read fun db =>
        (db.clusterServices.select fun row => row.id ∈ matchingIds && row.deletedAt = none).map
          cachedService

/-- Source: `db/src/api.rs`, `replace_service_selectors_with_conn`. -/
def replaceServiceSelectors (serviceId clusterId : Uuid) («namespace» : String)
    (selectors : BTreeMap String String) (timestamp : Timestamp) : Query Text PUnit := do
  Database.onClusterServiceSelectors fun t =>
    t.updateMany (fun row => row.serviceId = serviceId && row.deletedAt = none)
      fun row => { row with deletedAt := some timestamp }
  Program.forEach
    (fun entry : (_ : String) × String =>
      Database.onClusterServiceSelectors fun t =>
        t.insert
          { createdAt := timestamp
            deletedAt := none
            clusterId
            «namespace»
            serviceId
            labelKey := entry.1
            labelValue := entry.2 })
    selectors.entries

/-- The row of a service of a cluster, deleted or not. -/
def isService (clusterId : Uuid) («namespace» name : String) (row : KubeClusterService.Model Text) :
    Bool :=
  row.clusterId = clusterId && row.namespace = «namespace» && row.name = name

/-- Source: `db/src/api.rs`; `newId` is `Uuid::new_v4()`. -/
def upsertClusterService (clusterId : Uuid) («namespace» name resourceVersion : String)
    (serviceYaml : Text) (selector : BTreeMap String String) (ports : List StoredServicePort)
    (serviceType : Option String) (observedAt : Timestamp) (newId : Uuid) : Query Text Uuid := do
  let existing ← Program.read fun db => db.clusterServices.one (isService clusterId «namespace» name)
  match existing with
  | some model =>
    Database.onClusterServices fun t =>
      t.updateOne (fun row => row.id = model.id) fun row =>
        { row with
          resourceVersion
          serviceYaml
          selector
          ports
          serviceType
          lastObservedAt := observedAt
          deletedAt := none }
    replaceServiceSelectors model.id clusterId «namespace» selector observedAt
    pure model.id
  | none =>
    Database.onClusterServices fun t =>
      t.insert
        { id := newId
          deletedAt := none
          clusterId
          «namespace»
          name
          resourceVersion
          serviceYaml
          selector
          ports
          serviceType
          lastObservedAt := observedAt }
    replaceServiceSelectors newId clusterId «namespace» selector observedAt
    pure newId

/-- Source: `db/src/api.rs`. -/
def markClusterServiceDeleted (clusterId : Uuid) («namespace» name : String)
    (observedAt : Timestamp) : Query Text PUnit := do
  let existing ← Program.read fun db => db.clusterServices.one (isService clusterId «namespace» name)
  match existing with
  | none => pure ⟨⟩
  | some model =>
    Database.onClusterServices fun t =>
      t.updateOne (fun row => row.id = model.id)
        fun row => { row with deletedAt := some observedAt, lastObservedAt := observedAt }
    Database.onClusterServiceSelectors fun t =>
      t.updateMany (fun row => row.serviceId = model.id && row.deletedAt = none)
        fun row => { row with deletedAt := some observedAt }

/-! ## Catalogs -/

/-- The loop body of `insert_enriched_workloads_to_catalog`; the id is the `Uuid::new_v4()` of the
round. -/
def insertEnrichedWorkload (fromStr : Text → Option Yaml.Value) (catalogId clusterId : Uuid)
    (createdAt : Timestamp) (workload : Uuid × KubeWorkloadDetails Text) : Query Text PUnit := do
  let details := workload.2
  let labels := labelsFromWorkloadYaml fromStr details.kind details.workloadYaml
  let dependencies := dependenciesFromWorkloadYaml fromStr details.kind details.workloadYaml
  Database.onCatalogWorkloads fun t =>
    t.insert
      { id := workload.1
        createdAt
        deletedAt := none
        appCatalogId := catalogId
        clusterId
        name := details.name
        «namespace» := details.namespace
        kind := details.kind.toString
        containers := details.containers
        ports := details.ports
        workloadYaml := details.workloadYaml
        catalogSyncVersion := 0 }
  replaceWorkloadLabels workload.1 catalogId clusterId details.namespace labels createdAt
  replaceWorkloadDependencies workload.1 catalogId clusterId details.namespace dependencies.1
    dependencies.2 createdAt

/-- Source: `db/src/api.rs`; `catalogId` is `Uuid::new_v4()` and `now` is `Utc::now()`. -/
def createAppCatalogWithEnrichedWorkloads (fromStr : Text → Option Yaml.Value)
    (orgId clusterId : Uuid) (name : String)
    (enrichedWorkloads : List (Uuid × KubeWorkloadDetails Text)) (catalogId : Uuid)
    (now : Timestamp) : Query Text Uuid :=
  Program.atomic do
    Database.onAppCatalogs fun t =>
      t.insert
        { id := catalogId
          deletedAt := none
          organizationId := orgId
          name
          clusterId
          syncVersion := 0
          lastSyncedAt := none }
    Program.forEach (insertEnrichedWorkload fromStr catalogId clusterId now) enrichedWorkloads
    pure catalogId

/-- Source: `db/src/api.rs`. -/
def getAppCatalog (catalogId : Uuid) : Query Text (Option KubeAppCatalog.Model) :=
  .read fun db => db.appCatalogs.one fun row => row.id = catalogId && row.deletedAt = none

/-- Source: `db/src/api.rs`. -/
def deleteAppCatalog (catalogId : Uuid) (now : Timestamp) : Query Text PUnit :=
  Database.onAppCatalogs fun t =>
    t.updateOne (fun row => row.id = catalogId) fun row => { row with deletedAt := some now }

/-- Source: `db/src/api.rs`; the ids are those of the inserted rows. -/
def insertEnrichedWorkloadsToCatalog (fromStr : Text → Option Yaml.Value) (catalogId clusterId : Uuid)
    (enrichedWorkloads : List (Uuid × KubeWorkloadDetails Text)) (createdAt : Timestamp) :
    Query Text (List Uuid) := do
  Program.forEach (insertEnrichedWorkload fromStr catalogId clusterId createdAt) enrichedWorkloads
  pure (enrichedWorkloads.map (·.1))

/-- Source: `db/src/api.rs`. -/
def getAppCatalogWorkload (workloadId : Uuid) :
    Query Text (Option (KubeAppCatalogWorkload.Model Text)) :=
  .read fun db => db.catalogWorkloads.one fun row => row.id = workloadId && row.deletedAt = none

/-- Source: `db/src/api.rs`. -/
def deleteAppCatalogWorkload (workloadId : Uuid) (now : Timestamp) : Query Text PUnit :=
  Database.onCatalogWorkloads fun t =>
    t.updateOne (fun row => row.id = workloadId) fun row => { row with deletedAt := some now }

/-- Source: `db/src/api.rs`. -/
def updateAppCatalogWorkload (workloadId : Uuid) (containers : List KubeContainerInfo) :
    Query Text PUnit :=
  Database.onCatalogWorkloads fun t =>
    t.updateOne (fun row => row.id = workloadId) fun row => { row with containers }

/-- Source: `db/src/api.rs`. -/
def checkAppCatalogHasEnvironments (catalogId : Uuid) : Query Text Bool :=
  .read fun db =>
    (db.environments.one fun row => row.appCatalogId = catalogId && row.deletedAt = none).isSome

end DbApi

end Lapdev
