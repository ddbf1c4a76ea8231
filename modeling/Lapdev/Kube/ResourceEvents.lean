import Lapdev.Db.Catalogs

/-!
# Handlers of resource events

`kube/src/server.rs`: what a cluster's server does when the kube-manager reports a changed workload
or service. Both handlers first write the rows of all affected catalog workloads and then publish
the change of each affected catalog: its version is bumped, and its changed workloads are stamped
with the new version. The catalogs are walked in the order of a hash map.
-/

namespace Lapdev

open RustStd Sql Programs

/-- Source: `common/src/kube.rs`, `ResourceChangeEvent`. -/
structure ResourceChangeEvent where
  «namespace» : String
  resourceName : String
  timestamp : Timestamp

/-- The parsers the handlers use: `serde_yaml::from_str`, `serde_json::to_value` of a YAML value,
and the removal of a key from a JSON object. -/
structure SerdeParsers (Text Json : Type) where
  fromStr : Text → Option Yaml.Value
  toValue : Yaml.Value → Option Json
  removeKey : String → Json → Json

/-- Source: `server.rs`, `CatalogWorkloadUpdate`. -/
structure CatalogWorkloadUpdate (Text : Type) where
  containers : Option (List KubeContainerInfo)
  ports : Option (List KubeServicePort)
  workloadYaml : Option Text
  containersChanged : Bool
  portsChanged : Bool
  specChanged : Bool
  labelsChanged : Bool
  dependenciesChanged : Bool

namespace CatalogWorkloadUpdate

variable {Text : Type}

/-- Source: `server.rs`. -/
def hasModelUpdates (update : CatalogWorkloadUpdate Text) : Bool :=
  update.containers.isSome || update.ports.isSome || update.workloadYaml.isSome

/-- Source: `server.rs`. -/
def requiresCatalogBump (update : CatalogWorkloadUpdate Text) : Bool :=
  update.containersChanged || update.portsChanged || update.specChanged || update.labelsChanged ||
    update.dependenciesChanged

/-- The row an update writes: the columns that are set. -/
def write (update : CatalogWorkloadUpdate Text) (row : KubeAppCatalogWorkload.Model Text) :
    KubeAppCatalogWorkload.Model Text :=
  { row with
    containers := update.containers.getD row.containers
    ports := update.ports.getD row.ports
    workloadYaml := update.workloadYaml.getD row.workloadYaml }

end CatalogWorkloadUpdate

/-- The loop of `merge_containers`, with the existing containers not yet taken. -/
def mergeContainersLoop (existing : HashTable String KubeContainerInfo) :
    List KubeContainerInfo → List KubeContainerInfo
  | [] => []
  | new :: rest =>
    match existing.lookup new.name with
    | some container =>
      { container with
        originalImage := new.originalImage
        cpuRequest := new.cpuRequest
        cpuLimit := new.cpuLimit
        memoryRequest := new.memoryRequest
        memoryLimit := new.memoryLimit
        ports := new.ports } :: mergeContainersLoop (existing.erase new.name) rest
    | none => new :: mergeContainersLoop existing rest

/-- Source: `server.rs`: a container keeps its customised image and variables, and follows the
workload otherwise. -/
def mergeContainers (existing new : List KubeContainerInfo) : List KubeContainerInfo :=
  mergeContainersLoop (HashTable.collect (existing.map fun container => (container.name, container)))
    new

/-- The service selects workloads with these labels. -/
def CachedClusterService.selects {Text : Type} (service : CachedClusterService Text)
    (labels : BTreeMap String String) : Bool :=
  service.selector ≠ ∅ && service.selector.all fun key value => labels.lookup key = some value

/-- The inner loop of `ports_from_cached_services`: the ports whose number, original target and
protocol were not seen before. -/
def collectPorts : List KubeServicePort → List (Int × Option Int × Option String) →
    List KubeServicePort
  | [], _ => []
  | port :: rest, seen =>
    let key := (port.port, port.originalTargetPort.or port.targetPort, port.protocol)
    if key ∈ seen then collectPorts rest seen else port :: collectPorts rest (key :: seen)

/-- Source: `server.rs`. -/
def portsFromCachedServices {Text : Type} (workloadLabels : BTreeMap String String)
    (services : List (CachedClusterService Text)) : List KubeServicePort :=
  collectPorts ((services.filter fun service => service.selects workloadLabels).flatMap (·.ports)) []

section
variable {Text Json : Type} [DecidableEq Json] (serde : SerdeParsers Text Json)

/-- Source: `server.rs`, `serialize_spec_for_catalog`; `none` where it fails. -/
def serializeSpecForCatalog (spec : Yaml.Value) : Option Json :=
  (serde.toValue spec).map (serde.removeKey "replicas")

/-- Source: `server.rs`; `none` where it fails. -/
def specSectionFromYaml (yaml : Text) : Option (Option Json) :=
  match serde.fromStr yaml with
  | none => none
  | some document =>
    match document.asMapping.bind fun entries => Yaml.Value.get entries "spec" with
    | some spec => (serializeSpecForCatalog serde spec).map some
    | none => some none

/-- What a workload event carries into the catalog. -/
structure WorkloadSnapshot (Text Json : Type) where
  yaml : Text
  specSnapshot : Option Json
  labels : BTreeMap String String
  containers : List KubeContainerInfo
  configmapRefs : BTreeSet String
  secretRefs : BTreeSet String

/-- Source: `server.rs`. -/
def computeCatalogWorkloadUpdate (workload : KubeAppCatalogWorkload.Model Text)
    (new : WorkloadSnapshot Text Json) (servicePorts : List KubeServicePort)
    (existingLabels : Option (BTreeMap String String))
    (existingDependencies : Option (BTreeSet String × BTreeSet String)) :
    CatalogWorkloadUpdate Text :=
  let mergedContainers := mergeContainers workload.containers new.containers
  let containersChanged : Bool := mergedContainers ≠ workload.containers
  let portsChanged : Bool := servicePorts ≠ workload.ports
  let specChanged : Bool :=
    match specSectionFromYaml serde workload.workloadYaml with
    | none => true
    | some storedSpec => new.specSnapshot ≠ storedSpec
  let labelsChanged : Bool :=
    match existingLabels with
    | some labels => ¬BTreeMap.Same labels new.labels
    | none => ¬new.labels.entries.isEmpty
  let dependenciesChanged : Bool :=
    match existingDependencies with
    | some (configmaps, secrets) =>
      ¬BTreeSet.Same configmaps new.configmapRefs || ¬BTreeSet.Same secrets new.secretRefs
    | none => ¬(new.configmapRefs.isEmpty && new.secretRefs.isEmpty)
  { containers := if containersChanged then some mergedContainers else none
    ports := if portsChanged then some servicePorts else none
    workloadYaml := if specChanged || labelsChanged then some new.yaml else none
    containersChanged
    portsChanged
    specChanged
    labelsChanged
    dependenciesChanged }

end

/-- The labels of a workload among label rows, if it has any. -/
def labelsOf (rows : List KubeAppCatalogWorkloadLabel.Model) (workloadId : Uuid) :
    Option (BTreeMap String String) :=
  match rows.filter fun row => row.workloadId = workloadId with
  | [] => none
  | rows => some (HashTable.collect (rows.map fun row => (row.labelKey, row.labelValue)))

/-- The names of the config maps and secrets of a workload among dependency rows, if it has any. -/
def dependenciesOf (rows : List KubeAppCatalogWorkloadDependency.Model) (workloadId : Uuid) :
    Option (BTreeSet String × BTreeSet String) :=
  match rows.filter fun row => row.workloadId = workloadId with
  | [] => none
  | rows =>
    some ((rows.filter fun row => row.resourceType.toLower = "configmap").map (·.resourceName),
      (rows.filter fun row => row.resourceType.toLower = "secret").map (·.resourceName))

namespace KubeClusterServer

variable {Text Json : Type} [DecidableEq Json] (serde : SerdeParsers Text Json)

/-- `workloads_by_catalog.entry(catalog).or_default().push(workload)`. -/
def pushWorkload (byCatalog : HashTable Uuid (List Uuid)) (catalogId workloadId : Uuid) :
    HashTable Uuid (List Uuid) :=
  byCatalog.insert catalogId ((byCatalog.lookup catalogId).getD [] ++ [workloadId])

/-- The body of the last loop of both handlers: a catalog's version is bumped and its changed
workloads are stamped with it. `change` is what the error text calls the event. -/
def publishCatalog (change : String) (syncedAt : Timestamp) (entry : (_ : Uuid) × List Uuid) :
    Query Text PUnit := do
  let newVersion ← (DbApi.bumpAppCatalogSyncVersion entry.1 syncedAt).mapError
    (.context ("failed to bump sync version for catalog " ++ Uuid.hyphenated entry.1 ++ " after " ++
      change ++ " update"))
  (DbApi.updateCatalogWorkloadVersions entry.2 newVersion).mapError
    (.context ("failed to update workload sync version for catalog " ++ Uuid.hyphenated entry.1))

/-- The last loop of both handlers, over the entries of `workloads_by_catalog`. -/
def publishCatalogs (change : String) (syncedAt : Timestamp)
    (entries : List ((_ : Uuid) × List Uuid)) : Query Text PUnit :=
  Program.forEach (publishCatalog change syncedAt) entries

/-- The loop body of `sync_catalog_from_workload_event`: the rows of one catalog workload are
written, and the workload is recorded if its catalog has to be bumped. -/
def syncCatalogWorkload (event : ResourceChangeEvent) (workloadKind : KubeWorkloadKind)
    (new : WorkloadSnapshot Text Json) (servicePorts : List KubeServicePort)
    (labelRows : List KubeAppCatalogWorkloadLabel.Model)
    (dependencyRows : List KubeAppCatalogWorkloadDependency.Model)
    (byCatalog : HashTable Uuid (List Uuid)) (workload : KubeAppCatalogWorkload.Model Text) :
    Query Text (HashTable Uuid (List Uuid)) :=
  if ∃ kind ∈ KubeWorkloadKind.parse workload.kind, kind ≠ workloadKind then pure byCatalog
  else do
    let update := computeCatalogWorkloadUpdate serde workload new servicePorts
      (labelsOf labelRows workload.id) (dependenciesOf dependencyRows workload.id)
    Program.when update.hasModelUpdates <|
      Database.onCatalogWorkloads fun t =>
        t.updateOne (fun row => row.id = workload.id) update.write
    Program.when update.labelsChanged <|
      DbApi.replaceWorkloadLabels workload.id workload.appCatalogId workload.clusterId
        workload.namespace new.labels event.timestamp
    Program.when update.dependenciesChanged <|
      DbApi.replaceWorkloadDependencies workload.id workload.appCatalogId workload.clusterId
        workload.namespace new.configmapRefs new.secretRefs event.timestamp
    pure <|
      if update.requiresCatalogBump then pushWorkload byCatalog workload.appCatalogId workload.id
      else byCatalog

/-- Source: `server.rs`. -/
def syncCatalogFromWorkloadEvent (clusterId : Uuid)
    (rs : RandomState ((_ : Uuid) × List Uuid)) (event : ResourceChangeEvent)
    (workloadKind : KubeWorkloadKind) (new : WorkloadSnapshot Text Json) : Query Text PUnit := do
  let workloads ← Program.read fun db =>
    db.catalogWorkloads.select fun row =>
      row.name = event.resourceName && row.namespace = event.namespace && row.deletedAt = none &&
        row.clusterId = clusterId
  if workloads.isEmpty then pure ⟨⟩
  else
    let matchingServices ← DbApi.getMatchingClusterServices clusterId event.namespace new.labels
    let servicePorts := portsFromCachedServices new.labels matchingServices
    let labelRows ← Program.read fun db =>
      db.catalogWorkloadLabels.select fun row =>
        row.workloadId ∈ workloads.map (·.id) && row.deletedAt = none
    let dependencyRows ← Program.read fun db =>
      db.catalogWorkloadDependencies.select fun row =>
        row.workloadId ∈ workloads.map (·.id) && row.deletedAt = none
    let byCatalog ← Program.foldEach
      (syncCatalogWorkload serde event workloadKind new servicePorts labelRows dependencyRows) ∅
      workloads
    publishCatalogs "workload" event.timestamp (byCatalog.reseed rs).entries

/-- The loop body of `reconcile_workloads_for_selector`. -/
def reconcileWorkload (clusterId : Uuid) («namespace» : String)
    (labelRows : List KubeAppCatalogWorkloadLabel.Model) (byCatalog : HashTable Uuid (List Uuid))
    (workload : KubeAppCatalogWorkload.Model Text) : Query Text (HashTable Uuid (List Uuid)) := do
  let labels := (labelsOf labelRows workload.id).getD ∅
  let matchingServices ← DbApi.getMatchingClusterServices clusterId «namespace» labels
  let servicePorts := portsFromCachedServices labels matchingServices
  if servicePorts ≠ workload.ports then
    Database.onCatalogWorkloads fun t =>
      t.updateOne (fun row => row.id = workload.id) fun row => { row with ports := servicePorts }
    pure (pushWorkload byCatalog workload.appCatalogId workload.id)
  else pure byCatalog

/-- Source: `server.rs`. -/
def reconcileWorkloadsForSelector (clusterId : Uuid) (rs : RandomState ((_ : Uuid) × List Uuid))
    («namespace» : String) (selectorMap : BTreeMap String String) (observedAt : Timestamp) :
    Query Text PUnit := do
  if selectorMap.entries.isEmpty then pure ⟨⟩
  else
    let matchingWorkloadIds ←
      DbApi.findWorkloadsMatchingSelector clusterId «namespace» selectorMap
    if matchingWorkloadIds.isEmpty then pure ⟨⟩
    else
      let workloads ← Program.read fun db =>
        db.catalogWorkloads.select fun row => row.id ∈ matchingWorkloadIds && row.deletedAt = none
      if workloads.isEmpty then pure ⟨⟩
      else
        let labelRows ← Program.read fun db =>
          db.catalogWorkloadLabels.select fun row =>
            row.workloadId ∈ matchingWorkloadIds && row.deletedAt = none
        let byCatalog ← Program.foldEach (reconcileWorkload clusterId «namespace» labelRows) ∅
          workloads
        publishCatalogs "service" observedAt (byCatalog.reseed rs).entries

end KubeClusterServer

end Lapdev
