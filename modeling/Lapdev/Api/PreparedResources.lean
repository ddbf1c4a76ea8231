import Lapdev.Api.AppCatalogs
import Lapdev.Api.EnvironmentSync
import Lapdev.Catalog.SidecarInjection

/-!
# Resources prepared from the catalog

`prepare_workloads_from_cache` and `prepare_services_from_cache` of `kube_controller/app_catalog.rs`:
each workload is rebuilt with the port routes of its own services, whatever its kind; each service
is cached once under its name and then rewritten with the routes of every workload it selects, in
the order of a hash map.
-/

namespace Lapdev

open RustStd

/-- Source: `app_catalog.rs`. -/
structure SidecarInjectionContext where
  environmentId : Uuid
  «namespace» : String
  authToken : String
  managerNamespace : Option String

/-- Source: `app_catalog.rs`; a `KubeWorkloadYamlOnly` is a kind with a text. -/
structure PreparedWorkloads (Text : Type) where
  workloadYamls : List (KubeWorkloadKind × Text)
  proxyRoutes : HashTable Uuid (List ProxyPortRoute)
  workloadsForDetails : List (KubeAppCatalogWorkload Text)
  envWorkloadIds : HashTable Uuid Uuid

/-- The services of each catalog workload, in the order of a walk. -/
abbrev ServicesByWorkload (Text : Type) := HashTable Uuid (List (CachedClusterService Text))

namespace KubeController

variable {Text : Type} (codec : ManifestCodec Text)

section
variable (seeds : Uuid → String → RandomState ((_ : String) × String)) (newId : Uuid → Uuid)
  (injectionCtx : SidecarInjectionContext) (servicesByWorkload : ServicesByWorkload Text)

/-- The port routes of a catalog workload. -/
def routesOf (servicesByWorkload : ServicesByWorkload Text) (workloadId : Uuid) :
    List ProxyPortRoute :=
  buildProxyRoutes (servicesByWorkload.lookup workloadId)

/-- The sidecar of a catalog workload. -/
def sidecarOptions (envWorkloadId : Uuid) (routes : List ProxyPortRoute) :
    SidecarInjectionOptions where
  environmentId := injectionCtx.environmentId
  workloadId := envWorkloadId
  «namespace» := injectionCtx.namespace
  authToken := injectionCtx.authToken
  managerNamespace := injectionCtx.managerNamespace
  proxyRoutes := routes

/-- The loop body of `prepare_workloads_from_cache`. `seeds` are the seeds of the maps of variables
and `newId` is the id that `Uuid::new_v4` draws for a catalog workload. -/
def prepareWorkload (prepared : PreparedWorkloads Text) (workload : KubeAppCatalogWorkload Text) :
    Except ApiError (PreparedWorkloads Text) :=
  if codec.isBlank workload.workloadYaml then
    .error (.invalidRequest ("Workload '" ++ workload.name ++ "' has no cached YAML in database"))
  else
    let routes := routesOf servicesByWorkload workload.id
    let envWorkloadId := (prepared.envWorkloadIds.lookup workload.id).getD (newId workload.id)
    let rebuilt := rebuildWorkloadYaml codec (seeds workload.id) workload.kind workload.workloadYaml
      workload.containers (some (sidecarOptions injectionCtx envWorkloadId routes))
    let rebuilt := rebuilt.mapError fun err => ApiError.invalidRequest
      ("Failed to reconstruct workload YAML for '" ++ workload.name ++ "': " ++ err)
    rebuilt.map fun rebuiltYaml =>
      { workloadYamls := prepared.workloadYamls ++ [(workload.kind, rebuiltYaml)]
        proxyRoutes :=
          if routes.isEmpty then prepared.proxyRoutes
          else prepared.proxyRoutes.insert workload.id routes
        workloadsForDetails :=
          prepared.workloadsForDetails ++ [{ workload with workloadYaml := rebuiltYaml }]
        envWorkloadIds := prepared.envWorkloadIds.insert workload.id envWorkloadId }

/-- Source: `app_catalog.rs`. -/
def prepareWorkloadsFromCache (workloads : List (KubeAppCatalogWorkload Text)) :
    Except ApiError (PreparedWorkloads Text) :=
  Result.foldEach (prepareWorkload codec seeds newId injectionCtx servicesByWorkload)
    ⟨[], ∅, [], ∅⟩ workloads

end

/-- The services of a result, under their names. -/
abbrev ServicesMap (Text : Type) := HashTable String (KubeServiceWithYaml Text)

/-- The loop body of the first loop of `prepare_services_from_cache`. -/
def cacheService (services : ServicesMap Text) (service : CachedClusterService Text) :
    Except ApiError (ServicesMap Text) :=
  if service.name ∈ services then .ok services
  else
    let parsed := (codec.serviceFromStr service.serviceYaml).mapError fun err =>
      ApiError.invalidRequest
        ("Failed to parse cached Service '" ++ service.name ++ "' YAML: " ++ err)
    parsed.map fun parsed =>
      services.insert service.name
        { yaml := codec.serviceToString (cleanService parsed)
          details :=
            { name := service.name
              ports := service.ports
              selector := service.selector } }

/-- A port of a manifest is sent to the proxy port of its first route. -/
def retargetPort (routes : List ProxyPortRoute) (port : ServicePort) : ServicePort :=
  match proxyPortFor routes port.port with
  | some route => { port with targetPort := some (.int (u16AsInt route.proxyPort)) }
  | none => port

/-- Source: `app_catalog.rs`. -/
def rewriteServiceForSidecar (entry : KubeServiceWithYaml Text) (routes : List ProxyPortRoute) :
    Except ApiError (KubeServiceWithYaml Text) :=
  if routes.isEmpty then .ok entry
  else
    let parsed := (codec.serviceFromStr entry.yaml).mapError fun err =>
      ApiError.invalidRequest
        ("Failed to parse cached Service '" ++ entry.details.name ++ "' YAML: " ++ err)
    parsed.map fun service =>
      { yaml := codec.serviceToString
          { service with
            spec := service.spec.map fun spec =>
              { spec with ports := spec.ports.map fun ports => ports.map (retargetPort routes) } }
        details :=
          { entry.details with ports := entry.details.ports.map (rewritePort routes) } }

/-- The innermost body of the second loop of `prepare_services_from_cache`. -/
def rewriteNamed (routes : List ProxyPortRoute) (services : ServicesMap Text)
    (service : CachedClusterService Text) : Except ApiError (ServicesMap Text) :=
  match services.lookup service.name with
  | some entry =>
    (rewriteServiceForSidecar codec entry routes).map fun entry' =>
      services.insert service.name entry'
  | none => .ok services

/-- The loop body of the second loop of `prepare_services_from_cache`. -/
def rewriteServicesOf (servicesByWorkload : ServicesByWorkload Text) (services : ServicesMap Text)
    (entry : (_ : Uuid) × List ProxyPortRoute) : Except ApiError (ServicesMap Text) :=
  match servicesByWorkload.lookup entry.1 with
  | some workloadServices =>
    Result.foldEach (rewriteNamed codec entry.2) services workloadServices
  | none => .ok services

/-- Source: `app_catalog.rs`; `rs` is the seed of the map of routes. -/
def prepareServicesFromCache (rs : RandomState ((_ : Uuid) × List ProxyPortRoute))
    (servicesByWorkload : ServicesByWorkload Text)
    (proxyRoutes : HashTable Uuid (List ProxyPortRoute)) : Except ApiError (ServicesMap Text) :=
  (Result.foldEach (cacheService codec) ∅ (servicesByWorkload.entries.flatMap (·.2))).bind
    fun services =>
      Result.foldEach (rewriteServicesOf codec servicesByWorkload) services
        (proxyRoutes.reseed rs).entries

/-! ## The prepared workloads -/

section
variable {codec} {seeds : Uuid → String → RandomState ((_ : String) × String)} {newId : Uuid → Uuid}
  {injectionCtx : SidecarInjectionContext} {servicesByWorkload : ServicesByWorkload Text}
  {workloads : List (KubeAppCatalogWorkload Text)} {prepared prepared' : PreparedWorkloads Text}

/-- A workload whose YAML is the rebuild of another one's, with the routes of its services. -/
structure Rebuilt (codec : ManifestCodec Text)
    (seeds : Uuid → String → RandomState ((_ : String) × String))
    (injectionCtx : SidecarInjectionContext) (servicesByWorkload : ServicesByWorkload Text)
    (workload workload' : KubeAppCatalogWorkload Text) : Prop where
  id : workload'.id = workload.id
  kind : workload'.kind = workload.kind
  yaml : ∃ envWorkloadId, rebuildWorkloadYaml codec (seeds workload.id) workload.kind
    workload.workloadYaml workload.containers (some (sidecarOptions injectionCtx envWorkloadId
      (routesOf servicesByWorkload workload.id))) = .ok workload'.workloadYaml

/-- One round: the workload is rebuilt, and its routes are stored unless there are none. -/
theorem prepareWorkload_eq_ok {workload : KubeAppCatalogWorkload Text}
    (h : prepareWorkload codec seeds newId injectionCtx servicesByWorkload prepared workload =
      .ok prepared') :
    ∃ workload', prepared'.workloadsForDetails = prepared.workloadsForDetails ++ [workload'] ∧
      Rebuilt codec seeds injectionCtx servicesByWorkload workload workload' ∧
      prepared'.proxyRoutes =
        if (routesOf servicesByWorkload workload.id).isEmpty then prepared.proxyRoutes
        else prepared.proxyRoutes.insert workload.id (routesOf servicesByWorkload workload.id) := by
  unfold prepareWorkload at h
  split at h
  · cases h
  · obtain ⟨rebuiltYaml, hrebuilt, rfl⟩ := Result.map_eq_ok.1 h
    exact ⟨_, rfl, ⟨rfl, rfl, _, Result.mapError_eq_ok.1 hrebuilt⟩, rfl⟩

/-- The rebuilt workloads stand in the order of the list. -/
theorem rebuilt_of_prepareWorkloadsFromCache
    (h : prepareWorkloadsFromCache codec seeds newId injectionCtx servicesByWorkload workloads =
      .ok prepared) :
    List.Forall₂ (Rebuilt codec seeds injectionCtx servicesByWorkload) workloads
      prepared.workloadsForDetails := by
  refine Result.foldEach_invariant (fun done (st : PreparedWorkloads Text) =>
    List.Forall₂ (Rebuilt codec seeds injectionCtx servicesByWorkload) done st.workloadsForDetails)
    ?_ .nil h
  intro done st workload st' hdone hround
  obtain ⟨workload', hdetails, hrebuilt, -⟩ := prepareWorkload_eq_ok hround
  rw [hdetails]
  exact List.rel_append hdone (.cons hrebuilt .nil)

/-- Every listed workload is rebuilt. -/
theorem exists_rebuilt
    (h : prepareWorkloadsFromCache codec seeds newId injectionCtx servicesByWorkload workloads =
      .ok prepared) {workload : KubeAppCatalogWorkload Text} (hmem : workload ∈ workloads) :
    ∃ workload' ∈ prepared.workloadsForDetails,
      Rebuilt codec seeds injectionCtx servicesByWorkload workload workload' := by
  obtain ⟨i, hi, rfl⟩ := List.getElem_of_mem hmem
  have hall := rebuilt_of_prepareWorkloadsFromCache h
  exact ⟨_, List.getElem_mem (hall.length_eq ▸ hi), hall.get hi (hall.length_eq ▸ hi)⟩

/-- Every prepared workload is the rebuild of a listed one. -/
theorem exists_original
    (h : prepareWorkloadsFromCache codec seeds newId injectionCtx servicesByWorkload workloads =
      .ok prepared) {workload' : KubeAppCatalogWorkload Text}
    (hmem : workload' ∈ prepared.workloadsForDetails) :
    ∃ workload ∈ workloads, Rebuilt codec seeds injectionCtx servicesByWorkload workload workload' := by
  obtain ⟨i, hi, rfl⟩ := List.getElem_of_mem hmem
  have hall := rebuilt_of_prepareWorkloadsFromCache h
  exact ⟨_, List.getElem_mem (hall.length_eq ▸ hi), hall.get (hall.length_eq ▸ hi) hi⟩

/-- The routes of the listed workloads are stored, unless there are none. -/
theorem lookup_proxyRoutes
    (h : prepareWorkloadsFromCache codec seeds newId injectionCtx servicesByWorkload workloads =
      .ok prepared) (workloadId : Uuid) {routes : List ProxyPortRoute} :
    prepared.proxyRoutes.lookup workloadId = some routes ↔
      (∃ workload ∈ workloads, workload.id = workloadId) ∧
        routes = routesOf servicesByWorkload workloadId ∧ routes ≠ [] := by
  refine Result.foldEach_invariant (fun done (st : PreparedWorkloads Text) =>
    (st.proxyRoutes.lookup workloadId = some routes ↔
      (∃ workload ∈ done, workload.id = workloadId) ∧
        routes = routesOf servicesByWorkload workloadId ∧ routes ≠ [])) ?_ (by simp) h
  intro done st workload st' hdone hround
  obtain ⟨-, -, -, hroutes⟩ := prepareWorkload_eq_ok hround
  have hexists : (∃ w ∈ done ++ [workload], w.id = workloadId) ↔
      (∃ w ∈ done, w.id = workloadId) ∨ workload.id = workloadId := by
    simp [or_and_right, exists_or]
  rw [hroutes, hexists]
  split
  · next hempty =>
    rw [hdone]
    constructor
    · exact fun h => ⟨.inl h.1, h.2⟩
    · rintro ⟨hmem | rfl, heq, hne⟩
      · exact ⟨hmem, heq, hne⟩
      · exact absurd (heq.trans (List.isEmpty_iff.1 hempty)) hne
  · next hne =>
    rw [HashTable.lookup_insert]
    split
    · next heq =>
      subst heq
      rw [Option.some.injEq]
      constructor
      · rintro rfl
        exact ⟨.inr rfl, rfl, fun hnil => hne (List.isEmpty_iff.2 hnil)⟩
      · exact fun h => h.2.1.symm
    · next hid =>
      rw [hdone, or_iff_left fun heq => hid heq.symm]

end

end KubeController

end Lapdev
