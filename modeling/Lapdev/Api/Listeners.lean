import Lapdev.Api.PreparedResources

/-!
# Listeners behind rewritten service ports

Where a service port of the prepared resources was sent to a proxy port, some sidecar of every
workload behind the service has to listen on it. `everyPortListens_iff` says for which lists of
workloads and services this is so in every order of the map of routes: the routes of each workload
that can rewrite a port lead to a port that all workloads behind the service declare.
-/

namespace Lapdev

open RustStd

/-- The number and the target of a port. -/
abbrev PortTarget := Int × Option IntOrString

/-- A port with a route of its number is sent to the proxy port of the first one. -/
def retarget (routes : List ProxyPortRoute) (port : PortTarget) : PortTarget :=
  match proxyPortFor routes port.1 with
  | some route => (port.1, some (.int (u16AsInt route.proxyPort)))
  | none => port

/-- Several rewrites, one after the other. -/
def retargetAll (routesLists : List (List ProxyPortRoute)) (port : PortTarget) : PortTarget :=
  routesLists.foldl (fun port routes => retarget routes port) port

theorem retarget_fst (routes : List ProxyPortRoute) (port : PortTarget) :
    (retarget routes port).1 = port.1 := by
  unfold retarget
  split <;> rfl

/-- A port keeps its number and its target, or has a target that one of the rewrites gave it. -/
theorem retargetAll_cases (routesLists : List (List ProxyPortRoute)) (port : PortTarget) :
    (retargetAll routesLists port).1 = port.1 ∧
      ((retargetAll routesLists port).2 = port.2 ∨
        ∃ routes ∈ routesLists, ∃ route, proxyPortFor routes port.1 = some route ∧
          (retargetAll routesLists port).2 = some (.int (u16AsInt route.proxyPort))) := by
  induction routesLists generalizing port with
  | nil => exact ⟨rfl, .inl rfl⟩
  | cons routes routesLists ih =>
    obtain ⟨hfst, hsnd⟩ := ih (retarget routes port)
    rw [retarget_fst] at hfst hsnd
    refine ⟨hfst, ?_⟩
    rcases hsnd with hkept | ⟨routes', hmem, route, hroute, htarget⟩
    · cases hfind : proxyPortFor routes port.1 with
      | none => exact .inl (hkept.trans (by rw [retarget, hfind]))
      | some route =>
        exact .inr ⟨routes, List.mem_cons_self, route, hfind, hkept.trans (by rw [retarget, hfind])⟩
    · exact .inr ⟨routes', List.mem_cons_of_mem _ hmem, route, hroute, htarget⟩

/-- The last rewrite with a route wins. -/
theorem retargetAll_append {routesLists : List (List ProxyPortRoute)}
    {routes : List ProxyPortRoute} {port : PortTarget} {route : ProxyPortRoute}
    (h : proxyPortFor routes port.1 = some route) :
    retargetAll (routesLists ++ [routes]) port =
      (port.1, some (.int (u16AsInt route.proxyPort))) := by
  have hfst := (retargetAll_cases routesLists port).1
  rw [retargetAll, List.foldl_append, List.foldl_cons, List.foldl_nil]
  change retarget routes (retargetAll routesLists port) = _
  rw [retarget, hfst, h]

namespace KubeController

variable {Text : Type} (codec : ManifestCodec Text)

/-- The ports of a service's YAML. -/
def yamlTargets (yaml : Text) : List PortTarget :=
  match codec.serviceFromStr yaml with
  | .ok service =>
    ((service.spec.bind (·.ports)).getD []).map fun port => (port.port, port.targetPort)
  | .error _ => []

/-- The recorded ports of a service. -/
def recordedTargets (ports : List KubeServicePort) : List PortTarget :=
  ports.map fun port => (port.port, port.targetPort.map .int)

/-- The ports of a cached service: those of its YAML and the recorded ones. -/
def cachedTargets (service : CachedClusterService Text) : List PortTarget :=
  yamlTargets codec service.serviceYaml ++ recordedTargets service.ports

/-- The ports of a service of the result. -/
def entryTargets (entry : KubeServiceWithYaml Text) : List PortTarget :=
  yamlTargets codec entry.yaml ++ recordedTargets entry.details.ports

/-- Some port was sent from another target to the proxy port. -/
def ChangedTo (before after : List PortTarget) (proxyPort : UInt16) : Prop :=
  ∃ port target, ((port, target), (port, some (.int (u16AsInt proxyPort)))) ∈ before.zip after ∧
    target ≠ some (.int (u16AsInt proxyPort))

/-- The service selects the workload, by its name. -/
def Selects (servicesByWorkload : ServicesByWorkload Text) (name : String) (workloadId : Uuid) :
    Prop :=
  ∃ services ∈ servicesByWorkload.lookup workloadId, ∃ service ∈ services, service.name = name

/-- The service that is cached under a name: the first one of a walk. -/
def cachedUnder (servicesByWorkload : ServicesByWorkload Text) (name : String) :
    Option (CachedClusterService Text) :=
  (servicesByWorkload.entries.flatMap (·.2)).find? fun service => service.name = name

/-- **Every rewritten port has a listener.** Where a port of a service was sent to a proxy port,
every workload that the service selects declares a route of that proxy port. -/
def EveryPortListens (servicesByWorkload : ServicesByWorkload Text)
    (prepared : PreparedWorkloads Text) (services : ServicesMap Text) : Prop :=
  ∀ name service entry, cachedUnder servicesByWorkload name = some service →
    services.lookup name = some entry → ∀ proxyPort,
      ChangedTo (cachedTargets codec service) (entryTargets codec entry) proxyPort →
        ∀ workload ∈ prepared.workloadsForDetails, Selects servicesByWorkload name workload.id →
          ∃ manifest, codec.fromStr workload.kind workload.workloadYaml = .ok manifest ∧
            Declares manifest.containers proxyPort

section
variable (seeds : Uuid → String → RandomState ((_ : String) × String))
  (servicesByWorkload : ServicesByWorkload Text)

/-- The workload is a Deployment whose own routes have the proxy port, or its manifest declares it
in a place that the rebuild leaves. -/
def WillDeclare (workload : KubeAppCatalogWorkload Text) (proxyPort : UInt16) : Prop :=
  ∃ manifest, codec.fromStr workload.kind workload.workloadYaml = .ok manifest ∧
    if workload.kind = .deployment ∧ routesOf servicesByWorkload workload.id ≠ [] then
      (∃ route ∈ routesOf servicesByWorkload workload.id, route.proxyPort = proxyPort) ∨
        DeclaresElsewhere (mergePodContainers (seeds workload.id) workload.containers
          manifest.containers) proxyPort
    else
      Declares (mergePodContainers (seeds workload.id) workload.containers manifest.containers)
        proxyPort

/-- The proxy ports that the routes of the workloads behind a service give to its ports are declared
by all workloads behind it. -/
def RoutesAgree (workloads : List (KubeAppCatalogWorkload Text)) : Prop :=
  ∀ name service, cachedUnder servicesByWorkload name = some service →
    ∀ port ∈ cachedTargets codec service,
      ∀ workload ∈ workloads, Selects servicesByWorkload name workload.id →
        ∀ route, proxyPortFor (routesOf servicesByWorkload workload.id) port.1 = some route →
          port.2 ≠ some (.int (u16AsInt route.proxyPort)) →
            ∀ workload' ∈ workloads, Selects servicesByWorkload name workload'.id →
              WillDeclare codec seeds servicesByWorkload workload' route.proxyPort

end

/-! ## What a rebuilt workload declares -/

section
variable {codec} {seeds : Uuid → String → RandomState ((_ : String) × String)}
  {injectionCtx : SidecarInjectionContext} {servicesByWorkload : ServicesByWorkload Text}

/-- A rebuilt workload declares what the workload will declare. -/
theorem declares_rebuilt_iff {workload workload' : KubeAppCatalogWorkload Text}
    (h : Rebuilt codec seeds injectionCtx servicesByWorkload workload workload')
    (proxyPort : UInt16) :
    (∃ manifest, codec.fromStr workload'.kind workload'.workloadYaml = .ok manifest ∧
        Declares manifest.containers proxyPort) ↔
      WillDeclare codec seeds servicesByWorkload workload proxyPort := by
  obtain ⟨envWorkloadId, hyaml⟩ := h.yaml
  obtain ⟨manifest, rebuilt, hparse, hrebuilt, hcontainers⟩ :=
    rebuildWorkloadYaml_eq_ok codec (seeds workload.id) hyaml
  rw [h.kind, WillDeclare, hparse, hrebuilt]
  simp only [Except.ok.injEq, exists_eq_left']
  rw [hcontainers]
  by_cases hkind : workload.kind = .deployment
  · rw [if_pos hkind, declares_injectContainers_iff, sidecarOptions]
    by_cases hroutes : routesOf servicesByWorkload workload.id = []
    · rw [if_pos (List.isEmpty_iff.2 hroutes), if_neg fun hand => hand.2 hroutes]
    · rw [if_neg fun hempty => hroutes (List.isEmpty_iff.1 hempty), if_pos ⟨hkind, hroutes⟩]
  · rw [if_neg hkind, if_neg fun hand => hkind hand.1]

/-! ## The targets of the services -/

/-- A YAML that is written from a service has the service's ports. -/
theorem yamlTargets_toString (service : Service) :
    yamlTargets codec (codec.serviceToString service) =
      ((service.spec.bind (·.ports)).getD []).map fun port => (port.port, port.targetPort) := by
  rw [yamlTargets, codec.serviceFromStr_toString]

/-- Cleaning keeps the ports of a service and their targets. -/
theorem yamlTargets_cleanService {yaml : Text} {service : Service}
    (h : codec.serviceFromStr yaml = .ok service) :
    yamlTargets codec (codec.serviceToString (cleanService service)) = yamlTargets codec yaml := by
  rw [yamlTargets_toString, yamlTargets, h]
  obtain ⟨metadata, spec, status⟩ := service
  rcases spec with _ | ⟨_ | ports, _, _, _, _, _⟩
  · rfl
  · rfl
  · exact List.map_map

/-- The entry is written from a service. -/
def Parses (codec : ManifestCodec Text) (entry : KubeServiceWithYaml Text) : Prop :=
  ∃ service, codec.serviceFromStr entry.yaml = .ok service

/-- A rewrite retargets the ports of an entry. -/
theorem exists_rewriteServiceForSidecar {entry : KubeServiceWithYaml Text}
    (h : Parses codec entry) (routes : List ProxyPortRoute) :
    ∃ entry', rewriteServiceForSidecar codec entry routes = .ok entry' ∧ Parses codec entry' ∧
      entryTargets codec entry' = (entryTargets codec entry).map (retarget routes) := by
  obtain ⟨service, hparse⟩ := h
  unfold rewriteServiceForSidecar
  split
  · next hempty =>
    refine ⟨entry, rfl, ⟨service, hparse⟩, ?_⟩
    rw [List.isEmpty_iff.1 hempty]
    exact (List.map_id _).symm
  · refine ⟨_, Result.map_eq_ok.2 ⟨service, Result.mapError_eq_ok.2 hparse, rfl⟩,
      ⟨_, codec.serviceFromStr_toString _⟩, ?_⟩
    have hyaml : ∀ ports : List ServicePort,
        (ports.map (retargetPort routes)).map (fun port => (port.port, port.targetPort)) =
          (ports.map fun port => (port.port, port.targetPort)).map (retarget routes) := by
      intro ports
      rw [List.map_map, List.map_map]
      refine List.map_congr_left fun port _ => ?_
      simp only [Function.comp_apply, retargetPort, retarget]
      cases proxyPortFor routes port.port <;> rfl
    have hrecorded : recordedTargets (entry.details.ports.map (rewritePort routes)) =
        (recordedTargets entry.details.ports).map (retarget routes) := by
      rw [recordedTargets, recordedTargets, List.map_map, List.map_map]
      refine List.map_congr_left fun port _ => ?_
      simp only [Function.comp_apply, rewritePort, retarget]
      cases proxyPortFor routes port.port <;> rfl
    rw [entryTargets, entryTargets, List.map_append, hrecorded, yamlTargets_toString, yamlTargets,
      hparse]
    obtain ⟨metadata, spec, status⟩ := service
    rcases spec with _ | ⟨_ | ports, _, _, _, _, _⟩
    · rfl
    · rfl
    · exact congrArg (· ++ _) (hyaml ports)

/-! ## The first loop -/

/-- After the first loop each name has the first service of the walk, with its ports. -/
theorem lookup_cacheService_loop {services : List (CachedClusterService Text)}
    {cached : ServicesMap Text}
    (h : Result.foldEach (cacheService codec) ∅ services = .ok cached) (name : String) :
    (services.find? (fun service => service.name = name) = none → cached.lookup name = none) ∧
      ∀ service, services.find? (fun service => service.name = name) = some service →
        ∃ entry, cached.lookup name = some entry ∧ Parses codec entry ∧
          entryTargets codec entry = cachedTargets codec service := by
  refine Result.foldEach_invariant (fun done (m : ServicesMap Text) =>
    (done.find? (fun service => service.name = name) = none → m.lookup name = none) ∧
      ∀ service, done.find? (fun service => service.name = name) = some service →
        ∃ entry, m.lookup name = some entry ∧ Parses codec entry ∧
          entryTargets codec entry = cachedTargets codec service) ?_ (by simp) h
  intro done m service m' hdone hround
  unfold cacheService at hround
  split at hround
  · next hmem =>
    cases hround
    rw [List.find?_append]
    cases hfind : done.find? fun service => service.name = name with
    | some first => exact ⟨by simp, fun service h => hdone.2 service (by simpa [hfind] using h)⟩
    | none =>
      -- the name of a service that is skipped was seen before
      have hne : service.name ≠ name := by
        rintro rfl
        exact AList.lookup_eq_none.1 (hdone.1 hfind) hmem
      simpa [hne] using hdone.1 hfind
  · next hnot =>
    obtain ⟨parsed, hparsed, rfl⟩ := Result.map_eq_ok.1 hround
    have hparse := Result.mapError_eq_ok.1 hparsed
    rw [List.find?_append, HashTable.lookup_insert]
    cases hfind : done.find? fun service => service.name = name with
    | some first =>
      obtain ⟨entry, hentry, hrest⟩ := hdone.2 first hfind
      have hne : name ≠ service.name := by
        rintro rfl
        exact hnot (AList.lookup_isSome.1 (Option.isSome_iff_exists.2 ⟨entry, hentry⟩))
      rw [if_neg hne]
      refine ⟨by simp, fun service' h => ?_⟩
      cases (by simpa using h : first = service')
      exact ⟨entry, hentry, hrest⟩
    | none =>
      by_cases heq : service.name = name
      · subst heq
        refine ⟨by simp, fun service' h => ?_⟩
        cases (by simpa using h : service = service')
        refine ⟨_, if_pos rfl, ⟨_, codec.serviceFromStr_toString _⟩, ?_⟩
        rw [entryTargets, yamlTargets_cleanService hparse, cachedTargets]
      · have hne : name ≠ service.name := fun h => heq h.symm
        simpa [heq, hne] using hdone.1 hfind

/-! ## The second loop -/

/-- The routes that one workload's services give to a name: its own, once for each of them. -/
def rewritesOf (servicesByWorkload : ServicesByWorkload Text) (name : String)
    (entry : (_ : Uuid) × List ProxyPortRoute) : List (List ProxyPortRoute) :=
  (((servicesByWorkload.lookup entry.1).getD []).filter fun service => service.name = name).map
    fun _ => entry.2

/-- Every entry of the first map is in the second, with its ports retargeted. -/
def Retargeted (codec : ManifestCodec Text) (rewrites : String → List (List ProxyPortRoute))
    (cached services : ServicesMap Text) : Prop :=
  ∀ name entry, cached.lookup name = some entry →
    ∃ entry', services.lookup name = some entry' ∧ Parses codec entry' ∧
      entryTargets codec entry' = (entryTargets codec entry).map (retargetAll (rewrites name))

/-- One service of one workload: the entry of its name is retargeted. -/
theorem exists_rewriteNamed {rewrites : String → List (List ProxyPortRoute)}
    {cached services : ServicesMap Text}
    (hnames : ∀ name, cached.lookup name = none → services.lookup name = none)
    (h : Retargeted codec rewrites cached services) (routes : List ProxyPortRoute)
    (service : CachedClusterService Text) :
    ∃ services', rewriteNamed codec routes services service = .ok services' ∧
      (∀ name, cached.lookup name = none → services'.lookup name = none) ∧
      Retargeted codec
        (fun name => rewrites name ++ if service.name = name then [routes] else []) cached
        services' := by
  unfold rewriteNamed
  cases hentry : services.lookup service.name with
  | none =>
    refine ⟨services, rfl, hnames, fun name entry hcached => ?_⟩
    obtain ⟨entry', hlookup, hrest⟩ := h name entry hcached
    have hne : service.name ≠ name := by
      rintro rfl
      rw [hentry] at hlookup
      cases hlookup
    dsimp only
    rw [if_neg hne, List.append_nil]
    exact ⟨entry', hlookup, hrest⟩
  | some old =>
    have hcachedName : ∃ entry, cached.lookup service.name = some entry := by
      cases hcached : cached.lookup service.name with
      | none =>
        rw [hnames _ hcached] at hentry
        cases hentry
      | some entry => exact ⟨entry, rfl⟩
    obtain ⟨first, hfirst⟩ := hcachedName
    obtain ⟨old', hold', hparses, htargets⟩ := h _ _ hfirst
    cases hentry.symm.trans hold'
    obtain ⟨new, hnew, hparses', htargets'⟩ := exists_rewriteServiceForSidecar hparses routes
    refine ⟨_, Result.map_eq_ok.2 ⟨new, hnew, rfl⟩, fun name hname => ?_,
      fun name entry hcached => ?_⟩
    · rw [HashTable.lookup_insert, if_neg, hnames name hname]
      rintro rfl
      rw [hfirst] at hname
      cases hname
    · dsimp only
      rw [HashTable.lookup_insert]
      by_cases heq : name = service.name
      · subst heq
        cases hfirst.symm.trans hcached
        refine ⟨new, if_pos rfl, hparses', ?_⟩
        rw [htargets', htargets, List.map_map, if_pos rfl]
        refine List.map_congr_left fun port _ => ?_
        rw [Function.comp_apply, retargetAll, retargetAll, List.foldl_append]
        rfl
      · rw [if_neg heq, if_neg fun h => heq h.symm, List.append_nil]
        exact h name entry hcached

/-- The services of one workload retarget the entries of their names. -/
theorem exists_rewriteServicesOf (servicesByWorkload : ServicesByWorkload Text)
    {rewrites : String → List (List ProxyPortRoute)}
    {cached services : ServicesMap Text}
    (hnames : ∀ name, cached.lookup name = none → services.lookup name = none)
    (h : Retargeted codec rewrites cached services) (entry : (_ : Uuid) × List ProxyPortRoute) :
    ∃ services', rewriteServicesOf codec servicesByWorkload services entry = .ok services' ∧
      (∀ name, cached.lookup name = none → services'.lookup name = none) ∧
      Retargeted codec (fun name => rewrites name ++ rewritesOf servicesByWorkload name entry) cached
        services' := by
  unfold rewriteServicesOf rewritesOf
  cases servicesByWorkload.lookup entry.1 with
  | none => exact ⟨services, rfl, hnames, by simpa using h⟩
  | some workloadServices =>
    refine Result.exists_foldEach
      (fun (done : List (CachedClusterService Text)) (m : ServicesMap Text) =>
        (∀ name, cached.lookup name = none → m.lookup name = none) ∧
        Retargeted codec (fun name => rewrites name ++
          (done.filter fun service => service.name = name).map fun _ => entry.2) cached m) ?_
      ⟨hnames, by simpa using h⟩
    rintro done m service ⟨hdone, hretargeted⟩
    obtain ⟨m', hround, hnames', hretargeted'⟩ := exists_rewriteNamed hdone hretargeted entry.2
      service
    refine ⟨m', hround, hnames', ?_⟩
    convert hretargeted' using 2 with name
    rw [List.filter_append, List.map_append, List.append_assoc]
    by_cases heq : service.name = name <;> simp [heq]

/-- The second loop retargets every entry by the routes of the workloads, in the order of the map. -/
theorem exists_rewriteServices_loop (servicesByWorkload : ServicesByWorkload Text)
    {cached : ServicesMap Text}
    (hparses : ∀ name entry, cached.lookup name = some entry → Parses codec entry)
    (entries : List ((_ : Uuid) × List ProxyPortRoute)) :
    ∃ services, Result.foldEach (rewriteServicesOf codec servicesByWorkload) cached entries =
        .ok services ∧
      (∀ name, cached.lookup name = none → services.lookup name = none) ∧
      Retargeted codec (fun name => entries.flatMap (rewritesOf servicesByWorkload name)) cached
        services := by
  refine Result.exists_foldEach (fun done (m : ServicesMap Text) =>
    (∀ name, cached.lookup name = none → m.lookup name = none) ∧
      Retargeted codec (fun name => done.flatMap (rewritesOf servicesByWorkload name)) cached m) ?_
    ⟨fun _ h => h, fun name entry hentry => ⟨entry, hentry, hparses name entry hentry, ?_⟩⟩
  · rintro done m entry ⟨hdone, hretargeted⟩
    obtain ⟨m', hround, hnames', hretargeted'⟩ := exists_rewriteServicesOf
      servicesByWorkload hdone hretargeted entry
    refine ⟨m', hround, hnames', ?_⟩
    convert hretargeted' using 2 with name
    rw [List.flatMap_append, List.flatMap_singleton]
  · exact (List.map_id _).symm

/-! ## Every rewritten port has a listener -/

/-- A workload that a service selects rewrites its name, with its own routes only. -/
theorem mem_rewritesOf {name : String} {entry : (_ : Uuid) × List ProxyPortRoute}
    {routes : List ProxyPortRoute} :
    routes ∈ rewritesOf servicesByWorkload name entry ↔
      Selects servicesByWorkload name entry.1 ∧ routes = entry.2 := by
  unfold rewritesOf Selects
  cases servicesByWorkload.lookup entry.1 with
  | none => simp
  | some services =>
    simp only [Option.getD_some, List.mem_map, List.mem_filter, decide_eq_true_eq,
      Option.mem_some_iff, exists_eq_left']
    constructor
    · rintro ⟨service, hservice, rfl⟩
      exact ⟨⟨service, hservice⟩, rfl⟩
    · rintro ⟨⟨service, hservice⟩, rfl⟩
      exact ⟨service, hservice, rfl⟩

/-- The ports before and after a rewrite, side by side. -/
theorem changedTo_map {ports : List PortTarget} {rewrites : List (List ProxyPortRoute)}
    {proxyPort : UInt16} :
    ChangedTo ports (ports.map (retargetAll rewrites)) proxyPort ↔
      ∃ port ∈ ports, (retargetAll rewrites port).2 = some (.int (u16AsInt proxyPort)) ∧
        port.2 ≠ some (.int (u16AsInt proxyPort)) := by
  rw [ChangedTo, ← List.map_prod_left_eq_zip]
  constructor
  · rintro ⟨port, target, hmem, hne⟩
    obtain ⟨port', hport', heq⟩ := List.mem_map.1 hmem
    obtain ⟨rfl, hafter⟩ := Prod.mk.inj heq
    exact ⟨_, hport', congrArg Prod.snd hafter, hne⟩
  · rintro ⟨port, hport, hafter, hne⟩
    refine ⟨port.1, port.2, List.mem_map.2 ⟨port, hport, Prod.ext rfl ?_⟩, hne⟩
    exact Prod.ext (retargetAll_cases rewrites port).1 hafter

variable {newId : Uuid → Uuid} {workloads : List (KubeAppCatalogWorkload Text)}
  {prepared : PreparedWorkloads Text}

/-- The services of the result are the cached ones, retargeted in the order of the map. -/
theorem exists_prepareServicesFromCache
    (proxyRoutes : HashTable Uuid (List ProxyPortRoute))
    {cached : ServicesMap Text}
    (hcached : Result.foldEach (cacheService codec) ∅ (servicesByWorkload.entries.flatMap (·.2)) =
      .ok cached)
    (rs : RandomState ((_ : Uuid) × List ProxyPortRoute)) :
    ∃ services, prepareServicesFromCache codec rs servicesByWorkload proxyRoutes = .ok services ∧
      ∀ name service, cachedUnder servicesByWorkload name = some service →
        ∃ entry, services.lookup name = some entry ∧
          entryTargets codec entry = (cachedTargets codec service).map (retargetAll
            ((proxyRoutes.reseed rs).entries.flatMap (rewritesOf servicesByWorkload name))) := by
  have hparses : ∀ name entry, cached.lookup name = some entry → Parses codec entry := by
    intro name entry hentry
    obtain ⟨hnone, hsome⟩ := lookup_cacheService_loop hcached name
    cases hfind : (servicesByWorkload.entries.flatMap (·.2)).find?
        fun service => service.name = name with
    | none =>
      rw [hnone hfind] at hentry
      cases hentry
    | some service =>
      obtain ⟨entry', hentry', hparses, -⟩ := hsome service hfind
      cases hentry.symm.trans hentry'
      exact hparses
  obtain ⟨services, hloop, -, hretargeted⟩ := exists_rewriteServices_loop
    servicesByWorkload hparses (proxyRoutes.reseed rs).entries
  refine ⟨services, Result.bind_eq_ok.2 ⟨cached, hcached, hloop⟩, fun name service hservice => ?_⟩
  obtain ⟨entry, hentry, -, htargets⟩ := (lookup_cacheService_loop hcached name).2 service hservice
  obtain ⟨entry', hentry', -, htargets'⟩ := hretargeted name entry hentry
  exact ⟨entry', hentry', htargets'.trans (htargets ▸ rfl)⟩

/-- The entries of the map of routes, in any order: the routes of listed workloads. -/
theorem mem_proxyRoutes
    (hprepared : prepareWorkloadsFromCache codec seeds newId injectionCtx servicesByWorkload
      workloads = .ok prepared)
    (rs : RandomState ((_ : Uuid) × List ProxyPortRoute))
    {entry : (_ : Uuid) × List ProxyPortRoute} :
    entry ∈ (prepared.proxyRoutes.reseed rs).entries ↔
      (∃ workload ∈ workloads, workload.id = entry.1) ∧
        entry.2 = routesOf servicesByWorkload entry.1 ∧ entry.2 ≠ [] := by
  rw [← lookup_proxyRoutes hprepared entry.1]
  exact (rs.mem_arrange).trans AList.mem_lookup_iff.symm

/-- A route that can rewrite a port of a service does so in some order of the map: the one in which
its workload comes last. -/
theorem exists_retargetAll
    (hprepared : prepareWorkloadsFromCache codec seeds newId injectionCtx servicesByWorkload
      workloads = .ok prepared) {name : String} {workload : KubeAppCatalogWorkload Text}
    (hmem : workload ∈ workloads) (hselects : Selects servicesByWorkload name workload.id)
    {port : PortTarget} {route : ProxyPortRoute}
    (hroute : proxyPortFor (routesOf servicesByWorkload workload.id) port.1 = some route) :
    ∃ rs, retargetAll ((prepared.proxyRoutes.reseed rs).entries.flatMap
      (rewritesOf servicesByWorkload name)) port =
        (port.1, some (.int (u16AsInt route.proxyPort))) := by
  let entry : (_ : Uuid) × List ProxyPortRoute :=
    ⟨workload.id, routesOf servicesByWorkload workload.id⟩
  have hne : routesOf servicesByWorkload workload.id ≠ [] :=
    List.ne_nil_of_mem (List.mem_of_find?_eq_some hroute)
  have hentry : entry ∈ prepared.proxyRoutes.entries :=
    (mem_proxyRoutes hprepared (.identity _)).2 ⟨⟨workload, hmem, rfl⟩, rfl, hne⟩
  obtain ⟨before, after, hsplit⟩ := List.append_of_mem hentry
  have hperm : (before ++ after ++ [entry]).Perm prepared.proxyRoutes.entries :=
    hsplit ▸ (List.perm_append_singleton entry (before ++ after)).trans List.perm_middle.symm
  obtain ⟨rs, hrs⟩ := RandomState.exists_arrange hperm
  have hentries : (prepared.proxyRoutes.reseed rs).entries = before ++ after ++ [entry] := hrs
  refine ⟨rs, ?_⟩
  -- the last rewrite of the name is by the workload's own routes
  have hrewrites : rewritesOf servicesByWorkload name entry ≠ [] :=
    List.ne_nil_of_mem (mem_rewritesOf.2 ⟨hselects, rfl⟩)
  obtain ⟨rest, last, hlast⟩ := List.eq_nil_or_concat _ |>.resolve_left hrewrites
  have hmemLast : last ∈ rewritesOf servicesByWorkload name entry := by
    rw [hlast]
    simp
  have hown : last = entry.2 := (mem_rewritesOf.1 hmemLast).2
  rw [hentries, List.flatMap_append, List.flatMap_singleton, hlast, hown, List.concat_eq_append,
    ← List.append_assoc]
  exact retargetAll_append hroute

/-- **Every rewritten service port has a listener** in every order of the map of routes, exactly
when the routes of the workloads behind each service agree. -/
theorem everyPortListens_iff
    (hprepared : prepareWorkloadsFromCache codec seeds newId injectionCtx servicesByWorkload
      workloads = .ok prepared)
    (hservices : ∃ rs services, prepareServicesFromCache codec rs servicesByWorkload
      prepared.proxyRoutes = .ok services) :
    (∀ rs services, prepareServicesFromCache codec rs servicesByWorkload prepared.proxyRoutes =
        .ok services → EveryPortListens codec servicesByWorkload prepared services) ↔
      RoutesAgree codec seeds servicesByWorkload workloads := by
  obtain ⟨rs₀, services₀, hok⟩ := hservices
  obtain ⟨cached, hcached, -⟩ := Result.bind_eq_ok.1 hok
  constructor
  · intro h name service hservice port hport workload hmem hselects route hroute hne workload' hmem'
      hselects'
    obtain ⟨rs, hlast⟩ := exists_retargetAll hprepared hmem hselects hroute
    obtain ⟨services, hrun, htargets⟩ :=
      exists_prepareServicesFromCache prepared.proxyRoutes hcached rs
    obtain ⟨entry, hentry, hentryTargets⟩ := htargets name service hservice
    have hchanged : ChangedTo (cachedTargets codec service) (entryTargets codec entry)
        route.proxyPort := by
      rw [hentryTargets]
      exact changedTo_map.2 ⟨port, hport, congrArg Prod.snd hlast, hne⟩
    obtain ⟨rebuilt, hmemRebuilt, hr⟩ := exists_rebuilt hprepared hmem'
    refine (declares_rebuilt_iff hr route.proxyPort).1 ?_
    exact h rs services hrun name service entry hservice hentry route.proxyPort hchanged rebuilt
      hmemRebuilt (hr.id ▸ hselects')
  · intro h rs services hrun name service entry hservice hentry proxyPort hchanged rebuilt hmem
      hselects
    obtain ⟨services', hrun', htargets⟩ := exists_prepareServicesFromCache
      prepared.proxyRoutes hcached rs
    cases hrun.symm.trans hrun'
    obtain ⟨entry', hentry', hentryTargets⟩ := htargets name service hservice
    cases hentry.symm.trans hentry'
    rw [hentryTargets] at hchanged
    obtain ⟨port, hport, hafter, hne⟩ := changedTo_map.1 hchanged
    rcases (retargetAll_cases _ port).2 with hkept | ⟨routes, hroutes, route, hroute, htarget⟩
    · exact absurd (hkept.symm.trans hafter) hne
    obtain ⟨e, he, hrewrite⟩ := List.mem_flatMap.1 hroutes
    obtain ⟨hselectsName, rfl⟩ := mem_rewritesOf.1 hrewrite
    obtain ⟨⟨workload, hworkload, hid⟩, hown, -⟩ := (mem_proxyRoutes hprepared rs).1 he
    have hport' : route.proxyPort = proxyPort := by
      have := htarget.symm.trans hafter
      simp only [Option.some.injEq, IntOrString.int.injEq] at this
      exact u16AsInt_injective this
    subst hport'
    obtain ⟨original, hmemOriginal, hr⟩ := exists_original hprepared hmem
    refine (declares_rebuilt_iff hr route.proxyPort).2 ?_
    exact h name service hservice port hport workload hworkload (hid ▸ hselectsName) route
      (by rw [hid, ← hown]; exact hroute) hne original hmemOriginal (hr.id ▸ hselects)

/-! ## A service before one workload -/

/-- A pod with one container. -/
def webTemplate : PodTemplateSpec where
  metadata := none
  spec := some ⟨[⟨"web", some "nginx", none, none, none, none, []⟩], none, none, none, none, none, []⟩

/-- The workload `web` as a Deployment. -/
def webDeployment : Document :=
  .workload .deployment ⟨⟨some "web", none, []⟩, some ⟨some 2, ⟨none, []⟩, webTemplate, []⟩, none⟩

/-- The workload `web` as a StatefulSet. -/
def webStatefulSet : Document :=
  .workload .statefulSet ⟨⟨some "web", none, []⟩, some ⟨some 2, ⟨none, []⟩, webTemplate, []⟩, none⟩

/-- The catalog workload `web`. -/
def webWorkload (kind : KubeWorkloadKind) (yaml : Document) : KubeAppCatalogWorkload Document where
  id := 1
  name := "web"
  «namespace» := "default"
  kind := kind
  containers := []
  ports := []
  workloadYaml := yaml
  catalogSyncVersion := 0

/-- Its service: port `80` is sent to `8080`. -/
def webServices : ServicesByWorkload Document :=
  HashTable.collect [(1,
    [{ name := "web"
       selector := ∅
       ports := [⟨none, 80, some 8080, none, none, some 8080⟩]
       serviceYaml := .service ⟨⟨some "web", none, []⟩,
        some ⟨some [⟨none, 80, some (.int 8080), none, none, none⟩], none, none, none, none, []⟩,
        none⟩ }])]

/-- The environment `2` in the namespace `default`. -/
def webContext : SidecarInjectionContext := ⟨2, "default", "token", none⟩

/-- The seeds that leave every map of variables as it is. -/
abbrev identitySeeds : Uuid → String → RandomState ((_ : String) × String) :=
  fun _ _ => .identity _

/-- The port of a Deployment has its listener, whatever the order. -/
theorem everyPortListens_iff_deployment :
    ∃ prepared, prepareWorkloadsFromCache Document.codec identitySeeds id webContext webServices
        [webWorkload .deployment webDeployment] = .ok prepared ∧
      ((∀ rs services, prepareServicesFromCache Document.codec rs webServices prepared.proxyRoutes =
          .ok services → EveryPortListens Document.codec webServices prepared services) ↔
        RoutesAgree Document.codec identitySeeds webServices [webWorkload .deployment webDeployment]) :=
  ⟨_, rfl, everyPortListens_iff rfl ⟨.identity _, _, rfl⟩⟩

/-- The port of a StatefulSet is sent to `26001`, and nothing in the rebuilt set listens there. -/
theorem statefulSet_port_without_listener :
    ∃ prepared services,
      prepareWorkloadsFromCache Document.codec identitySeeds id webContext webServices
        [webWorkload .statefulSet webStatefulSet] = .ok prepared ∧
      prepareServicesFromCache Document.codec (.identity _) webServices prepared.proxyRoutes =
        .ok services ∧
      ¬EveryPortListens Document.codec webServices prepared services := by
  refine ⟨_, _, rfl, rfl, fun h => ?_⟩
  obtain ⟨manifest, hparse, container, hmem, -⟩ := h "web" _ _ rfl rfl 26001
    ⟨80, some (.int 8080), List.mem_cons_self, by decide⟩ _ List.mem_cons_self
    ⟨_, rfl, _, List.mem_cons_self, rfl⟩
  cases hparse
  cases hmem

end

end KubeController

end Lapdev
