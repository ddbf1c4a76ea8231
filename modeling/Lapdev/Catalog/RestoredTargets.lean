import Lapdev.Api.PreparedResources
import Lapdev.Catalog.BranchManifests
import Lapdev.Catalog.PortPreservation

/-!
# Target ports after a rewrite and a restore

An environment's services are rewritten to the sidecar, and a branch of the environment gets the
targets from before back. The rewrite goes by the number of a port, the restore by its name and
number: `restoresTargets_iff` says for which services the two leave everything as it was.
-/

namespace Lapdev

open RustStd

/-- A port of a service as `handle_service_change` of `kube/src/server.rs` stores it. -/
def ServicePort.stored (port : ServicePort) : StoredServicePort where
  name := port.name
  port := port.port
  targetPort := port.targetPort
  protocol := port.protocol
  nodePort := port.nodePort

/-- The target port of a port that has a number for it. -/
def ServicePort.numericTarget (port : ServicePort) : Option Int :=
  match port.targetPort with
  | some (.int target) => some target
  | _ => none

/-- The ports of a manifest. -/
def servicePorts (service : Service) : List ServicePort :=
  (service.spec.bind ServiceSpec.ports).getD []

/-- The ports of a manifest as they are recorded and read again. -/
def recordedPorts (service : Service) : List KubeServicePort :=
  (servicePorts service).map fun port => port.stored.intoServicePort

section
variable (port : ServicePort)

@[simp] theorem name_recorded : port.stored.intoServicePort.name = port.name := rfl

@[simp] theorem port_recorded : port.stored.intoServicePort.port = port.port := rfl

@[simp] theorem targetPort_recorded :
    port.stored.intoServicePort.targetPort = port.numericTarget := rfl

@[simp] theorem originalTargetPort_recorded :
    port.stored.intoServicePort.originalTargetPort = port.numericTarget := rfl

theorem targetPort_of_numericTarget {port : ServicePort} {target : Int}
    (h : port.numericTarget = some target) : port.targetPort = some (.int target) := by
  unfold ServicePort.numericTarget at h
  split at h
  · next heq =>
    cases h
    exact heq
  · cases h

end

/-- A number that the services of a workload have a route for. -/
def Routed {Text : Type} (services : List (CachedClusterService Text)) (number : Int) : Prop :=
  ∃ pair ∈ portPairs services, u16AsInt pair.1 = number

/-- Ports without a target number are not routed by another port of their number, and no port takes
the target that is recorded for another one, under its own name or without a name. -/
structure KeepsOriginals {Text : Type} (services : List (CachedClusterService Text))
    (ports : List ServicePort) : Prop where
  unrouted : ∀ port ∈ ports, port.numericTarget = none → ¬Routed services port.port
  unambiguous : ∀ port ∈ ports, ∀ other ∈ ports, ∀ target, other.numericTarget = some target →
    other.port = port.port →
      other.name = port.name ∨ (other.name = none ∧ port.numericTarget = none) →
        port.numericTarget = some target

namespace KubeController

variable {Text : Type} (codec : ManifestCodec Text)

/-- The rewrite and then the restore leave the manifest and the recorded targets. -/
def RestoresTargets (entry : KubeServiceWithYaml Text) (service : Service)
    (routes : List ProxyPortRoute) : Prop :=
  ∃ rewritten restored, rewriteServiceForSidecar codec entry routes = .ok rewritten ∧
    restoreServiceTargetPorts codec rewritten.yaml rewritten.details.ports = .ok restored ∧
    codec.serviceFromStr restored.1 = .ok service ∧
    restored.2.map (·.targetPort) = entry.details.ports.map (·.targetPort)

variable {codec} {services : List (CachedClusterService Text)} {ports : List ServicePort}

/-! ## The two passes on the ports -/

/-- The recorded ports after the rewrite. -/
def rewrittenPorts (routes : List ProxyPortRoute) (ports : List ServicePort) :
    List KubeServicePort :=
  ports.map fun port => rewritePort routes port.stored.intoServicePort

/-- A port of the manifest after both passes. -/
def restoredPort (routes : List ProxyPortRoute) (ports : List ServicePort) (port : ServicePort) :
    ServicePort :=
  restoreSpecPort (targetMap (rewrittenPorts routes ports)) (retargetPort routes port)

/-- The original that the rewrite records. -/
theorem original_rewritePort (routes : List ProxyPortRoute) (port : ServicePort) :
    (rewritePort routes port.stored.intoServicePort).originalTargetPort =
      port.numericTarget.or ((proxyPortFor routes port.port).map fun route =>
        u16AsInt route.targetPort) := by
  rw [rewritePort, port_recorded]
  cases proxyPortFor routes port.port with
  | none => simp
  | some route => simp

theorem name_rewritePort (routes : List ProxyPortRoute) (port : ServicePort) :
    (rewritePort routes port.stored.intoServicePort).name = port.name ∧
      (rewritePort routes port.stored.intoServicePort).port = port.port := by
  rw [rewritePort, port_recorded]
  cases proxyPortFor routes port.port <;> exact ⟨rfl, rfl⟩

/-- A port is recorded again with its original where it has one. -/
theorem targetPort_restoreTargetPort (routes : List ProxyPortRoute) (port : ServicePort) :
    (restoreTargetPort (rewritePort routes port.stored.intoServicePort)).targetPort =
      port.numericTarget.or ((proxyPortFor routes port.port).map fun route =>
        u16AsInt route.targetPort) := by
  have horiginal := original_rewritePort routes port
  rw [restoreTargetPort]
  cases hor : port.numericTarget.or ((proxyPortFor routes port.port).map fun route =>
      u16AsInt route.targetPort) with
  | some target =>
    rw [hor] at horiginal
    rw [horiginal]
  | none =>
    obtain ⟨hnumeric, hroute⟩ := Option.or_eq_none_iff.1 hor
    rw [Option.map_eq_none_iff] at hroute
    rw [hor] at horiginal
    rw [horiginal, rewritePort, port_recorded, hroute]
    exact hnumeric

/-- A number has a route exactly if a pair of the services has it. -/
theorem proxyPortFor_eq_none {number : Int} :
    proxyPortFor (buildProxyRoutes (some services)) number = none ↔ ¬Routed services number := by
  rw [proxyPortFor, List.find?_eq_none]
  constructor
  · rintro h ⟨pair, hpair, hnumber⟩
    exact h _ (mem_buildProxyRoutes.2 ⟨pair, hpair, rfl⟩) (decide_eq_true hnumber)
  · intro h route hroute hnumber
    obtain ⟨pair, hpair, rfl⟩ := mem_buildProxyRoutes.1 hroute
    exact h ⟨pair, hpair, of_decide_eq_true hnumber⟩

/-- A recorded target is that of a port with the name and the number. -/
theorem exists_of_lookup_targetMap {routes : List ProxyPortRoute} {name : Option String}
    {number target : Int}
    (h : (targetMap (rewrittenPorts routes ports)).lookup (name, number) = some target) :
    ∃ port ∈ ports, port.name = name ∧ port.port = number ∧
      port.numericTarget.or ((proxyPortFor routes port.port).map fun route =>
        u16AsInt route.targetPort) = some target := by
  obtain ⟨recorded, hrecorded, heq⟩ := List.mem_filterMap.1 (HashTable.mem_of_lookup_collect h)
  obtain ⟨port, hport, rfl⟩ := List.mem_map.1 hrecorded
  obtain ⟨original, horiginal, hkey⟩ := Option.map_eq_some_iff.1 heq
  obtain ⟨hname, hnumber⟩ := name_rewritePort routes port
  rw [original_rewritePort] at horiginal
  rw [hname, hnumber] at hkey
  cases hkey
  exact ⟨port, hport, rfl, rfl, horiginal⟩

/-- What is recorded for a port is found under its name and number. -/
theorem exists_lookup_targetMap (routes : List ProxyPortRoute) {port : ServicePort} {target : Int}
    (hport : port ∈ ports)
    (horiginal : port.numericTarget.or ((proxyPortFor routes port.port).map fun route =>
      u16AsInt route.targetPort) = some target) :
    ∃ found, (targetMap (rewrittenPorts routes ports)).lookup (port.name, port.port) = some found := by
  obtain ⟨hname, hnumber⟩ := name_rewritePort routes port
  have hmem : ((port.name, port.port), target) ∈ (rewrittenPorts routes ports).filterMap fun port =>
      port.originalTargetPort.map fun originalTarget => ((port.name, port.port), originalTarget) := by
    refine List.mem_filterMap.2 ⟨_, List.mem_map.2 ⟨port, hport, rfl⟩, ?_⟩
    rw [original_rewritePort, horiginal, hname, hnumber]
    rfl
  exact HashTable.exists_lookup_collect hmem

/-- The target that the restore finds for a port. -/
def foundTarget (routes : List ProxyPortRoute) (ports : List ServicePort) (port : ServicePort) :
    Option Int :=
  ((targetMap (rewrittenPorts routes ports)).lookup (port.name, port.port)).or
    ((targetMap (rewrittenPorts routes ports)).lookup (none, port.port))

/-- A found target is that of the port. -/
theorem restoredPort_of_found {routes : List ProxyPortRoute} {port : ServicePort} {target : Int}
    (h : foundTarget routes ports port = some target) :
    restoredPort routes ports port = { port with targetPort := some (.int target) } := by
  have hsame : (retargetPort routes port).name = port.name ∧
      (retargetPort routes port).port = port.port := by
    rw [retargetPort]
    cases proxyPortFor routes port.port <;> exact ⟨rfl, rfl⟩
  rw [foundTarget] at h
  rw [restoredPort, restoreSpecPort, hsame.1, hsame.2, h, retargetPort]
  cases proxyPortFor routes port.port <;> rfl

/-- An unrouted port for which no target is found stays as it is. -/
theorem restoredPort_of_none {routes : List ProxyPortRoute} {port : ServicePort}
    (h : foundTarget routes ports port = none) (hroute : proxyPortFor routes port.port = none) :
    restoredPort routes ports port = port := by
  have hsame : retargetPort routes port = port := by rw [retargetPort, hroute]
  rw [foundTarget] at h
  rw [restoredPort, hsame, restoreSpecPort, h]

/-- The passes keep a port with a target number exactly if that is the target they find. -/
theorem restoredPort_eq_self_iff {routes : List ProxyPortRoute} {port : ServicePort}
    (hport : port ∈ ports) {target : Int} (htarget : port.numericTarget = some target) :
    restoredPort routes ports port = port ↔ foundTarget routes ports port = some target := by
  obtain ⟨found, hfound⟩ := exists_lookup_targetMap routes hport
    (by rw [htarget, Option.some_or])
  have hfound' : foundTarget routes ports port = some found := by
    rw [foundTarget, hfound, Option.some_or]
  rw [restoredPort_of_found hfound', hfound']
  constructor
  · intro heq
    have htargets := congrArg ServicePort.targetPort heq
    rw [targetPort_of_numericTarget htarget] at htargets
    cases htargets
    rfl
  · intro heq
    cases heq
    rw [← targetPort_of_numericTarget htarget]

/-- With one target for each name and number the passes find that of the port. -/
theorem restoredPort_of_keepsOriginals (h : KeepsOriginals services ports) {port : ServicePort}
    (hport : port ∈ ports) : restoredPort (buildProxyRoutes (some services)) ports port = port := by
  have hfound : ∀ name target,
      (targetMap (rewrittenPorts (buildProxyRoutes (some services)) ports)).lookup
        (name, port.port) = some target →
      name = port.name ∨ (name = none ∧ port.numericTarget = none) →
        port.numericTarget = some target := by
    intro name target hlookup hname
    obtain ⟨other, hother, rfl, hnumber, horiginal⟩ := exists_of_lookup_targetMap hlookup
    cases hnumeric : other.numericTarget with
    | none =>
      rw [proxyPortFor_eq_none.2 (h.unrouted other hother hnumeric), hnumeric] at horiginal
      cases horiginal
    | some target' =>
      rw [hnumeric, Option.some_or] at horiginal
      cases horiginal
      exact h.unambiguous port hport other hother target hnumeric hnumber hname
  cases htarget : port.numericTarget with
  | some target =>
    rw [restoredPort_eq_self_iff hport htarget]
    obtain ⟨found, hlookup⟩ := exists_lookup_targetMap (buildProxyRoutes (some services))
      hport (by rw [htarget, Option.some_or])
    have hsame := hfound _ _ hlookup (.inl rfl)
    rw [htarget] at hsame
    rw [foundTarget, hlookup, Option.some_or, hsame]
  | none =>
    refine restoredPort_of_none (Option.or_eq_none_iff.2 ⟨?_, ?_⟩)
      (proxyPortFor_eq_none.2 (h.unrouted port hport htarget))
    · refine Option.eq_none_iff_forall_ne_some.2 fun target hlookup => ?_
      have := hfound _ _ hlookup (.inl rfl)
      rw [htarget] at this
      cases this
    · refine Option.eq_none_iff_forall_ne_some.2 fun target hlookup => ?_
      have := hfound _ _ hlookup (.inr ⟨rfl, htarget⟩)
      rw [htarget] at this
      cases this

/-- Where both passes leave every port and its recorded target, each finds its own. -/
theorem keepsOriginals_of_restored
    (hyaml : ∀ port ∈ ports,
      restoredPort (buildProxyRoutes (some services)) ports port = port)
    (hrecorded : ∀ port ∈ ports, (restoreTargetPort (rewritePort (buildProxyRoutes (some services))
      port.stored.intoServicePort)).targetPort = port.numericTarget) :
    KeepsOriginals services ports := by
  refine ⟨fun port hport hnumeric => ?_, fun port hport other hother target hnumeric hnumber hname => ?_⟩
  · have hrestored := hrecorded port hport
    rw [targetPort_restoreTargetPort, hnumeric, Option.none_or, Option.map_eq_none_iff] at hrestored
    exact proxyPortFor_eq_none.1 hrestored
  · obtain ⟨found, hlookup⟩ := exists_lookup_targetMap (buildProxyRoutes (some services))
      hother (by rw [hnumeric, Option.some_or])
    have hother' := (restoredPort_eq_self_iff hother hnumeric).1 (hyaml other hother)
    rw [foundTarget, hlookup, Option.some_or] at hother'
    cases hother'
    rw [hnumber] at hlookup
    have hfound : ∀ found, foundTarget (buildProxyRoutes (some services)) ports port = some found →
        port.numericTarget = some found := by
      intro found hfound
      have hself := hyaml port hport
      rw [restoredPort_of_found hfound] at hself
      rw [ServicePort.numericTarget, ← congrArg ServicePort.targetPort hself]
    rcases hname with hname | ⟨hname, hnone⟩
    · refine hfound target ?_
      rw [foundTarget, ← hname, hlookup, Option.some_or]
    · rw [hname] at hlookup
      cases hown : (targetMap (rewrittenPorts (buildProxyRoutes (some services)) ports)).lookup
          (port.name, port.port) with
      | none => exact hfound target (by rw [foundTarget, hown, Option.none_or, hlookup])
      | some found =>
        have := hfound found (by rw [foundTarget, hown, Option.some_or])
        rw [hnone] at this
        cases this

/-- A rewrite of a service with its recorded ports, and the restore after it. -/
theorem run_restore {entry : KubeServiceWithYaml Text} {service : Service}
    (hyaml : codec.serviceFromStr entry.yaml = .ok service)
    (hports : entry.details.ports = recordedPorts service) (routes : List ProxyPortRoute) :
    ∃ rewritten restored, rewriteServiceForSidecar codec entry routes = .ok rewritten ∧
      restoreServiceTargetPorts codec rewritten.yaml rewritten.details.ports = .ok restored ∧
      codec.serviceFromStr restored.1 = .ok { service with
        spec := service.spec.map fun spec =>
          { spec with
            ports := spec.ports.map fun specPorts =>
              specPorts.map (restoredPort routes (servicePorts service)) } } ∧
      restored.2 = (rewrittenPorts routes (servicePorts service)).map restoreTargetPort := by
  have hrewritten : entry.details.ports.map (rewritePort routes) =
      rewrittenPorts routes (servicePorts service) := by
    rw [hports, recordedPorts, List.map_map]
    rfl
  unfold rewriteServiceForSidecar
  split
  · next hempty =>
    obtain rfl := List.isEmpty_iff.1 hempty
    have hsame : rewrittenPorts [] (servicePorts service) = entry.details.ports := by
      rw [← hrewritten]
      exact List.map_id _
    refine ⟨entry, (_, _), rfl, ?_, codec.serviceFromStr_toString _, rfl⟩
    rw [restoreServiceTargetPorts, hyaml, hsame]
    dsimp only
    rw [← hsame]
    rfl
  · refine ⟨_, (_, _), Result.map_eq_ok.2 ⟨service, Result.mapError_eq_ok.2 hyaml, rfl⟩, ?_,
      codec.serviceFromStr_toString _, rfl⟩
    rw [restoreServiceTargetPorts, codec.serviceFromStr_toString, hrewritten]
    dsimp only
    obtain ⟨metadata, spec, status⟩ := service
    rcases spec with _ | ⟨_ | specPorts, _, _, _, _, _⟩
    · rfl
    · rfl
    · simp only [Option.map_some, List.map_map]
      rfl

/-- The ports of a manifest are as before exactly if each of them is. -/
theorem mapPorts_eq_self_iff (service : Service) (f : ServicePort → ServicePort) :
    ({ service with
        spec := service.spec.map fun spec =>
          { spec with ports := spec.ports.map fun specPorts => specPorts.map f } } : Service) =
      service ↔ ∀ port ∈ servicePorts service, f port = port := by
  obtain ⟨metadata, spec, status⟩ := service
  rcases spec with _ | ⟨_ | specPorts, _, _, _, _, _⟩
  · simp [servicePorts]
  · simp [servicePorts]
  · have hself : specPorts.map f = specPorts.map id ↔ ∀ port ∈ specPorts, f port = id port :=
      List.map_inj_left
    rw [List.map_id] at hself
    simpa [servicePorts] using hself

/-- **Restore undoes rewrite.** A service and its recorded ports get their targets back exactly if
its ports without a target number are not routed, and no port finds the target of another one. -/
theorem restoresTargets_iff (services : List (CachedClusterService Text))
    {entry : KubeServiceWithYaml Text} {service : Service}
    (hyaml : codec.serviceFromStr entry.yaml = .ok service)
    (hports : entry.details.ports = recordedPorts service) :
    RestoresTargets codec entry service (buildProxyRoutes (some services)) ↔
      KeepsOriginals services (servicePorts service) := by
  obtain ⟨rewritten, restored, hrewrite, hrestore, hparse, hrestored⟩ :=
    run_restore hyaml hports (buildProxyRoutes (some services))
  have htargets : restored.2.map (·.targetPort) = entry.details.ports.map (·.targetPort) ↔
      ∀ port ∈ servicePorts service, (restoreTargetPort (rewritePort
        (buildProxyRoutes (some services)) port.stored.intoServicePort)).targetPort =
          port.numericTarget := by
    rw [hrestored, hports, recordedPorts, rewrittenPorts, List.map_map, List.map_map, List.map_map]
    exact List.map_inj_left
  constructor
  · rintro ⟨rewritten', restored', hrewrite', hrestore', hservice, hrecorded⟩
    cases hrewrite.symm.trans hrewrite'
    cases hrestore.symm.trans hrestore'
    refine keepsOriginals_of_restored ?_ (htargets.1 hrecorded)
    exact (mapPorts_eq_self_iff service _).1 (Except.ok.inj (hparse.symm.trans hservice))
  · intro h
    refine ⟨rewritten, restored, hrewrite, hrestore, ?_, htargets.2 fun port hport => ?_⟩
    · rw [hparse, (mapPorts_eq_self_iff service _).2 fun port hport =>
        restoredPort_of_keepsOriginals h hport]
    · rw [targetPort_restoreTargetPort]
      cases hnumeric : port.numericTarget with
      | some target => rfl
      | none =>
        rw [proxyPortFor_eq_none.2 (h.unrouted port hport hnumeric)]
        rfl

/-! ## A named target port -/

/-- A service whose one port `80` has a target. -/
def namedService (target : IntOrString) : Service where
  metadata := ⟨some "web", none, []⟩
  spec := some
    { ports := some [⟨none, 80, some target, none, none, none⟩]
      selector := none
      clusterIp := none
      clusterIps := none
      healthCheckNodePort := none
      others := [] }
  status := none

/-- The service with its recorded ports. -/
def namedEntry (target : IntOrString) : KubeServiceWithYaml Document where
  yaml := .service (namedService target)
  details := ⟨"web", recordedPorts (namedService target), ∅⟩

/-- The service as it is read for a workload that it selects. -/
def cachedNamedService (target : IntOrString) : CachedClusterService Document where
  name := "web"
  selector := ∅
  ports := recordedPorts (namedService target)
  serviceYaml := .service (namedService target)

/-- Another service of the workload with the port. -/
def numericService (target : Int) : CachedClusterService Document where
  name := "admin"
  selector := ∅
  ports := [⟨none, 80, some target, none, none, some target⟩]
  serviceYaml := .blank

/-- A target number is restored. -/
theorem restoresTargets_iff_numeric :
    RestoresTargets Document.codec (namedEntry (.int 8080)) (namedService (.int 8080))
      (buildProxyRoutes (some [cachedNamedService (.int 8080), numericService 9090])) := by
  refine (restoresTargets_iff _ rfl rfl).2 ⟨fun port hport => ?_, ?_⟩
  · cases List.mem_singleton.1 hport
    exact nofun
  · intro port hport other hother target htarget _ _
    cases List.mem_singleton.1 hport
    cases List.mem_singleton.1 hother
    exact htarget

/-- A named target becomes the number of the other service's target. -/
theorem not_restoresTargets_named :
    ¬∀ (services : List (CachedClusterService Document)) (entry : KubeServiceWithYaml Document)
      (service : Service), Document.codec.serviceFromStr entry.yaml = .ok service →
        entry.details.ports = recordedPorts service →
        (∃ cached ∈ services, cached.serviceYaml = entry.yaml ∧
          cached.ports = entry.details.ports) →
          RestoresTargets Document.codec entry service (buildProxyRoutes (some services)) := by
  intro h
  obtain ⟨rewritten, restored, hrewrite, hrestore, hservice, -⟩ :=
    h [cachedNamedService (.string "http"), numericService 9090] (namedEntry (.string "http"))
      (namedService (.string "http")) rfl rfl ⟨_, List.mem_cons_self, rfl, rfl⟩
  cases hrewrite
  cases hrestore
  cases hservice

end KubeController

end Lapdev
