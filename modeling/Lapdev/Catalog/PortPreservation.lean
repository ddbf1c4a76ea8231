import Lapdev.Catalog.ProxyRoutes
import Lapdev.Sidecar.Decisions

/-!
# From the rewritten service to the container

A request to a port of a service goes to the proxy port the rewrite gave it, and the sidecar
resolves that proxy port back to a service port and on to a target port.
`preservesPorts_iff` says for which lists of services the round ends at the port's own target.
-/

namespace Lapdev

open RustStd

/-- The sidecar of a workload with the port routes of its services and no devbox, as a process with
the seed `rs` loads them. -/
def sidecarTable {Text : Type} (rs : RandomState (Sigma fun _ : UInt16 => ProxyPortRoute))
    (services : List (CachedClusterService Text)) : RoutingTable :=
  RoutingTable.empty.setPortRoutes rs (buildProxyRoutes (some services))

/-- Every port of every service, sent to a proxy port by the rewrite, reaches its own target. -/
def PreservesPorts {Text : Type} (services : List (CachedClusterService Text)) : Prop :=
  ∀ rs, ∀ service ∈ services, ∀ port ∈ service.ports, ∀ sp t,
    port.serviceAndTarget = some (sp, t) → ∀ q,
    (rewritePort (buildProxyRoutes (some services)) port).targetPort = some (u16AsInt q) →
    (sidecarTable rs services).resolveTcp ((sidecarTable rs services).servicePortForProxy q) =
        .defaultLocal t ∧
      (sidecarTable rs services).resolveHttp ((sidecarTable rs services).servicePortForProxy q)
        none = .defaultLocal t

/-- Pairs with one service port have one target port. -/
def ConsistentTargets (pairs : List (UInt16 × UInt16)) : Prop :=
  ∀ pair ∈ pairs, ∀ pair' ∈ pairs, pair.1 = pair'.1 → pair.2 = pair'.2

/-- A pair the dynamic range no longer reaches does not have the dynamic port of a pair with
another target as its service port. -/
def NoPortClash (pairs : List (UInt16 × UInt16)) : Prop :=
  ∀ pair ∈ pairs, ∀ pair' ∈ pairs, dynamicPort pairs pair = none →
    dynamicPort pairs pair' = some pair.1 → pair.2 = pair'.2

section
variable {Text : Type} {services : List (CachedClusterService Text)}

/-- Without a devbox both decisions are the local target of the service port. -/
theorem resolve_sidecarTable (rs : RandomState (Sigma fun _ : UInt16 => ProxyPortRoute))
    (port : UInt16) :
    (sidecarTable rs services).resolveTcp port =
        .defaultLocal ((sidecarTable rs services).targetPortForService port) ∧
      (sidecarTable rs services).resolveHttp port none =
        .defaultLocal ((sidecarTable rs services).targetPortForService port) :=
  ⟨rfl, rfl⟩

/-- The pairs of a list are those of its ports. -/
theorem mem_portPairs {pair : UInt16 × UInt16} :
    pair ∈ portPairs services ↔
      ∃ service ∈ services, ∃ port ∈ service.ports, port.serviceAndTarget = some pair := by
  simp [portPairs, List.mem_flatMap, List.mem_filterMap]

/-- The routes of a list, one for each pair. -/
theorem mem_buildProxyRoutes {route : ProxyPortRoute} :
    route ∈ buildProxyRoutes (some services) ↔
      ∃ pair ∈ portPairs services,
        route = ⟨proxyPortOf (portPairs services) pair, pair.1, pair.2⟩ := by
  rw [buildProxyRoutes_eq, List.mem_map]
  exact exists_congr fun pair => and_congr_right fun _ => eq_comm

/-- The route the rewrite applies to a port of the list has the port's service port. -/
theorem exists_proxyPortFor {sp t : UInt16} (h : (sp, t) ∈ portPairs services) :
    ∃ t₁, (sp, t₁) ∈ portPairs services ∧
      proxyPortFor (buildProxyRoutes (some services)) (u16AsInt sp) =
        some ⟨proxyPortOf (portPairs services) (sp, t₁), sp, t₁⟩ := by
  cases hf : proxyPortFor (buildProxyRoutes (some services)) (u16AsInt sp) with
  | none =>
    have := List.find?_eq_none.1 hf _ (mem_buildProxyRoutes.2 ⟨(sp, t), h, rfl⟩)
    simp at this
  | some route =>
    have hport : route.servicePort = sp := u16AsInt_injective (by simpa using List.find?_some hf)
    obtain ⟨⟨sp', t₁⟩, hmem, rfl⟩ := mem_buildProxyRoutes.1 (List.mem_of_find?_eq_some hf)
    cases hport
    exact ⟨t₁, hmem, rfl⟩

/-- The entries of the sidecar's port map are routes under their proxy port. -/
theorem lookup_sidecarTable {rs : RandomState (Sigma fun _ : UInt16 => ProxyPortRoute)}
    {p : UInt16} {route : ProxyPortRoute}
    (h : (sidecarTable rs services).portRoutes.lookup p = some route) :
    route ∈ buildProxyRoutes (some services) ∧ route.proxyPort = p := by
  rw [sidecarTable, RoutingTable.setPortRoutes, HashTable.lookup_reseed] at h
  obtain ⟨route', hmem, heq⟩ := List.mem_map.1 (HashTable.mem_of_lookup_collect h)
  cases heq
  exact ⟨hmem, rfl⟩

/-- Every proxy port of the routes is a key of the sidecar's port map. -/
theorem exists_lookup_sidecarTable (rs : RandomState (Sigma fun _ : UInt16 => ProxyPortRoute))
    {route : ProxyPortRoute} (h : route ∈ buildProxyRoutes (some services)) :
    ∃ route', (sidecarTable rs services).portRoutes.lookup route.proxyPort = some route' := by
  rw [sidecarTable, RoutingTable.setPortRoutes, HashTable.lookup_reseed]
  exact HashTable.exists_lookup_collect (List.mem_map.2 ⟨route, h, rfl⟩)

/-- Pairs that share a proxy port share their target, if service ports do and nothing clashes. -/
theorem target_eq_of_proxyPortOf_eq {pairs : List (UInt16 × UInt16)}
    (hconsistent : ConsistentTargets pairs) (hclash : NoPortClash pairs)
    {pair pair' : UInt16 × UInt16} (h : pair ∈ pairs) (h' : pair' ∈ pairs)
    (heq : proxyPortOf pairs pair = proxyPortOf pairs pair') : pair.2 = pair'.2 := by
  unfold proxyPortOf at heq
  cases hd : dynamicPort pairs pair with
  | none =>
    cases hd' : dynamicPort pairs pair' with
    | none =>
      rw [hd, hd'] at heq
      exact hconsistent pair h pair' h' heq
    | some port =>
      rw [hd, hd'] at heq
      have hport : pair.1 = port := heq
      exact hclash pair h pair' h' hd (hport ▸ hd')
  | some port =>
    cases hd' : dynamicPort pairs pair' with
    | none =>
      rw [hd, hd'] at heq
      have hport : port = pair'.1 := heq
      exact (hclash pair' h' pair h hd' (hport ▸ hd)).symm
    | some port' =>
      rw [hd, hd'] at heq
      have hport : port = port' := heq
      exact congrArg Prod.snd (dynamicPort_injective hd (hport ▸ hd'))

/-- With consistent targets the sidecar's ports are unambiguous. -/
theorem unambiguousPorts_sidecarTable (hconsistent : ConsistentTargets (portPairs services))
    (rs : RandomState (Sigma fun _ : UInt16 => ProxyPortRoute)) :
    (sidecarTable rs services).UnambiguousPorts := by
  intro p p' r r' hr hr' hport
  obtain ⟨pair, hmem, rfl⟩ := mem_buildProxyRoutes.1 (lookup_sidecarTable hr).1
  obtain ⟨pair', hmem', rfl⟩ := mem_buildProxyRoutes.1 (lookup_sidecarTable hr').1
  exact hconsistent pair hmem pair' hmem' hport

/-- The rewrite and the sidecar, as one equation: a pair's port reaches its target through the
first route of its service port. -/
theorem preservesPorts_iff_target : PreservesPorts services ↔
    ∀ rs, ∀ sp t, (sp, t) ∈ portPairs services → ∀ route,
      proxyPortFor (buildProxyRoutes (some services)) (u16AsInt sp) = some route →
      (sidecarTable rs services).targetPortForService
        ((sidecarTable rs services).servicePortForProxy route.proxyPort) = t := by
  constructor
  · intro h rs sp t hpair route hroute
    obtain ⟨service, hservice, port, hport, hst⟩ := mem_portPairs.1 hpair
    have hnumber := KubeServicePort.port_of_serviceAndTarget hst
    have hrewrite : (rewritePort (buildProxyRoutes (some services)) port).targetPort =
        some (u16AsInt route.proxyPort) := by
      rw [rewritePort, ← hnumber, hroute]
    have hresolve := (h rs service hservice port hport sp t hst route.proxyPort hrewrite).1
    rw [(resolve_sidecarTable rs _).1] at hresolve
    exact RouteDecision.defaultLocal.inj hresolve
  · intro h rs service hservice port hport sp t hst q hq
    have hpair : (sp, t) ∈ portPairs services := mem_portPairs.2 ⟨service, hservice, port, hport, hst⟩
    have hnumber := KubeServicePort.port_of_serviceAndTarget hst
    obtain ⟨t₁, -, hroute⟩ := exists_proxyPortFor hpair
    have hq' : u16AsInt (proxyPortOf (portPairs services) (sp, t₁)) = u16AsInt q := by
      rw [rewritePort, ← hnumber, hroute] at hq
      exact Option.some.inj hq
    have htarget := h rs sp t hpair _ hroute
    rw [← u16AsInt_injective hq', (resolve_sidecarTable rs _).1, (resolve_sidecarTable rs _).2,
      htarget]
    exact ⟨rfl, rfl⟩

/-- Both pairs of one service port are sent through its first route, so they share a target. -/
theorem PreservesPorts.consistentTargets (h : PreservesPorts services) :
    ConsistentTargets (portPairs services) := by
  rintro ⟨sp, t⟩ hmem ⟨sp', t'⟩ hmem' hsp
  cases hsp
  obtain ⟨t₁, -, hroute⟩ := exists_proxyPortFor hmem
  have htarget := preservesPorts_iff_target.1 h (.identity _) sp t hmem _ hroute
  have htarget' := preservesPorts_iff_target.1 h (.identity _) sp t' hmem' _ hroute
  exact htarget.symm.trans htarget'

/-- **End-to-end port preservation.** The ports of a list of services keep their targets through
the rewrite and the sidecar, whatever the order of its hash map, exactly when equal service ports
have equal targets and no pair beyond the dynamic range clashes with another target's dynamic
port. -/
theorem preservesPorts_iff (services : List (CachedClusterService Text)) :
    PreservesPorts services ↔
      ConsistentTargets (portPairs services) ∧ NoPortClash (portPairs services) := by
  constructor
  · intro h
    have hconsistent := h.consistentTargets
    rw [preservesPorts_iff_target] at h
    refine ⟨hconsistent, ?_⟩
    rintro ⟨sp, t⟩ hmem ⟨sp', t'⟩ hmem' hnone hsome
    -- the clashing pairs are sent to the same proxy port
    obtain ⟨t₁, hmem₁, hroute⟩ := exists_proxyPortFor hmem
    obtain ⟨t₂, hmem₂, hroute'⟩ := exists_proxyPortFor hmem'
    cases hconsistent _ hmem _ hmem₁ rfl
    cases hconsistent _ hmem' _ hmem₂ rfl
    have hproxy : proxyPortOf (portPairs services) (sp, t) =
        proxyPortOf (portPairs services) (sp', t') := by
      rw [proxyPortOf, proxyPortOf, hnone, hsome]
      rfl
    have htarget := h (.identity _) sp t hmem _ hroute
    have htarget' := h (.identity _) sp' t' hmem' _ hroute'
    dsimp only at htarget htarget'
    rw [hproxy] at htarget
    exact htarget.symm.trans htarget'
  · rintro ⟨hconsistent, hclash⟩
    rw [preservesPorts_iff_target]
    intro rs sp t hmem route hroute
    obtain ⟨t₁, hmem₁, hroute₁⟩ := exists_proxyPortFor hmem
    cases hroute₁.symm.trans hroute
    cases hconsistent _ hmem _ hmem₁ rfl
    have hin : (⟨proxyPortOf (portPairs services) (sp, t), sp, t⟩ : ProxyPortRoute) ∈
        buildProxyRoutes (some services) := mem_buildProxyRoutes.2 ⟨(sp, t), hmem, rfl⟩
    obtain ⟨route', hroute'⟩ := exists_lookup_sidecarTable rs hin
    obtain ⟨hin', hproxy⟩ := lookup_sidecarTable hroute'
    obtain ⟨pair', hmem', rfl⟩ := mem_buildProxyRoutes.1 hin'
    have hservice : (sidecarTable rs services).servicePortForProxy
        (proxyPortOf (portPairs services) (sp, t)) = pair'.1 := by
      rw [RoutingTable.servicePortForProxy, hroute']
      rfl
    rw [hservice, (unambiguousPorts_sidecarTable hconsistent rs).targetPortForService hroute']
    exact target_eq_of_proxyPortOf_eq hconsistent hclash hmem' hmem hproxy

end

/-! ## Two services that share a port -/

/-- A service with the port `80` sent to a target port. -/
def webService (name : String) (target : Int) : CachedClusterService Unit where
  name := name
  selector := ∅
  ports := [⟨none, 80, some target, none, none, some target⟩]
  serviceYaml := ()

/-- Of two services with port `80` and different targets, one is answered by the other's target. -/
theorem not_preservesPorts_shared_port :
    ¬PreservesPorts [webService "web" 8080, webService "admin" 9090] := by
  intro h
  have htargets := h.consistentTargets (80, 8080) (by decide) (80, 9090) (by decide) rfl
  exact absurd htargets (by decide)

end Lapdev
