import Lapdev.Catalog.PortPreservation
import Lapdev.Sidecar.Connections

/-!
# Branch services behind a sidecar

`build_branch_service_route_config_from_services` of `kube/src/server.rs`: the route of a branch
names, for each port number, the branch's copy of a service. A request for a service arrives at a
proxy port, which the sidecar takes back to the service port before it asks the branch's route.
`preservesBranchServices_iff` says for which services the answer is always the service's own copy.
-/

namespace Lapdev

open RustStd

section
variable {Text : Type}

/-- The name of a branch's copy of a service. -/
def branchServiceName (branchEnvironmentId : Uuid) (name : String) : String :=
  name ++ ("-" ++ Uuid.hyphenated branchEnvironmentId)

/-- The loop body over the ports of a service. -/
def insertServiceName (branchServiceName : String) (serviceNames : HashMap UInt16 String)
    (port : KubeServicePort) : HashMap UInt16 String :=
  match u16TryFrom port.port with
  | some portNumber => serviceNames.insert portNumber branchServiceName
  | none => serviceNames

/-- The map that `build_branch_service_route_config_from_services` fills. -/
def branchServiceNames (branchEnvironmentId : Uuid)
    (sharedServices : List (CachedClusterService Text)) : HashMap UInt16 String :=
  sharedServices.foldl (fun serviceNames service =>
    service.ports.foldl
      (insertServiceName (branchServiceName branchEnvironmentId service.name)) serviceNames) ∅

/-- Source: `server.rs`. -/
def buildBranchServiceRouteConfigFromServices (branchEnvironmentId : Uuid)
    (sharedServices : List (CachedClusterService Text)) : Option ProxyBranchRouteConfig :=
  let serviceNames := branchServiceNames branchEnvironmentId sharedServices
  if serviceNames = ∅ then none
  else
    some
      { branchEnvironmentId
        serviceNames
        headers := ∅
        requiresAuth := true
        accessLevel := .personal
        timeoutMs := none
        devboxRoute := none }

/-! ## The names of a port number -/

/-- The port numbers of a service. -/
def CachedClusterService.portNumbers (service : CachedClusterService Text) : List UInt16 :=
  service.ports.filterMap fun port => u16TryFrom port.port

theorem lookup_insertServiceNames (name : String) (ports : List KubeServicePort)
    (serviceNames : HashMap UInt16 String) (p : UInt16) :
    (ports.foldl (insertServiceName name) serviceNames).lookup p =
      if p ∈ ports.filterMap fun port => u16TryFrom port.port then some name
      else serviceNames.lookup p := by
  induction ports generalizing serviceNames with
  | nil => rfl
  | cons port ports ih =>
    rw [List.foldl_cons, ih, insertServiceName, List.filterMap_cons]
    cases u16TryFrom port.port with
    | none => rfl
    | some n =>
      simp only [HashMap.lookup_insert, List.mem_cons]
      by_cases hmem : p ∈ ports.filterMap fun port => u16TryFrom port.port
      · rw [if_pos hmem, if_pos (.inr hmem)]
      · by_cases hp : p = n
        · rw [if_neg hmem, if_pos hp, if_pos (.inl hp)]
        · rw [if_neg hmem, if_neg hp, if_neg (not_or.2 ⟨hp, hmem⟩)]

/-- A port number has the name of a service with it: of the last one. -/
theorem lookup_branchServiceNames_append (branchEnvironmentId : Uuid)
    (services : List (CachedClusterService Text)) (service : CachedClusterService Text)
    (p : UInt16) :
    (branchServiceNames branchEnvironmentId (services ++ [service])).lookup p =
      if p ∈ service.portNumbers then some (branchServiceName branchEnvironmentId service.name)
      else (branchServiceNames branchEnvironmentId services).lookup p := by
  rw [branchServiceNames, List.foldl_append, List.foldl_cons, List.foldl_nil,
    lookup_insertServiceNames]
  rfl

/-- Every port number of a service has a name, that of a service with it. -/
theorem exists_lookup_branchServiceNames {branchEnvironmentId : Uuid}
    {services : List (CachedClusterService Text)} {service : CachedClusterService Text} {p : UInt16}
    (hservice : service ∈ services) (hp : p ∈ service.portNumbers) :
    ∃ service' ∈ services, p ∈ service'.portNumbers ∧
      (branchServiceNames branchEnvironmentId services).lookup p =
        some (branchServiceName branchEnvironmentId service'.name) := by
  induction services using List.reverseRecOn with
  | nil => cases hservice
  | append_singleton services last ih =>
    rw [lookup_branchServiceNames_append]
    by_cases hlast : p ∈ last.portNumbers
    · exact ⟨last, by simp, hlast, if_pos hlast⟩
    · rw [if_neg hlast]
      have hin : service ∈ services := by
        rcases List.mem_append.1 hservice with h | h
        · exact h
        · exact absurd (List.mem_singleton.1 h ▸ hp) hlast
      obtain ⟨service', hservice', hrest⟩ := ih hin
      exact ⟨service', List.mem_append_left _ hservice', hrest⟩

theorem branchServiceName_injective (branchEnvironmentId : Uuid) :
    Function.Injective (branchServiceName branchEnvironmentId) := by
  intro name name' h
  have hlist := congrArg String.toList h
  simp only [branchServiceName, String.toList_append] at hlist
  exact String.toList_inj.1 (List.append_cancel_right hlist)

/-! ## Arrivals -/

/-- A request of the branch for a port of a service, sent to a proxy port by the rewrite, is resolved
to the branch's copy of the service on that port: whatever the orders in which the database has
returned the services to the two callers. -/
def PreservesBranchServices (branchEnvironmentId : Uuid)
    (services : List (CachedClusterService Text)) : Prop :=
  ∀ routed listed : List (CachedClusterService Text), routed.Perm services → listed.Perm services →
    ∀ service ∈ services, ∀ port ∈ service.ports, ∀ route,
      proxyPortFor (buildProxyRoutes (some routed)) port.port = some route →
      ∃ config, buildBranchServiceRouteConfigFromServices branchEnvironmentId listed = some config ∧
        ∀ rs (table : RoutingTable), table.portRoutes = (sidecarTable rs routed).portRoutes →
          table.branchRoutes.lookup branchEnvironmentId = some ⟨config.serviceRoute, .service⟩ →
          u16AsInt (table.servicePortForProxy route.proxyPort) = port.port ∧
          ∃ branchService,
            table.resolveHttp (table.servicePortForProxy route.proxyPort)
              (some branchEnvironmentId) = .branchService branchService ∧
            branchService.serviceNameForPort (table.servicePortForProxy route.proxyPort) =
              some (branchServiceName branchEnvironmentId service.name)

/-- Services that share a port number to which requests are sent have one name. -/
def OneServicePerPort (services : List (CachedClusterService Text)) : Prop :=
  ∀ service ∈ services, ∀ service' ∈ services, ∀ p ∈ service.portNumbers,
    p ∈ service'.portNumbers → (∃ pair ∈ portPairs services, pair.1 = p) →
      service.name = service'.name

/-- Two pairs have one proxy port, which is the dynamic port of one of them: the range does not reach
the other one, so that its proxy port is its service port. -/
def TakesOver (pairs : List (UInt16 × UInt16)) (pair other : UInt16 × UInt16) : Prop :=
  dynamicPort pairs pair = none ∧ dynamicPort pairs other = some pair.1 ∨
    dynamicPort pairs other = none ∧ dynamicPort pairs pair = some other.1

/-- Wherever a pair takes the proxy port of the first pair of a service port over, that pair comes
again behind it, or with it a pair of its service port that the range does not reach either. -/
def NoTakeover (pairs : List (UInt16 × UInt16)) : Prop :=
  ∀ pair other before after, pairs.find? (fun first => first.1 = pair.1) = some pair →
    pairs = before ++ other :: after → TakesOver pairs pair other →
      ∃ again ∈ after, again = pair ∨
        dynamicPort pairs pair = none ∧ dynamicPort pairs again = none ∧ again.1 = pair.1

/-- The same, of the port map that is filled in the order of the pairs: the last pair with the proxy
port of the first pair of a service port has that service port. -/
def KeepsServicePorts (pairs : List (UInt16 × UInt16)) : Prop :=
  ∀ pair pair' : UInt16 × UInt16, pairs.find? (fun first => first.1 = pair.1) = some pair →
    pairs.reverse.find? (fun last => proxyPortOf pairs last = proxyPortOf pairs pair) =
      some pair' → pair'.1 = pair.1

section
variable {pairs : List (UInt16 × UInt16)} {pair other : UInt16 × UInt16}

/-- No pair has its own service port from the range. -/
theorem ne_of_dynamicPort {port : UInt16} (h : dynamicPort pairs pair = some port) :
    port ≠ pair.1 := by
  have key : ∀ {pairs : List (UInt16 × UInt16)} {next : Nat} {seen : List (UInt16 × UInt16)},
      (pair, some port) ∈ dynamicPorts next seen pairs → port ≠ pair.1 := by
    intro pairs
    induction pairs with
    | nil => exact fun h => absurd h List.not_mem_nil
    | cons head rest ih =>
      intro next seen hmem
      rw [dynamicPorts] at hmem
      split at hmem
      · exact ih hmem
      · rcases List.mem_cons.1 hmem with heq | hmem
        · split_ifs at heq with hlt
          · cases heq
            rw [Ne, ofNat_eq_iff hlt]
            unfold firstFree
            split_ifs <;> omega
          · cases heq
        · exact ih hmem
  obtain ⟨l₁, l₂, heq, -⟩ := List.lookup_eq_some_iff.1 (Option.join_eq_some_iff.1 h)
  have hmem : (pair, some port) ∈ dynamicPorts sidecarProxyDynamicPortStart [] pairs := by
    rw [heq]
    simp
  exact key hmem

/-- A pair that takes a proxy port over has another service port. -/
theorem TakesOver.ne (h : TakesOver pairs pair other) : other.1 ≠ pair.1 := by
  rcases h with ⟨-, hother⟩ | ⟨-, hpair⟩
  · exact (ne_of_dynamicPort hother).symm
  · exact ne_of_dynamicPort hpair

/-- Two pairs have one proxy port if they are one, if the range reaches neither and they have one
service port, or if one takes it over. -/
theorem proxyPortOf_eq_iff : proxyPortOf pairs other = proxyPortOf pairs pair ↔
    (other = pair ∨ dynamicPort pairs pair = none ∧ dynamicPort pairs other = none ∧
      other.1 = pair.1) ∨ TakesOver pairs pair other := by
  unfold proxyPortOf TakesOver
  cases hpair : dynamicPort pairs pair with
  | none =>
    cases hother : dynamicPort pairs other with
    | none =>
      constructor
      · exact fun heq => .inl (.inr ⟨rfl, rfl, heq⟩)
      · rintro ((rfl | ⟨-, -, heq⟩) | ⟨-, h⟩ | ⟨-, h⟩)
        · rfl
        · exact heq
        · cases h
        · cases h
    | some port =>
      constructor
      · exact fun heq => .inr (.inl ⟨rfl, congrArg some heq⟩)
      · rintro ((rfl | ⟨-, h, -⟩) | ⟨-, h⟩ | ⟨h, -⟩)
        · rw [hpair] at hother
          cases hother
        · cases h
        · exact Option.some.inj h
        · cases h
  | some port =>
    cases hother : dynamicPort pairs other with
    | none =>
      constructor
      · exact fun heq => .inr (.inr ⟨rfl, congrArg some heq.symm⟩)
      · rintro ((rfl | ⟨h, -, -⟩) | ⟨h, -⟩ | ⟨-, h⟩)
        · rw [hpair] at hother
          cases hother
        · cases h
        · cases h
        · exact (Option.some.inj h).symm
    | some port' =>
      constructor
      · intro heq
        have hport : port' = port := heq
        exact .inl (.inl (dynamicPort_injective hother (hport ▸ hpair)))
      · rintro ((rfl | ⟨h, -, -⟩) | ⟨h, -⟩ | ⟨h, -⟩)
        · rw [hpair] at hother
          exact (Option.some.inj hother).symm
        · cases h
        · cases h
        · cases h

/-- The port map keeps the service ports exactly if no takeover is the last word. -/
theorem noTakeover_iff_keepsServicePorts : NoTakeover pairs ↔ KeepsServicePorts pairs := by
  constructor
  · intro h pair last hfirst hlast
    have hproxy : proxyPortOf pairs last = proxyPortOf pairs pair := by
      simpa using List.find?_some hlast
    obtain ⟨-, behind, front, hsplit, hbehind⟩ := List.find?_eq_some_iff_append.1 hlast
    have hpairs : pairs = front.reverse ++ last :: behind.reverse := by
      rw [← List.reverse_reverse pairs, hsplit]
      simp
    rcases proxyPortOf_eq_iff.1 hproxy with (rfl | ⟨-, -, hsame⟩) | htakes
    · rfl
    · exact hsame
    · -- a pair behind the last one would be the last one
      obtain ⟨again, hagain, hkeeps⟩ := h pair last _ _ hfirst hpairs htakes
      have hproxy' := proxyPortOf_eq_iff.2 (.inl hkeeps)
      have hnot := hbehind again (List.mem_reverse.1 hagain)
      simp [hproxy'] at hnot
  · intro h pair other before after hfirst hpairs htakes
    have hreverse : pairs.reverse = after.reverse ++ other :: before.reverse := by
      rw [hpairs]
      simp
    have hother := proxyPortOf_eq_iff.2 (.inr htakes)
    cases hafter : after.reverse.find? fun last =>
        proxyPortOf pairs last = proxyPortOf pairs pair with
    | none =>
      have hlast : pairs.reverse.find? (fun last =>
          proxyPortOf pairs last = proxyPortOf pairs pair) = some other := by
        rw [hreverse, List.find?_append, hafter, Option.none_or, List.find?_cons_of_pos]
        exact decide_eq_true hother
      exact absurd (h pair other hfirst hlast) htakes.ne
    | some last =>
      have hlast : pairs.reverse.find? (fun last =>
          proxyPortOf pairs last = proxyPortOf pairs pair) = some last := by
        rw [hreverse, List.find?_append, hafter, Option.some_or]
      have hproxy : proxyPortOf pairs last = proxyPortOf pairs pair := by
        simpa using List.find?_some hafter
      refine ⟨last, List.mem_reverse.1 (List.mem_of_find?_eq_some hafter), ?_⟩
      rcases proxyPortOf_eq_iff.1 hproxy with hkeeps | htakes'
      · exact hkeeps
      · exact absurd (h pair last hfirst hlast) htakes'.ne

end

variable {services : List (CachedClusterService Text)}

/-- A proxy port is taken back to the service port of the last pair with it. -/
theorem servicePortForProxy_sidecarTable
    (rs : RandomState (Sigma fun _ : UInt16 => ProxyPortRoute)) (q : UInt16) :
    (sidecarTable rs services).servicePortForProxy q =
      (((portPairs services).reverse.find? fun last =>
        proxyPortOf (portPairs services) last = q).map Prod.fst).getD q := by
  rw [RoutingTable.servicePortForProxy, sidecarTable, RoutingTable.setPortRoutes,
    HashTable.lookup_reseed, HashTable.lookup_collect, buildProxyRoutes_eq, List.map_map,
    ← List.map_reverse, List.find?_map, Option.map_map, Option.map_map]
  rfl

/-- A request for a port is sent to the proxy port of the first pair with its number. -/
theorem proxyPortFor_eq_some {port : Int} {route : ProxyPortRoute} :
    proxyPortFor (buildProxyRoutes (some services)) port = some route ↔
      ∃ pair, (portPairs services).find? (fun first => u16AsInt first.1 = port) = some pair ∧
        route = ⟨proxyPortOf (portPairs services) pair, pair.1, pair.2⟩ := by
  rw [proxyPortFor, buildProxyRoutes_eq, List.find?_map, Option.map_eq_some_iff]
  exact exists_congr fun pair => and_congr_right fun _ => eq_comm

theorem mem_portNumbers {service : CachedClusterService Text} {p : UInt16} :
    p ∈ service.portNumbers ↔ ∃ port ∈ service.ports, port.port = u16AsInt p := by
  rw [CachedClusterService.portNumbers, List.mem_filterMap]
  refine exists_congr fun port => and_congr_right fun _ => ?_
  constructor
  · exact fun h => (u16TryFrom_eq_some h).symm
  · rintro h
    rw [h, u16TryFrom_u16AsInt]

theorem portPairs_perm {routed : List (CachedClusterService Text)} (h : routed.Perm services) :
    (portPairs routed).Perm (portPairs services) :=
  h.flatMap_right _

/-- The map is empty only if there is no valid port. -/
theorem exists_config {branchEnvironmentId : Uuid} {p : UInt16} {name : String}
    (h : (branchServiceNames branchEnvironmentId services).lookup p = some name) :
    ∃ config, buildBranchServiceRouteConfigFromServices branchEnvironmentId services = some config ∧
      config.serviceNames = branchServiceNames branchEnvironmentId services := by
  refine ⟨_, if_neg fun hempty => ?_, rfl⟩
  rw [hempty] at h
  cases h

theorem serviceNames_of_config {branchEnvironmentId : Uuid} {config : ProxyBranchRouteConfig}
    (h : buildBranchServiceRouteConfigFromServices branchEnvironmentId services = some config) :
    config.serviceNames = branchServiceNames branchEnvironmentId services := by
  unfold buildBranchServiceRouteConfigFromServices at h
  dsimp only at h
  split at h
  · cases h
  · cases h
    rfl

/-- A service port of a list of pairs has a first pair. -/
theorem exists_first {pairs : List (UInt16 × UInt16)} {pair : UInt16 × UInt16}
    (h : pair ∈ pairs) :
    ∃ first, pairs.find? (fun other => other.1 = first.1) = some first ∧ first.1 = pair.1 := by
  cases hfind : pairs.find? fun other => other.1 = pair.1 with
  | none =>
    have := List.find?_eq_none.1 hfind pair h
    simp at this
  | some first =>
    have hsame : first.1 = pair.1 := by simpa using List.find?_some hfind
    exact ⟨first, by rw [hsame, hfind], hsame⟩

/-- The first pair of a number is the first one of its service port. -/
theorem find?_first {pairs : List (UInt16 × UInt16)} {pair : UInt16 × UInt16} {port : Int}
    (h : pairs.find? (fun first => u16AsInt first.1 = port) = some pair) :
    pairs.find? (fun first => first.1 = pair.1) = some pair := by
  have hnumber : u16AsInt pair.1 = port := by simpa using List.find?_some h
  have hsame : (fun first : UInt16 × UInt16 => decide (first.1 = pair.1)) =
      fun first => decide (u16AsInt first.1 = port) := by
    funext first
    rw [decide_eq_decide, ← hnumber]
    exact u16AsInt_injective.eq_iff.symm
  rw [hsame, h]

/-- Where proxy ports keep their service port, that of a first pair is taken back to it; and only
there. -/
theorem servicePortForProxy_of_keeps (hkeeps : KeepsServicePorts (portPairs services))
    {pair : UInt16 × UInt16}
    (hfirst : (portPairs services).find? (fun first => first.1 = pair.1) = some pair)
    (rs : RandomState (Sigma fun _ : UInt16 => ProxyPortRoute)) :
    (sidecarTable rs services).servicePortForProxy (proxyPortOf (portPairs services) pair) =
      pair.1 := by
  rw [servicePortForProxy_sidecarTable]
  cases hlast : (portPairs services).reverse.find? fun last =>
      proxyPortOf (portPairs services) last = proxyPortOf (portPairs services) pair with
  | none =>
    have := List.find?_eq_none.1 hlast pair
      (List.mem_reverse.2 (List.mem_of_find?_eq_some hfirst))
    simp at this
  | some pair' => exact hkeeps pair pair' hfirst hlast

variable {branchEnvironmentId : Uuid}

/-- Where services are preserved, the proxy port of the first pair of a port is taken back to the
port, and every service with the port has the name of the branch's route. -/
theorem PreservesBranchServices.arrives (h : PreservesBranchServices branchEnvironmentId services)
    {routed listed : List (CachedClusterService Text)} (hrouted : routed.Perm services)
    (hlisted : listed.Perm services) {service : CachedClusterService Text}
    (hservice : service ∈ services) {pair : UInt16 × UInt16} (hp : pair.1 ∈ service.portNumbers)
    (hfirst : (portPairs routed).find? (fun first => first.1 = pair.1) = some pair) :
    (sidecarTable (.identity _) routed).servicePortForProxy (proxyPortOf (portPairs routed) pair) =
        pair.1 ∧
      (branchServiceNames branchEnvironmentId listed).lookup pair.1 =
        some (branchServiceName branchEnvironmentId service.name) := by
  obtain ⟨port, hport, hnumber⟩ := mem_portNumbers.1 hp
  have hroute : proxyPortFor (buildProxyRoutes (some routed)) port.port =
      some ⟨proxyPortOf (portPairs routed) pair, pair.1, pair.2⟩ := by
    refine proxyPortFor_eq_some.2 ⟨pair, ?_, rfl⟩
    rw [hnumber, ← hfirst]
    simp only [u16AsInt_injective.eq_iff]
  obtain ⟨config, hconfig, harrived⟩ :=
    h routed listed hrouted hlisted service hservice port hport _ hroute
  -- a table that has the ports of `routed` and the branch's route of `listed`
  obtain ⟨hback, branchService, hresolve, hname⟩ := harrived (.identity _)
    ⟨HashTable.collect [(branchEnvironmentId, ⟨config.serviceRoute, .service⟩)], .«local»,
      (sidecarTable (.identity _) routed).portRoutes⟩ rfl (by simp [HashTable.collect])
  rw [hnumber] at hback
  have hback' := u16AsInt_injective hback
  refine ⟨hback', ?_⟩
  rw [hback', RoutingTable.resolveHttp, Option.bind_some, HashTable.lookup_collect] at hresolve
  have hroute' : config.serviceRoute = branchService := by simpa using hresolve
  rw [hback', ← hroute'] at hname
  rw [← serviceNames_of_config hconfig]
  exact hname

/-- Two services with one port are both named by the route that lists the second one last. -/
theorem PreservesBranchServices.oneServicePerPort
    (h : PreservesBranchServices branchEnvironmentId services) : OneServicePerPort services := by
  rintro service hservice service' hservice' p hp hp' ⟨pair, hpair, rfl⟩
  obtain ⟨first, hfirst, hsame⟩ := exists_first hpair
  rw [← hsame] at hp hp'
  obtain ⟨before, after, hsplit⟩ := List.append_of_mem hservice'
  have hlisted : (before ++ after ++ [service']).Perm services := by
    rw [hsplit, List.append_assoc]
    exact (List.perm_append_singleton service' after).append_left before
  have hnamed := (h.arrives (List.Perm.refl services) hlisted hservice hp hfirst).2
  rw [lookup_branchServiceNames_append, if_pos hp'] at hnamed
  exact (branchServiceName_injective branchEnvironmentId (Option.some.inj hnamed)).symm

theorem PreservesBranchServices.keepsServicePorts
    (h : PreservesBranchServices branchEnvironmentId services)
    {routed : List (CachedClusterService Text)} (hrouted : routed.Perm services) :
    KeepsServicePorts (portPairs routed) := by
  intro pair pair' hfirst hlast
  obtain ⟨service, hservice, port, hport, hpair⟩ :=
    mem_portPairs.1 (List.mem_of_find?_eq_some hfirst)
  have hp : pair.1 ∈ service.portNumbers :=
    mem_portNumbers.2 ⟨port, hport, (KubeServicePort.port_of_serviceAndTarget hpair).symm⟩
  have hback := (h.arrives hrouted (List.Perm.refl services) (hrouted.mem_iff.1 hservice) hp
    hfirst).1
  rw [servicePortForProxy_sidecarTable, hlast] at hback
  exact hback

/-- **Branch-side service preservation.** Requests of a branch reach the branch's copy of the
service they are for, exactly if services that share a port number have one name and in no order of
the services a proxy port is taken over by a pair of another service port. -/
theorem preservesBranchServices_iff (branchEnvironmentId : Uuid)
    (services : List (CachedClusterService Text)) :
    PreservesBranchServices branchEnvironmentId services ↔
      OneServicePerPort services ∧
        ∀ routed : List (CachedClusterService Text), routed.Perm services →
          NoTakeover (portPairs routed) := by
  constructor
  · exact fun h => ⟨h.oneServicePerPort, fun _ hrouted =>
      noTakeover_iff_keepsServicePorts.2 (h.keepsServicePorts hrouted)⟩
  · rintro ⟨hone, hkeeps⟩ routed listed hrouted hlisted service hservice port hport route hroute
    obtain ⟨pair, hfind, rfl⟩ := proxyPortFor_eq_some.1 hroute
    have hnumber : u16AsInt pair.1 = port.port := by simpa using List.find?_some hfind
    have hp : pair.1 ∈ service.portNumbers := mem_portNumbers.2 ⟨port, hport, hnumber.symm⟩
    obtain ⟨service', hservice', hp', hlookup⟩ :=
      exists_lookup_branchServiceNames (hlisted.mem_iff.2 hservice) hp
    have hpair : pair ∈ portPairs services :=
      (portPairs_perm hrouted).mem_iff.1 (List.mem_of_find?_eq_some hfind)
    have hname : service.name = service'.name :=
      hone service hservice service' (hlisted.mem_iff.1 hservice') pair.1 hp hp' ⟨pair, hpair, rfl⟩
    obtain ⟨config, hconfig, hnames⟩ := exists_config hlookup
    refine ⟨config, hconfig, fun rs table hports hbranch => ?_⟩
    have hback : table.servicePortForProxy (proxyPortOf (portPairs routed) pair) = pair.1 := by
      have htable : table.servicePortForProxy (proxyPortOf (portPairs routed) pair) =
          (sidecarTable rs routed).servicePortForProxy (proxyPortOf (portPairs routed) pair) := by
        rw [RoutingTable.servicePortForProxy, hports, RoutingTable.servicePortForProxy]
      rw [htable, servicePortForProxy_of_keeps
        (noTakeover_iff_keepsServicePorts.1 (hkeeps routed hrouted)) (find?_first hfind)]
    refine ⟨by rw [hback, hnumber], config.serviceRoute, ?_, ?_⟩
    · rw [RoutingTable.resolveHttp, Option.bind_some, hbranch]
      rfl
    · rw [hback, BranchServiceRoute.serviceNameForPort]
      change config.serviceNames.lookup pair.1 = _
      rw [hnames, hlookup, hname]

end

/-! ## Two services that share a port -/

/-- Of two services with port `80` and different targets, one is answered by the branch's copy of the
other. -/
theorem not_preservesBranchServices_shared_port :
    ¬PreservesBranchServices ⟨10⟩ [webService "web" 8080, webService "admin" 9090] := by
  intro h
  have hname := h.oneServicePerPort (webService "web" 8080) (by simp)
    (webService "admin" 9090) (by simp) 80 (by decide) (by decide) (by decide)
  exact absurd hname (by decide)

end Lapdev
