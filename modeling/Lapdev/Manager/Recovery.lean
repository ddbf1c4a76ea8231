import Lapdev.Manager.DevboxRoutes
import Lapdev.Sidecar.Decisions

/-!
# A sidecar that restarts

A sidecar that restarts boots with the port routes of its environment variable and an otherwise
empty table; on registration the manager pushes it the API's branch routes and replays the one
devbox route it remembers for the workload. `restart_recovers_iff` says in which reachable states
the sidecar then decides as it did before.
-/

namespace Lapdev

open RustStd Runs

/-- The table a sidecar boots with. Source: `kube-sidecar-proxy/src/server.rs`,
`SidecarProxyServer::new`. -/
def RoutingTable.boot (rs : RandomState (Sigma fun _ : UInt16 => ProxyPortRoute))
    (routes : List ProxyPortRoute) : RoutingTable :=
  RoutingTable.empty.setPortRoutes rs routes

/-- The service route `set_service_routes` gives a branch: the last config listed for it that has
service names. -/
def serviceRouteOf (routes : List ProxyBranchRouteConfig) (b : Uuid) : Option BranchServiceRoute :=
  ((SidecarProxyRpcServer.serviceUpdates routes).reverse.find? fun e => e.1 = b).map Prod.snd

namespace SidecarProxyRpcServer

/-! ## Handlers leave the port routes alone -/

section PortRoutes
variable (srv : SidecarProxyRpcServer)

/-- A devbox route leaves the port routes. -/
theorem portRoutes_setDevboxRoute (route : DevboxRouteConfig) :
    (srv.setDevboxRoute route).routingTable.portRoutes = srv.routingTable.portRoutes := by
  unfold setDevboxRoute
  split
  · rfl
  · cases route.branchEnvironmentId <;> rfl

/-- Stopping a devbox leaves them. -/
theorem portRoutes_stopDevbox (branch : Option Uuid) :
    (srv.stopDevbox branch).routingTable.portRoutes = srv.routingTable.portRoutes := by
  cases branch <;> rfl

/-- A branch route leaves them. -/
theorem portRoutes_upsertBranchServiceRoute (route : ProxyBranchRouteConfig) :
    (srv.upsertBranchServiceRoute route).routingTable.portRoutes =
      srv.routingTable.portRoutes := by
  have hupsert : ∀ service, (srv.routingTable.upsertBranchServiceRoute
      route.branchEnvironmentId service).portRoutes = srv.routingTable.portRoutes := by
    intro service
    unfold RoutingTable.upsertBranchServiceRoute
    split <;> rfl
  unfold upsertBranchServiceRoute
  split
  · rfl
  · cases route.devboxRoute <;> exact hupsert _

/-- The branch routes of a service leave them. -/
theorem portRoutes_setServiceRoutes (routes : List ProxyBranchRouteConfig) :
    (srv.setServiceRoutes routes).routingTable.portRoutes = srv.routingTable.portRoutes := by
  have hfold : ∀ (l : List (Uuid × DevboxConnection)) (t : RoutingTable),
      (l.foldl (fun t o => t.setBranchDevbox o.1 o.2) t).portRoutes = t.portRoutes := by
    intro l
    induction l with
    | nil => exact fun _ => rfl
    | cons o l ih => exact fun t => ih (t.setBranchDevbox o.1 o.2)
  exact hfold _ _

end PortRoutes

/-- A devbox route changes no branch's service. -/
theorem serviceFor_setDevboxRoute (srv : SidecarProxyRpcServer) (route : DevboxRouteConfig)
    (b : Uuid) :
    (srv.setDevboxRoute route).routingTable.serviceFor b = srv.routingTable.serviceFor b := by
  unfold setDevboxRoute
  split
  · rfl
  · cases route.branchEnvironmentId with
    | none => rfl
    | some b' => exact RoutingTable.serviceFor_setBranchDevbox _ _ _ _

end SidecarProxyRpcServer

namespace ProxySystem

/-! ## Port routes along a run -/

/-- Every sidecar has the port routes it had. -/
def SamePortRoutes (s s' : ProxySystem) : Prop :=
  ∀ c, (s'.tables c).portRoutes = (s.tables c).portRoutes

/-- The same tables have the same port routes. -/
theorem SamePortRoutes.of_tables {s s' : ProxySystem} (h : s'.tables = s.tables) :
    SamePortRoutes s s' := by
  intro c
  rw [h]

/-- Calls that leave the port routes, one after the other. -/
theorem SamePortRoutes.trans {s s' s'' : ProxySystem} (h : SamePortRoutes s s')
    (h' : SamePortRoutes s' s'') : SamePortRoutes s s'' :=
  fun c => (h' c).trans (h c)

/-- A call of a sidecar that leaves its port routes leaves those of all sidecars. -/
theorem samePortRoutes_call (s : ProxySystem) (client : SidecarProxyRpcClient)
    {rpc : SidecarProxyRpcServer → RpcOutcome}
    (h : ∀ srv, (rpc srv).routingTable.portRoutes = srv.routingTable.portRoutes) :
    SamePortRoutes s (s.call client rpc) := by
  intro c
  rw [call_tables]
  split
  · next hc => exact (h _).trans (by rw [hc]; rfl)
  · rfl

/-- So does a call of the latest connection of a workload. -/
theorem samePortRoutes_callLatest (s : ProxySystem) (env w : Uuid)
    {rpc : SidecarProxyRpcServer → RpcOutcome}
    (h : ∀ srv, (rpc srv).routingTable.portRoutes = srv.routingTable.portRoutes) :
    SamePortRoutes s (s.callLatest env w rpc) := by
  rw [callLatest_eq]
  split
  · exact .of_tables rfl
  · exact samePortRoutes_call s _ h

/-- So do calls of several sidecars. -/
theorem samePortRoutes_callEach (s : ProxySystem)
    {rpc : Uuid → SidecarProxyRpcServer → RpcOutcome}
    (h : ∀ w srv, (rpc w srv).routingTable.portRoutes = srv.routingTable.portRoutes)
    (l : List (Sigma fun _ : Uuid => SidecarProxyRpcClient)) :
    SamePortRoutes s (s.callEach rpc l) := by
  unfold callEach
  induction l generalizing s with
  | nil => exact .of_tables rfl
  | cons e rest ih => exact (samePortRoutes_call s e.2 (h e.1)).trans (ih _)

/-- Setting the service routes of an environment leaves all port routes. -/
theorem samePortRoutes_setServiceRoutes (s : ProxySystem)
    (rs : RandomState (Sigma fun _ : Uuid => SidecarProxyRpcClient)) (env : Uuid) :
    SamePortRoutes s (setServiceRoutesIfRegistered rs s env).1 := by
  simp only [setServiceRoutesIfRegistered]
  split
  · exact .of_tables rfl
  · split
    · exact .of_tables rfl
    · next connections _ _ clusterClient _ =>
      obtain ⟨done, rest, -, heq, -⟩ :=
        setServiceRoutesLoop_eq clusterClient env (connections.reseed rs).entries s
      rw [heq]
      refine samePortRoutes_callEach s (fun w srv => ?_) done
      unfold servicePush
      split
      · exact srv.portRoutes_setServiceRoutes _
      · rfl

/-- No call changes a sidecar's port routes. -/
theorem samePortRoutes_exec (s : ProxySystem) (call : ManagerCall) :
    SamePortRoutes s (call.exec s).1 := by
  cases call with
  | setDevboxRoute env route =>
    exact samePortRoutes_callLatest _ _ _ fun srv => srv.portRoutes_setDevboxRoute route
  | removeDevboxRoute env w b =>
    simp only [ManagerCall.exec, removeDevboxRoute]
    split
    · exact .of_tables rfl
    · exact samePortRoutes_callLatest _ _ _ fun srv => srv.portRoutes_stopDevbox b
  | setDevboxRoutes rs env routes =>
    simp only [ManagerCall.exec, setDevboxRoutes]
    split
    · exact .of_tables rfl
    · next connections _ =>
      rw [setDevboxRoutesLoop_eq _ _ _ (connections.reseed rs).nodupKeys]
      refine samePortRoutes_callEach _ (fun w srv => ?_) _
      unfold devboxPush
      split
      · exact srv.portRoutes_setDevboxRoute _
      · exact srv.portRoutes_stopDevbox _
  | clearDevboxRoutes rs env b =>
    simp only [ManagerCall.exec, clearDevboxRoutes]
    split
    · exact .of_tables rfl
    · next connections _ =>
      have hstop : ∀ (w : Uuid) (srv : SidecarProxyRpcServer),
          (srv.stopDevbox b).routingTable.portRoutes = srv.routingTable.portRoutes :=
        fun _ srv => srv.portRoutes_stopDevbox b
      exact samePortRoutes_callEach _ hstop (connections.reseed rs).entries
  | upsertBranchServiceRoute env w route =>
    exact samePortRoutes_callLatest _ _ _ fun srv => srv.portRoutes_upsertBranchServiceRoute route
  | removeBranchServiceRoute env w b =>
    exact samePortRoutes_callLatest _ _ _ fun _ => rfl
  | setServiceRoutesIfRegistered rs env => exact samePortRoutes_setServiceRoutes s rs env
  | registerSidecarProxy rs client =>
    have hsync : SamePortRoutes s (setServiceRoutesIfRegistered rs (s.fileSidecar client)
        client.environmentId).1 :=
      samePortRoutes_setServiceRoutes (s.fileSidecar client) rs client.environmentId
    simp only [ManagerCall.exec, registerSidecarProxy]
    split
    · exact hsync
    · refine hsync.trans ?_
      unfold replayDevboxRoute
      split
      · exact .of_tables rfl
      · exact samePortRoutes_callLatest _ _ _ fun srv => srv.portRoutes_setDevboxRoute _
  | handleDisconnect client gen => exact .of_tables rfl
  | setClusterRpcClient client => exact .of_tables rfl

/-- The system before the first call: a new manager, every sidecar as it boots with the port
routes of its workload. -/
def Booted (ports : Uuid → Uuid → List ProxyPortRoute) (s : ProxySystem) : Prop :=
  s.manager = .new ∧
    ∀ c, ∃ rs, s.tables c = RoutingTable.boot rs (ports c.environmentId c.workloadId)

/-- In a state that is reached before the counter wraps around, the registry is well formed, the
counter stands above the filed generations, and every sidecar has its workload's port routes. -/
theorem reachable_spec {ports : Uuid → Uuid → List ProxyPortRoute} {s : ProxySystem}
    (h : Reachable (Guarded Step NotWrapped) (Booted ports) s) :
    s.manager.WellFormed ∧ s.manager.CountsUp ∧ ∀ c, ∃ rs, (s.tables c).portRoutes =
      (RoutingTable.boot rs (ports c.environmentId c.workloadId)).portRoutes := by
  refine Reachable.invariant (fun s => s.manager.WellFormed ∧ s.manager.CountsUp ∧ ∀ c, ∃ rs,
    (s.tables c).portRoutes = (RoutingTable.boot rs (ports c.environmentId c.workloadId)).portRoutes)
    ?_ ?_ h
  · rintro s ⟨hm, ht⟩
    refine ⟨hm ▸ SidecarProxyManager.wellFormed_new, hm ▸ SidecarProxyManager.countsUp_new,
      fun c => ?_⟩
    obtain ⟨rs, hc⟩ := ht c
    exact ⟨rs, by rw [hc]⟩
  · rintro s call _ ⟨rfl, hcall⟩ ⟨hwf, hcounts, ht⟩
    refine ⟨wellFormed_exec hwf call, countsUp_exec hwf hcounts hcall, fun c => ?_⟩
    obtain ⟨rs, hc⟩ := ht c
    exact ⟨rs, (samePortRoutes_exec s call c).trans hc⟩

/-! ## Registration -/

section Registration
variable (s : ProxySystem) (rs : RandomState (Sigma fun _ : Uuid => SidecarProxyRpcClient))
  (c : SidecarProxyRpcClient) {clusterClient : KubeClusterRpcClient}

/-- Registration succeeds where the API answers for the sidecar's workload and for every workload
of its environment that has a connection. -/
theorem registerSidecarProxy_ok
    (hbelow : ∀ gen ∈ s.manager.clients c.environmentId c.workloadId,
      gen < s.manager.generationCounter)
    (hcluster : s.manager.kubeClusterRpcClient = some clusterClient)
    (hself : ∃ routes,
      clusterClient.listBranchServiceRoutes c.environmentId c.workloadId = .ok routes)
    (hanswers : ∀ w, s.manager.latestClient c.environmentId w ≠ none →
      ∃ routes, clusterClient.listBranchServiceRoutes c.environmentId w = .ok routes) :
    (registerSidecarProxy rs s c).2 = .ok () := by
  have hsync : (setServiceRoutesIfRegistered rs (s.fileSidecar c) c.environmentId).2 = .ok () := by
    refine setServiceRoutesIfRegistered_ok _ rs hcluster fun w hw => ?_
    rw [fileSidecar, s.manager.latestClient_registerSidecar hbelow] at hw
    split at hw
    · next heq => exact heq.2 ▸ hself
    · exact hanswers w hw
  simp only [registerSidecarProxy, hsync]

/-- The table of a sidecar that registers: the API's branch routes, then the remembered devbox
route. -/
theorem registerSidecarProxy_table (hwf : s.manager.WellFormed)
    (hbelow : ∀ gen ∈ s.manager.clients c.environmentId c.workloadId,
      gen < s.manager.generationCounter)
    (hcluster : s.manager.kubeClusterRpcClient = some clusterClient)
    {routes : List ProxyBranchRouteConfig}
    (hroutes : clusterClient.listBranchServiceRoutes c.environmentId c.workloadId = .ok routes)
    (hok : (registerSidecarProxy rs s c).2 = .ok ()) :
    (registerSidecarProxy rs s c).1.tables c =
      match s.manager.devboxRouteForWorkload c.environmentId c.workloadId with
      | none => ((s.server c).setServiceRoutes routes).routingTable
      | some route => (SidecarProxyRpcServer.setDevboxRoute
          ⟨c.workloadId, c.environmentId, ((s.server c).setServiceRoutes routes).routingTable⟩
          route).routingTable := by
  have hlatest : (s.fileSidecar c).manager.latestClient c.environmentId c.workloadId = some c := by
    rw [fileSidecar, s.manager.latestClient_registerSidecar hbelow, if_pos ⟨rfl, rfl⟩]
  have hmanager := setServiceRoutesIfRegistered_manager (s.fileSidecar c) rs c.environmentId
  have hremembered : (s.fileSidecar c).manager.devboxRouteForWorkload c.environmentId c.workloadId =
      s.manager.devboxRouteForWorkload c.environmentId c.workloadId := rfl
  simp only [registerSidecarProxy] at hok ⊢
  cases hsync : (setServiceRoutesIfRegistered rs (s.fileSidecar c) c.environmentId).2 with
  | error err => simp [hsync] at hok
  | ok =>
    have htable := setServiceRoutesIfRegistered_tables (s.fileSidecar c) rs
      (hwf.registerSidecar c) hcluster hsync c
    simp only [servicePush, hroutes, hlatest, if_true] at htable
    simp only [replayDevboxRoute, hmanager, hremembered]
    cases s.manager.devboxRouteForWorkload c.environmentId c.workloadId with
    | none => exact htable
    | some route =>
      simp only [callLatest_tables, hmanager, hlatest, if_true, server, htable]
      rfl

end Registration

/-! ## Restart -/

/-- The sidecar behind `client` dies and boots again as `process`, with the port routes `ports`;
the manager may have noticed the old connection's end (of generation `gone`) or not. -/
def restart (s : ProxySystem) (client : SidecarProxyRpcClient) (gone : Option Nat) (process : Nat)
    (rs : RandomState (Sigma fun _ : UInt16 => ProxyPortRoute)) (ports : List ProxyPortRoute) :
    ProxySystem where
  manager := match gone with
    | some generation => (s.handleDisconnect client generation).manager
    | none => s.manager
  tables := Function.update s.tables { client with process } (.boot rs ports)

/-- The devbox that a replay of the remembered route gives a key of the sidecar: that of an
accepted route under its own key, none under any other. -/
def replayedDevbox (s : ProxySystem) (client : SidecarProxyRpcClient) (key : Option Uuid) :
    Option DevboxConnection :=
  (s.manager.devboxRouteForWorkload client.environmentId client.workloadId).bind fun route =>
    if key = route.branchEnvironmentId ∧ (s.server client).Accepts route then
      some ((s.server client).connectionOf route)
    else none

section Restart
variable {s : ProxySystem} {client : SidecarProxyRpcClient} (gone : Option Nat) (process : Nat)
  (rs : RandomState (Sigma fun _ : UInt16 => ProxyPortRoute))
  (rs' : RandomState (Sigma fun _ : Uuid => SidecarProxyRpcClient)) (ports : List ProxyPortRoute)
  {clusterClient : KubeClusterRpcClient} {routes : List ProxyBranchRouteConfig}

/-- A restart keeps the manager well formed. -/
theorem restart_wellFormed (hwf : s.manager.WellFormed) :
    (s.restart client gone process rs ports).manager.WellFormed := by
  cases gone with
  | none => exact hwf
  | some generation => exact hwf.removeSidecar _ _ generation

/-- The restart neither counts nor files a connection. -/
theorem restart_below {env w : Uuid}
    (h : ∀ gen ∈ s.manager.clients env w, gen < s.manager.generationCounter) :
    ∀ gen ∈ (s.restart client gone process rs ports).manager.clients env w,
      gen < (s.restart client gone process rs ports).manager.generationCounter := by
  cases gone with
  | none => exact h
  | some generation =>
    intro gen hgen
    simp only [restart, handleDisconnect] at hgen ⊢
    rw [SidecarProxyManager.generationCounter_removeSidecar]
    rw [SidecarProxyManager.clients_removeSidecar] at hgen
    split at hgen
    · next heq =>
      rw [← heq.1, ← heq.2] at hgen
      exact h gen (AList.mem_erase.1 hgen).2
    · exact h gen hgen

/-- A restart keeps the devbox routes that are remembered. -/
theorem restart_remembered (env w : Uuid) :
    (s.restart client gone process rs ports).manager.devboxRouteForWorkload env w =
      s.manager.devboxRouteForWorkload env w := by
  cases gone with
  | none => rfl
  | some generation =>
    simp only [restart, handleDisconnect, SidecarProxyManager.removeSidecar]
    split
    · rfl
    · split <;> rfl

/-- A restart keeps the connection to the API. -/
theorem restart_kubeClusterRpcClient :
    (s.restart client gone process rs ports).manager.kubeClusterRpcClient =
      s.manager.kubeClusterRpcClient := by
  cases gone with
  | none => rfl
  | some generation =>
    simp only [restart, handleDisconnect, SidecarProxyManager.removeSidecar]
    split
    · rfl
    · split <;> rfl

/-- The restart takes no connection away from another workload. -/
theorem restart_latestClient {w : Uuid} (hw : w ≠ client.workloadId) :
    (s.restart client gone process rs ports).manager.latestClient client.environmentId w =
      s.manager.latestClient client.environmentId w := by
  cases gone with
  | none => rfl
  | some generation =>
    simp only [restart, handleDisconnect, SidecarProxyManager.latestClient]
    rw [SidecarProxyManager.clients_removeSidecar, if_neg fun h => hw h.2]

/-- The restarted sidecar registers successfully where the API answers for every workload of the
environment that has a connection. -/
theorem register_restart_ok
    (hbelow : ∀ gen ∈ s.manager.clients client.environmentId client.workloadId,
      gen < s.manager.generationCounter)
    (hcluster : s.manager.kubeClusterRpcClient = some clusterClient)
    (hroutes : clusterClient.listBranchServiceRoutes client.environmentId client.workloadId =
      .ok routes)
    (hanswers : ∀ w, s.manager.latestClient client.environmentId w ≠ none →
      ∃ routes, clusterClient.listBranchServiceRoutes client.environmentId w = .ok routes) :
    (registerSidecarProxy rs' (s.restart client gone process rs ports)
      { client with process }).2 = .ok () := by
  refine registerSidecarProxy_ok _ rs' _ (restart_below gone process rs ports hbelow)
    ((restart_kubeClusterRpcClient gone process rs ports).trans hcluster) ⟨routes, hroutes⟩
    fun w hw => ?_
  by_cases heq : w = client.workloadId
  · rw [heq]
    exact ⟨routes, hroutes⟩
  · rw [restart_latestClient gone process rs ports heq] at hw
    exact hanswers w hw

/-- The table of a restarted sidecar once it has registered: the API's services, the replayed
devbox, the booted port routes. -/
theorem register_restart_table (hwf : s.manager.WellFormed)
    (hbelow : ∀ gen ∈ s.manager.clients client.environmentId client.workloadId,
      gen < s.manager.generationCounter)
    (hcluster : s.manager.kubeClusterRpcClient = some clusterClient)
    (hroutes : clusterClient.listBranchServiceRoutes client.environmentId client.workloadId =
      .ok routes)
    (hsame : ∀ b, serviceRouteOf routes b = (s.tables client).serviceFor b)
    (hok : (registerSidecarProxy rs' (s.restart client gone process rs ports)
      { client with process }).2 = .ok ()) :
    let t := (registerSidecarProxy rs' (s.restart client gone process rs ports)
      { client with process }).1.tables { client with process }
    (∀ b, t.serviceFor b = (s.tables client).serviceFor b) ∧
      (∀ key, t.devboxFor key = s.replayedDevbox client key) ∧
      t.portRoutes = (RoutingTable.boot rs ports).portRoutes := by
  set s₁ := s.restart client gone process rs ports with hs₁
  have htable := registerSidecarProxy_table s₁ rs' { client with process }
    (restart_wellFormed gone process rs ports hwf) (restart_below gone process rs ports hbelow)
    ((restart_kubeClusterRpcClient gone process rs ports).trans hcluster) hroutes hok
  have hboot : s₁.tables { client with process } = .boot rs ports := by simp [hs₁, restart]
  -- the table after the API's routes have arrived
  have hpushed : ((s₁.server { client with process }).setServiceRoutes routes).routingTable =
      (RoutingTable.boot rs ports).replaceBranchRoutes
        (SidecarProxyRpcServer.serviceUpdates routes) := by
    rw [SidecarProxyRpcServer.setServiceRoutes_routingTable _
      (clusterClient.devboxRoute_eq_none hroutes)]
    simp only [server, hboot]
  set pushed := (RoutingTable.boot rs ports).replaceBranchRoutes
    (SidecarProxyRpcServer.serviceUpdates routes) with hpushedDef
  have hservice : ∀ b, pushed.serviceFor b = (s.tables client).serviceFor b := fun b =>
    (RoutingTable.serviceFor_replaceBranchRoutes _ _ _).trans (hsame b)
  have hdevbox : ∀ key, pushed.devboxFor key = none := by
    intro key
    cases key with
    | none => rfl
    | some b =>
      refine RoutingTable.devboxFor_replaceBranchRoutes_of_none _ _ (fun b => ?_) b
      simp [RoutingTable.boot, RoutingTable.setPortRoutes, RoutingTable.empty,
        RoutingTable.devboxFor]
  have hports : pushed.portRoutes = (RoutingTable.boot rs ports).portRoutes := rfl
  have hremembered : s₁.manager.devboxRouteForWorkload client.environmentId client.workloadId =
      s.manager.devboxRouteForWorkload client.environmentId client.workloadId :=
    restart_remembered gone process rs ports _ _
  rw [hremembered, hpushed] at htable
  unfold replayedDevbox
  cases hr : s.manager.devboxRouteForWorkload client.environmentId client.workloadId with
  | none =>
    rw [hr] at htable
    dsimp only
    rw [htable]
    exact ⟨hservice, hdevbox, hports⟩
  | some route =>
    rw [hr] at htable
    dsimp only
    rw [htable]
    refine ⟨fun b => ?_, fun key => ?_, ?_⟩
    · rw [SidecarProxyRpcServer.serviceFor_setDevboxRoute]
      exact hservice b
    · -- the same branches are known, so the route is accepted as before
      have haccepts : SidecarProxyRpcServer.Accepts
          ⟨client.workloadId, client.environmentId, pushed⟩ route ↔
            (s.server client).Accepts route := by
        simp only [SidecarProxyRpcServer.Accepts, RoutingTable.mem_branchRoutes_iff, hservice, server]
      rw [SidecarProxyRpcServer.devboxFor_setDevboxRoute, hdevbox]
      simp only [haccepts]
      rfl
    · rw [SidecarProxyRpcServer.portRoutes_setDevboxRoute]
      exact hports

end Restart

/-- **Restart recovery.** In every reachable state in which the API answers for the environment's
connected workloads and lists for this one the branch services its sidecar has, the sidecar
decides after every restart as it did before exactly when its devboxes are the one the manager's
remembered route replays, and, without a default devbox, its port routes are unambiguous. This is
as long as the counter of generations has not wrapped around. -/
theorem restart_recovers_iff {ports : Uuid → Uuid → List ProxyPortRoute} {s : ProxySystem}
    (hreach : Reachable (Guarded Step NotWrapped) (Booted ports) s)
    (hcounter : s.manager.generationCounter ≠ 0) {env w : Uuid} {client : SidecarProxyRpcClient}
    (hclient : s.manager.latestClient env w = some client)
    {clusterClient : KubeClusterRpcClient}
    (hcluster : s.manager.kubeClusterRpcClient = some clusterClient)
    (hanswers : ∀ w', s.manager.latestClient env w' ≠ none →
      ∃ routes, clusterClient.listBranchServiceRoutes env w' = .ok routes)
    (hsame : ∀ routes, clusterClient.listBranchServiceRoutes env w = .ok routes →
      ∀ b, serviceRouteOf routes b = (s.tables client).serviceFor b) :
    (∀ gone process rs rs',
      (registerSidecarProxy rs' (s.restart client gone process rs (ports env w))
        { client with process }).2 = .ok () →
      RoutingTable.SameDecisions (s.tables client)
        ((registerSidecarProxy rs' (s.restart client gone process rs (ports env w))
          { client with process }).1.tables { client with process })) ↔
    (∀ key, (s.tables client).devboxFor key = s.replayedDevbox client key) ∧
      ((s.tables client).HoldsNoDevbox none → (s.tables client).UnambiguousPorts) := by
  obtain ⟨hwf, hcounts, hports⟩ := reachable_spec hreach
  have hbelow := hcounts.resolve_left hcounter
  obtain ⟨rfl, rfl⟩ := hwf.announced_latestClient hclient
  obtain ⟨routes, hroutes⟩ := hanswers _ (hclient ▸ Option.some_ne_none _)
  obtain ⟨rs₀, hrs₀⟩ := hports client
  -- one restart, spelled out through the two observations the decisions depend on
  have hone : ∀ gone process rs rs',
      (registerSidecarProxy rs' (s.restart client gone process rs
        (ports client.environmentId client.workloadId)) { client with process }).2 = .ok () ∧
      (RoutingTable.SameDecisions (s.tables client)
        ((registerSidecarProxy rs' (s.restart client gone process rs
          (ports client.environmentId client.workloadId)) { client with process }).1.tables
            { client with process }) ↔
        (∀ key, (s.tables client).devboxFor key = s.replayedDevbox client key) ∧
          ((s.tables client).HoldsNoDevbox none → ∀ port,
            (RoutingTable.boot rs (ports client.environmentId
              client.workloadId)).targetPortForService port =
              (s.tables client).targetPortForService port)) := by
    intro gone process rs rs'
    have hok := register_restart_ok gone process rs rs'
      (ports client.environmentId client.workloadId) (hbelow _ _) hcluster hroutes hanswers
    obtain ⟨hservice, hdevbox, hport⟩ := register_restart_table gone process rs rs'
      (ports client.environmentId client.workloadId) hwf (hbelow _ _) hcluster hroutes
      (hsame routes hroutes) hok
    refine ⟨hok, ?_⟩
    rw [RoutingTable.sameDecisions_iff hservice, RoutingTable.holdsNoDevbox_iff]
    simp only [hdevbox, RoutingTable.targetPortForService, hport]
    refine and_congr_left fun _ => forall_congr' fun key => eq_comm
  have hlookup : ∀ p, (s.tables client).portRoutes.lookup p =
      (HashTable.collect ((ports client.environmentId client.workloadId).map fun route =>
        (route.proxyPort, route))).lookup p := fun p => by
    rw [hrs₀]
    exact HashTable.lookup_reseed _ _ _
  constructor
  · intro hall
    have hboot := fun rs => ((hone none 0 rs (.identity _)).2.1
      (hall none 0 rs (.identity _) (hone none 0 rs (.identity _)).1))
    refine ⟨(hboot (.identity _)).1, fun hnone => ?_⟩
    refine RoutingTable.unambiguousPorts_of_forall_seed hlookup fun rs t' ht' port => ?_
    rw [← (hboot rs).2 hnone port]
    simp only [RoutingTable.targetPortForService, ht']
    rfl
  · rintro ⟨hdevbox, hunambiguous⟩ gone process rs rs' -
    refine (hone gone process rs rs').2.2 ⟨hdevbox, fun hnone port => ?_⟩
    have hsame : ∀ p, (RoutingTable.boot rs (ports client.environmentId
        client.workloadId)).portRoutes.lookup p = (s.tables client).portRoutes.lookup p :=
      fun p => (HashTable.lookup_reseed _ _ _).trans (hlookup p).symm
    exact RoutingTable.UnambiguousPorts.targetPort_congr (hunambiguous hnone) hsame port

/-! ## The workload with two branches, restarted -/

/-- The state is reached from a fresh manager and sidecars without port routes. -/
theorem webRegistered_reachable :
    Reachable (Guarded Step NotWrapped) (Booted fun _ _ => []) webRegistered := by
  refine ⟨⟨.new, fun _ => .empty⟩, [.setClusterRpcClient (some twoBranches),
    .registerSidecarProxy (.identity _) webSidecar], ⟨rfl, fun c => ⟨.identity _, rfl⟩⟩, ?_⟩
  exact .cons ⟨rfl, trivial⟩ <| .cons ⟨rfl, Nat.one_ne_zero⟩ .nil

/-- The sidecar's branch services are those the API lists. -/
theorem webRegistered_serviceFor (routes : List ProxyBranchRouteConfig)
    (hroutes : twoBranches.listBranchServiceRoutes 1 2 = .ok routes) (b : Uuid) :
    serviceRouteOf routes b = (webRegistered.tables webSidecar).serviceFor b := by
  let s₀ : ProxySystem := ⟨{ SidecarProxyManager.new with
    kubeClusterRpcClient := some twoBranches }, fun _ => .empty⟩
  have hnone : ∀ gen ∈ s₀.manager.clients 1 2, gen < s₀.manager.generationCounter := by
    intro gen hgen
    exact absurd hgen (AList.notMem_empty gen)
  have htable := registerSidecarProxy_table s₀ (.identity _) webSidecar
    (SidecarProxyManager.wellFormed_new.congr rfl rfl) hnone rfl hroutes rfl
  have hpushed : (webRegistered.tables webSidecar) =
      ((s₀.server webSidecar).setServiceRoutes routes).routingTable := htable
  rw [hpushed, SidecarProxyRpcServer.setServiceRoutes_routingTable _
    (twoBranches.devboxRoute_eq_none hroutes), RoutingTable.serviceFor_replaceBranchRoutes]
  rfl

/-- A sidecar with the devboxes of two branches has, once restarted and registered, only the
second. -/
theorem restart_loses_devbox :
    let s := webRegistered.execAll [.setDevboxRoute 1 (devboxRouteOf 2 (some 10)),
      .setDevboxRoute 1 (devboxRouteOf 2 (some 11))]
    let restarted := registerSidecarProxy (.identity _)
      (s.restart webSidecar (some 1) 1 (.identity _) []) { webSidecar with process := 1 }
    (∀ routes, twoBranches.listBranchServiceRoutes 1 2 = .ok routes → ∀ b,
      serviceRouteOf routes b = (s.tables webSidecar).serviceFor b) ∧
    restarted.2 = .ok () ∧
    (restarted.1.tables { webSidecar with process := 1 }).resolveHttp 80 (some 10) ≠
      (s.tables webSidecar).resolveHttp 80 (some 10) := by
  refine ⟨fun routes hroutes b => ?_, by decide, by decide⟩
  rw [webRegistered_serviceFor routes hroutes]
  -- setting devboxes changes no service
  have hset : ∀ (s : ProxySystem) (route : DevboxRouteConfig),
      ((s.setDevboxRoute 1 route).tables webSidecar).serviceFor b =
        (s.tables webSidecar).serviceFor b := by
    intro s route
    rw [setDevboxRoute_tables]
    split
    · exact SidecarProxyRpcServer.serviceFor_setDevboxRoute _ _ _
    · rfl
  change _ = (((webRegistered.setDevboxRoute 1 (devboxRouteOf 2 (some 10))).setDevboxRoute 1
    (devboxRouteOf 2 (some 11))).tables webSidecar).serviceFor b
  rw [hset, hset]

/-- Without any devbox the restarted sidecar decides as before. -/
theorem restart_recovers_webRegistered :
    RoutingTable.SameDecisions (webRegistered.tables webSidecar)
      ((registerSidecarProxy (.identity _)
        (webRegistered.restart webSidecar none 1 (.identity _) [])
        { webSidecar with process := 1 }).1.tables { webSidecar with process := 1 }) := by
  refine (restart_recovers_iff webRegistered_reachable (by decide) (w := 2) (by decide) rfl
    (fun _ _ => ⟨_, rfl⟩) webRegistered_serviceFor).2 ⟨fun key => ?_, fun _ => ?_⟩
    none 1 (.identity _) (.identity _) (by decide)
  · exact (RoutingTable.holdsNoDevbox_iff _ _).1 (webRegistered_holdsNoDevbox key)
  · have hempty : (webRegistered.tables webSidecar).portRoutes.entries = [] := rfl
    intro p p' r r' hr
    rw [HashTable.lookup_of_entries_eq_nil hempty] at hr
    cases hr

end ProxySystem
end Lapdev
