import Lapdev.Logic.Run
import Lapdev.Manager.Registry

/-!
# The sidecar proxy manager and its sidecars

`ProxySystem` is the manager of `kube-manager/src/sidecar_proxy_manager.rs` together with the
routing tables of all sidecar processes. The manager's operations push RPCs to the latest
connection of each workload; an RPC is always delivered, so the transport errors of the source do
not arise and the only error left is the API server's.

Every operation is described by two observations of the state after it: the route the manager
remembers for a workload, and the table of a sidecar. `ManagerCall` collects the operations and
`Step` the transitions of the system, for the runs the later modules reason about.
-/

namespace Lapdev

open RustStd Runs

/-- The manager and the routing tables of the sidecar processes its connections lead to. -/
structure ProxySystem where
  manager : SidecarProxyManager
  tables : SidecarProxyRpcClient → RoutingTable

/-- The error of `set_service_routes_if_registered`: "API rejected route request for environment
{} workload {}: {}". -/
structure ApiRejected where
  environmentId : Uuid
  workloadId : Uuid
  err : String
  deriving DecidableEq

namespace ProxySystem

/-- The RPC server at the other end of a connection. -/
def server (s : ProxySystem) (client : SidecarProxyRpcClient) : SidecarProxyRpcServer :=
  ⟨client.workloadId, client.environmentId, s.tables client⟩

/-- A delivered RPC: the server's table changes, nothing else. -/
def call (s : ProxySystem) (client : SidecarProxyRpcClient)
    (rpc : SidecarProxyRpcServer → RpcOutcome) : ProxySystem :=
  { s with tables := Function.update s.tables client (rpc (s.server client)).routingTable }

/-- An RPC to the latest connection of a workload, or nothing where none is registered. -/
def callLatest (s : ProxySystem) (environmentId workloadId : Uuid)
    (rpc : SidecarProxyRpcServer → RpcOutcome) : ProxySystem :=
  match s.manager.latestClientsForEnvironment environmentId with
  | none => s
  | some connections =>
    match connections.lookup workloadId with
    | none => s
    | some client => s.call client rpc

/-! ## Operations on devbox routes -/

/-- Source: `sidecar_proxy_manager.rs`, `set_devbox_route`. -/
def setDevboxRoute (s : ProxySystem) (environmentId : Uuid) (route : DevboxRouteConfig) :
    ProxySystem :=
  { s with manager := s.manager.upsertDevboxRouteSnapshot environmentId route }.callLatest
    environmentId route.workloadId (·.setDevboxRoute route)

/-- Source: `sidecar_proxy_manager.rs`, `remove_devbox_route`. -/
def removeDevboxRoute (s : ProxySystem) (environmentId workloadId : Uuid)
    (branchEnvironmentId : Option Uuid) : ProxySystem :=
  let removal := s.manager.removeDevboxRouteSnapshot environmentId workloadId branchEnvironmentId
  let s := { s with manager := removal.2 }
  if !removal.1 then s
  else s.callLatest environmentId workloadId (·.stopDevbox branchEnvironmentId)

/-- The loop of `set_devbox_routes` over the latest clients. -/
def setDevboxRoutesLoop (previousRoutes : HashTable Uuid DevboxRouteConfig) :
    List (Sigma fun _ : Uuid => SidecarProxyRpcClient) → HashTable Uuid DevboxRouteConfig →
    ProxySystem → ProxySystem
  | [], _, s => s
  | ⟨workloadId, client⟩ :: rest, routes, s =>
    match routes.lookup workloadId with
    | some route =>
      setDevboxRoutesLoop previousRoutes rest (routes.erase workloadId)
        (s.call client (·.setDevboxRoute route))
    | none =>
      let priorBranch := (previousRoutes.lookup workloadId).bind (·.branchEnvironmentId)
      setDevboxRoutesLoop previousRoutes rest routes (s.call client (·.stopDevbox priorBranch))

/-- Source: `sidecar_proxy_manager.rs`, `set_devbox_routes`. The seed orders the walk. -/
def setDevboxRoutes (rs : RandomState (Sigma fun _ : Uuid => SidecarProxyRpcClient))
    (s : ProxySystem) (environmentId : Uuid) (routes : HashTable Uuid DevboxRouteConfig) :
    ProxySystem :=
  let snapshot := s.manager.snapshotDevboxRoutesForEnvironment environmentId routes
  let s := { s with manager := snapshot.2 }
  match s.manager.latestClientsForEnvironment environmentId with
  | none => s
  | some connections =>
    setDevboxRoutesLoop snapshot.1 (connections.reseed rs).entries routes s

/-- Source: `sidecar_proxy_manager.rs`, `clear_devbox_routes`. -/
def clearDevboxRoutes (rs : RandomState (Sigma fun _ : Uuid => SidecarProxyRpcClient))
    (s : ProxySystem) (environmentId : Uuid) (branchEnvironmentId : Option Uuid) : ProxySystem :=
  let s := { s with manager :=
    s.manager.pruneDevboxRouteSnapshot environmentId branchEnvironmentId }
  match s.manager.latestClientsForEnvironment environmentId with
  | none => s
  | some connections =>
    (connections.reseed rs).entries.foldl
      (fun s e => s.call e.2 (·.stopDevbox branchEnvironmentId)) s

/-- Source: `sidecar_proxy_manager.rs`, `replay_devbox_route`. -/
def replayDevboxRoute (s : ProxySystem) (environmentId workloadId : Uuid) : ProxySystem :=
  match s.manager.devboxRouteForWorkload environmentId workloadId with
  | none => s
  | some route => s.callLatest environmentId workloadId (·.setDevboxRoute route)

/-! ## Operations on branch service routes -/

/-- Source: `sidecar_proxy_manager.rs`, `upsert_branch_service_route`. -/
def upsertBranchServiceRoute (s : ProxySystem) (baseEnvironmentId workloadId : Uuid)
    (route : ProxyBranchRouteConfig) : ProxySystem :=
  s.callLatest baseEnvironmentId workloadId (·.upsertBranchServiceRoute route)

/-- Source: `sidecar_proxy_manager.rs`, `remove_branch_service_route`. -/
def removeBranchServiceRoute (s : ProxySystem) (baseEnvironmentId workloadId : Uuid)
    (branchEnvironmentId : Uuid) : ProxySystem :=
  s.callLatest baseEnvironmentId workloadId (·.removeBranchServiceRoute branchEnvironmentId)

/-- The loop of `set_service_routes_if_registered`: the API's first refusal ends it. -/
def setServiceRoutesLoop (clusterClient : KubeClusterRpcClient) (environmentId : Uuid) :
    List (Sigma fun _ : Uuid => SidecarProxyRpcClient) → ProxySystem →
    ProxySystem × Except ApiRejected Unit
  | [], s => (s, .ok ())
  | ⟨workloadId, client⟩ :: rest, s =>
    match clusterClient.listBranchServiceRoutes environmentId workloadId with
    | .error err => (s, .error ⟨environmentId, workloadId, err⟩)
    | .ok routes =>
      setServiceRoutesLoop clusterClient environmentId rest
        (s.call client (·.setServiceRoutes routes))

/-- Source: `sidecar_proxy_manager.rs`, `set_service_routes_if_registered`. -/
def setServiceRoutesIfRegistered (rs : RandomState (Sigma fun _ : Uuid => SidecarProxyRpcClient))
    (s : ProxySystem) (environmentId : Uuid) : ProxySystem × Except ApiRejected Unit :=
  match s.manager.latestClientsForEnvironment environmentId with
  | none => (s, .ok ())
  | some connections =>
    match s.manager.kubeClusterRpcClient with
    | none => (s, .ok ())
    | some clusterClient =>
      setServiceRoutesLoop clusterClient environmentId (connections.reseed rs).entries s

/-! ## Connections coming and going -/

/-- The call of `register_sidecar` by the sidecar behind `client`. -/
def fileSidecar (s : ProxySystem) (client : SidecarProxyRpcClient) : ProxySystem :=
  { s with manager :=
      (s.manager.registerSidecar client.environmentId client.workloadId client).2 }

/-- Source: `sidecar_proxy_manager_rpc.rs`, `register_sidecar_proxy`, as called by the sidecar
behind `client`. A failed replay is only logged, and `replay_devbox_route` has no failure here. -/
def registerSidecarProxy (rs : RandomState (Sigma fun _ : Uuid => SidecarProxyRpcClient))
    (s : ProxySystem) (client : SidecarProxyRpcClient) : ProxySystem × Except ApiRejected Unit :=
  let synced := setServiceRoutesIfRegistered rs (s.fileSidecar client) client.environmentId
  match synced.2 with
  | .error err => (synced.1, .error err)
  | .ok () => (synced.1.replayDevboxRoute client.environmentId client.workloadId, .ok ())

/-- Source: `sidecar_proxy_manager_rpc.rs`, `handle_disconnect` of a connection that registered
with the generation `generation`. -/
def handleDisconnect (s : ProxySystem) (client : SidecarProxyRpcClient) (generation : Nat) :
    ProxySystem :=
  { s with manager :=
      s.manager.removeSidecar client.environmentId client.workloadId generation }

/-- Source: `sidecar_proxy_manager.rs`, `set_cluster_rpc_client` and `clear_cluster_rpc_client`. A
new client also stands for the API's answers having changed. -/
def setClusterRpcClient (s : ProxySystem) (client : Option KubeClusterRpcClient) : ProxySystem :=
  { s with manager := { s.manager with kubeClusterRpcClient := client } }

/-! ## What a call to the latest connection does -/

section Spec
variable (s : ProxySystem)

@[simp] theorem call_manager (client : SidecarProxyRpcClient)
    (rpc : SidecarProxyRpcServer → RpcOutcome) : (s.call client rpc).manager = s.manager := rfl

/-- A call changes the table of its sidecar only. -/
theorem call_tables (client c : SidecarProxyRpcClient)
    (rpc : SidecarProxyRpcServer → RpcOutcome) :
    (s.call client rpc).tables c =
      if c = client then (rpc (s.server client)).routingTable else s.tables c := by
  unfold call
  by_cases h : c = client
  · subst h
    simp
  · simp [h]

/-- `callLatest` reads the registry only through `latestClient`. -/
theorem callLatest_eq (env w : Uuid) (rpc : SidecarProxyRpcServer → RpcOutcome) :
    s.callLatest env w rpc =
      match s.manager.latestClient env w with
      | none => s
      | some client => s.call client rpc := by
  rw [← SidecarProxyManager.lookup_latestClientsForEnvironment]
  unfold callLatest
  cases s.manager.latestClientsForEnvironment env with
  | none => rfl
  | some connections => cases h : connections.lookup w <;> simp [h]

@[simp] theorem callLatest_manager (env w : Uuid) (rpc : SidecarProxyRpcServer → RpcOutcome) :
    (s.callLatest env w rpc).manager = s.manager := by
  rw [callLatest_eq]
  split <;> rfl

/-- A call of the latest connection changes the table of that sidecar only. -/
theorem callLatest_tables (env w : Uuid) (rpc : SidecarProxyRpcServer → RpcOutcome)
    (c : SidecarProxyRpcClient) :
    (s.callLatest env w rpc).tables c =
      if s.manager.latestClient env w = some c then (rpc (s.server c)).routingTable
      else s.tables c := by
  rw [callLatest_eq]
  cases s.manager.latestClient env w with
  | none => simp
  | some client =>
    simp only [call_tables, Option.some.injEq, eq_comm (a := client)]
    split
    · next h => rw [h]
    · rfl

end Spec

/-! ## Walks over the latest clients -/

/-- One RPC to each connection of a walk. -/
def callEach (rpc : Uuid → SidecarProxyRpcServer → RpcOutcome) (s : ProxySystem)
    (l : List (Sigma fun _ : Uuid => SidecarProxyRpcClient)) : ProxySystem :=
  l.foldl (fun s e => s.call e.2 (rpc e.1)) s

section Walks
variable {rpc : Uuid → SidecarProxyRpcServer → RpcOutcome}
  {l : List (Sigma fun _ : Uuid => SidecarProxyRpcClient)}

@[simp] theorem callEach_manager (rpc : Uuid → SidecarProxyRpcServer → RpcOutcome)
    (l : List (Sigma fun _ : Uuid => SidecarProxyRpcClient)) (s : ProxySystem) :
    (s.callEach rpc l).manager = s.manager := by
  unfold callEach
  induction l generalizing s with
  | nil => rfl
  | cons e rest ih =>
    rw [List.foldl_cons, ih]
    rfl

/-- A walk that meets every workload once, each under its own connection, reaches each connected
sidecar exactly once, in the state it was in before the walk. -/
theorem callEach_tables (s : ProxySystem) (hkeys : l.NodupKeys)
    (hl : ∀ e ∈ l, e.2.workloadId = e.1) (c : SidecarProxyRpcClient) :
    (s.callEach rpc l).tables c =
      if ⟨c.workloadId, c⟩ ∈ l then (rpc c.workloadId (s.server c)).routingTable
      else s.tables c := by
  unfold callEach
  induction l generalizing s with
  | nil => simp
  | cons e rest ih =>
    obtain ⟨w, client⟩ := e
    obtain ⟨hw, hkeys⟩ := List.nodupKeys_cons.1 hkeys
    have hwc : client.workloadId = w := hl ⟨w, client⟩ List.mem_cons_self
    rw [List.foldl_cons, ih _ hkeys fun e he => hl e (List.mem_cons_of_mem _ he)]
    simp only [List.mem_cons, server, call_tables]
    by_cases hc : c = client
    · -- the sidecar of this entry: no later entry is about its workload
      subst hc hwc
      have hnot : (⟨c.workloadId, c⟩ : Sigma fun _ : Uuid => SidecarProxyRpcClient) ∉ rest :=
        fun hmem => hw (List.mem_keys_of_mem hmem)
      simp [hnot]
    · have hne : (⟨c.workloadId, c⟩ : Sigma fun _ : Uuid => SidecarProxyRpcClient) ≠ ⟨w, client⟩ :=
        fun heq => hc (by cases heq; rfl)
      simp [hc, hne]

/-- Two walks that send the same RPC to every entry are the same walk. -/
theorem callEach_congr {rpc' : Uuid → SidecarProxyRpcServer → RpcOutcome}
    (h : ∀ e ∈ l, rpc e.1 = rpc' e.1) (s : ProxySystem) : s.callEach rpc l = s.callEach rpc' l := by
  unfold callEach
  induction l generalizing s with
  | nil => rfl
  | cons e rest ih =>
    rw [List.foldl_cons, List.foldl_cons, h e List.mem_cons_self,
      ih fun e he => h e (List.mem_cons_of_mem _ he)]

/-- The RPC `set_devbox_routes` sends for a workload: its route, or a stop of the branch
remembered before. -/
def devboxPush (previousRoutes routes : HashTable Uuid DevboxRouteConfig) (w : Uuid)
    (srv : SidecarProxyRpcServer) : RpcOutcome :=
  match routes.lookup w with
  | some route => srv.setDevboxRoute route
  | none => srv.stopDevbox ((previousRoutes.lookup w).bind (·.branchEnvironmentId))

/-- The loop of `set_devbox_routes` is a walk: taking a route out of the map does not show, since
no workload is met twice. -/
theorem setDevboxRoutesLoop_eq (previousRoutes routes : HashTable Uuid DevboxRouteConfig)
    (s : ProxySystem) (hkeys : l.NodupKeys) :
    setDevboxRoutesLoop previousRoutes l routes s =
      s.callEach (devboxPush previousRoutes routes) l := by
  induction l generalizing routes s with
  | nil => rfl
  | cons e rest ih =>
    obtain ⟨w, client⟩ := e
    obtain ⟨hw, hkeys⟩ := List.nodupKeys_cons.1 hkeys
    simp only [setDevboxRoutesLoop, callEach, List.foldl_cons]
    split
    · next route hr =>
      have hpush : devboxPush previousRoutes routes w = fun srv => srv.setDevboxRoute route := by
        funext srv
        simp [devboxPush, hr]
      rw [ih _ _ hkeys, hpush]
      refine callEach_congr (fun e he => ?_) _
      have hne : e.1 ≠ w := fun heq => hw (heq ▸ List.mem_keys_of_mem he : w ∈ rest.keys)
      funext srv
      simp [devboxPush, hne]
    · next hr =>
      have hpush : devboxPush previousRoutes routes w = fun srv =>
          srv.stopDevbox ((previousRoutes.lookup w).bind (·.branchEnvironmentId)) := by
        funext srv
        simp [devboxPush, hr]
      rw [ih _ _ hkeys, hpush]
      rfl

/-- The RPC `set_service_routes_if_registered` sends for a workload the API answers for. -/
def servicePush (clusterClient : KubeClusterRpcClient) (env w : Uuid)
    (srv : SidecarProxyRpcServer) : RpcOutcome :=
  match clusterClient.listBranchServiceRoutes env w with
  | .ok routes => srv.setServiceRoutes routes
  | .error _ => ⟨srv.routingTable, [], .ok ()⟩

/-- The loop of `set_service_routes_if_registered` is the walk over the entries before the API's
first refusal, and over all entries where it succeeds. -/
theorem setServiceRoutesLoop_eq (clusterClient : KubeClusterRpcClient) (env : Uuid)
    (l : List (Sigma fun _ : Uuid => SidecarProxyRpcClient)) (s : ProxySystem) :
    ∃ done rest, l = done ++ rest ∧
      (setServiceRoutesLoop clusterClient env l s).1 = s.callEach (servicePush clusterClient env) done ∧
      ((setServiceRoutesLoop clusterClient env l s).2 = .ok () → rest = []) := by
  induction l generalizing s with
  | nil => exact ⟨[], [], rfl, rfl, fun _ => rfl⟩
  | cons e rest ih =>
    obtain ⟨w, client⟩ := e
    simp only [setServiceRoutesLoop]
    split
    · exact ⟨[], ⟨w, client⟩ :: rest, rfl, rfl, fun h => by cases h⟩
    · next routes hr =>
      obtain ⟨done, undone, rfl, heq, hok⟩ := ih (s.call client (·.setServiceRoutes routes))
      refine ⟨⟨w, client⟩ :: done, undone, rfl, ?_, hok⟩
      rw [heq]
      simp only [callEach, List.foldl_cons]
      have hpush : servicePush clusterClient env w = fun srv => srv.setServiceRoutes routes := by
        funext srv
        simp [servicePush, hr]
      rw [hpush]

/-- The loop succeeds where the API answers for every entry. -/
theorem setServiceRoutesLoop_ok {clusterClient : KubeClusterRpcClient} {env : Uuid}
    (h : ∀ e ∈ l, ∃ routes, clusterClient.listBranchServiceRoutes env e.1 = .ok routes)
    (s : ProxySystem) : (setServiceRoutesLoop clusterClient env l s).2 = .ok () := by
  induction l generalizing s with
  | nil => rfl
  | cons e rest ih =>
    obtain ⟨w, client⟩ := e
    obtain ⟨routes, hr⟩ := h ⟨w, client⟩ List.mem_cons_self
    simp only [setServiceRoutesLoop, hr]
    exact ih (fun e he => h e (List.mem_cons_of_mem _ he)) _

/-- The walk over an environment's latest clients meets exactly the latest connections. -/
theorem mem_walk_iff {m : SidecarProxyManager} {env : Uuid}
    {connections : HashTable Uuid SidecarProxyRpcClient}
    (h : m.latestClientsForEnvironment env = some connections)
    (rs : RandomState (Sigma fun _ : Uuid => SidecarProxyRpcClient))
    (w : Uuid) (c : SidecarProxyRpcClient) :
    ⟨w, c⟩ ∈ (connections.reseed rs).entries ↔ m.latestClient env w = some c := by
  rw [← SidecarProxyManager.lookup_latestClientsForEnvironment, h, Option.bind_some,
    ← AList.mem_lookup_iff, HashTable.lookup_reseed, Option.mem_def]

/-- No environment entry, no latest client. -/
theorem latestClient_of_none {m : SidecarProxyManager} {env : Uuid}
    (h : m.latestClientsForEnvironment env = none) (w : Uuid) : m.latestClient env w = none := by
  rw [← SidecarProxyManager.lookup_latestClientsForEnvironment, h]
  rfl

/-- A walk over the latest clients of an environment, at the table of every sidecar. -/
theorem walk_tables (rpc : Uuid → SidecarProxyRpcServer → RpcOutcome) (s : ProxySystem)
    (hwf : s.manager.WellFormed) {env : Uuid} {connections : HashTable Uuid SidecarProxyRpcClient}
    (h : s.manager.latestClientsForEnvironment env = some connections)
    (rs : RandomState (Sigma fun _ : Uuid => SidecarProxyRpcClient)) (c : SidecarProxyRpcClient) :
    (s.callEach rpc (connections.reseed rs).entries).tables c =
      if s.manager.latestClient env c.workloadId = some c then
        (rpc c.workloadId (s.server c)).routingTable
      else s.tables c := by
  rw [callEach_tables s (connections.reseed rs).nodupKeys]
  · simp only [mem_walk_iff h rs]
  · rintro ⟨w, client⟩ he
    exact (hwf.announced_latestClient ((mem_walk_iff h rs w client).1 he)).2

end Walks

/-! ## What the operations on service routes do -/

section ServiceRoutes
variable (s : ProxySystem) (rs : RandomState (Sigma fun _ : Uuid => SidecarProxyRpcClient))

/-- `set_service_routes_if_registered` leaves the manager as it is. -/
@[simp] theorem setServiceRoutesIfRegistered_manager (env : Uuid) :
    (setServiceRoutesIfRegistered rs s env).1.manager = s.manager := by
  simp only [setServiceRoutesIfRegistered]
  split
  · rfl
  · split
    · rfl
    · next connections _ _ clusterClient _ =>
      obtain ⟨done, rest, -, heq, -⟩ :=
        setServiceRoutesLoop_eq clusterClient env (connections.reseed rs).entries s
      rw [heq, callEach_manager]

/-- Where it succeeds with an API client at hand, every connected sidecar of the environment has
received the API's routes for its workload. -/
theorem setServiceRoutesIfRegistered_tables (hwf : s.manager.WellFormed) {env : Uuid}
    {clusterClient : KubeClusterRpcClient}
    (hcluster : s.manager.kubeClusterRpcClient = some clusterClient)
    (hok : (setServiceRoutesIfRegistered rs s env).2 = .ok ()) (c : SidecarProxyRpcClient) :
    (setServiceRoutesIfRegistered rs s env).1.tables c =
      if s.manager.latestClient env c.workloadId = some c then
        (servicePush clusterClient env c.workloadId (s.server c)).routingTable
      else s.tables c := by
  simp only [setServiceRoutesIfRegistered, hcluster] at hok ⊢
  split
  · next h => simp [latestClient_of_none h c.workloadId]
  · next connections h =>
    simp only [h] at hok
    obtain ⟨done, rest, hsplit, heq, hrest⟩ :=
      setServiceRoutesLoop_eq clusterClient env (connections.reseed rs).entries s
    rw [hrest hok, List.append_nil] at hsplit
    rw [heq, ← hsplit, walk_tables _ s hwf h]

/-- It succeeds where the API answers for every workload that has a connection. -/
theorem setServiceRoutesIfRegistered_ok {env : Uuid} {clusterClient : KubeClusterRpcClient}
    (hcluster : s.manager.kubeClusterRpcClient = some clusterClient)
    (h : ∀ w, s.manager.latestClient env w ≠ none →
      ∃ routes, clusterClient.listBranchServiceRoutes env w = .ok routes) :
    (setServiceRoutesIfRegistered rs s env).2 = .ok () := by
  simp only [setServiceRoutesIfRegistered, hcluster]
  split
  · rfl
  · next connections hc =>
    refine setServiceRoutesLoop_ok (fun e he => h e.1 ?_) s
    rw [(mem_walk_iff hc rs e.1 e.2).1 he]
    exact Option.some_ne_none _

end ServiceRoutes

/-! ## What the operations on devbox routes do -/

section DevboxRoutes
variable (s : ProxySystem)

/-- A devbox route changes the table of the latest sidecar of its workload. -/
theorem setDevboxRoute_tables (env : Uuid) (route : DevboxRouteConfig)
    (c : SidecarProxyRpcClient) :
    (s.setDevboxRoute env route).tables c =
      if s.manager.latestClient env route.workloadId = some c then
        ((s.server c).setDevboxRoute route).routingTable
      else s.tables c :=
  callLatest_tables _ _ _ _ _

/-- The manager remembers it for its workload. -/
theorem setDevboxRoute_remembered (env : Uuid) (route : DevboxRouteConfig) (env' w : Uuid) :
    (s.setDevboxRoute env route).manager.devboxRouteForWorkload env' w =
      if env' = env ∧ w = route.workloadId then some route
      else s.manager.devboxRouteForWorkload env' w := by
  rw [setDevboxRoute, callLatest_manager]
  exact s.manager.devboxRouteForWorkload_upsert _ _ _ _

/-- The connections are untouched by `remove_devbox_route_snapshot`. -/
theorem latestClient_removeSnapshot (env w : Uuid) (branch : Option Uuid) (env' w' : Uuid) :
    (s.manager.removeDevboxRouteSnapshot env w branch).2.latestClient env' w' =
      s.manager.latestClient env' w' := by
  unfold SidecarProxyManager.removeDevboxRouteSnapshot
  split <;> rfl

/-- `remove_devbox_route` reaches the sidecar only past the test on the remembered route. -/
theorem removeDevboxRoute_tables (env w : Uuid) (branch : Option Uuid)
    (c : SidecarProxyRpcClient) :
    (s.removeDevboxRoute env w branch).tables c =
      if s.manager.Remembers env w branch ∧ s.manager.latestClient env w = some c then
        ((s.server c).stopDevbox branch).routingTable
      else s.tables c := by
  unfold removeDevboxRoute
  simp only [SidecarProxyManager.removeDevboxRouteSnapshot_fst]
  by_cases hrem : s.manager.Remembers env w branch
  · simp only [hrem, decide_true, Bool.not_true, Bool.false_eq_true, if_false, true_and]
    rw [callLatest_tables, latestClient_removeSnapshot]
    rfl
  · simp [hrem]

/-- A removal forgets it if it has the key. -/
theorem removeDevboxRoute_remembered (env w : Uuid) (branch : Option Uuid) (env' w' : Uuid) :
    (s.removeDevboxRoute env w branch).manager.devboxRouteForWorkload env' w' =
      if (env' = env ∧ w' = w) ∧ s.manager.Remembers env w branch then none
      else s.manager.devboxRouteForWorkload env' w' := by
  rw [← SidecarProxyManager.devboxRouteForWorkload_remove]
  simp only [removeDevboxRoute]
  split
  · rfl
  · rw [callLatest_manager]

/-- The connections are untouched by `prune_devbox_route_snapshot`. -/
theorem latestClient_prune (env : Uuid) (branch : Option Uuid) (env' w : Uuid) :
    (s.manager.pruneDevboxRouteSnapshot env branch).latestClient env' w =
      s.manager.latestClient env' w := by
  unfold SidecarProxyManager.pruneDevboxRouteSnapshot
  split <;> rfl

/-- `clear_devbox_routes` stops the branch at every connected sidecar of the environment. -/
theorem clearDevboxRoutes_tables (hwf : s.manager.WellFormed)
    (rs : RandomState (Sigma fun _ : Uuid => SidecarProxyRpcClient)) (env : Uuid)
    (branch : Option Uuid) (c : SidecarProxyRpcClient) :
    (clearDevboxRoutes rs s env branch).tables c =
      if s.manager.latestClient env c.workloadId = some c then
        ((s.server c).stopDevbox branch).routingTable
      else s.tables c := by
  have hwf' : (s.manager.pruneDevboxRouteSnapshot env branch).WellFormed := by
    unfold SidecarProxyManager.pruneDevboxRouteSnapshot
    split
    · exact hwf
    · exact hwf.congr rfl rfl
  simp only [clearDevboxRoutes]
  split
  · next h =>
    have hnone := latestClient_of_none h c.workloadId
    rw [latestClient_prune] at hnone
    simp [hnone]
  · next connections h =>
    have hwalk := walk_tables (fun _ srv => srv.stopDevbox branch)
      { s with manager := s.manager.pruneDevboxRouteSnapshot env branch } hwf' h rs c
    rw [latestClient_prune] at hwalk
    exact hwalk

/-- A clearing forgets those of the environment that have the key. -/
theorem clearDevboxRoutes_remembered
    (rs : RandomState (Sigma fun _ : Uuid => SidecarProxyRpcClient)) (env : Uuid)
    (branch : Option Uuid) (env' w : Uuid) :
    (clearDevboxRoutes rs s env branch).manager.devboxRouteForWorkload env' w =
      if env' = env then
        (s.manager.devboxRouteForWorkload env w).filter fun route =>
          route.branchEnvironmentId ≠ branch
      else s.manager.devboxRouteForWorkload env' w := by
  rw [← SidecarProxyManager.devboxRouteForWorkload_prune]
  simp only [clearDevboxRoutes]
  split
  · rfl
  · exact congrArg (·.devboxRouteForWorkload env' w)
      (callEach_manager (fun _ srv => srv.stopDevbox branch) _ _)

/-- `set_devbox_routes` pushes its route, or a stop of the branch remembered before, to every
connected sidecar of the environment. -/
theorem setDevboxRoutes_tables (hwf : s.manager.WellFormed)
    (rs : RandomState (Sigma fun _ : Uuid => SidecarProxyRpcClient)) (env : Uuid)
    (routes : HashTable Uuid DevboxRouteConfig) (c : SidecarProxyRpcClient) :
    (setDevboxRoutes rs s env routes).tables c =
      if s.manager.latestClient env c.workloadId = some c then
        (match routes.lookup c.workloadId with
          | some route => (s.server c).setDevboxRoute route
          | none => (s.server c).stopDevbox
              ((s.manager.devboxRouteForWorkload env c.workloadId).bind
                (·.branchEnvironmentId))).routingTable
      else s.tables c := by
  have hwf' : (s.manager.snapshotDevboxRoutesForEnvironment env routes).2.WellFormed :=
    hwf.congr rfl rfl
  simp only [setDevboxRoutes]
  split
  · next h =>
    have hnone : s.manager.latestClient env c.workloadId = none :=
      latestClient_of_none h c.workloadId
    simp [hnone]
  · next connections h =>
    rw [setDevboxRoutesLoop_eq _ _ _ (connections.reseed rs).nodupKeys,
      walk_tables _ { s with manager :=
        (s.manager.snapshotDevboxRoutesForEnvironment env routes).2 } hwf' h rs c]
    simp only [devboxPush, SidecarProxyManager.lookup_previousRoutes]
    rfl

/-- A bulk push is all that is remembered for the environment. -/
theorem setDevboxRoutes_remembered
    (rs : RandomState (Sigma fun _ : Uuid => SidecarProxyRpcClient)) (env : Uuid)
    (routes : HashTable Uuid DevboxRouteConfig) (env' w : Uuid) :
    (setDevboxRoutes rs s env routes).manager.devboxRouteForWorkload env' w =
      if env' = env then routes.lookup w else s.manager.devboxRouteForWorkload env' w := by
  rw [← SidecarProxyManager.devboxRouteForWorkload_snapshot]
  simp only [setDevboxRoutes]
  split
  · rfl
  · next connections _ =>
    rw [setDevboxRoutesLoop_eq _ _ _ (connections.reseed rs).nodupKeys, callEach_manager]

end DevboxRoutes
end ProxySystem
end Lapdev
