import Lapdev.Manager.SidecarProxyManager

/-!
# Runs of the manager

`ManagerCall` is one call into the manager: from the API server (devbox and branch service
routes), from a sidecar connection (registration and disconnect) or a new API client. `Step` is
its effect. The registry stays well formed along every run, and a devbox call touches neither the
connections nor the API client.
-/

namespace Lapdev

open RustStd Runs

/-- A call into the manager. The seeds order the walks over the environment's connections. -/
inductive ManagerCall
  | setDevboxRoutes (rs : RandomState (Sigma fun _ : Uuid => SidecarProxyRpcClient))
      (environmentId : Uuid) (routes : HashTable Uuid DevboxRouteConfig)
  | setDevboxRoute (environmentId : Uuid) (route : DevboxRouteConfig)
  | removeDevboxRoute (environmentId workloadId : Uuid) (branchEnvironmentId : Option Uuid)
  | clearDevboxRoutes (rs : RandomState (Sigma fun _ : Uuid => SidecarProxyRpcClient))
      (environmentId : Uuid) (branchEnvironmentId : Option Uuid)
  | upsertBranchServiceRoute (baseEnvironmentId workloadId : Uuid) (route : ProxyBranchRouteConfig)
  | removeBranchServiceRoute (baseEnvironmentId workloadId branchEnvironmentId : Uuid)
  | setServiceRoutesIfRegistered (rs : RandomState (Sigma fun _ : Uuid => SidecarProxyRpcClient))
      (environmentId : Uuid)
  | registerSidecarProxy (rs : RandomState (Sigma fun _ : Uuid => SidecarProxyRpcClient))
      (client : SidecarProxyRpcClient)
  | handleDisconnect (client : SidecarProxyRpcClient) (generation : Nat)
  | setClusterRpcClient (client : Option KubeClusterRpcClient)

namespace ManagerCall

/-- The state after a call, and its answer. -/
def exec (s : ProxySystem) : ManagerCall → ProxySystem × Except ApiRejected Unit
  | .setDevboxRoutes rs env routes => (ProxySystem.setDevboxRoutes rs s env routes, .ok ())
  | .setDevboxRoute env route => (s.setDevboxRoute env route, .ok ())
  | .removeDevboxRoute env w branch => (s.removeDevboxRoute env w branch, .ok ())
  | .clearDevboxRoutes rs env branch => (ProxySystem.clearDevboxRoutes rs s env branch, .ok ())
  | .upsertBranchServiceRoute env w route => (s.upsertBranchServiceRoute env w route, .ok ())
  | .removeBranchServiceRoute env w b => (s.removeBranchServiceRoute env w b, .ok ())
  | .setServiceRoutesIfRegistered rs env => ProxySystem.setServiceRoutesIfRegistered rs s env
  | .registerSidecarProxy rs client => ProxySystem.registerSidecarProxy rs s client
  | .handleDisconnect client gen => (s.handleDisconnect client gen, .ok ())
  | .setClusterRpcClient client => (s.setClusterRpcClient client, .ok ())

/-- The four calls on devbox routes. -/
def IsDevboxCall : ManagerCall → Prop
  | .setDevboxRoutes .. | .setDevboxRoute .. | .removeDevboxRoute .. | .clearDevboxRoutes .. => True
  | _ => False

end ManagerCall

namespace ProxySystem

/-- One call into the manager. -/
def Step (s : ProxySystem) (call : ManagerCall) (s' : ProxySystem) : Prop := s' = (call.exec s).1

/-- The state after the calls, in order. -/
def execAll (s : ProxySystem) (calls : List ManagerCall) : ProxySystem :=
  calls.foldl (fun s call => (call.exec s).1) s

/-- Calls one after the other are a run. -/
theorem run_execAll (s : ProxySystem) (calls : List ManagerCall) :
    Run Step s calls (s.execAll calls) :=
  Run.of_foldl (fun _ _ => show Step _ _ _ from rfl) calls s

/-! ## The registry along a run -/

/-- Nothing but the sidecars' tables and the remembered routes changed. -/
structure SameRegistry (s s' : ProxySystem) : Prop where
  sidecarProxies : s'.manager.sidecarProxies = s.manager.sidecarProxies
  generationCounter : s'.manager.generationCounter = s.manager.generationCounter
  kubeClusterRpcClient : s'.manager.kubeClusterRpcClient = s.manager.kubeClusterRpcClient

namespace SameRegistry

/-- A call that leaves the registry. -/
theorem refl (s : ProxySystem) : SameRegistry s s := ⟨rfl, rfl, rfl⟩

/-- Such calls one after the other. -/
theorem trans {s s' s'' : ProxySystem} (h : SameRegistry s s') (h' : SameRegistry s' s'') :
    SameRegistry s s'' where
  sidecarProxies := h'.sidecarProxies.trans h.sidecarProxies
  generationCounter := h'.generationCounter.trans h.generationCounter
  kubeClusterRpcClient := h'.kubeClusterRpcClient.trans h.kubeClusterRpcClient

/-- A call that leaves the manager. -/
theorem of_manager {s s' : ProxySystem} (h : s'.manager = s.manager) : SameRegistry s s' :=
  ⟨by rw [h], by rw [h], by rw [h]⟩

/-- The manager stays well formed. -/
theorem wellFormed {s s' : ProxySystem} (h : SameRegistry s s') (hwf : s.manager.WellFormed) :
    s'.manager.WellFormed :=
  hwf.congr h.sidecarProxies h.generationCounter

/-- The latest connections stay. -/
theorem latestClient {s s' : ProxySystem} (h : SameRegistry s s') (env w : Uuid) :
    s'.manager.latestClient env w = s.manager.latestClient env w := by
  unfold SidecarProxyManager.latestClient SidecarProxyManager.clients
  rw [h.sidecarProxies]

end SameRegistry

/-- An RPC to the latest client leaves the manager as it is. -/
theorem sameRegistry_callLatest (s : ProxySystem) (env w : Uuid)
    (rpc : SidecarProxyRpcServer → RpcOutcome) : SameRegistry s (s.callLatest env w rpc) :=
  .of_manager (s.callLatest_manager env w rpc)

/-- A devbox call leaves the connections and the API client as they are. -/
theorem sameRegistry_of_isDevboxCall {s : ProxySystem} {call : ManagerCall}
    (h : call.IsDevboxCall) : SameRegistry s (call.exec s).1 := by
  cases call with
  | setDevboxRoute env route =>
    have hsnap : SameRegistry s
        { s with manager := s.manager.upsertDevboxRouteSnapshot env route } := ⟨rfl, rfl, rfl⟩
    exact hsnap.trans (sameRegistry_callLatest _ _ _ _)
  | removeDevboxRoute env w branch =>
    have hsnap : SameRegistry s
        { s with manager := (s.manager.removeDevboxRouteSnapshot env w branch).2 } := by
      unfold SidecarProxyManager.removeDevboxRouteSnapshot
      split <;> exact ⟨rfl, rfl, rfl⟩
    simp only [ManagerCall.exec, removeDevboxRoute]
    split
    · exact hsnap
    · exact hsnap.trans (sameRegistry_callLatest _ _ _ _)
  | setDevboxRoutes rs env routes =>
    have hsnap : SameRegistry s
        { s with manager := (s.manager.snapshotDevboxRoutesForEnvironment env routes).2 } :=
      ⟨rfl, rfl, rfl⟩
    simp only [ManagerCall.exec, setDevboxRoutes]
    split
    · exact hsnap
    · next connections _ =>
      rw [setDevboxRoutesLoop_eq _ _ _ (connections.reseed rs).nodupKeys]
      exact hsnap.trans (.of_manager (callEach_manager _ _ _))
  | clearDevboxRoutes rs env branch =>
    have hsnap : SameRegistry s
        { s with manager := s.manager.pruneDevboxRouteSnapshot env branch } := by
      unfold SidecarProxyManager.pruneDevboxRouteSnapshot
      split <;> exact ⟨rfl, rfl, rfl⟩
    simp only [ManagerCall.exec, clearDevboxRoutes]
    split
    · exact hsnap
    · exact hsnap.trans
        (.of_manager (callEach_manager (fun _ srv => srv.stopDevbox branch) _ _))
  | _ => exact h.elim

/-- So the latest clients stay the same along a run of devbox calls. -/
theorem sameRegistry_of_run {s s' : ProxySystem} {calls : List ManagerCall}
    (hrun : Run (Guarded Step fun _ call => call.IsDevboxCall) s calls s') : SameRegistry s s' :=
  Run.invariant_of_guard (SameRegistry s)
    (fun _ _ _ hs hg h => h.trans (by rw [hs]; exact sameRegistry_of_isDevboxCall hg))
    hrun (.refl s)

/-- What a call does to the connections: a registration files one, a disconnect removes one, and any
other call leaves them. -/
inductive Connects (m : SidecarProxyManager) : ManagerCall → SidecarProxyManager → Prop
  | register (rs : RandomState (Sigma fun _ : Uuid => SidecarProxyRpcClient))
      (client : SidecarProxyRpcClient) :
      Connects m (.registerSidecarProxy rs client)
        (m.registerSidecar client.environmentId client.workloadId client).2
  | disconnect (client : SidecarProxyRpcClient) (generation : Nat) :
      Connects m (.handleDisconnect client generation)
        (m.removeSidecar client.environmentId client.workloadId generation)
  | other (call : ManagerCall) : Connects m call m

/-- The connections and the counter after a call. -/
theorem connects_exec (s : ProxySystem) (call : ManagerCall) :
    ∃ m, Connects s.manager call m ∧
      (call.exec s).1.manager.sidecarProxies = m.sidecarProxies ∧
      (call.exec s).1.manager.generationCounter = m.generationCounter := by
  have hsame : SameRegistry s (call.exec s).1 → ∃ m, Connects s.manager call m ∧
      (call.exec s).1.manager.sidecarProxies = m.sidecarProxies ∧
      (call.exec s).1.manager.generationCounter = m.generationCounter :=
    fun h => ⟨s.manager, .other call, h.sidecarProxies, h.generationCounter⟩
  cases call with
  | upsertBranchServiceRoute env w route => exact hsame (sameRegistry_callLatest s env w _)
  | removeBranchServiceRoute env w b => exact hsame (sameRegistry_callLatest s env w _)
  | setServiceRoutesIfRegistered rs env =>
    exact hsame (.of_manager (setServiceRoutesIfRegistered_manager s rs env))
  | registerSidecarProxy rs client =>
    have hsync := SameRegistry.of_manager
      (setServiceRoutesIfRegistered_manager (s.fileSidecar client) rs client.environmentId)
    have hregistered : SameRegistry (s.fileSidecar client)
        (ManagerCall.exec s (.registerSidecarProxy rs client)).1 := by
      simp only [ManagerCall.exec, registerSidecarProxy]
      split
      · exact hsync
      · unfold replayDevboxRoute
        split
        · exact hsync
        · exact hsync.trans (sameRegistry_callLatest _ _ _ _)
    exact ⟨_, .register rs client, hregistered.sidecarProxies, hregistered.generationCounter⟩
  | handleDisconnect client gen => exact ⟨_, .disconnect client gen, rfl, rfl⟩
  | setClusterRpcClient client => exact ⟨_, .other _, rfl, rfl⟩
  | setDevboxRoute | setDevboxRoutes | removeDevboxRoute | clearDevboxRoutes =>
    exact hsame (sameRegistry_of_isDevboxCall trivial)

/-- Every call keeps the registry well formed. -/
theorem wellFormed_exec {s : ProxySystem} (hwf : s.manager.WellFormed) (call : ManagerCall) :
    (call.exec s).1.manager.WellFormed := by
  obtain ⟨m, hconnects, hproxies, hcounter⟩ := connects_exec s call
  have hm : m.WellFormed := by
    cases hconnects with
    | register rs client => exact hwf.registerSidecar client
    | disconnect client gen => exact hwf.removeSidecar _ _ gen
    | other => exact hwf
  exact hm.congr hproxies hcounter

/-- The counter of generations has not wrapped around when a sidecar registers. -/
def NotWrapped (s : ProxySystem) : ManagerCall → Prop
  | .registerSidecarProxy .. => s.manager.generationCounter ≠ 0
  | _ => True

/-- Until it wraps around, the counter stands above all generations that are filed. -/
theorem countsUp_exec {s : ProxySystem} (hwf : s.manager.WellFormed) (h : s.manager.CountsUp)
    {call : ManagerCall} (hcall : s.NotWrapped call) : (call.exec s).1.manager.CountsUp := by
  obtain ⟨m, hconnects, hproxies, hcounter⟩ := connects_exec s call
  have hm : m.CountsUp := by
    cases hconnects with
    | register rs client => exact h.registerSidecar hwf.counter_lt hcall _ _ client
    | disconnect client gen => exact h.removeSidecar _ _ gen
    | other => exact h
  exact hm.congr hproxies hcounter

/-- So every state a run reaches has a well-formed registry. -/
theorem wellFormed_run {s s' : ProxySystem} {calls : List ManagerCall}
    (hrun : Run Step s calls s') (hwf : s.manager.WellFormed) : s'.manager.WellFormed :=
  Run.invariant (fun s => s.manager.WellFormed)
    (fun _ call _ hs h => by rw [hs]; exact wellFormed_exec h call) hrun hwf

end ProxySystem
end Lapdev
