import Lapdev.Sidecar.Rpc

/-!
# The sidecar proxy manager's state

The two maps of `kube-manager/src/sidecar_proxy_manager.rs`: the connections of the registered
sidecars, by environment, workload and generation, and the devbox route remembered for each
workload of each environment. Both are read through one observation each, `latestClient` and
`devboxRouteForWorkload`, and every operation has one equation for its observation.
-/

namespace Lapdev

open RustStd

/-- A connection to one running sidecar. A sidecar process announces the ids it was booted with
(`kube-sidecar-proxy/src/rpc.rs`, `register_sidecar_proxy`), so they belong to the connection. -/
structure SidecarProxyRpcClient where
  process : Nat
  workloadId : Uuid
  environmentId : Uuid
  deriving DecidableEq

/-- The manager's client of the API server, by the branch routes the API answers with. They carry
no devbox (`kube/src/server.rs`, `build_branch_service_route_config_from_services`). -/
structure KubeClusterRpcClient where
  listBranchServiceRoutes : Uuid → Uuid → Except String (List ProxyBranchRouteConfig)
  devboxRoute_eq_none : ∀ {env w routes}, listBranchServiceRoutes env w = .ok routes →
    ∀ route ∈ routes, route.devboxRoute = none

/-- Source: `sidecar_proxy_manager.rs`, `SidecarProxyManager`. The counter is an `AtomicU64`, whose
`fetch_add` wraps around. -/
structure SidecarProxyManager where
  sidecarProxies : HashTable Uuid (HashTable Uuid (BTreeMap Nat SidecarProxyRpcClient))
  kubeClusterRpcClient : Option KubeClusterRpcClient
  generationCounter : Nat
  devboxRouteSnapshots : HashTable Uuid (HashTable Uuid DevboxRouteConfig)

namespace SidecarProxyManager

/-- Source: `sidecar_proxy_manager.rs`, `SidecarProxyManager::new`. -/
def new : SidecarProxyManager := ⟨∅, none, 1, ∅⟩

/-! ## Connections -/

/-- Source: `sidecar_proxy_manager.rs`, `register_sidecar`. -/
def registerSidecar (m : SidecarProxyManager) (environmentId workloadId : Uuid)
    (client : SidecarProxyRpcClient) : Nat × SidecarProxyManager :=
  let generation := m.generationCounter
  let workloads := (m.sidecarProxies.lookup environmentId).getD ∅
  let entries := (workloads.lookup workloadId).getD ∅
  (generation,
    { m with
      generationCounter := (generation + 1) % 2 ^ 64
      sidecarProxies := m.sidecarProxies.insert environmentId
        (workloads.insert workloadId (entries.insert generation client)) })

/-- Source: `sidecar_proxy_manager.rs`, `remove_sidecar`. -/
def removeSidecar (m : SidecarProxyManager) (environmentId workloadId : Uuid)
    (generation : Nat) : SidecarProxyManager :=
  match m.sidecarProxies.lookup environmentId with
  | none => m
  | some workloads =>
    match workloads.lookup workloadId with
    | none => m
    | some entries =>
      let removed := generation ∈ entries
      let entries := entries.erase generation
      let workloads :=
        if entries.entries = [] then workloads.erase workloadId
        else workloads.insert workloadId entries
      { m with sidecarProxies :=
          if removed ∧ workloads.entries = [] then m.sidecarProxies.erase environmentId
          else m.sidecarProxies.insert environmentId workloads }

/-- Source: `sidecar_proxy_manager.rs`, `latest_clients_for_environment`. -/
def latestClientsForEnvironment (m : SidecarProxyManager) (environmentId : Uuid) :
    Option (HashTable Uuid SidecarProxyRpcClient) :=
  (m.sidecarProxies.lookup environmentId).map fun workloads =>
    workloads.filterMapValues fun _ entries => (BTreeMap.nextBack entries).map Sigma.snd

/-- The connections registered for a workload, by generation. -/
def clients (m : SidecarProxyManager) (environmentId workloadId : Uuid) :
    BTreeMap Nat SidecarProxyRpcClient :=
  (HashTable.lookup₂ m.sidecarProxies environmentId workloadId).getD ∅

/-- The connection of the highest generation registered for a workload. -/
def latestClient (m : SidecarProxyManager) (environmentId workloadId : Uuid) :
    Option SidecarProxyRpcClient :=
  (BTreeMap.nextBack (m.clients environmentId workloadId)).map Sigma.snd

/-- Every connection is filed under the ids it announced, and the counter is a `u64`. -/
structure WellFormed (m : SidecarProxyManager) : Prop where
  announced : ∀ {env w gen client}, (m.clients env w).lookup gen = some client →
    client.environmentId = env ∧ client.workloadId = w
  counter_lt : m.generationCounter < 2 ^ 64

/-- The counter stands above all generations that are filed, or has just wrapped around. -/
def CountsUp (m : SidecarProxyManager) : Prop :=
  m.generationCounter = 0 ∨ ∀ env w, ∀ gen ∈ m.clients env w, gen < m.generationCounter

/-! ## Remembered devbox routes -/

/-- Source: `sidecar_proxy_manager.rs`, `snapshot_devbox_routes_for_environment`. -/
def snapshotDevboxRoutesForEnvironment (m : SidecarProxyManager) (environmentId : Uuid)
    (routes : HashTable Uuid DevboxRouteConfig) :
    HashTable Uuid DevboxRouteConfig × SidecarProxyManager :=
  ((m.devboxRouteSnapshots.lookup environmentId).getD ∅,
    { m with devboxRouteSnapshots := m.devboxRouteSnapshots.insert environmentId routes })

/-- Source: `sidecar_proxy_manager.rs`, `upsert_devbox_route_snapshot`. -/
def upsertDevboxRouteSnapshot (m : SidecarProxyManager) (environmentId : Uuid)
    (route : DevboxRouteConfig) : SidecarProxyManager :=
  let routes := (m.devboxRouteSnapshots.lookup environmentId).getD ∅
  { m with devboxRouteSnapshots :=
      m.devboxRouteSnapshots.insert environmentId (routes.insert route.workloadId route) }

/-- Source: `sidecar_proxy_manager.rs`, `remove_devbox_route_snapshot`. -/
def removeDevboxRouteSnapshot (m : SidecarProxyManager) (environmentId workloadId : Uuid)
    (branchEnvironmentId : Option Uuid) : Bool × SidecarProxyManager :=
  match m.devboxRouteSnapshots.lookup environmentId with
  | none => (false, m)
  | some routes =>
    let shouldRemove := ((routes.lookup workloadId).map fun route =>
      decide (route.branchEnvironmentId = branchEnvironmentId)).getD false
    let routes := if shouldRemove then routes.erase workloadId else routes
    (shouldRemove,
      { m with devboxRouteSnapshots :=
          if routes.entries = [] then m.devboxRouteSnapshots.erase environmentId
          else m.devboxRouteSnapshots.insert environmentId routes })

/-- Source: `sidecar_proxy_manager.rs`, `devbox_route_for_workload`. -/
def devboxRouteForWorkload (m : SidecarProxyManager) (environmentId workloadId : Uuid) :
    Option DevboxRouteConfig :=
  HashTable.lookup₂ m.devboxRouteSnapshots environmentId workloadId

/-- Source: `sidecar_proxy_manager.rs`, `prune_devbox_route_snapshot`. -/
def pruneDevboxRouteSnapshot (m : SidecarProxyManager) (environmentId : Uuid)
    (branchEnvironmentId : Option Uuid) : SidecarProxyManager :=
  match m.devboxRouteSnapshots.lookup environmentId with
  | none => m
  | some routes =>
    let routes := match branchEnvironmentId with
      | some branchId =>
        routes.retain fun _ route => decide (route.branchEnvironmentId ≠ some branchId)
      | none => routes.retain fun _ route => route.branchEnvironmentId.isSome
    { m with devboxRouteSnapshots :=
        if routes.entries = [] then m.devboxRouteSnapshots.erase environmentId
        else m.devboxRouteSnapshots.insert environmentId routes }

/-! ## The equations of the connections -/

section Connections
variable (m : SidecarProxyManager)

/-- The latest clients of an environment, by workload. -/
theorem lookup_latestClientsForEnvironment (env w : Uuid) :
    ((m.latestClientsForEnvironment env).bind fun conns => conns.lookup w) =
      m.latestClient env w := by
  unfold latestClientsForEnvironment latestClient clients HashTable.lookup₂
  cases m.sidecarProxies.lookup env with
  | none => rfl
  | some workloads =>
    simp only [Option.map_some, Option.bind_some, HashTable.lookup_filterMapValues]
    cases workloads.lookup w <;> rfl

/-- A registration files its connection under the next generation, and nothing else changes. -/
theorem clients_registerSidecar (env w : Uuid) (client : SidecarProxyRpcClient) (env' w' : Uuid) :
    (m.registerSidecar env w client).2.clients env' w' =
      if env' = env ∧ w' = w then (m.clients env w).insert m.generationCounter client
      else m.clients env' w' := by
  simp only [clients, registerSidecar, HashTable.lookup₂_insert, HashTable.lookup_insert,
    HashTable.lookup_getD_empty]
  by_cases henv : env' = env
  · by_cases hw : w' = w <;> simp [henv, hw]
  · simp [henv]

/-- A removal takes the one generation of the one workload. -/
theorem clients_removeSidecar (env w : Uuid) (gen : Nat) (env' w' : Uuid) :
    (m.removeSidecar env w gen).clients env' w' =
      if env' = env ∧ w' = w then (m.clients env w).erase gen else m.clients env' w' := by
  -- nothing registered for the workload: nothing to remove
  have hnone : HashTable.lookup₂ m.sidecarProxies env w = none → m.clients env' w' =
      if env' = env ∧ w' = w then (m.clients env w).erase gen else m.clients env' w' := by
    intro h
    split
    · next heq => rw [heq.1, heq.2, clients, h]; rfl
    · rfl
  unfold removeSidecar
  cases hws : m.sidecarProxies.lookup env with
  | none => exact hnone (by simp [HashTable.lookup₂, hws])
  | some workloads =>
    cases hes : workloads.lookup w with
    | none =>
      simp only [hes]
      exact hnone (by simp [HashTable.lookup₂, hws, hes])
    | some entries =>
      simp only [hes, clients]
      rw [HashTable.lookup₂_store _ _ _ And.right]
      by_cases henv : env' = env
      · have hin : ∀ l, HashTable.lookup₂ m.sidecarProxies env l = workloads.lookup l := by
          intro l
          simp [HashTable.lookup₂, hws]
        rw [if_pos henv, henv, hin, hin, hes]
        by_cases hempty : (entries.erase gen).entries = []
        · rw [if_pos hempty, HashTable.lookup_erase]
          by_cases hw : w' = w
          · simp only [hw, if_true, and_self, Option.getD_none, Option.getD_some]
            exact (AList.ext hempty).symm
          · simp [hw]
        · rw [if_neg hempty, HashTable.lookup_insert]
          by_cases hw : w' = w <;> simp [hw]
      · simp [henv]

/-- The latest connection of a workload announced that workload. -/
theorem WellFormed.announced_latestClient {m : SidecarProxyManager} (h : m.WellFormed)
    {env w : Uuid} {client : SidecarProxyRpcClient} (hl : m.latestClient env w = some client) :
    client.environmentId = env ∧ client.workloadId = w := by
  obtain ⟨e, he, rfl⟩ := Option.map_eq_some_iff.1 hl
  exact h.announced (BTreeMap.lookup_of_nextBack he)

/-- A newly registered connection is the latest of its workload, where the counter stands above the
generations of the others. -/
theorem latestClient_registerSidecar {env w : Uuid}
    (h : ∀ gen ∈ m.clients env w, gen < m.generationCounter)
    (client : SidecarProxyRpcClient) (env' w' : Uuid) :
    (m.registerSidecar env w client).2.latestClient env' w' =
      if env' = env ∧ w' = w then some client else m.latestClient env' w' := by
  rw [latestClient, clients_registerSidecar]
  split
  · rw [BTreeMap.nextBack_insert client h]
    rfl
  · rfl

/-- Registering a connection under the ids it announces keeps the registry well formed. -/
theorem WellFormed.registerSidecar {m : SidecarProxyManager} (h : m.WellFormed)
    (client : SidecarProxyRpcClient) :
    (m.registerSidecar client.environmentId client.workloadId client).2.WellFormed where
  announced {env w gen c} hc := by
    rw [clients_registerSidecar] at hc
    split at hc
    · next heq =>
      rw [HashTable.lookup_insert] at hc
      split at hc
      · cases hc
        exact ⟨heq.1.symm, heq.2.symm⟩
      · rw [heq.1, heq.2]
        exact h.announced hc
    · exact h.announced hc
  counter_lt := Nat.mod_lt _ (by decide)

/-- A removal does not count. -/
theorem generationCounter_removeSidecar (env w : Uuid) (gen : Nat) :
    (m.removeSidecar env w gen).generationCounter = m.generationCounter := by
  unfold SidecarProxyManager.removeSidecar
  split
  · rfl
  · split <;> rfl

/-- Removing a connection keeps the registry well formed. -/
theorem WellFormed.removeSidecar {m : SidecarProxyManager} (h : m.WellFormed) (env w : Uuid)
    (gen : Nat) : (m.removeSidecar env w gen).WellFormed where
  announced {env' w' gen' c} hc := by
    rw [clients_removeSidecar] at hc
    split at hc
    · next heq =>
      rw [HashTable.lookup_erase] at hc
      split at hc
      · cases hc
      · rw [heq.1, heq.2]
        exact h.announced hc
    · exact h.announced hc
  counter_lt := by
    rw [generationCounter_removeSidecar]
    exact h.counter_lt

/-- A registration counts one up, and wraps around after the last generation. -/
theorem CountsUp.registerSidecar {m : SidecarProxyManager} (h : m.CountsUp)
    (hlt : m.generationCounter < 2 ^ 64) (hne : m.generationCounter ≠ 0)
    (env w : Uuid) (client : SidecarProxyRpcClient) :
    (m.registerSidecar env w client).2.CountsUp := by
  have hbelow := h.resolve_left hne
  have hcounter : (m.registerSidecar env w client).2.generationCounter =
      (m.generationCounter + 1) % 2 ^ 64 := rfl
  rcases Nat.lt_or_eq_of_le (Nat.succ_le_of_lt hlt) with hnext | hlast
  · refine .inr fun env' w' gen hg => ?_
    rw [hcounter, Nat.mod_eq_of_lt hnext]
    rw [clients_registerSidecar] at hg
    split at hg
    · rcases (AList.mem_insert _).1 hg with rfl | hg
      · exact Nat.lt_succ_self _
      · exact Nat.lt_succ_of_lt (hbelow _ _ _ hg)
    · exact Nat.lt_succ_of_lt (hbelow _ _ _ hg)
  · left
    rw [hcounter, ← Nat.succ_eq_add_one, hlast, Nat.mod_self]

theorem CountsUp.removeSidecar {m : SidecarProxyManager} (h : m.CountsUp) (env w : Uuid)
    (gen : Nat) : (m.removeSidecar env w gen).CountsUp := by
  unfold CountsUp
  rw [generationCounter_removeSidecar]
  refine h.imp_right fun hbelow env' w' gen' hg => ?_
  rw [clients_removeSidecar] at hg
  split at hg
  · exact hbelow _ _ _ (AList.mem_erase.1 hg).2
  · exact hbelow _ _ _ hg

/-- The registry's well-formedness is about the connections and the counter alone. -/
theorem WellFormed.congr {m m' : SidecarProxyManager} (h : m.WellFormed)
    (hs : m'.sidecarProxies = m.sidecarProxies)
    (hc : m'.generationCounter = m.generationCounter) : m'.WellFormed where
  announced := by
    unfold clients
    rw [hs]
    exact h.announced
  counter_lt := hc ▸ h.counter_lt

theorem CountsUp.congr {m m' : SidecarProxyManager} (h : m.CountsUp)
    (hs : m'.sidecarProxies = m.sidecarProxies)
    (hc : m'.generationCounter = m.generationCounter) : m'.CountsUp := by
  unfold CountsUp clients
  rw [hs, hc]
  exact h

theorem wellFormed_new : SidecarProxyManager.new.WellFormed where
  announced h := by simp [clients, HashTable.lookup₂, new] at h
  counter_lt := by decide

theorem countsUp_new : SidecarProxyManager.new.CountsUp :=
  .inr fun env w gen h => by simp [clients, HashTable.lookup₂, new] at h

end Connections

/-! ## The equations of the remembered routes -/

section Remembered
variable (m : SidecarProxyManager)

theorem devboxRouteForWorkload_snapshot (env : Uuid) (routes : HashTable Uuid DevboxRouteConfig)
    (env' w : Uuid) :
    (m.snapshotDevboxRoutesForEnvironment env routes).2.devboxRouteForWorkload env' w =
      if env' = env then routes.lookup w else m.devboxRouteForWorkload env' w :=
  HashTable.lookup₂_insert _ _ _ _ _

/-- The routes `snapshot_devbox_routes_for_environment` returns are those remembered before. -/
theorem lookup_previousRoutes (env : Uuid) (routes : HashTable Uuid DevboxRouteConfig) (w : Uuid) :
    (m.snapshotDevboxRoutesForEnvironment env routes).1.lookup w =
      m.devboxRouteForWorkload env w :=
  HashTable.lookup_getD_empty _ _ _

theorem devboxRouteForWorkload_upsert (env : Uuid) (route : DevboxRouteConfig) (env' w : Uuid) :
    (m.upsertDevboxRouteSnapshot env route).devboxRouteForWorkload env' w =
      if env' = env ∧ w = route.workloadId then some route
      else m.devboxRouteForWorkload env' w := by
  simp only [devboxRouteForWorkload, upsertDevboxRouteSnapshot, HashTable.lookup₂_insert,
    HashTable.lookup_insert, HashTable.lookup_getD_empty]
  by_cases henv : env' = env <;> simp [henv]

/-- What `remove_devbox_route_snapshot` tests: a route of the named branch is remembered. -/
def Remembers (env w : Uuid) (branch : Option Uuid) : Prop :=
  (m.devboxRouteForWorkload env w).map DevboxRouteConfig.branchEnvironmentId = some branch

instance (env w : Uuid) (branch : Option Uuid) : Decidable (m.Remembers env w branch) :=
  inferInstanceAs (Decidable (_ = _))

theorem removeDevboxRouteSnapshot_fst (env w : Uuid) (branch : Option Uuid) :
    (m.removeDevboxRouteSnapshot env w branch).1 = decide (m.Remembers env w branch) := by
  rw [Bool.eq_iff_iff, decide_eq_true_iff]
  unfold removeDevboxRouteSnapshot Remembers devboxRouteForWorkload HashTable.lookup₂
  cases m.devboxRouteSnapshots.lookup env with
  | none => simp
  | some routes => cases h : routes.lookup w <;> simp [h]

/-- `remove_devbox_route_snapshot` forgets exactly what it tests for. -/
theorem devboxRouteForWorkload_remove (env w : Uuid) (branch : Option Uuid) (env' w' : Uuid) :
    (m.removeDevboxRouteSnapshot env w branch).2.devboxRouteForWorkload env' w' =
      if (env' = env ∧ w' = w) ∧ m.Remembers env w branch then none
      else m.devboxRouteForWorkload env' w' := by
  have hfst := m.removeDevboxRouteSnapshot_fst env w branch
  unfold removeDevboxRouteSnapshot at hfst ⊢
  cases hr : m.devboxRouteSnapshots.lookup env with
  | none =>
    simp only [hr] at hfst
    simp [decide_eq_false_iff_not.1 hfst.symm]
  | some routes =>
    simp only [hr] at hfst
    have hin : ∀ l, m.devboxRouteForWorkload env l = routes.lookup l := by
      intro l
      simp [devboxRouteForWorkload, HashTable.lookup₂, hr]
    simp only [devboxRouteForWorkload, hfst]
    rw [HashTable.lookup₂_store _ _ _ id]
    by_cases henv : env' = env
    · by_cases hrem : m.Remembers env w branch
      · simp only [henv, hrem, decide_true, if_true, true_and, and_true, HashTable.lookup_erase]
        rw [← hin, devboxRouteForWorkload]
      · simp only [henv, hrem, decide_false, and_false, if_true, if_false, Bool.false_eq_true]
        rw [← hin, devboxRouteForWorkload]
    · simp [henv]

/-- `prune_devbox_route_snapshot` forgets the environment's routes of the named branch. -/
theorem devboxRouteForWorkload_prune (env : Uuid) (branch : Option Uuid) (env' w : Uuid) :
    (m.pruneDevboxRouteSnapshot env branch).devboxRouteForWorkload env' w =
      if env' = env then
        (m.devboxRouteForWorkload env w).filter fun route => route.branchEnvironmentId ≠ branch
      else m.devboxRouteForWorkload env' w := by
  unfold pruneDevboxRouteSnapshot
  cases hr : m.devboxRouteSnapshots.lookup env with
  | none =>
    by_cases henv : env' = env
    · subst henv
      simp [devboxRouteForWorkload, HashTable.lookup₂, hr]
    · simp [henv]
  | some routes =>
    have hin : m.devboxRouteForWorkload env w = routes.lookup w := by
      simp [devboxRouteForWorkload, HashTable.lookup₂, hr]
    simp only [devboxRouteForWorkload]
    rw [HashTable.lookup₂_store _ _ _ id]
    by_cases henv : env' = env
    · rw [if_pos henv, if_pos henv, ← devboxRouteForWorkload, hin]
      cases branch with
      | some b => exact HashTable.lookup_retain _ _ _
      | none =>
        rw [HashTable.lookup_retain]
        congr 1
        funext route
        cases route.branchEnvironmentId <;> rfl
    · rw [if_neg henv, if_neg henv]

end Remembered
end SidecarProxyManager
end Lapdev
