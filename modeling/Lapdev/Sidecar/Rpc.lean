import Lapdev.Sidecar.RoutingTable

/-!
# The sidecar's RPC server

The handlers of `kube-sidecar-proxy/src/rpc.rs`. A handler changes the routing table, tells the
connection registry which branch keys to shut down and answers the caller; all three are in its
`RpcOutcome`. Each handler comes with one equation for the devbox of every key after it.
-/

namespace Lapdev

open RustStd

/-- Source: `kube-rpc/src/lib.rs`, `DevboxRouteConfig`. -/
structure DevboxRouteConfig where
  interceptId : Uuid
  workloadId : Uuid
  authToken : String
  websocketUrl : String
  pathPattern : String
  branchEnvironmentId : Option Uuid
  createdAtEpochSeconds : Option Int64
  expiresAtEpochSeconds : Option Int64
  portMappings : HashMap UInt16 UInt16
  deriving DecidableEq

/-- Source: `kube-rpc/src/lib.rs`, `ProxyRouteAccessLevel`. -/
inductive ProxyRouteAccessLevel
  | personal
  | shared
  | «public»
  deriving DecidableEq

/-- Source: `kube-rpc/src/lib.rs`, `ProxyBranchRouteConfig`. -/
structure ProxyBranchRouteConfig where
  branchEnvironmentId : Uuid
  serviceNames : HashMap UInt16 String
  headers : HashMap String String
  requiresAuth : Bool
  accessLevel : ProxyRouteAccessLevel
  timeoutMs : Option UInt64
  devboxRoute : Option DevboxRouteConfig
  deriving DecidableEq

/-- Source: `rpc.rs`, `access_level_from_proxy`. -/
def accessLevelFromProxy : ProxyRouteAccessLevel → AccessLevel
  | .personal => .personal
  | .shared => .shared
  | .«public» => .«public»

/-- Source: `rpc.rs`, `devbox_connection_from_config`. -/
def devboxConnectionFromConfig (route : DevboxRouteConfig) (targetEnvironmentId : Uuid) :
    DevboxConnection where
  metadata :=
    { interceptId := route.interceptId
      workloadId := route.workloadId
      authToken := route.authToken
      websocketUrl := route.websocketUrl
      pathPattern := route.pathPattern
      portMappings := route.portMappings
      createdAtEpochSeconds := route.createdAtEpochSeconds
      expiresAtEpochSeconds := route.expiresAtEpochSeconds }
  targetEnvironmentId := targetEnvironmentId

/-- The `BranchServiceRoute` both service handlers build from a config. -/
def ProxyBranchRouteConfig.serviceRoute (route : ProxyBranchRouteConfig) : BranchServiceRoute where
  serviceNames := route.serviceNames
  headers := route.headers
  requiresAuth := route.requiresAuth
  accessLevel := accessLevelFromProxy route.accessLevel
  timeoutMs := route.timeoutMs

/-- Source: `rpc.rs`, `SidecarProxyRpcServer`, by the ids it was booted with and its table. -/
structure SidecarProxyRpcServer where
  workloadId : Uuid
  environmentId : Uuid
  routingTable : RoutingTable

/-- What a handler leaves behind: the table, the keys handed to `shutdown_branch`, the answer. -/
structure RpcOutcome where
  routingTable : RoutingTable
  shutdownBranches : List (Option Uuid)
  result : Except String Unit

namespace SidecarProxyRpcServer

/-! ## The handlers -/

/-- The `updates` of `set_service_routes`: configs without service names are skipped. -/
def serviceUpdates (routes : List ProxyBranchRouteConfig) : List (Uuid × BranchServiceRoute) :=
  routes.filterMap fun route =>
    if route.serviceNames = ∅ then none
    else some (route.branchEnvironmentId, route.serviceRoute)

/-- The `devbox_overrides` of `set_service_routes`. -/
def devboxOverrides (routes : List ProxyBranchRouteConfig) : List (Uuid × DevboxConnection) :=
  routes.filterMap fun route => route.devboxRoute.map fun devbox =>
    (route.branchEnvironmentId, devboxConnectionFromConfig devbox route.branchEnvironmentId)

/-- Source: `rpc.rs`, `set_service_routes`. -/
def setServiceRoutes (s : SidecarProxyRpcServer) (routes : List ProxyBranchRouteConfig) :
    RpcOutcome :=
  let replaced := s.routingTable.replaceBranchRoutes (serviceUpdates routes)
  let table := (devboxOverrides routes).foldl (fun t o => t.setBranchDevbox o.1 o.2) replaced
  let updatedBranches := routes.map ProxyBranchRouteConfig.branchEnvironmentId
  let previousBranches := s.routingTable.branchRoutes.keys
  ⟨table, (updatedBranches ++ previousBranches.filter (· ∉ updatedBranches)).map some, .ok ()⟩

/-- Source: `rpc.rs`, `set_devbox_route`: a route for another workload is ignored. -/
def setDevboxRoute (s : SidecarProxyRpcServer) (route : DevboxRouteConfig) : RpcOutcome :=
  if route.workloadId ≠ s.workloadId then
    ⟨s.routingTable, [], .ok ()⟩
  else
    let targetEnvironmentId := route.branchEnvironmentId.getD s.environmentId
    let connection := devboxConnectionFromConfig route targetEnvironmentId
    let table := match route.branchEnvironmentId with
      | some branchId => s.routingTable.setBranchDevbox branchId connection
      | none => s.routingTable.setDefaultDevbox connection
    ⟨table, [route.branchEnvironmentId], .ok ()⟩

/-- Source: `rpc.rs`, `stop_devbox`. -/
def stopDevbox (s : SidecarProxyRpcServer) (branchEnvironment : Option Uuid) : RpcOutcome :=
  let table := match branchEnvironment with
    | some branchId => s.routingTable.removeBranchDevbox branchId
    | none => s.routingTable.clearDefaultDevbox
  ⟨table, [branchEnvironment], .ok ()⟩

/-- Source: `rpc.rs`, `upsert_branch_service_route`. -/
def upsertBranchServiceRoute (s : SidecarProxyRpcServer) (route : ProxyBranchRouteConfig) :
    RpcOutcome :=
  let branchId := route.branchEnvironmentId
  if route.serviceNames = ∅ then
    ⟨s.routingTable, [], .error "Missing service_names for branch service route update"⟩
  else
    let upserted := s.routingTable.upsertBranchServiceRoute branchId route.serviceRoute
    let table := match route.devboxRoute with
      | some devbox => upserted.setBranchDevbox branchId (devboxConnectionFromConfig devbox branchId)
      | none => upserted
    ⟨table, [some branchId], .ok ()⟩

/-- Source: `rpc.rs`, `remove_branch_service_route`. -/
def removeBranchServiceRoute (s : SidecarProxyRpcServer) (branchEnvironmentId : Uuid) :
    RpcOutcome :=
  ⟨s.routingTable.removeBranchServiceRoute branchEnvironmentId, [some branchEnvironmentId], .ok ()⟩

/-! ## What each handler does to the devbox of a key -/

section DevboxFor
variable (s : SidecarProxyRpcServer)

/-- Whether a `set_devbox_route` is taken up by this sidecar: it names the sidecar's workload, and
its branch, if it has one, is in the table. -/
def Accepts (route : DevboxRouteConfig) : Prop :=
  route.workloadId = s.workloadId ∧
    ∀ b ∈ route.branchEnvironmentId, b ∈ s.routingTable.branchRoutes

instance (route : DevboxRouteConfig) : Decidable (s.Accepts route) :=
  inferInstanceAs (Decidable (_ ∧ _))

/-- The connection a sidecar opens for a route it accepts. -/
def connectionOf (route : DevboxRouteConfig) : DevboxConnection :=
  devboxConnectionFromConfig route (route.branchEnvironmentId.getD s.environmentId)

/-- An accepted route becomes the devbox of its key; no other key changes, and a route that is
not accepted changes none. -/
theorem devboxFor_setDevboxRoute (route : DevboxRouteConfig) (key : Option Uuid) :
    (s.setDevboxRoute route).routingTable.devboxFor key =
      if key = route.branchEnvironmentId ∧ s.Accepts route then some (s.connectionOf route)
      else s.routingTable.devboxFor key := by
  unfold setDevboxRoute
  by_cases hw : route.workloadId = s.workloadId
  · rw [if_neg (not_not.2 hw)]
    cases hb : route.branchEnvironmentId with
    | none => simp [Accepts, connectionOf, hw, hb]
    | some b => simp [Accepts, connectionOf, hw, hb, RoutingTable.devboxFor_setBranchDevbox]
  · simp [Accepts, hw]

/-- `stop_devbox` leaves its key without a devbox and touches no other. -/
theorem devboxFor_stopDevbox (branch key : Option Uuid) :
    (s.stopDevbox branch).routingTable.devboxFor key =
      if key = branch then none else s.routingTable.devboxFor key := by
  cases branch <;> simp [stopDevbox, RoutingTable.devboxFor_removeBranchDevbox]

/-- Without overrides `set_service_routes` is the replacement of the branch routes. -/
theorem setServiceRoutes_routingTable {routes : List ProxyBranchRouteConfig}
    (h : ∀ route ∈ routes, route.devboxRoute = none) :
    (s.setServiceRoutes routes).routingTable =
      s.routingTable.replaceBranchRoutes (serviceUpdates routes) := by
  have hnil : devboxOverrides routes = [] := by
    rw [devboxOverrides, List.filterMap_eq_nil_iff]
    intro route hr
    simp [h route hr]
  simp [setServiceRoutes, hnil]

/-! ## Which branches a handler leaves in the table -/

@[simp] theorem mem_setDevboxRoute (route : DevboxRouteConfig) (b : Uuid) :
    b ∈ (s.setDevboxRoute route).routingTable.branchRoutes ↔ b ∈ s.routingTable.branchRoutes := by
  unfold setDevboxRoute
  split
  · rfl
  · cases route.branchEnvironmentId <;> simp [RoutingTable.setDefaultDevbox]

@[simp] theorem mem_stopDevbox (branch : Option Uuid) (b : Uuid) :
    b ∈ (s.stopDevbox branch).routingTable.branchRoutes ↔ b ∈ s.routingTable.branchRoutes := by
  cases branch <;> simp [stopDevbox, RoutingTable.clearDefaultDevbox]

end DevboxFor
end SidecarProxyRpcServer
end Lapdev
