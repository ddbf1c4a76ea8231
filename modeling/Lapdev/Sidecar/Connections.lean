import Lapdev.Sidecar.Decisions
import Lapdev.Sidecar.Rpc

/-!
# Connections and the keys that shut them down

A proxied connection takes one decision from the table and subscribes to the registry under a key:
`handle_connection` and `handle_http_proxy` of `server.rs`, `handle_http2_proxy` of
`http2_proxy.rs`. A handler that changes the table shuts keys of its own choice down.
`shutsChanged_iff` says for which tables, calls and connections the two choices meet.
-/

namespace Lapdev

open RustStd

/-- Source: `config.rs`, `service_name_for_port`. -/
def BranchServiceRoute.serviceNameForPort (service : BranchServiceRoute) (port : UInt16) :
    Option String :=
  service.serviceNames.lookup port

/-- How a connection is proxied. -/
inductive Protocol
  | http1
  | http2
  | tcp
  deriving DecidableEq

/-- A connection, by what its decision depends on; `branchId` is the environment of its header,
which only the two HTTP protocols read. -/
structure ProxiedConnection where
  protocol : Protocol
  proxyPort : UInt16
  branchId : Option Uuid

namespace ProxiedConnection

/-- The decision that a connection takes from a table. -/
def routeDecision (c : ProxiedConnection) (t : RoutingTable) : RouteDecision :=
  match c.protocol with
  | .http1 | .http2 => t.resolveHttp (t.servicePortForProxy c.proxyPort) c.branchId
  | .tcp => t.resolveTcp (t.servicePortForProxy c.proxyPort)

/-- The key under which a connection with a decision subscribes, `none` where it ends with an
error instead: a branch service without a name for the port. -/
def keyOf (c : ProxiedConnection) (servicePort : UInt16) : RouteDecision → Option (Option Uuid)
  | .branchService service =>
    match c.protocol with
    | .http1 => (service.serviceNameForPort servicePort).map fun _ => c.branchId
    | .http2 => (service.serviceNameForPort servicePort).map fun _ => none
    | .tcp => some none
  | .branchDevbox branchId _ _ =>
    match c.protocol with
    | .http1 | .tcp => some (some branchId)
    | .http2 => some none
  | .defaultDevbox _ _ => some none
  | .defaultLocal _ => some none

/-- The key under which a connection subscribes after its decision. -/
def subscribeKey (c : ProxiedConnection) (t : RoutingTable) : Option (Option Uuid) :=
  c.keyOf (t.servicePortForProxy c.proxyPort) (c.routeDecision t)

end ProxiedConnection

/-- A call into the sidecar that changes routes. -/
inductive RouteCall
  | setServiceRoutes (routes : List ProxyBranchRouteConfig)
  | setDevboxRoute (route : DevboxRouteConfig)
  | stopDevbox (branchEnvironment : Option Uuid)
  | upsertBranchServiceRoute (route : ProxyBranchRouteConfig)
  | removeBranchServiceRoute (branchEnvironmentId : Uuid)

namespace SidecarProxyRpcServer

/-- The handler of a call. -/
def handle (s : SidecarProxyRpcServer) : RouteCall → RpcOutcome
  | .setServiceRoutes routes => s.setServiceRoutes routes
  | .setDevboxRoute route => s.setDevboxRoute route
  | .stopDevbox branchEnvironment => s.stopDevbox branchEnvironment
  | .upsertBranchServiceRoute route => s.upsertBranchServiceRoute route
  | .removeBranchServiceRoute branchEnvironmentId => s.removeBranchServiceRoute branchEnvironmentId

/-- **A changed connection is shut down.** Where the call changes the decision of a live connection,
it shuts down the key under which the connection subscribed. -/
def ShutsChanged (s : SidecarProxyRpcServer) (call : RouteCall) (c : ProxiedConnection) : Prop :=
  ∀ key, c.subscribeKey s.routingTable = some key →
    c.routeDecision (s.handle call).routingTable ≠ c.routeDecision s.routingTable →
      key ∈ (s.handle call).shutdownBranches

/-! ## The branch route after a call -/

/-- The route that `replace_branch_routes` gives a branch: the last service listed for it, with the
old mode if it is listed once. -/
def replacedRoute (services : List BranchServiceRoute) (old : Option BranchRoute) :
    Option BranchRoute :=
  match services with
  | [] => none
  | [service] => some ⟨service, (old.map BranchRoute.mode).getD .service⟩
  | _ :: service :: rest => some ⟨(service :: rest).getLast (by simp), .service⟩

/-- A branch route with a devbox, if there is one. -/
def overridden (devbox : Option DevboxConnection) (route : BranchRoute) : BranchRoute :=
  match devbox with
  | some connection => { route with mode := .devbox connection }
  | none => route

/-- The entries of a list that are for a branch. -/
def entriesFor {α : Type} (b : Uuid) (entries : List (Uuid × α)) : List α :=
  (entries.filter fun e => e.1 = b).map Prod.snd

/-- The route of a branch after a call, from the call's arguments and the route before it. -/
def routeAfter (s : SidecarProxyRpcServer) (b : Uuid) (old : Option BranchRoute) :
    RouteCall → Option BranchRoute
  | .setServiceRoutes routes =>
    (replacedRoute (entriesFor b (serviceUpdates routes)) old).map
      (overridden (entriesFor b (devboxOverrides routes)).getLast?)
  | .setDevboxRoute route =>
    if route.workloadId = s.workloadId ∧ route.branchEnvironmentId = some b then
      old.map (overridden (some (s.connectionOf route)))
    else old
  | .stopDevbox branchEnvironment =>
    if branchEnvironment = some b then old.map fun route => { route with mode := .service } else old
  | .upsertBranchServiceRoute route =>
    if route.serviceNames ≠ ∅ ∧ route.branchEnvironmentId = b then
      some (overridden (route.devboxRoute.map fun devbox => devboxConnectionFromConfig devbox b)
        ⟨route.serviceRoute, (old.map BranchRoute.mode).getD .service⟩)
    else old
  | .removeBranchServiceRoute branchEnvironmentId => if branchEnvironmentId = b then none else old

end SidecarProxyRpcServer

namespace RoutingTable

open SidecarProxyRpcServer

theorem lookup_replaceBranchRoutesLoop (routes : List (Uuid × BranchServiceRoute))
    (old new : HashTable Uuid BranchRoute) (b : Uuid) :
    (replaceBranchRoutesLoop routes old new).lookup b =
      (replacedRoute (entriesFor b routes) (old.lookup b)).or (new.lookup b) := by
  induction routes generalizing old new with
  | nil => rfl
  | cons e rest ih =>
    obtain ⟨envId, serviceRoute⟩ := e
    by_cases hb : envId = b
    · subst hb
      have hfor : entriesFor envId ((envId, serviceRoute) :: rest) =
          serviceRoute :: entriesFor envId rest := by
        simp [entriesFor]
      -- the first entry takes the old mode; every later one finds the old route gone
      have hstep : ∀ old', old'.lookup envId = none → ∀ mode,
          (replaceBranchRoutesLoop rest old' (new.insert envId ⟨serviceRoute, mode⟩)).lookup
            envId = (replacedRoute (entriesFor envId rest) none).or (some ⟨serviceRoute, mode⟩) := by
        intro old' hold mode
        rw [ih, hold, HashTable.lookup_insert, if_pos rfl]
      rw [hfor, replaceBranchRoutesLoop]
      cases hl : old.lookup envId with
      | none =>
        dsimp only
        rw [hstep old hl]
        rcases entriesFor envId rest with _ | ⟨service, _ | ⟨service', rest'⟩⟩ <;> rfl
      | some existing =>
        dsimp only
        rw [hstep _ (by rw [HashTable.lookup_erase, if_pos rfl])]
        rcases entriesFor envId rest with _ | ⟨service, _ | ⟨service', rest'⟩⟩ <;> rfl
    · have hfor : entriesFor b ((envId, serviceRoute) :: rest) = entriesFor b rest := by
        simp [entriesFor, hb]
      have hne : b ≠ envId := fun h => hb h.symm
      rw [hfor, replaceBranchRoutesLoop]
      split
      · rw [ih, HashTable.lookup_erase, HashTable.lookup_insert, if_neg hne, if_neg hne]
      · rw [ih, HashTable.lookup_insert, if_neg hne]

theorem lookup_replaceBranchRoutes (t : RoutingTable) (routes : List (Uuid × BranchServiceRoute))
    (b : Uuid) :
    (t.replaceBranchRoutes routes).branchRoutes.lookup b =
      replacedRoute (entriesFor b routes) (t.branchRoutes.lookup b) := by
  rw [replaceBranchRoutes, lookup_replaceBranchRoutesLoop, AList.lookup_empty, Option.or_none]

theorem lookup_setBranchDevbox (t : RoutingTable) (b b' : Uuid) (connection : DevboxConnection) :
    (t.setBranchDevbox b connection).branchRoutes.lookup b' =
      if b = b' then (t.branchRoutes.lookup b').map (overridden (some connection))
      else t.branchRoutes.lookup b' := by
  rw [setBranchDevbox, HashTable.lookup_modify]
  split
  · next h => rw [if_pos h.symm]; rfl
  · next h => rw [if_neg fun h' => h h'.symm]

/-- The last of several overrides of a branch wins. -/
theorem lookup_overrides (overrides : List (Uuid × DevboxConnection)) (t : RoutingTable)
    (b : Uuid) :
    (overrides.foldl (fun t o => t.setBranchDevbox o.1 o.2) t).branchRoutes.lookup b =
      (t.branchRoutes.lookup b).map (overridden (entriesFor b overrides).getLast?) := by
  induction overrides generalizing t with
  | nil =>
    rw [List.foldl_nil]
    cases t.branchRoutes.lookup b <;> rfl
  | cons o rest ih =>
    obtain ⟨b', connection⟩ := o
    rw [List.foldl_cons, ih, lookup_setBranchDevbox]
    by_cases hb : b' = b
    · subst hb
      have hfor : entriesFor b' ((b', connection) :: rest) = connection :: entriesFor b' rest := by
        simp [entriesFor]
      rw [if_pos rfl, hfor, Option.map_map]
      cases hrest : (entriesFor b' rest).getLast? with
      | none =>
        rw [List.getLast?_eq_none_iff] at hrest
        rw [hrest]
        rfl
      | some last =>
        rw [List.getLast?_cons, hrest]
        rfl
    · rw [if_neg hb]
      simp [entriesFor, hb]

/-- What a branch route decides. -/
def branchDecision (b : Uuid) (port : UInt16) (route : BranchRoute) : RouteDecision :=
  match route.mode with
  | .devbox connection => .branchDevbox b connection (connection.resolveTargetPort port)
  | .service => .branchService route.service

theorem resolveHttp_some (t : RoutingTable) (port : UInt16) (b : Uuid) :
    t.resolveHttp port (some b) =
      match t.branchRoutes.lookup b with
      | some route => branchDecision b port route
      | none => t.resolveTcp port := by
  unfold resolveHttp
  rw [Option.bind_some]
  cases t.branchRoutes.lookup b <;> rfl

/-- No branch route decides what a table without it decides. -/
theorem branchDecision_ne_resolveTcp (t : RoutingTable) (b : Uuid) (port : UInt16)
    (route : BranchRoute) : branchDecision b port route ≠ t.resolveTcp port := by
  unfold branchDecision resolveTcp
  cases route.mode <;> cases t.defaultRoute <;> exact RouteDecision.noConfusion

/-- Two branch routes decide alike when they have the same devbox or, without one, the same
service. -/
theorem branchDecision_eq_iff {b : Uuid} {port : UInt16} {route route' : BranchRoute} :
    branchDecision b port route' = branchDecision b port route ↔
      route'.mode = route.mode ∧ (route.mode = .service → route'.service = route.service) := by
  unfold branchDecision
  cases hmode : route.mode <;> cases hmode' : route'.mode <;> simp
  rintro rfl
  rfl

end RoutingTable

namespace SidecarProxyRpcServer

variable (s : SidecarProxyRpcServer)

/-! ## What a call does -/

theorem lookup_handle (call : RouteCall) (b : Uuid) :
    (s.handle call).routingTable.branchRoutes.lookup b =
      s.routeAfter b (s.routingTable.branchRoutes.lookup b) call := by
  cases call with
  | setServiceRoutes routes =>
    simp only [handle, setServiceRoutes, routeAfter]
    rw [RoutingTable.lookup_overrides, RoutingTable.lookup_replaceBranchRoutes]
  | setDevboxRoute route =>
    simp only [handle, setDevboxRoute, routeAfter]
    by_cases hw : route.workloadId = s.workloadId
    · rw [if_neg (not_not.2 hw)]
      cases hb : route.branchEnvironmentId with
      | none => rw [if_neg fun h => Option.noConfusion rfl (heq_of_eq h.2)]; rfl
      | some b' =>
        have hconn : s.connectionOf route = devboxConnectionFromConfig route b' := by
          rw [connectionOf, hb]; rfl
        dsimp only
        rw [RoutingTable.lookup_setBranchDevbox, hconn, Option.getD_some]
        by_cases hbb : b' = b
        · rw [if_pos hbb, if_pos ⟨hw, congrArg some hbb⟩]
        · rw [if_neg hbb, if_neg fun h => hbb (Option.some.inj h.2)]
    · rw [if_pos hw, if_neg fun h => hw h.1]
  | stopDevbox branchEnvironment =>
    simp only [handle, stopDevbox, routeAfter]
    cases branchEnvironment with
    | none => rw [if_neg fun h => Option.noConfusion rfl (heq_of_eq h)]; rfl
    | some b' =>
      dsimp only
      rw [RoutingTable.removeBranchDevbox, HashTable.lookup_modify]
      by_cases hbb : b = b'
      · rw [if_pos hbb, if_pos (congrArg some hbb.symm)]
      · rw [if_neg hbb, if_neg fun h => hbb (Option.some.inj h).symm]
  | upsertBranchServiceRoute route =>
    simp only [handle, upsertBranchServiceRoute, routeAfter]
    by_cases hnames : route.serviceNames = ∅
    · rw [if_pos hnames, if_neg fun h => h.1 hnames]
    · rw [if_neg hnames]
      have hupsert : ∀ b', (s.routingTable.upsertBranchServiceRoute route.branchEnvironmentId
          route.serviceRoute).branchRoutes.lookup b' =
            if route.branchEnvironmentId = b' then
              some ⟨route.serviceRoute, ((s.routingTable.branchRoutes.lookup b').map
                BranchRoute.mode).getD .service⟩
            else s.routingTable.branchRoutes.lookup b' := by
        intro b'
        unfold RoutingTable.upsertBranchServiceRoute
        by_cases hbb : route.branchEnvironmentId = b'
        · subst hbb
          split
          · next existing hl => rw [HashTable.lookup_insert, if_pos rfl, if_pos rfl, hl]; rfl
          · next hl => rw [HashTable.lookup_insert, if_pos rfl, if_pos rfl, hl]; rfl
        · have hne : b' ≠ route.branchEnvironmentId := fun h => hbb h.symm
          split
          · rw [HashTable.lookup_insert, if_neg hne, HashTable.lookup_erase, if_neg hne,
              if_neg hbb]
          · rw [HashTable.lookup_insert, if_neg hne, if_neg hbb]
      cases hdevbox : route.devboxRoute with
      | none =>
        dsimp only
        rw [hupsert]
        by_cases hbb : route.branchEnvironmentId = b
        · rw [if_pos hbb, if_pos ⟨hnames, hbb⟩]; rfl
        · rw [if_neg hbb, if_neg fun h => hbb h.2]
      | some devbox =>
        dsimp only
        rw [RoutingTable.lookup_setBranchDevbox, hupsert]
        by_cases hbb : route.branchEnvironmentId = b
        · subst hbb
          rw [if_pos rfl, if_pos rfl, if_pos ⟨hnames, rfl⟩]; rfl
        · rw [if_neg hbb, if_neg hbb, if_neg fun h => hbb h.2]
  | removeBranchServiceRoute b' =>
    simp only [handle, removeBranchServiceRoute, routeAfter, RoutingTable.removeBranchServiceRoute]
    rw [HashTable.lookup_erase]
    by_cases hbb : b = b'
    · rw [if_pos hbb, if_pos hbb.symm]
    · rw [if_neg hbb, if_neg fun h => hbb h.symm]

/-- No call touches the port routes. -/
theorem portRoutes_handle (call : RouteCall) :
    (s.handle call).routingTable.portRoutes = s.routingTable.portRoutes := by
  have hoverrides : ∀ (overrides : List (Uuid × DevboxConnection)) (t : RoutingTable),
      (overrides.foldl (fun t o => t.setBranchDevbox o.1 o.2) t).portRoutes = t.portRoutes := by
    intro overrides
    induction overrides with
    | nil => exact fun _ => rfl
    | cons o rest ih => exact fun t => (ih _).trans rfl
  cases call with
  | setServiceRoutes routes => exact hoverrides _ _
  | setDevboxRoute route =>
    simp only [handle, setDevboxRoute]
    split
    · rfl
    · cases route.branchEnvironmentId <;> rfl
  | stopDevbox branchEnvironment => cases branchEnvironment <;> rfl
  | upsertBranchServiceRoute route =>
    simp only [handle, upsertBranchServiceRoute, RoutingTable.upsertBranchServiceRoute]
    split
    · rfl
    · cases route.devboxRoute <;> dsimp only <;> split <;> rfl
  | removeBranchServiceRoute b => rfl

/-- A call that changes the default route shuts down the connections without a branch. -/
theorem defaultRoute_handle (call : RouteCall) :
    (s.handle call).routingTable.defaultRoute = s.routingTable.defaultRoute ∨
      none ∈ (s.handle call).shutdownBranches := by
  have hoverrides : ∀ (overrides : List (Uuid × DevboxConnection)) (t : RoutingTable),
      (overrides.foldl (fun t o => t.setBranchDevbox o.1 o.2) t).defaultRoute = t.defaultRoute := by
    intro overrides
    induction overrides with
    | nil => exact fun _ => rfl
    | cons o rest ih => exact fun t => (ih _).trans rfl
  cases call with
  | setServiceRoutes routes => exact .inl (hoverrides _ _)
  | setDevboxRoute route =>
    simp only [handle, setDevboxRoute]
    split
    · exact .inl rfl
    · cases route.branchEnvironmentId with
      | none => exact .inr List.mem_cons_self
      | some b => exact .inl rfl
  | stopDevbox branchEnvironment =>
    cases branchEnvironment with
    | none => exact .inr List.mem_cons_self
    | some b => exact .inl rfl
  | upsertBranchServiceRoute route =>
    refine .inl ?_
    simp only [handle, upsertBranchServiceRoute, RoutingTable.upsertBranchServiceRoute]
    split
    · rfl
    · cases route.devboxRoute <;> dsimp only <;> split <;> rfl
  | removeBranchServiceRoute b => exact .inl rfl

/-- A branch of a listed config or an old branch is among the keys of `set_service_routes`. -/
theorem mem_shutdown_setServiceRoutes {routes : List ProxyBranchRouteConfig} {b : Uuid} :
    some b ∈ (s.setServiceRoutes routes).shutdownBranches ↔
      b ∈ routes.map ProxyBranchRouteConfig.branchEnvironmentId ∨ b ∈ s.routingTable.branchRoutes := by
  simp only [setServiceRoutes, List.mem_map_of_injective (Option.some_injective _),
    List.mem_append, List.mem_filter, decide_eq_true_eq]
  rw [AList.mem_keys]
  tauto

/-- A call that changes the route of a branch shuts down the branch's key, and not the key of the
connections without a branch. -/
theorem routeAfter_ne {call : RouteCall} {b : Uuid}
    (h : s.routeAfter b (s.routingTable.branchRoutes.lookup b) call ≠
      s.routingTable.branchRoutes.lookup b) :
    some b ∈ (s.handle call).shutdownBranches ∧ none ∉ (s.handle call).shutdownBranches := by
  cases call with
  | setServiceRoutes routes =>
    refine ⟨s.mem_shutdown_setServiceRoutes.2 ?_, by simp [handle, setServiceRoutes]⟩
    cases hl : s.routingTable.branchRoutes.lookup b with
    | some route => exact .inr (AList.lookup_isSome.1 (by rw [hl]; rfl))
    | none =>
      refine .inl ?_
      by_contra hmem
      have hfor : entriesFor b (serviceUpdates routes) = [] := by
        rw [entriesFor, List.map_eq_nil_iff, List.filter_eq_nil_iff]
        intro e he heq
        obtain ⟨route, hroute, hsome⟩ := List.mem_filterMap.1 he
        split at hsome
        · cases hsome
        · cases hsome
          exact hmem (List.mem_map.2 ⟨route, hroute, by simpa using heq⟩)
      rw [hl, routeAfter, hfor] at h
      exact h rfl
  | setDevboxRoute route =>
    simp only [routeAfter] at h
    split at h
    · next hroute => simp [handle, setDevboxRoute, hroute.1, hroute.2]
    · exact absurd rfl h
  | stopDevbox branchEnvironment =>
    simp only [routeAfter] at h
    split at h
    · next hb => simp [handle, stopDevbox, hb]
    · exact absurd rfl h
  | upsertBranchServiceRoute route =>
    simp only [routeAfter] at h
    split at h
    · next hroute => simp [handle, upsertBranchServiceRoute, hroute.1, hroute.2]
    · exact absurd rfl h
  | removeBranchServiceRoute b' =>
    simp only [routeAfter] at h
    split at h
    · next hb => simp [handle, removeBranchServiceRoute, hb]
    · exact absurd rfl h

/-- Where no key `None` is shut down, the decisions without a branch stay. -/
theorem resolveTcp_handle {call : RouteCall} (h : none ∉ (s.handle call).shutdownBranches)
    (port : UInt16) :
    (s.handle call).routingTable.resolveTcp port = s.routingTable.resolveTcp port := by
  have hdefault := (s.defaultRoute_handle call).resolve_right h
  unfold RoutingTable.resolveTcp RoutingTable.targetPortForService
  rw [hdefault, portRoutes_handle]

/-! ## Which connections are missed -/

/-- The call gives a branch that the table does not know a route: `upsert_branch_service_route` and
`set_service_routes` do, where the config has service names. -/
def AddsBranch (b : Uuid) : RouteCall → Prop
  | .setServiceRoutes routes =>
    ∃ route ∈ routes, route.branchEnvironmentId = b ∧ route.serviceNames ≠ ∅
  | .upsertBranchServiceRoute route => route.branchEnvironmentId = b ∧ route.serviceNames ≠ ∅
  | _ => False

/-- The call leaves the branch its devbox or, without one, its service. -/
def KeepsBranch (b : Uuid) (route : BranchRoute) (call : RouteCall) : Prop :=
  ∃ route', s.routeAfter b (some route) call = some route' ∧ route'.mode = route.mode ∧
    (route.mode = .service → route'.service = route.service)

/-- A connection that the call misses: its header names a branch, and either the table does not know
the branch and the call adds it, or the connection is an HTTP/2 one that the branch's route answers
and the call changes that route. -/
def Misses (call : RouteCall) (c : ProxiedConnection) : Prop :=
  c.protocol ≠ .tcp ∧ ∃ b, c.branchId = some b ∧
    match s.routingTable.branchRoutes.lookup b with
    | none => AddsBranch b call
    | some route =>
      c.protocol = .http2 ∧ ¬s.KeepsBranch b route call ∧
        (route.mode = .service →
          (route.service.serviceNameForPort (s.routingTable.servicePortForProxy c.proxyPort)).isSome)

theorem routeAfter_none_isSome {b : Uuid} {call : RouteCall} :
    (s.routeAfter b none call).isSome ↔ AddsBranch b call := by
  cases call with
  | setServiceRoutes routes =>
    have hfor : entriesFor b (serviceUpdates routes) ≠ [] ↔
        ∃ route ∈ routes, route.branchEnvironmentId = b ∧ route.serviceNames ≠ ∅ := by
      rw [← List.isEmpty_eq_false_iff, entriesFor]
      simp only [serviceUpdates, List.isEmpty_eq_false_iff_exists_mem, List.mem_map,
        List.mem_filter, List.mem_filterMap, decide_eq_true_eq]
      constructor
      · rintro ⟨_, ⟨b', service⟩, ⟨⟨route, hroute, hsome⟩, rfl⟩, rfl⟩
        split at hsome
        · cases hsome
        · next hnames =>
          cases hsome
          exact ⟨route, hroute, rfl, hnames⟩
      · rintro ⟨route, hroute, rfl, hnames⟩
        exact ⟨_, (route.branchEnvironmentId, route.serviceRoute),
          ⟨⟨route, hroute, if_neg hnames⟩, rfl⟩, rfl⟩
    rw [AddsBranch, ← hfor, routeAfter, Option.isSome_map]
    rcases entriesFor b (serviceUpdates routes) with _ | ⟨service, _ | ⟨service', rest⟩⟩ <;>
      simp [replacedRoute]
  | setDevboxRoute route => simp [routeAfter, AddsBranch]
  | stopDevbox branchEnvironment => simp [routeAfter, AddsBranch]
  | upsertBranchServiceRoute route =>
    simp only [routeAfter, AddsBranch]
    split
    · next h => simp [h.1, h.2]
    · next h => simpa using fun hb hnames => h ⟨hnames, hb⟩
  | removeBranchServiceRoute b' => simp [routeAfter, AddsBranch]

/-- The key of a connection without a branch route. -/
theorem keyOf_resolveTcp (c : ProxiedConnection) (t : RoutingTable) (port : UInt16) :
    c.keyOf port (t.resolveTcp port) = some none := by
  unfold RoutingTable.resolveTcp
  cases t.defaultRoute <;> rfl

/-- The decision of a connection that no branch route answers. -/
theorem shutsChanged_of_resolveTcp {call : RouteCall} {c : ProxiedConnection}
    (h : c.routeDecision s.routingTable =
      s.routingTable.resolveTcp (s.routingTable.servicePortForProxy c.proxyPort))
    (h' : c.routeDecision (s.handle call).routingTable = (s.handle call).routingTable.resolveTcp
      ((s.handle call).routingTable.servicePortForProxy c.proxyPort)) :
    s.ShutsChanged call c := by
  intro key hkey hchanged
  rw [ProxiedConnection.subscribeKey, h, keyOf_resolveTcp] at hkey
  cases hkey
  by_contra hnone
  refine hchanged ?_
  rw [h, h', RoutingTable.servicePortForProxy, portRoutes_handle]
  exact s.resolveTcp_handle hnone _

/-- **A call shuts down the connections whose decision it changes**, except those it misses. -/
theorem shutsChanged_iff (call : RouteCall) (c : ProxiedConnection) :
    s.ShutsChanged call c ↔ ¬s.Misses call c := by
  obtain ⟨protocol, proxyPort, branchId⟩ := c
  by_cases htcp : protocol = .tcp
  · subst htcp
    exact iff_of_true (s.shutsChanged_of_resolveTcp rfl rfl) fun h => h.1 rfl
  have hdecision : ∀ t : RoutingTable, ProxiedConnection.routeDecision ⟨protocol, proxyPort, branchId⟩ t =
      t.resolveHttp (t.servicePortForProxy proxyPort) branchId := by
    intro t
    cases protocol with
    | http1 | http2 => rfl
    | tcp => exact absurd rfl htcp
  cases branchId with
  | none =>
    refine iff_of_true (s.shutsChanged_of_resolveTcp (hdecision _) (hdecision _)) ?_
    rintro ⟨-, b, hb, -⟩
    cases hb
  | some b =>
    have hport : (s.handle call).routingTable.servicePortForProxy proxyPort =
        s.routingTable.servicePortForProxy proxyPort := by
      rw [RoutingTable.servicePortForProxy, portRoutes_handle]
      rfl
    have hbefore := (hdecision s.routingTable).trans (s.routingTable.resolveHttp_some _ b)
    have hafter := (hdecision (s.handle call).routingTable).trans
      ((s.handle call).routingTable.resolveHttp_some _ b)
    rw [lookup_handle, hport] at hafter
    have hne : s.routeAfter b (s.routingTable.branchRoutes.lookup b) call ≠
        s.routingTable.branchRoutes.lookup b → some b ∈ (s.handle call).shutdownBranches ∧
          none ∉ (s.handle call).shutdownBranches := s.routeAfter_ne
    cases hl : s.routingTable.branchRoutes.lookup b with
    | none =>
      rw [hl] at hbefore hafter hne
      have hmisses : s.Misses call ⟨protocol, proxyPort, some b⟩ ↔ AddsBranch b call := by
        simp only [Misses, Option.some.injEq, exists_eq_left', hl]
        exact and_iff_right htcp
      rw [hmisses, ← s.routeAfter_none_isSome, Option.not_isSome_iff_eq_none]
      constructor
      · intro h
        by_contra hsome
        obtain ⟨route, hroute⟩ := Option.ne_none_iff_exists'.1 hsome
        rw [hroute] at hafter
        refine (hne (by rw [hroute]; exact Option.some_ne_none route)).2 (h none ?_ ?_)
        · rw [ProxiedConnection.subscribeKey, hbefore]
          exact keyOf_resolveTcp _ _ _
        · rw [hafter, hbefore]
          intro heq
          exact RoutingTable.branchDecision_ne_resolveTcp _ _ _ _ heq
      · intro hnone
        rw [hnone] at hafter
        exact s.shutsChanged_of_resolveTcp hbefore (hafter.trans (by rw [← hport]))
    | some route =>
      rw [hl] at hbefore hafter hne
      dsimp only at hbefore hafter
      -- the decision changes exactly when the call does not keep the branch
      have hchanged : ProxiedConnection.routeDecision ⟨protocol, proxyPort, some b⟩
          (s.handle call).routingTable =
            ProxiedConnection.routeDecision ⟨protocol, proxyPort, some b⟩ s.routingTable ↔
              s.KeepsBranch b route call := by
        rw [hafter, hbefore, KeepsBranch]
        cases hafterRoute : s.routeAfter b (some route) call with
        | none =>
          refine iff_of_false (fun h => ?_) (by simp)
          exact RoutingTable.branchDecision_ne_resolveTcp _ _ _ _ h.symm
        | some route' => simpa using RoutingTable.branchDecision_eq_iff
      have hkeys : ¬s.KeepsBranch b route call →
          some b ∈ (s.handle call).shutdownBranches ∧ none ∉ (s.handle call).shutdownBranches := by
        intro hnot
        refine hne fun heq => hnot ⟨route, heq, rfl, fun _ => rfl⟩
      have hmisses : s.Misses call ⟨protocol, proxyPort, some b⟩ ↔
          protocol = .http2 ∧ ¬s.KeepsBranch b route call ∧ (route.mode = .service →
            (route.service.serviceNameForPort
              (s.routingTable.servicePortForProxy proxyPort)).isSome) := by
        simp only [Misses, Option.some.injEq, exists_eq_left', hl]
        exact and_iff_right htcp
      rw [hmisses]
      constructor
      · rintro h ⟨rfl, hnot, hnamed⟩
        have hkey : ProxiedConnection.subscribeKey ⟨.http2, proxyPort, some b⟩ s.routingTable =
            some none := by
          rw [ProxiedConnection.subscribeKey, hbefore, RoutingTable.branchDecision]
          cases hmode : route.mode with
          | devbox connection => rfl
          | service =>
            obtain ⟨name, hname⟩ := Option.isSome_iff_exists.1 (hnamed hmode)
            simp only [ProxiedConnection.keyOf, hname, Option.map_some]
        exact (hkeys hnot).2 (h none hkey fun heq => hnot (hchanged.1 heq))
      · intro hmiss key hkey hdiffers
        have hnot : ¬s.KeepsBranch b route call := fun hkeeps => hdiffers (hchanged.2 hkeeps)
        rw [ProxiedConnection.subscribeKey, hbefore, RoutingTable.branchDecision] at hkey
        cases protocol with
        | http1 =>
          have : key = some b := by
            cases hmode : route.mode with
            | devbox connection =>
              rw [hmode] at hkey
              cases hkey
              rfl
            | service =>
              rw [hmode] at hkey
              obtain ⟨name, -, rfl⟩ := Option.map_eq_some_iff.1 hkey
              rfl
          exact this ▸ (hkeys hnot).1
        | http2 =>
          refine absurd ⟨rfl, hnot, fun hmode => ?_⟩ hmiss
          rw [hmode] at hkey
          obtain ⟨name, hname, -⟩ := Option.map_eq_some_iff.1 hkey
          rw [hname]
          rfl
        | tcp => exact absurd rfl htcp

/-- The sidecar of the workload `2` whose table has the branch `10` in service mode. -/
def branchServer : SidecarProxyRpcServer where
  workloadId := 2
  environmentId := 1
  routingTable :=
    { branchRoutes := AList.singleton 10
        ⟨⟨Finmap.singleton 80 "web-branch", ∅, true, .personal, none⟩, .service⟩
      defaultRoute := .«local»
      portRoutes := ∅ }

/-- A devbox for the branch does not reach the branch's HTTP/2 connections. -/
theorem http2_connection_missed :
    ¬branchServer.ShutsChanged
      (.setDevboxRoute ⟨5, 2, "token", "ws", "/*", some 10, none, none, ∅⟩)
      ⟨.http2, 80, some 10⟩ := by
  intro h
  exact absurd (h none (by decide) (by decide)) (by decide)

end SidecarProxyRpcServer

end Lapdev
