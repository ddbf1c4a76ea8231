import Lapdev.Sidecar.Rpc

/-!
# Setting the service routes of a sidecar

What `set_service_routes` leaves of the table. Replacing the branches, keeping their devboxes and
attaching the overrides are three passes over maps; `lookup_setServiceRoutes` is one equation for
the route of a branch after all of them, in the branch's own config and its route before.
-/

namespace Lapdev

open RustStd

/-- In a list with distinct keys the entry of a key comes from the element of that key. -/
theorem find?_filterMap_of_nodup {α K β : Type} [DecidableEq K] {l : List α} {key : α → K}
    {g : α → Option (K × β)} (hg : ∀ a e, g a = some e → e.1 = key a) (hn : (l.map key).Nodup)
    (k : K) :
    (l.filterMap g).find? (fun e => e.1 = k) = (l.find? fun a => key a = k).bind g := by
  induction l with
  | nil => rfl
  | cons a l ih =>
    rw [List.map_cons, List.nodup_cons] at hn
    rw [List.filterMap_cons, List.find?_cons]
    by_cases hk : key a = k
    · have hrest : (l.filterMap g).find? (fun e => e.1 = k) = none := by
        rw [ih hn.2, List.find?_eq_none.2, Option.bind_none]
        intro a' ha' hk'
        exact hn.1 (List.mem_map.2 ⟨a', ha', (of_decide_eq_true hk').trans hk.symm⟩)
      rw [decide_eq_true hk]
      cases ha : g a with
      | none => simpa [ha] using hrest
      | some e => simp [ha, hg a e ha, hk]
    · rw [decide_eq_false hk]
      cases ha : g a with
      | none => exact ih hn.2
      | some e => simpa [hg a e ha, hk] using ih hn.2

/-- The keys of the entries are keys of the list, in its order. -/
theorem keys_filterMap_sublist {α K β : Type} {key : α → K} {g : α → Option (K × β)}
    (hg : ∀ a e, g a = some e → e.1 = key a) (l : List α) :
    ((l.filterMap g).map Prod.fst).Sublist (l.map key) := by
  induction l with
  | nil => exact .slnil
  | cons a l ih =>
    rw [List.filterMap_cons, List.map_cons]
    cases ha : g a with
    | none => exact ih.cons _
    | some e =>
      rw [List.map_cons, hg a e ha]
      exact ih.cons_cons _

namespace RoutingTable

/-- With the branches listed once each, a listed branch has its listed service and its old mode. -/
theorem lookup_replaceBranchRoutesLoop_of_nodup (routes : List (Uuid × BranchServiceRoute))
    (old new : HashTable Uuid BranchRoute) (b : Uuid) (hnodup : (routes.map Prod.fst).Nodup) :
    (replaceBranchRoutesLoop routes old new).lookup b =
      ((routes.find? fun e => e.1 = b).map fun e =>
        ⟨e.2, ((old.lookup b).map BranchRoute.mode).getD .service⟩).or (new.lookup b) := by
  induction routes generalizing old new with
  | nil => rfl
  | cons e rest ih =>
    obtain ⟨envId, serviceRoute⟩ := e
    rw [List.map_cons, List.nodup_cons] at hnodup
    rw [replaceBranchRoutesLoop, List.find?_cons]
    by_cases hb : envId = b
    · subst hb
      have hrest : (rest.find? fun e => e.1 = envId) = none := by
        refine List.find?_eq_none.2 fun e he heq => hnodup.1 ?_
        exact List.mem_map.2 ⟨e, he, of_decide_eq_true heq⟩
      cases hold : old.lookup envId <;> simp [ih _ _ hnodup.2, hrest]
    · cases hold : old.lookup envId with
      | none => simp [ih _ _ hnodup.2, hb, Ne.symm hb]
      | some existing =>
        simp [ih _ _ hnodup.2, hb, Ne.symm hb]

theorem lookup_replaceBranchRoutes_of_nodup (t : RoutingTable)
    (routes : List (Uuid × BranchServiceRoute)) (hnodup : (routes.map Prod.fst).Nodup) (b : Uuid) :
    (t.replaceBranchRoutes routes).branchRoutes.lookup b =
      (routes.find? fun e => e.1 = b).map fun e =>
        ⟨e.2, ((t.branchRoutes.lookup b).map BranchRoute.mode).getD .service⟩ := by
  rw [replaceBranchRoutes, lookup_replaceBranchRoutesLoop_of_nodup _ _ _ _ hnodup,
    AList.lookup_empty, Option.or_none]

/-- Devboxes are attached to the branches of the table that they are listed for. -/
theorem lookup_setBranchDevboxes (overrides : List (Uuid × DevboxConnection)) (t : RoutingTable)
    (hnodup : (overrides.map Prod.fst).Nodup) (b : Uuid) :
    (overrides.foldl (fun t o => t.setBranchDevbox o.1 o.2) t).branchRoutes.lookup b =
      (t.branchRoutes.lookup b).map fun route =>
        match overrides.find? fun o => o.1 = b with
        | some o => { route with mode := .devbox o.2 }
        | none => route := by
  induction overrides generalizing t with
  | nil => simp
  | cons o rest ih =>
    rw [List.map_cons, List.nodup_cons] at hnodup
    rw [List.foldl_cons, ih _ hnodup.2, setBranchDevbox, HashTable.lookup_modify, List.find?_cons]
    by_cases hb : o.1 = b
    · have hrest : (rest.find? fun o => o.1 = b) = none := by
        refine List.find?_eq_none.2 fun o' ho' heq => hnodup.1 ?_
        exact List.mem_map.2 ⟨o', ho', (of_decide_eq_true heq).trans hb.symm⟩
      rw [if_pos hb.symm, hrest, decide_eq_true hb, Option.map_map]
      rfl
    · rw [if_neg (Ne.symm hb), decide_eq_false hb]

/-- Devboxes of branches change neither the default route nor the port routes. -/
theorem frame_setBranchDevboxes (overrides : List (Uuid × DevboxConnection)) (t : RoutingTable) :
    (overrides.foldl (fun t o => t.setBranchDevbox o.1 o.2) t).defaultRoute = t.defaultRoute ∧
      (overrides.foldl (fun t o => t.setBranchDevbox o.1 o.2) t).portRoutes = t.portRoutes := by
  induction overrides generalizing t with
  | nil => exact ⟨rfl, rfl⟩
  | cons o rest ih => exact ih _

end RoutingTable

namespace ProxyBranchRouteConfig

/-- The mode that a config gives its branch: the override's devbox, or the mode it had. -/
def modeAfter (route : ProxyBranchRouteConfig) (t : RoutingTable) : BranchMode :=
  match route.devboxRoute with
  | some devbox => .devbox (devboxConnectionFromConfig devbox route.branchEnvironmentId)
  | none =>
    ((t.branchRoutes.lookup route.branchEnvironmentId).map BranchRoute.mode).getD .service

/-- The route that a config gives its branch. -/
def routeAfter (route : ProxyBranchRouteConfig) (t : RoutingTable) : Option BranchRoute :=
  if route.serviceNames = ∅ then none else some ⟨route.serviceRoute, route.modeAfter t⟩

end ProxyBranchRouteConfig

/-! ## What an installed route holds -/

/-- The access levels of the RPC and those of the sidecar. -/
inductive SameLevel : ProxyRouteAccessLevel → AccessLevel → Prop
  | personal : SameLevel .personal .personal
  | shared : SameLevel .shared .shared
  | «public» : SameLevel .«public» .«public»

/-- A service route that holds the service of a config, field by field. -/
structure HoldsService (route : ProxyBranchRouteConfig) (service : BranchServiceRoute) : Prop where
  serviceNames : service.serviceNames = route.serviceNames
  headers : service.headers = route.headers
  requiresAuth : service.requiresAuth = route.requiresAuth
  accessLevel : SameLevel route.accessLevel service.accessLevel
  timeoutMs : service.timeoutMs = route.timeoutMs

/-- A connection that leads to the devbox of a config in an environment, field by field. -/
structure LeadsTo (devbox : DevboxRouteConfig) (environmentId : Uuid)
    (connection : DevboxConnection) : Prop where
  interceptId : connection.metadata.interceptId = devbox.interceptId
  workloadId : connection.metadata.workloadId = devbox.workloadId
  authToken : connection.metadata.authToken = devbox.authToken
  websocketUrl : connection.metadata.websocketUrl = devbox.websocketUrl
  pathPattern : connection.metadata.pathPattern = devbox.pathPattern
  portMappings : connection.metadata.portMappings = devbox.portMappings
  createdAt : connection.metadata.createdAtEpochSeconds = devbox.createdAtEpochSeconds
  expiresAt : connection.metadata.expiresAtEpochSeconds = devbox.expiresAtEpochSeconds
  target : connection.targetEnvironmentId = environmentId

/-- The mode of a branch after its config: the devbox of an override, else the mode that the branch
had, else `Service`. -/
structure HoldsMode (t : RoutingTable) (route : ProxyBranchRouteConfig) (mode : BranchMode) :
    Prop where
  override : ∀ devbox ∈ route.devboxRoute,
    ∃ connection, mode = .devbox connection ∧
      LeadsTo devbox route.branchEnvironmentId connection
  kept : route.devboxRoute = none →
    ∀ before ∈ t.branchRoutes.lookup route.branchEnvironmentId, mode = before.mode
  fresh : route.devboxRoute = none → route.branchEnvironmentId ∉ t.branchRoutes → mode = .service

theorem sameLevel_accessLevelFromProxy (level : ProxyRouteAccessLevel) :
    SameLevel level (accessLevelFromProxy level) := by
  cases level with
  | personal => exact .personal
  | shared => exact .shared
  | «public» => exact .«public»

/-- The service route both handlers build holds the service of the config. -/
theorem holdsService_serviceRoute (route : ProxyBranchRouteConfig) :
    HoldsService route route.serviceRoute :=
  ⟨rfl, rfl, rfl, sameLevel_accessLevelFromProxy _, rfl⟩

/-- The connection that is built from a config leads to its devbox. -/
theorem leadsTo_devboxConnectionFromConfig (devbox : DevboxRouteConfig) (environmentId : Uuid) :
    LeadsTo devbox environmentId (devboxConnectionFromConfig devbox environmentId) :=
  ⟨rfl, rfl, rfl, rfl, rfl, rfl, rfl, rfl, rfl⟩

theorem holdsMode_modeAfter (t : RoutingTable) (route : ProxyBranchRouteConfig) :
    HoldsMode t route (route.modeAfter t) := by
  constructor
  · intro devbox hdevbox
    refine ⟨_, ?_, leadsTo_devboxConnectionFromConfig devbox route.branchEnvironmentId⟩
    rw [ProxyBranchRouteConfig.modeAfter, hdevbox]
  · intro hnone before hbefore
    rw [ProxyBranchRouteConfig.modeAfter, hnone, hbefore]
    rfl
  · intro hnone hfresh
    rw [ProxyBranchRouteConfig.modeAfter, hnone, AList.lookup_eq_none.2 hfresh]
    rfl

namespace SidecarProxyRpcServer

open ProxyBranchRouteConfig RoutingTable

variable {s : SidecarProxyRpcServer} {routes : List ProxyBranchRouteConfig}

theorem key_serviceUpdate (route : ProxyBranchRouteConfig) (e : Uuid × BranchServiceRoute)
    (h : (if route.serviceNames = ∅ then none
      else some (route.branchEnvironmentId, route.serviceRoute)) = some e) :
    e.1 = route.branchEnvironmentId := by
  split at h
  · cases h
  · cases h
    rfl

theorem key_devboxOverride (route : ProxyBranchRouteConfig) (e : Uuid × DevboxConnection)
    (h : (route.devboxRoute.map fun devbox => (route.branchEnvironmentId,
      devboxConnectionFromConfig devbox route.branchEnvironmentId)) = some e) :
    e.1 = route.branchEnvironmentId := by
  obtain ⟨devbox, -, rfl⟩ := Option.map_eq_some_iff.1 h
  rfl

/-- The config that is found for a branch is one of the list. -/
theorem mem_of_find? {b : Uuid} {route : ProxyBranchRouteConfig}
    (h : (routes.find? fun route => route.branchEnvironmentId = b) = some route) :
    route ∈ routes ∧ route.branchEnvironmentId = b := by
  have hb := List.find?_some h
  exact ⟨List.mem_of_find?_eq_some h, of_decide_eq_true hb⟩

/-- **The route of a branch** after `set_service_routes` is the one that its config gives it. -/
theorem lookup_setServiceRoutes (hnodup : (routes.map branchEnvironmentId).Nodup) (b : Uuid) :
    (s.setServiceRoutes routes).routingTable.branchRoutes.lookup b =
      (routes.find? fun route => route.branchEnvironmentId = b).bind fun route =>
        route.routeAfter s.routingTable := by
  have hupdates : ((serviceUpdates routes).map Prod.fst).Nodup :=
    hnodup.sublist (keys_filterMap_sublist key_serviceUpdate routes)
  have hoverrides : ((devboxOverrides routes).map Prod.fst).Nodup :=
    hnodup.sublist (keys_filterMap_sublist key_devboxOverride routes)
  rw [setServiceRoutes]
  dsimp only
  rw [lookup_setBranchDevboxes _ _ hoverrides,
    lookup_replaceBranchRoutes_of_nodup _ _ hupdates, serviceUpdates, devboxOverrides,
    find?_filterMap_of_nodup key_serviceUpdate hnodup,
    find?_filterMap_of_nodup key_devboxOverride hnodup]
  cases hfound : routes.find? fun route => route.branchEnvironmentId = b with
  | none => rfl
  | some route =>
    obtain ⟨-, rfl⟩ := mem_of_find? hfound
    by_cases hempty : route.serviceNames = ∅
    · simp [ProxyBranchRouteConfig.routeAfter, hempty]
    · cases hdevbox : route.devboxRoute <;>
        simp [ProxyBranchRouteConfig.routeAfter, modeAfter, hempty, hdevbox]

/-- With distinct branches the config of a branch does not depend on the order of the list. -/
theorem find?_of_perm {routes' : List ProxyBranchRouteConfig}
    (hnodup : (routes.map branchEnvironmentId).Nodup) (hperm : routes.Perm routes') (b : Uuid) :
    (routes.find? fun route => route.branchEnvironmentId = b) =
      routes'.find? fun route => route.branchEnvironmentId = b := by
  have hnodup' : (routes'.map branchEnvironmentId).Nodup := (hperm.map _).nodup_iff.1 hnodup
  have hunique : ∀ route ∈ routes', ∀ route' ∈ routes',
      route.branchEnvironmentId = route'.branchEnvironmentId → route = route' :=
    fun _ hr _ hr' h => List.inj_on_of_nodup_map hnodup' hr hr' h
  cases hfound : routes.find? fun route => route.branchEnvironmentId = b with
  | none =>
    refine (List.find?_eq_none.2 fun route hr => ?_).symm
    exact List.find?_eq_none.1 hfound route (hperm.mem_iff.2 hr)
  | some route =>
    obtain ⟨hmem, hb⟩ := mem_of_find? hfound
    have hmem' := hperm.mem_iff.1 hmem
    cases hfound' : routes'.find? fun route => route.branchEnvironmentId = b with
    | none => exact absurd (decide_eq_true hb) (List.find?_eq_none.1 hfound' route hmem')
    | some route' =>
      obtain ⟨hroute', hb'⟩ := mem_of_find? hfound'
      rw [hunique route hmem' route' hroute' (hb.trans hb'.symm)]

/-- The shutdowns of a reordered list are the same branches. -/
theorem shutdownBranches_perm {routes' : List ProxyBranchRouteConfig} (hperm : routes.Perm routes') :
    (s.setServiceRoutes routes).shutdownBranches.Perm
      (s.setServiceRoutes routes').shutdownBranches := by
  have hids : (routes.map branchEnvironmentId).Perm (routes'.map branchEnvironmentId) := hperm.map _
  have hprevious : (s.routingTable.branchRoutes.keys.filter (· ∉ routes.map branchEnvironmentId)) =
      s.routingTable.branchRoutes.keys.filter (· ∉ routes'.map branchEnvironmentId) :=
    List.filter_congr fun b _ => decide_eq_decide.2 (not_congr hids.mem_iff)
  exact (hids.append (.of_eq hprevious)).map _

/-- **`set_service_routes` replaces the branches by those of its configs**: what is installed for a
branch holds the service of its config and the mode the config gives it or leaves it. The default
route and the port routes stay, and no order of the configs matters. -/
theorem setServiceRoutes_spec (s : SidecarProxyRpcServer) (routes : List ProxyBranchRouteConfig)
    (hnodup : (routes.map branchEnvironmentId).Nodup) :
    (∀ b, b ∈ (s.setServiceRoutes routes).routingTable.branchRoutes ↔
      ∃ route ∈ routes, route.branchEnvironmentId = b ∧ route.serviceNames ≠ ∅) ∧
    (∀ route ∈ routes, route.serviceNames ≠ ∅ →
      ∃ installed,
        (s.setServiceRoutes routes).routingTable.branchRoutes.lookup route.branchEnvironmentId =
          some installed ∧
        HoldsService route installed.service ∧ HoldsMode s.routingTable route installed.mode) ∧
    (s.setServiceRoutes routes).routingTable.defaultRoute = s.routingTable.defaultRoute ∧
    (s.setServiceRoutes routes).routingTable.portRoutes = s.routingTable.portRoutes ∧
    ∀ routes', routes.Perm routes' →
      (s.setServiceRoutes routes').routingTable.branchRoutes.toFinmap =
          (s.setServiceRoutes routes).routingTable.branchRoutes.toFinmap ∧
        (s.setServiceRoutes routes').shutdownBranches.Perm
          (s.setServiceRoutes routes).shutdownBranches ∧
        (s.setServiceRoutes routes').result = (s.setServiceRoutes routes).result := by
  have hof : ∀ route ∈ routes, (routes.find? fun route' =>
      route'.branchEnvironmentId = route.branchEnvironmentId) = some route := by
    intro route hr
    cases hfound : routes.find? fun route' =>
        route'.branchEnvironmentId = route.branchEnvironmentId with
    | none => exact absurd (decide_eq_true rfl) (List.find?_eq_none.1 hfound route hr)
    | some found =>
      obtain ⟨hmem, hid⟩ := mem_of_find? hfound
      rw [List.inj_on_of_nodup_map hnodup hmem hr hid]
  have hframe := frame_setBranchDevboxes (devboxOverrides routes)
    (s.routingTable.replaceBranchRoutes (serviceUpdates routes))
  refine ⟨fun b => ?_, fun route hr hnames => ?_, hframe.1, hframe.2, fun routes' hperm => ?_⟩
  · rw [← AList.lookup_isSome, lookup_setServiceRoutes hnodup]
    constructor
    · intro hsome
      obtain ⟨_, hbind⟩ := Option.isSome_iff_exists.1 hsome
      obtain ⟨route, hfound, hroute⟩ := Option.bind_eq_some_iff.1 hbind
      obtain ⟨hmem, hid⟩ := mem_of_find? hfound
      refine ⟨route, hmem, hid, fun hempty => ?_⟩
      rw [ProxyBranchRouteConfig.routeAfter, if_pos hempty] at hroute
      cases hroute
    · rintro ⟨route, hr, rfl, hnames⟩
      rw [hof route hr, Option.bind_some, ProxyBranchRouteConfig.routeAfter, if_neg hnames]
      rfl
  · refine ⟨⟨route.serviceRoute, route.modeAfter s.routingTable⟩, ?_,
      holdsService_serviceRoute route, holdsMode_modeAfter s.routingTable route⟩
    rw [lookup_setServiceRoutes hnodup, hof route hr, Option.bind_some,
      ProxyBranchRouteConfig.routeAfter, if_neg hnames]
  · refine ⟨Finmap.ext_lookup fun b => ?_, (shutdownBranches_perm hperm).symm, rfl⟩
    have hnodup' : (routes'.map branchEnvironmentId).Nodup := (hperm.map _).nodup_iff.1 hnodup
    rw [Finmap.lookup_toFinmap, Finmap.lookup_toFinmap, lookup_setServiceRoutes hnodup',
      lookup_setServiceRoutes hnodup, find?_of_perm hnodup hperm]

/-- A sidecar without branches. -/
def unrouted : SidecarProxyRpcServer := ⟨1, 2, .empty⟩

/-- The branch `3` serves the service `web` on the port 80. -/
def webConfig : ProxyBranchRouteConfig where
  branchEnvironmentId := 3
  serviceNames := Finmap.singleton 80 "web"
  headers := ∅
  requiresAuth := false
  accessLevel := .personal
  timeoutMs := none
  devboxRoute := none

/-- The branch `4` serves `api` on the port 8080, from a devbox. -/
def apiConfig : ProxyBranchRouteConfig where
  branchEnvironmentId := 4
  serviceNames := Finmap.singleton 8080 "api"
  headers := Finmap.singleton "x-branch" "api"
  requiresAuth := true
  accessLevel := .shared
  timeoutMs := some 30000
  devboxRoute := some ⟨7, 1, "token", "ws://devbox", "/*", some 4, none, none, ∅⟩

/-- Both branches are installed with what their configs hold, one of them with its devbox. -/
theorem setServiceRoutes_spec_webAndApi :
    (∃ web, (unrouted.setServiceRoutes [webConfig, apiConfig]).routingTable.branchRoutes.lookup 3 =
        some web ∧ web.service.serviceNames = Finmap.singleton 80 "web" ∧ web.mode = .service) ∧
      ∃ api, (unrouted.setServiceRoutes [webConfig, apiConfig]).routingTable.branchRoutes.lookup 4 =
        some api ∧ api.service.timeoutMs = some 30000 ∧ api.mode ≠ .service := by
  have hspec := (setServiceRoutes_spec unrouted [webConfig, apiConfig] (by decide)).2.1
  constructor
  · obtain ⟨web, hweb, hservice, hmode⟩ := hspec webConfig (by simp) (by decide)
    exact ⟨web, hweb, hservice.serviceNames, hmode.fresh rfl (AList.notMem_empty 3)⟩
  · obtain ⟨api, hapi, hservice, hmode⟩ := hspec apiConfig (by simp) (by decide)
    obtain ⟨connection, hconnection, -⟩ := hmode.override _ rfl
    refine ⟨api, hapi, hservice.timeoutMs, ?_⟩
    rw [hconnection]
    rintro ⟨⟩

end SidecarProxyRpcServer

end Lapdev
