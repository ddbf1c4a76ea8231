import Lapdev.Manager.Calls

/-!
# Devbox routes of several branches on one workload

A sidecar holds one devbox per branch and one default devbox; the manager remembers one route per
workload. `removeDevboxRoute_stops_devbox` says exactly when `remove_devbox_route` frees a key of
the sidecar, and that it always does so in runs that never displace a remembered route.
`setDevboxRoutes_noninterference_iff` says exactly when a bulk push for one branch leaves the
other keys alone.
-/

namespace Lapdev

open RustStd Runs

namespace ProxySystem

/-! ## A remembered route that is displaced -/

/-- A call that sets a route of the workload does so under the key the manager remembers for it,
or while none is remembered. -/
def KeepsRemembered (env w : Uuid) (s : ProxySystem) : ManagerCall → Prop
  | .setDevboxRoute env' route => env' = env → route.workloadId = w →
      ∀ r ∈ s.manager.devboxRouteForWorkload env w,
        r.branchEnvironmentId = route.branchEnvironmentId
  | .setDevboxRoutes _ env' routes => env' = env → ∀ route ∈ routes.lookup w,
      ∀ r ∈ s.manager.devboxRouteForWorkload env w,
        r.branchEnvironmentId = route.branchEnvironmentId
  | _ => True

/-- Every devbox of the sidecar is under the key the manager remembers for its workload. -/
def DevboxesRemembered (env w : Uuid) (client : SidecarProxyRpcClient) (s : ProxySystem) : Prop :=
  ∀ key, (s.tables client).devboxFor key ≠ none → s.manager.Remembers env w key

section
variable {env w : Uuid} {client : SidecarProxyRpcClient} {s : ProxySystem}

/-! ## What each call makes of the remembered key -/

/-- A devbox route that is set replaces the one that its workload had. -/
theorem remembers_setDevboxRoute (env' : Uuid) (route : DevboxRouteConfig) (key : Option Uuid) :
    (s.setDevboxRoute env' route).manager.Remembers env w key ↔
      if env = env' ∧ w = route.workloadId then route.branchEnvironmentId = key
      else s.manager.Remembers env w key := by
  unfold SidecarProxyManager.Remembers
  rw [setDevboxRoute_remembered]
  split <;> simp

/-- A removal forgets the route of its workload and key. -/
theorem remembers_removeDevboxRoute (env' w' : Uuid) (b key : Option Uuid) :
    (s.removeDevboxRoute env' w' b).manager.Remembers env w key ↔
      s.manager.Remembers env w key ∧ ¬((env = env' ∧ w = w') ∧ key = b) := by
  simp only [SidecarProxyManager.Remembers]
  rw [removeDevboxRoute_remembered]
  split
  · next h =>
    obtain ⟨⟨rfl, rfl⟩, hrem⟩ := h
    refine iff_of_false (by simp) fun hkey => hkey.2 ⟨⟨rfl, rfl⟩, ?_⟩
    exact Option.some.inj (hkey.1.symm.trans hrem)
  · next h =>
    refine ⟨fun hkey => ⟨hkey, ?_⟩, And.left⟩
    rintro ⟨⟨rfl, rfl⟩, rfl⟩
    exact h ⟨⟨rfl, rfl⟩, hkey⟩

/-- A clearing forgets the routes of its environment and key. -/
theorem remembers_clearDevboxRoutes
    (rs : RandomState (Sigma fun _ : Uuid => SidecarProxyRpcClient)) (env' : Uuid)
    (b key : Option Uuid) :
    (clearDevboxRoutes rs s env' b).manager.Remembers env w key ↔
      s.manager.Remembers env w key ∧ ¬(env = env' ∧ key = b) := by
  simp only [SidecarProxyManager.Remembers]
  rw [clearDevboxRoutes_remembered]
  by_cases henv : env = env'
  · subst henv
    rw [if_pos rfl]
    cases s.manager.devboxRouteForWorkload env w with
    | none => simp
    | some r =>
      by_cases hb : r.branchEnvironmentId = b
      · simp [hb, Option.filter, eq_comm]
      · have hkeep : Option.filter (fun route => decide (route.branchEnvironmentId ≠ b)) (some r) =
            some r := by simp [Option.filter, hb]
        rw [hkeep]
        simp only [Option.map_some, Option.some.injEq, true_and]
        constructor
        · rintro rfl
          exact ⟨rfl, hb⟩
        · exact fun h => h.1
  · simp [henv]

/-- A bulk push replaces the routes of its environment. -/
theorem remembers_setDevboxRoutes
    (rs : RandomState (Sigma fun _ : Uuid => SidecarProxyRpcClient)) (env' : Uuid)
    (routes : HashTable Uuid DevboxRouteConfig) (key : Option Uuid) :
    (setDevboxRoutes rs s env' routes).manager.Remembers env w key ↔
      if env = env' then (routes.lookup w).map DevboxRouteConfig.branchEnvironmentId = some key
      else s.manager.Remembers env w key := by
  unfold SidecarProxyManager.Remembers
  rw [setDevboxRoutes_remembered]
  split <;> rfl

/-! ## What each call makes of the devboxes of the latest sidecar -/

/-- The latest client of a workload is the latest client of no other. -/
theorem latestClient_iff (hwf : s.manager.WellFormed)
    (hclient : s.manager.latestClient env w = some client) (env' w' : Uuid) :
    s.manager.latestClient env' w' = some client ↔ env = env' ∧ w = w' := by
  constructor
  · intro h
    have hann := hwf.announced_latestClient hclient
    have hann' := hwf.announced_latestClient h
    exact ⟨hann.1.symm.trans hann'.1, hann.2.symm.trans hann'.2⟩
  · rintro ⟨rfl, rfl⟩
    exact hclient

/-- A devbox route that is set is held by the sidecar of its workload, under its key. -/
theorem devboxFor_setDevboxRoute (hwf : s.manager.WellFormed)
    (hclient : s.manager.latestClient env w = some client) (env' : Uuid)
    (route : DevboxRouteConfig) (key : Option Uuid) :
    ((s.setDevboxRoute env' route).tables client).devboxFor key =
      if (env = env' ∧ w = route.workloadId) ∧ key = route.branchEnvironmentId ∧
          (s.server client).Accepts route then
        some ((s.server client).connectionOf route)
      else (s.tables client).devboxFor key := by
  rw [setDevboxRoute_tables]
  simp only [latestClient_iff hwf hclient]
  by_cases hat : env = env' ∧ w = route.workloadId
  · rw [if_pos hat, SidecarProxyRpcServer.devboxFor_setDevboxRoute]
    simp only [hat, true_and, and_self]
    rfl
  · rw [if_neg hat, if_neg fun h => hat h.1]

/-- A removal reaches the sidecar if its key is the one remembered. -/
theorem devboxFor_removeDevboxRoute (hwf : s.manager.WellFormed)
    (hclient : s.manager.latestClient env w = some client) (env' w' : Uuid)
    (b key : Option Uuid) :
    ((s.removeDevboxRoute env' w' b).tables client).devboxFor key =
      if (env = env' ∧ w = w') ∧ s.manager.Remembers env w b ∧ key = b then none
      else (s.tables client).devboxFor key := by
  rw [removeDevboxRoute_tables]
  simp only [latestClient_iff hwf hclient]
  by_cases hat : env = env' ∧ w = w'
  · obtain ⟨rfl, rfl⟩ := hat
    by_cases hrem : s.manager.Remembers env w b
    · simp [hrem, SidecarProxyRpcServer.devboxFor_stopDevbox, server]
    · simp [hrem]
  · simp [hat]

/-- A clearing reaches every sidecar of its environment. -/
theorem devboxFor_clearDevboxRoutes (hwf : s.manager.WellFormed)
    (hclient : s.manager.latestClient env w = some client)
    (rs : RandomState (Sigma fun _ : Uuid => SidecarProxyRpcClient)) (env' : Uuid)
    (b key : Option Uuid) :
    ((clearDevboxRoutes rs s env' b).tables client).devboxFor key =
      if env = env' ∧ key = b then none else (s.tables client).devboxFor key := by
  have hw := (hwf.announced_latestClient hclient).2
  rw [clearDevboxRoutes_tables s hwf, hw]
  simp only [latestClient_iff hwf hclient, and_true]
  by_cases hat : env = env'
  · simp [hat, SidecarProxyRpcServer.devboxFor_stopDevbox, server]
  · simp [hat]

/-- A bulk push sets the routes that it has, and stops the devboxes that were remembered for the
others. -/
theorem devboxFor_setDevboxRoutes (hwf : s.manager.WellFormed)
    (hclient : s.manager.latestClient env w = some client)
    (rs : RandomState (Sigma fun _ : Uuid => SidecarProxyRpcClient))
    (routes : HashTable Uuid DevboxRouteConfig) (key : Option Uuid) :
    ((setDevboxRoutes rs s env routes).tables client).devboxFor key =
      match routes.lookup w with
      | some route =>
        if key = route.branchEnvironmentId ∧ (s.server client).Accepts route then
          some ((s.server client).connectionOf route)
        else (s.tables client).devboxFor key
      | none =>
        if key = (s.manager.devboxRouteForWorkload env w).bind (·.branchEnvironmentId) then none
        else (s.tables client).devboxFor key := by
  have hw := (hwf.announced_latestClient hclient).2
  rw [setDevboxRoutes_tables s hwf, hw, if_pos hclient]
  cases routes.lookup w with
  | some route => exact SidecarProxyRpcServer.devboxFor_setDevboxRoute _ _ _
  | none => exact SidecarProxyRpcServer.devboxFor_stopDevbox _ _ _

/-- A bulk push for one environment does not reach the sidecars of another. -/
theorem setDevboxRoutes_tables_of_ne (hwf : s.manager.WellFormed)
    (rs : RandomState (Sigma fun _ : Uuid => SidecarProxyRpcClient)) {env' : Uuid}
    (hne : client.environmentId ≠ env') (routes : HashTable Uuid DevboxRouteConfig) :
    (setDevboxRoutes rs s env' routes).tables client = s.tables client := by
  rw [setDevboxRoutes_tables s hwf, if_neg]
  exact fun h => hne (hwf.announced_latestClient h).1

/-! ## Removing a devbox route -/

/-- `remove_devbox_route` frees a key exactly when the manager remembers the key's route, or there
was nothing to free. -/
theorem holdsNoDevbox_removeDevboxRoute (hwf : s.manager.WellFormed)
    (hclient : s.manager.latestClient env w = some client) (b : Option Uuid) :
    ((s.removeDevboxRoute env w b).tables client).HoldsNoDevbox b ↔
      s.manager.Remembers env w b ∨ (s.tables client).HoldsNoDevbox b := by
  rw [RoutingTable.holdsNoDevbox_iff, RoutingTable.holdsNoDevbox_iff,
    devboxFor_removeDevboxRoute hwf hclient]
  by_cases hrem : s.manager.Remembers env w b <;> simp [hrem]

/-- Devbox calls that displace no remembered route keep every devbox remembered. -/
theorem DevboxesRemembered.step (hwf : s.manager.WellFormed)
    (hclient : s.manager.latestClient env w = some client) {call : ManagerCall}
    (hcall : call.IsDevboxCall) (hkeeps : KeepsRemembered env w s call)
    (h : DevboxesRemembered env w client s) :
    DevboxesRemembered env w client (call.exec s).1 := by
  -- a devbox that was there before has the key of any route remembered before
  have hold : ∀ {key}, (s.tables client).devboxFor key ≠ none →
      ∀ r ∈ s.manager.devboxRouteForWorkload env w, r.branchEnvironmentId = key := by
    intro key hkey r hr
    have hrem := h key hkey
    rw [SidecarProxyManager.Remembers, Option.mem_def.1 hr] at hrem
    exact Option.some.inj hrem
  intro key hkey
  cases call with
  | setDevboxRoute env' route =>
    rw [ManagerCall.exec, devboxFor_setDevboxRoute hwf hclient] at hkey
    rw [ManagerCall.exec, remembers_setDevboxRoute]
    by_cases hat : env = env' ∧ w = route.workloadId
    · rw [if_pos hat]
      split at hkey
      · next hset => exact hset.2.1.symm
      · obtain ⟨r, hr, rfl⟩ := Option.map_eq_some_iff.1 (h key hkey)
        exact (hkeeps hat.1.symm hat.2.symm r hr).symm
    · rw [if_neg hat]
      rw [if_neg fun hset => hat hset.1] at hkey
      exact h key hkey
  | removeDevboxRoute env' w' b =>
    rw [ManagerCall.exec, devboxFor_removeDevboxRoute hwf hclient] at hkey
    rw [ManagerCall.exec, remembers_removeDevboxRoute]
    split at hkey
    · exact absurd rfl hkey
    · next hnot =>
      have hrem := h key hkey
      refine ⟨hrem, ?_⟩
      rintro ⟨hat, rfl⟩
      exact hnot ⟨hat, hrem, rfl⟩
  | clearDevboxRoutes rs env' b =>
    rw [ManagerCall.exec, devboxFor_clearDevboxRoutes hwf hclient] at hkey
    rw [ManagerCall.exec, remembers_clearDevboxRoutes]
    split at hkey
    · exact absurd rfl hkey
    · next hnot => exact ⟨h key hkey, hnot⟩
  | setDevboxRoutes rs env' routes =>
    rw [ManagerCall.exec] at hkey ⊢
    rw [remembers_setDevboxRoutes]
    by_cases henv : env = env'
    · subst henv
      rw [if_pos rfl]
      rw [devboxFor_setDevboxRoutes hwf hclient] at hkey
      cases hr : routes.lookup w with
      | some route =>
        rw [hr] at hkey
        simp only [Option.map_some, Option.some.injEq]
        dsimp only at hkey
        split at hkey
        · next hset => exact hset.1.symm
        · obtain ⟨r, hrem, rfl⟩ := Option.map_eq_some_iff.1 (h key hkey)
          exact (hkeeps rfl route hr r hrem).symm
      | none =>
        -- the only devbox there was is the one that is stopped
        rw [hr] at hkey
        dsimp only at hkey
        split at hkey
        · exact absurd rfl hkey
        · next hne =>
          obtain ⟨r, hrem, rfl⟩ := Option.map_eq_some_iff.1 (h key hkey)
          exact absurd (by rw [hrem]; rfl) hne
    · rw [if_neg henv]
      have hann := (hwf.announced_latestClient hclient).1
      rw [setDevboxRoutes_tables_of_ne hwf rs (hann ▸ henv)] at hkey
      exact h key hkey
  | _ => exact hcall.elim

/-- **Removing a devbox route.** In every run of devbox calls, `remove_devbox_route` leaves the
latest sidecar of the workload without a devbox for the key exactly when the manager remembers a
route under that key, or the sidecar held none. Where the run starts with every devbox remembered
and displaces no remembered route, it always does. -/
theorem removeDevboxRoute_stops_devbox {s₀ : ProxySystem} (hwf : s₀.manager.WellFormed)
    (hclient : s₀.manager.latestClient env w = some client) :
    (∀ calls s, Run (Guarded Step fun _ call => call.IsDevboxCall) s₀ calls s → ∀ b,
      (((s.removeDevboxRoute env w b).tables client).HoldsNoDevbox b ↔
        s.manager.Remembers env w b ∨ (s.tables client).HoldsNoDevbox b)) ∧
    (DevboxesRemembered env w client s₀ → ∀ calls s,
      Run (Guarded Step fun s call => call.IsDevboxCall ∧ KeepsRemembered env w s call)
        s₀ calls s → ∀ b, ((s.removeDevboxRoute env w b).tables client).HoldsNoDevbox b) := by
  have hiff : ∀ {s}, SameRegistry s₀ s → ∀ b,
      (((s.removeDevboxRoute env w b).tables client).HoldsNoDevbox b ↔
        s.manager.Remembers env w b ∨ (s.tables client).HoldsNoDevbox b) := fun hsame =>
    holdsNoDevbox_removeDevboxRoute (hsame.wellFormed hwf)
      ((hsame.latestClient env w).trans hclient)
  refine ⟨fun calls s hrun => hiff (sameRegistry_of_run hrun), fun h₀ calls s hrun b => ?_⟩
  have hinv : SameRegistry s₀ s ∧ DevboxesRemembered env w client s := by
    refine Run.invariant_of_guard
      (fun s => SameRegistry s₀ s ∧ DevboxesRemembered env w client s) ?_ hrun ⟨.refl s₀, h₀⟩
    rintro s call _ rfl ⟨hcall, hkeeps⟩ ⟨hsame, h⟩
    exact ⟨hsame.trans (sameRegistry_of_isDevboxCall hcall),
      h.step (hsame.wellFormed hwf) ((hsame.latestClient env w).trans hclient) hcall hkeeps⟩
  rw [hiff hinv.1, RoutingTable.holdsNoDevbox_iff]
  exact (em ((s.tables client).devboxFor b = none)).symm.imp_left (hinv.2 b)

/-! ## Pushing the routes of one branch -/

/-- **A bulk push for one branch.** With routes that all carry the branch `b`, `set_devbox_routes`
leaves every other key of the environment's sidecars and every other remembered route as it was,
exactly when no route of another key is remembered in the environment and every connected sidecar
that the manager has neither a new nor a remembered route for has no default devbox. -/
theorem setDevboxRoutes_noninterference_iff (hwf : s.manager.WellFormed)
    (rs : RandomState (Sigma fun _ : Uuid => SidecarProxyRpcClient)) {b : Uuid}
    {routes : HashTable Uuid DevboxRouteConfig}
    (hroutes : ∀ w, ∀ route ∈ routes.lookup w, route.branchEnvironmentId = some b) :
    ((∀ client : SidecarProxyRpcClient, client.environmentId = env → ∀ key ≠ some b,
        ((setDevboxRoutes rs s env routes).tables client).devboxFor key =
          (s.tables client).devboxFor key) ∧
      ∀ w, ∀ route ∈ s.manager.devboxRouteForWorkload env w, route.branchEnvironmentId ≠ some b →
        route ∈ (setDevboxRoutes rs s env routes).manager.devboxRouteForWorkload env w) ↔
    (∀ w, ∀ route ∈ s.manager.devboxRouteForWorkload env w, route.branchEnvironmentId = some b) ∧
      ∀ w client, s.manager.latestClient env w = some client → routes.lookup w = none →
        s.manager.devboxRouteForWorkload env w = none → (s.tables client).HoldsNoDevbox none := by
  simp only [setDevboxRoutes_remembered, if_true]
  constructor
  · rintro ⟨hkeys, hremembered⟩
    refine ⟨fun w route hr => ?_, fun w client hclient hnew hold => ?_⟩
    · by_contra hne
      exact hne (hroutes w route (hremembered w route hr hne))
    · -- without a route to push the sidecar is told to stop its default devbox
      have hkey := hkeys client (hwf.announced_latestClient hclient).1 none (by simp)
      rw [devboxFor_setDevboxRoutes hwf hclient, hnew, hold] at hkey
      rw [RoutingTable.holdsNoDevbox_iff]
      simpa using hkey.symm
  · rintro ⟨hremembered, hdefault⟩
    refine ⟨fun client henv key hkey => ?_, fun w route hr hne => absurd (hremembered w route hr) hne⟩
    rw [setDevboxRoutes_tables s hwf]
    split
    · next hclient =>
      cases hr : routes.lookup client.workloadId with
      | some route =>
        have hb : route.branchEnvironmentId = some b := hroutes _ _ hr
        rw [SidecarProxyRpcServer.devboxFor_setDevboxRoute, hb, if_neg fun h => hkey h.1]
        rfl
      | none =>
        rw [SidecarProxyRpcServer.devboxFor_stopDevbox]
        cases hold : s.manager.devboxRouteForWorkload env client.workloadId with
        | some route =>
          have hb : route.branchEnvironmentId = some b := hremembered _ _ hold
          rw [Option.bind_some, hb, if_neg hkey]
          rfl
        | none =>
          have hnone := hdefault _ _ hclient hr hold
          rw [RoutingTable.holdsNoDevbox_iff] at hnone
          split
          · next heq =>
            rw [heq]
            exact hnone.symm
          · rfl
    · rfl

end

/-! ## A workload with two branches -/

/-- The branch routes the API lists for the workload below: two branches, no devbox. -/
def twoBranches : KubeClusterRpcClient where
  listBranchServiceRoutes _ _ := .ok <| [10, 11].map fun b =>
    { branchEnvironmentId := b, serviceNames := Finmap.singleton 80 "web", headers := ∅,
      requiresAuth := true, accessLevel := .personal, timeoutMs := none, devboxRoute := none }
  devboxRoute_eq_none h := by
    cases h
    simp

/-- The sidecar of workload `2` in environment `1`. -/
def webSidecar : SidecarProxyRpcClient := ⟨0, 2, 1⟩

/-- A devbox route of a workload under a key. -/
def devboxRouteOf (w : Uuid) (key : Option Uuid) : DevboxRouteConfig where
  interceptId := 100
  workloadId := w
  authToken := "token"
  websocketUrl := "wss://devbox"
  pathPattern := "/*"
  branchEnvironmentId := key
  createdAtEpochSeconds := none
  expiresAtEpochSeconds := none
  portMappings := ∅

/-- The system after the sidecar has registered and its branch routes have arrived. -/
def webRegistered : ProxySystem :=
  execAll ⟨.new, fun _ => .empty⟩
    [.setClusterRpcClient (some twoBranches), .registerSidecarProxy (.identity _) webSidecar]

/-- Its manager is well formed. -/
theorem webRegistered_wellFormed : webRegistered.manager.WellFormed := by
  unfold webRegistered
  exact wellFormed_run (run_execAll _ _) SidecarProxyManager.wellFormed_new

/-- The sidecar is the only connection. -/
theorem webRegistered_latestClient (w : Uuid) (client : SidecarProxyRpcClient)
    (h : webRegistered.manager.latestClient 1 w = some client) : client = webSidecar := by
  have hmanager : webRegistered.manager =
      ({ SidecarProxyManager.new with kubeClusterRpcClient := some twoBranches }.registerSidecar
        1 2 webSidecar).2 := rfl
  rw [hmanager, SidecarProxyManager.latestClient_registerSidecar] at h
  · split at h <;> cases h
    rfl
  · intro gen hgen
    simp [SidecarProxyManager.clients, HashTable.lookup₂, SidecarProxyManager.new] at hgen

/-- Setting two known branches' devboxes on one workload and removing the first leaves the first
in the sidecar: the manager remembers the second only. -/
theorem removeDevboxRoute_leaves_devbox :
    (10 ∈ (webRegistered.tables webSidecar).branchRoutes ∧
      11 ∈ (webRegistered.tables webSidecar).branchRoutes) ∧
    ¬(((webRegistered.execAll [.setDevboxRoute 1 (devboxRouteOf 2 (some 10)),
        .setDevboxRoute 1 (devboxRouteOf 2 (some 11))]).removeDevboxRoute 1 2 (some 10)).tables
      webSidecar).HoldsNoDevbox (some 10) :=
  ⟨by decide, by decide⟩

/-- The sidecar has registered without a devbox under any key. -/
theorem webRegistered_holdsNoDevbox (key : Option Uuid) :
    (webRegistered.tables webSidecar).HoldsNoDevbox key := by
  have hall : ∀ e ∈ (webRegistered.tables webSidecar).branchRoutes.entries,
      e.2.mode = .service := by decide
  cases key with
  | none => decide
  | some b => exact fun route hr => hall ⟨b, route⟩ (AList.mem_lookup_iff.1 hr)

/-- A devbox that is set and removed is stopped. -/
theorem removeDevboxRoute_stops_devbox_webRegistered :
    (((webRegistered.execAll [.setDevboxRoute 1 (devboxRouteOf 2 (some 10))]).removeDevboxRoute
      1 2 (some 10)).tables webSidecar).HoldsNoDevbox (some 10) := by
  have hstart : DevboxesRemembered 1 2 webSidecar webRegistered := by
    intro key hkey
    exact absurd ((RoutingTable.holdsNoDevbox_iff _ _).1 (webRegistered_holdsNoDevbox key)) hkey
  refine (removeDevboxRoute_stops_devbox webRegistered_wellFormed (by decide)).2 hstart
    [.setDevboxRoute 1 (devboxRouteOf 2 (some 10))] _ (.cons ⟨rfl, trivial, ?_⟩ .nil) _
  intro _ _ r hr
  cases hr

/-- The devboxes of both branches are set; the manager remembers that of the second one. -/
def webIntercepted : ProxySystem :=
  webRegistered.execAll [.setDevboxRoute 1 (devboxRouteOf 2 (some 10)),
    .setDevboxRoute 1 (devboxRouteOf 2 (some 11))]

/-- A push of the branch `11`'s route to the workload that has it leaves the branch `10`'s devbox. -/
theorem setDevboxRoutes_noninterference_webIntercepted :
    ¬(webIntercepted.tables webSidecar).HoldsNoDevbox (some 10) ∧
    (((setDevboxRoutes (.identity _) webIntercepted 1
      (AList.singleton 2 (devboxRouteOf 2 (some 11)))).tables webSidecar).devboxFor (some 10)) =
      (webIntercepted.tables webSidecar).devboxFor (some 10) := by
  have hrun := run_execAll webRegistered [.setDevboxRoute 1 (devboxRouteOf 2 (some 10)),
    .setDevboxRoute 1 (devboxRouteOf 2 (some 11))]
  have hwf : webIntercepted.manager.WellFormed := wellFormed_run hrun webRegistered_wellFormed
  have hroutes : ∀ w, ∀ route ∈ (AList.singleton 2 (devboxRouteOf 2 (some 11)) :
      HashTable Uuid DevboxRouteConfig).lookup w, route.branchEnvironmentId = some 11 := by
    intro w route hr
    rw [HashTable.lookup_singleton] at hr
    split at hr <;> cases hr
    rfl
  refine ⟨by decide, ((setDevboxRoutes_noninterference_iff hwf (.identity _) hroutes).2
    ⟨fun w route hr => ?_, fun w client hclient _ _ => ?_⟩).1 webSidecar rfl _ (by decide)⟩
  · change route ∈ ((webRegistered.setDevboxRoute 1 (devboxRouteOf 2 (some 10))).setDevboxRoute 1
      (devboxRouteOf 2 (some 11))).manager.devboxRouteForWorkload 1 w at hr
    rw [setDevboxRoute_remembered, setDevboxRoute_remembered] at hr
    split at hr
    · cases hr
      rfl
    · next hne =>
      have hother : ¬((1 : Uuid) = 1 ∧ w = (devboxRouteOf 2 (some 10)).workloadId) := hne
      rw [if_neg hother] at hr
      cases hr
  · have hsame : webRegistered.manager.latestClient 1 w = some client := hclient
    rw [webRegistered_latestClient w client hsame]
    decide

/-- A push of the branch `11`'s route to another workload stops the branch `10`'s devbox. -/
theorem setDevboxRoutes_interferes :
    (∀ w, ∀ route ∈ (AList.singleton 3 (devboxRouteOf 3 (some 11)) :
        HashTable Uuid DevboxRouteConfig).lookup w, route.branchEnvironmentId = some 11) ∧
    ((setDevboxRoutes (.identity _)
        (webRegistered.execAll [.setDevboxRoute 1 (devboxRouteOf 2 (some 10))]) 1
        (AList.singleton 3 (devboxRouteOf 3 (some 11)))).tables webSidecar).devboxFor (some 10) ≠
      ((webRegistered.execAll [.setDevboxRoute 1 (devboxRouteOf 2 (some 10))]).tables
        webSidecar).devboxFor (some 10) := by
  constructor
  · intro w route hr
    rw [HashTable.lookup_singleton] at hr
    split at hr
    · cases hr
      rfl
    · cases hr
  · decide

end ProxySystem
end Lapdev
