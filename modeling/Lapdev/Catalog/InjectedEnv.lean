import Lapdev.Catalog.SidecarInjection
import Lapdev.Logic.Upserts

/-!
# What an injection makes of a sidecar

An injection puts its variables into a sidecar container one by one, each in place of the first one
of its name, and adds the ports that are missing (`injectedSidecar`). `sameEnv_iff` and
`samePorts_iff` say when a sidecar that was there already ends up like one that is built anew.
-/

namespace Lapdev

open RustStd Lists

/-! ## The variables of a sidecar -/

/-- A variable with a value. -/
def setVar (e : String × String) : EnvVar := ⟨e.1, some e.2, none⟩

/-- The variable with the name of the pod. -/
def hostnameVar : EnvVar := ⟨"HOSTNAME", none, some ⟨some "metadata.name", []⟩⟩

/-- The text of the routes, where there are any. -/
def SidecarInjectionOptions.routesText (options : SidecarInjectionOptions) : Option String :=
  if options.proxyRoutes.isEmpty then none else some (routesJson options.proxyRoutes)

/-- The variables that are set whatever the routes are. -/
def SidecarInjectionOptions.vars (options : SidecarInjectionOptions) : List EnvVar :=
  (sidecarEnv options).map setVar

/-- The variable with the routes. -/
def SidecarInjectionOptions.routesVars (options : SidecarInjectionOptions) : List EnvVar :=
  options.routesText.toList.map fun json => setVar (sidecarProxyPortRoutesEnvVar, json)

/-- The variables after an injection. -/
def injectedEnv (options : SidecarInjectionOptions) (env : List EnvVar) : List EnvVar :=
  upserts EnvVar.name options.routesVars
    (ensure EnvVar.name hostnameVar (upserts EnvVar.name options.vars env))

/-- A port of the sidecar. -/
def sidecarPort (number : UInt16) (name : String) : ContainerPort :=
  ⟨some name, u16AsInt number, some "TCP", []⟩

/-- The port of the proxy. -/
def proxyPort : ContainerPort := sidecarPort defaultSidecarProxyPort "proxy"

/-- The port of the metrics. -/
def metricsPort : ContainerPort := sidecarPort defaultSidecarProxyMetricsPort "metrics"

/-- The ports after an injection. -/
def injectedPorts (ports : List ContainerPort) : List ContainerPort :=
  ensure ContainerPort.containerPort metricsPort
    (ensure ContainerPort.containerPort proxyPort ports)

/-- What an injection makes of a sidecar container. -/
def injectedSidecar (options : SidecarInjectionOptions) (container : Container) : Container :=
  { container with
    env := some (injectedEnv options (container.env.getD []))
    ports := some (injectedPorts (container.ports.getD [])) }

/-- Setting a variable is an upsert by its name. -/
theorem upsertEnv_eq (name value : String) (env : List EnvVar) :
    upsertEnv name value env = upsert EnvVar.name (setVar (name, value)) env := by
  induction env with
  | nil => rfl
  | cons var rest ih =>
    have hname : (setVar (name, value)).name = name := rfl
    unfold upsertEnv upsert
    rw [hname]
    split
    · next heq =>
      obtain ⟨_, _, _⟩ := var
      cases heq
      rfl
    · rw [ih]

/-- So it is in a container. -/
theorem upsertEnvVar_eq (e : String × String) (container : Container) :
    upsertEnvVar e.1 e.2 container =
      { container with env := some (upsert EnvVar.name (setVar e) (container.env.getD [])) } := by
  rw [upsertEnvVar, upsertEnv_eq]

/-- Variables are set one after the other. -/
theorem foldl_upsertEnvVar (vars : List (String × String)) (hvars : vars ≠ [])
    (container : Container) :
    vars.foldl (fun c e => upsertEnvVar e.1 e.2 c) container =
      { container with
        env := some (upserts EnvVar.name (vars.map setVar) (container.env.getD [])) } := by
  induction vars generalizing container with
  | nil => exact absurd rfl hvars
  | cons e vars ih =>
    rw [List.foldl_cons, upsertEnvVar_eq]
    cases vars with
    | nil => rfl
    | cons e' vars =>
      rw [ih (List.cons_ne_nil _ _)]
      rfl

/-- The host name is ensured. -/
theorem ensureHostnameEnv_eq (container : Container) :
    ensureHostnameEnv container =
      { container with env := some (ensure EnvVar.name hostnameVar (container.env.getD [])) } := by
  have hname : hostnameVar.name = "HOSTNAME" := rfl
  unfold ensureHostnameEnv ensure
  rw [hname]
  dsimp only
  split <;> rfl

/-- The ports are ensured. -/
theorem ensureSidecarPorts_eq (container : Container) :
    ensureSidecarPorts container =
      { container with ports := some (injectedPorts (container.ports.getD [])) } := rfl

/-- The variable with the routes is set twice. -/
theorem upserts_routesVars_twice (options : SidecarInjectionOptions) (env : List EnvVar) :
    upserts EnvVar.name options.routesVars (upserts EnvVar.name options.routesVars env) =
      upserts EnvVar.name options.routesVars env := by
  refine upserts_eq_self fun a ha => ?_
  unfold SidecarInjectionOptions.routesVars at ha ⊢
  cases hroutes : options.routesText with
  | none =>
    rw [hroutes] at ha
    cases ha
  | some json =>
    rw [hroutes] at ha
    have heq : a = setVar (sidecarProxyPortRoutesEnvVar, json) := List.mem_singleton.1 ha
    have hset : upserts EnvVar.name ((some json).toList.map fun json =>
        setVar (sidecarProxyPortRoutesEnvVar, json)) env = upsert EnvVar.name a env := by
      rw [heq]
      rfl
    rw [hset, withKey_upsert, if_pos rfl]
    rfl

/-- The routes are upserted if there are any. -/
theorem upsertRoutes_eq (options : SidecarInjectionOptions) {container : Container}
    {env : List EnvVar} (henv : container.env = some env) :
    upsertRoutes options.routesText container =
      { container with env := some (upserts EnvVar.name options.routesVars env) } := by
  unfold upsertRoutes SidecarInjectionOptions.routesVars
  cases options.routesText with
  | none =>
    cases container
    cases henv
    rfl
  | some json =>
    dsimp only
    rw [upsertEnvVar, upsertEnv_eq, henv]
    rfl

/-- The container that an injection configures. -/
theorem configureSidecar_eq (options : SidecarInjectionOptions) (container : Container) :
    configureSidecar options options.routesText container = injectedSidecar options container := by
  have hne : sidecarEnv options ≠ [] := List.cons_ne_nil _ _
  have happly : applySidecarEnv options (ensureSidecarPorts container) =
      { container with
        env := some (ensure EnvVar.name hostnameVar
          (upserts EnvVar.name options.vars (container.env.getD [])))
        ports := some (injectedPorts (container.ports.getD [])) } := by
    rw [applySidecarEnv, foldl_upsertEnvVar _ hne, ensureHostnameEnv_eq, ensureSidecarPorts_eq]
    rfl
  rw [configureSidecar, happly, upsertRoutes_eq options rfl]
  rfl

/-- The routes are set once more, to the same text. -/
theorem upsertRoutes_injectedSidecar (options : SidecarInjectionOptions) (container : Container) :
    upsertRoutes options.routesText (injectedSidecar options container) =
      injectedSidecar options container := by
  rw [upsertRoutes_eq options rfl, injectedEnv, upserts_routesVars_twice]
  rfl

/-! ## The variables of each name -/

/-- The names of the variables that are set whatever the routes are. -/
def sidecarEnvNames : List String :=
  ["LAPDEV_ENVIRONMENT_ID", "LAPDEV_ENVIRONMENT_AUTH_TOKEN", "KUBERNETES_NAMESPACE",
    "LAPDEV_SIDECAR_PROXY_BIND_ADDR", "LAPDEV_SIDECAR_PROXY_PORT",
    "LAPDEV_SIDECAR_PROXY_MANAGER_ADDR", "LAPDEV_SIDECAR_PROXY_WORKLOAD"]

/-- The names of all variables that an injection may write. -/
def injectedNames : List String := sidecarEnvNames ++ ["HOSTNAME", sidecarProxyPortRoutesEnvVar]

/-- The names of the variables that are set. -/
theorem map_name_vars (options : SidecarInjectionOptions) :
    options.vars.map EnvVar.name = sidecarEnvNames := rfl

/-- The name of the routes, if there are any. -/
theorem map_name_routesVars (options : SidecarInjectionOptions) :
    options.routesVars.map EnvVar.name =
      if options.routesText = none then [] else [sidecarProxyPortRoutesEnvVar] := by
  rw [SidecarInjectionOptions.routesVars]
  cases options.routesText <;> rfl

section
variable (options : SidecarInjectionOptions) (env : List EnvVar)

/-- A variable that is always set. -/
theorem withKey_injectedEnv_of_mem {var : EnvVar} (hvar : var ∈ options.vars) :
    withKey EnvVar.name var.name (injectedEnv options env) =
      var :: (withKey EnvVar.name var.name env).tail := by
  have hname : var.name ∈ sidecarEnvNames :=
    map_name_vars options ▸ List.mem_map_of_mem hvar
  have hroutes : var.name ∉ options.routesVars.map EnvVar.name := by
    rw [map_name_routesVars]
    split
    · exact List.not_mem_nil
    · rw [List.mem_singleton]
      intro heq
      rw [heq] at hname
      exact absurd hname (by decide)
  have hhost : var.name ≠ hostnameVar.name := by
    intro heq
    rw [heq] at hname
    exact absurd hname (by decide)
  have hnodup : (options.vars.map EnvVar.name).Nodup := by
    rw [map_name_vars]
    decide
  rw [injectedEnv, withKey_upserts_of_notMem hroutes, withKey_ensure,
    if_neg fun h => hhost h.1, withKey_upserts_of_mem hnodup hvar]

/-- The name of the pod is put in where it is missing. -/
theorem withKey_injectedEnv_hostname :
    withKey EnvVar.name "HOSTNAME" (injectedEnv options env) =
      if withKey EnvVar.name "HOSTNAME" env = [] then [hostnameVar]
      else withKey EnvVar.name "HOSTNAME" env := by
  have hroutes : "HOSTNAME" ∉ options.routesVars.map EnvVar.name := by
    rw [map_name_routesVars]
    split
    · exact List.not_mem_nil
    · decide
  have hvars : "HOSTNAME" ∉ options.vars.map EnvVar.name := by
    rw [map_name_vars]
    decide
  have hname : hostnameVar.name = "HOSTNAME" := rfl
  rw [injectedEnv, withKey_upserts_of_notMem hroutes, withKey_ensure, hname,
    withKey_upserts_of_notMem hvars]
  simp only [true_and]

/-- The routes are set where there are any, and left where there are none. -/
theorem withKey_injectedEnv_routes :
    withKey EnvVar.name sidecarProxyPortRoutesEnvVar (injectedEnv options env) =
      match options.routesText with
      | some json => setVar (sidecarProxyPortRoutesEnvVar, json) ::
          (withKey EnvVar.name sidecarProxyPortRoutesEnvVar env).tail
      | none => withKey EnvVar.name sidecarProxyPortRoutesEnvVar env := by
  have hvars : sidecarProxyPortRoutesEnvVar ∉ options.vars.map EnvVar.name := by
    rw [map_name_vars]
    decide
  have hhost : sidecarProxyPortRoutesEnvVar ≠ hostnameVar.name := by decide
  have hinner : withKey EnvVar.name sidecarProxyPortRoutesEnvVar
      (ensure EnvVar.name hostnameVar (upserts EnvVar.name options.vars env)) =
        withKey EnvVar.name sidecarProxyPortRoutesEnvVar env := by
    rw [withKey_ensure, if_neg fun h => hhost h.1, withKey_upserts_of_notMem hvars]
  rw [injectedEnv, SidecarInjectionOptions.routesVars]
  cases options.routesText with
  | none => exact hinner
  | some json =>
    dsimp only
    rw [← hinner]
    exact (withKey_upsert _ _ _).trans (if_pos rfl)

/-- Other variables are left. -/
theorem withKey_injectedEnv_of_notMem {name : String} (hname : name ∉ injectedNames) :
    withKey EnvVar.name name (injectedEnv options env) = withKey EnvVar.name name env := by
  rw [injectedNames, List.mem_append, List.mem_cons, List.mem_singleton, not_or, not_or] at hname
  obtain ⟨hvars, hhost, hroutes⟩ := hname
  have hroutes' : name ∉ options.routesVars.map EnvVar.name := by
    rw [map_name_routesVars]
    split
    · exact List.not_mem_nil
    · rwa [List.mem_singleton]
  have hvars' : name ∉ options.vars.map EnvVar.name := by rwa [map_name_vars]
  rw [injectedEnv, withKey_upserts_of_notMem hroutes', withKey_ensure,
    if_neg fun h => hhost h.1, withKey_upserts_of_notMem hvars']

/-- A second injection with the same options writes the variables again as they are. -/
theorem injectedEnv_injectedEnv :
    injectedEnv options (injectedEnv options env) = injectedEnv options env := by
  have hvars : upserts EnvVar.name options.vars (injectedEnv options env) =
      injectedEnv options env :=
    upserts_eq_self fun var hvar => by rw [withKey_injectedEnv_of_mem options env hvar]; rfl
  have hhost : ensure EnvVar.name hostnameVar (injectedEnv options env) =
      injectedEnv options env := by
    refine ensure_eq_self (ne_of_eq_of_ne (withKey_injectedEnv_hostname options env) ?_)
    split
    · exact List.cons_ne_nil _ _
    · assumption
  have houter : injectedEnv options (injectedEnv options env) =
      upserts EnvVar.name options.routesVars (injectedEnv options env) := by
    conv_lhs => rw [injectedEnv, hvars, hhost]
  rw [houter, injectedEnv, upserts_routesVars_twice]

end

/-- There is no text of the routes exactly if there are none. -/
theorem routesText_eq_none {options : SidecarInjectionOptions} :
    options.routesText = none ↔ options.proxyRoutes = [] := by
  rw [SidecarInjectionOptions.routesText, ← List.isEmpty_iff]
  split <;> simp [*]

/-- A name is one of those that an injection may write, or another one. -/
theorem forall_names_iff (options : SidecarInjectionOptions) {P : String → Prop} :
    (∀ name, P name) ↔ (∀ var ∈ options.vars, P var.name) ∧ P "HOSTNAME" ∧
      P sidecarProxyPortRoutesEnvVar ∧ ∀ name, name ∉ injectedNames → P name := by
  refine ⟨fun h => ⟨fun _ _ => h _, h _, h _, fun _ _ => h _⟩, ?_⟩
  rintro ⟨hvars, hhost, hroutes, hothers⟩ name
  by_cases hname : name ∈ injectedNames
  · rcases List.mem_append.1 hname with hvar | hrest
    · rw [← map_name_vars options] at hvar
      obtain ⟨var, hmem, rfl⟩ := List.mem_map.1 hvar
      exact hvars var hmem
    · rcases List.mem_pair.1 hrest with rfl | rfl
      · exact hhost
      · exact hroutes
  · exact hothers name hname

/-- The later variables of a name are left. -/
theorem tail_withKey_injectedEnv (options : SidecarInjectionOptions) (env : List EnvVar)
    {name : String} (hname : name ∈ sidecarEnvNames) :
    (withKey EnvVar.name name (injectedEnv options env)).tail =
      (withKey EnvVar.name name env).tail := by
  rw [← map_name_vars options] at hname
  obtain ⟨var, hvar, rfl⟩ := List.mem_map.1 hname
  rw [withKey_injectedEnv_of_mem options env hvar, List.tail_cons]

/-! ## Sidecars with nothing of their own -/

/-- The variables of a sidecar are some of those that an injection writes, each at most once. -/
structure ManagedEnv (env : List EnvVar) : Prop where
  nodup : (env.map EnvVar.name).Nodup
  names : ∀ var ∈ env, var.name ∈ injectedNames
  hostname : ∀ var ∈ env, var.name = "HOSTNAME" → var = hostnameVar

/-- The ports of a sidecar are some of the two that an injection adds. -/
structure ManagedPorts (ports : List ContainerPort) : Prop where
  nodup : (ports.map ContainerPort.containerPort).Nodup
  ports : ∀ port ∈ ports, port = proxyPort ∨ port = metricsPort

/-- The variables are managed exactly if each name that is injected has at most one, `HOSTNAME` the
injected one, and no other name has any. -/
theorem managedEnv_iff (options : SidecarInjectionOptions) {env : List EnvVar} :
    ManagedEnv env ↔
      (∀ var ∈ options.vars, (withKey EnvVar.name var.name env).tail = []) ∧
      (withKey EnvVar.name "HOSTNAME" env = [] ∨
        withKey EnvVar.name "HOSTNAME" env = [hostnameVar]) ∧
      (withKey EnvVar.name sidecarProxyPortRoutesEnvVar env).tail = [] ∧
      ∀ name, name ∉ injectedNames → withKey EnvVar.name name env = [] := by
  constructor
  · intro ⟨hnodup, hnames, hhost⟩
    have hone := nodup_iff_withKey.1 hnodup
    refine ⟨fun var _ => tail_eq_nil_iff.2 (hone _), ?_, tail_eq_nil_iff.2 (hone _), ?_⟩
    · cases hvars : withKey EnvVar.name "HOSTNAME" env with
      | nil => exact .inl rfl
      | cons var rest =>
        have hmem : var ∈ withKey EnvVar.name "HOSTNAME" env := hvars ▸ List.mem_cons_self
        obtain ⟨hvar, hname⟩ := mem_withKey.1 hmem
        rw [← hvars, eq_singleton_of_mem (hone _) hmem, hhost var hvar hname]
        exact .inr rfl
    · intro name hname
      refine List.eq_nil_iff_forall_not_mem.2 fun var hvar => hname ?_
      obtain ⟨hmem, rfl⟩ := mem_withKey.1 hvar
      exact hnames var hmem
  · rintro ⟨hvars, hhost, hroutes, hothers⟩
    refine ⟨nodup_iff_withKey.2 ?_, fun var hvar => ?_, fun var hvar hname => ?_⟩
    · refine (forall_names_iff options).2 ⟨fun var hvar => tail_eq_nil_iff.1 (hvars var hvar), ?_,
        tail_eq_nil_iff.1 hroutes, fun name hname => ?_⟩
      · rcases hhost with hhost | hhost <;> rw [hhost] <;> simp
      · rw [hothers name hname]
        exact Nat.zero_le 1
    · by_contra hname
      have hmem : var ∈ withKey EnvVar.name var.name env := mem_withKey.2 ⟨hvar, rfl⟩
      rw [hothers _ hname] at hmem
      cases hmem
    · have hmem : var ∈ withKey EnvVar.name "HOSTNAME" env := mem_withKey.2 ⟨hvar, hname⟩
      rcases hhost with hhost | hhost <;> rw [hhost] at hmem
      · cases hmem
      · exact List.mem_singleton.1 hmem

/-- No variable is set twice in a sidecar that is built anew. -/
theorem length_withKey_injectedEnv_nil (options : SidecarInjectionOptions) (name : String) :
    (withKey EnvVar.name name (injectedEnv options [])).length ≤ 1 := by
  revert name
  refine (forall_names_iff options).2 ⟨fun var hvar => ?_, ?_, ?_, fun name hname => ?_⟩
  · rw [withKey_injectedEnv_of_mem options [] hvar]
    exact le_rfl
  · rw [withKey_injectedEnv_hostname, withKey_nil, if_pos rfl]
    exact le_rfl
  · rw [withKey_injectedEnv_routes]
    cases options.routesText with
    | none => exact Nat.zero_le 1
    | some json => exact le_rfl
  · rw [withKey_injectedEnv_of_notMem options [] hname]
    exact Nat.zero_le 1

/-- **When the variables of a second injection are those of a sidecar built anew**: the sidecar has
none of its own, and no routes are left over. -/
theorem sameEnv_iff (o₁ o₂ : SidecarInjectionOptions) (env : List EnvVar) :
    (injectedEnv o₂ (injectedEnv o₁ env)).Perm (injectedEnv o₂ []) ↔
      ManagedEnv env ∧ (o₂.proxyRoutes = [] →
        o₁.proxyRoutes = [] ∧ withKey EnvVar.name sidecarProxyPortRoutesEnvVar env = []) := by
  rw [perm_iff_withKey (length_withKey_injectedEnv_nil o₂), forall_names_iff o₂,
    managedEnv_iff o₂]
  have hvars : (∀ var ∈ o₂.vars,
      withKey EnvVar.name var.name (injectedEnv o₂ (injectedEnv o₁ env)) =
        withKey EnvVar.name var.name (injectedEnv o₂ [])) ↔
      ∀ var ∈ o₂.vars, (withKey EnvVar.name var.name env).tail = [] := by
    refine forall₂_congr fun var hvar => ?_
    have hname : var.name ∈ sidecarEnvNames := map_name_vars o₂ ▸ List.mem_map_of_mem hvar
    rw [withKey_injectedEnv_of_mem o₂ _ hvar, withKey_injectedEnv_of_mem o₂ _ hvar,
      tail_withKey_injectedEnv o₁ env hname]
    simp
  have hhost : withKey EnvVar.name "HOSTNAME" (injectedEnv o₂ (injectedEnv o₁ env)) =
        withKey EnvVar.name "HOSTNAME" (injectedEnv o₂ []) ↔
      withKey EnvVar.name "HOSTNAME" env = [] ∨
        withKey EnvVar.name "HOSTNAME" env = [hostnameVar] := by
    rw [withKey_injectedEnv_hostname, withKey_injectedEnv_hostname, withKey_injectedEnv_hostname,
      withKey_nil, if_pos rfl]
    by_cases hnil : withKey EnvVar.name "HOSTNAME" env = []
    · simp [hnil]
    · simp [hnil]
  have hroutes : withKey EnvVar.name sidecarProxyPortRoutesEnvVar
        (injectedEnv o₂ (injectedEnv o₁ env)) =
        withKey EnvVar.name sidecarProxyPortRoutesEnvVar (injectedEnv o₂ []) ↔
      (withKey EnvVar.name sidecarProxyPortRoutesEnvVar env).tail = [] ∧
        (o₂.proxyRoutes = [] →
          o₁.proxyRoutes = [] ∧ withKey EnvVar.name sidecarProxyPortRoutesEnvVar env = []) := by
    rw [withKey_injectedEnv_routes, withKey_injectedEnv_routes, withKey_injectedEnv_routes,
      ← routesText_eq_none, ← routesText_eq_none, withKey_nil]
    cases o₂.routesText with
    | none =>
      cases o₁.routesText with
      | none =>
        simp only [true_and, forall_const]
        exact ⟨fun h => ⟨by rw [h, List.tail_nil], h⟩, And.right⟩
      | some json => simp
    | some json => cases o₁.routesText <;> simp
  have hothers : (∀ name, name ∉ injectedNames →
      withKey EnvVar.name name (injectedEnv o₂ (injectedEnv o₁ env)) =
        withKey EnvVar.name name (injectedEnv o₂ [])) ↔
      ∀ name, name ∉ injectedNames → withKey EnvVar.name name env = [] := by
    refine forall₂_congr fun name hname => ?_
    rw [withKey_injectedEnv_of_notMem o₂ _ hname, withKey_injectedEnv_of_notMem o₁ _ hname,
      withKey_injectedEnv_of_notMem o₂ _ hname, withKey_nil]
  rw [hvars, hhost, hroutes, hothers]
  constructor
  · rintro ⟨hvars, hhost, ⟨hone, hroutes⟩, hothers⟩
    exact ⟨⟨hvars, hhost, hone, hothers⟩, hroutes⟩
  · rintro ⟨⟨hvars, hhost, hone, hothers⟩, hroutes⟩
    exact ⟨hvars, hhost, ⟨hone, hroutes⟩, hothers⟩

/-! ## The ports -/

/-- A port is added where its number is missing. -/
theorem withKey_injectedPorts (number : Int) (ports : List ContainerPort) :
    withKey ContainerPort.containerPort number (injectedPorts ports) =
      if withKey ContainerPort.containerPort number ports = [] then
        withKey ContainerPort.containerPort number [proxyPort, metricsPort]
      else withKey ContainerPort.containerPort number ports := by
  have hne : metricsPort.containerPort ≠ proxyPort.containerPort := by decide
  have hpair : withKey ContainerPort.containerPort number [proxyPort, metricsPort] =
      (if number = proxyPort.containerPort then [proxyPort] else []) ++
        if number = metricsPort.containerPort then [metricsPort] else [] := by
    rw [← withKey_singleton, ← withKey_singleton, ← withKey_append]
    rfl
  rw [injectedPorts, withKey_ensure, withKey_ensure, hpair]
  by_cases hmetrics : number = metricsPort.containerPort
  · have hproxy : number ≠ proxyPort.containerPort := fun h => hne (hmetrics.symm.trans h)
    simp [hmetrics, hne]
  · by_cases hproxy : number = proxyPort.containerPort
    · simp [hproxy, hne.symm]
    · simp [hproxy, hmetrics]

/-- Ports that are ensured twice are ensured once. -/
theorem injectedPorts_injectedPorts (ports : List ContainerPort) :
    injectedPorts (injectedPorts ports) = injectedPorts ports := by
  have hthere : ∀ port ∈ [proxyPort, metricsPort],
      withKey ContainerPort.containerPort port.containerPort (injectedPorts ports) ≠ [] := by
    intro port hport
    rw [withKey_injectedPorts]
    split
    · exact List.ne_nil_of_mem (mem_withKey.2 ⟨hport, rfl⟩)
    · assumption
  have hproxy : ensure ContainerPort.containerPort proxyPort (injectedPorts ports) =
      injectedPorts ports := ensure_eq_self (hthere _ List.mem_cons_self)
  have hmetrics : ensure ContainerPort.containerPort metricsPort (injectedPorts ports) =
      injectedPorts ports :=
    ensure_eq_self (hthere _ (List.mem_cons_of_mem _ List.mem_cons_self))
  conv_lhs => rw [injectedPorts, hproxy, hmetrics]

/-- The two ports have different numbers. -/
theorem length_withKey_ports (number : Int) :
    (withKey ContainerPort.containerPort number [proxyPort, metricsPort]).length ≤ 1 := by
  revert number
  exact nodup_iff_withKey.1 (by decide)

/-- **When the ports are those of a sidecar built anew**: the sidecar has none of its own. -/
theorem samePorts_iff (ports : List ContainerPort) :
    (injectedPorts ports).Perm (injectedPorts []) ↔ ManagedPorts ports := by
  have hbuilt : injectedPorts [] = [proxyPort, metricsPort] := rfl
  rw [hbuilt, perm_iff_withKey length_withKey_ports]
  constructor
  · intro h
    have hports : ∀ number, withKey ContainerPort.containerPort number ports = [] ∨
        withKey ContainerPort.containerPort number ports =
          withKey ContainerPort.containerPort number [proxyPort, metricsPort] := by
      intro number
      have hnumber := h number
      rw [withKey_injectedPorts] at hnumber
      split at hnumber
      · next hnil => exact .inl hnil
      · exact .inr hnumber
    refine ⟨nodup_iff_withKey.2 fun number => ?_, fun port hport => ?_⟩
    · rcases hports number with hnil | heq
      · rw [hnil]
        exact Nat.zero_le 1
      · rw [heq]
        exact length_withKey_ports number
    · have hmem : port ∈ withKey ContainerPort.containerPort port.containerPort ports :=
        mem_withKey.2 ⟨hport, rfl⟩
      rcases hports port.containerPort with hnil | heq
      · rw [hnil] at hmem
        cases hmem
      · rw [heq] at hmem
        exact List.mem_pair.1 (mem_withKey.1 hmem).1
  · rintro ⟨hnodup, hports⟩ number
    rw [withKey_injectedPorts]
    split
    · rfl
    · next hne =>
      obtain ⟨port, hport⟩ := List.exists_mem_of_ne_nil _ hne
      obtain ⟨hmem, rfl⟩ := mem_withKey.1 hport
      have hpair : port ∈ withKey ContainerPort.containerPort port.containerPort
          [proxyPort, metricsPort] := mem_withKey.2 ⟨List.mem_pair.2 (hports port hmem), rfl⟩
      rw [eq_singleton_of_mem (nodup_iff_withKey.1 hnodup _) hport,
        eq_singleton_of_mem (length_withKey_ports _) hpair]

end Lapdev
