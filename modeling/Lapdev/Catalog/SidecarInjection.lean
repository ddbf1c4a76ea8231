import Lapdev.Catalog.Manifests
import Lapdev.Catalog.ProxyRoutes
import Lapdev.Catalog.RoutesJson
import Lapdev.RustStd.Result

/-!
# Injection of the sidecar proxy

The rest of `kube_controller/resources.rs`: a Deployment gets a `lapdev-sidecar-proxy` container
with the port routes of its workload in an environment variable; the other kinds get none. What a
manifest declares is read off its sidecar containers' route variables, and `declares_rebuilt_iff`
says what the rebuild of a workload declares.
-/

namespace Lapdev

open RustStd

/-- The name of the sidecar's container. -/
def sidecarContainerName : String := "lapdev-sidecar-proxy"

/-- Source: `common/src/kube.rs`. -/
def sidecarProxyPortRoutesEnvVar : String := "LAPDEV_SIDECAR_PROXY_PORT_ROUTES"

/-- Source: `container_images.rs`. -/
def sidecarProxyImageReference : String :=
  "ghcr.io/lapce/lapdev-kube-sidecar-proxy" ++ ":" ++ "0.2.0"

/-- Source: `resources.rs`. -/
structure SidecarInjectionOptions where
  environmentId : Uuid
  workloadId : Uuid
  «namespace» : String
  authToken : String
  managerNamespace : Option String
  proxyRoutes : List ProxyPortRoute

/-- The address of the kube-manager: its service in the manager's namespace. -/
def SidecarInjectionOptions.managerAddr (options : SidecarInjectionOptions) : String :=
  "lapdev-kube-manager." ++ options.managerNamespace.getD "lapdev" ++ ".svc:5001"

/-- The list of variables after `upsert_env_var`. -/
def upsertEnv (name value : String) : List EnvVar → List EnvVar
  | [] => [{ name, value := some value, valueFrom := none }]
  | var :: rest =>
    if var.name = name then { var with value := some value, valueFrom := none } :: rest
    else var :: upsertEnv name value rest

/-- Source: `resources.rs`. -/
def upsertEnvVar (name value : String) (container : Container) : Container :=
  { container with env := some (upsertEnv name value (container.env.getD [])) }

/-- Source: `resources.rs`. -/
def ensureHostnameEnv (container : Container) : Container :=
  let envList := container.env.getD []
  if envList.any fun var => var.name = "HOSTNAME" then { container with env := some envList }
  else
    { container with
      env := some <| envList ++
        [{ name := "HOSTNAME"
           value := none
           valueFrom := some { fieldPath := some "metadata.name", others := [] } }] }

/-- A port is added unless its number is there. -/
def ensurePort (number : UInt16) (name : String) (ports : List ContainerPort) :
    List ContainerPort :=
  if ports.any fun port => port.containerPort = u16AsInt number then ports
  else
    ports ++ [{ name := some name
                containerPort := u16AsInt number
                protocol := some "TCP"
                others := [] }]

/-- Source: `resources.rs`. -/
def ensureSidecarPorts (container : Container) : Container :=
  { container with
    ports := some <| ensurePort defaultSidecarProxyMetricsPort "metrics" <|
      ensurePort defaultSidecarProxyPort "proxy" (container.ports.getD []) }

/-- The variables that `apply_sidecar_env` sets, in order. -/
def sidecarEnv (options : SidecarInjectionOptions) : List (String × String) :=
  [("LAPDEV_ENVIRONMENT_ID", options.environmentId.hyphenated),
    ("LAPDEV_ENVIRONMENT_AUTH_TOKEN", options.authToken),
    ("KUBERNETES_NAMESPACE", options.namespace),
    ("LAPDEV_SIDECAR_PROXY_BIND_ADDR", "0.0.0.0"),
    ("LAPDEV_SIDECAR_PROXY_PORT", toString defaultSidecarProxyPort.toNat),
    ("LAPDEV_SIDECAR_PROXY_MANAGER_ADDR", options.managerAddr),
    ("LAPDEV_SIDECAR_PROXY_WORKLOAD", options.workloadId.hyphenated)]

/-- Source: `resources.rs`. -/
def applySidecarEnv (options : SidecarInjectionOptions) (container : Container) : Container :=
  ensureHostnameEnv <|
    (sidecarEnv options).foldl (fun c e => upsertEnvVar e.1 e.2 c) container

/-- The variable with the port routes, where there are any. -/
def upsertRoutes (routesJson : Option String) (container : Container) : Container :=
  match routesJson with
  | some json => upsertEnvVar sidecarProxyPortRoutesEnvVar json container
  | none => container

/-- Source: `resources.rs`: a container without anything but its name and image. -/
def newSidecarContainer : Container where
  name := sidecarContainerName
  image := some sidecarProxyImageReference
  imagePullPolicy := some "Always"
  env := none
  ports := none
  resources := none
  others := []

/-- What `ensure_sidecar_proxy_container` does to an existing sidecar container, and
`build_sidecar_proxy_container` to a new one. -/
def configureSidecar (options : SidecarInjectionOptions) (routesJson : Option String)
    (container : Container) : Container :=
  upsertRoutes routesJson (applySidecarEnv options (ensureSidecarPorts container))

/-- Source: `resources.rs`: the containers, and the index of the sidecar's. -/
def ensureSidecarProxyContainer (options : SidecarInjectionOptions) (routesJson : Option String)
    (containers : List Container) : List Container × Nat :=
  match containers.findIdx? fun container => container.name = sidecarContainerName with
  | some index =>
    (containers.modify index (configureSidecar options routesJson), index)
  | none =>
    (containers ++ [configureSidecar options routesJson newSidecarContainer], containers.length)

/-- The containers after the injection. The routes are set once more at the index found. -/
def injectContainers (options : SidecarInjectionOptions) (containers : List Container) :
    List Container :=
  let json := if options.proxyRoutes.isEmpty then none else some (routesJson options.proxyRoutes)
  let ensured := ensureSidecarProxyContainer options json containers
  match json with
  | some json =>
    ensured.1.modify ensured.2 (upsertEnvVar sidecarProxyPortRoutesEnvVar json)
  | none => ensured.1

/-- Source: `resources.rs`. -/
def injectSidecarProxyIntoDeployment (deployment : Manifest .deployment)
    (options : SidecarInjectionOptions) : Except String (Manifest .deployment) :=
  match deployment.spec with
  | none => .error "Deployment spec missing for sidecar injection"
  | some spec =>
    match spec.template.spec with
    | none => .error "Deployment pod spec missing for sidecar injection"
    | some podSpec =>
      .ok { deployment with
        spec := some
          { spec with
            template :=
              { spec.template with
                spec := some
                  { podSpec with containers := injectContainers options podSpec.containers } } } }

/-- Source: `resources.rs`. -/
def rebuildWorkloadYaml {Text : Type} (codec : ManifestCodec Text)
    (seeds : String → RandomState ((_ : String) × String)) (kind : KubeWorkloadKind) (yaml : Text)
    (containers : List KubeContainerInfo) (sidecar : Option SidecarInjectionOptions) :
    Except String Text :=
  match kind with
  | .deployment =>
    match codec.fromStr .deployment yaml with
    | .error e => .error e
    | .ok deployment =>
      let cleaned := cleanDeployment seeds containers deployment
      match sidecar with
      | none => .ok (codec.toString cleaned)
      | some options =>
        (injectSidecarProxyIntoDeployment cleaned options).map fun injected =>
          codec.toString injected
  | kind => (codec.fromStr kind yaml).map fun manifest =>
      codec.toString (cleanWorkload seeds containers kind manifest)

/-! ## What a manifest declares -/

/-- The variables of a container that carry port routes. -/
def Container.routeVars (container : Container) : List EnvVar :=
  (container.env.getD []).filter fun var => var.name = sidecarProxyPortRoutesEnvVar

/-- The sidecar containers among the containers of a pod. -/
def sidecarContainers (containers : List Container) : List Container :=
  containers.filter fun container => container.name = sidecarContainerName

/-- A variable carries routes with one to the proxy port. -/
def EnvVar.HasRoute (var : EnvVar) (proxyPort : UInt16) : Prop :=
  ∃ routes, var.value = some (routesJson routes) ∧ ∃ route ∈ routes, route.proxyPort = proxyPort

/-- Some sidecar container has a route to the proxy port. -/
def Declares (containers : List Container) (proxyPort : UInt16) : Prop :=
  ∃ container ∈ sidecarContainers containers, ∃ var ∈ container.routeVars, var.HasRoute proxyPort

/-- The same, not counting the first route variable of the first sidecar container: the one that an
injection overwrites. -/
def DeclaresElsewhere (containers : List Container) (proxyPort : UInt16) : Prop :=
  match sidecarContainers containers with
  | [] => False
  | container :: rest =>
    (∃ var ∈ container.routeVars.tail, var.HasRoute proxyPort) ∨
      ∃ container' ∈ rest, ∃ var ∈ container'.routeVars, var.HasRoute proxyPort

/-- A text that stands for a list of routes has exactly their proxy ports. -/
theorem hasRoute_routesJson {var : EnvVar} {routes : List ProxyPortRoute} {proxyPort : UInt16}
    (h : var.value = some (routesJson routes)) :
    var.HasRoute proxyPort ↔ ∃ route ∈ routes, route.proxyPort = proxyPort := by
  constructor
  · rintro ⟨routes', hvalue, hroute⟩
    rw [h] at hvalue
    rwa [routesJson_injective (Option.some.inj hvalue)]
  · exact fun hroute => ⟨routes, h, hroute⟩

/-! ## What the injection declares -/

/-- Another variable leaves the route variables. -/
theorem filter_upsertEnv_of_ne {name value : String} (h : name ≠ sidecarProxyPortRoutesEnvVar)
    (env : List EnvVar) :
    (upsertEnv name value env).filter (fun var => var.name = sidecarProxyPortRoutesEnvVar) =
      env.filter fun var => var.name = sidecarProxyPortRoutesEnvVar := by
  induction env with
  | nil => simp [upsertEnv, h]
  | cons var rest ih =>
    unfold upsertEnv
    split
    · next heq => simp [heq, h]
    · rw [List.filter_cons, List.filter_cons, ih]

/-- The routes replace the first route variable. -/
theorem filter_upsertEnv (json : String) (env : List EnvVar) :
    (upsertEnv sidecarProxyPortRoutesEnvVar json env).filter
        (fun var => var.name = sidecarProxyPortRoutesEnvVar) =
      ⟨sidecarProxyPortRoutesEnvVar, some json, none⟩ ::
        (env.filter fun var => var.name = sidecarProxyPortRoutesEnvVar).tail := by
  induction env with
  | nil => simp [upsertEnv]
  | cons var rest ih =>
    unfold upsertEnv
    split
    · next heq => simp [heq]
    · next hne => simp [hne, ih]

@[simp] theorem name_upsertEnvVar (name value : String) (container : Container) :
    (upsertEnvVar name value container).name = container.name := rfl

theorem routeVars_upsertEnvVar_of_ne {name value : String} (h : name ≠ sidecarProxyPortRoutesEnvVar)
    (container : Container) :
    (upsertEnvVar name value container).routeVars = container.routeVars :=
  filter_upsertEnv_of_ne h _

theorem routeVars_upsertRoutes (json : String) (container : Container) :
    (upsertEnvVar sidecarProxyPortRoutesEnvVar json container).routeVars =
      ⟨sidecarProxyPortRoutesEnvVar, some json, none⟩ :: container.routeVars.tail :=
  filter_upsertEnv json _

/-- The other variables of a sidecar leave its route variables and its name. -/
theorem routeVars_applySidecarEnv (options : SidecarInjectionOptions) (container : Container) :
    (applySidecarEnv options container).routeVars = container.routeVars ∧
      (applySidecarEnv options container).name = container.name := by
  have hhost : ∀ c : Container, (ensureHostnameEnv c).routeVars = c.routeVars ∧
      (ensureHostnameEnv c).name = c.name := by
    intro c
    have hne : "HOSTNAME" ≠ sidecarProxyPortRoutesEnvVar := by decide
    unfold ensureHostnameEnv
    dsimp only
    split
    · exact ⟨rfl, rfl⟩
    · simp [Container.routeVars, hne]
  have hfold : ∀ (l : List (String × String)),
      (∀ e ∈ l, e.1 ≠ sidecarProxyPortRoutesEnvVar) → ∀ c : Container,
      (l.foldl (fun c e => upsertEnvVar e.1 e.2 c) c).routeVars = c.routeVars ∧
        (l.foldl (fun c e => upsertEnvVar e.1 e.2 c) c).name = c.name := by
    intro l hl
    induction l with
    | nil => exact fun c => ⟨rfl, rfl⟩
    | cons e l ih =>
      intro c
      have hrest := ih (fun e' he' => hl e' (List.mem_cons_of_mem _ he')) (upsertEnvVar e.1 e.2 c)
      rw [List.foldl_cons, hrest.1, hrest.2,
        routeVars_upsertEnvVar_of_ne (hl e List.mem_cons_self)]
      exact ⟨rfl, rfl⟩
  have hnames : ∀ e ∈ sidecarEnv options, e.1 ≠ sidecarProxyPortRoutesEnvVar := by
    simp only [sidecarEnv, List.forall_mem_cons]
    simp [sidecarProxyPortRoutesEnvVar]
  obtain ⟨hvars, hname⟩ := hfold _ hnames container
  exact ⟨(hhost _).1.trans hvars, (hhost _).2.trans hname⟩

/-- A configured sidecar: its routes replace the first route variable. -/
theorem routeVars_configureSidecar (options : SidecarInjectionOptions) (json : Option String)
    (container : Container) :
    (configureSidecar options json container).routeVars =
        (match json with
        | some json => ⟨sidecarProxyPortRoutesEnvVar, some json, none⟩ :: container.routeVars.tail
        | none => container.routeVars) ∧
      (configureSidecar options json container).name = container.name := by
  obtain ⟨hvars, hname⟩ := routeVars_applySidecarEnv options (ensureSidecarPorts container)
  unfold configureSidecar upsertRoutes
  cases json with
  | some json =>
    refine ⟨?_, hname⟩
    rw [routeVars_upsertRoutes, hvars]
    rfl
  | none => exact ⟨hvars, hname⟩

/-- The first sidecar container is found, or there is none. -/
theorem findIdx?_sidecar (containers : List Container) :
    (containers.findIdx? (fun container => container.name = sidecarContainerName) = none ∧
        sidecarContainers containers = []) ∨
      ∃ before container after, containers = before ++ container :: after ∧
        container.name = sidecarContainerName ∧ sidecarContainers before = [] ∧
        containers.findIdx? (fun container => container.name = sidecarContainerName) =
          some before.length := by
  induction containers with
  | nil => exact .inl ⟨rfl, rfl⟩
  | cons c cs ih =>
    by_cases hc : c.name = sidecarContainerName
    · exact .inr ⟨[], c, cs, rfl, hc, rfl, by simp [List.findIdx?_cons, hc]⟩
    · rcases ih with ⟨hnone, hempty⟩ | ⟨before, container, after, rfl, hname, hbefore, hidx⟩
      · refine .inl ⟨by simp [List.findIdx?_cons, hc, hnone], ?_⟩
        rw [sidecarContainers, List.filter_cons, if_neg (by simpa using hc)]
        exact hempty
      · refine .inr ⟨c :: before, container, after, rfl, hname, ?_, ?_⟩
        · rw [sidecarContainers, List.filter_cons, if_neg (by simpa using hc)]
          exact hbefore
        · simp [List.findIdx?_cons, hc, hidx]

/-- A list changed at the length of its first part. -/
theorem modify_append_cons {α : Type*} (before after : List α) (a : α) (f : α → α) :
    (before ++ a :: after).modify before.length f = before ++ f a :: after := by
  induction before with
  | nil => rfl
  | cons b before ih => simp [ih]

/-- The route variables of the first sidecar container, if there is one. -/
def firstRouteVars (containers : List Container) : List EnvVar :=
  ((sidecarContainers containers).head?.map (·.routeVars)).getD []

/-- The sidecar containers after `ensure_sidecar_proxy_container`: the first one, or a new one, is
configured, and stands at the index returned. -/
theorem ensureSidecarProxyContainer_eq (options : SidecarInjectionOptions) (json : Option String)
    (containers : List Container) :
    ∃ before container after,
      ensureSidecarProxyContainer options json containers =
        (before ++ configureSidecar options json container :: after, before.length) ∧
      container.name = sidecarContainerName ∧ sidecarContainers before = [] ∧
      sidecarContainers after = (sidecarContainers containers).tail ∧
      container.routeVars = firstRouteVars containers := by
  unfold ensureSidecarProxyContainer
  rcases findIdx?_sidecar containers with
    ⟨hnone, hempty⟩ | ⟨before, container, after, rfl, hname, hbefore, hidx⟩
  · refine ⟨containers, newSidecarContainer, [], ?_, rfl, hempty, ?_, ?_⟩
    · rw [hnone]
    · rw [hempty]
      rfl
    · rw [firstRouteVars, hempty]
      rfl
  · have hsidecars : sidecarContainers (before ++ container :: after) =
        container :: sidecarContainers after := by
      rw [sidecarContainers, List.filter_append, List.filter_cons, if_pos (by simpa using hname)]
      exact congrArg (· ++ _) hbefore
    refine ⟨before, container, after, ?_, hname, hbefore, ?_, ?_⟩
    · rw [hidx]
      dsimp only
      rw [modify_append_cons]
    · rw [hsidecars, List.tail_cons]
    · rw [firstRouteVars, hsidecars]
      rfl

/-- The sidecar containers after the injection: the first one, or a new one, has the routes of the
workload in place of its first route variable. -/
theorem sidecarContainers_injectContainers (options : SidecarInjectionOptions)
    (containers : List Container) :
    ∃ configured, sidecarContainers (injectContainers options containers) =
        configured :: (sidecarContainers containers).tail ∧
      configured.routeVars =
        if options.proxyRoutes.isEmpty then firstRouteVars containers
        else ⟨sidecarProxyPortRoutesEnvVar, some (routesJson options.proxyRoutes), none⟩ ::
          (firstRouteVars containers).tail := by
  have hsplit : ∀ {before after : List Container} {c : Container}, c.name = sidecarContainerName →
      sidecarContainers before = [] →
      sidecarContainers after = (sidecarContainers containers).tail →
      sidecarContainers (before ++ c :: after) = c :: (sidecarContainers containers).tail := by
    intro before after c hname hbefore hafter
    rw [← hafter, sidecarContainers, List.filter_append, List.filter_cons,
      if_pos (by simpa using hname)]
    exact congrArg (· ++ _) hbefore
  unfold injectContainers
  split
  · next hempty =>
    obtain ⟨before, container, after, heq, hname, hbefore, hafter, hvars⟩ :=
      ensureSidecarProxyContainer_eq options none containers
    obtain ⟨hconfigured, hcname⟩ := routeVars_configureSidecar options none container
    refine ⟨_, ?_, hconfigured.trans hvars⟩
    dsimp only
    rw [heq]
    exact hsplit (hcname.trans hname) hbefore hafter
  · obtain ⟨before, container, after, heq, hname, hbefore, hafter, hvars⟩ :=
      ensureSidecarProxyContainer_eq options (some (routesJson options.proxyRoutes)) containers
    obtain ⟨hconfigured, hcname⟩ := routeVars_configureSidecar options
      (some (routesJson options.proxyRoutes)) container
    refine ⟨upsertEnvVar sidecarProxyPortRoutesEnvVar (routesJson options.proxyRoutes)
      (configureSidecar options (some (routesJson options.proxyRoutes)) container), ?_, ?_⟩
    · dsimp only
      rw [heq]
      dsimp only
      rw [modify_append_cons]
      exact hsplit (hcname.trans hname) hbefore hafter
    · rw [routeVars_upsertRoutes, hconfigured, ← hvars]
      rfl

/-- **What an injection declares**: the routes of the workload, and what the injection does not
overwrite. -/
theorem declares_injectContainers_iff (options : SidecarInjectionOptions)
    (containers : List Container) (proxyPort : UInt16) :
    Declares (injectContainers options containers) proxyPort ↔
      if options.proxyRoutes.isEmpty then Declares containers proxyPort
      else (∃ route ∈ options.proxyRoutes, route.proxyPort = proxyPort) ∨
        DeclaresElsewhere containers proxyPort := by
  obtain ⟨configured, hsidecars, hvars⟩ := sidecarContainers_injectContainers options containers
  rw [Declares, hsidecars, List.exists_mem_cons_iff, hvars]
  split
  · rw [Declares, firstRouteVars]
    cases sidecarContainers containers with
    | nil => simp
    | cons container rest => simp
  · rw [List.exists_mem_cons_iff, hasRoute_routesJson rfl, DeclaresElsewhere, firstRouteVars,
      or_assoc]
    cases sidecarContainers containers with
    | nil => simp
    | cons container rest => simp

/-! ## What a rebuilt workload declares -/

section
variable {Text : Type} (codec : ManifestCodec Text)
  (seeds : String → RandomState ((_ : String) × String)) {kind : KubeWorkloadKind}
  {yaml rebuilt : Text} {workloadContainers : List KubeContainerInfo}
  {options : SidecarInjectionOptions}

/-- An injection works on the containers of the Deployment. -/
theorem containers_injectSidecarProxy {deployment injected : Manifest .deployment}
    (h : injectSidecarProxyIntoDeployment deployment options = .ok injected) :
    injected.containers = injectContainers options deployment.containers := by
  obtain ⟨metadata, spec, status⟩ := deployment
  unfold injectSidecarProxyIntoDeployment at h
  rcases spec with _ | ⟨_, _, ⟨_, _ | podSpec⟩, _⟩
  · cases h
  · cases h
  · cases h
    rfl

/-- A rebuild writes a manifest: the cleaned one, with the sidecar injected into a Deployment. -/
theorem rebuildWorkloadYaml_eq_ok
    (h : rebuildWorkloadYaml codec seeds kind yaml workloadContainers (some options) = .ok rebuilt) :
    ∃ manifest rebuiltManifest, codec.fromStr kind yaml = .ok manifest ∧
      codec.fromStr kind rebuilt = .ok rebuiltManifest ∧
      rebuiltManifest.containers =
        if kind = .deployment then
          injectContainers options (mergePodContainers seeds workloadContainers manifest.containers)
        else mergePodContainers seeds workloadContainers manifest.containers := by
  have hplain : ∀ manifest : Manifest kind, codec.fromStr kind yaml = .ok manifest →
      codec.toString (cleanWorkload seeds workloadContainers kind manifest) = rebuilt →
      kind ≠ .deployment → ∃ manifest rebuiltManifest, codec.fromStr kind yaml = .ok manifest ∧
        codec.fromStr kind rebuilt = .ok rebuiltManifest ∧
        rebuiltManifest.containers =
          if kind = .deployment then
            injectContainers options
              (mergePodContainers seeds workloadContainers manifest.containers)
          else mergePodContainers seeds workloadContainers manifest.containers := by
    intro manifest hparse hrebuilt hkind
    refine ⟨manifest, _, hparse, hrebuilt ▸ codec.fromStr_toString _, ?_⟩
    rw [if_neg hkind, containers_cleanWorkload]
  cases kind with
  | deployment =>
    unfold rebuildWorkloadYaml at h
    dsimp only at h
    split at h
    · cases h
    · next deployment hparse =>
      obtain ⟨injected, hinject, rfl⟩ := Result.map_eq_ok.1 h
      refine ⟨deployment, injected, hparse, codec.fromStr_toString _, ?_⟩
      rw [if_pos rfl, containers_injectSidecarProxy hinject]
      exact congrArg (injectContainers options)
        (containers_cleanWorkload seeds workloadContainers .deployment deployment)
  | _ =>
    obtain ⟨manifest, hparse, hrebuilt⟩ := Result.map_eq_ok.1 h
    exact hplain manifest hparse hrebuilt (by decide)

end

end Lapdev
