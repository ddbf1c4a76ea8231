import Lapdev.Catalog.BranchManifests
import Lapdev.Catalog.InjectedEnv

/-!
# Injecting the sidecar again

An injection updates the sidecar container that is there, and builds a new one otherwise.
`injectionLaws_iff` says when a second injection leaves nothing of the first one, which is not so
where the first has port routes and the second has none; the other laws of injecting and stripping
hold for every Deployment.
-/

namespace Lapdev

open RustStd Lists

/-! ## The containers -/

/-- The injection by the text of the routes. -/
theorem injectContainers_routesText (options : SidecarInjectionOptions)
    (containers : List Container) :
    injectContainers options containers =
      match options.routesText with
      | some json => (ensureSidecarProxyContainer options options.routesText containers).1.modify
          (ensureSidecarProxyContainer options options.routesText containers).2
          (upsertEnvVar sidecarProxyPortRoutesEnvVar json)
      | none => (ensureSidecarProxyContainer options options.routesText containers).1 := rfl

/-- The container at the index found gets its routes. -/
theorem injectContainers_eq {options : SidecarInjectionOptions}
    {containers before after : List Container} {container : Container}
    (h : ensureSidecarProxyContainer options options.routesText containers =
      (before ++ injectedSidecar options container :: after, before.length)) :
    injectContainers options containers = before ++ injectedSidecar options container :: after := by
  have hroutes := upsertRoutes_injectedSidecar options container
  rw [injectContainers_routesText, h]
  cases hjson : options.routesText with
  | none => rfl
  | some json =>
    rw [hjson] at hroutes
    dsimp only
    rw [modify_append_cons]
    exact congrArg (fun c => before ++ c :: after) hroutes

/-- Without a sidecar container a new one is put last. -/
theorem injectContainers_of_nil (options : SidecarInjectionOptions) {containers : List Container}
    (h : sidecarContainers containers = []) :
    injectContainers options containers =
      containers ++ [injectedSidecar options newSidecarContainer] := by
  refine injectContainers_eq ?_
  rcases findIdx?_sidecar containers with ⟨hnone, -⟩ | ⟨before, container, after, rfl, hname, -, -⟩
  · rw [ensureSidecarProxyContainer, hnone, configureSidecar_eq]
  · have hmem : container ∈ sidecarContainers (before ++ container :: after) :=
      List.mem_filter.2 ⟨by simp, decide_eq_true hname⟩
    rw [h] at hmem
    cases hmem

/-- The first sidecar container is updated where it stands. -/
theorem injectContainers_of_cons (options : SidecarInjectionOptions)
    {before after : List Container} {container : Container}
    (hname : container.name = sidecarContainerName) (hbefore : sidecarContainers before = []) :
    injectContainers options (before ++ container :: after) =
      before ++ injectedSidecar options container :: after := by
  have hfind : (before ++ container :: after).findIdx?
      (fun container => container.name = sidecarContainerName) = some before.length := by
    have hnone : before.findIdx? (fun container => container.name = sidecarContainerName) = none :=
      List.findIdx?_eq_none_iff.2 fun c hc => by
        simpa using List.filter_eq_nil_iff.1 hbefore c hc
    rw [List.findIdx?_append, hnone, List.findIdx?_cons, if_pos (by simpa using hname)]
    simp
  refine injectContainers_eq ?_
  rw [ensureSidecarProxyContainer, hfind]
  dsimp only
  rw [modify_append_cons, configureSidecar_eq]

/-! ## The sidecar container of a pod -/

/-- The containers that are not the sidecar's. -/
def otherContainers (containers : List Container) : List Container :=
  containers.filter fun container => container.name ≠ sidecarContainerName

/-- The container that an injection configures. -/
def sidecarOf (containers : List Container) : Container :=
  (sidecarContainers containers).head?.getD newSidecarContainer

/-- The first sidecar container is one of them. -/
theorem sidecarContainers_cons (before after : List Container) {container : Container}
    (hname : container.name = sidecarContainerName) :
    sidecarContainers (before ++ container :: after) =
      sidecarContainers before ++ container :: sidecarContainers after := by
  rw [sidecarContainers, List.filter_append, List.filter_cons, if_pos (by simpa using hname)]
  rfl

/-- A sidecar container is not one of the others. -/
theorem otherContainers_cons (before after : List Container) {container : Container}
    (hname : container.name = sidecarContainerName) :
    otherContainers (before ++ container :: after) =
      otherContainers before ++ otherContainers after := by
  rw [otherContainers, List.filter_append, List.filter_cons, if_neg (by simpa using hname)]
  rfl

/-- Injections with any options configure the same container at the same place. -/
theorem injectContainers_split (containers : List Container) :
    ∃ before after, (sidecarOf containers).name = sidecarContainerName ∧
      sidecarContainers before = [] ∧
      sidecarContainers after = (sidecarContainers containers).tail ∧
      otherContainers containers = otherContainers before ++ otherContainers after ∧
      ∀ options, injectContainers options containers =
        before ++ injectedSidecar options (sidecarOf containers) :: after := by
  unfold sidecarOf
  rcases findIdx?_sidecar containers with
    ⟨-, hnil⟩ | ⟨before, container, after, rfl, hname, hbefore, -⟩
  · refine ⟨containers, [], ?_⟩
    rw [hnil]
    exact ⟨rfl, rfl, rfl, (List.append_nil _).symm,
      fun options => injectContainers_of_nil options hnil⟩
  · refine ⟨before, after, ?_⟩
    rw [sidecarContainers_cons before after hname, hbefore]
    exact ⟨hname, rfl, rfl, otherContainers_cons before after hname,
      fun options => injectContainers_of_cons options hname hbefore⟩

section
variable (options : SidecarInjectionOptions) (containers : List Container)

/-- Injecting a sidecar twice is injecting it once. -/
theorem injectedSidecar_injectedSidecar (container : Container) :
    injectedSidecar options (injectedSidecar options container) =
      injectedSidecar options container := by
  have henv := injectedEnv_injectedEnv options (container.env.getD [])
  have hports := injectedPorts_injectedPorts (container.ports.getD [])
  unfold injectedSidecar
  rw [Option.getD_some, Option.getD_some, henv, hports]

/-- So it is for all containers. -/
theorem injectContainers_injectContainers :
    injectContainers options (injectContainers options containers) =
      injectContainers options containers := by
  obtain ⟨before, after, hname, hbefore, -, -, hinject⟩ := injectContainers_split containers
  have hname' : (injectedSidecar options (sidecarOf containers)).name = sidecarContainerName :=
    hname
  rw [hinject options, injectContainers_of_cons options hname' hbefore,
    injectedSidecar_injectedSidecar]

/-- A second injection configures the container of the first one. -/
theorem sidecarContainers_inject :
    sidecarContainers (injectContainers options containers) =
      injectedSidecar options (sidecarOf containers) :: (sidecarContainers containers).tail := by
  obtain ⟨before, after, hname, hbefore, hafter, -, hinject⟩ := injectContainers_split containers
  have hname' : (injectedSidecar options (sidecarOf containers)).name = sidecarContainerName :=
    hname
  rw [hinject options, sidecarContainers_cons before after hname', hbefore, hafter]
  rfl

/-- An injection leaves the other containers. -/
theorem otherContainers_injectContainers :
    otherContainers (injectContainers options containers) = otherContainers containers := by
  obtain ⟨before, after, hname, -, -, hothers, hinject⟩ := injectContainers_split containers
  have hname' : (injectedSidecar options (sidecarOf containers)).name = sidecarContainerName :=
    hname
  rw [hinject options, otherContainers_cons before after hname', hothers]

end

/-- Without a sidecar all containers are others. -/
theorem otherContainers_of_nil {containers : List Container}
    (h : sidecarContainers containers = []) : otherContainers containers = containers := by
  refine List.filter_eq_self.2 fun container hcontainer => ?_
  simpa using List.filter_eq_nil_iff.1 h container hcontainer

/-- Two sidecars have the same variables, ports and routes. -/
structure SameSidecar (container container' : Container) : Prop where
  env : (container.env.getD []).Perm (container'.env.getD [])
  ports : (container.ports.getD []).Perm (container'.ports.getD [])
  routes : container.routeVars = container'.routeVars

/-- A sidecar has nothing that an injection would not give it. -/
structure ManagedSidecar (container : Container) : Prop where
  env : ManagedEnv (container.env.getD [])
  ports : ManagedPorts (container.ports.getD [])

/-- A new sidecar has nothing of its own. -/
theorem managedSidecar_new : ManagedSidecar newSidecarContainer where
  env := ⟨List.nodup_nil, fun _ h => absurd h List.not_mem_nil, fun _ h => absurd h List.not_mem_nil⟩
  ports := ⟨List.nodup_nil, fun _ h => absurd h List.not_mem_nil⟩

/-- An injection on top of another one, against a sidecar that is built anew. -/
theorem sameSidecar_iff (o₁ o₂ : SidecarInjectionOptions) (container : Container) :
    SameSidecar (injectedSidecar o₂ (injectedSidecar o₁ container))
        (injectedSidecar o₂ newSidecarContainer) ↔
      ManagedSidecar container ∧
        (o₂.proxyRoutes = [] → o₁.proxyRoutes = [] ∧ container.routeVars = []) := by
  have henv := sameEnv_iff o₁ o₂ (container.env.getD [])
  have hports : (injectedPorts (injectedPorts (container.ports.getD []))).Perm (injectedPorts []) ↔
      ManagedPorts (container.ports.getD []) := by
    rw [injectedPorts_injectedPorts, samePorts_iff]
  constructor
  · intro ⟨hsameEnv, hsamePorts, _⟩
    obtain ⟨hmanaged, hroutes⟩ := henv.1 hsameEnv
    exact ⟨⟨hmanaged, hports.1 hsamePorts⟩, hroutes⟩
  · intro ⟨⟨hmanagedEnv, hmanagedPorts⟩, hroutes⟩
    have hsameEnv := henv.2 ⟨hmanagedEnv, hroutes⟩
    exact ⟨hsameEnv, hports.2 hmanagedPorts,
      (perm_iff_withKey (length_withKey_injectedEnv_nil o₂)).1 hsameEnv _⟩

/-! ## Deployments -/

/-- A Deployment with a pod spec. -/
def Object.HasPodSpec (deployment : Manifest .deployment) : Prop :=
  (deployment.spec.bind (KubeWorkloadKind.podSpec .deployment)).isSome

/-- A Deployment with other containers. -/
def Object.withContainers (deployment : Manifest .deployment) (containers : List Container) :
    Manifest .deployment :=
  { deployment with
    spec := deployment.spec.map <|
      KubeController.mapPodSpec (fun podSpec => { podSpec with containers }) .deployment }

/-- A manifest without its sidecar. -/
def Object.stripped {kind : KubeWorkloadKind} (manifest : Manifest kind) : Manifest kind :=
  { manifest with
    spec := manifest.spec.map
      (KubeController.mapPodSpec KubeController.stripSidecarProxyFromPodSpec kind) }

/-- The strip of any kind leaves the other containers. -/
theorem containers_stripped {kind : KubeWorkloadKind} (manifest : Manifest kind) :
    (Object.stripped manifest).containers = otherContainers manifest.containers := by
  obtain ⟨metadata, spec, status⟩ := manifest
  cases kind with
  | deployment => rcases spec with _ | ⟨_, _, ⟨_, _ | _⟩, _⟩ <;> rfl
  | statefulSet => rcases spec with _ | ⟨_, _, ⟨_, _ | _⟩, _⟩ <;> rfl
  | daemonSet => rcases spec with _ | ⟨_, ⟨_, _ | _⟩, _⟩ <;> rfl
  | replicaSet => rcases spec with _ | ⟨_, _, _ | ⟨_, _ | _⟩, _⟩ <;> rfl
  | pod => cases spec <;> rfl
  | job => rcases spec with _ | ⟨_, ⟨_, _ | _⟩, _⟩ <;> rfl
  | cronJob => rcases spec with _ | ⟨_, ⟨_, _ | ⟨_, ⟨_, _ | _⟩, _⟩⟩, _⟩ <;> rfl

section
variable {deployment : Manifest .deployment}

/-- Containers that are set are those that are there. -/
theorem containers_withContainers (h : Object.HasPodSpec deployment) (containers : List Container) :
    (Object.withContainers deployment containers).containers = containers := by
  obtain ⟨metadata, spec, status⟩ := deployment
  rcases spec with _ | ⟨_, _, ⟨_, _ | podSpec⟩, _⟩
  · cases h
  · cases h
  · rfl

/-- A pod spec stays. -/
theorem hasPodSpec_withContainers (h : Object.HasPodSpec deployment) (containers : List Container) :
    Object.HasPodSpec (Object.withContainers deployment containers) := by
  obtain ⟨metadata, spec, status⟩ := deployment
  rcases spec with _ | ⟨_, _, ⟨_, _ | podSpec⟩, _⟩
  · cases h
  · cases h
  · rfl

/-- Containers that are set twice are those set last. -/
theorem withContainers_withContainers (containers containers' : List Container) :
    Object.withContainers (Object.withContainers deployment containers) containers' =
      Object.withContainers deployment containers' := by
  obtain ⟨metadata, spec, status⟩ := deployment
  rcases spec with _ | ⟨_, _, ⟨_, _ | podSpec⟩, _⟩ <;> rfl

/-- A pod spec stays without its sidecar. -/
theorem hasPodSpec_stripped (h : Object.HasPodSpec deployment) :
    Object.HasPodSpec (Object.stripped deployment) := by
  obtain ⟨metadata, spec, status⟩ := deployment
  rcases spec with _ | ⟨_, _, ⟨_, _ | podSpec⟩, _⟩
  · cases h
  · cases h
  · rfl

/-- An injection into a Deployment with a pod spec changes its containers and nothing else. -/
theorem injectSidecarProxyIntoDeployment_eq (h : Object.HasPodSpec deployment)
    (options : SidecarInjectionOptions) :
    injectSidecarProxyIntoDeployment deployment options =
      .ok (Object.withContainers deployment (injectContainers options deployment.containers)) := by
  obtain ⟨metadata, spec, status⟩ := deployment
  rcases spec with _ | ⟨_, _, ⟨_, _ | podSpec⟩, _⟩
  · cases h
  · cases h
  · rfl

end

/-! ## The laws -/

section
variable {Text : Type} (codec : ManifestCodec Text)

/-- The last of two injections leaves the sidecar that it would have built anew. -/
def LastWins (deployment : Manifest .deployment) (o₁ o₂ : SidecarInjectionOptions) : Prop :=
  ∃ once twice fresh,
    injectSidecarProxyIntoDeployment deployment o₁ = .ok once ∧
    injectSidecarProxyIntoDeployment once o₂ = .ok twice ∧
    injectSidecarProxyIntoDeployment (Object.stripped deployment) o₂ = .ok fresh ∧
    List.Forall₂ SameSidecar (sidecarContainers twice.containers)
      (sidecarContainers fresh.containers)

/-- The laws of injecting into a Deployment and of stripping it. -/
structure InjectionLaws (deployment : Manifest .deployment) (o₁ o₂ : SidecarInjectionOptions) :
    Prop where
  lastWins : LastWins deployment o₁ o₂
  /-- The same injection again changes nothing. -/
  again : ∃ once, injectSidecarProxyIntoDeployment deployment o₁ = .ok once ∧
    injectSidecarProxyIntoDeployment once o₁ = .ok once
  /-- There is one sidecar container, and the others are as they were. -/
  containers : ∃ once, injectSidecarProxyIntoDeployment deployment o₁ = .ok once ∧
    (sidecarContainers once.containers).length = 1 ∧
    otherContainers once.containers = otherContainers deployment.containers
  /-- A strip gives back the containers of a Deployment that had no sidecar. -/
  strip : sidecarContainers deployment.containers = [] → ∃ once stripped manifest,
    injectSidecarProxyIntoDeployment deployment o₁ = .ok once ∧
    KubeController.stripSidecarProxyFromYaml codec .deployment (codec.toString once) =
      .ok stripped ∧
    codec.fromStr .deployment stripped = .ok manifest ∧
    manifest.containers = deployment.containers

/-- Nothing in the sidecar is left over for a second injection. -/
structure NothingLeft (containers : List Container) (o₁ o₂ : SidecarInjectionOptions) : Prop where
  managed : ∀ container ∈ sidecarContainers containers, ManagedSidecar container
  routes : o₂.proxyRoutes = [] →
    o₁.proxyRoutes = [] ∧ ∀ container ∈ sidecarContainers containers, container.routeVars = []

/-- With one sidecar at most, nothing of the first injection is left exactly if the sidecar has nothing
of its own, and the second injection has routes where the first one or the sidecar had some. -/
theorem nothingLeft_iff {containers : List Container} {o₁ o₂ : SidecarInjectionOptions}
    (hone : (sidecarContainers containers).length ≤ 1) :
    NothingLeft containers o₁ o₂ ↔ ManagedSidecar (sidecarOf containers) ∧
      (o₂.proxyRoutes = [] → o₁.proxyRoutes = [] ∧ (sidecarOf containers).routeVars = []) := by
  have hone' : sidecarContainers containers = [] ∨ ∃ c, sidecarContainers containers = [c] := by
    cases hsidecars : sidecarContainers containers with
    | nil => exact .inl rfl
    | cons c rest =>
      rw [hsidecars] at hone
      exact .inr ⟨c, eq_singleton_of_mem hone List.mem_cons_self⟩
  rw [sidecarOf]
  rcases hone' with hnil | ⟨c, hsingle⟩
  · rw [hnil]
    constructor
    · exact fun ⟨_, hroutes⟩ => ⟨managedSidecar_new, fun h => ⟨(hroutes h).1, rfl⟩⟩
    · intro ⟨_, hroutes⟩
      refine ⟨fun c hc => ?_, fun h => ⟨(hroutes h).1, fun c hc => ?_⟩⟩ <;>
        · rw [hnil] at hc
          cases hc
  · have hforall : ∀ {P : Container → Prop},
        (∀ container ∈ sidecarContainers containers, P container) ↔ P c := by
      intro P
      rw [hsingle, List.forall_mem_singleton]
    rw [hsingle]
    constructor
    · exact fun ⟨hmanaged, hroutes⟩ =>
        ⟨hforall.1 hmanaged, fun h => ⟨(hroutes h).1, hforall.1 (hroutes h).2⟩⟩
    · exact fun ⟨hmanaged, hroutes⟩ =>
        ⟨hforall.2 hmanaged, fun h => ⟨(hroutes h).1, hforall.2 (hroutes h).2⟩⟩

/-- A second injection works on the containers of the first one. -/
theorem inject_withContainers {deployment : Manifest .deployment}
    (hspec : Object.HasPodSpec deployment) (o₁ o₂ : SidecarInjectionOptions) :
    injectSidecarProxyIntoDeployment
        (Object.withContainers deployment (injectContainers o₁ deployment.containers)) o₂ =
      .ok (Object.withContainers deployment
        (injectContainers o₂ (injectContainers o₁ deployment.containers))) := by
  rw [injectSidecarProxyIntoDeployment_eq (hasPodSpec_withContainers hspec _),
    containers_withContainers hspec, withContainers_withContainers]

/-- The last injection wins exactly if nothing is left over. -/
theorem lastWins_iff {deployment : Manifest .deployment} (o₁ o₂ : SidecarInjectionOptions)
    (hspec : Object.HasPodSpec deployment)
    (hone : (sidecarContainers deployment.containers).length ≤ 1) :
    LastWins deployment o₁ o₂ ↔ NothingLeft deployment.containers o₁ o₂ := by
  have hstripped := hasPodSpec_stripped hspec
  have honce := injectSidecarProxyIntoDeployment_eq hspec o₁
  have htwice := inject_withContainers hspec o₁ o₂
  have hfresh := injectSidecarProxyIntoDeployment_eq hstripped o₂
  have hnone : sidecarContainers (Object.stripped deployment).containers = [] := by
    rw [containers_stripped]
    exact List.filter_eq_nil_iff.2 fun c hc => by simpa using (List.mem_filter.1 hc).2
  have hupdated : sidecarContainers
      (injectContainers o₂ (injectContainers o₁ deployment.containers)) =
        [injectedSidecar o₂ (injectedSidecar o₁ (sidecarOf deployment.containers))] := by
    rw [sidecarContainers_inject, sidecarOf, sidecarContainers_inject, tail_eq_nil_iff.2 hone]
    rfl
  have hbuilt : sidecarContainers (injectContainers o₂ (Object.stripped deployment).containers) =
      [injectedSidecar o₂ newSidecarContainer] := by
    rw [sidecarContainers_inject, sidecarOf, hnone]
    rfl
  rw [nothingLeft_iff hone, ← sameSidecar_iff]
  constructor
  · intro ⟨once, twice, fresh, honce', htwice', hfresh', hsame⟩
    cases honce.symm.trans honce'
    cases htwice.symm.trans htwice'
    cases hfresh.symm.trans hfresh'
    rw [containers_withContainers hspec, containers_withContainers hstripped, hupdated,
      hbuilt] at hsame
    cases hsame with
    | cons hsame _ => exact hsame
  · intro hsame
    refine ⟨_, _, _, honce, htwice, hfresh, ?_⟩
    rw [containers_withContainers hspec, containers_withContainers hstripped, hupdated, hbuilt]
    exact .cons hsame .nil

/-- **The laws of sidecar injection** hold exactly if nothing is left over: the update of a sidecar
removes neither what it does not set, nor the routes of an earlier injection if it has none. -/
theorem injectionLaws_iff {deployment : Manifest .deployment} (o₁ o₂ : SidecarInjectionOptions)
    (hspec : Object.HasPodSpec deployment)
    (hone : (sidecarContainers deployment.containers).length ≤ 1) :
    InjectionLaws codec deployment o₁ o₂ ↔ NothingLeft deployment.containers o₁ o₂ := by
  have honce := injectSidecarProxyIntoDeployment_eq hspec o₁
  have hcontainers := containers_withContainers hspec
    (injectContainers o₁ deployment.containers)
  rw [← lastWins_iff o₁ o₂ hspec hone]
  refine ⟨InjectionLaws.lastWins, fun hlast => ⟨hlast, ⟨_, honce, ?_⟩, ⟨_, honce, ?_, ?_⟩, ?_⟩⟩
  · rw [inject_withContainers hspec, injectContainers_injectContainers]
  · rw [hcontainers, sidecarContainers_inject, tail_eq_nil_iff.2 hone]
    rfl
  · rw [hcontainers, otherContainers_injectContainers]
  · intro hnil
    refine ⟨_, _, _, honce, ?_, codec.fromStr_toString (Object.stripped
      (Object.withContainers deployment (injectContainers o₁ deployment.containers))), ?_⟩
    · rw [KubeController.stripSidecarProxyFromYaml, codec.fromStr_toString]
      rfl
    · rw [containers_stripped, hcontainers, otherContainers_injectContainers,
        otherContainers_of_nil hnil]

end

/-- A Deployment without a sidecar. -/
def webDeployment : Manifest .deployment where
  metadata := ⟨some "web", none, []⟩
  spec := some
    ⟨none, ⟨none, []⟩,
      ⟨none, some ⟨[⟨"web", some "web:1", none, none, none, none, []⟩], none, none, none, none,
        none, []⟩⟩, []⟩
  status := none

/-- Options with port routes. -/
def webOptions (proxyRoutes : List ProxyPortRoute) : SidecarInjectionOptions :=
  ⟨1, 2, "dev", "token", none, proxyRoutes⟩

/-- The laws hold of a deployment without a sidecar. -/
theorem injectionLaws_web :
    InjectionLaws Document.codec webDeployment (webOptions []) (webOptions [⟨26001, 80, 8080⟩]) := by
  have hnil : sidecarContainers webDeployment.containers = [] := by decide
  have hspec : Object.HasPodSpec webDeployment := rfl
  refine (injectionLaws_iff Document.codec _ _ hspec (hnil ▸ Nat.zero_le 1)).2
    ⟨fun c hc => ?_, fun h => by cases h⟩
  rw [hnil] at hc
  cases hc

/-- The routes of an earlier injection stay where the later one has none. -/
theorem not_injectionLaws_leftover :
    ¬ InjectionLaws Document.codec webDeployment (webOptions [⟨26001, 80, 8080⟩])
      (webOptions []) := by
  intro hlaws
  have hnil : sidecarContainers webDeployment.containers = [] := by decide
  have hspec : Object.HasPodSpec webDeployment := rfl
  have hnothing := (lastWins_iff _ _ hspec (hnil ▸ Nat.zero_le 1)).1 hlaws.lastWins
  cases (hnothing.routes rfl).1

end Lapdev
