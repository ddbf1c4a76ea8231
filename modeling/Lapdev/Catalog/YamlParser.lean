import Lapdev.Catalog.SidecarInjection

/-!
# Workload details from YAML

`extract_containers_and_labels` of `kube_controller/yaml_parser.rs` reads the containers of a
workload into `KubeContainerInfo`s, and `rebuild_workload_yaml` writes them back into the workload.
The two together lose what a `KubeContainerInfo` has no field for, and what the extraction leaves
empty: `rebuildPreserves_iff` says which containers survive.
-/

namespace Lapdev

open RustStd

/-! ## Extraction -/

/-- The labels of a pod. -/
def podLabels (metadata : Option ObjectMeta) : BTreeMap String String :=
  (metadata.bind (·.labels)).getD ∅

/-- The pod labels of a workload of a kind. -/
def Object.podLabels : {kind : KubeWorkloadKind} → Manifest kind → BTreeMap String String
  | .deployment, manifest => Lapdev.podLabels (manifest.spec.bind (·.template.metadata))
  | .statefulSet, manifest => Lapdev.podLabels (manifest.spec.bind (·.template.metadata))
  | .daemonSet, manifest => Lapdev.podLabels (manifest.spec.bind (·.template.metadata))
  | .replicaSet, manifest =>
    Lapdev.podLabels ((manifest.spec.bind (·.template)).bind (·.metadata))
  | .pod, manifest => manifest.metadata.labels.getD ∅
  | .job, manifest => Lapdev.podLabels (manifest.spec.bind (·.template.metadata))
  | .cronJob, manifest =>
    Lapdev.podLabels ((manifest.spec.bind (·.jobTemplate.spec)).bind (·.template.metadata))

/-- The error of a workload without a pod spec. -/
def KubeWorkloadKind.missingPodSpec : KubeWorkloadKind → String
  | deployment => "Deployment missing pod spec"
  | statefulSet => "StatefulSet missing pod spec"
  | daemonSet => "DaemonSet missing pod spec"
  | replicaSet => "ReplicaSet missing pod spec"
  | pod => "Pod missing spec"
  | job => "Job missing pod spec"
  | cronJob => "CronJob missing pod spec"

/-- The resource requests of a container. -/
def Container.requests (container : Container) : BTreeMap String String :=
  (container.resources.bind (·.requests)).getD ∅

/-- The resource limits of a container. -/
def Container.limits (container : Container) : BTreeMap String String :=
  (container.resources.bind (·.limits)).getD ∅

/-- What the catalog keeps of a port. -/
def ContainerPort.toKube (port : ContainerPort) : KubeContainerPort where
  name := port.name
  containerPort := port.containerPort
  protocol := port.protocol

/-- What the catalog keeps of a container with an image. -/
def Container.info (container : Container) (image : String) : KubeContainerInfo where
  name := container.name
  originalImage := image
  image := .followOriginal
  cpuRequest := container.requests.lookup "cpu"
  cpuLimit := container.limits.lookup "cpu"
  memoryRequest := container.requests.lookup "memory"
  memoryLimit := container.limits.lookup "memory"
  envVars := []
  originalEnvVars := []
  ports := (container.ports.map fun ports => ports.map ContainerPort.toKube).getD []

/-- The loop body of `extract_pod_spec_containers`. -/
def extractContainer (container : Container) : Except String KubeContainerInfo :=
  match container.image with
  | none => .error ("Container '" ++ container.name ++ "' has no image specified")
  | some image => .ok (container.info image)

/-- Source: `yaml_parser.rs`. -/
def extractPodSpecContainers (podSpec : PodSpec) : Except String (List KubeContainerInfo) :=
  Result.collect (podSpec.containers.map extractContainer)

/-- Source: `yaml_parser.rs`. -/
def extractContainersAndLabels {Text : Type} (codec : ManifestCodec Text) (kind : KubeWorkloadKind)
    (workloadYaml : Text) :
    Except String (List KubeContainerInfo × BTreeMap String String) :=
  (codec.fromStr kind workloadYaml).bind fun manifest =>
    match manifest.spec.bind kind.podSpec with
    | none => .error kind.missingPodSpec
    | some podSpec =>
      (extractPodSpecContainers podSpec).map fun containers => (containers, manifest.podLabels)

/-- What is extracted: one info for each container, in order, and each container has an image. -/
theorem extractContainersAndLabels_eq_ok {Text : Type} {codec : ManifestCodec Text}
    {kind : KubeWorkloadKind} {yaml : Text} {infos : List KubeContainerInfo}
    {labels : BTreeMap String String}
    (h : extractContainersAndLabels codec kind yaml = .ok (infos, labels)) :
    ∃ manifest, codec.fromStr kind yaml = .ok manifest ∧
      List.Forall₂ (fun container info => ∃ image, container.image = some image ∧
        info = container.info image) manifest.containers infos := by
  obtain ⟨manifest, hparse, hspec⟩ := Result.bind_eq_ok.1 h
  refine ⟨manifest, hparse, ?_⟩
  split at hspec
  · cases hspec
  · next podSpec hpod =>
    obtain ⟨infos', hinfos, heq⟩ := Result.map_eq_ok.1 hspec
    cases heq
    rw [Object.containers, hpod]
    refine (Result.collect_map_eq_ok.1 hinfos).imp fun container info hinfo => ?_
    unfold extractContainer at hinfo
    split at hinfo
    · cases hinfo
    · next image himage => exact ⟨image, himage, (Except.ok.inj hinfo).symm⟩

/-! ## What a rebuild keeps -/

/-- The variable's value refers to another variable, by `$(name)`. -/
def EnvVar.RefersTo (var : EnvVar) (name : String) : Prop :=
  ∃ before after, var.value = some (before ++ "$(" ++ name ++ ")" ++ after)

/-- The same variables, and one that another refers to still stands before it. -/
def SameEnv (rebuilt original : List EnvVar) : Prop :=
  rebuilt.Perm original ∧
    ∀ var var', [var, var'].Sublist original → var'.RefersTo var.name →
      [var, var'].Sublist rebuilt

/-- A rebuilt container has the image, the variables, the ports and the resources of the original
one. -/
structure SameContainer (rebuilt original : Container) : Prop where
  image : rebuilt.image = original.image
  env : SameEnv (rebuilt.env.getD []) (original.env.getD [])
  ports : rebuilt.ports.getD [] = original.ports.getD []
  requests : ∀ name, rebuilt.requests.lookup name = original.requests.lookup name
  limits : ∀ name, rebuilt.limits.lookup name = original.limits.lookup name

/-- No variables are the same as the original ones where there were none. -/
theorem sameEnv_nil_iff {original : List EnvVar} : SameEnv [] original ↔ original = [] := by
  constructor
  · exact fun h => List.nil_perm.1 h.1
  · rintro rfl
    exact ⟨.refl _, fun _ _ h => absurd h (by simp)⟩

/-- A quantity that was read off one container stands in another one's. -/
def QuantityCarried (quantity own : Option String) : Prop :=
  ∀ q, quantity = some q → q ≠ "" → own = some q

/-- The info extracted from `first` carries a container: what it sets is what the container has, and
the container has no variables, which no info carries. -/
structure Carried (first container : Container) : Prop where
  image : first.image ≠ some "" → container.image = first.image
  env : container.env.getD [] = []
  ports : first.ports.getD [] ≠ [] →
    container.ports.getD [] = (first.ports.getD []).map fun port => { port with others := [] }
  cpuRequest : QuantityCarried (first.requests.lookup "cpu") (container.requests.lookup "cpu")
  memoryRequest :
    QuantityCarried (first.requests.lookup "memory") (container.requests.lookup "memory")
  cpuLimit : QuantityCarried (first.limits.lookup "cpu") (container.limits.lookup "cpu")
  memoryLimit : QuantityCarried (first.limits.lookup "memory") (container.limits.lookup "memory")

/-- A quantity is inserted under its key. -/
theorem lookup_insertQuantity_of_ne {key name : String} (hne : name ≠ key)
    (quantity : Option String) (quantities : BTreeMap String String) :
    (insertQuantity key quantity quantities).lookup name = quantities.lookup name := by
  unfold insertQuantity
  split
  · split
    · rfl
    · exact AList.lookup_insert_ne hne
  · rfl

/-- Inserting a quantity keeps the one that is there exactly if it is that one. -/
theorem lookup_insertQuantity_iff {key : String} {quantity : Option String}
    {quantities : BTreeMap String String} :
    (insertQuantity key quantity quantities).lookup key = quantities.lookup key ↔
      QuantityCarried quantity (quantities.lookup key) := by
  cases quantity with
  | none => exact iff_of_true rfl fun _ h => nomatch h
  | some q =>
    by_cases hq : q = ""
    · subst hq
      exact iff_of_true rfl fun q h hne => absurd (Option.some.inj h).symm hne
    · have hne : q.isEmpty = false := by simpa using hq
      rw [insertQuantity, hne, if_neg Bool.false_ne_true, AList.lookup_insert]
      constructor
      · rintro h q' ⟨⟩ -
        exact h.symm
      · exact fun h => (h q rfl hq).symm

/-- Inserting two quantities keeps a table exactly if they are the ones it has. -/
theorem lookup_insertQuantities_iff {cpu memory : Option String}
    {quantities : BTreeMap String String} :
    (∀ name, (insertQuantity "memory" memory (insertQuantity "cpu" cpu quantities)).lookup name =
        quantities.lookup name) ↔
      QuantityCarried cpu (quantities.lookup "cpu") ∧
        QuantityCarried memory (quantities.lookup "memory") := by
  have hmemory : (insertQuantity "cpu" cpu quantities).lookup "memory" =
      quantities.lookup "memory" := lookup_insertQuantity_of_ne (by decide) cpu quantities
  constructor
  · intro h
    have hcpu := (lookup_insertQuantity_of_ne (by decide) memory _).symm.trans (h "cpu")
    have hmem := (h "memory").trans hmemory.symm
    rw [lookup_insertQuantity_iff, hmemory] at hmem
    exact ⟨lookup_insertQuantity_iff.1 hcpu, hmem⟩
  · rintro ⟨hcpu, hmem⟩ name
    by_cases hname : name = "memory"
    · subst hname
      rw [← hmemory] at hmem
      exact (lookup_insertQuantity_iff.2 hmem).trans hmemory
    · rw [lookup_insertQuantity_of_ne hname]
      by_cases hname' : name = "cpu"
      · subst hname'
        exact lookup_insertQuantity_iff.2 hcpu
      · exact lookup_insertQuantity_of_ne hname' cpu quantities

/-- An empty table and no table look the same. -/
theorem lookup_nonEmptyQuantities (quantities : BTreeMap String String) (name : String) :
    ((nonEmptyQuantities quantities).getD ∅).lookup name = quantities.lookup name := by
  unfold nonEmptyQuantities
  split
  · next h => exact (HashTable.lookup_of_entries_eq_nil (List.isEmpty_iff.1 h) name).symm
  · rfl

/-- The image that a rebuild sets. -/
theorem image_eq_iff {original : String} {own : Option String} :
    (if original.isEmpty then own else some original) = own ↔
      (some original ≠ some "" → own = some original) := by
  by_cases h : original = ""
  · simp [h]
  · have hne : original.isEmpty = false := by simpa using h
    rw [hne, if_neg Bool.false_ne_true]
    exact ⟨fun heq _ => heq.symm, fun heq => (heq (by simpa using h)).symm⟩

/-- A container merged with the info extracted from `first` is the same exactly if it is carried. -/
theorem sameContainer_merge_iff {rs : RandomState ((_ : String) × String)}
    {first container : Container} {image : String} (himage : first.image = some image) :
    SameContainer (mergeSingleContainer rs container (first.info image)) container ↔
      Carried first container := by
  have henv : (mergeSingleContainer rs container (first.info image)).env = some [] := by
    have : (HashTable.reseed rs (∅ : HashTable String String)).entries = [] :=
      List.perm_nil.1 (rs.arrange_perm [])
    show some (((HashTable.reseed rs (∅ : HashTable String String)).entries).map _) = some []
    rw [this, List.map_nil]
  have hports : (mergeSingleContainer rs container (first.info image)).ports =
      if (first.ports.getD []).isEmpty then container.ports
      else some ((first.ports.getD []).map fun port => { port with others := [] }) := by
    show (if (first.info image).ports.isEmpty then _ else _) = _
    have : (first.info image).ports = (first.ports.getD []).map ContainerPort.toKube := by
      cases hp : first.ports <;> simp [Container.info, hp]
    rw [this, List.isEmpty_map, List.map_map]
    rfl
  have hrequests : ∀ name,
      (mergeSingleContainer rs container (first.info image)).requests.lookup name =
        (insertQuantity "memory" (first.requests.lookup "memory")
          (insertQuantity "cpu" (first.requests.lookup "cpu") container.requests)).lookup name := by
    intro name
    rw [Container.requests, mergeSingleContainer, Option.bind_some, lookup_nonEmptyQuantities]
    cases hr : container.resources <;> simp [Container.info, Container.requests, hr]
  have hlimits : ∀ name,
      (mergeSingleContainer rs container (first.info image)).limits.lookup name =
        (insertQuantity "memory" (first.limits.lookup "memory")
          (insertQuantity "cpu" (first.limits.lookup "cpu") container.limits)).lookup name := by
    intro name
    rw [Container.limits, mergeSingleContainer, Option.bind_some, lookup_nonEmptyQuantities]
    cases hr : container.resources <;> simp [Container.info, Container.limits, hr]
  constructor
  · intro h
    have hreq := lookup_insertQuantities_iff.1 fun name =>
      (hrequests name).symm.trans (h.requests name)
    have hlim := lookup_insertQuantities_iff.1 fun name =>
      (hlimits name).symm.trans (h.limits name)
    refine ⟨?_, ?_, ?_, hreq.1, hreq.2, hlim.1, hlim.2⟩
    · rw [himage]
      exact image_eq_iff.1 h.image
    · have hsame := h.env
      rw [henv] at hsame
      exact sameEnv_nil_iff.1 hsame
    · intro hne
      have hsame := h.ports
      rw [hports, if_neg (by simpa using hne)] at hsame
      exact hsame.symm
  · intro h
    refine ⟨?_, ?_, ?_, fun name => ?_, fun name => ?_⟩
    · exact image_eq_iff.2 (himage ▸ h.image)
    · rw [henv]
      exact sameEnv_nil_iff.2 h.env
    · rw [hports]
      split
      · rfl
      · next hne => exact (h.ports (by simpa using hne)).symm
    · exact (hrequests name).trans
        (lookup_insertQuantities_iff.2 ⟨h.cpuRequest, h.memoryRequest⟩ name)
    · exact (hlimits name).trans
        (lookup_insertQuantities_iff.2 ⟨h.cpuLimit, h.memoryLimit⟩ name)

/-! ## The composition -/

section
variable {Text : Type} (codec : ManifestCodec Text)
  (seeds : String → RandomState ((_ : String) × String)) {kind : KubeWorkloadKind}
  {yaml : Text} {infos : List KubeContainerInfo} {labels : BTreeMap String String}

/-- A rebuild without a sidecar succeeds on a manifest, and merges its containers. -/
theorem exists_rebuildWorkloadYaml (infos : List KubeContainerInfo) {manifest : Manifest kind}
    (h : codec.fromStr kind yaml = .ok manifest) :
    ∃ rebuilt rebuiltManifest,
      rebuildWorkloadYaml codec seeds kind yaml infos none = .ok rebuilt ∧
      codec.fromStr kind rebuilt = .ok rebuiltManifest ∧
      rebuiltManifest.containers = mergePodContainers seeds infos manifest.containers := by
  refine ⟨codec.toString (cleanWorkload seeds infos kind manifest), _, ?_,
    codec.fromStr_toString _, containers_cleanWorkload seeds infos kind manifest⟩
  unfold rebuildWorkloadYaml
  cases kind with
  | deployment =>
    dsimp only
    rw [h]
    rfl
  | _ =>
    dsimp only
    rw [h]
    rfl

/-- Every container of the workload is the same after a rebuild with the extracted infos. -/
def RebuildPreserves (kind : KubeWorkloadKind) (yaml : Text) (infos : List KubeContainerInfo) :
    Prop :=
  ∃ rebuilt original rebuiltManifest,
    rebuildWorkloadYaml codec seeds kind yaml infos none = .ok rebuilt ∧
    codec.fromStr kind yaml = .ok original ∧ codec.fromStr kind rebuilt = .ok rebuiltManifest ∧
    List.Forall₂ SameContainer rebuiltManifest.containers original.containers

/-- The container is carried by the info of the first container of its name. -/
def CarriedBy (containers : List Container) (container : Container) : Prop :=
  ∃ first, containers.find? (fun c => c.name = container.name) = some first ∧
    Carried first container

/-- The infos of containers, in their order. -/
abbrev InfosOf (containers : List Container) (infos : List KubeContainerInfo) : Prop :=
  List.Forall₂ (fun (container : Container) info => ∃ image, container.image = some image ∧
    info = container.info image) containers infos

/-- The info of a name is that of the first container of the name. -/
theorem find?_info {containers : List Container} {infos : List KubeContainerInfo}
    (h : InfosOf containers infos) {name : String} {first : Container}
    (hfind : containers.find? (fun c => c.name = name) = some first) :
    ∃ image, first.image = some image ∧
      infos.find? (fun info => info.name = name) = some (first.info image) := by
  induction h with
  | nil => cases hfind
  | @cons container info _ _ hinfo _ ih =>
    obtain ⟨image, himage, rfl⟩ := hinfo
    have hname : (container.info image).name = container.name := rfl
    rw [List.find?_cons] at hfind ⊢
    rw [hname]
    split at hfind
    · cases hfind
      exact ⟨image, himage, rfl⟩
    · exact ih hfind

/-- A container is the same after a merge exactly if it is carried. -/
theorem sameContainer_mergeContainer_iff {containers : List Container}
    (h : InfosOf containers infos) {container : Container} (hmem : container ∈ containers) :
    SameContainer (mergeContainer seeds infos container) container ↔
      CarriedBy containers container := by
  obtain ⟨first, hfirst⟩ : ∃ first,
      containers.find? (fun c => c.name = container.name) = some first :=
    Option.isSome_iff_exists.1 (List.find?_isSome.2 ⟨container, hmem, by simp⟩)
  obtain ⟨image, himage, hinfo⟩ := find?_info h hfirst
  rw [mergeContainer, hinfo]
  dsimp only
  rw [sameContainer_merge_iff himage, CarriedBy, hfirst]
  simp

/-- Containers compared one by one with what a function makes of them. -/
theorem forall₂_map_iff {α : Type*} {R : α → α → Prop} {f : α → α} {l : List α} :
    List.Forall₂ R (l.map f) l ↔ ∀ a ∈ l, R (f a) a := by
  rw [List.forall₂_map_left_iff, List.forall₂_same]

/-- **An extraction and a rebuild keep a workload** exactly if every container is carried: it has no
environment variables, nothing in its ports but name, number and protocol, and agrees with the first
container of its name. -/
theorem rebuildPreserves_iff
    (h : extractContainersAndLabels codec kind yaml = .ok (infos, labels)) :
    RebuildPreserves codec seeds kind yaml infos ↔
      ∃ original, codec.fromStr kind yaml = .ok original ∧
        ∀ container ∈ original.containers, CarriedBy original.containers container := by
  obtain ⟨manifest, hparse, hinfos⟩ := extractContainersAndLabels_eq_ok h
  obtain ⟨rebuilt, rebuiltManifest, hrebuild, hrebuilt, hcontainers⟩ :=
    exists_rebuildWorkloadYaml codec seeds infos hparse
  have key : List.Forall₂ SameContainer rebuiltManifest.containers manifest.containers ↔
      ∀ container ∈ manifest.containers, CarriedBy manifest.containers container := by
    rw [hcontainers, mergePodContainers, forall₂_map_iff]
    exact forall₂_congr fun container hmem => sameContainer_mergeContainer_iff seeds hinfos hmem
  constructor
  · rintro ⟨rebuilt', original, rebuiltManifest', hrebuild', hparse', hrebuilt', hsame⟩
    cases hrebuild.symm.trans hrebuild'
    cases hparse.symm.trans hparse'
    cases hrebuilt.symm.trans hrebuilt'
    exact ⟨manifest, hparse, key.1 hsame⟩
  · rintro ⟨original, hparse', hcarried⟩
    cases hparse.symm.trans hparse'
    exact ⟨rebuilt, manifest, rebuiltManifest, hrebuild, hparse, hrebuilt, key.2 hcarried⟩

/-- Where the names of the containers are distinct, a container is carried exactly if it has no
variables, and ports with nothing but name, number and protocol. -/
theorem carriedBy_iff_of_nodup {containers : List Container}
    (hnodup : (containers.map (·.name)).Nodup) {container : Container}
    (hmem : container ∈ containers) :
    CarriedBy containers container ↔
      container.env.getD [] = [] ∧ ∀ port ∈ container.ports.getD [], port.others = [] := by
  have hfind : containers.find? (fun c => c.name = container.name) = some container := by
    obtain ⟨first, hfirst⟩ : ∃ first,
        containers.find? (fun c => c.name = container.name) = some first :=
      Option.isSome_iff_exists.1 (List.find?_isSome.2 ⟨container, hmem, by simp⟩)
    have hname : first.name = container.name := by simpa using List.find?_some hfirst
    rw [hfirst, List.inj_on_of_nodup_map hnodup (List.mem_of_find?_eq_some hfirst) hmem hname]
  have hports : container.ports.getD [] =
        ((container.ports.getD []).map fun port => { port with others := [] }) ↔
      ∀ port ∈ container.ports.getD [], port.others = [] := by
    generalize container.ports.getD [] = ports
    induction ports with
    | nil => simp
    | cons port ports ih =>
      rw [List.map_cons, List.cons.injEq, ih, List.forall_mem_cons]
      refine and_congr_left fun _ => ?_
      cases port
      simp
  constructor
  · rintro ⟨first, hfirst, hcarried⟩
    cases hfind.symm.trans hfirst
    refine ⟨hcarried.env, ?_⟩
    rcases hempty : container.ports.getD [] with _ | ⟨port, ports⟩
    · intro port hport
      cases hport
    · rw [← hempty]
      exact hports.1 (hcarried.ports (by simp [hempty]))
  · rintro ⟨henv, hplain⟩
    exact ⟨container, hfind, fun _ => rfl, henv, fun _ => hports.2 hplain,
      fun _ h _ => h, fun _ h _ => h, fun _ h _ => h, fun _ h _ => h⟩

end

/-! ## A workload with a variable -/

/-- A Deployment with one container, `app`, with a port, resources and the variables. -/
def deploymentWithEnv (env : Option (List EnvVar)) : Manifest .deployment where
  metadata := ⟨some "api", none, []⟩
  spec := some
    { replicas := none
      selector := ⟨none, []⟩
      template :=
        { metadata := none
          spec := some
            { containers :=
                [{ name := "app", image := some "api:1", imagePullPolicy := none, env,
                   ports := some [⟨some "http", 8080, some "TCP", []⟩]
                   resources := some
                     { requests := some (AList.singleton "cpu" "100m")
                       limits := some (AList.singleton "memory" "64Mi"), others := [] }
                   others := [] }]
              initContainers := none, nodeSelector := none, serviceAccountName := none,
              serviceAccount := none, automountServiceAccountToken := none, others := [] } }
      others := [] }
  status := none

/-- The info extracted from the container. -/
def appInfo : KubeContainerInfo :=
  ⟨"app", "api:1", .followOriginal, some "100m", none, none, some "64Mi", [], [],
    [⟨some "http", 8080, some "TCP"⟩]⟩

/-- A Deployment without variables is kept. -/
theorem rebuildPreserves_deployment :
    RebuildPreserves Document.codec (fun _ => .identity _) .deployment
      (.workload _ (deploymentWithEnv none)) [appInfo] := by
  have hextract : extractContainersAndLabels Document.codec .deployment
      (.workload _ (deploymentWithEnv none)) = .ok ([appInfo], ∅) := rfl
  refine (rebuildPreserves_iff Document.codec (fun _ => .identity _) hextract).2
    ⟨deploymentWithEnv none, rfl, ?_⟩
  intro container hmem
  refine (carriedBy_iff_of_nodup (by decide) hmem).2 ?_
  rw [List.mem_singleton.1 hmem]
  refine ⟨rfl, fun port hport => ?_⟩
  rw [List.mem_singleton.1 hport]

/-- The variable of a container is gone after an extraction and a rebuild. -/
theorem rebuild_drops_env :
    extractContainersAndLabels Document.codec .deployment
        (.workload _ (deploymentWithEnv (some [⟨"MODE", some "prod", none⟩]))) =
      .ok ([appInfo], ∅) ∧
    ¬ RebuildPreserves Document.codec (fun _ => .identity _) .deployment
        (.workload _ (deploymentWithEnv (some [⟨"MODE", some "prod", none⟩]))) [appInfo] := by
  refine ⟨rfl, ?_⟩
  rintro ⟨rebuilt, original, rebuiltManifest, hrebuild, hparse, hrebuilt, hsame⟩
  cases hrebuild
  cases hparse
  cases hrebuilt
  obtain _ | ⟨hcontainer, _⟩ := hsame
  have henv := hcontainer.env.1.length_eq
  exact absurd henv (by decide)

end Lapdev
