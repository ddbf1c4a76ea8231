import Lapdev.Kube.ResourceEvents
import Lapdev.RustStd.Result
import Lapdev.RustStd.Str
import Lapdev.Watch.Events

/-!
# Workloads read from event YAML

`extract_workload_from_yaml` of `kube/src/server.rs`, on the typed Kubernetes objects that
`serde_yaml` parses a text to. Of an object only what the function reads is a field; a spec also
carries the JSON value it is serialised to.
-/

namespace Lapdev

open RustStd WatchManager

namespace Typed

/-- `ConfigMapKeySelector`, `SecretKeySelector` and the other references that have a name. -/
structure Reference where
  name : String

/-- `EnvVarSource`. -/
structure EnvVarSource where
  configMapKeyRef : Option Reference
  secretKeyRef : Option Reference

/-- `EnvVar`. -/
structure EnvVar where
  valueFrom : Option EnvVarSource

/-- `EnvFromSource`. -/
structure EnvFromSource where
  configMapRef : Option Reference
  secretRef : Option Reference

/-- `ContainerPort`. -/
structure ContainerPort where
  name : Option String
  containerPort : Int
  protocol : Option String

/-- `ResourceRequirements`; a `Quantity` is its text. -/
structure ResourceRequirements where
  requests : Option (BTreeMap String String)
  limits : Option (BTreeMap String String)

/-- The environment of a `Container` or an `EphemeralContainer`. -/
structure ContainerEnv where
  env : Option (List EnvVar)
  envFrom : Option (List EnvFromSource)

/-- `EphemeralContainer`. -/
structure EphemeralContainer extends ContainerEnv

/-- `Container`. -/
structure Container extends ContainerEnv where
  name : String
  image : Option String
  ports : Option (List ContainerPort)
  resources : Option ResourceRequirements

/-- `SecretVolumeSource`. -/
structure SecretVolumeSource where
  secretName : Option String

/-- `VolumeProjection`. -/
structure VolumeProjection where
  configMap : Option Reference
  secret : Option Reference

/-- `ProjectedVolumeSource`. -/
structure ProjectedVolumeSource where
  sources : Option (List VolumeProjection)

/-- `Volume`. -/
structure Volume where
  configMap : Option Reference
  secret : Option SecretVolumeSource
  projected : Option ProjectedVolumeSource

/-- `PodSpec`. -/
structure PodSpec where
  containers : List Container
  initContainers : Option (List Container)
  ephemeralContainers : Option (List EphemeralContainer)
  volumes : Option (List Volume)

/-- `ObjectMeta`. -/
structure ObjectMeta where
  labels : Option (BTreeMap String String)

/-- `PodTemplateSpec`. -/
structure PodTemplateSpec where
  metadata : Option ObjectMeta
  spec : Option PodSpec

/-- `DeploymentSpec`, `StatefulSetSpec`, `DaemonSetSpec` and `JobSpec`. -/
structure TemplateSpec (Json : Type) where
  template : PodTemplateSpec
  value : Option Json

/-- `ReplicaSetSpec`. -/
structure ReplicaSetSpec (Json : Type) where
  template : Option PodTemplateSpec
  value : Option Json

/-- `JobTemplateSpec`. -/
structure JobTemplateSpec (Json : Type) where
  metadata : Option ObjectMeta
  spec : Option (TemplateSpec Json)

/-- `CronJobSpec`. -/
structure CronJobSpec (Json : Type) where
  jobTemplate : JobTemplateSpec Json
  value : Option Json

/-- `DeploymentStatus`, `StatefulSetStatus` and `ReplicaSetStatus`. -/
structure ReplicaStatus where
  readyReplicas : Option Int

/-- `DaemonSetStatus`. -/
structure DaemonSetStatus where
  numberReady : Int

/-- `JobStatus`. -/
structure JobStatus where
  succeeded : Option Int

/-- An object of the cluster. -/
structure Object (Spec Status : Type) where
  metadata : ObjectMeta
  spec : Option Spec
  status : Option Status

/-- The labels of a template. -/
def PodTemplateSpec.labels (template : PodTemplateSpec) : BTreeMap String String :=
  (template.metadata.bind (·.labels)).getD ∅

end Typed

/-- `serde_yaml::from_str` at the types of the workloads. -/
structure WorkloadSerde (Text Json : Type) extends SerdeParsers Text Json where
  deployment : Text → Except String (Typed.Object (Typed.TemplateSpec Json) Typed.ReplicaStatus)
  statefulSet : Text → Except String (Typed.Object (Typed.TemplateSpec Json) Typed.ReplicaStatus)
  daemonSet : Text → Except String (Typed.Object (Typed.TemplateSpec Json) Typed.DaemonSetStatus)
  replicaSet : Text → Except String (Typed.Object (Typed.ReplicaSetSpec Json) Typed.ReplicaStatus)
  job : Text → Except String (Typed.Object (Typed.TemplateSpec Json) Typed.JobStatus)
  cronJob : Text → Except String (Typed.Object (Typed.CronJobSpec Json) Unit)

/-- Source: `server.rs`. -/
def workloadKindFor : ResourceType → Option KubeWorkloadKind
  | .deployment => some .deployment
  | .statefulSet => some .statefulSet
  | .daemonSet => some .daemonSet
  | .replicaSet => some .replicaSet
  | .job => some .job
  | .cronJob => some .cronJob
  | .configMap | .secret | .service => none

/-- Source: `server.rs`, `ExtractedWorkload`. -/
structure ExtractedWorkload (Json : Type) where
  containers : List KubeContainerInfo
  podLabels : BTreeMap String String
  metadataLabels : BTreeMap String String
  configmapRefs : BTreeSet String
  secretRefs : BTreeSet String
  readyReplicas : Option Int
  specSnapshot : Option Json

/-- What the extraction carries into the catalog, with the text it is from. -/
def ExtractedWorkload.snapshot {Text Json : Type} (e : ExtractedWorkload Json) (yaml : Text) :
    WorkloadSnapshot Text Json where
  yaml := yaml
  specSnapshot := e.specSnapshot
  labels := e.podLabels
  containers := e.containers
  configmapRefs := e.configmapRefs
  secretRefs := e.secretRefs

namespace Typed

/-- A quantity of the requests or limits. -/
def quantity (quantities : Option (BTreeMap String String)) (key : String) : Option String :=
  quantities.bind fun quantities => quantities.lookup key

/-- The loop body of `extract_pod_spec_containers`. -/
def Container.extract (container : Container) : Except String KubeContainerInfo :=
  match container.image with
  | none => .error ("container '" ++ container.name ++ "' missing image")
  | some image => .ok
    { name := container.name
      originalImage := image
      image := .followOriginal
      cpuRequest := quantity (container.resources.bind (·.requests)) "cpu"
      cpuLimit := quantity (container.resources.bind (·.limits)) "cpu"
      memoryRequest := quantity (container.resources.bind (·.requests)) "memory"
      memoryLimit := quantity (container.resources.bind (·.limits)) "memory"
      envVars := []
      originalEnvVars := []
      ports := (container.ports.getD []).map fun port =>
        { name := port.name, containerPort := port.containerPort, protocol := port.protocol } }

/-- Source: `server.rs`. -/
def extractPodSpecContainers (podSpec : PodSpec) : Except String (List KubeContainerInfo) :=
  Result.collect (podSpec.containers.map Container.extract)

/-- How the references to the resources of one type are reached. -/
structure References where
  envRef : EnvVarSource → Option Reference
  envFromRef : EnvFromSource → Option Reference
  volume : Volume → Option String
  projection : VolumeProjection → Option Reference

/-- References to config maps. -/
def References.configMap : References where
  envRef := (·.configMapKeyRef)
  envFromRef := (·.configMapRef)
  volume volume := volume.configMap.map (·.name)
  projection := (·.configMap)

/-- References to secrets. -/
def References.secret : References where
  envRef := (·.secretKeyRef)
  envFromRef := (·.secretRef)
  volume volume := volume.secret.bind (·.secretName)
  projection := (·.secret)

/-- The closure `process_env_sources`, for the resources of one type. -/
def ContainerEnv.names (refs : References) (container : ContainerEnv) : List String :=
  ((container.env.getD []).filterMap fun item =>
    (item.valueFrom.bind refs.envRef).map (·.name)) ++
  (container.envFrom.getD []).filterMap fun source => (refs.envFromRef source).map (·.name)

/-- The loop body over the volumes, for the resources of one type. -/
def Volume.names (refs : References) (volume : Volume) : List String :=
  (refs.volume volume).toList ++
  ((volume.projected.bind (·.sources)).getD []).filterMap fun source =>
    (refs.projection source).map (·.name)

/-- The names of resources of one type, in the order of the loops. -/
def PodSpec.names (refs : References) (podSpec : PodSpec) : List String :=
  podSpec.containers.flatMap (·.toContainerEnv.names refs) ++
  (podSpec.initContainers.getD []).flatMap (·.toContainerEnv.names refs) ++
  (podSpec.ephemeralContainers.getD []).flatMap (·.toContainerEnv.names refs) ++
  (podSpec.volumes.getD []).flatMap (·.names refs)

end Typed

/-- `str::trim`. -/
def trimmed (raw : String) : String := String.ofList (Str.trim raw.toList)

/-- The names that the closure `insert_trimmed` inserts. -/
def insertTrimmed (names : List String) : BTreeSet String :=
  ((names.map trimmed).filter (· ≠ "")).dedup.insertionSort (· ≤ ·)

/-- Source: `server.rs`: the config maps and the secrets. -/
def extractPodSpecDependencies (podSpec : Typed.PodSpec) : BTreeSet String × BTreeSet String :=
  (insertTrimmed (podSpec.names .configMap), insertTrimmed (podSpec.names .secret))

section
variable {Text Json : Type} (serde : WorkloadSerde Text Json)

/-- `serialize_spec_for_catalog` of a spec, if there is one. -/
def serializeSpec (failed : String) : Option (Option Json) → Except String (Option Json)
  | none => .ok none
  | some none => .error failed
  | some (some value) => .ok (some (serde.removeKey "replicas" value))

/-- The extraction from a workload of the kind `kind`, as the error texts call it. -/
def extractWorkload (kind : String) (podSpec : Option Typed.PodSpec)
    (podLabels metadataLabels : Option (BTreeMap String String)) (readyReplicas : Option Int)
    (spec : Option (Option Json)) : Except String (ExtractedWorkload Json) :=
  match podSpec with
  | none => .error (kind ++ " missing pod spec")
  | some podSpec => do
    let specSnapshot ← serializeSpec serde ("failed to serialize " ++ kind ++ " spec") spec
    let containers ← Typed.extractPodSpecContainers podSpec
    let (configmapRefs, secretRefs) := extractPodSpecDependencies podSpec
    .ok
      { containers
        podLabels := podLabels.getD ∅
        metadataLabels := metadataLabels.getD ∅
        configmapRefs
        secretRefs
        readyReplicas
        specSnapshot }

/-- Source: `server.rs`. For a `CronJob` the spec is serialised after the containers are read, so
the other error comes first. -/
def extractWorkloadFromYaml (resourceType : ResourceType) (yaml : Text) :
    Except String (ExtractedWorkload Json) :=
  match resourceType with
  | .deployment => do
    let deployment ← serde.deployment yaml
    extractWorkload serde "deployment" (deployment.spec.bind (·.template.spec))
      ((deployment.spec.bind (·.template.metadata)).bind (·.labels)) deployment.metadata.labels
      (deployment.status.bind (·.readyReplicas)) (deployment.spec.map (·.value))
  | .statefulSet => do
    let statefulset ← serde.statefulSet yaml
    extractWorkload serde "statefulset" (statefulset.spec.bind (·.template.spec))
      ((statefulset.spec.bind (·.template.metadata)).bind (·.labels)) statefulset.metadata.labels
      (statefulset.status.bind (·.readyReplicas)) (statefulset.spec.map (·.value))
  | .daemonSet => do
    let daemonset ← serde.daemonSet yaml
    extractWorkload serde "daemonset" (daemonset.spec.bind (·.template.spec))
      ((daemonset.spec.bind (·.template.metadata)).bind (·.labels)) daemonset.metadata.labels
      (daemonset.status.map (·.numberReady)) (daemonset.spec.map (·.value))
  | .replicaSet => do
    let replicaset ← serde.replicaSet yaml
    extractWorkload serde "replicaset"
      ((replicaset.spec.bind (·.template)).bind (·.spec))
      (((replicaset.spec.bind (·.template)).bind (·.metadata)).bind (·.labels))
      replicaset.metadata.labels (replicaset.status.bind (·.readyReplicas))
      (replicaset.spec.map (·.value))
  | .job => do
    let job ← serde.job yaml
    extractWorkload serde "job" (job.spec.bind (·.template.spec))
      ((job.spec.bind (·.template.metadata)).bind (·.labels)) job.metadata.labels
      (job.status.bind (·.succeeded)) (job.spec.map (·.value))
  | .cronJob => do
    let cronJob ← serde.cronJob yaml
    match (cronJob.spec.bind (·.jobTemplate.spec)).bind (·.template.spec) with
    | none => .error "cronjob missing pod spec"
    | some podSpec => do
      let containers ← Typed.extractPodSpecContainers podSpec
      let (configmapRefs, secretRefs) := extractPodSpecDependencies podSpec
      let specSnapshot ← serializeSpec serde "failed to serialize cronjob spec"
        (cronJob.spec.map (·.value))
      .ok
        { containers
          podLabels := ((cronJob.spec.bind (·.jobTemplate.metadata)).bind (·.labels)).getD ∅
          metadataLabels := cronJob.metadata.labels.getD ∅
          configmapRefs
          secretRefs
          readyReplicas := some 1
          specSnapshot }
  | .configMap | .secret | .service => .ok
    { containers := []
      podLabels := ∅
      metadataLabels := ∅
      configmapRefs := []
      secretRefs := []
      readyReplicas := none
      specSnapshot := none }

end

/-! ## What is extracted -/

namespace WorkloadSerde

variable {Text Json : Type} (serde : WorkloadSerde Text Json)

/-- The pod template of the workload that the text is parsed to. -/
def podTemplate : ResourceType → Text → Option Typed.PodTemplateSpec
  | .deployment, yaml => ((serde.deployment yaml).toOption.bind (·.spec)).map (·.template)
  | .statefulSet, yaml => ((serde.statefulSet yaml).toOption.bind (·.spec)).map (·.template)
  | .daemonSet, yaml => ((serde.daemonSet yaml).toOption.bind (·.spec)).map (·.template)
  | .replicaSet, yaml => ((serde.replicaSet yaml).toOption.bind (·.spec)).bind (·.template)
  | .job, yaml => ((serde.job yaml).toOption.bind (·.spec)).map (·.template)
  | .cronJob, yaml =>
    (((serde.cronJob yaml).toOption.bind (·.spec)).bind (·.jobTemplate.spec)).map (·.template)
  | .configMap, _ | .secret, _ | .service, _ => none

/-- The labels of the job template of the `CronJob` that the text is parsed to. -/
def jobTemplateLabels (yaml : Text) : BTreeMap String String :=
  ((((serde.cronJob yaml).toOption.bind (·.spec)).bind (·.jobTemplate.metadata)).bind
    (·.labels)).getD ∅

/-- The JSON value of the spec of the workload that the text is parsed to. -/
def specValue : ResourceType → Text → Option (Option Json)
  | .deployment, yaml => ((serde.deployment yaml).toOption.bind (·.spec)).map (·.value)
  | .statefulSet, yaml => ((serde.statefulSet yaml).toOption.bind (·.spec)).map (·.value)
  | .daemonSet, yaml => ((serde.daemonSet yaml).toOption.bind (·.spec)).map (·.value)
  | .replicaSet, yaml => ((serde.replicaSet yaml).toOption.bind (·.spec)).map (·.value)
  | .job, yaml => ((serde.job yaml).toOption.bind (·.spec)).map (·.value)
  | .cronJob, yaml => ((serde.cronJob yaml).toOption.bind (·.spec)).map (·.value)
  | .configMap, _ | .secret, _ | .service, _ => none

/-- What an extraction that succeeds has read: the references of the pod template, the labels of the
pod template or, for a `CronJob`, of the job template, and the spec. -/
structure Extracts (resourceType : ResourceType) (yaml : Text) (e : ExtractedWorkload Json)
    (template : Typed.PodTemplateSpec) (podSpec : Typed.PodSpec) : Prop where
  parsed : serde.podTemplate resourceType yaml = some template
  spec : template.spec = some podSpec
  refs : (e.configmapRefs, e.secretRefs) = extractPodSpecDependencies podSpec
  labels : e.podLabels =
    if resourceType = .cronJob then serde.jobTemplateLabels yaml else template.labels
  snapshot : ∃ failed, serializeSpec serde failed (serde.specValue resourceType yaml) =
    .ok e.specSnapshot

end WorkloadSerde

section
variable {Text Json : Type} {serde : WorkloadSerde Text Json} {yaml : Text}
  {e : ExtractedWorkload Json}

theorem toOption_eq_some {α : Type} {r : Except String α} {a : α} :
    r.toOption = some a ↔ r = .ok a := by
  cases r <;> simp [Except.toOption]

theorem extractWorkload_eq_ok {kind : String} {podSpec : Option Typed.PodSpec}
    {podLabels metadataLabels : Option (BTreeMap String String)} {readyReplicas : Option Int}
    {spec : Option (Option Json)}
    (h : extractWorkload serde kind podSpec podLabels metadataLabels readyReplicas spec = .ok e) :
    ∃ p, podSpec = some p ∧ (e.configmapRefs, e.secretRefs) = extractPodSpecDependencies p ∧
      e.podLabels = podLabels.getD ∅ ∧
      ∃ failed, serializeSpec serde failed spec = .ok e.specSnapshot := by
  cases podSpec with
  | none => cases h
  | some p =>
    obtain ⟨specSnapshot, hspec, h⟩ := Result.bind_eq_ok.1 h
    obtain ⟨containers, -, h⟩ := Result.bind_eq_ok.1 h
    cases h
    exact ⟨p, rfl, rfl, rfl, _, hspec⟩

/-- A workload from which something is extracted has a pod template with a pod spec. -/
theorem extractWorkloadFromYaml_eq_ok {resourceType : ResourceType} {kind : KubeWorkloadKind}
    (hkind : workloadKindFor resourceType = some kind)
    (h : extractWorkloadFromYaml serde resourceType yaml = .ok e) :
    ∃ template podSpec, serde.Extracts resourceType yaml e template podSpec := by
  cases resourceType with
  | deployment | statefulSet | daemonSet | job =>
    obtain ⟨object, hobject, h⟩ := Result.bind_eq_ok.1 h
    obtain ⟨podSpec, hpodSpec, hrefs, hlabels, hsnapshot⟩ := extractWorkload_eq_ok h
    obtain ⟨spec, hspec, hpodSpec⟩ := Option.bind_eq_some_iff.1 hpodSpec
    refine ⟨spec.template, podSpec, ?_, hpodSpec, hrefs, ?_, ?_⟩
    · rw [WorkloadSerde.podTemplate, hobject, Except.toOption, Option.bind_some, hspec]
      rfl
    · rw [hlabels, hspec, if_neg (nomatch ·)]
      rfl
    · rwa [WorkloadSerde.specValue, hobject]
  | replicaSet =>
    obtain ⟨object, hobject, h⟩ := Result.bind_eq_ok.1 h
    obtain ⟨podSpec, hpodSpec, hrefs, hlabels, hsnapshot⟩ := extractWorkload_eq_ok h
    obtain ⟨template, htemplate, hpodSpec⟩ := Option.bind_eq_some_iff.1 hpodSpec
    refine ⟨template, podSpec, ?_, hpodSpec, hrefs, ?_, ?_⟩
    · rw [WorkloadSerde.podTemplate, hobject, Except.toOption, Option.bind_some, htemplate]
    · rw [hlabels, htemplate, if_neg (nomatch ·)]
      rfl
    · rwa [WorkloadSerde.specValue, hobject]
  | cronJob =>
    obtain ⟨object, hobject, h⟩ := Result.bind_eq_ok.1 h
    cases hpodSpec : (object.spec.bind (·.jobTemplate.spec)).bind (·.template.spec) with
    | none =>
      rw [hpodSpec] at h
      cases h
    | some podSpec =>
      rw [hpodSpec] at h
      obtain ⟨containers, -, h⟩ := Result.bind_eq_ok.1 h
      obtain ⟨specSnapshot, hsnapshot, h⟩ := Result.bind_eq_ok.1 h
      cases h
      obtain ⟨jobSpec, hjobSpec, hpodSpec⟩ := Option.bind_eq_some_iff.1 hpodSpec
      refine ⟨jobSpec.template, podSpec, ?_, hpodSpec, rfl, ?_, "failed to serialize cronjob spec",
        ?_⟩
      · rw [WorkloadSerde.podTemplate, hobject, Except.toOption, Option.bind_some, hjobSpec]
        rfl
      · rw [if_pos rfl, WorkloadSerde.jobTemplateLabels, hobject]
        rfl
      · rw [WorkloadSerde.specValue, hobject]
        exact hsnapshot
  | configMap | secret | service => cases hkind

end

end Lapdev
