import Lapdev.Db.WorkloadYaml

/-!
# Workload and service manifests

The Kubernetes objects that `kube_controller/resources.rs` rebuilds, with the fields its functions
read or write one by one; the other fields of an object, which are only copied or dropped together,
are kept as `Fields`. `cleanWorkload` is the rebuild of a manifest without a sidecar: server-managed
metadata goes, and the containers follow the catalog's configuration.
-/

namespace Lapdev

open RustStd

/-- The fields of an object that are not modelled one by one. -/
abbrev Fields := List (String × Yaml.Value)

/-- `ObjectMeta`. -/
structure ObjectMeta where
  name : Option String
  labels : Option (BTreeMap String String)
  others : Fields

/-- `EnvVarSource`. -/
structure EnvVarSource where
  fieldPath : Option String
  others : Fields

/-- `EnvVar`. -/
structure EnvVar where
  name : String
  value : Option String
  valueFrom : Option EnvVarSource

/-- `ContainerPort`. -/
structure ContainerPort where
  name : Option String
  containerPort : Int
  protocol : Option String
  others : Fields

/-- `ResourceRequirements`; a `Quantity` is its text. -/
structure ResourceRequirements where
  requests : Option (BTreeMap String String)
  limits : Option (BTreeMap String String)
  others : Fields

/-- `Container`. -/
structure Container where
  name : String
  image : Option String
  imagePullPolicy : Option String
  env : Option (List EnvVar)
  ports : Option (List ContainerPort)
  resources : Option ResourceRequirements
  others : Fields

/-- `PodSpec`. -/
structure PodSpec where
  containers : List Container
  initContainers : Option (List Container)
  nodeSelector : Option (BTreeMap String String)
  serviceAccountName : Option String
  serviceAccount : Option String
  automountServiceAccountToken : Option Bool
  others : Fields

/-- `PodTemplateSpec`. -/
structure PodTemplateSpec where
  metadata : Option ObjectMeta
  spec : Option PodSpec

/-- `LabelSelector`. -/
structure LabelSelector where
  matchLabels : Option (BTreeMap String String)
  others : Fields

/-- `DeploymentSpec`. -/
structure DeploymentSpec where
  replicas : Option Int
  selector : LabelSelector
  template : PodTemplateSpec
  others : Fields

/-- `StatefulSetSpec`. -/
structure StatefulSetSpec where
  replicas : Option Int
  selector : LabelSelector
  template : PodTemplateSpec
  others : Fields

/-- `DaemonSetSpec`. -/
structure DaemonSetSpec where
  selector : LabelSelector
  template : PodTemplateSpec
  others : Fields

/-- `ReplicaSetSpec`. -/
structure ReplicaSetSpec where
  replicas : Option Int
  selector : LabelSelector
  template : Option PodTemplateSpec
  others : Fields

/-- `JobSpec`. -/
structure JobSpec where
  selector : Option LabelSelector
  template : PodTemplateSpec
  others : Fields

/-- `JobTemplateSpec`. -/
structure JobTemplateSpec where
  metadata : Option ObjectMeta
  spec : Option JobSpec

/-- `CronJobSpec`. -/
structure CronJobSpec where
  suspend : Option Bool
  jobTemplate : JobTemplateSpec
  others : Fields

/-- `ServicePort`. -/
structure ServicePort where
  name : Option String
  port : Int
  targetPort : Option IntOrString
  nodePort : Option Int
  protocol : Option String
  appProtocol : Option String

/-- `ServiceSpec`. -/
structure ServiceSpec where
  ports : Option (List ServicePort)
  selector : Option (BTreeMap String String)
  clusterIp : Option String
  clusterIps : Option (List String)
  healthCheckNodePort : Option Int
  others : Fields

/-- An object of the cluster with a spec. -/
structure Object (Spec : Type) where
  metadata : ObjectMeta
  spec : Option Spec
  status : Option Yaml.Value

abbrev Service := Object ServiceSpec

/-- The spec of the workloads of a kind. -/
abbrev KubeWorkloadKind.Spec : KubeWorkloadKind → Type
  | deployment => DeploymentSpec
  | statefulSet => StatefulSetSpec
  | daemonSet => DaemonSetSpec
  | replicaSet => ReplicaSetSpec
  | pod => PodSpec
  | job => JobSpec
  | cronJob => CronJobSpec

/-- The manifest of a workload of a kind. -/
abbrev Manifest (kind : KubeWorkloadKind) := Object kind.Spec

/-- The pod spec in the spec of a workload. -/
def KubeWorkloadKind.podSpec : (kind : KubeWorkloadKind) → kind.Spec → Option PodSpec
  | deployment, spec => spec.template.spec
  | statefulSet, spec => spec.template.spec
  | daemonSet, spec => spec.template.spec
  | replicaSet, spec => spec.template.bind (·.spec)
  | pod, spec => some spec
  | job, spec => spec.template.spec
  | cronJob, spec => spec.jobTemplate.spec.bind (·.template.spec)

/-- The containers of a manifest. -/
def Object.containers {kind : KubeWorkloadKind} (manifest : Manifest kind) : List Container :=
  ((manifest.spec.bind kind.podSpec).map (·.containers)).getD []

/-- `serde_yaml` on manifests: what is written is read back. `isBlank` is `trim().is_empty()`. -/
structure ManifestCodec (Text : Type) where
  isBlank : Text → Bool
  fromStr : (kind : KubeWorkloadKind) → Text → Except String (Manifest kind)
  toString : {kind : KubeWorkloadKind} → Manifest kind → Text
  serviceFromStr : Text → Except String Service
  serviceToString : Service → Text
  fromStr_toString : ∀ {kind} (manifest : Manifest kind),
    fromStr kind (toString manifest) = .ok manifest
  serviceFromStr_toString : ∀ service, serviceFromStr (serviceToString service) = .ok service

/-- The texts of manifests, up to their layout. -/
inductive Document
  | workload (kind : KubeWorkloadKind) (manifest : Manifest kind)
  | service (object : Service)
  | blank

/-- The codec of texts up to their layout. A manifest of another kind is an error. -/
def Document.codec : ManifestCodec Document where
  isBlank
    | .blank => true
    | _ => false
  fromStr kind
    | .workload kind' manifest =>
      if h : kind' = kind then .ok (h ▸ manifest) else .error "kind: invalid value"
    | _ => .error "missing field kind"
  toString manifest := .workload _ manifest
  serviceFromStr
    | .service object => .ok object
    | _ => .error "kind: invalid value"
  serviceToString object := .service object
  fromStr_toString _ := dif_pos rfl
  serviceFromStr_toString _ := rfl

/-! ## Containers -/

/-- A quantity that is set and not empty replaces the one under its key. -/
def insertQuantity (key : String) (quantity : Option String) (quantities : BTreeMap String String) :
    BTreeMap String String :=
  match quantity with
  | some q => if q.isEmpty then quantities else quantities.insert key q
  | none => quantities

/-- The quantities of a resource, `None` where there are none. -/
def nonEmptyQuantities (quantities : BTreeMap String String) : Option (BTreeMap String String) :=
  if quantities.entries.isEmpty then none else some quantities

/-- The variables of a container's configuration: its own ones replace the original ones. -/
def envTable (workloadContainer : KubeContainerInfo) : HashTable String String :=
  HashTable.collect ((workloadContainer.originalEnvVars ++ workloadContainer.envVars).map fun var =>
    (var.name, var.value))

/-- Source: `resources.rs`; `rs` is the seed of the map of variables. -/
def mergeSingleContainer (rs : RandomState ((_ : String) × String)) (container : Container)
    (workloadContainer : KubeContainerInfo) : Container :=
  let resources := container.resources.getD ⟨none, none, []⟩
  let requests := insertQuantity "memory" workloadContainer.memoryRequest
    (insertQuantity "cpu" workloadContainer.cpuRequest (resources.requests.getD ∅))
  let limits := insertQuantity "memory" workloadContainer.memoryLimit
    (insertQuantity "cpu" workloadContainer.cpuLimit (resources.limits.getD ∅))
  { container with
    image :=
      match workloadContainer.image with
      | .followOriginal =>
        if workloadContainer.originalImage.isEmpty then container.image
        else some workloadContainer.originalImage
      | .custom customImage => if customImage.isEmpty then container.image else some customImage
    resources := some
      { resources with
        requests := nonEmptyQuantities requests
        limits := nonEmptyQuantities limits }
    env := some <| ((envTable workloadContainer).reseed rs).entries.map fun e =>
      { name := e.1, value := some e.2, valueFrom := none }
    ports :=
      if workloadContainer.ports.isEmpty then container.ports
      else some <| workloadContainer.ports.map fun port =>
        { name := port.name
          containerPort := port.containerPort
          protocol := port.protocol
          others := [] } }

section
variable (seeds : String → RandomState ((_ : String) × String))
  (workloadContainers : List KubeContainerInfo)

/-- The loop body of `merge_containers`; `seeds` gives the seed for a container's name. -/
def mergeContainer (container : Container) : Container :=
  match workloadContainers.find? fun info => info.name = container.name with
  | some workloadContainer => mergeSingleContainer (seeds container.name) container workloadContainer
  | none => container

/-- Source: `resources.rs`, `merge_containers`. -/
def mergePodContainers (containers : List Container) : List Container :=
  containers.map (mergeContainer seeds workloadContainers)

/-- Source: `resources.rs`. -/
def mergeTemplateContainers (template : PodTemplateSpec) : PodTemplateSpec :=
  { template with
    spec := template.spec.map fun podSpec =>
      { podSpec with
        containers := mergePodContainers seeds workloadContainers podSpec.containers
        serviceAccountName := none
        serviceAccount := none
        automountServiceAccountToken := none } }

/-! ## Cleaning -/

/-- Source: `resources.rs`. -/
def cleanMetadata (metadata : ObjectMeta) : ObjectMeta where
  name := metadata.name
  labels := metadata.labels
  others := []

/-- What the `clean_*` functions have in common. -/
def cleanObject {Spec : Type} (cleanSpec : Spec → Spec) (object : Object Spec) : Object Spec where
  metadata := cleanMetadata object.metadata
  spec := object.spec.map cleanSpec
  status := none

/-- Source: `resources.rs`. -/
def cleanDeployment : Manifest .deployment → Manifest .deployment :=
  cleanObject fun spec =>
    { spec with
      replicas := some 1
      template := mergeTemplateContainers seeds workloadContainers spec.template }

/-- Source: `resources.rs`. -/
def cleanStatefulSet : Manifest .statefulSet → Manifest .statefulSet :=
  cleanObject fun spec =>
    { spec with
      replicas := some 1
      template := mergeTemplateContainers seeds workloadContainers spec.template }

/-- Source: `resources.rs`. -/
def cleanDaemonSet : Manifest .daemonSet → Manifest .daemonSet :=
  cleanObject fun spec =>
    { spec with template := mergeTemplateContainers seeds workloadContainers spec.template }

/-- Source: `resources.rs`. -/
def cleanReplicaSet : Manifest .replicaSet → Manifest .replicaSet :=
  cleanObject fun spec =>
    { spec with
      replicas := some 1
      template := spec.template.map (mergeTemplateContainers seeds workloadContainers) }

/-- The other fields of a pod spec that `clean_pod` copies. -/
def keptPodFields : List String :=
  ["activeDeadlineSeconds", "ephemeralContainers", "volumes", "restartPolicy",
    "terminationGracePeriodSeconds", "dnsPolicy", "dnsConfig", "securityContext",
    "imagePullSecrets", "affinity", "tolerations", "topologySpreadConstraints",
    "priorityClassName", "priority", "preemptionPolicy", "overhead", "enableServiceLinks", "os",
    "hostUsers", "schedulingGates", "resourceClaims"]

/-- Source: `resources.rs`. -/
def cleanPod : Manifest .pod → Manifest .pod :=
  cleanObject fun spec =>
    { spec with
      containers := mergePodContainers seeds workloadContainers spec.containers
      serviceAccountName := none
      serviceAccount := none
      automountServiceAccountToken := none
      others := spec.others.filter fun field => field.1 ∈ keptPodFields }

/-- Source: `resources.rs`. -/
def cleanJob : Manifest .job → Manifest .job :=
  cleanObject fun spec =>
    { spec with template := mergeTemplateContainers seeds workloadContainers spec.template }

/-- Source: `resources.rs`. -/
def cleanCronJob : Manifest .cronJob → Manifest .cronJob :=
  cleanObject fun spec =>
    { spec with
      jobTemplate :=
        { spec.jobTemplate with
          spec := spec.jobTemplate.spec.map fun jobSpec =>
            { jobSpec with
              template := mergeTemplateContainers seeds workloadContainers jobSpec.template } } }

/-- The cleaning of a manifest of any kind. -/
def cleanWorkload : (kind : KubeWorkloadKind) → Manifest kind → Manifest kind
  | .deployment => cleanDeployment seeds workloadContainers
  | .statefulSet => cleanStatefulSet seeds workloadContainers
  | .daemonSet => cleanDaemonSet seeds workloadContainers
  | .replicaSet => cleanReplicaSet seeds workloadContainers
  | .pod => cleanPod seeds workloadContainers
  | .job => cleanJob seeds workloadContainers
  | .cronJob => cleanCronJob seeds workloadContainers

/-- Cleaning merges the containers of a manifest, whatever its kind. -/
theorem containers_cleanWorkload (kind : KubeWorkloadKind) (manifest : Manifest kind) :
    (cleanWorkload seeds workloadContainers kind manifest).containers =
      mergePodContainers seeds workloadContainers manifest.containers := by
  obtain ⟨metadata, spec, status⟩ := manifest
  cases kind with
  | deployment | statefulSet => rcases spec with _ | ⟨_, _, ⟨_, _ | _⟩, _⟩ <;> rfl
  | daemonSet | job => rcases spec with _ | ⟨_, ⟨_, _ | _⟩, _⟩ <;> rfl
  | replicaSet => rcases spec with _ | ⟨_, _, _ | ⟨_, _ | _⟩, _⟩ <;> rfl
  | pod => rcases spec with _ | _ <;> rfl
  | cronJob => rcases spec with _ | ⟨_, ⟨_, _ | ⟨_, ⟨_, _ | _⟩, _⟩⟩, _⟩ <;> rfl

/-- Merging keeps the name of a container. -/
@[simp] theorem name_mergeContainer (container : Container) :
    (mergeContainer seeds workloadContainers container).name = container.name := by
  unfold mergeContainer
  split <;> rfl

end

/-- Source: `resources.rs`. -/
def cleanService : Service → Service :=
  cleanObject fun spec =>
    { spec with
      clusterIp := none
      clusterIps := none
      healthCheckNodePort := none
      ports := spec.ports.map fun ports => ports.map fun port => { port with nodePort := none } }

end Lapdev
