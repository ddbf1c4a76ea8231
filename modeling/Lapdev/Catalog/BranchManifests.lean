import Lapdev.Api.AppCatalogs
import Lapdev.Catalog.SidecarInjection

/-!
# Manifests of branch workloads and services

How `kube_controller/environment.rs` and `kube_controller/workload.rs` derive the manifests of a
branch environment from those of its base: the sidecar goes, every label is replaced by the one the
branch services select, and the services get their own target ports back. `podLabels_rename` says
which labels the pods of a renamed workload have.
-/

namespace Lapdev

open RustStd

namespace KubeController

/-! ## Names -/

/-- `str::ends_with`. -/
def endsWith (s suffix : String) : Bool := suffix.toList.isSuffixOf s.toList

/-- Source: `environment.rs`. -/
def branchResourceName (name : String) (branchEnvironmentId : Uuid) : String :=
  if endsWith name branchEnvironmentId.hyphenated then name
  else name ++ "-" ++ branchEnvironmentId.hyphenated

/-- Source: `environment.rs`. -/
def stripBranchSuffix (name : String) (branchEnvironmentId : Uuid) : String :=
  let suffix := "-" ++ branchEnvironmentId.hyphenated
  if endsWith name suffix then
    String.ofList (name.toList.take (name.toList.length - suffix.toList.length))
  else name

/-- Source: `workload.rs`. -/
def buildBranchServiceSelector (workloadName : String) : BTreeMap String String :=
  HashTable.collect [("app", workloadName)]

/-! ## Workloads -/

/-- A change of the pod spec in the spec of a workload. -/
def mapPodSpec (f : PodSpec → PodSpec) : (kind : KubeWorkloadKind) → kind.Spec → kind.Spec
  | .deployment, spec =>
    { spec with template := { spec.template with spec := spec.template.spec.map f } }
  | .statefulSet, spec =>
    { spec with template := { spec.template with spec := spec.template.spec.map f } }
  | .daemonSet, spec =>
    { spec with template := { spec.template with spec := spec.template.spec.map f } }
  | .replicaSet, spec =>
    { spec with
      template := spec.template.map fun template => { template with spec := template.spec.map f } }
  | .pod, spec => f spec
  | .job, spec => { spec with template := { spec.template with spec := spec.template.spec.map f } }
  | .cronJob, spec =>
    { spec with
      jobTemplate :=
        { spec.jobTemplate with
          spec := spec.jobTemplate.spec.map fun jobSpec =>
            { jobSpec with
              template := { jobSpec.template with spec := jobSpec.template.spec.map f } } } }

/-- Source: `environment.rs`. -/
def stripSidecarProxyFromPodSpec (podSpec : PodSpec) : PodSpec :=
  { podSpec with
    containers := podSpec.containers.filter fun container => container.name ≠ sidecarContainerName
    initContainers := podSpec.initContainers.map fun containers =>
      containers.filter fun container => container.name ≠ sidecarContainerName }

/-- The word for a kind in the texts of errors. -/
def kindWord : KubeWorkloadKind → String
  | .deployment => "deployment"
  | .statefulSet => "statefulset"
  | .daemonSet => "daemonset"
  | .replicaSet => "replicaset"
  | .pod => "pod"
  | .job => "job"
  | .cronJob => "cronjob"

section
variable {Text : Type} (codec : ManifestCodec Text)

/-- Source: `environment.rs`; the kinds differ in the place of the pod spec. -/
def stripSidecarProxyFromYaml (kind : KubeWorkloadKind) (yaml : Text) : Except ApiError Text :=
  match codec.fromStr kind yaml with
  | .error err =>
    .error (.invalidRequest ("Failed to parse " ++ kindWord kind ++
      " YAML while stripping lapdev-sidecar-proxy: " ++ err))
  | .ok manifest =>
    .ok (codec.toString { manifest with
      spec := manifest.spec.map (mapPodSpec stripSidecarProxyFromPodSpec kind) })

/-- Source: `workload.rs`. -/
def updateObjectMeta (newName : String) (selectorLabels : BTreeMap String String)
    (metadata : ObjectMeta) : ObjectMeta :=
  { metadata with name := some newName, labels := some selectorLabels }

/-- Source: `workload.rs`. -/
def updateSelectorLabels (desired : BTreeMap String String) (selector : LabelSelector) :
    LabelSelector :=
  { selector with matchLabels := some desired }

/-- Source: `workload.rs`. -/
def updateOptionalSelectorLabels (desired : BTreeMap String String)
    (selector : Option LabelSelector) : Option LabelSelector :=
  some (updateSelectorLabels desired (selector.getD ⟨none, []⟩))

/-- The metadata of a template is updated where there is any. -/
def renameTemplate (newName : String) (selectorLabels : BTreeMap String String)
    (template : PodTemplateSpec) : PodTemplateSpec :=
  { template with metadata := template.metadata.map (updateObjectMeta newName selectorLabels) }

/-- What the `rename_*_yaml` functions do to the spec of each kind. -/
def renameSpec (newName : String) (selectorLabels : BTreeMap String String) :
    (kind : KubeWorkloadKind) → kind.Spec → kind.Spec
  | .deployment, spec =>
    { spec with
      selector := updateSelectorLabels selectorLabels spec.selector
      template := renameTemplate newName selectorLabels spec.template }
  | .statefulSet, spec =>
    { spec with
      selector := updateSelectorLabels selectorLabels spec.selector
      template := renameTemplate newName selectorLabels spec.template }
  | .daemonSet, spec =>
    { spec with
      selector := updateSelectorLabels selectorLabels spec.selector
      template := renameTemplate newName selectorLabels spec.template }
  | .replicaSet, spec =>
    { spec with
      selector := updateSelectorLabels selectorLabels spec.selector
      template := spec.template.map (renameTemplate newName selectorLabels) }
  | .pod, spec => spec
  | .job, spec =>
    { spec with
      selector := updateOptionalSelectorLabels selectorLabels spec.selector
      template := renameTemplate newName selectorLabels spec.template }
  | .cronJob, spec =>
    { spec with
      jobTemplate :=
        { spec.jobTemplate with
          spec := spec.jobTemplate.spec.map fun jobSpec =>
            { jobSpec with
              selector := updateOptionalSelectorLabels selectorLabels jobSpec.selector
              template := renameTemplate newName selectorLabels jobSpec.template } } }

/-- Source: `workload.rs`, `rename_workload_yaml` with the function of the kind. -/
def renameWorkloadYaml (kind : KubeWorkloadKind) (yaml : Text) (newName : String)
    (selectorLabels : BTreeMap String String) : Except ApiError Text :=
  match codec.fromStr kind yaml with
  | .error err =>
    .error (.invalidRequest ("Failed to parse " ++ kindWord kind ++ " YAML for rename: " ++ err))
  | .ok manifest =>
    .ok (codec.toString
      { manifest with
        metadata := updateObjectMeta newName selectorLabels manifest.metadata
        spec := manifest.spec.map (renameSpec newName selectorLabels kind) })

/-! ## Services -/

/-- Source: `workload.rs`. -/
def renameServiceYaml (yaml : Text) (newServiceName : String)
    (selectorLabels : BTreeMap String String) : Except ApiError Text :=
  match codec.serviceFromStr yaml with
  | .error err => .error (.invalidRequest ("Failed to parse service YAML for rename: " ++ err))
  | .ok service =>
    .ok (codec.serviceToString
      { service with
        metadata := updateObjectMeta newServiceName (HashTable.collect [("app", newServiceName)])
          service.metadata
        spec := service.spec.map fun spec => { spec with selector := some selectorLabels } })

/-- A port with its target from before the sidecar. -/
def restoreTargetPort (port : KubeServicePort) : KubeServicePort :=
  match port.originalTargetPort with
  | some originalTarget => { port with targetPort := some originalTarget }
  | none => port

/-- The targets from before the sidecar, by the name and the number of the port. -/
def targetMap (ports : List KubeServicePort) : HashTable (Option String × Int) Int :=
  HashTable.collect <| ports.filterMap fun port =>
    port.originalTargetPort.map fun originalTarget => ((port.name, port.port), originalTarget)

/-- A port of the manifest with its target from before the sidecar. -/
def restoreSpecPort (targets : HashTable (Option String × Int) Int) (specPort : ServicePort) :
    ServicePort :=
  match (targets.lookup (specPort.name, specPort.port)).or
      (targets.lookup (none, specPort.port)) with
  | some original => { specPort with targetPort := some (.int original) }
  | none => specPort

/-- Source: `environment.rs`; the ports are returned beside the YAML. -/
def restoreServiceTargetPorts (serviceYaml : Text) (ports : List KubeServicePort) :
    Except ApiError (Text × List KubeServicePort) :=
  match codec.serviceFromStr serviceYaml with
  | .error err =>
    .error (.invalidRequest
      ("Failed to parse service YAML while restoring lapdev-sidecar proxy targets: " ++ err))
  | .ok service =>
    .ok (codec.serviceToString
      { service with
        spec := service.spec.map fun spec =>
          { spec with
            ports := spec.ports.map fun specPorts =>
              specPorts.map (restoreSpecPort (targetMap ports)) } }, ports.map restoreTargetPort)

end

end KubeController

end Lapdev
