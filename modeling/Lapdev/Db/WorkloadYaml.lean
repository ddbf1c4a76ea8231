import Lapdev.Db.Entities
import Mathlib.Data.List.Sort

/-!
# What the database layer reads off a workload's YAML

`labels_from_workload_yaml` and `dependencies_from_workload_yaml` of `db/src/api.rs`, on the generic
`Value` that `serde_yaml` parses a text to. The parser is a parameter of the functions that use it.
-/

namespace Lapdev

open RustStd

/-- `serde_yaml::Value`; a number is kept as its text. -/
inductive Yaml.Value
  | null
  | bool (b : Bool)
  | number (text : String)
  | string (s : String)
  | sequence (items : List Yaml.Value)
  | mapping (entries : List (Yaml.Value × Yaml.Value))
  | tagged (tag : String) (value : Yaml.Value)

namespace Yaml.Value

/-- `Value::as_mapping`, which looks through tags. -/
def asMapping : Value → Option (List (Value × Value))
  | mapping entries => some entries
  | tagged _ value => value.asMapping
  | _ => none

/-- The string a value is, if it is one. -/
def string? : Value → Option String
  | string s => some s
  | _ => none

/-- `Mapping::get` of a string key. -/
def get (entries : List (Value × Value)) (key : String) : Option Value :=
  (entries.find? fun e => e.1.string? = some key).map Prod.snd

/-- `Value::get` of a string key. -/
def field (value : Value) (key : String) : Option Value :=
  value.asMapping.bind fun entries => get entries key

/-- `Value::as_sequence`, which looks through tags. -/
def asSequence : Value → Option (List Value)
  | sequence items => some items
  | tagged _ value => value.asSequence
  | _ => none

/-- `Value::as_str`, which looks through tags. -/
def asStr : Value → Option String
  | string s => some s
  | tagged _ value => value.asStr
  | _ => none

/-- The items of the sequence under a key, if there is one. -/
def items (value : Value) (key : String) : List Value :=
  ((value.field key).bind asSequence).getD []

/-- The string under a path of two keys. -/
def reference (value : Value) (key name : String) : Option String :=
  (value.field key).bind fun v => (v.field name).bind asStr

end Yaml.Value

/-- Source: `db/src/api.rs`. -/
def traverseYaml (value : Yaml.Value) : List String → Option Yaml.Value
  | [] => some value
  | key :: path =>
    match value.asMapping with
    | none => none
    | some entries =>
      match Yaml.Value.get entries key with
      | none => none
      | some next => traverseYaml next path

/-- Source: `db/src/api.rs`: the entries whose key and value are strings. -/
def mappingToLabels (node : Yaml.Value) : BTreeMap String String :=
  match node.asMapping with
  | none => ∅
  | some entries =>
    HashTable.collect <| entries.filterMap fun e =>
      match e.1.string?, e.2.string? with
      | some k, some v => some (k, v)
      | _, _ => none

/-- Where the pod labels stand in a workload of a kind. -/
def KubeWorkloadKind.labelsPath : KubeWorkloadKind → List String
  | deployment | statefulSet | daemonSet | replicaSet | job =>
    ["spec", "template", "metadata", "labels"]
  | pod => ["metadata", "labels"]
  | cronJob => ["spec", "jobTemplate", "spec", "template", "metadata", "labels"]

/-- Source: `db/src/api.rs`; `fromStr` is `serde_yaml::from_str`. -/
def labelsFromWorkloadYaml {Text : Type} (fromStr : Text → Option Yaml.Value)
    (kind : KubeWorkloadKind) (yaml : Text) : BTreeMap String String :=
  match fromStr yaml with
  | none => ∅
  | some value => ((traverseYaml value kind.labelsPath).map mappingToLabels).getD ∅

/-- `BTreeSet<T>`, as the list of its elements in the order of a walk. -/
abbrev BTreeSet (α : Type) := List α

/-- Where the pod spec stands in a workload of a kind. -/
def KubeWorkloadKind.podSpecPath : KubeWorkloadKind → List String
  | deployment | statefulSet | daemonSet | replicaSet | job => ["spec", "template", "spec"]
  | pod => ["spec"]
  | cronJob => ["spec", "jobTemplate", "spec", "template", "spec"]

/-- The keys under which a pod spec refers to the resources of one type. -/
structure DependencyKeys where
  envRef : String
  envFromRef : String
  volume : String
  volumeName : String

/-- References to config maps. -/
def DependencyKeys.configMap : DependencyKeys where
  envRef := "configMapKeyRef"
  envFromRef := "configMapRef"
  volume := "configMap"
  volumeName := "name"

/-- References to secrets. -/
def DependencyKeys.secret : DependencyKeys where
  envRef := "secretKeyRef"
  envFromRef := "secretRef"
  volume := "secret"
  volumeName := "secretName"

/-- Source: `db/src/api.rs`, for the resources of one type. -/
def collectDependenciesFromSpec (keys : DependencyKeys) (spec : Yaml.Value) : BTreeSet String :=
  let containers :=
    spec.items "containers" ++ spec.items "initContainers" ++ spec.items "ephemeralContainers"
  let ofContainers := containers.flatMap fun container =>
    ((container.items "env").filterMap fun env =>
      (env.field "valueFrom").bind fun valueFrom => valueFrom.reference keys.envRef "name") ++
    (container.items "envFrom").filterMap fun source => source.reference keys.envFromRef "name"
  let ofVolumes := (spec.items "volumes").flatMap fun volume =>
    (volume.reference keys.volume keys.volumeName).toList ++
    (((volume.field "projected").map fun projected => projected.items "sources").getD []).filterMap
      fun source => source.reference keys.volume "name"
  (ofContainers ++ ofVolumes).dedup.insertionSort (· ≤ ·)

/-- Source: `db/src/api.rs`: the config maps and the secrets. -/
def dependenciesFromWorkloadYaml {Text : Type} (fromStr : Text → Option Yaml.Value)
    (kind : KubeWorkloadKind) (yaml : Text) : BTreeSet String × BTreeSet String :=
  match (fromStr yaml).bind fun value => traverseYaml value kind.podSpecPath with
  | none => ([], [])
  | some spec => (collectDependenciesFromSpec .configMap spec, collectDependenciesFromSpec .secret spec)

end Lapdev
