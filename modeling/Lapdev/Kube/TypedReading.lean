import Lapdev.Kube.ExtractWorkload

/-!
# Typed objects and generic values

`serde_yaml` parses one text to a typed object and to a generic `Value`. `WorkloadSerde.Documented`
says what is known of the two: a field of the object is what stands under its key, a string is the
text of its scalar, whatever the scalar resolves to, and absent names are empty. The text of a scalar
that is not a string is not kept in a generic value, and the parser of generic values refuses
documents that the typed ones accept, such as one with a repeated key.
-/

namespace Lapdev

open RustStd WatchManager

namespace Yaml.Value

/-- `null`, with or without a tag. -/
def IsNull : Value → Prop
  | null => True
  | tagged _ value => value.IsNull
  | _ => False

/-- A string may be read off the value. -/
def ReadsString : Value → String → Prop
  | string s, text => text = s
  | tagged _ value, text => value.ReadsString text
  | null, _ | bool _, _ | number _, _ => True
  | sequence _, _ | mapping _, _ => False

/-- Each mapping in the value satisfies `P`, also those in keys. -/
inductive EachMapping (P : List (Value × Value) → Prop) : Value → Prop
  | null : EachMapping P null
  | bool (b : Bool) : EachMapping P (bool b)
  | number (text : String) : EachMapping P (number text)
  | string (s : String) : EachMapping P (string s)
  | sequence {items : List Value} (h : ∀ item ∈ items, EachMapping P item) :
    EachMapping P (sequence items)
  | mapping {entries : List (Value × Value)} (h : P entries)
      (hkeys : ∀ e ∈ entries, EachMapping P e.1) (hvalues : ∀ e ∈ entries, EachMapping P e.2) :
    EachMapping P (mapping entries)
  | tagged {tag : String} {value : Value} (h : EachMapping P value) :
    EachMapping P (tagged tag value)

/-- The keys of a mapping have no tags. -/
def PlainKeys (entries : List (Value × Value)) : Prop :=
  ∀ e ∈ entries, ∀ tag value, e.1 ≠ tagged tag value

/-- A mapping has each key once. -/
def DistinctKeys (entries : List (Value × Value)) : Prop := (entries.map Prod.fst).Nodup

section
variable {T : Type}

/-- An optional field is read off the value under its key. -/
def ReadsOption (value : Value) (key : String) (R : Value → T → Prop) (t : Option T) : Prop :=
  match value.field key, t with
  | none, t => t = none
  | some v, none => v.IsNull
  | some v, some x => R v x

/-- A field that may be left out is read off the value under its key. -/
def ReadsDefault (value : Value) (key : String) (R : Value → T → Prop) (default x : T) : Prop :=
  ∃ t, value.ReadsOption key R t ∧ x = t.getD default

/-- The elements of a list are read off those of a sequence. -/
def ReadsList (R : Value → T → Prop) (value : Value) (xs : List T) : Prop :=
  ∃ items, value.asSequence = some items ∧ List.Forall₂ R items xs

end

/-- A map of strings is read off a mapping; of entries with one key the last one counts. -/
def ReadsStrings (value : Value) (m : BTreeMap String String) : Prop :=
  ∃ entries texts, value.asMapping = some entries ∧
    List.Forall₂ (fun e text => e.1.ReadsString text.1 ∧ e.2.ReadsString text.2) entries texts ∧
    m = HashTable.collect texts

/-! ## Kubernetes objects -/

/-- A reference by name. -/
def ReadsReference (value : Value) (ref : Typed.Reference) : Prop :=
  value.ReadsDefault "name" ReadsString "" ref.name

/-- The source of a variable. -/
structure ReadsEnvVarSource (value : Value) (source : Typed.EnvVarSource) : Prop where
  configMapKeyRef : value.ReadsOption "configMapKeyRef" ReadsReference source.configMapKeyRef
  secretKeyRef : value.ReadsOption "secretKeyRef" ReadsReference source.secretKeyRef

/-- A variable. -/
def ReadsEnvVar (value : Value) (var : Typed.EnvVar) : Prop :=
  value.ReadsOption "valueFrom" ReadsEnvVarSource var.valueFrom

/-- A source of several variables. -/
structure ReadsEnvFromSource (value : Value) (source : Typed.EnvFromSource) : Prop where
  configMapRef : value.ReadsOption "configMapRef" ReadsReference source.configMapRef
  secretRef : value.ReadsOption "secretRef" ReadsReference source.secretRef

/-- The environment of a container. -/
structure ReadsContainerEnv (value : Value) (container : Typed.ContainerEnv) : Prop where
  env : value.ReadsOption "env" (ReadsList ReadsEnvVar) container.env
  envFrom : value.ReadsOption "envFrom" (ReadsList ReadsEnvFromSource) container.envFrom

/-- A container. -/
def ReadsContainer (value : Value) (container : Typed.Container) : Prop :=
  value.ReadsContainerEnv container.toContainerEnv

/-- An ephemeral container. -/
def ReadsEphemeralContainer (value : Value) (container : Typed.EphemeralContainer) : Prop :=
  value.ReadsContainerEnv container.toContainerEnv

/-- A volume of a secret. -/
def ReadsSecretVolumeSource (value : Value) (source : Typed.SecretVolumeSource) : Prop :=
  value.ReadsOption "secretName" ReadsString source.secretName

/-- A part of a projected volume. -/
structure ReadsVolumeProjection (value : Value) (projection : Typed.VolumeProjection) : Prop where
  configMap : value.ReadsOption "configMap" ReadsReference projection.configMap
  secret : value.ReadsOption "secret" ReadsReference projection.secret

/-- A projected volume. -/
def ReadsProjectedVolumeSource (value : Value) (source : Typed.ProjectedVolumeSource) : Prop :=
  value.ReadsOption "sources" (ReadsList ReadsVolumeProjection) source.sources

/-- A volume. -/
structure ReadsVolume (value : Value) (volume : Typed.Volume) : Prop where
  configMap : value.ReadsOption "configMap" ReadsReference volume.configMap
  secret : value.ReadsOption "secret" ReadsSecretVolumeSource volume.secret
  projected : value.ReadsOption "projected" ReadsProjectedVolumeSource volume.projected

/-- The spec of a pod. -/
structure ReadsPodSpec (value : Value) (podSpec : Typed.PodSpec) : Prop where
  containers : value.ReadsDefault "containers" (ReadsList ReadsContainer) [] podSpec.containers
  initContainers : value.ReadsOption "initContainers" (ReadsList ReadsContainer)
    podSpec.initContainers
  ephemeralContainers : value.ReadsOption "ephemeralContainers" (ReadsList ReadsEphemeralContainer)
    podSpec.ephemeralContainers
  volumes : value.ReadsOption "volumes" (ReadsList ReadsVolume) podSpec.volumes

/-- Metadata with labels. -/
def ReadsObjectMeta (value : Value) (metadata : Typed.ObjectMeta) : Prop :=
  value.ReadsOption "labels" ReadsStrings metadata.labels

/-- A pod template. -/
structure ReadsPodTemplateSpec (value : Value) (template : Typed.PodTemplateSpec) : Prop where
  metadata : value.ReadsOption "metadata" ReadsObjectMeta template.metadata
  spec : value.ReadsOption "spec" ReadsPodSpec template.spec

section
variable {Json : Type}

/-- The spec of a kind with a pod template. -/
def ReadsTemplateSpec (value : Value) (spec : Typed.TemplateSpec Json) : Prop :=
  value.ReadsDefault "template" ReadsPodTemplateSpec ⟨none, none⟩ spec.template

/-- The spec of a replica set, whose template may be missing. -/
def ReadsReplicaSetSpec (value : Value) (spec : Typed.ReplicaSetSpec Json) : Prop :=
  value.ReadsOption "template" ReadsPodTemplateSpec spec.template

/-- The template of a job. -/
structure ReadsJobTemplateSpec (value : Value) (jobTemplate : Typed.JobTemplateSpec Json) : Prop where
  metadata : value.ReadsOption "metadata" ReadsObjectMeta jobTemplate.metadata
  spec : value.ReadsOption "spec" ReadsTemplateSpec jobTemplate.spec

/-- The spec of a cron job. -/
def ReadsCronJobSpec (value : Value) (spec : Typed.CronJobSpec Json) : Prop :=
  value.ReadsDefault "jobTemplate" ReadsJobTemplateSpec ⟨none, none⟩ spec.jobTemplate

end

end Yaml.Value

/-- No key of the document has a tag. -/
def WorkloadSerde.Untagged {Text Json : Type} (serde : WorkloadSerde Text Json) (yaml : Text) : Prop :=
  ∀ value, serde.fromStr yaml = some value → value.EachMapping Yaml.Value.PlainKeys

/-- The generic value of a text without tagged keys. -/
def WorkloadSerde.Parses {Text Json : Type} (serde : WorkloadSerde Text Json) (yaml : Text)
    (value : Yaml.Value) : Prop :=
  serde.fromStr yaml = some value ∧ serde.Untagged yaml

open Yaml.Value in
/-- What `serde_yaml` and the Kubernetes types document of the parsers. -/
structure WorkloadSerde.Documented {Text Json : Type} (serde : WorkloadSerde Text Json) : Prop where
  distinct : ∀ {yaml value}, serde.fromStr yaml = some value → value.EachMapping DistinctKeys
  deployment : ∀ {yaml value object}, serde.Parses yaml value → serde.deployment yaml = .ok object →
    value.ReadsOption "spec" ReadsTemplateSpec object.spec
  statefulSet : ∀ {yaml value object}, serde.Parses yaml value → serde.statefulSet yaml = .ok object →
    value.ReadsOption "spec" ReadsTemplateSpec object.spec
  daemonSet : ∀ {yaml value object}, serde.Parses yaml value → serde.daemonSet yaml = .ok object →
    value.ReadsOption "spec" ReadsTemplateSpec object.spec
  replicaSet : ∀ {yaml value object}, serde.Parses yaml value → serde.replicaSet yaml = .ok object →
    value.ReadsOption "spec" ReadsReplicaSetSpec object.spec
  job : ∀ {yaml value object}, serde.Parses yaml value → serde.job yaml = .ok object →
    value.ReadsOption "spec" ReadsTemplateSpec object.spec
  cronJob : ∀ {yaml value object}, serde.Parses yaml value → serde.cronJob yaml = .ok object →
    value.ReadsOption "spec" ReadsCronJobSpec object.spec

end Lapdev
