import Lapdev.Db.Catalogs

/-!
# What the queries on catalogs leave alone

A query moves the database along every reflexive and transitive relation that its writes of single
tables follow. The relations of this development (`SameVersions`, `SameDependencies`) say that some
tables are kept, so a query that writes other tables moves along them.
-/

namespace Lapdev

open RustStd Sql Programs

variable {Text : Type} {R : Database Text → Database Text → Prop}

namespace DbApi

section
variable (hrefl : ∀ db, R db db) (htrans : ∀ db db' db'', R db db' → R db' db'' → R db db'')
include hrefl htrans

theorem along_replaceWorkloadLabels (hlabels : ∀ db t, R db { db with catalogWorkloadLabels := t })
    (workloadId appCatalogId clusterId : Uuid) («namespace» : String)
    (labels : BTreeMap String String) (timestamp : Timestamp) :
    Along R (replaceWorkloadLabels workloadId appCatalogId clusterId «namespace» labels timestamp) :=
  Along.bind htrans (Database.along_statement hrefl fun db t _ => hlabels db t) fun _ =>
    Along.forEach hrefl htrans
      (fun _ => Database.along_statement hrefl fun db t _ => hlabels db t) _

theorem along_replaceWorkloadDependencies
    (hdependencies : ∀ db t, R db { db with catalogWorkloadDependencies := t })
    (workloadId appCatalogId clusterId : Uuid) («namespace» : String)
    (configmaps secrets : BTreeSet String) (timestamp : Timestamp) :
    Along R (replaceWorkloadDependencies workloadId appCatalogId clusterId «namespace» configmaps
      secrets timestamp) := by
  have hwrite : ∀ f, Along R (Database.onCatalogWorkloadDependencies f) := fun f =>
    Database.along_statement hrefl fun db t _ => hdependencies db t
  have hinsert : ∀ resourceType names, Along R (Program.forEach (insertDependency workloadId
      appCatalogId clusterId «namespace» timestamp resourceType) names) := fun resourceType names =>
    Along.forEach hrefl htrans (fun _ => hwrite _) names
  exact Along.bind htrans (hwrite _) fun _ => Along.bind htrans (hinsert _ _) fun _ => hinsert _ _

theorem along_replaceServiceSelectors
    (hselectors : ∀ db t, R db { db with clusterServiceSelectors := t })
    (serviceId clusterId : Uuid) («namespace» : String) (selectors : BTreeMap String String)
    (timestamp : Timestamp) :
    Along R (replaceServiceSelectors serviceId clusterId «namespace» selectors timestamp) :=
  Along.bind htrans (Database.along_statement hrefl fun db t _ => hselectors db t) fun _ =>
    Along.forEach hrefl htrans
      (fun _ => Database.along_statement hrefl fun db t _ => hselectors db t) _

theorem along_upsertClusterService (hservices : ∀ db t, R db { db with clusterServices := t })
    (hselectors : ∀ db t, R db { db with clusterServiceSelectors := t })
    (clusterId : Uuid) («namespace» name resourceVersion : String)
    (serviceYaml : Text) (selector : BTreeMap String String) (ports : List StoredServicePort)
    (serviceType : Option String) (observedAt : Timestamp) (newId : Uuid) :
    Along R (upsertClusterService clusterId «namespace» name resourceVersion serviceYaml selector
      ports serviceType observedAt newId) := by
  have hwrite : ∀ (f : Table (KubeClusterService.Model Text) → _) id, Along R (do
      Database.onClusterServices f
      replaceServiceSelectors id clusterId «namespace» selector observedAt
      pure id : Query Text Uuid) := fun f id =>
    Along.bind htrans (Database.along_statement hrefl fun db t _ => hservices db t) fun _ =>
      Along.bind htrans (along_replaceServiceSelectors hrefl htrans hselectors _ _ _ _ _) fun _ =>
        (ReadOnly.pure _).along hrefl
  refine Along.bind htrans ((ReadOnly.read _).along hrefl) fun existing => ?_
  cases existing with
  | some model => exact hwrite _ _
  | none => exact hwrite _ _

theorem along_markClusterServiceDeleted (hservices : ∀ db t, R db { db with clusterServices := t })
    (hselectors : ∀ db t, R db { db with clusterServiceSelectors := t })
    (clusterId : Uuid) («namespace» name : String) (observedAt : Timestamp) :
    Along R (markClusterServiceDeleted clusterId «namespace» name observedAt) := by
  refine Along.bind htrans ((ReadOnly.read _).along hrefl) fun existing => ?_
  cases existing with
  | some model =>
    exact Along.bind htrans (Database.along_statement hrefl fun db t _ => hservices db t) fun _ =>
      Database.along_statement hrefl fun db t _ => hselectors db t
  | none => exact hrefl

end

end DbApi

end Lapdev
