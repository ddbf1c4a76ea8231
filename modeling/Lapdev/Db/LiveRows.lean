import Lapdev.Db.Catalogs

/-!
# Live label and selector rows

The label rows of catalog workloads and the selector rows of cluster services have no unique index,
and both are rewritten by deleting the live rows of an owner and inserting new ones. `liveRows` is
what a reader of these tables sees of one owner; each statement of a rewrite changes it for its own
owner only. `mem_findWorkloadsMatchingSelector` is the reader that counts rows: it is exact where no
key has two live rows.
-/

namespace Lapdev

open RustStd Sql Programs

variable {Text : Type}

/-- What label or selector rows belong to. -/
inductive RowOwner
  | service (id : Uuid)
  | workload (id : Uuid)
  deriving DecidableEq

/-- A live row: the cluster and the namespace it is for, and its key and value. -/
structure LiveRow where
  clusterId : Uuid
  «namespace» : String
  key : String
  value : String
  deriving DecidableEq

/-- The live rows a map of labels stands for. -/
def labelRows (clusterId : Uuid) («namespace» : String) (labels : BTreeMap String String) :
    List LiveRow :=
  labels.entries.map fun entry => ⟨clusterId, «namespace», entry.1, entry.2⟩

/-- The live rows of a service or a workload. -/
def liveRows (db : Database Text) : RowOwner → List LiveRow
  | .service id =>
    (db.clusterServiceSelectors.select fun row =>
      row.serviceId = id && row.deletedAt = none).map fun row =>
        ⟨row.clusterId, row.namespace, row.labelKey, row.labelValue⟩
  | .workload id =>
    (db.catalogWorkloadLabels.select fun row =>
      row.workloadId = id && row.deletedAt = none).map fun row =>
        ⟨row.clusterId, row.namespace, row.labelKey, row.labelValue⟩

/-- One owner has the given live rows, and those of the others are as before. -/
structure Writes (owner : RowOwner) (rows : List LiveRow) (db db' : Database Text) : Prop where
  own : liveRows db' owner = rows
  others : ∀ o ≠ owner, liveRows db' o = liveRows db o

/-! ## The statements of a rewrite -/

section
variable {db : Database Text}

theorem writes_deleteSelectors {serviceId : Uuid} {timestamp : Timestamp}
    {t : Table KubeClusterServiceSelector.Model}
    (h : db.clusterServiceSelectors.updateMany
      (fun row => row.serviceId = serviceId && row.deletedAt = none)
      (fun row => { row with deletedAt := some timestamp }) = .ok t) :
    Writes (.service serviceId) [] db { db with clusterServiceSelectors := t } where
  own := by
    simp only [liveRows]
    rw [Table.select_updateMany h (by simp)]
    simp [Table.select]
  others := by
    rintro (id | id) hne
    · have hid : id ≠ serviceId := fun h => hne (h ▸ rfl)
      simp only [liveRows]
      rw [Table.select_updateMany h (by simp)]
      congr 2
      funext row
      by_cases hrow : row.serviceId = id <;> simp [hrow, hid]
    · rfl

theorem writes_deleteLabels {workloadId : Uuid} {timestamp : Timestamp}
    {t : Table KubeAppCatalogWorkloadLabel.Model}
    (h : db.catalogWorkloadLabels.updateMany
      (fun row => row.workloadId = workloadId && row.deletedAt = none)
      (fun row => { row with deletedAt := some timestamp }) = .ok t) :
    Writes (.workload workloadId) [] db { db with catalogWorkloadLabels := t } where
  own := by
    simp only [liveRows]
    rw [Table.select_updateMany h (by simp)]
    simp [Table.select]
  others := by
    rintro (id | id) hne
    · rfl
    · have hid : id ≠ workloadId := fun h => hne (h ▸ rfl)
      simp only [liveRows]
      rw [Table.select_updateMany h (by simp)]
      congr 2
      funext row
      by_cases hrow : row.workloadId = id <;> simp [hrow, hid]

theorem writes_insertSelector {row : KubeClusterServiceSelector.Model}
    {t : Table KubeClusterServiceSelector.Model} (hlive : row.deletedAt = none)
    (h : db.clusterServiceSelectors.insert row = .ok t) :
    Writes (.service row.serviceId)
      (liveRows db (.service row.serviceId) ++
        [⟨row.clusterId, row.namespace, row.labelKey, row.labelValue⟩])
      db { db with clusterServiceSelectors := t } where
  own := by simp [liveRows, Table.select_insert h, hlive]
  others := by
    rintro (id | id) hne
    · have hid : row.serviceId ≠ id := fun h => hne (h ▸ rfl)
      simp [liveRows, Table.select_insert h, hid]
    · rfl

theorem writes_insertLabel {row : KubeAppCatalogWorkloadLabel.Model}
    {t : Table KubeAppCatalogWorkloadLabel.Model} (hlive : row.deletedAt = none)
    (h : db.catalogWorkloadLabels.insert row = .ok t) :
    Writes (.workload row.workloadId)
      (liveRows db (.workload row.workloadId) ++
        [⟨row.clusterId, row.namespace, row.labelKey, row.labelValue⟩])
      db { db with catalogWorkloadLabels := t } where
  own := by simp [liveRows, Table.select_insert h, hlive]
  others := by
    rintro (id | id) hne
    · rfl
    · have hid : row.workloadId ≠ id := fun h => hne (h ▸ rfl)
      simp [liveRows, Table.select_insert h, hid]

end

/-! ## Counting label rows -/

namespace DbApi

/-- A workload is found where as many of its rows are in the selector as the selector has
entries. -/
theorem mem_matchingWorkloadIds {selector : BTreeMap String String} {id : Uuid}
    {rows : List KubeAppCatalogWorkloadLabel.Model} (h : selector.entries ≠ []) :
    id ∈ matchingWorkloadIds selector rows ↔
      (rows.filter fun row => row.workloadId = id).length = selector.entries.length := by
  unfold matchingWorkloadIds
  rw [List.mem_filter, List.mem_dedup, decide_eq_true_eq, and_iff_right_iff_imp]
  intro hlen
  have hpos : 0 < (rows.filter fun row => row.workloadId = id).length := by
    rw [hlen]
    exact List.length_pos_iff.2 h
  obtain ⟨row, hrow⟩ := List.exists_mem_of_length_pos hpos
  obtain ⟨hmem, hid⟩ := List.mem_filter.1 hrow
  exact List.mem_map.2 ⟨row, hmem, of_decide_eq_true hid⟩

/-- The rows of a workload the query reads, counted among its live rows. -/
theorem length_selectorRows (db : Database Text) (workloadId clusterId : Uuid)
    («namespace» : String) (selector : BTreeMap String String) :
    ((db.catalogWorkloadLabels.select fun row =>
        row.clusterId = clusterId && row.namespace = «namespace» && row.deletedAt = none &&
          selector.lookup row.labelKey = some row.labelValue).filter
      fun row => row.workloadId = workloadId).length =
    ((liveRows db (.workload workloadId)).filter fun row =>
      row.clusterId = clusterId && row.namespace = «namespace» &&
        selector.lookup row.key = some row.value).length := by
  rw [liveRows, List.filter_map, List.length_map, Table.select, Table.select, List.filter_filter,
    List.filter_filter]
  congr 2
  funext row
  simp only [Function.comp]
  rw [Bool.eq_iff_iff]
  simp only [Bool.and_eq_true, decide_eq_true_eq]
  tauto

/-- **The count is exact** for a workload whose live rows are a map of labels: it is found exactly
if the selector's entries are labels. -/
theorem mem_findWorkloadsMatchingSelector {db : Database Text} {workloadId clusterId : Uuid}
    {«namespace» : String} {labels selector : BTreeMap String String}
    (hrows : liveRows db (.workload workloadId) = labelRows clusterId «namespace» labels)
    (hselector : selector.entries ≠ []) :
    ∃ ids, (findWorkloadsMatchingSelector clusterId «namespace» selector).run db = (.ok ids, db) ∧
      (workloadId ∈ ids ↔ ∀ k v, selector.lookup k = some v → labels.lookup k = some v) := by
  have hempty : selector.entries.isEmpty = false := by
    simpa [List.isEmpty_eq_false_iff] using hselector
  refine ⟨_, by rw [findWorkloadsMatchingSelector, if_neg (by simp [hempty])]; rfl, ?_⟩
  rw [mem_matchingWorkloadIds hselector, length_selectorRows, hrows, labelRows, List.filter_map,
    List.length_map]
  have hkeys : (fun row : LiveRow => decide (row.clusterId = clusterId) &&
      decide (row.namespace = «namespace») && decide (selector.lookup row.key = some row.value)) ∘
        (fun entry : (_ : String) × String => LiveRow.mk clusterId «namespace» entry.1 entry.2) =
      fun entry => decide (selector.lookup entry.1 = some entry.2) := by
    funext entry
    simp
  rw [hkeys, HashTable.length_filter_eq_iff selector labels.nodupKeys]
  simp only [← AList.mem_lookup_iff, Option.mem_def]

end DbApi

end Lapdev
