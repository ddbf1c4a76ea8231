import Lapdev.Db.Catalogs

/-!
# The dependency rows of catalog workloads

A catalog workload has one live row for each config map and secret it depends on, written by
`replace_workload_dependencies` and read by `find_workloads_by_dependency`. `liveDependencies` is
what a reader sees of one workload; a replacement changes it for that workload only.
-/

namespace Lapdev

open RustStd Sql Programs

variable {Text : Type}

/-- The two values of `resource_type`. -/
inductive DependencyType
  | configmap
  | secret
  deriving DecidableEq, Repr

namespace DependencyType

def toString : DependencyType → String
  | configmap => "configmap"
  | secret => "secret"

theorem toString_injective : Function.Injective toString := by
  intro t t' h
  cases t <;> cases t' <;> first | rfl | exact absurd h (by decide)

theorem toLower_toString (type : DependencyType) : type.toString.toLower = type.toString := by
  cases type <;> decide +kernel

/-- The names of this type among the config maps and secrets of a workload. -/
def names : DependencyType → BTreeSet String × BTreeSet String → BTreeSet String
  | configmap, refs => refs.1
  | secret, refs => refs.2

end DependencyType

/-- A live dependency row of a workload. -/
structure DependencyRow where
  appCatalogId : Uuid
  clusterId : Uuid
  «namespace» : String
  resourceName : String
  resourceType : String
  deriving DecidableEq

/-- The live dependency rows of a workload. -/
def liveDependencies (db : Database Text) (workloadId : Uuid) : List DependencyRow :=
  (db.catalogWorkloadDependencies.select fun row =>
    row.workloadId = workloadId && row.deletedAt = none).map fun row =>
      ⟨row.appCatalogId, row.clusterId, row.namespace, row.resourceName, row.resourceType⟩

/-- The dependency rows that stand for the config maps and secrets of a workload. -/
def dependencyRows (appCatalogId clusterId : Uuid) («namespace» : String)
    (refs : BTreeSet String × BTreeSet String) : List DependencyRow :=
  refs.1.map (⟨appCatalogId, clusterId, «namespace», ·, "configmap"⟩) ++
    refs.2.map (⟨appCatalogId, clusterId, «namespace», ·, "secret"⟩)

theorem mem_dependencyRows {appCatalogId clusterId : Uuid} {«namespace» : String}
    {refs : BTreeSet String × BTreeSet String} {row : DependencyRow} :
    row ∈ dependencyRows appCatalogId clusterId «namespace» refs ↔
      row.appCatalogId = appCatalogId ∧ row.clusterId = clusterId ∧ row.namespace = «namespace» ∧
        ∃ type : DependencyType, row.resourceType = type.toString ∧
          row.resourceName ∈ type.names refs := by
  obtain ⟨catalogId', clusterId', namespace', name, type⟩ := row
  rw [dependencyRows, List.mem_append, List.mem_map, List.mem_map]
  constructor
  · rintro (⟨name, hname, heq⟩ | ⟨name, hname, heq⟩) <;> cases heq
    · exact ⟨rfl, rfl, rfl, .configmap, rfl, hname⟩
    · exact ⟨rfl, rfl, rfl, .secret, rfl, hname⟩
  · rintro ⟨rfl, rfl, rfl, type, rfl, hname⟩
    cases type with
    | configmap => exact .inl ⟨name, hname, rfl⟩
    | secret => exact .inr ⟨name, hname, rfl⟩

/-- One workload has the given dependency rows, and those of the others are as before. -/
structure WritesDependencies (workloadId : Uuid) (rows : List DependencyRow)
    (db db' : Database Text) : Prop where
  own : liveDependencies db' workloadId = rows
  others : ∀ id ≠ workloadId, liveDependencies db' id = liveDependencies db id

theorem WritesDependencies.trans {workloadId : Uuid} {rows rows' : List DependencyRow}
    {db db' db'' : Database Text} (h : WritesDependencies workloadId rows db db')
    (h' : WritesDependencies workloadId rows' db' db'') :
    WritesDependencies workloadId rows' db db'' :=
  ⟨h'.own, fun id hid => (h'.others id hid).trans (h.others id hid)⟩

namespace DbApi

variable {db : Database Text} {t : Table KubeAppCatalogWorkloadDependency.Model}

theorem writes_deleteDependencies {workloadId : Uuid} {timestamp : Timestamp}
    (h : db.catalogWorkloadDependencies.updateMany
      (fun row => row.workloadId = workloadId && row.deletedAt = none)
      (fun row => { row with deletedAt := some timestamp }) = .ok t) :
    WritesDependencies workloadId [] db { db with catalogWorkloadDependencies := t } where
  own := by
    simp only [liveDependencies]
    rw [Table.select_updateMany h (by simp)]
    simp [Table.select]
  others := by
    intro id hid
    simp only [liveDependencies]
    rw [Table.select_updateMany h (by simp)]
    congr 2
    funext row
    by_cases hrow : row.workloadId = id <;> simp [hrow, hid]

theorem writes_insertDependency {row : KubeAppCatalogWorkloadDependency.Model}
    (hlive : row.deletedAt = none) (h : db.catalogWorkloadDependencies.insert row = .ok t) :
    WritesDependencies row.workloadId
      (liveDependencies db row.workloadId ++
        [⟨row.appCatalogId, row.clusterId, row.namespace, row.resourceName, row.resourceType⟩])
      db { db with catalogWorkloadDependencies := t } where
  own := by simp [liveDependencies, Table.select_insert h, hlive]
  others := by
    intro id hid
    simp [liveDependencies, Table.select_insert h, Ne.symm hid]

section
variable (workloadId appCatalogId clusterId : Uuid) («namespace» : String) (timestamp : Timestamp)

/-- The insertion of the dependencies of one type. -/
theorem run_insertDependencies (resourceType : String) (names : List String)
    (db : Database Text) :
    ∃ t, (Program.forEach (insertDependency workloadId appCatalogId clusterId «namespace» timestamp
        resourceType) names).run db = (.ok ⟨⟩, { db with catalogWorkloadDependencies := t }) ∧
      WritesDependencies workloadId
        (liveDependencies db workloadId ++
          names.map (⟨appCatalogId, clusterId, «namespace», ·, resourceType⟩))
        db { db with catalogWorkloadDependencies := t } := by
  induction names generalizing db with
  | nil => exact ⟨_, rfl, by simp, fun _ _ => rfl⟩
  | cons name names ih =>
    obtain ⟨t₁, ht₁⟩ := db.catalogWorkloadDependencies.insert_of_not_conflict
      ⟨timestamp, none, appCatalogId, workloadId, clusterId, «namespace», name, resourceType⟩
      fun _ _ h => h
    have hwrites₁ := writes_insertDependency rfl ht₁
    obtain ⟨t, ht, hwrites⟩ := ih { db with catalogWorkloadDependencies := t₁ }
    refine ⟨t, ?_, ?_⟩
    · rw [Program.forEach, Program.run_foldEach_cons, insertDependency,
        Database.onCatalogWorkloadDependencies, Database.run_statement_ok ht₁]
      exact ht
    · have := hwrites₁.trans hwrites
      rwa [hwrites₁.own, List.append_assoc] at this

/-- **The replacement of a workload's dependencies** succeeds, and leaves the given ones as its live
rows. -/
theorem run_replaceWorkloadDependencies (configmaps secrets : BTreeSet String)
    (db : Database Text) :
    ∃ t, (replaceWorkloadDependencies workloadId appCatalogId clusterId «namespace» configmaps
        secrets timestamp).run db = (.ok ⟨⟩, { db with catalogWorkloadDependencies := t }) ∧
      WritesDependencies workloadId
        (dependencyRows appCatalogId clusterId «namespace» (configmaps, secrets)) db
        { db with catalogWorkloadDependencies := t } := by
  obtain ⟨t₁, ht₁⟩ := db.catalogWorkloadDependencies.updateMany_of_conflict_imp
    (p := fun row => row.workloadId = workloadId && row.deletedAt = none)
    (f := fun row => { row with deletedAt := some timestamp }) fun _ _ _ _ h => h
  have hwrites₁ := writes_deleteDependencies ht₁
  obtain ⟨t₂, hrun₂, hwrites₂⟩ := run_insertDependencies workloadId appCatalogId clusterId
    «namespace» timestamp "configmap" configmaps { db with catalogWorkloadDependencies := t₁ }
  obtain ⟨t, hrun, hwrites⟩ := run_insertDependencies workloadId appCatalogId clusterId
    «namespace» timestamp "secret" secrets { db with catalogWorkloadDependencies := t₂ }
  refine ⟨t, ?_, ?_⟩
  · refine (Program.run_bind_of_ok (Database.run_statement_ok ht₁)).trans ?_
    exact (Program.run_bind_of_ok hrun₂).trans hrun
  · have := (hwrites₁.trans hwrites₂).trans hwrites
    rwa [hwrites₂.own, hwrites₁.own, List.nil_append] at this

end

/-- Source: `db/src/api.rs`: the workloads and their catalogs. -/
def findWorkloadsByDependency (clusterId : Uuid) («namespace» resourceType resourceName : String) :
    Query Text (List (Uuid × Uuid)) :=
  .read fun db =>
    (db.catalogWorkloadDependencies.select fun row =>
      row.clusterId = clusterId && row.namespace = «namespace» &&
        row.resourceType = resourceType && row.resourceName = resourceName &&
        row.deletedAt = none).map fun row => (row.workloadId, row.appCatalogId)

/-- What the lookup finds, by the live rows of each workload. -/
theorem run_findWorkloadsByDependency (db : Database Text) (clusterId : Uuid)
    («namespace» resourceType resourceName : String) :
    ∃ found, (findWorkloadsByDependency clusterId «namespace» resourceType resourceName).run db =
        (.ok found, db) ∧
      ∀ workloadId appCatalogId, (workloadId, appCatalogId) ∈ found ↔
        ⟨appCatalogId, clusterId, «namespace», resourceName, resourceType⟩ ∈
          liveDependencies db workloadId := by
  refine ⟨_, rfl, fun workloadId appCatalogId => ?_⟩
  simp only [liveDependencies, List.mem_map, Table.mem_select, Bool.and_eq_true, decide_eq_true_eq,
    Prod.mk.injEq, DependencyRow.mk.injEq]
  constructor
  · rintro ⟨row, ⟨hmem, ⟨⟨⟨hcluster, hns⟩, htype⟩, hname⟩, hlive⟩, hid, hcatalog⟩
    exact ⟨row, ⟨hmem, hid, hlive⟩, hcatalog, hcluster, hns, hname, htype⟩
  · rintro ⟨row, ⟨hmem, hid, hlive⟩, hcatalog, hcluster, hns, hname, htype⟩
    exact ⟨row, ⟨hmem, ⟨⟨⟨hcluster, hns⟩, htype⟩, hname⟩, hlive⟩, hid, hcatalog⟩

end DbApi

end Lapdev
