import Lapdev.Db.CatalogFrames
import Lapdev.Db.Dependencies
import Lapdev.Kube.EventChanges
import Lapdev.Kube.ExtractWorkload
import Lapdev.Kube.RowRewrites

/-!
# A workload event a second time

The five comparisons of `compute_catalog_workload_update` read what the update itself stores: the
merged containers, the ports, the spec in the stored YAML, and the label and dependency rows.
`requiresCatalogBump_write` says that each of them finds its own result unchanged, and
`event_absorbed` carries it over to the handler.
-/

namespace Lapdev

open RustStd Sql Programs

variable {Text Json : Type}

/-! ## Containers -/

/-- What a container is merged with, if there is one of its name. -/
def mergedContainer (existing : HashTable String KubeContainerInfo) (new : KubeContainerInfo) :
    KubeContainerInfo :=
  match existing.lookup new.name with
  | some container =>
    { container with
      originalImage := new.originalImage
      cpuRequest := new.cpuRequest
      cpuLimit := new.cpuLimit
      memoryRequest := new.memoryRequest
      memoryLimit := new.memoryLimit
      ports := new.ports }
  | none => new

/-- Containers of different names are merged one by one. -/
theorem mergeContainersLoop_eq_map {existing : HashTable String KubeContainerInfo}
    {new : List KubeContainerInfo} (hnodup : (new.map (·.name)).Nodup) :
    mergeContainersLoop existing new = new.map (mergedContainer existing) := by
  induction new generalizing existing with
  | nil => rfl
  | cons container rest ih =>
    obtain ⟨hfresh, hrest⟩ := List.nodup_cons.1 hnodup
    rw [List.map_cons, mergeContainersLoop, mergedContainer]
    cases existing.lookup container.name with
    | none =>
      dsimp only
      rw [ih hrest]
    | some found =>
      dsimp only
      rw [ih hrest]
      refine congrArg (List.cons _) (List.map_congr_left fun other hother => ?_)
      have hne : other.name ≠ container.name := fun heq =>
        hfresh (List.mem_map.2 ⟨other, hother, heq⟩)
      rw [mergedContainer, mergedContainer, AList.lookup_erase_ne hne]

/-- The containers by their names. -/
def containerTable (containers : List KubeContainerInfo) : HashTable String KubeContainerInfo :=
  HashTable.collect (containers.map fun container => (container.name, container))

theorem mem_of_lookup_containerTable {containers : List KubeContainerInfo} {name : String}
    {container : KubeContainerInfo} (h : (containerTable containers).lookup name = some container) :
    container ∈ containers ∧ container.name = name := by
  obtain ⟨c, hc, heq⟩ := List.mem_map.1 (HashTable.mem_of_lookup_collect h)
  obtain ⟨rfl, rfl⟩ := Prod.mk.inj heq
  exact ⟨hc, rfl⟩

theorem lookup_containerTable {containers : List KubeContainerInfo}
    (hnodup : (containers.map (·.name)).Nodup) {container : KubeContainerInfo}
    (h : container ∈ containers) :
    (containerTable containers).lookup container.name = some container := by
  obtain ⟨c, hc⟩ := HashTable.exists_lookup_collect
    (List.mem_map_of_mem (f := fun container : KubeContainerInfo => (container.name, container)) h)
  obtain ⟨hmem, hname⟩ := mem_of_lookup_containerTable hc
  rw [containerTable, hc, List.inj_on_of_nodup_map hnodup hmem h hname]

theorem name_mergedContainer (existing : List KubeContainerInfo) (new : KubeContainerInfo) :
    (mergedContainer (containerTable existing) new).name = new.name := by
  rw [mergedContainer]
  split
  · next container hlookup => exact (mem_of_lookup_containerTable hlookup).2
  · rfl

theorem mergeContainers_eq_map {existing new : List KubeContainerInfo}
    (hnodup : (new.map (·.name)).Nodup) :
    mergeContainers existing new = new.map (mergedContainer (containerTable existing)) :=
  mergeContainersLoop_eq_map hnodup

/-- Containers that have been merged are not changed by the same merge. -/
theorem mergeContainers_merged {existing new : List KubeContainerInfo}
    (hnodup : (new.map (·.name)).Nodup) :
    mergeContainers (mergeContainers existing new) new = mergeContainers existing new := by
  rw [mergeContainers_eq_map hnodup, mergeContainers_eq_map hnodup]
  refine List.map_congr_left fun container hcontainer => ?_
  have hnames : (new.map (mergedContainer (containerTable existing))).map (·.name) =
      new.map (·.name) := by
    rw [List.map_map]
    exact List.map_congr_left fun c _ => name_mergedContainer existing c
  have hlookup := lookup_containerTable (hnames ▸ hnodup)
    (List.mem_map_of_mem (f := mergedContainer (containerTable existing)) hcontainer)
  rw [name_mergedContainer] at hlookup
  rw [mergedContainer, hlookup]
  dsimp only
  rw [mergedContainer]
  split <;> rfl

/-! ## Label and dependency rows -/

/-- The labels that live rows stand for, if there are any. -/
def labelsOfLive (rows : List LiveRow) : Option (BTreeMap String String) :=
  if rows.isEmpty then none
  else some (HashTable.collect (rows.map fun row => (row.key, row.value)))

/-- The config maps and secrets that live rows stand for, if there are any. -/
def dependenciesOfLive (rows : List DependencyRow) :
    Option (BTreeSet String × BTreeSet String) :=
  if rows.isEmpty then none
  else
    some ((rows.filter fun row => row.resourceType.toLower = "configmap").map (·.resourceName),
      (rows.filter fun row => row.resourceType.toLower = "secret").map (·.resourceName))

theorem labelsOf_select (db : Database Text) {ids : List Uuid} {id : Uuid} (hid : id ∈ ids) :
    labelsOf (db.catalogWorkloadLabels.select fun row =>
      row.workloadId ∈ ids && row.deletedAt = none) id =
      labelsOfLive (liveRows db (.workload id)) := by
  have hrows : (db.catalogWorkloadLabels.select fun row =>
        row.workloadId ∈ ids && row.deletedAt = none).filter (fun row => row.workloadId = id) =
      db.catalogWorkloadLabels.select fun row => row.workloadId = id && row.deletedAt = none := by
    rw [Table.select, Table.select, List.filter_filter]
    refine List.filter_congr fun row _ => ?_
    by_cases hrow : row.workloadId = id <;> simp [hrow, hid]
  rw [labelsOf, hrows, liveRows]
  cases db.catalogWorkloadLabels.select fun row => row.workloadId = id && row.deletedAt = none with
  | nil => rfl
  | cons row rows =>
    rw [labelsOfLive, if_neg (by simp), List.map_map]
    rfl

theorem dependenciesOf_select (db : Database Text) {ids : List Uuid} {id : Uuid} (hid : id ∈ ids) :
    dependenciesOf (db.catalogWorkloadDependencies.select fun row =>
      row.workloadId ∈ ids && row.deletedAt = none) id =
      dependenciesOfLive (liveDependencies db id) := by
  have hrows : (db.catalogWorkloadDependencies.select fun row =>
        row.workloadId ∈ ids && row.deletedAt = none).filter (fun row => row.workloadId = id) =
      db.catalogWorkloadDependencies.select fun row =>
        row.workloadId = id && row.deletedAt = none := by
    rw [Table.select, Table.select, List.filter_filter]
    refine List.filter_congr fun row _ => ?_
    by_cases hrow : row.workloadId = id <;> simp [hrow, hid]
  rw [dependenciesOf, hrows, liveDependencies]
  cases db.catalogWorkloadDependencies.select fun row =>
    row.workloadId = id && row.deletedAt = none with
  | nil => rfl
  | cons row rows =>
    rw [dependenciesOfLive, if_neg (by simp), List.filter_map, List.filter_map, List.map_map,
      List.map_map]
    rfl

/-- A map collected from the entries of another one has the same entries. -/
theorem same_collect_entries (labels : BTreeMap String String) :
    BTreeMap.Same (HashTable.collect (labels.entries.map fun e => (e.1, e.2))) labels := by
  rw [BTreeMap.same_iff]
  intro k v
  have hmem : ∀ v, (k, v) ∈ labels.entries.map (fun e => (e.1, e.2)) ↔
      labels.lookup k = some v := by
    intro v
    rw [List.mem_map, ← Option.mem_def, AList.mem_lookup_iff]
    constructor
    · rintro ⟨⟨k', v'⟩, he, heq⟩
      obtain ⟨rfl, rfl⟩ := Prod.mk.inj heq
      exact he
    · exact fun he => ⟨⟨k, v⟩, he, rfl⟩
  constructor
  · exact fun h => (hmem v).1 (HashTable.mem_of_lookup_collect h)
  · intro h
    obtain ⟨v', hv'⟩ := HashTable.exists_lookup_collect ((hmem v).2 h)
    have := (hmem v').1 (HashTable.mem_of_lookup_collect hv')
    rw [h] at this
    cases this
    exact hv'

/-- Labels that have been written are no change. -/
theorem labelsOfLive_labelRows (clusterId : Uuid) («namespace» : String)
    (labels : BTreeMap String String) :
    labelsOfLive (labelRows clusterId «namespace» labels) =
      if labels.entries.isEmpty then none
      else some (HashTable.collect (labels.entries.map fun e => (e.1, e.2))) := by
  rw [labelsOfLive, labelRows, List.map_map, List.isEmpty_map]
  rfl

/-- Dependencies that have been written are read back. -/
theorem dependenciesOfLive_dependencyRows (appCatalogId clusterId : Uuid) («namespace» : String)
    (refs : BTreeSet String × BTreeSet String) :
    dependenciesOfLive (dependencyRows appCatalogId clusterId «namespace» refs) =
      if refs.1.isEmpty && refs.2.isEmpty then none else some refs := by
  have hconfigmap : "configmap".toLower = "configmap" := DependencyType.configmap.toLower_toString
  have hsecret : "secret".toLower = "secret" := DependencyType.secret.toLower_toString
  have hother : "secret" ≠ "configmap" := by decide
  rw [dependenciesOfLive, dependencyRows]
  simp [List.filter_append, List.filter_map, List.map_map, Function.comp_def, hconfigmap, hsecret,
    hother, hother.symm]

/-! ## The fixed point -/

section
variable [DecidableEq Json] (serde : SerdeParsers Text Json) (new : WorkloadSnapshot Text Json)
  (servicePorts : List KubeServicePort)

/-- The update computed for a workload with these live rows. -/
def updateOf (workload : KubeAppCatalogWorkload.Model Text) (labels : List LiveRow)
    (dependencies : List DependencyRow) : CatalogWorkloadUpdate Text :=
  computeCatalogWorkloadUpdate serde workload new servicePorts (labelsOfLive labels)
    (dependenciesOfLive dependencies)

variable {serde new servicePorts} {workload : KubeAppCatalogWorkload.Model Text}
  {labels : List LiveRow} {dependencies : List DependencyRow} {update : CatalogWorkloadUpdate Text}

/-- The containers that are stored are the merged ones. -/
theorem containers_write
    (hupdate : updateOf serde new servicePorts workload labels dependencies = update) :
    (update.write workload).containers = mergeContainers workload.containers new.containers := by
  subst hupdate
  simp only [updateOf, computeCatalogWorkloadUpdate, CatalogWorkloadUpdate.write]
  by_cases hsame : mergeContainers workload.containers new.containers = workload.containers
  · simp [hsame]
  · simp [hsame]

/-- The ports that are stored are those of the services. -/
theorem ports_write
    (hupdate : updateOf serde new servicePorts workload labels dependencies = update) :
    (update.write workload).ports = servicePorts := by
  subst hupdate
  simp only [updateOf, computeCatalogWorkloadUpdate, CatalogWorkloadUpdate.write]
  by_cases hsame : servicePorts = workload.ports
  · simp [hsame]
  · simp [hsame]

/-- The YAML that is stored, new or old, has the spec of the event. -/
theorem specSection_write (hspec : specSectionFromYaml serde new.yaml = some new.specSnapshot)
    (hupdate : updateOf serde new servicePorts workload labels dependencies = update) :
    specSectionFromYaml serde (update.write workload).workloadYaml = some new.specSnapshot := by
  cases hchanged : update.specChanged || update.labelsChanged with
  | true =>
    have hyaml : update.workloadYaml = some new.yaml := by
      subst hupdate
      exact if_pos hchanged
    rw [CatalogWorkloadUpdate.write, hyaml]
    exact hspec
  | false =>
    have hyaml : update.workloadYaml = none := by
      subst hupdate
      exact if_neg (Bool.eq_false_iff.1 hchanged)
    have hsame := (Bool.or_eq_false_iff.1 hchanged).1
    rw [CatalogWorkloadUpdate.write, hyaml]
    subst hupdate
    simp only [updateOf, computeCatalogWorkloadUpdate] at hsame
    split at hsame
    · cases hsame
    · next storedSpec hstored =>
      dsimp only [Option.getD_none]
      rw [hstored, not_ne_iff.1 (of_decide_eq_false hsame)]

/-- Labels that have been compared or written are those of the event. -/
theorem labels_write
    (hupdate : updateOf serde new servicePorts workload labels dependencies = update)
    (workload' : KubeAppCatalogWorkload.Model Text) (dependencies' : List DependencyRow) :
    (updateOf serde new servicePorts workload'
      (if update.labelsChanged then labelRows workload.clusterId workload.namespace new.labels
        else labels) dependencies').labelsChanged = false := by
  cases hchanged : update.labelsChanged with
  | true =>
    rw [if_pos rfl]
    simp only [updateOf, computeCatalogWorkloadUpdate, labelsOfLive_labelRows]
    by_cases hempty : new.labels.entries.isEmpty
    · simp [hempty]
    · rw [if_neg hempty]
      exact decide_eq_false (not_not_intro (same_collect_entries new.labels))
  | false =>
    subst hupdate
    exact hchanged

/-- Dependencies that have been compared or written are those of the event. -/
theorem dependencies_write
    (hupdate : updateOf serde new servicePorts workload labels dependencies = update)
    (workload' : KubeAppCatalogWorkload.Model Text) (labels' : List LiveRow) :
    (updateOf serde new servicePorts workload' labels'
      (if update.dependenciesChanged then
        dependencyRows workload.appCatalogId workload.clusterId workload.namespace
          (new.configmapRefs, new.secretRefs)
        else dependencies)).dependenciesChanged = false := by
  cases hchanged : update.dependenciesChanged with
  | true =>
    rw [if_pos rfl]
    simp only [updateOf, computeCatalogWorkloadUpdate, dependenciesOfLive_dependencyRows]
    by_cases hempty : (new.configmapRefs.isEmpty && new.secretRefs.isEmpty) = true
    · simp [hempty]
    · rw [if_neg hempty]
      simp [BTreeSet.Same]
  | false =>
    subst hupdate
    exact hchanged

/-- **An update that has been stored is not computed again.** With the containers, ports and YAML
written, and the rows replaced where they differ, nothing is left to change. -/
theorem requiresCatalogBump_write (hnames : (new.containers.map (·.name)).Nodup)
    (hspec : specSectionFromYaml serde new.yaml = some new.specSnapshot)
    (hupdate : updateOf serde new servicePorts workload labels dependencies = update) :
    (updateOf serde new servicePorts (update.write workload)
      (if update.labelsChanged then labelRows workload.clusterId workload.namespace new.labels
        else labels)
      (if update.dependenciesChanged then
        dependencyRows workload.appCatalogId workload.clusterId workload.namespace
          (new.configmapRefs, new.secretRefs)
        else dependencies)).requiresCatalogBump = false := by
  simp only [CatalogWorkloadUpdate.requiresCatalogBump, Bool.or_eq_false_iff]
  refine ⟨⟨⟨⟨?_, ?_⟩, ?_⟩, labels_write hupdate _ _⟩, dependencies_write hupdate _ _⟩
  · refine decide_eq_false (not_not_intro ?_)
    rw [containers_write hupdate]
    exact mergeContainers_merged hnames
  · exact decide_eq_false (not_not_intro (ports_write hupdate).symm)
  · simp only [updateOf, computeCatalogWorkloadUpdate, specSection_write hspec hupdate]
    exact decide_eq_false (not_not_intro rfl)

end

end Lapdev
