import Lapdev.Db.Catalogs

/-!
# The services of catalog workloads

`get_services_for_catalog_workloads` of `db/src/api.rs`: the cached services whose selectors are
among the labels of a catalog workload, for many workloads at once. A namespace is queried for the
labels of all its workloads together, and each workload is then matched by itself;
`mem_getServicesForCatalogWorkloads` says that this finds a service for a workload exactly when the
service selects it.
-/

namespace Lapdev

open RustStd Sql Programs

/-- A catalog workload with label rows: the namespace of its first row, and its labels. -/
structure LabelledWorkload where
  id : Uuid
  «namespace» : String
  labels : BTreeMap String String

namespace DbApi

variable {Text : Type}

/-- `workload_labels` and `workload_namespaces` of a workload. -/
def labelledWorkload (labelRows : List KubeAppCatalogWorkloadLabel.Model) (workloadId : Uuid) :
    Option LabelledWorkload :=
  match labelRows.filter fun row => row.workloadId = workloadId with
  | [] => none
  | row :: rows =>
    some
      { id := workloadId
        «namespace» := row.namespace
        labels := HashTable.collect ((row :: rows).map fun row => (row.labelKey, row.labelValue)) }

/-- The live selector rows of a namespace. -/
def liveSelector (clusterId : Uuid) («namespace» : String) (row : KubeClusterServiceSelector.Model) :
    Bool :=
  row.clusterId = clusterId && row.namespace = «namespace» && row.deletedAt = none

/-- The loop body over the namespaces: the services with a selector row among the labels of the
namespace's workloads are candidates, and each workload is matched with all rows of each. -/
def matchNamespace (clusterId : Uuid) (labelled : List LabelledWorkload)
    (found : List (Uuid × Uuid)) («namespace» : String) : Query Text (List (Uuid × Uuid)) := do
  let workloads := labelled.filter fun workload => workload.namespace = «namespace»
  let selectorRows ← Program.read fun db =>
    db.clusterServiceSelectors.select fun row =>
      liveSelector clusterId «namespace» row &&
        workloads.any fun workload => workload.labels.lookup row.labelKey = some row.labelValue
  let candidateServiceIds := selectorRows.map (·.serviceId)
  let selectorRowsFull ← Program.read fun db =>
    db.clusterServiceSelectors.select fun row =>
      liveSelector clusterId «namespace» row && row.serviceId ∈ candidateServiceIds
  pure <| found ++ workloads.flatMap fun workload =>
    (matchingServiceIds workload.labels selectorRowsFull).map fun serviceId =>
      (workload.id, serviceId)

/-- A service that reaches the pods of a cluster without leaving it. -/
def isClusterIp (row : KubeClusterService.Model Text) : Bool :=
  row.serviceType = some "ClusterIP" || row.serviceType = none

/-- The services of each workload of a list of pairs; a workload without any is left out. -/
def servicesByWorkload (rs : Uuid → RandomState Uuid) (services : List (KubeClusterService.Model Text))
    (found : List (Uuid × Uuid)) : HashTable Uuid (List (CachedClusterService Text)) :=
  HashTable.collect <| (found.map (·.1)).dedup.filterMap fun workloadId =>
    let serviceIds := ((found.filter fun pair => pair.1 = workloadId).map (·.2)).dedup
    let ofWorkload := ((rs workloadId).arrange serviceIds).filterMap fun serviceId =>
      (services.find? fun row => row.id = serviceId).map cachedService
    if ofWorkload.isEmpty then none else some (workloadId, ofWorkload)

/-- Source: `db/src/api.rs`; `rs` is the seed of the result, and `rsServices` are those of the sets
of services. -/
def getServicesForCatalogWorkloads (rs : RandomState ((_ : Uuid) × List (CachedClusterService Text)))
    (rsServices : Uuid → RandomState Uuid) (clusterId : Uuid) (workloadIds : List Uuid) :
    Query Text (HashTable Uuid (List (CachedClusterService Text))) :=
  if workloadIds.isEmpty then pure ∅
  else do
    let labelRows ← Program.read fun db =>
      db.catalogWorkloadLabels.select fun row =>
        row.workloadId ∈ workloadIds && row.deletedAt = none
    let labelled := workloadIds.filterMap (labelledWorkload labelRows)
    let found ← Program.foldEach (matchNamespace clusterId labelled) []
      (labelled.map (·.namespace)).dedup
    if found.isEmpty then pure ∅
    else
      let services ← Program.read fun db =>
        db.clusterServices.select fun row =>
          row.id ∈ found.map (·.2) && row.deletedAt = none && isClusterIp row
      pure ((servicesByWorkload rsServices services found).reseed rs)

/-! ## Which services are found -/

/-- A cached service selects a catalog workload: it has selector rows in the namespace of the
workload's labels, and each of them is one of the labels. -/
def SelectsCatalogWorkload (db : Database Text) (clusterId serviceId workloadId : Uuid) : Prop :=
  ∃ workload, labelledWorkload (db.catalogWorkloadLabels.select fun row => row.deletedAt = none)
      workloadId = some workload ∧
    (∃ row ∈ db.clusterServiceSelectors.rows,
      liveSelector clusterId workload.namespace row = true ∧ row.serviceId = serviceId) ∧
    ∀ row ∈ db.clusterServiceSelectors.rows, liveSelector clusterId workload.namespace row = true →
      row.serviceId = serviceId → workload.labels.lookup row.labelKey = some row.labelValue

section
variable {db : Database Text} {clusterId serviceId workloadId : Uuid} {workloadIds : List Uuid}
  {labelled : List LabelledWorkload}

theorem id_of_labelledWorkload {rows : List KubeAppCatalogWorkloadLabel.Model}
    {workload : LabelledWorkload} (h : labelledWorkload rows workloadId = some workload) :
    workload.id = workloadId := by
  unfold labelledWorkload at h
  split at h
  · cases h
  · cases h
    rfl

/-- The label rows of the other workloads do not matter. -/
theorem labelledWorkload_select (h : workloadId ∈ workloadIds) :
    labelledWorkload (db.catalogWorkloadLabels.select fun row =>
        row.workloadId ∈ workloadIds && row.deletedAt = none) workloadId =
      labelledWorkload (db.catalogWorkloadLabels.select fun row => row.deletedAt = none)
        workloadId := by
  unfold labelledWorkload
  have hrows : (db.catalogWorkloadLabels.select fun row =>
      row.workloadId ∈ workloadIds && row.deletedAt = none).filter
        (fun row => row.workloadId = workloadId) =
      (db.catalogWorkloadLabels.select fun row => row.deletedAt = none).filter
        (fun row => row.workloadId = workloadId) := by
    rw [Table.select, Table.select, List.filter_filter, List.filter_filter]
    refine List.filter_congr fun row _ => ?_
    by_cases hid : row.workloadId = workloadId
    · simp [hid, h]
    · simp [hid]
  rw [hrows]

/-- The rows of a namespace match a service exactly if they are all among the labels. -/
theorem mem_matchingServiceIds {labels : BTreeMap String String}
    {rows : List KubeClusterServiceSelector.Model} :
    serviceId ∈ matchingServiceIds labels rows ↔
      (∃ row ∈ rows, row.serviceId = serviceId) ∧
        ∀ row ∈ rows, row.serviceId = serviceId →
          labels.lookup row.labelKey = some row.labelValue := by
  unfold matchingServiceIds
  rw [List.mem_filter, List.mem_dedup, List.mem_map, List.all_eq_true]
  simp only [List.mem_filter, decide_eq_true_eq, and_imp]

/-- What one namespace finds. -/
def foundInNamespace (db : Database Text) (clusterId : Uuid) (labelled : List LabelledWorkload)
    («namespace» : String) : List (Uuid × Uuid) :=
  match ((matchNamespace clusterId labelled [] «namespace»).run db).1 with
  | .ok found => found
  | .error _ => []

theorem run_matchNamespace (found : List (Uuid × Uuid)) («namespace» : String) :
    (matchNamespace clusterId labelled found «namespace»).run db =
      (.ok (found ++ foundInNamespace db clusterId labelled «namespace»), db) :=
  rfl

/-- A namespace finds the services that select its workloads: a service that selects one of them
is a candidate. -/
theorem mem_foundInNamespace {«namespace» : String} :
    (workloadId, serviceId) ∈ foundInNamespace db clusterId labelled «namespace» ↔
      ∃ workload ∈ labelled, workload.namespace = «namespace» ∧ workload.id = workloadId ∧
        (∃ row ∈ db.clusterServiceSelectors.rows,
          liveSelector clusterId «namespace» row = true ∧ row.serviceId = serviceId) ∧
        ∀ row ∈ db.clusterServiceSelectors.rows, liveSelector clusterId «namespace» row = true →
          row.serviceId = serviceId → workload.labels.lookup row.labelKey = some row.labelValue := by
  have hfound : foundInNamespace db clusterId labelled «namespace» =
      [] ++ (labelled.filter fun workload => workload.namespace = «namespace»).flatMap
        fun workload => (matchingServiceIds workload.labels
          (db.clusterServiceSelectors.select fun row => liveSelector clusterId «namespace» row &&
            row.serviceId ∈ (db.clusterServiceSelectors.select fun row =>
              liveSelector clusterId «namespace» row &&
                (labelled.filter fun workload => workload.namespace = «namespace»).any
                  fun workload => workload.labels.lookup row.labelKey =
                    some row.labelValue).map (·.serviceId))).map
          fun serviceId => (workload.id, serviceId) := rfl
  rw [hfound, List.nil_append, List.mem_flatMap]
  constructor
  · rintro ⟨workload, hworkload, hpair⟩
    obtain ⟨id, hid, heq⟩ := List.mem_map.1 hpair
    cases heq
    obtain ⟨hmem, hns⟩ := List.mem_filter.1 hworkload
    obtain ⟨⟨row, hrow, hserviceId⟩, hall⟩ := mem_matchingServiceIds.1 hid
    obtain ⟨hrow, hp⟩ := Table.mem_select.1 hrow
    obtain ⟨hlive, hcandidate⟩ := Bool.and_eq_true_iff.1 hp
    refine ⟨workload, hmem, of_decide_eq_true hns, rfl, ⟨row, hrow, hlive, hserviceId⟩, ?_⟩
    intro row' hrow' hlive' hserviceId'
    refine hall row' (Table.mem_select.2 ⟨hrow', Bool.and_eq_true_iff.2 ⟨hlive', ?_⟩⟩) hserviceId'
    rw [hserviceId', ← hserviceId]
    exact hcandidate
  · rintro ⟨workload, hmem, hns, rfl, ⟨row, hrow, hlive, hserviceId⟩, hall⟩
    have hworkload : workload ∈ labelled.filter fun workload => workload.namespace = «namespace» :=
      List.mem_filter.2 ⟨hmem, decide_eq_true hns⟩
    have hcandidate : serviceId ∈ (db.clusterServiceSelectors.select fun row =>
        liveSelector clusterId «namespace» row &&
          (labelled.filter fun workload => workload.namespace = «namespace»).any
            fun workload => workload.labels.lookup row.labelKey =
              some row.labelValue).map (·.serviceId) := by
      refine List.mem_map.2 ⟨row, Table.mem_select.2 ⟨hrow, Bool.and_eq_true_iff.2 ⟨hlive, ?_⟩⟩,
        hserviceId⟩
      exact List.any_eq_true.2 ⟨workload, hworkload, decide_eq_true (hall row hrow hlive hserviceId)⟩
    refine ⟨workload, hworkload, List.mem_map.2 ⟨serviceId, mem_matchingServiceIds.2 ⟨⟨row,
      Table.mem_select.2 ⟨hrow, ?_⟩, hserviceId⟩, ?_⟩, rfl⟩⟩
    · rw [hlive, hserviceId]
      simpa using hcandidate
    · intro row' hrow' hserviceId'
      obtain ⟨hrow', hp⟩ := Table.mem_select.1 hrow'
      exact hall row' hrow' (Bool.and_eq_true_iff.1 hp).1 hserviceId'

/-- The namespaces together find the services that select the workloads. -/
theorem mem_found (rows : List KubeAppCatalogWorkloadLabel.Model)
    (hrows : rows = db.catalogWorkloadLabels.select fun row =>
      row.workloadId ∈ workloadIds && row.deletedAt = none)
    (hlabelled : labelled = workloadIds.filterMap (labelledWorkload rows)) :
    (workloadId, serviceId) ∈ ((labelled.map (·.namespace)).dedup.flatMap
        (foundInNamespace db clusterId labelled)) ↔
      workloadId ∈ workloadIds ∧ SelectsCatalogWorkload db clusterId serviceId workloadId := by
  have hmem : ∀ {workload : LabelledWorkload}, workload ∈ labelled ↔
      workload.id ∈ workloadIds ∧ labelledWorkload (db.catalogWorkloadLabels.select fun row =>
        row.deletedAt = none) workload.id = some workload := by
    intro workload
    rw [hlabelled, hrows, List.mem_filterMap]
    constructor
    · rintro ⟨id, hid, h⟩
      have heq := id_of_labelledWorkload h
      rw [labelledWorkload_select hid] at h
      exact ⟨heq ▸ hid, heq ▸ h⟩
    · rintro ⟨hid, h⟩
      exact ⟨workload.id, hid, (labelledWorkload_select hid).trans h⟩
  simp only [List.mem_flatMap, List.mem_dedup, List.mem_map, mem_foundInNamespace]
  constructor
  · rintro ⟨_, -, workload, hworkload, rfl, rfl, hany, hall⟩
    obtain ⟨hid, h⟩ := hmem.1 hworkload
    exact ⟨hid, workload, h, hany, hall⟩
  · rintro ⟨hid, workload, h, hany, hall⟩
    have heq := id_of_labelledWorkload h
    have hworkload : workload ∈ labelled := hmem.2 ⟨heq ▸ hid, heq ▸ h⟩
    exact ⟨_, ⟨workload, hworkload, rfl⟩, workload, hworkload, rfl, heq, hany, hall⟩

/-- The services of a workload in the table of a list of pairs. -/
theorem mem_servicesByWorkload {rs : Uuid → RandomState Uuid}
    {services : List (KubeClusterService.Model Text)} {found : List (Uuid × Uuid)}
    (hunique : ∀ row ∈ services, ∀ row' ∈ services, row.id = row'.id → row = row')
    {service : CachedClusterService Text} :
    (∃ l, (servicesByWorkload rs services found).lookup workloadId = some l ∧ service ∈ l) ↔
      ∃ row ∈ services, (workloadId, row.id) ∈ found ∧ service = cachedService row := by
  let ofWorkload (workloadId : Uuid) : List (CachedClusterService Text) :=
    ((rs workloadId).arrange ((found.filter fun pair => pair.1 = workloadId).map
      (·.2)).dedup).filterMap fun serviceId =>
        (services.find? fun row => row.id = serviceId).map cachedService
  have hentries : ∀ {l}, (workloadId, l) ∈ ((found.map (·.1)).dedup.filterMap fun workloadId =>
      if (ofWorkload workloadId).isEmpty then none else some (workloadId, ofWorkload workloadId)) ↔
        workloadId ∈ found.map (·.1) ∧ ofWorkload workloadId ≠ [] ∧ l = ofWorkload workloadId := by
    intro l
    rw [List.mem_filterMap]
    constructor
    · rintro ⟨id, hid, h⟩
      split at h
      · cases h
      · next hne =>
        cases h
        exact ⟨List.mem_dedup.1 hid, fun heq => hne (by rw [heq]; rfl), rfl⟩
    · rintro ⟨hid, hne, rfl⟩
      exact ⟨workloadId, List.mem_dedup.2 hid, if_neg (by simpa using hne)⟩
  have hservice : service ∈ ofWorkload workloadId ↔
      ∃ row ∈ services, (workloadId, row.id) ∈ found ∧ service = cachedService row := by
    simp only [ofWorkload, List.mem_filterMap, RandomState.mem_arrange, List.mem_dedup,
      List.mem_map, List.mem_filter, decide_eq_true_eq, Option.map_eq_some_iff]
    constructor
    · rintro ⟨_, ⟨pair, ⟨hpair, rfl⟩, rfl⟩, row, hrow, rfl⟩
      have hid := List.find?_some hrow
      refine ⟨row, List.mem_of_find?_eq_some hrow, ?_, rfl⟩
      rw [of_decide_eq_true hid]
      exact hpair
    · rintro ⟨row, hrow, hpair, rfl⟩
      refine ⟨row.id, ⟨_, ⟨hpair, rfl⟩, rfl⟩, row, ?_, rfl⟩
      cases hfind : services.find? fun row' => row'.id = row.id with
      | none => exact absurd (decide_eq_true rfl) (List.find?_eq_none.1 hfind row hrow)
      | some row' =>
        have hid : decide (row'.id = row.id) = true := by
          simpa using List.find?_some hfind
        rw [hunique row' (List.mem_of_find?_eq_some hfind) row hrow (of_decide_eq_true hid)]
  rw [← hservice]
  constructor
  · rintro ⟨l, hl, hmem⟩
    obtain ⟨-, -, rfl⟩ := hentries.1 (HashTable.mem_of_lookup_collect hl)
    exact hmem
  · intro hmem
    obtain ⟨row, -, hpair, -⟩ := hservice.1 hmem
    have hentry := hentries.2 ⟨List.mem_map_of_mem (f := (·.1)) hpair, List.ne_nil_of_mem hmem, rfl⟩
    obtain ⟨l, hl⟩ := HashTable.exists_lookup_collect hentry
    obtain ⟨-, -, rfl⟩ := hentries.1 (HashTable.mem_of_lookup_collect hl)
    exact ⟨_, hl, hmem⟩

/-- **The services of catalog workloads.** The query leaves the database and returns, for each of
the workloads, the live services reachable inside the cluster that select it. -/
theorem run_getServicesForCatalogWorkloads
    (rs : RandomState ((_ : Uuid) × List (CachedClusterService Text)))
    (rsServices : Uuid → RandomState Uuid) (db : Database Text) (clusterId : Uuid)
    (workloadIds : List Uuid) :
    ∃ result, (getServicesForCatalogWorkloads rs rsServices clusterId workloadIds).run db =
        (.ok result, db) ∧
      ∀ workloadId service, (∃ l, result.lookup workloadId = some l ∧ service ∈ l) ↔
        workloadId ∈ workloadIds ∧ ∃ row ∈ db.clusterServices.rows, row.deletedAt = none ∧
          isClusterIp row = true ∧ SelectsCatalogWorkload db clusterId row.id workloadId ∧
          service = cachedService row := by
  unfold getServicesForCatalogWorkloads
  split
  · next hempty =>
    refine ⟨∅, rfl, fun workloadId service => ?_⟩
    rw [List.isEmpty_iff.1 hempty]
    simp
  rw [Program.run_bind, Program.run_read]
  dsimp only
  rw [Program.run_bind, Program.run_foldEach_of_unchanged fun found ns =>
    run_matchNamespace found ns, ← List.flatMap_eq_foldl]
  dsimp only
  set labelled := workloadIds.filterMap (labelledWorkload (db.catalogWorkloadLabels.select fun row =>
    row.workloadId ∈ workloadIds && row.deletedAt = none)) with hlabelled
  have hfound : ∀ {workloadId serviceId}, (workloadId, serviceId) ∈
      ((labelled.map (·.namespace)).dedup.flatMap (foundInNamespace db clusterId labelled)) ↔
      workloadId ∈ workloadIds ∧ SelectsCatalogWorkload db clusterId serviceId workloadId :=
    mem_found _ rfl hlabelled
  set found := (labelled.map (·.namespace)).dedup.flatMap (foundInNamespace db clusterId labelled)
  split
  · next hempty =>
    refine ⟨∅, rfl, fun workloadId service => ?_⟩
    rw [List.isEmpty_iff.1 hempty] at hfound
    constructor
    · rintro ⟨l, hl, -⟩
      simp at hl
    · rintro ⟨hid, row, -, -, -, hselects, -⟩
      exact absurd (hfound.2 ⟨hid, hselects⟩) List.not_mem_nil
  · refine ⟨_, rfl, fun workloadId service => ?_⟩
    simp only [HashTable.lookup_reseed]
    rw [mem_servicesByWorkload]
    · constructor
      · rintro ⟨row, hrow, hpair, rfl⟩
        obtain ⟨hrow, hp⟩ := Table.mem_select.1 hrow
        simp only [Bool.and_eq_true, decide_eq_true_eq] at hp
        obtain ⟨hid, hselects⟩ := hfound.1 hpair
        exact ⟨hid, row, hrow, hp.1.2, hp.2, hselects, rfl⟩
      · rintro ⟨hid, row, hrow, hdel, hip, hselects, rfl⟩
        have hpair := hfound.2 ⟨hid, hselects⟩
        refine ⟨row, Table.mem_select.2 ⟨hrow, ?_⟩, hpair, rfl⟩
        simp only [Bool.and_eq_true, decide_eq_true_eq]
        exact ⟨⟨List.mem_map_of_mem (f := (·.2)) hpair, hdel⟩, hip⟩
    · intro row hrow row' hrow' hid
      exact Table.eq_of_conflict (Table.mem_select.1 hrow).1 (Table.mem_select.1 hrow').1 (.inl hid)

end

end DbApi

end Lapdev
