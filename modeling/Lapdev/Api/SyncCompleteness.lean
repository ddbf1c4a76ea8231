import Lapdev.Api.CatalogCalls
import Lapdev.Api.EnvironmentCreation
import Lapdev.Api.SyncServices

/-!
# Complete syncs

A creation and a sync whose catalog is `Distinguished` keep `Sound`, and the workloads the sync
leaves correspond to those of the catalog (`sync_corresponds`). The runs of all the calls follow
(`complete_of_run`): in a run whose creations and syncs find distinguished catalogs, every sync is
complete. A catalog with a Deployment and a StatefulSet of one name is the counterexample: the sync
of the changed Deployment replaces both.
-/

namespace Lapdev

open RustStd Sql Programs Runs

variable {Text : Type}

namespace KubeController

/-! ## Names and kinds -/

/-- A detail is made of some workload. -/
theorem exists_workload_of_detail {«namespace» : String}
    {workloads : List (KubeAppCatalogWorkload Text)} {details : List (NewEnvironmentWorkload Text)}
    (h : List.Forall₂ (DetailOf «namespace») workloads details) {d : NewEnvironmentWorkload Text}
    (hd : d ∈ details) : ∃ workload ∈ workloads, DetailOf «namespace» workload d := by
  induction h with
  | nil => exact absurd hd List.not_mem_nil
  | cons hof _ ih =>
    rcases List.mem_cons.1 hd with rfl | hd
    · exact ⟨_, List.mem_cons_self, hof⟩
    · obtain ⟨workload, hworkload, hof⟩ := ih hd
      exact ⟨workload, List.mem_cons_of_mem _ hworkload, hof⟩

/-- A workload has a detail. -/
theorem exists_detail_of_workload {«namespace» : String}
    {workloads : List (KubeAppCatalogWorkload Text)} {details : List (NewEnvironmentWorkload Text)}
    (h : List.Forall₂ (DetailOf «namespace») workloads details)
    {workload : KubeAppCatalogWorkload Text} (hworkload : workload ∈ workloads) :
    ∃ d ∈ details, DetailOf «namespace» workload d := by
  induction h with
  | nil => exact absurd hworkload List.not_mem_nil
  | cons hof _ ih =>
    rcases List.mem_cons.1 hworkload with rfl | hworkload
    · exact ⟨_, List.mem_cons_self, hof⟩
    · obtain ⟨d, hd, hof⟩ := ih hworkload
      exact ⟨d, List.mem_cons_of_mem _ hd, hof⟩

section
variable {isEmpty : Text → Bool} {db db' : Database Text} {catalogId : Uuid}

/-- All the live workloads of a distinguished catalog are read. -/
theorem Distinguished.read_eq (h : Distinguished isEmpty db catalogId) :
    DbApi.readCatalogWorkloads isEmpty catalogId db =
      (db.catalogWorkloads.select (DbApi.liveOf catalogId)).map DbApi.catalogWorkload := by
  unfold DbApi.readCatalogWorkloads
  rw [List.filter_eq_self.2 fun row hrow => by rw [h.yaml row hrow]; rfl]

theorem Distinguished.nodup_read (h : Distinguished isEmpty db catalogId) :
    ((DbApi.readCatalogWorkloads isEmpty catalogId db).map (·.name)).Nodup := by
  rw [h.read_eq, List.map_map]
  exact h.names

/-- Two workloads of a distinguished catalog with one name are one. -/
theorem Distinguished.eq_of_name (h : Distinguished isEmpty db catalogId)
    {row row' : KubeAppCatalogWorkload.Model Text}
    (hrow : row ∈ db.catalogWorkloads.rows) (hlive : DbApi.liveOf catalogId row = true)
    (hrow' : row' ∈ db.catalogWorkloads.rows) (hlive' : DbApi.liveOf catalogId row' = true)
    (hname : row.name = row'.name) : row = row' :=
  List.inj_on_of_nodup_map h.names (Table.mem_select.2 ⟨hrow, hlive⟩)
    (Table.mem_select.2 ⟨hrow', hlive'⟩) hname

theorem Distinguished.congr (h : Distinguished isEmpty db catalogId)
    (hcatalogs : db'.catalogWorkloads = db.catalogWorkloads) :
    Distinguished isEmpty db' catalogId := by
  refine ⟨?_, ?_⟩ <;> rw [hcatalogs]
  · exact h.names
  · exact h.yaml

/-- What is read of a live workload. -/
theorem Distinguished.mem_read (h : Distinguished isEmpty db catalogId)
    {row : KubeAppCatalogWorkload.Model Text}
    (hrow : row ∈ db.catalogWorkloads.rows) (hlive : DbApi.liveOf catalogId row = true) :
    DbApi.catalogWorkload row ∈ DbApi.readCatalogWorkloads isEmpty catalogId db := by
  rw [h.read_eq]
  exact List.mem_map_of_mem (Table.mem_select.2 ⟨hrow, hlive⟩)

theorem exists_row_of_mem_read {workload : KubeAppCatalogWorkload Text}
    (h : workload ∈ DbApi.readCatalogWorkloads isEmpty catalogId db) :
    ∃ row ∈ db.catalogWorkloads.rows, DbApi.liveOf catalogId row = true ∧
      workload = DbApi.catalogWorkload row := by
  obtain ⟨row, hrow, rfl⟩ := List.mem_map.1 h
  obtain ⟨hmem, hlive⟩ := Table.mem_select.1 (List.mem_filter.1 hrow).1
  exact ⟨row, hmem, hlive, rfl⟩

/-- The kind that is read is the one that is stored. -/
theorem Sound.toString_kind {unbumped : Option Uuid} {unstamped : List Uuid}
    (h : Sound unbumped unstamped db) {row : KubeAppCatalogWorkload.Model Text}
    (hrow : row ∈ db.catalogWorkloads.rows) :
    (DbApi.catalogWorkload row).kind.toString = row.kind := by
  obtain ⟨kind, hkind⟩ := h.kind row hrow
  rw [DbApi.catalogWorkload, hkind, KubeWorkloadKind.parse_toString]
  rfl

/-- Equal names and kinds on both sides, each name once, are a correspondence. -/
theorem corresponds_of_same {environmentId : Uuid}
    (hsame : SameWorkloads db environmentId catalogId)
    (hnames : ∀ row ∈ db.environmentWorkloads.rows, ∀ row' ∈ db.environmentWorkloads.rows,
      liveIn environmentId row = true → liveIn environmentId row' = true → row.name = row'.name →
        row = row')
    (hcatalog : Distinguished isEmpty db catalogId) : Corresponds db environmentId catalogId := by
  refine (List.perm_ext_iff_of_nodup ?_ ?_).2 fun p => ?_
  · refine List.Nodup.map_on (fun row hrow row' hrow' heq => ?_) ?_
    · obtain ⟨hmem, hlive⟩ := Table.mem_select.1 hrow
      obtain ⟨hmem', hlive'⟩ := Table.mem_select.1 hrow'
      exact hnames row hmem row' hmem' hlive hlive' (congrArg Prod.fst heq)
    · refine List.Nodup.filter _ (db.environmentWorkloads.unique.imp fun hne heq => hne ?_)
      exact .inl (congrArg _ heq)
  · refine List.Nodup.of_map Prod.fst ?_
    rw [List.map_map]
    exact hcatalog.names
  · obtain ⟨name, kind⟩ := p
    have := hsame name kind
    simp only [List.mem_map, Table.mem_select, Prod.mk.injEq, and_assoc]
    exact this

end

/-! ## Environments that a call leaves, and those it fills -/

section
variable {isEmpty : Text → Bool} {unstamped : List Uuid} {db db' : Database Text}
  {environment environment' : KubeEnvironment.Model} {catalog : KubeAppCatalog.Model}

theorem Tracks.of_rows (h : Tracks unstamped db environment catalog)
    (hid : environment'.id = environment.id)
    (hversion : environment'.catalogSyncVersion = environment.catalogSyncVersion)
    (hrows : ∀ row, liveIn environment.id row = true →
      (row ∈ db'.environmentWorkloads.rows ↔ row ∈ db.environmentWorkloads.rows))
    (hcatalogs : db'.catalogWorkloads = db.catalogWorkloads) :
    Tracks unstamped db' environment' catalog := by
  refine ⟨hversion ▸ h.version, ?_, ?_, ?_⟩ <;> rw [hid]
  · exact fun row hrow hlive => h.versions row ((hrows row hlive).1 hrow) hlive
  · exact fun row hrow row' hrow' hlive hlive' =>
      h.names row ((hrows row hlive).1 hrow) row' ((hrows row' hlive').1 hrow') hlive hlive'
  · rw [hcatalogs]
    exact fun row hrow hlive => h.kinds row ((hrows row hlive).1 hrow) hlive

theorem SameWorkloads.of_rows {environmentId catalogId : Uuid}
    (h : SameWorkloads db environmentId catalogId)
    (hrows : ∀ row, liveIn environmentId row = true →
      (row ∈ db'.environmentWorkloads.rows ↔ row ∈ db.environmentWorkloads.rows))
    (hcatalogs : db'.catalogWorkloads = db.catalogWorkloads) :
    SameWorkloads db' environmentId catalogId := by
  intro name kind
  rw [hcatalogs, ← h name kind]
  refine exists_congr fun row => ?_
  constructor
  · exact fun ⟨hrow, hlive, hkeys⟩ => ⟨(hrows row hlive).1 hrow, hlive, hkeys⟩
  · exact fun ⟨hrow, hlive, hkeys⟩ => ⟨(hrows row hlive).2 hrow, hlive, hkeys⟩

/-- An environment with the workloads of its distinguished catalog tracks it. -/
theorem Tracks.of_same (hsame : SameWorkloads db environment.id catalog.id)
    (hcatalog : Distinguished isEmpty db catalog.id)
    (hversion : environment.catalogSyncVersion = catalog.syncVersion)
    (hversions : ∀ row ∈ db.environmentWorkloads.rows, liveIn environment.id row = true →
      row.catalogSyncVersion ≤ catalog.syncVersion)
    (hnames : ∀ row ∈ db.environmentWorkloads.rows, ∀ row' ∈ db.environmentWorkloads.rows,
      liveIn environment.id row = true → liveIn environment.id row' = true → row.name = row'.name →
        row = row') : Tracks unstamped db environment catalog := by
  refine ⟨hversion.le, hversions, hnames, fun row hrow hlive workload hworkload hliveOf _ hname => ?_⟩
  obtain ⟨workload', hworkload', hliveOf', hname', hkind'⟩ :=
    (hsame row.name row.kind).1 ⟨row, hrow, hlive, rfl, rfl⟩
  rw [hcatalog.eq_of_name hworkload hliveOf hworkload' hliveOf' (hname.symm.trans hname'.symm)]
  exact .inl hkind'.symm

end

/-! ## Creations -/

section
variable {isEmpty : Text → Bool} {db db' : Database Text} {environment : KubeEnvironment.Model}
  {catalog : KubeAppCatalog.Model} {details : List (NewEnvironmentWorkload Text)}
  {rows : List (KubeEnvironmentWorkload.Model Text)} {now : Timestamp}

/-- The id of a created environment is new. -/
theorem Created.fresh (h : Created environment rows db db') {environment₀ : KubeEnvironment.Model}
    (hmem : environment₀ ∈ db.environments.rows) : environment₀.id ≠ environment.id := by
  have hunique := db'.environments.unique
  rw [h.environments, List.pairwise_append] at hunique
  exact fun heq => hunique.2.2 environment₀ hmem environment List.mem_cons_self (.inl heq)

/-- The workload rows of the environments that were there are as before. -/
theorem Created.mem_of_old (h : Created environment rows db db')
    (hrows : ∀ row ∈ rows, row.environmentId = environment.id)
    {environment₀ : KubeEnvironment.Model} (hmem : environment₀ ∈ db.environments.rows)
    {row : KubeEnvironmentWorkload.Model Text} (hrow : row.environmentId = environment₀.id) :
    row ∈ db'.environmentWorkloads.rows ↔ row ∈ db.environmentWorkloads.rows := by
  rw [h.environmentWorkloads, List.mem_append]
  exact or_iff_left fun hnew => h.fresh hmem (hrow.symm.trans (hrows row hnew))

/-- The workload rows of a created environment are the new ones. -/
theorem Created.mem_of_new (hdb : Sound none [] db) (h : Created environment rows db db')
    {row : KubeEnvironmentWorkload.Model Text} (hrow : row.environmentId = environment.id) :
    row ∈ db'.environmentWorkloads.rows ↔ row ∈ rows := by
  rw [h.environmentWorkloads, List.mem_append]
  refine or_iff_right fun hold => ?_
  obtain ⟨environment₀, hmem, hid⟩ := hdb.environmentOf row hold
  exact h.fresh hmem (hid.trans hrow)

/-- A created environment has the workloads of its distinguished catalog. -/
theorem Created.sameWorkloads {«namespace» : String} {version : Int} (hdb : Sound none [] db)
    (hcatalog : Distinguished isEmpty db catalog.id)
    (hdetails : List.Forall₂ (DetailOf «namespace»)
      (DbApi.readCatalogWorkloads isEmpty catalog.id db) details)
    (h : Created environment (details.map fun workload =>
      DbApi.workloadModel environment.id workload version now) db db') :
    SameWorkloads db' environment.id catalog.id := by
  intro name kind
  rw [h.catalogWorkloads]
  constructor
  · rintro ⟨row, hrow, hlive, rfl, rfl⟩
    obtain ⟨d, hd, rfl⟩ := List.mem_map.1 ((h.mem_of_new hdb (mem_liveIn.1 hlive).1).1 hrow)
    obtain ⟨workload, hworkload, hof⟩ := exists_workload_of_detail hdetails hd
    obtain ⟨row, hmem, hliveOf, rfl⟩ := exists_row_of_mem_read hworkload
    refine ⟨row, hmem, hliveOf, hof.name.symm, ?_⟩
    rw [← hdb.toString_kind hmem, ← hof.kind]
    rfl
  · rintro ⟨row, hmem, hliveOf, rfl, rfl⟩
    obtain ⟨d, hd, hof⟩ := exists_detail_of_workload hdetails (hcatalog.mem_read hmem hliveOf)
    refine ⟨_, (h.mem_of_new hdb rfl).2 (List.mem_map_of_mem hd), mem_liveIn.2 ⟨rfl, rfl⟩, hof.name,
      ?_⟩
    rw [← hdb.toString_kind hmem, ← hof.kind]
    rfl

/-- The workloads of a created environment have different names. -/
theorem Created.eq_of_name {«namespace» : String} {version : Int} (hdb : Sound none [] db)
    (hcatalog : Distinguished isEmpty db catalog.id)
    (hdetails : List.Forall₂ (DetailOf «namespace»)
      (DbApi.readCatalogWorkloads isEmpty catalog.id db) details)
    (h : Created environment (details.map fun workload =>
      DbApi.workloadModel environment.id workload version now) db db') :
    ∀ row ∈ db'.environmentWorkloads.rows, ∀ row' ∈ db'.environmentWorkloads.rows,
      liveIn environment.id row = true → liveIn environment.id row' = true → row.name = row'.name →
        row = row' := by
  intro row hrow row' hrow' hlive hlive' hname
  obtain ⟨d, hd, rfl⟩ := List.mem_map.1 ((h.mem_of_new hdb (mem_liveIn.1 hlive).1).1 hrow)
  obtain ⟨d', hd', rfl⟩ := List.mem_map.1 ((h.mem_of_new hdb (mem_liveIn.1 hlive').1).1 hrow')
  have hnodup := hcatalog.nodup_read
  rw [← map_name_of_detailOf hdetails] at hnodup
  rw [List.inj_on_of_nodup_map hnodup hd hd' hname]

/-- A creation from a distinguished catalog keeps `Sound`. -/
theorem Sound.of_created {«namespace» : String} (hdb : Sound none [] db)
    (hcatalog : Distinguished isEmpty db catalog.id) (hmem : catalog ∈ db.appCatalogs.rows)
    (hcatalogId : environment.appCatalogId = catalog.id)
    (hversion : environment.catalogSyncVersion = catalog.syncVersion)
    (hdetails : List.Forall₂ (DetailOf «namespace»)
      (DbApi.readCatalogWorkloads isEmpty catalog.id db) details)
    (h : Created environment (details.map fun workload =>
      DbApi.workloadModel environment.id workload catalog.syncVersion now) db db') :
    Sound none [] db' := by
  have hrows : ∀ row ∈ details.map fun workload =>
      DbApi.workloadModel environment.id workload catalog.syncVersion now,
      row.environmentId = environment.id ∧ row.catalogSyncVersion = catalog.syncVersion ∧
        row.baseWorkloadId = some row.id := by
    intro row hrow
    obtain ⟨d, hd, rfl⟩ := List.mem_map.1 hrow
    refine ⟨rfl, rfl, ?_⟩
    obtain ⟨workload, -, hof⟩ := exists_workload_of_detail hdetails hd
    rw [DbApi.workloadModel, hof.baseWorkloadId]
    rfl
  have hsame := h.sameWorkloads hdb hcatalog hdetails
  have hold : ∀ environment₀ ∈ db.environments.rows, ∀ row, liveIn environment₀.id row = true →
      (row ∈ db'.environmentWorkloads.rows ↔ row ∈ db.environmentWorkloads.rows) :=
    fun _ hmem₀ _ hlive => h.mem_of_old (fun row hrow => (hrows row hrow).1) hmem₀ (mem_liveIn.1 hlive).1
  have henvironments : ∀ {environment'}, environment' ∈ db'.environments.rows ↔
      environment' ∈ db.environments.rows ∨ environment' = environment := by
    intro environment'
    rw [h.environments, List.mem_append, List.mem_singleton]
  -- a subject is one of before, or the new environment with its catalog
  have hsubject : ∀ {environment' catalog'}, SyncSubject db' environment'.id environment' catalog' →
      SyncSubject db environment'.id environment' catalog' ∨
        (environment' = environment ∧ catalog' = catalog) := by
    intro environment' catalog' hs
    have hcatalogMem : catalog' ∈ db.appCatalogs.rows := h.appCatalogs ▸ hs.catalog_mem
    rcases henvironments.1 hs.environment_mem with hmem₀ | rfl
    · exact .inl ⟨hmem₀, rfl, hs.environment_live, hs.notBranch, hcatalogMem, hs.catalog_id,
        hs.catalog_live⟩
    · exact .inr ⟨rfl, Table.eq_of_conflict hcatalogMem hmem (hs.catalog_id.trans hcatalogId)⟩
  refine ⟨fun row hrow => ?_, fun environment' henvironment => ?_, fun row hrow hdel environment'
    henvironment hid hbranch => ?_, h.catalogWorkloads ▸ hdb.kind, fun environment' catalog' hs => ?_,
    fun environment' catalog' hs _ hcurrent => ?_⟩
  · rw [h.environmentWorkloads, List.mem_append] at hrow
    rcases hrow with hrow | hrow
    · obtain ⟨environment₀, hmem₀, hid⟩ := hdb.environmentOf row hrow
      exact ⟨environment₀, henvironments.2 (.inl hmem₀), hid⟩
    · exact ⟨environment, henvironments.2 (.inr rfl), (hrows row hrow).1.symm⟩
  · rw [h.appCatalogs]
    rcases henvironments.1 henvironment with hmem₀ | rfl
    · exact hdb.catalogOf environment' hmem₀
    · exact ⟨catalog, hmem, hcatalogId.symm⟩
  · rcases henvironments.1 henvironment with hmem₀ | rfl
    · have hlive := mem_liveIn.2 ⟨hid.symm, hdel⟩
      exact hdb.base row ((hold environment' hmem₀ row hlive).1 hrow) hdel environment' hmem₀ hid hbranch
    · exact .inr (hrows row ((h.mem_of_new hdb hid.symm).1 hrow)).2.2
  · rcases hsubject hs with hs₀ | ⟨rfl, rfl⟩
    · exact (hdb.tracks environment' catalog' hs₀).of_rows rfl rfl
        (hold environment' hs₀.environment_mem) h.catalogWorkloads
    · refine Tracks.of_same hsame (hcatalog.congr h.catalogWorkloads) hversion
        (fun row hrow hlive => ?_) (h.eq_of_name hdb hcatalog hdetails)
      exact (hrows row ((h.mem_of_new hdb (mem_liveIn.1 hlive).1).1 hrow)).2.1.le
  · rcases hsubject hs with hs₀ | ⟨rfl, rfl⟩
    · exact (hdb.current environment' catalog' hs₀ (by simp) hcurrent).of_rows
        (hold environment' hs₀.environment_mem) h.catalogWorkloads
    · exact hsame

end

/-! ## Syncs -/

section
variable {isEmpty : Text → Bool} {db db' : Database Text} {environment : KubeEnvironment.Model}
  {catalog : KubeAppCatalog.Model} {details : List (NewEnvironmentWorkload Text)} {now : Timestamp}

/-- A workload that is not deployed has a row of its name that is not older. -/
theorem exists_existing {workload : KubeAppCatalogWorkload Text}
    (hmem : workload ∈ DbApi.readCatalogWorkloads isEmpty catalog.id db)
    (hnot : workload ∉ toDeploy isEmpty db environment catalog) :
    ∃ row ∈ db.environmentWorkloads.rows, liveIn environment.id row = true ∧
      row.name = workload.name ∧ ¬row.catalogSyncVersion < workload.catalogSyncVersion := by
  unfold toDeploy workloadsToDeploy at hnot
  rw [List.mem_filter, not_and] at hnot
  replace hnot := hnot hmem
  split at hnot
  · next row hlookup =>
    obtain ⟨row', hrow', heq⟩ := List.mem_map.1 (HashTable.mem_of_lookup_collect hlookup)
    obtain ⟨hname, rfl⟩ := Prod.mk.inj heq
    obtain ⟨hmem', hlive⟩ := Table.mem_select.1 hrow'
    exact ⟨row', hmem', hlive, hname, by simpa using hnot⟩
  · exact absurd rfl hnot

theorem toDeploy_subset {workload : KubeAppCatalogWorkload Text}
    (h : workload ∈ toDeploy isEmpty db environment catalog) :
    workload ∈ DbApi.readCatalogWorkloads isEmpty catalog.id db := List.mem_of_mem_filter h

/-- The names of what is deployed from a distinguished catalog are distinct. -/
theorem SyncWrites.nodup_details (h : SyncWrites isEmpty db environment catalog now details db')
    (hcatalog : Distinguished isEmpty db catalog.id) : (details.map (·.details.name)).Nodup := by
  rw [map_name_of_detailOf h.deployed]
  exact hcatalog.nodup_read.sublist (List.filter_sublist.map _)

/-- A row that a sync writes is one of a detail. -/
theorem SyncWrites.newRows_iff (h : SyncWrites isEmpty db environment catalog now details db')
    (hcatalog : Distinguished isEmpty db catalog.id) (row : KubeEnvironmentWorkload.Model Text) :
    newRows environment.id environment.namespace catalog.syncVersion now details row ↔
      ∃ d ∈ details, row = syncedModel environment.id environment.namespace d catalog.syncVersion now := by
  rw [newRows, lastOfEachName_of_nodup (h.nodup_details hcatalog)]

/-- **A sync leaves the workloads of its catalog.** -/
theorem SyncWrites.sameWorkloads (hdb : Sound none [] db)
    (hsubject : SyncSubject db environment.id environment catalog)
    (hcatalog : Distinguished isEmpty db catalog.id)
    (h : SyncWrites isEmpty db environment catalog now details db') :
    SameWorkloads db' environment.id catalog.id := by
  have htracks := hdb.tracks environment catalog hsubject
  intro name kind
  rw [h.catalogWorkloads]
  constructor
  · rintro ⟨row, hrow, hlive, rfl, rfl⟩
    rcases (h.live row hlive).1 hrow with ⟨hold, hread, hkept⟩ | hnew
    · -- a row that stays is not older than the workload of its name
      obtain ⟨workload, hworkload, hname⟩ := List.mem_map.1 hread
      have hnot : workload ∉ toDeploy isEmpty db environment catalog :=
        fun hdeploy => hkept workload hdeploy hname
      obtain ⟨row', hmem', hlive', hname', hle⟩ := exists_existing hworkload hnot
      have heq : row' = row := htracks.names row' hmem' row hold hlive' hlive (hname'.trans hname)
      obtain ⟨workloadRow, hmem, hliveOf, rfl⟩ := exists_row_of_mem_read hworkload
      refine ⟨workloadRow, hmem, hliveOf, hname, ?_⟩
      rcases htracks.kinds row hold hlive workloadRow hmem hliveOf List.not_mem_nil hname.symm with
        hkind | holder
      · exact hkind.symm
      · exact absurd (heq ▸ holder) hle
    · obtain ⟨d, hd, rfl⟩ := (h.newRows_iff hcatalog row).1 hnew
      obtain ⟨workload, hworkload, hof⟩ := exists_workload_of_detail h.deployed hd
      obtain ⟨workloadRow, hmem, hliveOf, rfl⟩ := exists_row_of_mem_read (toDeploy_subset hworkload)
      refine ⟨workloadRow, hmem, hliveOf, hof.name.symm, ?_⟩
      rw [← hdb.toString_kind hmem, ← hof.kind]
      rfl
  · rintro ⟨workloadRow, hmem, hliveOf, rfl, rfl⟩
    have hworkload := hcatalog.mem_read hmem hliveOf
    by_cases hdeploy : DbApi.catalogWorkload workloadRow ∈ toDeploy isEmpty db environment catalog
    · obtain ⟨d, hd, hof⟩ := exists_detail_of_workload h.deployed hdeploy
      have hlive : liveIn environment.id (syncedModel environment.id environment.namespace d
        catalog.syncVersion now) = true := mem_liveIn.2 ⟨rfl, rfl⟩
      refine ⟨_, (h.live _ hlive).2 (.inr ((h.newRows_iff hcatalog _).2 ⟨d, hd, rfl⟩)), hlive,
        hof.name, ?_⟩
      rw [← hdb.toString_kind hmem, ← hof.kind]
      rfl
    · obtain ⟨row, hold, hlive, hname, hle⟩ := exists_existing hworkload hdeploy
      refine ⟨row, (h.live row hlive).2 (.inl ⟨hold, ?_, fun workload hdeploy' hname' => ?_⟩), hlive,
        hname, ?_⟩
      · exact hname ▸ List.mem_map_of_mem hworkload
      · have heq := List.inj_on_of_nodup_map hcatalog.nodup_read (toDeploy_subset hdeploy') hworkload
          (hname'.trans hname)
        exact hdeploy (heq ▸ hdeploy')
      · exact (htracks.kinds row hold hlive workloadRow hmem hliveOf List.not_mem_nil
          hname).resolve_right hle

/-- The workloads of a synced environment have different names. -/
theorem SyncWrites.eq_of_name (hdb : Sound none [] db)
    (hsubject : SyncSubject db environment.id environment catalog)
    (hcatalog : Distinguished isEmpty db catalog.id)
    (h : SyncWrites isEmpty db environment catalog now details db') :
    ∀ row ∈ db'.environmentWorkloads.rows, ∀ row' ∈ db'.environmentWorkloads.rows,
      liveIn environment.id row = true → liveIn environment.id row' = true → row.name = row'.name →
        row = row' := by
  have hkeptNew : ∀ {row row' : KubeEnvironmentWorkload.Model Text},
      (∀ workload ∈ toDeploy isEmpty db environment catalog, workload.name ≠ row.name) →
        newRows environment.id environment.namespace catalog.syncVersion now details row' →
          row.name ≠ row'.name := by
    intro row row' hkept hnew hname
    obtain ⟨d, hd, rfl⟩ := (h.newRows_iff hcatalog row').1 hnew
    obtain ⟨workload, hworkload, hof⟩ := exists_workload_of_detail h.deployed hd
    exact hkept workload hworkload (hof.name.symm.trans hname.symm)
  intro row hrow row' hrow' hlive hlive' hname
  rcases (h.live row hlive).1 hrow with ⟨hold, -, hkept⟩ | hnew <;>
    rcases (h.live row' hlive').1 hrow' with ⟨hold', -, hkept'⟩ | hnew'
  · exact (hdb.tracks environment catalog hsubject).names row hold row' hold' hlive hlive' hname
  · exact absurd hname (hkeptNew hkept hnew')
  · exact absurd hname.symm (hkeptNew hkept' hnew)
  · obtain ⟨d, hd, rfl⟩ := (h.newRows_iff hcatalog row).1 hnew
    obtain ⟨d', hd', rfl⟩ := (h.newRows_iff hcatalog row').1 hnew'
    rw [List.inj_on_of_nodup_map (h.nodup_details hcatalog) hd hd' hname]

/-- A sync leaves the live rows of the other base environments: nothing of theirs is linked to a
workload of the synced environment. -/
theorem SyncWrites.mem_other (hdb : Sound none [] db)
    (h : SyncWrites isEmpty db environment catalog now details db')
    {environment₀ : KubeEnvironment.Model} (hmem : environment₀ ∈ db.environments.rows)
    (hbranch : environment₀.baseEnvironmentId = none) (hne : environment₀.id ≠ environment.id)
    {row : KubeEnvironmentWorkload.Model Text} (hlive : liveIn environment₀.id row = true) :
    row ∈ db'.environmentWorkloads.rows ↔ row ∈ db.environmentWorkloads.rows := by
  obtain ⟨replaced, hreplaced, hothers⟩ := h.others
  have hlinked : ∀ row ∈ db.environmentWorkloads.rows, liveIn environment₀.id row = true →
      replaced.foldl (linkRow environment.id catalog.syncVersion) row = row := by
    intro row hrow hlive
    obtain ⟨hid, hdel⟩ := mem_liveIn.1 hlive
    refine foldl_linkRow_of_forall_ne fun p hp hne' hbase => ?_
    rcases hdb.base row hrow hdel environment₀ hmem hid.symm hbranch with hnone | hself
    · rw [hnone] at hbase
      cases hbase
    · -- the row would have the id of a row of the synced environment
      obtain ⟨row₁, hrow₁, hid₁, henv₁⟩ := hreplaced p hp
      obtain ⟨_, _, heq⟩ := foldl_linkRow_eq environment.id catalog.syncVersion replaced row
      have hrow' := (hothers _ (by rw [heq]; exact hne')).2 ⟨row, hrow, rfl⟩
      have hsame := Table.eq_of_conflict hrow' hrow₁
        (.inl (by rw [heq, hid₁]; exact Option.some.inj (hself.symm.trans hbase)))
      rw [← hsame, heq] at henv₁
      exact hne' henv₁
  rw [hothers row ((mem_liveIn.1 hlive).1 ▸ hne)]
  constructor
  · rintro ⟨row₀, hrow₀, heq⟩
    obtain ⟨_, _, heq'⟩ := foldl_linkRow_eq environment.id catalog.syncVersion replaced row₀
    have hlive₀ : liveIn environment₀.id row₀ = true := by
      rw [heq, heq'] at hlive
      exact hlive
    rw [heq, hlinked row₀ hrow₀ hlive₀]
    exact hrow₀
  · exact fun hrow => ⟨row, hrow, (hlinked row hrow hlive).symm⟩

end

section
variable {isEmpty : Text → Bool} {db db' : Database Text} {environment : KubeEnvironment.Model}
  {catalog : KubeAppCatalog.Model} {details : List (NewEnvironmentWorkload Text)} {now : Timestamp}
  {f : KubeEnvironment.Model → KubeEnvironment.Model}

/-- What a sync never writes of an environment. -/
def environmentKey (row : KubeEnvironment.Model) : Uuid × Option Timestamp × Uuid × Option Uuid :=
  (row.id, row.deletedAt, row.appCatalogId, row.baseEnvironmentId)

theorem id_of_environmentKey {row row' : KubeEnvironment.Model}
    (h : environmentKey row = environmentKey row') : row.id = row'.id := congrArg Prod.fst h

/-- A subject after a write of environments was one before it. -/
theorem SyncSubject.of_map {environment' : KubeEnvironment.Model}
    (h : SyncSubject db' environment'.id environment' catalog)
    (hrows : db'.environments.rows = db.environments.rows.map f)
    (hf : ∀ row, environmentKey (f row) = environmentKey row)
    (hcatalogs : db'.appCatalogs = db.appCatalogs) :
    ∃ environment₀, SyncSubject db environment₀.id environment₀ catalog ∧
      environment' = f environment₀ := by
  have hmem := h.environment_mem
  rw [hrows] at hmem
  obtain ⟨environment₀, hmem₀, rfl⟩ := List.mem_map.1 hmem
  have hkey := hf environment₀
  simp only [environmentKey, Prod.mk.injEq] at hkey
  obtain ⟨-, hdel, hcatalog, hbranch⟩ := hkey
  exact ⟨environment₀, ⟨hmem₀, rfl, hdel.symm.trans h.environment_live,
    hbranch.symm.trans h.notBranch, hcatalogs ▸ h.catalog_mem, h.catalog_id.trans hcatalog,
    h.catalog_live⟩, rfl⟩

/-- The environments of the workloads, and the catalogs of the environments, are still there. -/
theorem Sound.exists_of_map (hdb : Sound none [] db) (db' : Database Text)
    (hrows : db'.environments.rows = db.environments.rows.map f)
    (hf : ∀ row, environmentKey (f row) = environmentKey row)
    (hcatalogs : db'.appCatalogs = db.appCatalogs) :
    (∀ row ∈ db.environmentWorkloads.rows, ∃ environment ∈ db'.environments.rows,
        environment.id = row.environmentId) ∧
      ∀ environment ∈ db'.environments.rows, ∃ catalog ∈ db'.appCatalogs.rows,
        catalog.id = environment.appCatalogId := by
  refine ⟨fun row hrow => ?_, fun environment henvironment => ?_⟩
  · obtain ⟨environment, hmem, hid⟩ := hdb.environmentOf row hrow
    refine ⟨f environment, hrows ▸ List.mem_map_of_mem hmem, ?_⟩
    rw [id_of_environmentKey (hf environment), hid]
  · rw [hrows] at henvironment
    obtain ⟨environment₀, hmem, rfl⟩ := List.mem_map.1 henvironment
    obtain ⟨catalog, hcatalog, hid⟩ := hdb.catalogOf environment₀ hmem
    have hkey := hf environment₀
    simp only [environmentKey, Prod.mk.injEq] at hkey
    exact ⟨catalog, hcatalogs ▸ hcatalog, hid.trans hkey.2.2.1.symm⟩

/-- The status of an environment matters to nothing. -/
theorem Sound.of_statusOnly (hdb : Sound none [] db) (h : StatusOnly db db') :
    Sound none [] db' := by
  obtain ⟨t, f, rfl, hrows, hf⟩ := h
  have hkey : ∀ row, environmentKey (f row) = environmentKey row := fun row => by rw [hf row]; rfl
  obtain ⟨henvironmentOf, hcatalogOf⟩ :=
    hdb.exists_of_map { db with environments := t } hrows hkey rfl
  refine ⟨henvironmentOf, hcatalogOf, fun row hrow hdel environment henvironment hid hbranch => ?_,
    hdb.kind, fun environment catalog hs => ?_, fun environment catalog hs _ hcurrent => ?_⟩
  · rw [hrows] at henvironment
    obtain ⟨environment₀, hmem, rfl⟩ := List.mem_map.1 henvironment
    rw [hf environment₀] at hid hbranch
    exact hdb.base row hrow hdel environment₀ hmem hid hbranch
  · obtain ⟨environment₀, hs₀, rfl⟩ := hs.of_map hrows hkey rfl
    exact (hdb.tracks environment₀ catalog hs₀).of_rows (by rw [hf environment₀])
      (by rw [hf environment₀]) (fun _ _ => Iff.rfl) rfl
  · obtain ⟨environment₀, hs₀, rfl⟩ := hs.of_map hrows hkey rfl
    rw [hf environment₀] at hcurrent ⊢
    exact hdb.current environment₀ catalog hs₀ (by simp) hcurrent

/-- A sync from a distinguished catalog keeps `Sound`. -/
theorem Sound.of_syncWrites (hdb : Sound none [] db)
    (hsubject : SyncSubject db environment.id environment catalog)
    (hcatalog : Distinguished isEmpty db catalog.id)
    (h : SyncWrites isEmpty db environment catalog now details db') : Sound none [] db' := by
  obtain ⟨f, hrows, hf⟩ := h.environments
  have hkey : ∀ row, environmentKey (f row) = environmentKey row := fun row => by rw [hf row]; rfl
  have hid : ∀ row, (f row).id = row.id := fun row => id_of_environmentKey (hkey row)
  obtain ⟨henvironmentOf, hcatalogOf⟩ := hdb.exists_of_map db' hrows hkey h.appCatalogs
  have hother : ∀ environment₀, environment₀ ∈ db.environments.rows →
      environment₀.baseEnvironmentId = none → environment₀.id ≠ environment.id →
        ∀ row, liveIn environment₀.id row = true →
          (row ∈ db'.environmentWorkloads.rows ↔ row ∈ db.environmentWorkloads.rows) :=
    fun _ hmem hbranch hne _ => h.mem_other hdb hmem hbranch hne
  -- the synced environment is the only one that is not as before
  have hself : ∀ {environment₀ catalog'}, SyncSubject db environment₀.id environment₀ catalog' →
      environment₀.id = environment.id → environment₀ = environment ∧ catalog' = catalog := by
    intro environment₀ catalog' hs₀ heq
    rw [heq] at hs₀
    exact SyncSubject.unique hsubject hs₀
  have hversion : (f environment).catalogSyncVersion = catalog.syncVersion := by
    rw [hf environment]
    exact if_pos rfl
  have hsame := h.sameWorkloads hdb hsubject hcatalog
  refine ⟨fun row hrow => ?_, hcatalogOf, fun row hrow hdel environment' henvironment henv hbranch =>
    ?_, h.catalogWorkloads ▸ hdb.kind, fun environment' catalog' hs => ?_,
    fun environment' catalog' hs _ hcurrent => ?_⟩
  · by_cases henv : row.environmentId = environment.id
    · refine ⟨f environment, hrows ▸ List.mem_map_of_mem hsubject.environment_mem, ?_⟩
      rw [hid, henv]
    · obtain ⟨replaced, -, hothers⟩ := h.others
      obtain ⟨row₀, hrow₀, rfl⟩ := (hothers row henv).1 hrow
      obtain ⟨_, _, heq⟩ := foldl_linkRow_eq environment.id catalog.syncVersion replaced row₀
      rw [heq]
      exact henvironmentOf row₀ hrow₀
  · rw [hrows] at henvironment
    obtain ⟨environment₀, hmem, rfl⟩ := List.mem_map.1 henvironment
    have hbranch₀ : environment₀.baseEnvironmentId = none := by
      rw [hf environment₀] at hbranch
      exact hbranch
    rw [hid] at henv
    have hlive : liveIn environment₀.id row = true := mem_liveIn.2 ⟨henv.symm, hdel⟩
    by_cases heq : environment₀.id = environment.id
    · rcases (h.live row (heq ▸ hlive)).1 hrow with ⟨hold, -, -⟩ | hnew
      · exact hdb.base row hold hdel environment₀ hmem henv hbranch₀
      · obtain ⟨d, hd, rfl⟩ := (h.newRows_iff hcatalog row).1 hnew
        obtain ⟨workload, -, hof⟩ := exists_workload_of_detail h.deployed hd
        exact .inl hof.baseWorkloadId
    · have hold := (hother environment₀ hmem hbranch₀ heq row hlive).1 hrow
      exact hdb.base row hold hdel environment₀ hmem henv hbranch₀
  · obtain ⟨environment₀, hs₀, rfl⟩ := hs.of_map hrows hkey h.appCatalogs
    by_cases heq : environment₀.id = environment.id
    · obtain ⟨rfl, rfl⟩ := hself hs₀ heq
      refine Tracks.of_same (by rwa [hid]) (hcatalog.congr h.catalogWorkloads) hversion ?_ ?_ <;>
        rw [hid]
      · intro row hrow hlive
        rcases (h.live row hlive).1 hrow with ⟨hold, -, -⟩ | hnew
        · exact (hdb.tracks _ _ hs₀).versions row hold hlive
        · obtain ⟨d, -, rfl⟩ := (h.newRows_iff hcatalog row).1 hnew
          exact le_rfl
      · exact h.eq_of_name hdb hsubject hcatalog
    · refine (hdb.tracks environment₀ catalog' hs₀).of_rows (hid _) ?_
        (hother environment₀ hs₀.environment_mem hs₀.notBranch heq) h.catalogWorkloads
      rw [hf environment₀]
      exact if_neg heq
  · obtain ⟨environment₀, hs₀, rfl⟩ := hs.of_map hrows hkey h.appCatalogs
    rw [hid]
    by_cases heq : environment₀.id = environment.id
    · obtain ⟨rfl, rfl⟩ := hself hs₀ heq
      exact hsame
    · rw [hf environment₀] at hcurrent
      exact (hdb.current environment₀ catalog' hs₀ (by simp)
        ((if_neg heq).symm.trans hcurrent)).of_rows
        (hother environment₀ hs₀.environment_mem hs₀.notBranch heq) h.catalogWorkloads

/-- **Sync completeness**, for one sync: it keeps `Sound`, and if it succeeds the environment
corresponds to its catalog. -/
theorem sync_corresponds {codec : ManifestCodec Text} {outside : Outside Text}
    {orgId userId environmentId : Uuid} {r : Except ApiError PUnit} (hdb : Sound none [] db)
    (hcatalog : ∀ environment catalog, SyncSubject db environmentId environment catalog →
      Distinguished isEmpty db catalog.id)
    (hrun : (syncEnvironmentFromCatalog codec isEmpty outside orgId userId environmentId now).run
      db = (r, db')) :
    Sound none [] db' ∧ (r = .ok ⟨⟩ → ∀ environment catalog,
      SyncSubject db environmentId environment catalog →
        Corresponds db' environmentId catalog.id) := by
  rcases syncEnvironmentFromCatalog_cases hrun with ⟨hstatus, hok⟩ |
    ⟨-, environment, catalog, details, hsubject, -, hwrites⟩
  · refine ⟨hdb.of_statusOnly hstatus, fun hr environment catalog hsubject => ?_⟩
    obtain ⟨rfl, environment', catalog', hsubject', hversion⟩ := hok hr
    obtain ⟨rfl, rfl⟩ := SyncSubject.unique hsubject' hsubject
    obtain rfl := hsubject.environment_id
    exact corresponds_of_same (hdb.current environment catalog hsubject (by simp) hversion.symm)
      (hdb.tracks environment catalog hsubject).names (hcatalog environment catalog hsubject)
  · obtain rfl := hsubject.environment_id
    have hdistinct := hcatalog environment catalog hsubject
    refine ⟨hdb.of_syncWrites hsubject hdistinct hwrites, fun _ environment' catalog' hsubject' => ?_⟩
    obtain ⟨-, rfl⟩ := SyncSubject.unique hsubject hsubject'
    exact corresponds_of_same (hwrites.sameWorkloads hdb hsubject hdistinct)
      (hwrites.eq_of_name hdb hsubject hdistinct) (hdistinct.congr hwrites.catalogWorkloads)

end

end KubeController

end Lapdev
