import Lapdev.Kube.EventFixedPoint

/-!
# Events whose change is stored

After `sync_catalog_from_workload_event` has handled a workload event, each workload it is about has
absorbed the event: the update computed for it from its rows changes nothing. This is what one round
of the loop does for its workload, and what the other rounds and the publication leave alone.
-/

namespace Lapdev

open RustStd Sql Programs WatchManager

variable {Text Json : Type} [DecidableEq Json]

section
variable (serde : SerdeParsers Text Json) (new : WorkloadSnapshot Text Json)
  (servicePorts : List KubeServicePort) (workloadKind : KubeWorkloadKind)

/-- An event about workloads of one kind skips the workload. -/
def SkippedAs (workload : KubeAppCatalogWorkload.Model Text) : Prop :=
  ∃ kind ∈ KubeWorkloadKind.parse workload.kind, kind ≠ workloadKind

/-- The event changes nothing of the workload. -/
def Absorbed (db : Database Text) (workload : KubeAppCatalogWorkload.Model Text) : Prop :=
  SkippedAs workloadKind workload ∨
    (updateOf serde new servicePorts workload (liveRows db (.workload workload.id))
      (liveDependencies db workload.id)).requiresCatalogBump = false

/-- What a round of the loop writes for its workload. -/
structure RoundWrites (update : CatalogWorkloadUpdate Text)
    (workload : KubeAppCatalogWorkload.Model Text) (db db' : Database Text) : Prop where
  sources : SameSources db db'
  rows : db'.catalogWorkloads.rows = db.catalogWorkloads.rows.map fun row =>
    if row.id = workload.id then update.write row else row
  labels : Writes (.workload workload.id)
    (if update.labelsChanged then labelRows workload.clusterId workload.namespace new.labels
      else liveRows db (.workload workload.id)) db db'
  dependencies : WritesDependencies workload.id
    (if update.dependenciesChanged then
      dependencyRows workload.appCatalogId workload.clusterId workload.namespace
        (new.configmapRefs, new.secretRefs)
      else liveDependencies db workload.id) db db'

variable {serde new servicePorts workloadKind}

/-- The row of a workload is updated where columns are set. -/
theorem run_writeWorkload {db : Database Text} {workload : KubeAppCatalogWorkload.Model Text}
    (hmem : workload ∈ db.catalogWorkloads.rows) (update : CatalogWorkloadUpdate Text) :
    ∃ t, (Program.when update.hasModelUpdates (Database.onCatalogWorkloads fun t =>
        t.updateOne (fun row => row.id = workload.id) update.write) : Query Text PUnit).run db =
          (.ok ⟨⟩, { db with catalogWorkloads := t }) ∧
      t.rows = db.catalogWorkloads.rows.map fun row =>
        if row.id = workload.id then update.write row else row := by
  cases hmodel : update.hasModelUpdates with
  | true =>
    obtain ⟨t, ht⟩ := update.keepsIndex_write.updateMany_ok db.catalogWorkloads
      fun row => row.id = workload.id
    have hrun := Table.updateOne_eq_ok.2 ⟨⟨workload, hmem, decide_eq_true rfl⟩, ht⟩
    refine ⟨t, ?_, ?_⟩
    · have hok : (Database.onCatalogWorkloads fun t =>
          t.updateOne (fun row => row.id = workload.id) update.write).run db =
          (.ok ⟨⟩, { db with catalogWorkloads := t }) := Database.run_statement_ok hrun
      exact hok
    · rw [Table.rows_updateMany ht]
      simp
  | false =>
    refine ⟨db.catalogWorkloads, rfl, ?_⟩
    simp [update.write_of_not_hasModelUpdates hmodel]

/-- The label rows of a workload are replaced where the labels differ. -/
theorem run_writeLabels (changed : Bool) (workload : KubeAppCatalogWorkload.Model Text)
    (labels : BTreeMap String String) (timestamp : Timestamp) (db : Database Text) :
    ∃ t, (Program.when changed (DbApi.replaceWorkloadLabels workload.id workload.appCatalogId
        workload.clusterId workload.namespace labels timestamp) : Query Text PUnit).run db =
          (.ok ⟨⟩, { db with catalogWorkloadLabels := t }) ∧
      Writes (.workload workload.id)
        (if changed then labelRows workload.clusterId workload.namespace labels
          else liveRows db (.workload workload.id)) db { db with catalogWorkloadLabels := t } := by
  cases changed with
  | true =>
    obtain ⟨db', hrun, hwrites⟩ := (RowRewrite.workloadLabels workload.id workload.appCatalogId
      workload.clusterId workload.namespace labels timestamp).run_program db
    have hframe : ∃ t, db' = { db with catalogWorkloadLabels := t } := by
      have hdb' := DbApi.along_replaceWorkloadLabels
        (R := fun db db' : Database Text => ∃ t, db' = { db with catalogWorkloadLabels := t })
        (fun db => ⟨_, rfl⟩) (fun db db' db'' ⟨t, ht⟩ ⟨t', ht'⟩ => ⟨t', by rw [ht', ht]⟩)
        (fun db t => ⟨t, rfl⟩) workload.id workload.appCatalogId workload.clusterId
        workload.namespace labels timestamp db
      rwa [show (DbApi.replaceWorkloadLabels workload.id workload.appCatalogId workload.clusterId
        workload.namespace labels timestamp : Query Text PUnit).run db = (.ok ⟨⟩, db') from hrun]
        at hdb'
    obtain ⟨t, rfl⟩ := hframe
    exact ⟨t, hrun, hwrites⟩
  | false => exact ⟨db.catalogWorkloadLabels, rfl, rfl, fun _ _ => rfl⟩

/-- The dependency rows of a workload are replaced where the dependencies differ. -/
theorem run_writeDependencies (changed : Bool) (workload : KubeAppCatalogWorkload.Model Text)
    (refs : BTreeSet String × BTreeSet String) (timestamp : Timestamp) (db : Database Text) :
    ∃ t, (Program.when changed (DbApi.replaceWorkloadDependencies workload.id
        workload.appCatalogId workload.clusterId workload.namespace refs.1 refs.2 timestamp) :
          Query Text PUnit).run db = (.ok ⟨⟩, { db with catalogWorkloadDependencies := t }) ∧
      WritesDependencies workload.id
        (if changed then
          dependencyRows workload.appCatalogId workload.clusterId workload.namespace refs
          else liveDependencies db workload.id) db
        { db with catalogWorkloadDependencies := t } := by
  cases changed with
  | true => exact DbApi.run_replaceWorkloadDependencies _ _ _ _ _ _ _ _
  | false => exact ⟨db.catalogWorkloadDependencies, rfl, rfl, fun _ _ => rfl⟩

variable (serde new servicePorts) in
/-- One round, about a workload of the event's kind. -/
theorem run_round (event : ResourceChangeEvent) {ids : List Uuid} (db₀ : Database Text)
    {db : Database Text} {workload : KubeAppCatalogWorkload.Model Text}
    (hmem : workload ∈ db.catalogWorkloads.rows) (hid : workload.id ∈ ids)
    (hkind : ¬SkippedAs workloadKind workload) {update : CatalogWorkloadUpdate Text}
    (hupdate : updateOf serde new servicePorts workload (liveRows db₀ (.workload workload.id))
      (liveDependencies db₀ workload.id) = update) (byCatalog : HashTable Uuid (List Uuid)) :
    ∃ db', (KubeClusterServer.syncCatalogWorkload serde event workloadKind new servicePorts
        (db₀.catalogWorkloadLabels.select fun row =>
          row.workloadId ∈ ids && row.deletedAt = none)
        (db₀.catalogWorkloadDependencies.select fun row =>
          row.workloadId ∈ ids && row.deletedAt = none) byCatalog workload).run db =
        (.ok (if update.requiresCatalogBump then
          KubeClusterServer.pushWorkload byCatalog workload.appCatalogId workload.id
          else byCatalog), db') ∧ RoundWrites new update workload db db' := by
  obtain ⟨tw, hrun₂, hrows⟩ := run_writeWorkload hmem update
  obtain ⟨tl, hrun₃, hlabels⟩ := run_writeLabels update.labelsChanged workload new.labels
    event.timestamp { db with catalogWorkloads := tw }
  obtain ⟨td, hrun₄, hdependencies⟩ := run_writeDependencies update.dependenciesChanged workload
    (new.configmapRefs, new.secretRefs) event.timestamp
    { db with catalogWorkloads := tw, catalogWorkloadLabels := tl }
  have hsame : ¬∃ kind ∈ KubeWorkloadKind.parse workload.kind, kind ≠ workloadKind := hkind
  refine ⟨{ db with
      catalogWorkloads := tw
      catalogWorkloadLabels := tl
      catalogWorkloadDependencies := td }, ?_, ⟨rfl, rfl, rfl⟩, hrows,
    ⟨hlabels.own, hlabels.others⟩, hdependencies.own, hdependencies.others⟩
  unfold KubeClusterServer.syncCatalogWorkload
  rw [if_neg hsame, labelsOf_select db₀ hid, dependenciesOf_select db₀ hid]
  dsimp only
  rw [show computeCatalogWorkloadUpdate serde workload new servicePorts _ _ = update from hupdate,
    Program.run_bind_of_ok hrun₂, Program.run_bind_of_ok hrun₃, Program.run_bind_of_ok hrun₄]
  rfl

/-! ## The loop -/

/-- What an event finds a workload by. -/
def eventKey (row : KubeAppCatalogWorkload.Model Text) :
    Uuid × String × String × Option Timestamp × Uuid :=
  (row.id, row.name, row.namespace, row.deletedAt, row.clusterId)

variable (serde new servicePorts workloadKind) in
/-- The workloads with these ids have absorbed the event, and the others are as they were. -/
structure Absorbing (db : Database Text) (done : List Uuid) (db₁ : Database Text) : Prop where
  sources : SameSources db db₁
  keys : db₁.catalogWorkloads.rows.map eventKey = db.catalogWorkloads.rows.map eventKey
  absorbed : ∀ row ∈ db₁.catalogWorkloads.rows, row.id ∈ done →
    Absorbed serde new servicePorts workloadKind db₁ row
  waiting : ∀ row ∈ db.catalogWorkloads.rows, row.id ∉ done → row ∈ db₁.catalogWorkloads.rows
  labels : ∀ id, id ∉ done → liveRows db₁ (.workload id) = liveRows db (.workload id)
  dependencies : ∀ id, id ∉ done → liveDependencies db₁ id = liveDependencies db id

section
variable {db db₁ db₂ : Database Text} {done : List Uuid}
  {workload : KubeAppCatalogWorkload.Model Text}

theorem absorbing_nil (db : Database Text) :
    Absorbing serde new servicePorts workloadKind db [] db where
  sources := .refl db
  keys := rfl
  absorbed _ _ h := absurd h List.not_mem_nil
  waiting _ h _ := h
  labels _ _ := rfl
  dependencies _ _ := rfl

theorem Absorbed.congr (h : Absorbed serde new servicePorts workloadKind db workload)
    (hlabels : liveRows db₁ (.workload workload.id) = liveRows db (.workload workload.id))
    (hdependencies : liveDependencies db₁ workload.id = liveDependencies db workload.id) :
    Absorbed serde new servicePorts workloadKind db₁ workload := by
  rw [Absorbed, hlabels, hdependencies]
  exact h

/-- A workload that the event skips needs no round. -/
theorem Absorbing.skip (h : Absorbing serde new servicePorts workloadKind db done db₁)
    (hmem : workload ∈ db.catalogWorkloads.rows) (hnew : workload.id ∉ done)
    (hkind : SkippedAs workloadKind workload) :
    Absorbing serde new servicePorts workloadKind db (done ++ [workload.id]) db₁ where
  sources := h.sources
  keys := h.keys
  absorbed row hrow hid := by
    rcases List.mem_append.1 hid with hid | hid
    · exact h.absorbed row hrow hid
    · have heq := Table.eq_of_conflict hrow (h.waiting workload hmem hnew)
        (.inl (List.mem_singleton.1 hid))
      exact .inl (heq ▸ hkind)
  waiting row hrow hid := h.waiting row hrow fun hin => hid (List.mem_append_left _ hin)
  labels id hid := h.labels id fun hin => hid (List.mem_append_left _ hin)
  dependencies id hid := h.dependencies id fun hin => hid (List.mem_append_left _ hin)

/-- A round makes its workload absorb the event, and leaves the others. -/
theorem Absorbing.round (h : Absorbing serde new servicePorts workloadKind db done db₁)
    (hnames : (new.containers.map (·.name)).Nodup)
    (hspec : specSectionFromYaml serde new.yaml = some new.specSnapshot)
    (hmem : workload ∈ db.catalogWorkloads.rows) (hnew : workload.id ∉ done)
    {update : CatalogWorkloadUpdate Text}
    (hupdate : updateOf serde new servicePorts workload (liveRows db (.workload workload.id))
      (liveDependencies db workload.id) = update)
    (hwrites : RoundWrites new update workload db₁ db₂) :
    Absorbing serde new servicePorts workloadKind db (done ++ [workload.id]) db₂ where
  sources := h.sources.trans hwrites.sources
  keys := by
    rw [← h.keys, hwrites.rows, List.map_map]
    refine List.map_congr_left fun row _ => ?_
    dsimp only [Function.comp_apply]
    split <;> rfl
  absorbed row hrow hid := by
    rw [hwrites.rows] at hrow
    obtain ⟨r, hr, rfl⟩ := List.mem_map.1 hrow
    split at hid
    · next heq =>
      obtain rfl := Table.eq_of_conflict hr (h.waiting workload hmem hnew) (.inl heq)
      rw [if_pos rfl]
      refine .inr ?_
      have hlabels := hwrites.labels.own
      have hdependencies := hwrites.dependencies.own
      rw [h.labels _ hnew] at hlabels
      rw [h.dependencies _ hnew] at hdependencies
      rw [show (update.write r).id = r.id from rfl, hlabels, hdependencies]
      exact requiresCatalogBump_write hnames hspec hupdate
    · next hne =>
      rw [if_neg hne]
      have hin : r.id ∈ done := (List.mem_append.1 hid).resolve_right fun hin =>
        hne (List.mem_singleton.1 hin)
      refine (h.absorbed r hr hin).congr ?_ (hwrites.dependencies.others _ hne)
      exact hwrites.labels.others _ fun heq => hne (RowOwner.workload.inj heq)
  waiting row hrow hid := by
    have hne : row.id ≠ workload.id := fun heq =>
      hid (List.mem_append_right _ (List.mem_singleton.2 heq))
    rw [hwrites.rows]
    refine List.mem_map.2 ⟨row, h.waiting row hrow fun hin => hid (List.mem_append_left _ hin), ?_⟩
    rw [if_neg hne]
  labels id hid := by
    have hne : id ≠ workload.id := fun heq =>
      hid (List.mem_append_right _ (List.mem_singleton.2 heq))
    rw [hwrites.labels.others _ fun heq => hne (RowOwner.workload.inj heq)]
    exact h.labels id fun hin => hid (List.mem_append_left _ hin)
  dependencies id hid := by
    have hne : id ≠ workload.id := fun heq =>
      hid (List.mem_append_right _ (List.mem_singleton.2 heq))
    rw [hwrites.dependencies.others _ hne]
    exact h.dependencies id fun hin => hid (List.mem_append_left _ hin)

end

end

/-! ## The handler -/

/-- What an event depends on is the same: the content of the workloads, their labels and
dependencies, and the services that match the labels. -/
structure SameStored (clusterId : Uuid) («namespace» : String) (labels : BTreeMap String String)
    (db db' : Database Text) : Prop where
  workloads : db'.catalogWorkloads.rows.map (fun row => { row with catalogSyncVersion := 0 }) =
    db.catalogWorkloads.rows.map fun row => { row with catalogSyncVersion := 0 }
  labelRows : db'.catalogWorkloadLabels = db.catalogWorkloadLabels
  dependencyRows : db'.catalogWorkloadDependencies = db.catalogWorkloadDependencies
  services : DbApi.matchingServices db' clusterId «namespace» labels =
    DbApi.matchingServices db clusterId «namespace» labels

namespace SameStored

variable {clusterId : Uuid} {«namespace» : String} {labels : BTreeMap String String}
  {db db' db'' : Database Text}

omit [DecidableEq Json]

theorem refl (db : Database Text) : SameStored clusterId «namespace» labels db db :=
  ⟨rfl, rfl, rfl, rfl⟩

theorem trans (db db' db'' : Database Text) (h : SameStored clusterId «namespace» labels db db')
    (h' : SameStored clusterId «namespace» labels db' db'') :
    SameStored clusterId «namespace» labels db db'' :=
  ⟨h'.workloads.trans h.workloads, h'.labelRows.trans h.labelRows,
    h'.dependencyRows.trans h.dependencyRows, h'.services.trans h.services⟩

theorem exists_row (h : SameStored clusterId «namespace» labels db db')
    {row : KubeAppCatalogWorkload.Model Text} (hrow : row ∈ db'.catalogWorkloads.rows) :
    ∃ row₀ ∈ db.catalogWorkloads.rows,
      { row₀ with catalogSyncVersion := 0 } = { row with catalogSyncVersion := 0 } := by
  have hmem := List.mem_map_of_mem (f := fun row : KubeAppCatalogWorkload.Model Text =>
    { row with catalogSyncVersion := 0 }) hrow
  rw [h.workloads] at hmem
  exact List.mem_map.1 hmem

theorem of_tables
    (hworkloads : db'.catalogWorkloads.rows.map (fun row => { row with catalogSyncVersion := 0 }) =
      db.catalogWorkloads.rows.map fun row => { row with catalogSyncVersion := 0 })
    (hlabels : db'.catalogWorkloadLabels = db.catalogWorkloadLabels)
    (hdependencies : db'.catalogWorkloadDependencies = db.catalogWorkloadDependencies)
    (hservices : db'.clusterServices = db.clusterServices)
    (hselectors : db'.clusterServiceSelectors = db.clusterServiceSelectors) :
    SameStored clusterId «namespace» labels db db' :=
  ⟨hworkloads, hlabels, hdependencies,
    DbApi.matchingServices_congr db db' hservices hselectors clusterId «namespace» labels⟩

/-- The publication of catalogs changes versions only. -/
theorem along_publishCatalogs (change : String) (syncedAt : Timestamp)
    (entries : List ((_ : Uuid) × List Uuid)) :
    Along (SameStored clusterId «namespace» labels)
      (KubeClusterServer.publishCatalogs change syncedAt entries : Query Text PUnit) := by
  have hbump : ∀ catalogId, Along (SameStored clusterId «namespace» labels)
      (DbApi.bumpAppCatalogSyncVersion catalogId syncedAt : Query Text Int) := by
    intro catalogId
    refine Along.bind trans
      (Database.along_returning refl fun _ _ _ => .of_tables rfl rfl rfl rfl rfl)
      fun updated => ?_
    cases updated with
    | some model => exact refl
    | none => exact refl
  have hstamp : ∀ ids version, Along (SameStored clusterId «namespace» labels)
      (DbApi.updateCatalogWorkloadVersions ids version : Query Text PUnit) := by
    intro ids version
    unfold DbApi.updateCatalogWorkloadVersions
    split
    · exact refl
    · refine Database.along_statement refl fun db t h => .of_tables ?_ rfl rfl rfl rfl
      dsimp only
      rw [Table.rows_updateMany h, List.map_map]
      refine List.map_congr_left fun row _ => ?_
      dsimp only [Function.comp_apply]
      split <;> rfl
  exact Along.forEach refl trans (fun _ => Along.bind trans ((hbump _).mapError _) fun _ =>
    (hstamp _ _).mapError _) entries

end SameStored

/-- A workload that absorbed the event still does where its content is the same. -/
theorem Absorbed.of_sameStored {serde : SerdeParsers Text Json} {new : WorkloadSnapshot Text Json}
    {servicePorts : List KubeServicePort} {workloadKind : KubeWorkloadKind} {db db' : Database Text}
    {clusterId : Uuid} {«namespace» : String} {labels : BTreeMap String String}
    (hsame : SameStored clusterId «namespace» labels db db')
    {row row₀ : KubeAppCatalogWorkload.Model Text}
    (hrow : ({ row₀ with catalogSyncVersion := 0 } : KubeAppCatalogWorkload.Model Text) =
      { row with catalogSyncVersion := 0 })
    (h : Absorbed serde new servicePorts workloadKind db row₀) :
    Absorbed serde new servicePorts workloadKind db' row := by
  have hrow' : ∀ r : KubeAppCatalogWorkload.Model Text,
      Absorbed serde new servicePorts workloadKind db r ↔
        Absorbed serde new servicePorts workloadKind db { r with catalogSyncVersion := 0 } :=
    fun r => Iff.rfl
  rw [hrow', hrow, ← hrow'] at h
  refine h.congr ?_ ?_
  · rw [liveRows, liveRows, hsame.labelRows]
  · rw [liveDependencies, liveDependencies, hsame.dependencyRows]

section
variable {serde : SerdeParsers Text Json} {new : WorkloadSnapshot Text Json}
  {workloadKind : KubeWorkloadKind} {clusterId : Uuid} {event : ResourceChangeEvent}
  {db : Database Text}

/-- The ports an event reads off the services. -/
def eventPorts (clusterId : Uuid) («namespace» : String) (labels : BTreeMap String String)
    (db : Database Text) : List KubeServicePort :=
  portsFromCachedServices labels (DbApi.matchingServices db clusterId «namespace» labels)

/-- **After an event** its workloads have absorbed it, whether or not the publication succeeds. -/
theorem absorbed_of_event (hnames : (new.containers.map (·.name)).Nodup)
    (hspec : specSectionFromYaml serde new.yaml = some new.specSnapshot)
    (rs : RandomState ((_ : Uuid) × List Uuid)) {db' : Database Text}
    (hdb' : db' = ((KubeClusterServer.syncCatalogFromWorkloadEvent serde clusterId rs event
      workloadKind new).run db).2) {row : KubeAppCatalogWorkload.Model Text}
    (hrow : row ∈ KubeClusterServer.eventWorkloads clusterId event db') :
    Absorbed serde new (eventPorts clusterId event.namespace new.labels db') workloadKind db' row := by
  let change := KubeClusterServer.workloadEventChange serde clusterId event workloadKind new db
  let servicePorts := eventPorts clusterId event.namespace new.labels db
  have hloop : Triple (fun s => s = db)
      (Program.foldEach
        (KubeClusterServer.workloadEventRound serde clusterId event workloadKind new db) ∅
        change.workloads)
      (fun _ db₁ => Absorbing serde new servicePorts workloadKind db
        (change.workloads.map (·.id)) db₁) fun _ _ => False := by
    refine Triple.consequence (Triple.foldEach_done (I := fun done _ db₁ =>
      Absorbing serde new servicePorts workloadKind db (done.map (·.id)) db₁)
      (fun done byCatalog w rest hsplit db₁ h => ?_) ∅) ?_ (fun _ _ h => h) fun _ _ h => h
    · have hin : w ∈ change.workloads := hsplit ▸ by simp
      have hmem : w ∈ db.catalogWorkloads.rows := change.sublist.subset hin
      have hnew : w.id ∉ done.map (·.id) := by
        have hnodup := change.nodup_ids
        rw [← hsplit, List.map_append, List.nodup_append] at hnodup
        exact fun hid => hnodup.2.2 _ hid w.id (by simp) rfl
      rw [List.map_append]
      by_cases hkind : SkippedAs workloadKind w
      · have hrun : (KubeClusterServer.workloadEventRound serde clusterId event workloadKind new db
            byCatalog w).run db₁ = (.ok byCatalog, db₁) := by
          have hskip : ∃ kind ∈ KubeWorkloadKind.parse w.kind, kind ≠ workloadKind := hkind
          rw [KubeClusterServer.workloadEventRound, KubeClusterServer.syncCatalogWorkload,
            if_pos hskip, Program.run_pure]
        rw [hrun]
        exact h.skip hmem hnew hkind
      · obtain ⟨db₂, hrun, hwrites⟩ := run_round serde new servicePorts event db
          (h.waiting w hmem hnew) (List.mem_map_of_mem hin) hkind rfl byCatalog
        have hround : (KubeClusterServer.workloadEventRound serde clusterId event workloadKind new db
            byCatalog w).run db₁ = (.ok _, db₂) := hrun
        rw [hround]
        exact h.round hnames hspec hmem hnew rfl hwrites
    · rintro s rfl
      exact absorbing_nil s
  rcases KubeClusterServer.run_syncCatalogFromWorkloadEvent serde clusterId event workloadKind new
    db rs with ⟨hrun, hempty⟩ | hrun
  · rw [hrun] at hdb'
    subst hdb'
    have hnil : KubeClusterServer.eventWorkloads clusterId event db' = [] := List.isEmpty_iff.1 hempty
    rw [hnil] at hrow
    cases hrow
  · have hend := hloop db rfl
    split at hend
    · next byCatalog db₁ hfold =>
      rw [hrun, CatalogChange.handler, Program.run_bind_of_ok hfold] at hdb'
      have hsame : SameStored clusterId event.namespace new.labels db₁ db' := by
        rw [hdb']
        exact SameStored.along_publishCatalogs _ _ _ db₁
      obtain ⟨row₀, hrow₀, hcontent⟩ := hsame.exists_row (Table.mem_select.1 hrow).1
      have hkey : eventKey row₀ ∈ db.catalogWorkloads.rows.map eventKey :=
        hend.keys ▸ List.mem_map_of_mem hrow₀
      obtain ⟨w, hw, hwkey⟩ := List.mem_map.1 hkey
      have hrowKey : eventKey row = eventKey w :=
        (congrArg eventKey hcontent).symm.trans hwkey.symm
      have hin : w ∈ change.workloads := by
        have hfound := (Table.mem_select.1 hrow).2
        simp only [eventKey, Prod.mk.injEq] at hrowKey
        obtain ⟨-, hname, hns, hdeleted, hcluster⟩ := hrowKey
        rw [hname, hns, hdeleted, hcluster] at hfound
        exact Table.mem_select.2 ⟨hw, hfound⟩
      have hid : row₀.id ∈ change.workloads.map (·.id) := by
        rw [← show w.id = row₀.id from congrArg Prod.fst hwkey]
        exact List.mem_map_of_mem hin
      have hports : eventPorts clusterId event.namespace new.labels db' = servicePorts := by
        rw [eventPorts, hsame.services, DbApi.matchingServices_of_sameSources hend.sources]
        rfl
      rw [hports]
      exact (hend.absorbed row₀ hrow₀ hid).of_sameStored hsame hcontent
    · exact hend.elim

/-- An event that its workloads have absorbed leaves the database as it is. -/
theorem run_of_absorbed (rs : RandomState ((_ : Uuid) × List Uuid))
    (h : ∀ row ∈ KubeClusterServer.eventWorkloads clusterId event db,
      Absorbed serde new (eventPorts clusterId event.namespace new.labels db) workloadKind db row) :
    (KubeClusterServer.syncCatalogFromWorkloadEvent serde clusterId rs event workloadKind new).run db =
      (.ok ⟨⟩, db) := by
  rcases KubeClusterServer.run_syncCatalogFromWorkloadEvent serde clusterId event workloadKind new
    db rs with ⟨hrun, -⟩ | hrun
  · exact hrun
  have hround : ∀ row ∈ KubeClusterServer.eventWorkloads clusterId event db,
      (KubeClusterServer.workloadEventRound serde clusterId event workloadKind new db ∅ row).run db =
        (.ok ∅, db) := by
    intro row hrow
    rw [KubeClusterServer.workloadEventRound, KubeClusterServer.syncCatalogWorkload]
    by_cases hkind : ∃ kind ∈ KubeWorkloadKind.parse row.kind, kind ≠ workloadKind
    · rw [if_pos hkind, Program.run_pure]
    · have hid := List.mem_map_of_mem (f := fun w : KubeAppCatalogWorkload.Model Text => w.id) hrow
      rw [if_neg hkind, labelsOf_select db hid, dependenciesOf_select db hid]
      have hbump := (h row hrow).resolve_left hkind
      rw [eventPorts] at hbump
      generalize hupdate : updateOf serde new _ row _ _ = update at hbump
      have hnone := hasModelUpdates_of_not_requiresCatalogBump serde new hupdate hbump
      dsimp only
      rw [show computeCatalogWorkloadUpdate serde row new _ _ _ = update from hupdate, hnone, hbump]
      simp only [CatalogWorkloadUpdate.requiresCatalogBump, Bool.or_eq_false_iff] at hbump
      rw [hbump.1.2, hbump.2]
      rfl
  have hloop : ∀ rows ⊆ KubeClusterServer.eventWorkloads clusterId event db,
      (Program.foldEach
        (KubeClusterServer.workloadEventRound serde clusterId event workloadKind new db) ∅ rows).run
          db = (.ok ∅, db) := by
    intro rows hrows
    induction rows with
    | nil => rfl
    | cons row rows ih =>
      rw [Program.run_foldEach_cons, hround row (hrows List.mem_cons_self)]
      exact ih fun r hr => hrows (List.mem_cons_of_mem _ hr)
  rw [hrun]
  refine (Program.run_bind_of_ok (hloop _ (List.Subset.refl _))).trans ?_
  have hnil : ((∅ : HashTable Uuid (List Uuid)).reseed rs).entries = [] :=
    (rs.arrange_perm []).eq_nil
  rw [hnil]
  rfl

end

end Lapdev
