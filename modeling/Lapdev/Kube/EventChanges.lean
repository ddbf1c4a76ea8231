import Lapdev.Kube.CatalogChanges

/-!
# The changes of the two handlers

`sync_catalog_from_workload_event` and `reconcile_workloads_for_selector` as handlers of a
`CatalogChange`: the rows each of them walks over, what it leaves of them, and a proof that its
loop does just that.
-/

namespace Lapdev

open RustStd Sql Programs

variable {Text Json : Type}

/-! ## Statements of the loops -/

namespace DbApi

/-- Only the labels and dependencies of catalog workloads differ. -/
def SameCatalogs (db db' : Database Text) : Prop :=
  SameSources db db' ∧ db'.catalogWorkloads = db.catalogWorkloads

theorem SameCatalogs.refl (db : Database Text) : SameCatalogs db db := ⟨.refl db, rfl⟩

theorem SameCatalogs.trans (db db' db'' : Database Text) (h : SameCatalogs db db')
    (h' : SameCatalogs db' db'') : SameCatalogs db db'' :=
  ⟨h.1.trans h'.1, h'.2.trans h.2⟩

/-- A statement on the labels of catalog workloads that cannot fail. -/
theorem succeeds_onCatalogWorkloadLabels {f : Table KubeAppCatalogWorkloadLabel.Model →
      Except DbErr (Table KubeAppCatalogWorkloadLabel.Model)} (h : ∀ t, ∃ t', f t = .ok t') :
    Succeeds SameCatalogs (Database.onCatalogWorkloadLabels f : Query Text PUnit) := by
  intro db
  obtain ⟨t, ht⟩ := h db.catalogWorkloadLabels
  exact ⟨_, Database.run_statement_ok ht, ⟨rfl, rfl, rfl⟩, rfl⟩

/-- A statement on the dependencies of catalog workloads that cannot fail. -/
theorem succeeds_onCatalogWorkloadDependencies {f : Table KubeAppCatalogWorkloadDependency.Model →
      Except DbErr (Table KubeAppCatalogWorkloadDependency.Model)} (h : ∀ t, ∃ t', f t = .ok t') :
    Succeeds SameCatalogs (Database.onCatalogWorkloadDependencies f : Query Text PUnit) := by
  intro db
  obtain ⟨t, ht⟩ := h db.catalogWorkloadDependencies
  exact ⟨_, Database.run_statement_ok ht, ⟨rfl, rfl, rfl⟩, rfl⟩

theorem succeeds_replaceWorkloadLabels (workloadId appCatalogId clusterId : Uuid)
    («namespace» : String) (labels : BTreeMap String String) (timestamp : Timestamp) :
    Succeeds SameCatalogs (replaceWorkloadLabels workloadId appCatalogId clusterId «namespace» labels
      timestamp : Query Text PUnit) := by
  refine Succeeds.bind SameCatalogs.trans (succeeds_onCatalogWorkloadLabels fun t => ?_)
    (Succeeds.forEach SameCatalogs.refl SameCatalogs.trans (fun entry => ?_) _)
  · exact Table.updateMany_of_conflict_imp fun _ _ _ _ h => h
  · exact succeeds_onCatalogWorkloadLabels fun t => t.insert_of_not_conflict _ fun _ _ h => h

theorem succeeds_replaceWorkloadDependencies (workloadId appCatalogId clusterId : Uuid)
    («namespace» : String) (configmaps secrets : BTreeSet String) (timestamp : Timestamp) :
    Succeeds SameCatalogs (replaceWorkloadDependencies workloadId appCatalogId clusterId «namespace»
      configmaps secrets timestamp : Query Text PUnit) := by
  have hinsert : ∀ resourceType names, Succeeds SameCatalogs (Program.forEach (insertDependency
      workloadId appCatalogId clusterId «namespace» timestamp resourceType) names :
        Query Text PUnit) := by
    intro resourceType names
    refine Succeeds.forEach SameCatalogs.refl SameCatalogs.trans (fun name => ?_) names
    exact succeeds_onCatalogWorkloadDependencies fun t => t.insert_of_not_conflict _ fun _ _ h => h
  refine Succeeds.bind SameCatalogs.trans (succeeds_onCatalogWorkloadDependencies fun t => ?_)
    (Succeeds.bind SameCatalogs.trans (hinsert _ _) (hinsert _ _))
  exact Table.updateMany_of_conflict_imp fun _ _ _ _ h => h

/-- An update of a row that is there, keeping the indexed columns, succeeds. -/
theorem run_updateCatalogWorkload {db : Database Text} {w : KubeAppCatalogWorkload.Model Text}
    (hw : w ∈ db.catalogWorkloads.rows)
    {f : KubeAppCatalogWorkload.Model Text → KubeAppCatalogWorkload.Model Text}
    (hf : KeepsIndex f) :
    ∃ db', (Database.onCatalogWorkloads fun t => t.updateOne (fun row => row.id = w.id) f).run db =
        (.ok ⟨⟩, db') ∧ SameSources db db' ∧
      db'.catalogWorkloads.rows = db.catalogWorkloads.rows.map fun row =>
        if row.id = w.id then f row else row := by
  obtain ⟨t, ht⟩ := hf.updateMany_ok db.catalogWorkloads fun row => row.id = w.id
  have hrun := Table.updateOne_eq_ok.2 ⟨⟨w, hw, decide_eq_true rfl⟩, ht⟩
  refine ⟨{ db with catalogWorkloads := t }, Database.run_statement_ok hrun, ⟨rfl, rfl, rfl⟩, ?_⟩
  rw [Table.rows_updateMany ht]
  simp

/-- What `get_matching_cluster_services` reads. -/
def matchingServices (db : Database Text) (clusterId : Uuid) («namespace» : String)
    (labels : BTreeMap String String) : List (CachedClusterService Text) :=
  match ((getMatchingClusterServices clusterId «namespace» labels).run db).1 with
  | .ok services => services
  | .error _ => []

theorem run_getMatchingClusterServices (db : Database Text) (clusterId : Uuid)
    («namespace» : String) (labels : BTreeMap String String) :
    (getMatchingClusterServices clusterId «namespace» labels).run db =
      (.ok (matchingServices db clusterId «namespace» labels), db) := by
  unfold matchingServices getMatchingClusterServices
  split
  · rfl
  · rw [Program.run_bind, Program.run_read]
    dsimp only
    split <;> rfl

/-- The services read depend on the two tables of services. -/
theorem matchingServices_congr (db db' : Database Text)
    (hservices : db'.clusterServices = db.clusterServices)
    (hselectors : db'.clusterServiceSelectors = db.clusterServiceSelectors)
    (clusterId : Uuid) («namespace» : String) (labels : BTreeMap String String) :
    matchingServices db' clusterId «namespace» labels =
      matchingServices db clusterId «namespace» labels := by
  have hread : ((getMatchingClusterServices clusterId «namespace» labels).run db').1 =
      ((getMatchingClusterServices clusterId «namespace» labels).run db).1 := by
    unfold getMatchingClusterServices
    split
    · rfl
    · rw [Program.run_bind, Program.run_bind, Program.run_read, Program.run_read, hselectors]
      dsimp only
      split
      · rfl
      · rw [Program.run_read, Program.run_read, hservices]
  rw [matchingServices, hread, matchingServices]

theorem matchingServices_of_sameSources {db db' : Database Text} (h : SameSources db db')
    (clusterId : Uuid) («namespace» : String) (labels : BTreeMap String String) :
    matchingServices db' clusterId «namespace» labels =
      matchingServices db clusterId «namespace» labels :=
  matchingServices_congr db db' h.clusterServices h.clusterServiceSelectors clusterId «namespace» labels

end DbApi

namespace CatalogWorkloadUpdate

variable (update : CatalogWorkloadUpdate Text)

theorem keepsIndex_write : KeepsIndex update.write :=
  ⟨fun _ => rfl, fun _ => rfl, fun _ => rfl, fun _ => rfl, fun _ => rfl, fun _ => rfl⟩

/-- An update without columns leaves the row. -/
theorem write_of_not_hasModelUpdates (h : update.hasModelUpdates = false)
    (row : KubeAppCatalogWorkload.Model Text) : update.write row = row := by
  simp only [hasModelUpdates, Bool.or_eq_false_iff, Option.isSome_eq_false_iff,
    Option.isNone_iff_eq_none] at h
  obtain ⟨⟨h₁, h₂⟩, h₃⟩ := h
  rw [write, h₁, h₂, h₃]
  rfl

end CatalogWorkloadUpdate

/-! ## Workload events -/

section
variable [DecidableEq Json] (serde : SerdeParsers Text Json) (clusterId : Uuid)
  (event : ResourceChangeEvent) (workloadKind : KubeWorkloadKind)
  (new : WorkloadSnapshot Text Json) (db : Database Text)

/-- The columns that a computed update sets. -/
theorem isSome_computeCatalogWorkloadUpdate {update : CatalogWorkloadUpdate Text}
    {workload : KubeAppCatalogWorkload.Model Text} {servicePorts : List KubeServicePort}
    {labels : Option (BTreeMap String String)}
    {dependencies : Option (BTreeSet String × BTreeSet String)}
    (h : computeCatalogWorkloadUpdate serde workload new servicePorts labels dependencies =
      update) :
    update.containers.isSome = update.containersChanged ∧
      update.ports.isSome = update.portsChanged ∧
      update.workloadYaml.isSome = (update.specChanged || update.labelsChanged) := by
  have hite : ∀ {α : Type} (c : Bool) (a : α), (if c then some a else none).isSome = c := by
    intro α c a
    cases c <;> rfl
  subst h
  exact ⟨hite _ _, hite _ _, hite _ _⟩

/-- A computed update without a bump sets no column. -/
theorem hasModelUpdates_of_not_requiresCatalogBump {update : CatalogWorkloadUpdate Text}
    {workload : KubeAppCatalogWorkload.Model Text} {servicePorts : List KubeServicePort}
    {labels : Option (BTreeMap String String)}
    {dependencies : Option (BTreeSet String × BTreeSet String)}
    (h : computeCatalogWorkloadUpdate serde workload new servicePorts labels dependencies = update)
    (hbump : update.requiresCatalogBump = false) : update.hasModelUpdates = false := by
  obtain ⟨hcontainers, hports, hyaml⟩ := isSome_computeCatalogWorkloadUpdate serde new h
  simp only [CatalogWorkloadUpdate.requiresCatalogBump, Bool.or_eq_false_iff] at hbump
  obtain ⟨⟨⟨⟨h₁, h₂⟩, h₃⟩, h₄⟩, -⟩ := hbump
  rw [CatalogWorkloadUpdate.hasModelUpdates, hcontainers, hports, hyaml, h₁, h₂, h₃, h₄]
  rfl

namespace KubeClusterServer

/-- The catalog workloads that a workload event is about. -/
def eventWorkloads : List (KubeAppCatalogWorkload.Model Text) :=
  db.catalogWorkloads.select fun row =>
    row.name = event.resourceName && row.namespace = event.namespace && row.deletedAt = none &&
      row.clusterId = clusterId

/-- The update a workload event computes for a catalog workload; `none` where the kinds differ. -/
def eventUpdate (workload : KubeAppCatalogWorkload.Model Text) :
    Option (CatalogWorkloadUpdate Text) :=
  if ∃ kind ∈ KubeWorkloadKind.parse workload.kind, kind ≠ workloadKind then none
  else
    some <| computeCatalogWorkloadUpdate serde workload new
      (portsFromCachedServices new.labels
        (DbApi.matchingServices db clusterId event.namespace new.labels))
      (labelsOf (db.catalogWorkloadLabels.select fun row =>
        row.workloadId ∈ (eventWorkloads clusterId event db).map (·.id) && row.deletedAt = none)
        workload.id)
      (dependenciesOf (db.catalogWorkloadDependencies.select fun row =>
        row.workloadId ∈ (eventWorkloads clusterId event db).map (·.id) && row.deletedAt = none)
        workload.id)

/-- The change of a workload event. -/
def workloadEventChange : CatalogChange db where
  workloads := eventWorkloads clusterId event db
  put w := ((eventUpdate serde clusterId event workloadKind new db w).map (·.write w)).getD w
  bump w :=
    ((eventUpdate serde clusterId event workloadKind new db w).map (·.requiresCatalogBump)).getD false
  sublist := List.filter_sublist
  live := by
    intro w hw
    have := (Table.mem_select.1 hw).2
    simp only [Bool.and_eq_true, decide_eq_true_eq] at this
    exact this.1.2
  keepsIndex := by
    constructor <;> intro w <;> cases eventUpdate serde clusterId event workloadKind new db w <;> rfl
  bump_of_contentChanged := by
    intro w _ hchanged
    unfold eventUpdate at hchanged ⊢
    split at hchanged
    · exact absurd hchanged (not_contentChanged_self w)
    · next hkind =>
      rw [if_neg hkind]
      by_contra hbump
      have hnone := hasModelUpdates_of_not_requiresCatalogBump serde new rfl
        (Bool.eq_false_iff.2 hbump)
      rw [Option.map_some, Option.getD_some,
        CatalogWorkloadUpdate.write_of_not_hasModelUpdates _ hnone] at hchanged
      exact not_contentChanged_self w hchanged

/-- One round of the loop of `sync_catalog_from_workload_event`. -/
theorem round_syncCatalogWorkload :
    (workloadEventChange serde clusterId event workloadKind new db).Round
      (syncCatalogWorkload serde event workloadKind new
        (portsFromCachedServices new.labels
          (DbApi.matchingServices db clusterId event.namespace new.labels))
        (db.catalogWorkloadLabels.select fun row =>
          row.workloadId ∈ (eventWorkloads clusterId event db).map (·.id) && row.deletedAt = none)
        (db.catalogWorkloadDependencies.select fun row =>
          row.workloadId ∈ (eventWorkloads clusterId event db).map (·.id) &&
            row.deletedAt = none)) := by
  intro byCatalog w db₁ _ hsrc hmem
  have hrow : ∀ row ∈ db₁.catalogWorkloads.rows, row.id = w.id → row = w := fun row hr hid =>
    Table.eq_of_conflict hr hmem (.inl hid)
  unfold syncCatalogWorkload
  split
  · next hkind =>
    have hnone : eventUpdate serde clusterId event workloadKind new db w = none := if_pos hkind
    have hput : (workloadEventChange serde clusterId event workloadKind new db).put w = w := by
      simp [workloadEventChange, hnone]
    have hbump : (workloadEventChange serde clusterId event workloadKind new db).bump w = false := by
      simp [workloadEventChange, hnone]
    refine ⟨db₁, ?_, hsrc, ?_⟩
    · rw [Program.run_pure, CatalogChange.record, hbump]
      rfl
    · refine (List.map_id _).symm.trans (List.map_congr_left fun row hr => ?_)
      split
      · next hid => rw [hrow row hr hid, hput, id]
      · rfl
  · next hkind =>
    generalize hupdate : computeCatalogWorkloadUpdate serde w new _ _ _ = update
    have hsome : eventUpdate serde clusterId event workloadKind new db w = some update := by
      rw [← hupdate]
      exact if_neg hkind
    have hput : (workloadEventChange serde clusterId event workloadKind new db).put w =
        update.write w := by
      simp [workloadEventChange, hsome]
    have hbump : (workloadEventChange serde clusterId event workloadKind new db).bump w =
        update.requiresCatalogBump := by
      simp [workloadEventChange, hsome]
    -- the three statements, each under its condition
    obtain ⟨db₂, hrun₂, hsrc₂, hrows₂⟩ : ∃ db₂, (Program.when update.hasModelUpdates
        (Database.onCatalogWorkloads fun t =>
          t.updateOne (fun row => row.id = w.id) update.write)).run db₁ = (.ok ⟨⟩, db₂) ∧
        SameSources db₁ db₂ ∧ db₂.catalogWorkloads.rows = db₁.catalogWorkloads.rows.map fun row =>
          if row.id = w.id then update.write row else row := by
      cases hmodel : update.hasModelUpdates with
      | true => exact DbApi.run_updateCatalogWorkload hmem update.keepsIndex_write
      | false =>
        refine ⟨db₁, rfl, .refl db₁, ?_⟩
        simp [update.write_of_not_hasModelUpdates hmodel]
    obtain ⟨db₃, hrun₃, hsame₃⟩ := Succeeds.when DbApi.SameCatalogs.refl update.labelsChanged
      (DbApi.succeeds_replaceWorkloadLabels w.id w.appCatalogId w.clusterId w.namespace new.labels
        event.timestamp) db₂
    obtain ⟨db₄, hrun₄, hsame₄⟩ := Succeeds.when DbApi.SameCatalogs.refl update.dependenciesChanged
      (DbApi.succeeds_replaceWorkloadDependencies w.id w.appCatalogId w.clusterId w.namespace
        new.configmapRefs new.secretRefs event.timestamp) db₃
    obtain ⟨hsrc₄, hrows₄⟩ := DbApi.SameCatalogs.trans _ _ _ hsame₃ hsame₄
    refine ⟨db₄, ?_, (hsrc.trans hsrc₂).trans hsrc₄, ?_⟩
    · rw [Program.run_bind_of_ok hrun₂, Program.run_bind_of_ok hrun₃, Program.run_bind_of_ok hrun₄,
        CatalogChange.record, hbump]
      rfl
    · rw [hrows₄, hrows₂]
      refine List.map_congr_left fun row hr => ?_
      split
      · next hid => rw [hrow row hr hid, hput]
      · rfl

/-- The loop body of a workload event, with what the handler has read. -/
def workloadEventRound : HashTable Uuid (List Uuid) → KubeAppCatalogWorkload.Model Text →
    Query Text (HashTable Uuid (List Uuid)) :=
  syncCatalogWorkload serde event workloadKind new
    (portsFromCachedServices new.labels
      (DbApi.matchingServices db clusterId event.namespace new.labels))
    (db.catalogWorkloadLabels.select fun row =>
      row.workloadId ∈ (eventWorkloads clusterId event db).map (·.id) && row.deletedAt = none)
    (db.catalogWorkloadDependencies.select fun row =>
      row.workloadId ∈ (eventWorkloads clusterId event db).map (·.id) && row.deletedAt = none)

/-- A workload event about no workload ends at once, and any other one is a handler of its
change. -/
theorem run_syncCatalogFromWorkloadEvent (rs : RandomState ((_ : Uuid) × List Uuid)) :
    ((syncCatalogFromWorkloadEvent serde clusterId rs event workloadKind new).run db =
        (.ok ⟨⟩, db) ∧
      (workloadEventChange serde clusterId event workloadKind new db).workloads.isEmpty = true) ∨
    (syncCatalogFromWorkloadEvent serde clusterId rs event workloadKind new).run db =
      ((workloadEventChange serde clusterId event workloadKind new db).handler "workload"
        event.timestamp rs (workloadEventRound serde clusterId event workloadKind new db)).run
          db := by
  unfold syncCatalogFromWorkloadEvent
  rw [Program.run_bind, Program.run_read]
  dsimp only
  split
  · next hempty => exact .inl ⟨rfl, hempty⟩
  · refine .inr ?_
    rw [Program.run_bind, DbApi.run_getMatchingClusterServices]
    rfl

/-- **Workload events.** A workload event is published in every order of the hash map exactly when
its change is publishable. -/
theorem syncCatalogFromWorkloadEvent_publishes_iff :
    (∀ rs, Publishes db
      ((syncCatalogFromWorkloadEvent serde clusterId rs event workloadKind new).run db).2) ↔
      (workloadEventChange serde clusterId event workloadKind new db).Publishable := by
  have hround := round_syncCatalogWorkload serde clusterId event workloadKind new db
  rw [← (workloadEventChange serde clusterId event workloadKind new db).publishes_iff "workload"
    event.timestamp hround]
  refine forall_congr' fun rs => ?_
  rcases run_syncCatalogFromWorkloadEvent serde clusterId event workloadKind new db rs with
    ⟨hrun, hempty⟩ | hrun
  · rw [hrun]
    refine iff_of_true (publishes_refl db) ?_
    exact CatalogChange.publishes_of_publishable _ _ _ _ hround
      ((workloadEventChange serde clusterId event workloadKind new db).publishable_of_isEmpty hempty)
  · rw [hrun]
    rfl

end KubeClusterServer

end

/-! ## Service events -/

section
variable (clusterId : Uuid) («namespace» : String) (selectorMap : BTreeMap String String)
  (db : Database Text)

namespace KubeClusterServer

/-- The workloads whose labels match a selector. -/
def selectedIds : List Uuid :=
  DbApi.matchingWorkloadIds selectorMap <| db.catalogWorkloadLabels.select fun row =>
    row.clusterId = clusterId && row.namespace = «namespace» && row.deletedAt = none &&
      selectorMap.lookup row.labelKey = some row.labelValue

/-- The catalog workloads that a service event is about. -/
def selectedWorkloads : List (KubeAppCatalogWorkload.Model Text) :=
  if selectorMap.entries.isEmpty then []
  else
    db.catalogWorkloads.select fun row =>
      row.id ∈ selectedIds clusterId «namespace» selectorMap db && row.deletedAt = none

/-- The label rows of the workloads that a service event is about. -/
def selectedLabels : List KubeAppCatalogWorkloadLabel.Model :=
  db.catalogWorkloadLabels.select fun row =>
    row.workloadId ∈ selectedIds clusterId «namespace» selectorMap db && row.deletedAt = none

/-- The ports a service event computes for a catalog workload. -/
def reconciledPorts (workload : KubeAppCatalogWorkload.Model Text) : List KubeServicePort :=
  let labels :=
    (labelsOf (selectedLabels clusterId «namespace» selectorMap db) workload.id).getD ∅
  portsFromCachedServices labels (DbApi.matchingServices db clusterId «namespace» labels)

/-- The change of a service event. -/
def serviceEventChange : CatalogChange db where
  workloads := selectedWorkloads clusterId «namespace» selectorMap db
  put w := { w with ports := reconciledPorts clusterId «namespace» selectorMap db w }
  bump w := reconciledPorts clusterId «namespace» selectorMap db w ≠ w.ports
  sublist := by
    unfold selectedWorkloads
    split
    · exact List.nil_sublist _
    · exact List.filter_sublist
  live := by
    intro w hw
    unfold selectedWorkloads at hw
    split at hw
    · exact absurd hw List.not_mem_nil
    · have := (Table.mem_select.1 hw).2
      simp only [Bool.and_eq_true, decide_eq_true_eq] at this
      exact this.2
  keepsIndex := ⟨fun _ => rfl, fun _ => rfl, fun _ => rfl, fun _ => rfl, fun _ => rfl, fun _ => rfl⟩
  bump_of_contentChanged := by
    intro w _ hchanged
    rcases hchanged with h | h | h
    · exact absurd rfl h
    · exact decide_eq_true h
    · exact absurd rfl h

/-- One round of the loop of `reconcile_workloads_for_selector`. -/
theorem round_reconcileWorkload :
    (serviceEventChange clusterId «namespace» selectorMap db).Round
      (reconcileWorkload clusterId «namespace»
        (selectedLabels clusterId «namespace» selectorMap db)) := by
  intro byCatalog w db₁ _ hsrc hmem
  have hports : reconciledPorts clusterId «namespace» selectorMap db w =
      portsFromCachedServices
        ((labelsOf (selectedLabels clusterId «namespace» selectorMap db) w.id).getD ∅)
        (DbApi.matchingServices db₁ clusterId «namespace»
          ((labelsOf (selectedLabels clusterId «namespace» selectorMap db) w.id).getD ∅)) := by
    rw [DbApi.matchingServices_of_sameSources hsrc]
    rfl
  unfold reconcileWorkload
  rw [Program.run_bind, DbApi.run_getMatchingClusterServices]
  dsimp only
  rw [← hports]
  split
  · next hne =>
    obtain ⟨db₂, hrun, hsrc₂, hrows⟩ := DbApi.run_updateCatalogWorkload hmem
      (f := fun row =>
        { row with ports := reconciledPorts clusterId «namespace» selectorMap db w })
      ⟨fun _ => rfl, fun _ => rfl, fun _ => rfl, fun _ => rfl, fun _ => rfl, fun _ => rfl⟩
    refine ⟨db₂, ?_, hsrc.trans hsrc₂, ?_⟩
    · rw [Program.run_bind_of_ok hrun, CatalogChange.record, serviceEventChange]
      dsimp only
      rw [if_pos (decide_eq_true hne)]
      rfl
    · rw [hrows]
      refine List.map_congr_left fun row hr => ?_
      split
      · next hid => rw [Table.eq_of_conflict hr hmem (.inl hid)]; rfl
      · rfl
  · next heq =>
    refine ⟨db₁, ?_, hsrc, ?_⟩
    · rw [Program.run_pure, CatalogChange.record, serviceEventChange]
      dsimp only
      rw [if_neg (by simpa using heq)]
    · refine (List.map_id _).symm.trans (List.map_congr_left fun row hr => ?_)
      split
      · next hid =>
        rw [Table.eq_of_conflict hr hmem (.inl hid), serviceEventChange]
        dsimp only
        rw [not_ne_iff.1 heq, id]
      · rfl

/-- A service event about no workload ends at once, and any other one is a handler of its
change. -/
theorem run_reconcileWorkloadsForSelector (rs : RandomState ((_ : Uuid) × List Uuid))
    (observedAt : Timestamp) :
    ((reconcileWorkloadsForSelector clusterId rs «namespace» selectorMap observedAt).run db =
        (.ok ⟨⟩, db) ∧
      (serviceEventChange clusterId «namespace» selectorMap db).workloads.isEmpty = true) ∨
    (reconcileWorkloadsForSelector clusterId rs «namespace» selectorMap observedAt).run db =
      ((serviceEventChange clusterId «namespace» selectorMap db).handler "service" observedAt rs
        (reconcileWorkload clusterId «namespace»
          (selectedLabels clusterId «namespace» selectorMap db))).run db := by
  change (_ ∧ (selectedWorkloads clusterId «namespace» selectorMap db).isEmpty = true) ∨ _
  unfold reconcileWorkloadsForSelector
  split
  · next hempty =>
    refine .inl ⟨rfl, ?_⟩
    rw [selectedWorkloads, if_pos hempty]
    rfl
  · next hselector =>
    have hworkloads : selectedWorkloads clusterId «namespace» selectorMap db =
        db.catalogWorkloads.select fun row =>
          row.id ∈ selectedIds clusterId «namespace» selectorMap db && row.deletedAt = none :=
      if_neg hselector
    rw [Program.run_bind, DbApi.findWorkloadsMatchingSelector, if_neg hselector, Program.run_read]
    dsimp only
    split
    · next hempty =>
      refine .inl ⟨rfl, ?_⟩
      have hids : selectedIds clusterId «namespace» selectorMap db = [] := List.isEmpty_iff.1 hempty
      rw [hworkloads, hids]
      simp [Table.select]
    · rw [Program.run_bind, Program.run_read]
      dsimp only
      split
      · next hempty => exact .inl ⟨rfl, hworkloads ▸ hempty⟩
      · refine .inr ?_
        rw [CatalogChange.handler]
        change _ = Program.run (Program.foldEach _ ∅
          (selectedWorkloads clusterId «namespace» selectorMap db) >>= _) db
        rw [hworkloads]
        rfl

/-- **Service events.** A service event is published in every order of the hash map exactly when
its change is publishable. -/
theorem reconcileWorkloadsForSelector_publishes_iff (observedAt : Timestamp) :
    (∀ rs, Publishes db
      ((reconcileWorkloadsForSelector clusterId rs «namespace» selectorMap observedAt).run db).2) ↔
      (serviceEventChange clusterId «namespace» selectorMap db).Publishable := by
  have hround := round_reconcileWorkload clusterId «namespace» selectorMap db
  rw [← CatalogChange.publishes_iff _ "service" observedAt hround]
  refine forall_congr' fun rs => ?_
  rcases run_reconcileWorkloadsForSelector clusterId «namespace» selectorMap db rs observedAt with
    ⟨hrun, hempty⟩ | hrun
  · rw [hrun]
    refine iff_of_true (publishes_refl db) ?_
    exact CatalogChange.publishes_of_publishable _ _ _ _ hround
      ((serviceEventChange clusterId «namespace» selectorMap db).publishable_of_isEmpty hempty)
  · rw [hrun]

end KubeClusterServer

end

end Lapdev
