import Lapdev.Api.AppCatalogs
import Lapdev.Db.CatalogFrames
import Lapdev.Kube.CatalogRuns
import Lapdev.Kube.DependencyEvents

/-!
# The calls that write dependencies

Every call on catalogs keeps `Observed.Current`. Most calls write neither dependency rows nor what
these copy from their workloads (`SameDependencies`); an insertion of workloads writes the
dependencies of their YAML, and a workload event those it carries.
-/

namespace Lapdev

open RustStd Sql Programs Runs

variable {Text : Type}

/-! ## Calls that write no dependency -/

/-- What a dependency row copies from its workload. -/
def ownerKey (row : KubeAppCatalogWorkload.Model Text) : Uuid × Uuid × Uuid × String :=
  (row.id, row.appCatalogId, row.clusterId, row.namespace)

/-- Databases with the same dependency rows, whose workloads have the same keys. -/
structure SameDependencies (db db' : Database Text) : Prop where
  dependencies : db'.catalogWorkloadDependencies = db.catalogWorkloadDependencies
  owners : db'.catalogWorkloads.rows.map ownerKey = db.catalogWorkloads.rows.map ownerKey

namespace SameDependencies

/-- A state has its own dependency rows. -/
theorem refl (db : Database Text) : SameDependencies db db := ⟨rfl, rfl⟩

/-- Calls that leave the dependency rows, one after the other. -/
theorem trans (db db' db'' : Database Text) (h : SameDependencies db db')
    (h' : SameDependencies db' db'') : SameDependencies db db'' :=
  ⟨h'.dependencies.trans h.dependencies, h'.owners.trans h.owners⟩

/-- Having the same dependency rows is symmetric. -/
theorem symm {db db' : Database Text} (h : SameDependencies db db') : SameDependencies db' db :=
  ⟨h.dependencies.symm, h.owners.symm⟩

/-- Every row of a workload is one of the state before, but for what a call may change. -/
theorem exists_row {db db' : Database Text} (h : SameDependencies db db')
    {row : KubeAppCatalogWorkload.Model Text} (hrow : row ∈ db'.catalogWorkloads.rows) :
    ∃ row₀ ∈ db.catalogWorkloads.rows, ownerKey row₀ = ownerKey row := by
  have hmem := List.mem_map_of_mem (f := ownerKey) hrow
  rw [h.owners] at hmem
  exact List.mem_map.1 hmem

/-- The workloads have the same ids. -/
theorem exists_id_iff {db db' : Database Text} (h : SameDependencies db db') (id : Uuid) :
    (∃ w ∈ db'.catalogWorkloads.rows, w.id = id) ↔ ∃ w ∈ db.catalogWorkloads.rows, w.id = id := by
  constructor
  · rintro ⟨w, hw, rfl⟩
    obtain ⟨w₀, hw₀, hkey⟩ := h.exists_row hw
    exact ⟨w₀, hw₀, congrArg Prod.fst hkey⟩
  · rintro ⟨w, hw, rfl⟩
    obtain ⟨w₀, hw₀, hkey⟩ := h.symm.exists_row hw
    exact ⟨w₀, hw₀, congrArg Prod.fst hkey⟩

/-- The live dependencies of a workload are read from its rows. -/
theorem liveDependencies_eq {db db' : Database Text} (h : SameDependencies db db') (id : Uuid) :
    liveDependencies db' id = liveDependencies db id := by
  rw [liveDependencies, h.dependencies, liveDependencies]

/-- An update of catalog workloads that keeps their keys. -/
theorem updateMany {db : Database Text} {p : KubeAppCatalogWorkload.Model Text → Bool}
    {f : KubeAppCatalogWorkload.Model Text → KubeAppCatalogWorkload.Model Text}
    {t : Table (KubeAppCatalogWorkload.Model Text)} (h : db.catalogWorkloads.updateMany p f = .ok t)
    (hf : ∀ row, ownerKey (f row) = ownerKey row) :
    SameDependencies db { db with catalogWorkloads := t } := by
  refine ⟨rfl, ?_⟩
  dsimp only
  rw [Table.rows_updateMany h, List.map_map]
  refine List.map_congr_left fun row _ => ?_
  dsimp only [Function.comp_apply]
  split
  · exact hf row
  · rfl

end SameDependencies

/-- What was last seen survives where the dependency rows and the keys do. -/
theorem Observed.Current.congr {db db' : Database Text}
    {refs : Uuid → BTreeSet String × BTreeSet String} (h : Current ⟨db, refs⟩)
    (hsame : SameDependencies db db') : Current ⟨db', refs⟩ where
  rows := by
    intro w hw row
    obtain ⟨w₀, hw₀, hkey⟩ := hsame.exists_row hw
    simp only [ownerKey, Prod.mk.injEq] at hkey
    obtain ⟨hid, hcatalog, hcluster, hns⟩ := hkey
    have := h.rows w₀ hw₀ row
    rw [hid, hcatalog, hcluster, hns] at this
    rwa [hsame.liveDependencies_eq]
  others := by
    intro id hnone
    rw [hsame.liveDependencies_eq]
    refine h.others id fun w hw heq => ?_
    obtain ⟨w', hw', heq'⟩ := (hsame.exists_id_iff id).2 ⟨w, hw, heq⟩
    exact hnone w' hw' heq'

section
variable {E : Type}

/-- An update of workloads that keeps who owns them leaves the dependency rows. -/
theorem along_updateWorkloads {p : KubeAppCatalogWorkload.Model Text → Bool}
    {f : KubeAppCatalogWorkload.Model Text → KubeAppCatalogWorkload.Model Text}
    (hf : ∀ row, ownerKey (f row) = ownerKey row) :
    Along SameDependencies (Database.onCatalogWorkloads fun t => t.updateOne p f) :=
  Database.along_statement .refl fun _ _ h => .updateMany (Table.updateOne_eq_ok.1 h).2 hf

/-- A new sync version leaves the dependency rows. -/
theorem along_bumpAppCatalogSyncVersion (catalogId : Uuid) (syncedAt : Timestamp) :
    Along SameDependencies (DbApi.bumpAppCatalogSyncVersion catalogId syncedAt : Query Text Int) := by
  refine Along.bind .trans (Database.along_returning .refl fun _ _ _ => ⟨rfl, rfl⟩) fun updated => ?_
  cases updated with
  | some model => exact .refl
  | none => exact .refl

/-- New versions of workloads leave the dependency rows. -/
theorem along_updateCatalogWorkloadVersions (workloadIds : List Uuid) (version : Int) :
    Along SameDependencies (DbApi.updateCatalogWorkloadVersions workloadIds version :
      Query Text PUnit) := by
  unfold DbApi.updateCatalogWorkloadVersions
  split
  · exact .refl
  · exact Database.along_statement .refl fun _ _ h => .updateMany h fun _ => rfl

/-- The publication of changed catalogs leaves the dependency rows. -/
theorem along_publishCatalogs (change : String) (syncedAt : Timestamp)
    (entries : List ((_ : Uuid) × List Uuid)) :
    Along SameDependencies (KubeClusterServer.publishCatalogs change syncedAt entries :
      Query Text PUnit) :=
  Along.forEach .refl .trans (fun _ => Along.bind .trans
    ((along_bumpAppCatalogSyncVersion _ _).mapError _) fun _ =>
      (along_updateCatalogWorkloadVersions _ _).mapError _) entries

/-- An event of a config map or a secret reads the dependency rows and leaves them. -/
theorem along_handleDependencyChange (clusterId : Uuid) (rs : RandomState ((_ : Uuid) × List Uuid))
    (event : ResourceChangeEvent) (resourceType : DependencyType) :
    Along SameDependencies (KubeClusterServer.handleDependencyChange clusterId rs event resourceType :
      Query Text PUnit) := by
  refine Along.bind .trans ((ReadOnly.read _).along .refl) fun found => ?_
  split
  · exact .refl
  · exact Along.forEach .refl .trans (fun _ => Along.bind .trans
      ((along_bumpAppCatalogSyncVersion _ _).mapError _) fun _ =>
        (along_updateCatalogWorkloadVersions _ _).mapError _) _

/-- A changed selector leaves the dependency rows. -/
theorem along_reconcileWorkloadsForSelector (clusterId : Uuid)
    (rs : RandomState ((_ : Uuid) × List Uuid)) («namespace» : String)
    (selectorMap : BTreeMap String String) (observedAt : Timestamp) :
    Along SameDependencies (KubeClusterServer.reconcileWorkloadsForSelector clusterId rs «namespace»
      selectorMap observedAt : Query Text PUnit) := by
  have hread : ∀ (labels : BTreeMap String String), Along SameDependencies
      (DbApi.getMatchingClusterServices clusterId «namespace» labels :
        Query Text (List (CachedClusterService Text))) := by
    intro labels db
    rw [DbApi.run_getMatchingClusterServices]
    exact .refl db
  have hround : ∀ labelRows byCatalog (workload : KubeAppCatalogWorkload.Model Text),
      Along SameDependencies (KubeClusterServer.reconcileWorkload clusterId «namespace» labelRows
        byCatalog workload) := by
    intro labelRows byCatalog workload
    refine Along.bind .trans (hread _) fun services => ?_
    dsimp only
    split
    · exact Along.bind .trans (along_updateWorkloads fun _ => rfl) fun _ => .refl
    · exact .refl
  unfold KubeClusterServer.reconcileWorkloadsForSelector
  split
  · exact .refl
  refine Along.bind .trans ?_ fun matchingWorkloadIds => ?_
  · unfold DbApi.findWorkloadsMatchingSelector
    split <;> exact .refl
  split
  · exact .refl
  refine Along.bind .trans ((ReadOnly.read _).along .refl) fun workloads => ?_
  split
  · exact .refl
  refine Along.bind .trans ((ReadOnly.read _).along .refl) fun labelRows => ?_
  exact Along.bind .trans (Along.foldEach .refl .trans (hround labelRows) _ _) fun _ =>
    along_publishCatalogs _ _ _

/-- The deletion of a catalog leaves the dependency rows of its workloads. -/
theorem along_deleteAppCatalog (orgId catalogId : Uuid) (now : Timestamp) :
    Along SameDependencies (KubeController.deleteAppCatalog orgId catalogId now :
      Program (Database Text) ApiError PUnit) := by
  have hwrite : Along SameDependencies (DbApi.deleteAppCatalog catalogId now : Query Text PUnit) := by
    unfold DbApi.deleteAppCatalog Database.onAppCatalogs
    exact Database.along_statement .refl fun _ _ _ => ⟨rfl, rfl⟩
  refine Along.bind .trans (((ReadOnly.read _).mapError _).along .refl) fun found => ?_
  refine Along.bind .trans ((ReadOnly.orFail _ _).along .refl) fun catalog => ?_
  split
  · exact .refl
  refine Along.bind .trans (((ReadOnly.read _).mapError _).along .refl) fun hasEnvironments => ?_
  split
  · exact .refl
  · exact hwrite.mapError _

/-- The authorization of a call writes nothing. -/
theorem readOnly_authorizeCatalogWorkload (orgId workloadId : Uuid) :
    ReadOnly (KubeController.authorizeCatalogWorkload orgId workloadId :
      Program (Database Text) ApiError _) := by
  refine ReadOnly.bind ((ReadOnly.read _).mapError _) fun found => ?_
  refine ReadOnly.bind (ReadOnly.orFail _ _) fun workload => ?_
  refine ReadOnly.bind ((ReadOnly.read _).mapError _) fun found => ?_
  refine ReadOnly.bind (ReadOnly.orFail _ _) fun catalog => ?_
  split
  · exact ReadOnly.fail _
  · exact ReadOnly.pure _

/-- The deletion of a workload leaves its dependency rows. -/
theorem along_deleteAppCatalogWorkload (orgId workloadId : Uuid) (now : Timestamp) :
    Along SameDependencies (KubeController.deleteAppCatalogWorkload orgId workloadId now :
      Program (Database Text) ApiError PUnit) := by
  have hwrite : Along SameDependencies (DbApi.deleteAppCatalogWorkload workloadId now :
      Query Text PUnit) :=
    along_updateWorkloads (f := fun row => { row with deletedAt := some now }) fun _ => rfl
  refine Along.bind .trans ((readOnly_authorizeCatalogWorkload _ _).along .refl) fun authorized => ?_
  refine Along.bind .trans (hwrite.mapError _) fun _ => ?_
  exact Along.bind .trans ((along_bumpAppCatalogSyncVersion _ _).mapError _) fun _ => .refl

/-- New containers of a workload leave its dependency rows. -/
theorem along_updateAppCatalogWorkload
    (validateContainers : List KubeContainerInfo → Except ApiError PUnit) (orgId workloadId : Uuid)
    (containers : List KubeContainerInfo) (now : Timestamp) :
    Along SameDependencies (KubeController.updateAppCatalogWorkload validateContainers orgId
      workloadId containers now : Program (Database Text) ApiError PUnit) := by
  have hwrite : Along SameDependencies (DbApi.updateAppCatalogWorkload workloadId containers :
      Query Text PUnit) :=
    along_updateWorkloads (f := fun row => { row with containers }) fun _ => rfl
  refine Along.bind .trans ((ReadOnly.ofExcept _).along .refl) fun _ => ?_
  refine Along.bind .trans ((readOnly_authorizeCatalogWorkload _ _).along .refl) fun authorized => ?_
  refine Along.bind .trans (hwrite.mapError _) fun _ => ?_
  exact Along.bind .trans ((along_bumpAppCatalogSyncVersion _ _).mapError _) fun _ =>
    (along_updateCatalogWorkloadVersions _ _).mapError _

end

/-! ## Insertions -/

namespace Observed

section
variable (fromStr : Text → Option Yaml.Value) {refs : Uuid → BTreeSet String × BTreeSet String}

/-- The dependencies of inserted workloads are those of their YAML. -/
def insertedRefs (workloads : List (Uuid × KubeWorkloadDetails Text))
    (refs : Uuid → BTreeSet String × BTreeSet String) (id : Uuid) :
    BTreeSet String × BTreeSet String :=
  ((workloads.find? fun w => w.1 = id).map fun w =>
    dependenciesFromWorkloadYaml fromStr w.2.kind w.2.workloadYaml).getD (refs id)

/-- What was last seen after a call that may have inserted some workloads: of the workloads that are
new in the database, what was inserted. -/
def afterInsertion (workloads : List (Uuid × KubeWorkloadDetails Text)) (db db' : Database Text)
    (refs : Uuid → BTreeSet String × BTreeSet String) (id : Uuid) :
    BTreeSet String × BTreeSet String :=
  if (∃ w ∈ db'.catalogWorkloads.rows, w.id = id) ∧ ¬∃ w ∈ db.catalogWorkloads.rows, w.id = id then
    insertedRefs fromStr workloads refs id
  else refs id

/-- The first of some workloads have been inserted. -/
structure Inserted (db₀ : Database Text) (refs : Uuid → BTreeSet String × BTreeSet String)
    (done : List (Uuid × KubeWorkloadDetails Text)) (db : Database Text) : Prop where
  current : Current ⟨db, insertedRefs fromStr done refs⟩
  ids : ∀ id, (∃ w ∈ db.catalogWorkloads.rows, w.id = id) ↔
    (∃ w ∈ db₀.catalogWorkloads.rows, w.id = id) ∨ id ∈ done.map (·.1)
  fresh : ∀ id ∈ done.map (·.1), ¬∃ w ∈ db₀.catalogWorkloads.rows, w.id = id

variable {fromStr} {db₀ db db' : Database Text} {done : List (Uuid × KubeWorkloadDetails Text)}

/-- What has been inserted depends on the dependency rows only. -/
theorem Inserted.congr (h : Inserted fromStr db₀ refs done db) (hsame : SameDependencies db db') :
    Inserted fromStr db₀ refs done db' :=
  ⟨h.current.congr hsame, fun id => (hsame.exists_id_iff id).trans (h.ids id), h.fresh⟩

/-- Before the first workload nothing has been inserted. -/
theorem Inserted.nil (h : Current ⟨db₀, refs⟩) : Inserted fromStr db₀ refs [] db₀ :=
  ⟨h, by simp, by simp⟩

/-- Only the last workload is new to the dependencies. -/
theorem insertedRefs_snoc {workload : Uuid × KubeWorkloadDetails Text} {id : Uuid}
    (h : id ≠ workload.1) :
    insertedRefs fromStr (done ++ [workload]) refs id = insertedRefs fromStr done refs id := by
  have hlast : [workload].find? (fun w => w.1 = id) = none := by simp [Ne.symm h]
  rw [insertedRefs, List.find?_append, hlast, Option.or_none, insertedRefs]

/-- The last workload has the references of its text. -/
theorem insertedRefs_snoc_self {workload : Uuid × KubeWorkloadDetails Text}
    (h : workload.1 ∉ done.map (·.1)) :
    insertedRefs fromStr (done ++ [workload]) refs workload.1 =
      dependenciesFromWorkloadYaml fromStr workload.2.kind workload.2.workloadYaml := by
  have hnone : done.find? (fun w => w.1 = workload.1) = none := by
    refine List.find?_eq_none.2 fun w hw hwid => h ?_
    exact List.mem_map.2 ⟨w, hw, of_decide_eq_true hwid⟩
  rw [insertedRefs, List.find?_append, hnone]
  simp

/-- One more workload, with its dependency rows. -/
theorem Inserted.snoc (h : Inserted fromStr db₀ refs done db)
    {workload : Uuid × KubeWorkloadDetails Text} {row : KubeAppCatalogWorkload.Model Text}
    (hid : row.id = workload.1) {t : Table (KubeAppCatalogWorkload.Model Text)}
    (hinsert : db.catalogWorkloads.insert row = .ok t)
    (hworkloads : db'.catalogWorkloads = t)
    (hwrites : WritesDependencies row.id
      (dependencyRows row.appCatalogId row.clusterId row.namespace
        (dependenciesFromWorkloadYaml fromStr workload.2.kind workload.2.workloadYaml)) db db') :
    Inserted fromStr db₀ refs (done ++ [workload]) db' := by
  have hfresh : ∀ w ∈ db.catalogWorkloads.rows, w.id ≠ row.id := fun w hw heq =>
    Table.not_conflict_of_insert hinsert hw (.inl heq)
  have hnew : ¬∃ w ∈ db.catalogWorkloads.rows, w.id = workload.1 :=
    fun ⟨w, hw, heq⟩ => hfresh w hw (heq.trans hid.symm)
  have hnotDone : workload.1 ∉ done.map (·.1) := fun hin => hnew ((h.ids _).2 (.inr hin))
  have hmem : ∀ w, w ∈ db'.catalogWorkloads.rows ↔ w ∈ db.catalogWorkloads.rows ∨ w = row := by
    intro w
    rw [hworkloads]
    exact Table.mem_insert hinsert
  refine ⟨⟨fun w hw dependency => ?_, fun id hnone => ?_⟩, fun id => ?_, fun id hin => ?_⟩
  · rcases (hmem w).1 hw with hw | rfl
    · have hne : w.id ≠ workload.1 := fun heq => hnew ⟨w, hw, heq⟩
      rw [hwrites.others _ (hfresh w hw)]
      dsimp only
      rw [insertedRefs_snoc hne]
      exact h.current.rows w hw dependency
    · rw [hwrites.own, hid]
      dsimp only
      rw [insertedRefs_snoc_self hnotDone]
  · have hne : id ≠ row.id := fun heq => hnone row ((hmem row).2 (.inr rfl)) heq.symm
    rw [hwrites.others id hne]
    exact h.current.others id fun w hw => hnone w ((hmem w).2 (.inl hw))
  · rw [List.map_append, List.mem_append, ← or_assoc, ← h.ids id]
    constructor
    · rintro ⟨w, hw, rfl⟩
      rcases (hmem w).1 hw with hw | rfl
      · exact .inl ⟨w, hw, rfl⟩
      · exact .inr (by simp [hid])
    · rintro (⟨w, hw, rfl⟩ | hin)
      · exact ⟨w, (hmem w).2 (.inl hw), rfl⟩
      · exact ⟨row, (hmem row).2 (.inr rfl), by simpa [hid, eq_comm] using hin⟩
  · rw [List.map_append, List.mem_append] at hin
    rcases hin with hin | hin
    · exact h.fresh id hin
    · intro hex
      have heq : id = workload.1 := by simpa using hin
      exact hnew (heq ▸ (h.ids id).2 (.inl hex))

/-- The insertion of some workloads. -/
theorem triple_insertEnrichedWorkloads (h : Current ⟨db₀, refs⟩) (catalogId clusterId : Uuid)
    (createdAt : Timestamp) (workloads : List (Uuid × KubeWorkloadDetails Text)) :
    Triple (SameDependencies db₀)
      (Program.forEach (DbApi.insertEnrichedWorkload fromStr catalogId clusterId createdAt) workloads)
      (fun _ => Inserted fromStr db₀ refs workloads) fun _ _ => True := by
  have hloop : Triple (Inserted fromStr db₀ refs [])
      (Program.forEach (DbApi.insertEnrichedWorkload fromStr catalogId clusterId createdAt) workloads)
      (fun _ => Inserted fromStr db₀ refs workloads) fun _ _ => True := by
    refine Triple.forEach_done fun done workload rest _ => ?_
    refine Triple.bind (Q := fun _ db' => ∃ db row t, Inserted fromStr db₀ refs done db ∧
      row.id = workload.1 ∧ (row.appCatalogId, row.clusterId, row.namespace) =
        (catalogId, clusterId, workload.2.namespace) ∧ db.catalogWorkloads.insert row = .ok t ∧
      SameDependencies { db with catalogWorkloads := t } db') ?_ fun _ => ?_
    · exact Database.triple_statement
        (fun db t hdb ht => ⟨db, _, t, hdb, rfl, rfl, ht, .refl _⟩) fun _ _ _ => trivial
    refine Triple.bind (Q := fun _ db' => ∃ db row t, Inserted fromStr db₀ refs done db ∧
      row.id = workload.1 ∧ (row.appCatalogId, row.clusterId, row.namespace) =
        (catalogId, clusterId, workload.2.namespace) ∧ db.catalogWorkloads.insert row = .ok t ∧
      SameDependencies { db with catalogWorkloads := t } db') ?_ fun _ => ?_
    · refine ((DbApi.along_replaceWorkloadLabels (R := SameDependencies) .refl .trans
        (fun _ _ => ⟨rfl, rfl⟩) _ _ _ _ _ _).preserves fun db₁ db₂ hsame => ?_).consequence (fun _ h => h) (fun _ _ h => h)
          fun _ _ _ => trivial
      rintro ⟨db, row, t, hdb, hid, hrow, ht, hkept⟩
      exact ⟨db, row, t, hdb, hid, hrow, ht, hkept.trans _ _ _ hsame⟩
    · rintro db₂ ⟨db, row, t, hdb, hid, hrow, ht, hkept⟩
      simp only [Prod.mk.injEq] at hrow
      obtain ⟨hcatalog, hcluster, hns⟩ := hrow
      obtain ⟨t', hrun, hwrites⟩ := DbApi.run_replaceWorkloadDependencies workload.1 catalogId
        clusterId workload.2.namespace createdAt
        (dependenciesFromWorkloadYaml fromStr workload.2.kind workload.2.workloadYaml).1
        (dependenciesFromWorkloadYaml fromStr workload.2.kind workload.2.workloadYaml).2 db₂
      rw [hrun]
      -- the same rows over the tables before the label statements
      have hinserted : Inserted fromStr db₀ refs (done ++ [workload])
          { db with catalogWorkloads := t, catalogWorkloadDependencies := t' } := by
        refine hdb.snoc hid ht rfl ⟨?_, fun id hne => ?_⟩
        · rw [hid, hcatalog, hcluster, hns]
          exact hwrites.own
        · refine (hwrites.others id (hid ▸ hne)).trans ?_
          exact hkept.liveDependencies_eq id
      exact hinserted.congr ⟨rfl, hkept.owners⟩
  exact hloop.consequence (fun _ hsame => (Inserted.nil h).congr hsame) (fun _ _ h => h)
    fun _ _ h => h

/-- Inserted workloads are what the call has inserted. -/
theorem Inserted.afterInsertion {workloads : List (Uuid × KubeWorkloadDetails Text)}
    (h : Inserted fromStr db₀ refs workloads db) :
    Current ⟨db, Observed.afterInsertion fromStr workloads db₀ db refs⟩ := by
  have hrefs : Observed.afterInsertion fromStr workloads db₀ db refs =
      insertedRefs fromStr workloads refs := by
    funext id
    unfold Observed.afterInsertion
    split
    · rfl
    · next hnot =>
      have hid : id ∉ workloads.map (·.1) := fun hid => hnot ⟨(h.ids id).2 (.inr hid), h.fresh id hid⟩
      have hfind : workloads.find? (fun w => w.1 = id) = none := by
        refine List.find?_eq_none.2 fun w hw hwid => hid ?_
        exact List.mem_map.2 ⟨w, hw, of_decide_eq_true hwid⟩
      rw [insertedRefs, hfind]
      rfl
  rw [hrefs]
  exact h.current

/-- A call that has inserted nothing. -/
theorem Current.afterInsertion (h : Current ⟨db₀, refs⟩) (hsame : SameDependencies db₀ db)
    (workloads : List (Uuid × KubeWorkloadDetails Text)) :
    Current ⟨db, Observed.afterInsertion fromStr workloads db₀ db refs⟩ := by
  have hrefs : Observed.afterInsertion fromStr workloads db₀ db refs = refs := by
    funext id
    exact if_neg fun hnew => hnew.2 ((hsame.exists_id_iff id).1 hnew.1)
  rw [hrefs]
  exact h.congr hsame

/-- What a call has inserted survives where the dependency rows and the keys do. -/
theorem afterInsertion_congr (hsame : SameDependencies db db')
    (workloads : List (Uuid × KubeWorkloadDetails Text)) :
    Observed.afterInsertion fromStr workloads db₀ db' refs =
      Observed.afterInsertion fromStr workloads db₀ db refs := by
  funext id
  simp only [Observed.afterInsertion, hsame.exists_id_iff]

/-- The creation of a catalog keeps what was last seen. -/
theorem Current.createAppCatalog (h : Current ⟨db, refs⟩) (orgId clusterId : Uuid) (name : String)
    (workloads : List (Uuid × KubeWorkloadDetails Text)) (catalogId : Uuid) (now : Timestamp)
    (hdb' : db' = ((DbApi.createAppCatalogWithEnrichedWorkloads fromStr orgId clusterId name
      workloads catalogId now).run db).2) :
    Current ⟨db', Observed.afterInsertion fromStr workloads db db' refs⟩ := by
  have hbody : Triple (SameDependencies db)
      (DbApi.createAppCatalogWithEnrichedWorkloads fromStr orgId clusterId name workloads catalogId
        now) (fun _ => Inserted fromStr db refs workloads) fun _ => SameDependencies db := by
    refine Triple.atomic (F := fun _ _ => True) ?_
    refine Triple.bind (Q := fun _ => SameDependencies db) ?_ fun _ => ?_
    · exact Database.triple_statement (fun _ _ hsame _ => hsame.trans _ _ _ ⟨rfl, rfl⟩)
        fun _ _ _ => trivial
    · exact Triple.bind (triple_insertEnrichedWorkloads h catalogId clusterId now workloads)
        fun _ => Triple.pure fun _ hinserted => hinserted
  have hend := hbody db (.refl db)
  subst hdb'
  split at hend
  · next hrun => rw [hrun]; exact hend.afterInsertion
  · next hrun => rw [hrun]; exact h.afterInsertion hend workloads

/-- The workloads a call got from the cluster. -/
def enrichedWorkloads (enriched : Except ApiError (List (Uuid × KubeWorkloadDetails Text))) :
    List (Uuid × KubeWorkloadDetails Text) :=
  match enriched with
  | .ok workloads => workloads
  | .error _ => []

/-- The addition of workloads to a catalog keeps what was last seen. -/
theorem Current.addWorkloadsToAppCatalog (h : Current ⟨db, refs⟩) (orgId catalogId : Uuid)
    (enriched : Except ApiError (List (Uuid × KubeWorkloadDetails Text))) (now : Timestamp)
    (hdb' : db' = ((KubeController.addWorkloadsToAppCatalog fromStr orgId catalogId enriched
      now).run db).2) :
    Current ⟨db', Observed.afterInsertion fromStr (enrichedWorkloads enriched) db db' refs⟩ := by
  let Seen (db' : Database Text) : Prop :=
    Current ⟨db', Observed.afterInsertion fromStr (enrichedWorkloads enriched) db db' refs⟩
  have hseen : ∀ s, SameDependencies db s → Seen s := fun s hsame => h.afterInsertion hsame _
  have hkeeps : ∀ {E α : Type} {m : Program (Database Text) E α}, Along SameDependencies m →
      Preserves Seen m := fun hm => hm.preserves fun s s' hsame hs => by
    have := Current.congr hs hsame
    rwa [← afterInsertion_congr hsame] at this
  have hread : ∀ {α : Type} {m : Program (Database Text) ApiError α}, ReadOnly m →
      Triple (SameDependencies db) m (fun _ => SameDependencies db) fun _ => Seen := fun hm =>
    (hm.preserves _).consequence (fun _ h => h) (fun _ _ h => h) fun _ s hs => hseen s hs
  have hcall : Triple (SameDependencies db)
      (KubeController.addWorkloadsToAppCatalog fromStr orgId catalogId enriched now)
      (fun _ => Seen) fun _ => Seen := by
    refine Triple.bind (hread ((ReadOnly.read _).mapError _)) fun found => ?_
    refine Triple.bind (hread (ReadOnly.orFail _ _)) fun catalog => ?_
    split
    · exact Triple.fail hseen
    refine Triple.bind (Q := fun workloads s => SameDependencies db s ∧
      workloads = enrichedWorkloads enriched) ?_ fun workloads => ?_
    · refine Triple.ofExcept (fun workloads s heq hs => ⟨hs, ?_⟩) fun _ s hs => hseen s hs
      rw [heq, enrichedWorkloads]
    refine Triple.bind (Q := fun _ => Seen) ?_ fun insertedIds => ?_
    · rintro s ⟨hs, rfl⟩
      have hinsert : Triple (SameDependencies db)
          (DbApi.insertEnrichedWorkloadsToCatalog fromStr catalogId catalog.clusterId
            (enrichedWorkloads enriched) now)
          (fun _ => Inserted fromStr db refs (enrichedWorkloads enriched)) fun _ _ => True :=
        Triple.bind (triple_insertEnrichedWorkloads h catalogId catalog.clusterId now _) fun _ =>
          Triple.pure fun _ hinserted => hinserted
      have hatomic := Triple.mapError (g := KubeController.insertionError)
        (F := fun _ => SameDependencies db) hinsert.atomic
      exact hatomic.consequence (fun _ h => h) (fun _ _ hinserted => hinserted.afterInsertion)
        (fun _ s hsame => hseen s hsame) s hs
    · exact Preserves.bind (hkeeps ((along_bumpAppCatalogSyncVersion _ _).mapError _)) fun _ =>
        hkeeps ((along_updateCatalogWorkloadVersions _ _).mapError _)
  have hend := hcall db (.refl db)
  subst hdb'
  split at hend <;> next hrun => rw [hrun]; exact hend

end

/-! ## Workload events -/

section
variable {Json : Type} [DecidableEq Json] (serde : SerdeParsers Text Json) (clusterId : Uuid)
  (event : ResourceChangeEvent) (workloadKind : KubeWorkloadKind) (new : WorkloadSnapshot Text Json)

/-- What was last seen after an event about some workloads: those of its kind are as the event
says. -/
def eventRefs (workloads : List (KubeAppCatalogWorkload.Model Text))
    (refs : Uuid → BTreeSet String × BTreeSet String) (id : Uuid) :
    BTreeSet String × BTreeSet String :=
  if ∃ w ∈ workloads, w.id = id ∧ ¬∃ kind ∈ KubeWorkloadKind.parse w.kind, kind ≠ workloadKind then
    (new.configmapRefs, new.secretRefs)
  else refs id

variable {refs : Uuid → BTreeSet String × BTreeSet String} {db db₁ : Database Text}
  {w : KubeAppCatalogWorkload.Model Text}

/-- The names of a type among the rows of a workload. -/
theorem mem_names_iff (h : Current ⟨db, refs⟩) (hw : w ∈ db.catalogWorkloads.rows)
    (type : DependencyType) (name : String) :
    name ∈ type.names (refs w.id) ↔ ∃ row ∈ db.catalogWorkloadDependencies.rows,
      row.workloadId = w.id ∧ row.deletedAt = none ∧ row.resourceType.toLower = type.toString ∧
        row.resourceName = name := by
  have hrows := h.rows w hw
  simp only [mem_dependencyRows, liveDependencies, List.mem_map, Table.mem_select,
    Bool.and_eq_true, decide_eq_true_eq] at hrows
  constructor
  · intro hname
    obtain ⟨row, ⟨hmem, hid, hlive⟩, heq⟩ := (hrows ⟨w.appCatalogId, w.clusterId, w.namespace, name,
      type.toString⟩).2 ⟨rfl, rfl, rfl, type, rfl, hname⟩
    simp only [DependencyRow.mk.injEq] at heq
    refine ⟨row, hmem, hid, hlive, ?_, heq.2.2.2.1⟩
    rw [heq.2.2.2.2, type.toLower_toString]
  · rintro ⟨row, hmem, hid, hlive, htype, rfl⟩
    obtain ⟨-, -, -, type', htype', hname⟩ := (hrows _).1 ⟨row, ⟨hmem, hid, hlive⟩, rfl⟩
    dsimp only at htype' hname
    rw [htype', type'.toLower_toString] at htype
    rwa [← DependencyType.toString_injective htype]

/-- An event that finds no change of the dependencies of a workload carries the ones last seen. -/
theorem mem_names_of_not_changed (h : Current ⟨db, refs⟩) (hw : w ∈ db.catalogWorkloads.rows)
    {ids : List Uuid} (hid : w.id ∈ ids) {servicePorts : List KubeServicePort}
    {labels : Option (BTreeMap String String)}
    (hsame : (computeCatalogWorkloadUpdate serde w new servicePorts labels
      (dependenciesOf (db.catalogWorkloadDependencies.select fun row =>
        row.workloadId ∈ ids && row.deletedAt = none) w.id)).dependenciesChanged = false)
    (type : DependencyType) (name : String) :
    name ∈ type.names (refs w.id) ↔ name ∈ type.names (new.configmapRefs, new.secretRefs) := by
  unfold computeCatalogWorkloadUpdate dependenciesOf at hsame
  dsimp only at hsame
  generalize hrows : (db.catalogWorkloadDependencies.select fun row =>
    row.workloadId ∈ ids && row.deletedAt = none).filter (fun row => row.workloadId = w.id) = rows
    at hsame
  have hmem : ∀ row, row ∈ rows ↔
      row ∈ db.catalogWorkloadDependencies.rows ∧ row.workloadId = w.id ∧ row.deletedAt = none := by
    intro row
    rw [← hrows]
    simp only [List.mem_filter, Table.mem_select, Bool.and_eq_true, decide_eq_true_eq]
    constructor
    · rintro ⟨⟨hrow, -, hlive⟩, heq⟩
      exact ⟨hrow, heq, hlive⟩
    · rintro ⟨hrow, heq, hlive⟩
      exact ⟨⟨hrow, heq ▸ hid, hlive⟩, heq⟩
  have hfound : name ∈ type.names (refs w.id) ↔
      name ∈ (rows.filter fun row => row.resourceType.toLower = type.toString).map
        (·.resourceName) := by
    rw [mem_names_iff h hw]
    simp only [List.mem_map, List.mem_filter, hmem, decide_eq_true_eq]
    constructor
    · rintro ⟨row, hrow, heq, hlive, htype, hname⟩
      exact ⟨row, ⟨⟨hrow, heq, hlive⟩, htype⟩, hname⟩
    · rintro ⟨row, ⟨⟨hrow, heq, hlive⟩, htype⟩, hname⟩
      exact ⟨row, hrow, heq, hlive, htype, hname⟩
  rw [hfound]
  cases rows with
  | nil =>
    simp only [Bool.not_eq_false', decide_not, Bool.and_eq_true,
      List.isEmpty_iff, decide_eq_true_eq] at hsame
    cases type with
    | configmap => simp [DependencyType.names, hsame.1]
    | secret => simp [DependencyType.names, hsame.2]
  | cons row rows =>
    simp only [decide_not, Bool.or_eq_false_iff, Bool.not_eq_false', decide_eq_true_eq] at hsame
    cases type with
    | configmap => exact ⟨fun hin => hsame.1.1 hin, fun hin => hsame.1.2 hin⟩
    | secret => exact ⟨fun hin => hsame.2.1 hin, fun hin => hsame.2.2 hin⟩

/-- A workload with other dependencies, and the rows that stand for them. -/
theorem Current.update (h : Current ⟨db, refs⟩) {row : KubeAppCatalogWorkload.Model Text}
    (hrow : row ∈ db.catalogWorkloads.rows) {refs' : BTreeSet String × BTreeSet String}
    (hworkloads : db₁.catalogWorkloads = db.catalogWorkloads)
    (hown : ∀ dependency, dependency ∈ liveDependencies db₁ row.id ↔
      dependency ∈ dependencyRows row.appCatalogId row.clusterId row.namespace refs')
    (hothers : ∀ id ≠ row.id, liveDependencies db₁ id = liveDependencies db id) :
    Current ⟨db₁, Function.update refs row.id refs'⟩ where
  rows := by
    dsimp only
    rw [hworkloads]
    intro w hw dependency
    rcases eq_or_ne w.id row.id with heq | hne
    · cases Table.eq_of_conflict hw hrow (.inl heq)
      rw [Function.update_self]
      exact hown dependency
    · rw [Function.update_of_ne hne, hothers w.id hne]
      exact h.rows w hw dependency
  others := by
    dsimp only
    rw [hworkloads]
    intro id hnone
    rw [hothers id fun heq => hnone row hrow heq.symm]
    exact h.others id hnone

omit [DecidableEq Json] in
/-- An event gives a workload of its kind the references of the new text. -/
theorem eventRefs_snoc (workloads : List (KubeAppCatalogWorkload.Model Text))
    (hkind : ¬∃ kind ∈ KubeWorkloadKind.parse w.kind, kind ≠ workloadKind) :
    eventRefs workloadKind new (workloads ++ [w]) refs =
      Function.update (eventRefs workloadKind new workloads refs) w.id
        (new.configmapRefs, new.secretRefs) := by
  funext id
  rcases eq_or_ne id w.id with rfl | hne
  · rw [Function.update_self]
    exact if_pos ⟨w, by simp, rfl, hkind⟩
  · rw [Function.update_of_ne hne]
    have hlast : (∃ w' ∈ workloads ++ [w], w'.id = id ∧
        ¬∃ kind ∈ KubeWorkloadKind.parse w'.kind, kind ≠ workloadKind) ↔
        ∃ w' ∈ workloads, w'.id = id ∧
          ¬∃ kind ∈ KubeWorkloadKind.parse w'.kind, kind ≠ workloadKind := by
      constructor
      · rintro ⟨w', hw', hid, hw'kind⟩
        rcases List.mem_append.1 hw' with hw' | hw'
        · exact ⟨w', hw', hid, hw'kind⟩
        · cases List.mem_singleton.1 hw'
          exact absurd hid.symm hne
      · rintro ⟨w', hw', hid, hw'kind⟩
        exact ⟨w', List.mem_append_left _ hw', hid, hw'kind⟩
    simp only [eventRefs, hlast]

omit [DecidableEq Json] in
/-- An event leaves a workload of another kind. -/
theorem eventRefs_snoc_of_otherKind (workloads : List (KubeAppCatalogWorkload.Model Text))
    (hkind : ∃ kind ∈ KubeWorkloadKind.parse w.kind, kind ≠ workloadKind) :
    eventRefs workloadKind new (workloads ++ [w]) refs = eventRefs workloadKind new workloads refs := by
  funext id
  have hlast : (∃ w' ∈ workloads ++ [w], w'.id = id ∧
      ¬∃ kind ∈ KubeWorkloadKind.parse w'.kind, kind ≠ workloadKind) ↔
      ∃ w' ∈ workloads, w'.id = id ∧
        ¬∃ kind ∈ KubeWorkloadKind.parse w'.kind, kind ≠ workloadKind := by
    constructor
    · rintro ⟨w', hw', hid, hw'kind⟩
      rcases List.mem_append.1 hw' with hw' | hw'
      · exact ⟨w', hw', hid, hw'kind⟩
      · cases List.mem_singleton.1 hw'
        exact absurd hkind hw'kind
    · rintro ⟨w', hw', hid, hw'kind⟩
      exact ⟨w', List.mem_append_left _ hw', hid, hw'kind⟩
  simp only [eventRefs, hlast]

/-- One round of a workload event. -/
theorem triple_workloadEventRound (h : Current ⟨db, refs⟩)
    {done rest : List (KubeAppCatalogWorkload.Model Text)}
    (hsplit : done ++ w :: rest = KubeClusterServer.eventWorkloads clusterId event db)
    (byCatalog : HashTable Uuid (List Uuid)) :
    Triple (fun db₁ => Current ⟨db₁, eventRefs workloadKind new done refs⟩ ∧
        db₁.catalogWorkloads.rows.map ownerKey = db.catalogWorkloads.rows.map ownerKey)
      (KubeClusterServer.workloadEventRound serde clusterId event workloadKind new db byCatalog w)
      (fun _ db₁ => Current ⟨db₁, eventRefs workloadKind new (done ++ [w]) refs⟩ ∧
        db₁.catalogWorkloads.rows.map ownerKey = db.catalogWorkloads.rows.map ownerKey)
      fun _ _ => True := by
  have hin : w ∈ KubeClusterServer.eventWorkloads clusterId event db := hsplit ▸ by simp
  have hw : w ∈ db.catalogWorkloads.rows := (Table.mem_select.1 hin).1
  have hnodup : ((KubeClusterServer.eventWorkloads clusterId event db).map (·.id)).Nodup :=
    (KubeClusterServer.workloadEventChange serde clusterId event workloadKind new db).nodup_ids
  have hfirst : eventRefs workloadKind new done refs w.id = refs w.id := by
    refine if_neg fun ⟨w', hw', hid, _⟩ => ?_
    rw [← hsplit, List.map_append, List.nodup_append] at hnodup
    exact hnodup.2.2 w'.id (List.mem_map_of_mem hw') w.id (by simp) hid
  unfold KubeClusterServer.workloadEventRound KubeClusterServer.syncCatalogWorkload
  split
  · next hkind =>
    rw [eventRefs_snoc_of_otherKind workloadKind new done hkind]
    exact Triple.pure fun _ hs => hs
  · next hkind =>
    rw [eventRefs_snoc workloadKind new done hkind]
    generalize hupdate : computeCatalogWorkloadUpdate serde w new _ _ _ = update
    -- the statements before the dependencies are written
    have hkeeps : ∀ {α : Type} {m : Query Text α}, Along SameDependencies m →
        Triple (fun db₁ => Current ⟨db₁, eventRefs workloadKind new done refs⟩ ∧
            db₁.catalogWorkloads.rows.map ownerKey = db.catalogWorkloads.rows.map ownerKey) m
          (fun _ db₁ => Current ⟨db₁, eventRefs workloadKind new done refs⟩ ∧
            db₁.catalogWorkloads.rows.map ownerKey = db.catalogWorkloads.rows.map ownerKey)
          fun _ _ => True := fun hm =>
      (hm.preserves fun s s' hsame hs => ⟨hs.1.congr hsame, hsame.owners.trans hs.2⟩).consequence
        (fun _ h => h) (fun _ _ h => h) fun _ _ _ => trivial
    refine Triple.bind (hkeeps (Along.when .refl _ (along_updateWorkloads fun _ => rfl))) fun _ => ?_
    refine Triple.bind (hkeeps (Along.when .refl _ (DbApi.along_replaceWorkloadLabels
      (R := SameDependencies) .refl .trans (fun _ _ => ⟨rfl, rfl⟩) _ _ _ _ _ _))) fun _ => ?_
    refine Triple.bind (Q := fun _ db₁ => Current ⟨db₁, Function.update
        (eventRefs workloadKind new done refs) w.id (new.configmapRefs, new.secretRefs)⟩ ∧
      db₁.catalogWorkloads.rows.map ownerKey = db.catalogWorkloads.rows.map ownerKey) ?_
      fun _ => Triple.pure fun _ hs => hs
    rintro db₁ ⟨hcurrent, howners⟩
    have hkey : ownerKey w ∈ db₁.catalogWorkloads.rows.map ownerKey :=
      howners ▸ List.mem_map_of_mem hw
    obtain ⟨row, hrow, hrowKey⟩ := List.mem_map.1 hkey
    simp only [ownerKey, Prod.mk.injEq] at hrowKey
    obtain ⟨hid, hcatalog, hcluster, hns⟩ := hrowKey
    cases hchanged : update.dependenciesChanged with
    | true =>
      obtain ⟨t, hrun, hwrites⟩ := DbApi.run_replaceWorkloadDependencies w.id w.appCatalogId
        w.clusterId w.namespace event.timestamp new.configmapRefs new.secretRefs db₁
      rw [Program.when, if_pos rfl, hrun]
      refine ⟨?_, howners⟩
      rw [← hid]
      refine hcurrent.update hrow rfl (fun dependency => ?_) fun id hne => ?_
      · rw [hid, hcatalog, hcluster, hns, hwrites.own]
      · exact hwrites.others id (hid ▸ hne)
    | false =>
      refine ⟨?_, howners⟩
      rw [← hid]
      refine hcurrent.update hrow rfl (fun dependency => ?_) fun _ _ => rfl
      have hsame := mem_names_of_not_changed serde new h hw (List.mem_map_of_mem hin)
        ((congrArg _ hupdate).trans hchanged)
      rw [hcurrent.rows row hrow, mem_dependencyRows, mem_dependencyRows]
      dsimp only
      simp only [hid, hfirst, hsame]

/-- A workload event leaves what it has seen. -/
theorem Current.syncCatalogFromWorkloadEvent (h : Current ⟨db, refs⟩)
    (rs : RandomState ((_ : Uuid) × List Uuid)) :
    Current ⟨((KubeClusterServer.syncCatalogFromWorkloadEvent serde clusterId rs event workloadKind
        new).run db).2,
      eventRefs workloadKind new (KubeClusterServer.eventWorkloads clusterId event db) refs⟩ := by
  rcases KubeClusterServer.run_syncCatalogFromWorkloadEvent serde clusterId event workloadKind new db
    rs with ⟨hrun, hempty⟩ | hrun
  · have hnil : KubeClusterServer.eventWorkloads clusterId event db = [] :=
      List.isEmpty_iff.1 hempty
    rw [hrun, hnil]
    exact h
  · let change := KubeClusterServer.workloadEventChange serde clusterId event workloadKind new db
    obtain ⟨db₁, hloop, -, -⟩ := change.run_rounds
      (f := KubeClusterServer.workloadEventRound serde clusterId event workloadKind new db)
      (KubeClusterServer.round_syncCatalogWorkload serde clusterId event workloadKind new db)
      (List.Subset.refl _) change.nodup_ids ∅ (.refl db) change.sublist.subset
    have hrounds := Triple.foldEach_done (E := fun _ _ => True)
      (I := fun done _ db₁ => Current ⟨db₁, eventRefs workloadKind new done refs⟩ ∧
        db₁.catalogWorkloads.rows.map ownerKey = db.catalogWorkloads.rows.map ownerKey)
      (fun done byCatalog w rest hsplit =>
        triple_workloadEventRound serde clusterId event workloadKind new h hsplit byCatalog) ∅
    have hstart : eventRefs workloadKind new [] refs = refs := by
      funext id
      simp [eventRefs]
    have hcurrent := (hrounds.of_run_ok ⟨hstart.symm ▸ h, rfl⟩ hloop).1
    rw [hrun, CatalogChange.handler, Program.run_bind_of_ok hloop]
    exact hcurrent.congr (along_publishCatalogs _ _ _ db₁)

end

end Observed

end Lapdev
