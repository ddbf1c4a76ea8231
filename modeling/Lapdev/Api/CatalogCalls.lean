import Lapdev.Api.CatalogVersions
import Lapdev.Db.CatalogFrames
import Lapdev.Kube.CatalogRuns

/-!
# The calls on catalogs

Every call that changes a catalog or the services of a cluster keeps `Sound`
(`sound_catalogCall` for those of `Lapdev.Kube.CatalogRuns`, and one triple for each of the calls
that change the workloads of a catalog). The statements between the reads of a call and its bump
either leave all that `Sound` reads, or say which workloads are unstamped.
-/

namespace Lapdev

open RustStd Sql Programs

variable {Text : Type}

namespace KubeController

/-! ## Statements that `Sound` does not see -/

/-- A state has its own versions. -/
theorem SameVersions.refl (db : Database Text) : SameVersions db db := ⟨rfl, rfl, rfl, rfl⟩

/-- Calls that leave the versions, one after the other. -/
theorem SameVersions.trans (db db' db'' : Database Text) (h : SameVersions db db')
    (h' : SameVersions db' db'') : SameVersions db db'' :=
  ⟨h'.appCatalogs.trans h.appCatalogs, h'.environments.trans h.environments,
    h'.environmentWorkloads.trans h.environmentWorkloads,
    h'.catalogWorkloads.trans h.catalogWorkloads⟩

/-- An update of catalog workloads that keeps their keys and versions. -/
theorem along_updateCatalogWorkload {p : KubeAppCatalogWorkload.Model Text → Bool}
    {f : KubeAppCatalogWorkload.Model Text → KubeAppCatalogWorkload.Model Text}
    (h : ∀ row, versionedKey (f row) = versionedKey row) :
    Along SameVersions (Database.onCatalogWorkloads fun t => t.updateOne p f) := by
  exact Database.along_statement SameVersions.refl fun db t hupdate =>
    ⟨rfl, rfl, rfl, Table.map_updateMany (Table.updateOne_eq_ok.1 hupdate).2 h⟩

/-- New labels leave the versions. -/
theorem along_replaceWorkloadLabels (workloadId appCatalogId clusterId : Uuid)
    («namespace» : String) (labels : BTreeMap String String) (timestamp : Timestamp) :
    Along SameVersions (DbApi.replaceWorkloadLabels workloadId appCatalogId clusterId «namespace»
      labels timestamp : Query Text PUnit) :=
  DbApi.along_replaceWorkloadLabels SameVersions.refl SameVersions.trans
    (fun _ _ => ⟨rfl, rfl, rfl, rfl⟩) _ _ _ _ _ _

/-- New dependencies leave the versions. -/
theorem along_replaceWorkloadDependencies (workloadId appCatalogId clusterId : Uuid)
    («namespace» : String) (configmaps secrets : BTreeSet String) (timestamp : Timestamp) :
    Along SameVersions (DbApi.replaceWorkloadDependencies workloadId appCatalogId clusterId
      «namespace» configmaps secrets timestamp : Query Text PUnit) :=
  DbApi.along_replaceWorkloadDependencies SameVersions.refl SameVersions.trans
    (fun _ _ => ⟨rfl, rfl, rfl, rfl⟩) _ _ _ _ _ _ _

/-- A service of the cluster leaves the versions. -/
theorem along_upsertClusterService (clusterId : Uuid) («namespace» name resourceVersion : String)
    (serviceYaml : Text) (selector : BTreeMap String String) (ports : List StoredServicePort)
    (serviceType : Option String) (observedAt : Timestamp) (newId : Uuid) :
    Along SameVersions (DbApi.upsertClusterService clusterId «namespace» name resourceVersion
      serviceYaml selector ports serviceType observedAt newId) :=
  DbApi.along_upsertClusterService SameVersions.refl SameVersions.trans
    (fun _ _ => ⟨rfl, rfl, rfl, rfl⟩) (fun _ _ => ⟨rfl, rfl, rfl, rfl⟩) _ _ _ _ _ _ _ _ _ _

/-- So does its deletion. -/
theorem along_markClusterServiceDeleted (clusterId : Uuid) («namespace» name : String)
    (observedAt : Timestamp) :
    Along SameVersions (DbApi.markClusterServiceDeleted clusterId «namespace» name observedAt :
      Query Text PUnit) :=
  DbApi.along_markClusterServiceDeleted SameVersions.refl SameVersions.trans
    (fun _ _ => ⟨rfl, rfl, rfl, rfl⟩) (fun _ _ => ⟨rfl, rfl, rfl, rfl⟩) _ _ _ _

/-! ## Events -/

section
variable {Json : Type} [DecidableEq Json] (serde : SerdeParsers Text Json)

/-- The rows that an event writes leave the versions until they are published. -/
theorem along_syncCatalogWorkload (event : ResourceChangeEvent) (workloadKind : KubeWorkloadKind)
    (new : WorkloadSnapshot Text Json) (servicePorts : List KubeServicePort)
    (labelRows : List KubeAppCatalogWorkloadLabel.Model)
    (dependencyRows : List KubeAppCatalogWorkloadDependency.Model)
    (byCatalog : HashTable Uuid (List Uuid)) (workload : KubeAppCatalogWorkload.Model Text) :
    Along SameVersions (KubeClusterServer.syncCatalogWorkload serde event workloadKind new
      servicePorts labelRows dependencyRows byCatalog workload) := by
  unfold KubeClusterServer.syncCatalogWorkload
  split
  · exact SameVersions.refl
  · exact Along.bind SameVersions.trans
      (Along.when SameVersions.refl _ (along_updateCatalogWorkload fun _ => rfl)) fun _ =>
      Along.bind SameVersions.trans
        (Along.when SameVersions.refl _ (along_replaceWorkloadLabels _ _ _ _ _ _)) fun _ =>
        Along.bind SameVersions.trans
          (Along.when SameVersions.refl _ (along_replaceWorkloadDependencies _ _ _ _ _ _ _))
            fun _ => SameVersions.refl

/-- So do those of a reconciled workload. -/
theorem along_reconcileWorkload (clusterId : Uuid) («namespace» : String)
    (labelRows : List KubeAppCatalogWorkloadLabel.Model) (byCatalog : HashTable Uuid (List Uuid))
    (workload : KubeAppCatalogWorkload.Model Text) :
    Along SameVersions (KubeClusterServer.reconcileWorkload clusterId «namespace» labelRows
      byCatalog workload) := by
  unfold KubeClusterServer.reconcileWorkload
  refine Along.bind SameVersions.trans (fun db => ?_) fun services => ?_
  · rw [DbApi.run_getMatchingClusterServices]
    exact .refl db
  · dsimp only
    split
    · exact Along.bind SameVersions.trans (along_updateCatalogWorkload fun _ => rfl) fun _ =>
        SameVersions.refl
    · exact SameVersions.refl

end

/-- A handler keeps `Sound`: it publishes each catalog with the workloads it recorded of it. -/
theorem sound_handler {db : Database Text} (change : CatalogChange db) (text : String)
    (syncedAt : Timestamp) (rs : RandomState ((_ : Uuid) × List Uuid))
    {f : HashTable Uuid (List Uuid) → KubeAppCatalogWorkload.Model Text →
      Query Text (HashTable Uuid (List Uuid))} (hround : change.Round f)
    (halong : ∀ byCatalog w, Along SameVersions (f byCatalog w)) (hdb : Sound none [] db) :
    Sound none [] ((change.handler text syncedAt rs f).run db).2 := by
  obtain ⟨db₁, hrun, -, -⟩ := change.run_rounds hround (List.Subset.refl _) change.nodup_ids ∅
    (.refl db) change.sublist.subset
  have hsame : SameVersions db db₁ := by
    have := Along.foldEach SameVersions.refl SameVersions.trans halong ∅ change.workloads db
    rwa [hrun] at this
  have hperm := rs.arrange_perm change.recorded.entries
  have howned : ∀ e ∈ (change.recorded.reseed rs).entries, OwnedBy e.1 (ownersOf db) e.2 := by
    intro e he owner howner hid
    obtain ⟨row, hrow, rfl⟩ := List.mem_map.1 howner
    obtain ⟨w, hw, -, hcatalog, hwid⟩ := (change.mem_recorded (hperm.mem_iff.1 he)).1 hid
    rw [change.eq_of_id hw hrow hwid.symm]
    exact hcatalog
  have hpublish : Preserves (SoundWith none [] (ownersOf db) : Database Text → Prop)
      (KubeClusterServer.publishCatalogs text syncedAt (change.recorded.reseed rs).entries) := by
    refine Triple.forEach_done (I := fun _ => SoundWith none [] (ownersOf db))
      fun done e rest hsplit => ?_
    have he : e ∈ (change.recorded.reseed rs).entries :=
      hsplit ▸ List.mem_append_right done List.mem_cons_self
    exact (triple_publish _ _ syncedAt (List.nil_subset e.2) (howned e he)).consequence
      (fun _ h => ⟨h.1.weaken _ _, h.2⟩) (fun _ _ h => h) fun _ _ h => h
  have hstart : SoundWith none [] (ownersOf db) db₁ := ⟨hdb.congr hsame, hsame.ownersOf_eq⟩
  rw [CatalogChange.handler, Program.run_bind_of_ok hrun]
  exact (Preserves.run hpublish hstart).1

/-! ## Inserting workloads -/

section
variable {unstamped : List Uuid} {db : Database Text} {catalogId clusterId : Uuid} {now : Timestamp}

/-- Some workloads of a catalog are inserted, and not stamped yet. -/
structure Inserting (catalogId : Uuid) (environments : Table KubeEnvironment.Model)
    (unstamped : List Uuid) (db : Database Text) : Prop where
  sound : Sound (some catalogId) unstamped db
  owned : OwnedBy catalogId (ownersOf db) unstamped
  environments : db.environments = environments

/-- What is being inserted depends on the versions only. -/
theorem Inserting.congr {environments : Table KubeEnvironment.Model} {db' : Database Text}
    (h : Inserting catalogId environments unstamped db) (hsame : SameVersions db db') :
    Inserting catalogId environments unstamped db' :=
  ⟨h.sound.congr hsame, hsame.ownersOf_eq ▸ h.owned, hsame.environments.trans h.environments⟩

/-- One more row of the catalog. -/
theorem Inserting.insert {environments : Table KubeEnvironment.Model}
    {row : KubeAppCatalogWorkload.Model Text} {t : Table (KubeAppCatalogWorkload.Model Text)}
    (hdb : Inserting catalogId environments unstamped db) (hrow : row.appCatalogId = catalogId)
    (hkind : ∃ kind, row.kind = KubeWorkloadKind.toString kind)
    (h : db.catalogWorkloads.insert row = .ok t) :
    Inserting catalogId environments (unstamped ++ [row.id])
      { db with catalogWorkloads := t } := by
  obtain ⟨hsound, howned, henvironments⟩ := hdb
  refine ⟨⟨hsound.environmentOf, hsound.catalogOf, hsound.base, fun row' hrow' => ?_,
    fun environment catalog hsubject => ?_, fun environment catalog hsubject hne hversion name kind =>
      ?_⟩, ?_, henvironments⟩
  · rcases (Table.mem_insert h).1 hrow' with hmem | rfl
    · exact hsound.kind row' hmem
    · exact hkind
  · have htracks := hsound.tracks environment catalog (hsubject.congr db rfl rfl)
    refine ⟨htracks.version, htracks.versions, htracks.names,
      fun row' hrow' hlive workload hworkload hliveOf hstamped hname => ?_⟩
    rcases (Table.mem_insert h).1 hworkload with hmem | rfl
    · exact htracks.kinds row' hrow' hlive workload hmem hliveOf
        (fun hin => hstamped (List.mem_append_left _ hin)) hname
    · exact absurd (List.mem_append_right _ (List.mem_singleton_self _)) hstamped
  · rw [hsound.current environment catalog (hsubject.congr db rfl rfl) hne hversion name kind]
    constructor
    · rintro ⟨workload, hmem, hworkload⟩
      exact ⟨workload, (Table.mem_insert h).2 (.inl hmem), hworkload⟩
    · rintro ⟨workload, hmem, hliveOf, hworkload⟩
      rcases (Table.mem_insert h).1 hmem with hmem | rfl
      · exact ⟨workload, hmem, hliveOf, hworkload⟩
      · simp only [DbApi.liveOf, Bool.and_eq_true, decide_eq_true_eq] at hliveOf
        exact absurd (congrArg some (hrow.symm.trans hliveOf.1)) hne
  · intro owner howner hin
    obtain ⟨row', hrow', rfl⟩ := List.mem_map.1 howner
    rcases (Table.mem_insert h).1 hrow' with hmem | rfl
    · rcases List.mem_append.1 hin with hin | hin
      · exact howned.appCatalogId hmem hin
      · exact absurd (.inl (List.mem_singleton.1 hin)) (Table.not_conflict_of_insert h hmem)
    · exact hrow

/-- The loop that inserts the workloads of a catalog. -/
theorem triple_insertEnrichedWorkloads (fromStr : Text → Option Yaml.Value)
    (environments : Table KubeEnvironment.Model)
    (workloads : List (Uuid × KubeWorkloadDetails Text)) :
    Triple (Inserting catalogId environments [])
      (Program.forEach (DbApi.insertEnrichedWorkload fromStr catalogId clusterId now) workloads)
      (fun _ => Inserting catalogId environments (workloads.map (·.1))) fun _ _ => True := by
  refine Triple.forEach_done (I := fun done => Inserting catalogId environments
    (done.map fun workload : Uuid × KubeWorkloadDetails Text => workload.1)) fun done workload _ _ => ?_
  rw [List.map_append]
  refine Triple.bind (Q := fun _ => Inserting catalogId environments
    (done.map (·.1) ++ [workload.1])) ?_ fun _ => ?_
  · refine Database.triple_statement (fun db t hdb h => ?_) fun _ _ _ => trivial
    exact hdb.insert rfl ⟨_, rfl⟩ h
  refine Triple.bind (Q := fun _ => Inserting catalogId environments
    (done.map (·.1) ++ [workload.1])) ?_ fun _ => ?_
  · exact ((along_replaceWorkloadLabels _ _ _ _ _ _).preserves fun _ _ hsame h =>
      h.congr hsame).consequence (fun _ h => h) (fun _ _ h => h) fun _ _ _ => trivial
  · exact ((along_replaceWorkloadDependencies _ _ _ _ _ _ _).preserves fun _ _ hsame h =>
      h.congr hsame).consequence (fun _ h => h) (fun _ _ h => h) fun _ _ _ => trivial

/-! ## The calls -/

/-- A new catalog has no environment. -/
theorem preserves_createAppCatalog (fromStr : Text → Option Yaml.Value) (orgId clusterId : Uuid)
    (name : String) (workloads : List (Uuid × KubeWorkloadDetails Text)) (catalogId : Uuid)
    (now : Timestamp) :
    Preserves (Sound none [])
      (DbApi.createAppCatalogWithEnrichedWorkloads fromStr orgId clusterId name workloads catalogId
        now) := by
  refine Triple.atomic (F := fun _ _ => True) ?_
  let unused (environments : Table KubeEnvironment.Model) : Prop :=
    ∀ environment ∈ environments.rows, environment.appCatalogId ≠ catalogId
  refine Triple.bind (Q := fun _ db => Inserting catalogId db.environments [] db ∧
    unused db.environments) ?_ fun _ => ?_
  · refine Database.triple_statement (fun db t hdb h => ?_) fun _ _ _ => trivial
    have hunused : unused db.environments := by
      intro environment henvironment heq
      obtain ⟨catalog, hcatalog, hid⟩ := hdb.catalogOf environment henvironment
      exact Table.not_conflict_of_insert h hcatalog (hid.trans heq)
    have hsubject : ∀ {environment catalog}, SyncSubject { db with appCatalogs := t }
        environment.id environment catalog → SyncSubject db environment.id environment catalog := by
      intro environment catalog hs
      refine ⟨hs.environment_mem, rfl, hs.environment_live, hs.notBranch, ?_, hs.catalog_id,
        hs.catalog_live⟩
      refine ((Table.mem_insert h).1 hs.catalog_mem).resolve_right fun heq => ?_
      exact hunused environment hs.environment_mem (heq ▸ hs.catalog_id).symm
    refine ⟨⟨⟨hdb.environmentOf, fun environment henvironment => ?_, hdb.base, hdb.kind,
      fun environment catalog hs => (hdb.tracks environment catalog (hsubject hs)).congr rfl rfl,
      fun environment catalog hs _ => hdb.current environment catalog (hsubject hs) (by simp)⟩,
      fun _ _ hin => absurd hin List.not_mem_nil, rfl⟩, hunused⟩
    obtain ⟨catalog, hcatalog, hid⟩ := hdb.catalogOf environment henvironment
    exact ⟨catalog, (Table.mem_insert h).2 (.inl hcatalog), hid⟩
  · rintro db ⟨hdb, hunused⟩
    have hinsert : Triple (Inserting catalogId db.environments [])
        (do
          Program.forEach (DbApi.insertEnrichedWorkload fromStr catalogId clusterId now) workloads
          pure catalogId)
        (fun _ => Sound none []) fun _ _ => True := by
      refine Triple.bind (triple_insertEnrichedWorkloads fromStr db.environments workloads)
        fun _ => Triple.pure fun db' h => ?_
      refine h.sound.of_no_subject h.owned fun environment catalog hs heq => ?_
      exact hunused environment (h.environments ▸ hs.environment_mem) (hs.catalog_id.symm.trans heq)
    exact hinsert db hdb

/-- A deleted catalog is synced from no more. -/
theorem preserves_deleteAppCatalog (orgId catalogId : Uuid) (now : Timestamp) :
    Preserves (Sound none [] : Database Text → Prop) (deleteAppCatalog orgId catalogId now) := by
  refine Preserves.bind ((ReadOnly.read _).mapError _ |>.preserves _) fun found => ?_
  refine Preserves.bind ((ReadOnly.orFail _ _).preserves _) fun catalog => ?_
  split
  · exact (ReadOnly.fail _).preserves _
  refine Preserves.bind ((ReadOnly.read _).mapError _ |>.preserves _) fun hasEnvironments => ?_
  split
  · exact (ReadOnly.fail _).preserves _
  refine Preserves.mapError _ ?_
  unfold DbApi.deleteAppCatalog
  refine Database.triple_statement (fun db t hdb h => ?_) fun _ _ h => h
  have hupdate := (Table.updateOne_eq_ok.1 h).2
  have hsubject : ∀ {environment catalog}, SyncSubject { db with appCatalogs := t }
      environment.id environment catalog → SyncSubject db environment.id environment catalog := by
    intro environment catalog hs
    refine ⟨hs.environment_mem, rfl, hs.environment_live, hs.notBranch, ?_, hs.catalog_id,
      hs.catalog_live⟩
    rcases (Table.mem_updateMany hupdate).1 hs.catalog_mem with ⟨_, _, _, rfl⟩ | ⟨hmem, _⟩
    · exact nomatch hs.catalog_live
    · exact hmem
  refine ⟨hdb.environmentOf, fun environment henvironment => ?_, hdb.base, hdb.kind,
    fun environment catalog hs => (hdb.tracks environment catalog (hsubject hs)).congr rfl rfl,
    fun environment catalog hs => hdb.current environment catalog (hsubject hs)⟩
  obtain ⟨catalog, hcatalog, hid⟩ := hdb.catalogOf environment henvironment
  rcases hp : decide (catalog.id = catalogId) with _ | _
  · exact ⟨catalog, (Table.mem_updateMany hupdate).2 (.inr ⟨hcatalog, hp⟩), hid⟩
  · exact ⟨_, (Table.mem_updateMany hupdate).2 (.inl ⟨catalog, hcatalog, hp, rfl⟩), hid⟩

/-- The workload of a call and its catalog. -/
theorem triple_authorizeCatalogWorkload (orgId workloadId : Uuid) (I : Database Text → Prop) :
    Triple I (authorizeCatalogWorkload orgId workloadId)
      (fun found db => I db ∧ found.1 ∈ db.catalogWorkloads.rows ∧ found.1.id = workloadId ∧
        found.2.id = found.1.appCatalogId)
      fun _ => I := by
  refine Triple.bind (Q := fun found db => I db ∧ ∀ workload ∈ found,
    workload ∈ db.catalogWorkloads.rows ∧ workload.id = workloadId)
    (Triple.mapError (Triple.read fun db hdb => ⟨hdb, fun workload h => ?_⟩)) fun found => ?_
  · obtain ⟨hmem, hp⟩ := Table.mem_of_one h
    simp only [Bool.and_eq_true, decide_eq_true_eq] at hp
    exact ⟨hmem, hp.1⟩
  refine Triple.bind (Q := fun workload db => I db ∧ workload ∈ db.catalogWorkloads.rows ∧
    workload.id = workloadId) (Triple.orFail (fun workload db h hdb => ⟨hdb.1, hdb.2 workload h⟩)
      fun _ h => h.1) fun workload => ?_
  refine Triple.bind (Q := fun found db => (I db ∧ workload ∈ db.catalogWorkloads.rows ∧
    workload.id = workloadId) ∧ ∀ catalog ∈ found, catalog.id = workload.appCatalogId)
    (Triple.mapError (Triple.read fun db hdb => ⟨hdb, fun catalog h => ?_⟩)) fun found => ?_
  · have hp := (Table.mem_of_one h).2
    simp only [Bool.and_eq_true, decide_eq_true_eq] at hp
    exact hp.1
  refine Triple.bind (Q := fun catalog db => (I db ∧ workload ∈ db.catalogWorkloads.rows ∧
    workload.id = workloadId) ∧ catalog.id = workload.appCatalogId)
    (Triple.orFail (fun catalog db h hdb => ⟨hdb.1, hdb.2 catalog h⟩) fun _ h => h.1.1)
    fun catalog => ?_
  split
  · exact Triple.fail fun _ h => h.1.1
  · exact Triple.pure fun _ h => ⟨h.1.1, h.1.2.1, h.1.2.2, h.2⟩

/-- The bump of a catalog completes a call that stamps nothing. -/
theorem triple_bump_completes (catalogId : Uuid) (syncedAt : Timestamp) :
    Triple (Sound (some catalogId) [] : Database Text → Prop)
      (DbApi.bumpAppCatalogSyncVersion catalogId syncedAt) (fun _ => Sound none [])
      fun _ => Sound none [] := by
  intro db hdb
  have := triple_bump catalogId syncedAt [] (ownersOf db) db ⟨hdb, rfl⟩
  split at this
  · exact this.1.1
  · obtain ⟨⟨h, -⟩, hdead⟩ := this
    refine h.of_no_subject (fun _ _ hin => absurd hin List.not_mem_nil) ?_
    intro environment catalog hsubject heq
    exact hdead ⟨catalog, hsubject.catalog_mem, heq, hsubject.catalog_live⟩

/-- The deletion of a workload keeps the versions sound. -/
theorem preserves_deleteAppCatalogWorkload (orgId workloadId : Uuid) (now : Timestamp) :
    Preserves (Sound none [] : Database Text → Prop)
      (deleteAppCatalogWorkload orgId workloadId now) := by
  refine Triple.bind (triple_authorizeCatalogWorkload orgId workloadId _) fun found => ?_
  refine Triple.bind (Q := fun _ => Sound (some found.1.appCatalogId) []) (Triple.mapError ?_)
    fun _ => Triple.bind (Triple.mapError (triple_bump_completes _ now)) fun _ =>
      Triple.pure fun _ h => h
  unfold DbApi.deleteAppCatalogWorkload
  refine Database.triple_statement ?_ fun _ _ h => h.1
  rintro db t ⟨hdb, hfound, hid, -⟩ h
  have hupdate := (Table.updateOne_eq_ok.1 h).2
  -- a live row is one of before, and a row of before is live unless it is the deleted one
  have hlive : ∀ row : KubeAppCatalogWorkload.Model Text, row.deletedAt = none →
      row ∈ t.rows → row ∈ db.catalogWorkloads.rows := by
    intro row hdel hrow
    rcases (Table.mem_updateMany hupdate).1 hrow with ⟨_, _, _, rfl⟩ | ⟨hmem, _⟩
    · exact nomatch hdel
    · exact hmem
  have hkept : ∀ row ∈ db.catalogWorkloads.rows, row.appCatalogId ≠ found.1.appCatalogId →
      row ∈ t.rows := by
    intro row hrow hne
    refine (Table.mem_updateMany hupdate).2 (.inr ⟨hrow, decide_eq_false fun hrid => hne ?_⟩)
    rw [Table.eq_of_conflict hrow hfound (.inl (hrid.trans hid.symm))]
  refine ⟨hdb.environmentOf, hdb.catalogOf, hdb.base, fun row hrow => ?_,
    fun environment catalog hsubject => ?_, fun environment catalog hsubject hne hversion name kind =>
      ?_⟩
  · rcases (Table.mem_updateMany hupdate).1 hrow with ⟨row₀, hmem, _, rfl⟩ | ⟨hmem, _⟩
    · exact hdb.kind row₀ hmem
    · exact hdb.kind row hmem
  · have htracks := hdb.tracks environment catalog (hsubject.congr db rfl rfl)
    refine ⟨htracks.version, htracks.versions, htracks.names,
      fun row hrow hrowLive workload hworkload hliveOf _ hname => ?_⟩
    have hdel : workload.deletedAt = none := by
      simp only [DbApi.liveOf, Bool.and_eq_true, decide_eq_true_eq] at hliveOf
      exact hliveOf.2
    exact htracks.kinds row hrow hrowLive workload (hlive workload hdel hworkload) hliveOf
      List.not_mem_nil hname
  · rw [hdb.current environment catalog (hsubject.congr db rfl rfl) (by simp) hversion name kind]
    constructor
    · rintro ⟨workload, hmem, hliveOf, hkeys⟩
      refine ⟨workload, hkept workload hmem fun heq => hne ?_, hliveOf, hkeys⟩
      simp only [DbApi.liveOf, Bool.and_eq_true, decide_eq_true_eq] at hliveOf
      rw [← heq, hliveOf.1]
    · rintro ⟨workload, hmem, hliveOf, hkeys⟩
      refine ⟨workload, hlive workload ?_ hmem, hliveOf, hkeys⟩
      simp only [DbApi.liveOf, Bool.and_eq_true, decide_eq_true_eq] at hliveOf
      exact hliveOf.2

/-- So do new containers of it. -/
theorem preserves_updateAppCatalogWorkload
    (validateContainers : List KubeContainerInfo → Except ApiError PUnit) (orgId workloadId : Uuid)
    (containers : List KubeContainerInfo) (now : Timestamp) :
    Preserves (Sound none [] : Database Text → Prop)
      (updateAppCatalogWorkload validateContainers orgId workloadId containers now) := by
  refine Preserves.bind ((ReadOnly.ofExcept _).preserves _) fun _ => ?_
  refine Triple.bind (triple_authorizeCatalogWorkload orgId workloadId _) fun found => ?_
  refine Triple.bind (Q := fun _ db => ∃ owners, SoundWith none [] owners db ∧
    OwnedBy found.2.id owners [found.1.id]) (Triple.mapError ?_) fun _ => ?_
  · rintro db ⟨hdb, hfound, -, hcatalog⟩
    have hupdate : SameVersions db
        ((DbApi.updateAppCatalogWorkload workloadId containers).run db).2 :=
      along_updateCatalogWorkload
        (f := fun row : KubeAppCatalogWorkload.Model Text => { row with containers }) (fun _ => rfl) db
    have howned : OwnedBy found.2.id (ownersOf db) [found.1.id] := by
      intro owner howner hin
      obtain ⟨row, hrow, rfl⟩ := List.mem_map.1 howner
      rw [Table.eq_of_conflict hrow hfound (.inl (List.mem_singleton.1 hin)), hcatalog]
    rcases hrun : (DbApi.updateAppCatalogWorkload workloadId containers).run db with
      ⟨_ | _, db'⟩ <;> rw [hrun] at hupdate
    · exact hdb.congr hupdate
    · exact ⟨ownersOf db, ⟨hdb.congr hupdate, hupdate.ownersOf_eq⟩, howned⟩
  · rintro db ⟨owners, hdb, howned⟩
    have := triple_publish ApiError.internalError ApiError.internalError now
      (List.nil_subset [found.1.id]) howned db ⟨hdb.1.weaken _ _, hdb.2⟩
    split at this
    · exact this.1
    · exact this.1

/-- So do new workloads of a catalog. -/
theorem preserves_addWorkloadsToAppCatalog (fromStr : Text → Option Yaml.Value)
    (orgId catalogId : Uuid) (enriched : Except ApiError (List (Uuid × KubeWorkloadDetails Text)))
    (now : Timestamp) :
    Preserves (Sound none []) (addWorkloadsToAppCatalog fromStr orgId catalogId enriched now) := by
  refine Triple.bind (Q := fun found db => Sound none [] db ∧ ∀ catalog ∈ found,
    catalog.id = catalogId) (Triple.mapError (Triple.read fun db hdb => ⟨hdb, fun catalog h => ?_⟩))
    fun found => ?_
  · have hp := (Table.mem_of_one h).2
    simp only [Bool.and_eq_true, decide_eq_true_eq] at hp
    exact hp.1
  refine Triple.bind (Q := fun catalog db => Sound none [] db ∧ catalog.id = catalogId)
    (Triple.orFail (fun catalog db h hdb => ⟨hdb.1, hdb.2 catalog h⟩) fun _ h => h.1)
    fun catalog => ?_
  split
  · exact Triple.fail fun _ h => h.1
  refine Triple.bind (Q := fun _ db => Sound none [] db ∧ catalog.id = catalogId)
    (Triple.ofExcept (fun _ _ _ h => h) fun _ _ h => h.1) fun workloads => ?_
  refine Triple.bind (Q := fun ids db => ∃ environments, Inserting catalog.id environments ids db)
    (Triple.mapError ?_) fun ids => ?_
  · refine (Triple.atomic (F := fun _ _ => True) ?_).consequence (fun _ h => h) (fun _ _ h => h)
      fun _ _ h => h.1
    rintro db ⟨hdb, rfl⟩
    have hstart : Inserting catalog.id db.environments [] db :=
      ⟨hdb.weaken _ _, fun _ _ hin => absurd hin List.not_mem_nil, rfl⟩
    have hinsert : Triple (Inserting catalog.id db.environments [])
        (DbApi.insertEnrichedWorkloadsToCatalog fromStr catalog.id catalog.clusterId workloads now)
        (fun ids db' => ∃ environments, Inserting catalog.id environments ids db') fun _ _ => True :=
      Triple.bind (triple_insertEnrichedWorkloads fromStr db.environments workloads) fun _ =>
        Triple.pure fun _ h => ⟨_, h⟩
    exact hinsert db hstart
  · rintro db ⟨environments, hdb⟩
    have := triple_publish ApiError.internalError ApiError.internalError now
      (List.Subset.refl ids) hdb.owned db ⟨hdb.sound, rfl⟩
    split at this
    · exact this.1
    · exact this.1

/-- **Calls on catalogs and services.** Every call keeps `Sound`, whether it succeeds or not. -/
theorem sound_catalogCall {Json : Type} [DecidableEq Json] (serde : SerdeParsers Text Json)
    {call : CatalogCall Text Json} {db' : Database Text} (hdb : Sound none [] db)
    (hstep : CatalogCall.Step serde db call db') : Sound none [] db' := by
  obtain ⟨rs, rfl⟩ := hstep
  cases call with
  | createAppCatalog orgId clusterId name workloads catalogId now =>
    exact (preserves_createAppCatalog serde.fromStr orgId clusterId name workloads catalogId
      now).run hdb
  | deleteAppCatalog orgId catalogId now =>
    exact (preserves_deleteAppCatalog orgId catalogId now).run hdb
  | upsertClusterService clusterId «namespace» name resourceVersion serviceYaml selector ports
      serviceType observedAt newId =>
    exact hdb.congr (along_upsertClusterService clusterId «namespace» name resourceVersion
      serviceYaml selector ports serviceType observedAt newId db)
  | markClusterServiceDeleted clusterId «namespace» name observedAt =>
    exact hdb.congr (along_markClusterServiceDeleted clusterId «namespace» name observedAt db)
  | syncCatalogFromWorkloadEvent clusterId event workloadKind new =>
    rcases KubeClusterServer.run_syncCatalogFromWorkloadEvent serde clusterId event workloadKind
      new db rs with ⟨hrun, -⟩ | hrun
    · rwa [CatalogCall.apply, hrun]
    · rw [CatalogCall.apply, hrun]
      exact sound_handler _ "workload" event.timestamp rs
        (KubeClusterServer.round_syncCatalogWorkload serde clusterId event workloadKind new db)
        (along_syncCatalogWorkload serde event workloadKind new _ _ _) hdb
  | reconcileWorkloadsForSelector clusterId «namespace» selectorMap observedAt =>
    rcases KubeClusterServer.run_reconcileWorkloadsForSelector clusterId «namespace» selectorMap db
      rs observedAt with ⟨hrun, -⟩ | hrun
    · rwa [CatalogCall.apply, hrun]
    · rw [CatalogCall.apply, hrun]
      exact sound_handler _ "service" observedAt rs
        (KubeClusterServer.round_reconcileWorkload clusterId «namespace» selectorMap db)
        (along_reconcileWorkload clusterId «namespace» _) hdb

end

end KubeController

end Lapdev
