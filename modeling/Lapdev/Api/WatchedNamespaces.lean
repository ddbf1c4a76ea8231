import Lapdev.Api.BranchEnvironments
import Lapdev.Api.EnvironmentDeletion
import Lapdev.Db.CatalogFrames

/-!
# The namespaces a cluster is watched for

`get_cluster_watch_namespaces` over the runs of the calls that create and delete catalogs, workloads
of catalogs and environments. The namespaces of a cluster are read off its live workload rows, and a
catalog that is deleted leaves its workload rows live: `watchesExactly_of_run` says that the
namespaces are those of live catalogs and environments in every run that deletes only catalogs
without live workloads, and what they are after the first other deletion.
-/

namespace Lapdev

open RustStd Sql Programs Runs

variable {Text : Type}

namespace DbApi

/-- Source: `db/src/api.rs`. -/
def getClusterCatalogNamespaces (clusterId : Uuid) : Query Text (List String) :=
  .read fun db =>
    ((db.catalogWorkloads.select fun row =>
      row.clusterId = clusterId && row.deletedAt = none).map (·.namespace)).dedup

/-- Source: `db/src/api.rs`. -/
def getClusterEnvironmentNamespaces (clusterId : Uuid) : Query Text (List String) :=
  .read fun db =>
    ((db.environments.select fun row =>
      row.clusterId = clusterId && row.deletedAt = none).map (·.namespace)).dedup

/-- Source: `db/src/api.rs`. The `BTreeSet` is read in the order of its elements. -/
def getClusterWatchNamespaces (clusterId : Uuid) : Query Text (List String) := do
  let catalogNamespaces ← getClusterCatalogNamespaces clusterId
  let environmentNamespaces ← getClusterEnvironmentNamespaces clusterId
  pure ((catalogNamespaces ++ environmentNamespaces).dedup.mergeSort fun a b => decide (a ≤ b))

end DbApi

/-- A call that creates or deletes catalogs, workloads of catalogs or environments, with what it
gets from outside. -/
inductive WatchCall (Text : Type)
  | createAppCatalog (orgId clusterId : Uuid) (name : String)
      (workloads : List (Uuid × KubeWorkloadDetails Text)) (catalogId : Uuid) (now : Timestamp)
  | deleteAppCatalog (orgId catalogId : Uuid) (now : Timestamp)
  | addWorkloadsToAppCatalog (orgId catalogId : Uuid)
      (enriched : Except ApiError (List (Uuid × KubeWorkloadDetails Text))) (now : Timestamp)
  | deleteAppCatalogWorkload (orgId workloadId : Uuid) (now : Timestamp)
  | createKubeEnvironment (outside : Outside Text)
      (orgId userId appCatalogId clusterId : Uuid) (cluster : Option KubeCluster.Model)
      (name : String) (isShared : Bool) (environmentId : Uuid) («namespace» authToken : String)
      (now : Timestamp)
  | createBranchEnvironment (orgId userId baseEnvironmentId : Uuid) (cluster : Bool) (name : String)
      (branchEnvironmentId : Uuid) (authToken : String) (now : Timestamp)
  | deleteKubeEnvironment (orgId environmentId : Uuid) (connected : Bool)
      (notified destroyResult : Except ApiError PUnit) (now : Timestamp)

/-! ## The law -/

/-- A live catalog of the cluster has a live workload in the namespace. -/
def Database.HasCatalogNamespace (db : Database Text) (clusterId : Uuid) («namespace» : String) :
    Prop :=
  ∃ catalog ∈ db.appCatalogs.rows, catalog.clusterId = clusterId ∧ catalog.deletedAt = none ∧
    ∃ workload ∈ db.catalogWorkloads.rows, workload.appCatalogId = catalog.id ∧
      workload.deletedAt = none ∧ workload.namespace = «namespace»

/-- A live environment of the cluster is in the namespace. -/
def Database.HasEnvironmentNamespace (db : Database Text) (clusterId : Uuid)
    («namespace» : String) : Prop :=
  ∃ environment ∈ db.environments.rows, environment.clusterId = clusterId ∧
    environment.deletedAt = none ∧ environment.namespace = «namespace»

/-- Every cluster is watched for the namespaces of its live catalogs and environments, each of them
once. -/
def Database.WatchesExactly (db : Database Text) : Prop :=
  ∀ clusterId, ∃ namespaces : List String,
    (DbApi.getClusterWatchNamespaces clusterId).run db = (.ok namespaces, db) ∧
      namespaces.Nodup ∧ ∀ «namespace», «namespace» ∈ namespaces ↔
        db.HasCatalogNamespace clusterId «namespace» ∨
          db.HasEnvironmentNamespace clusterId «namespace»

namespace WatchCall

section
variable (fromStr : Text → Option Yaml.Value) (codec : ManifestCodec Text) (isEmpty : Text → Bool)

/-- The database a call leaves, whether it succeeds or not. -/
def apply (db : Database Text) : WatchCall Text → Database Text
  | createAppCatalog orgId clusterId name workloads catalogId now =>
    ((DbApi.createAppCatalogWithEnrichedWorkloads fromStr orgId clusterId name workloads catalogId
      now).run db).2
  | deleteAppCatalog orgId catalogId now =>
    ((KubeController.deleteAppCatalog orgId catalogId now).run db).2
  | addWorkloadsToAppCatalog orgId catalogId enriched now =>
    ((KubeController.addWorkloadsToAppCatalog fromStr orgId catalogId enriched now).run db).2
  | deleteAppCatalogWorkload orgId workloadId now =>
    ((KubeController.deleteAppCatalogWorkload orgId workloadId now).run db).2
  | createKubeEnvironment outside orgId userId appCatalogId clusterId cluster name isShared
      environmentId «namespace» authToken now =>
    ((KubeController.createKubeEnvironment fromStr codec isEmpty outside orgId userId appCatalogId
      clusterId cluster name isShared environmentId «namespace» authToken now).run db).2
  | createBranchEnvironment orgId userId baseEnvironmentId cluster name branchEnvironmentId authToken
      now =>
    ((KubeController.createBranchEnvironment fromStr orgId userId baseEnvironmentId cluster name
      branchEnvironmentId authToken now).run db).2
  | deleteKubeEnvironment orgId environmentId connected notified destroyResult now =>
    ((KubeController.deleteKubeEnvironment orgId environmentId connected notified destroyResult
      now).run db).2

/-- A call goes from one database to the next. -/
def Step (db : Database Text) (call : WatchCall Text) (db' : Database Text) : Prop :=
  db' = call.apply fromStr codec isEmpty db

end

/-- A catalog of the organization that can be deleted: it is live, and no live environment uses
it. -/
def Deletable (db : Database Text) (orgId catalogId : Uuid) : Prop :=
  (∃ catalog ∈ db.appCatalogs.rows, catalog.id = catalogId ∧ catalog.deletedAt = none ∧
    catalog.organizationId = orgId) ∧
  ∀ environment ∈ db.environments.rows, environment.appCatalogId = catalogId →
    environment.deletedAt ≠ none

/-- A catalog that a call deletes has no live workload. -/
def DeletesEmptied (db : Database Text) : WatchCall Text → Prop
  | deleteAppCatalog orgId catalogId _ => Deletable db orgId catalogId →
    ∀ workload ∈ db.catalogWorkloads.rows, workload.appCatalogId = catalogId →
      workload.deletedAt ≠ none
  | _ => True

end WatchCall

/-! ## Workloads and their catalogs -/

namespace Database

/-- What the workloads of a catalog are watched by. -/
def catalogKey (row : KubeAppCatalog.Model) : Uuid × Uuid × Option Timestamp :=
  (row.id, row.clusterId, row.deletedAt)

/-- What a workload is watched by. -/
def ownerKey (row : KubeAppCatalogWorkload.Model Text) : Uuid × Uuid × Option Timestamp :=
  (row.appCatalogId, row.clusterId, row.deletedAt)

/-- Databases whose workloads are watched alike. -/
structure SameOwners (db db' : Database Text) : Prop where
  appCatalogs : db'.appCatalogs.rows.map catalogKey = db.appCatalogs.rows.map catalogKey
  catalogWorkloads : db'.catalogWorkloads.rows.map ownerKey = db.catalogWorkloads.rows.map ownerKey

/-- A state has its own owners. -/
theorem SameOwners.refl (db : Database Text) : SameOwners db db := ⟨rfl, rfl⟩

/-- Calls that leave the owners, one after the other. -/
theorem SameOwners.trans (db db' db'' : Database Text) (h : SameOwners db db')
    (h' : SameOwners db' db'') : SameOwners db db'' :=
  ⟨h'.appCatalogs.trans h.appCatalogs, h'.catalogWorkloads.trans h.catalogWorkloads⟩

/-- Every workload has a catalog on its cluster. -/
def HasCatalogs (db : Database Text) : Prop :=
  ∀ workload ∈ db.catalogWorkloads.rows, ∃ catalog ∈ db.appCatalogs.rows,
    catalog.id = workload.appCatalogId ∧ catalog.clusterId = workload.clusterId

/-- Every workload has a catalog on its cluster, a live workload a live one. -/
def LiveCatalogs (db : Database Text) : Prop :=
  ∀ workload ∈ db.catalogWorkloads.rows, ∃ catalog ∈ db.appCatalogs.rows,
    catalog.id = workload.appCatalogId ∧ catalog.clusterId = workload.clusterId ∧
      (workload.deletedAt = none → catalog.deletedAt = none)

/-- Without workloads every catalog that is needed is there. -/
theorem liveCatalogs_empty : LiveCatalogs (.empty Text) := fun _ h => absurd h Table.mem_empty

section
variable {db db' : Database Text}

/-- A live catalog is a catalog. -/
theorem LiveCatalogs.hasCatalogs (h : LiveCatalogs db) : HasCatalogs db := by
  intro workload hworkload
  obtain ⟨catalog, hcatalog, hid, hcluster, -⟩ := h workload hworkload
  exact ⟨catalog, hcatalog, hid, hcluster⟩

/-- It depends on the owners only. -/
theorem LiveCatalogs.congr (h : LiveCatalogs db) (hsame : SameOwners db db') :
    LiveCatalogs db' := by
  intro workload' hworkload'
  have hmem := List.mem_map_of_mem (f := ownerKey) hworkload'
  rw [hsame.catalogWorkloads] at hmem
  obtain ⟨workload, hworkload, hkey⟩ := List.mem_map.1 hmem
  obtain ⟨catalog, hcatalog, hid, hcluster, hlive⟩ := h workload hworkload
  have hmem' := List.mem_map_of_mem (f := catalogKey) hcatalog
  rw [← hsame.appCatalogs] at hmem'
  obtain ⟨catalog', hcatalog', hkey'⟩ := List.mem_map.1 hmem'
  simp only [ownerKey, catalogKey, Prod.mk.injEq] at hkey hkey'
  refine ⟨catalog', hcatalog', hkey'.1.trans (hid.trans hkey.1),
    hkey'.2.1.trans (hcluster.trans hkey.2.1), fun hdel => ?_⟩
  rw [hkey'.2.2]
  exact hlive (hkey.2.2.trans hdel)

/-- The namespaces of a cluster, from its live rows. -/
theorem run_getClusterWatchNamespaces (db : Database Text) (clusterId : Uuid) :
    ∃ namespaces : List String,
      (DbApi.getClusterWatchNamespaces clusterId).run db = (.ok namespaces, db) ∧
        namespaces.Nodup ∧ ∀ «namespace», «namespace» ∈ namespaces ↔
          (∃ workload ∈ db.catalogWorkloads.rows, workload.clusterId = clusterId ∧
            workload.deletedAt = none ∧ workload.namespace = «namespace») ∨
            db.HasEnvironmentNamespace clusterId «namespace» := by
  refine ⟨_, rfl, (List.mergeSort_perm _ _).nodup_iff.2 (List.nodup_dedup _), fun name => ?_⟩
  rw [List.mem_mergeSort, List.mem_dedup, List.mem_append, List.mem_dedup, List.mem_dedup,
    List.mem_map, List.mem_map]
  simp only [Table.mem_select, Bool.and_eq_true, decide_eq_true_eq, HasEnvironmentNamespace,
    and_assoc]

/-- With a catalog for each workload the law is about the live workloads of deleted catalogs. -/
theorem watchesExactly_iff (h : HasCatalogs db) :
    db.WatchesExactly ↔ ∀ workload ∈ db.catalogWorkloads.rows, workload.deletedAt = none →
      db.HasCatalogNamespace workload.clusterId workload.namespace ∨
        db.HasEnvironmentNamespace workload.clusterId workload.namespace := by
  constructor
  · intro hwatches workload hworkload hlive
    obtain ⟨namespaces, hrun, -, hmem⟩ := hwatches workload.clusterId
    obtain ⟨namespaces', hrun', -, hmem'⟩ := run_getClusterWatchNamespaces db workload.clusterId
    cases hrun.symm.trans hrun'
    exact (hmem _).1 ((hmem' _).2 (.inl ⟨workload, hworkload, rfl, hlive, rfl⟩))
  · intro hcovered clusterId
    obtain ⟨namespaces, hrun, hnodup, hmem⟩ := run_getClusterWatchNamespaces db clusterId
    refine ⟨namespaces, hrun, hnodup, fun name => ?_⟩
    rw [hmem]
    constructor
    · rintro (⟨workload, hworkload, rfl, hlive, rfl⟩ | henvironment)
      · exact hcovered workload hworkload hlive
      · exact .inr henvironment
    · rintro (⟨catalog, hcatalog, rfl, -, workload, hworkload, hid, hlive, rfl⟩ | henvironment)
      · obtain ⟨catalog', hcatalog', hid', hcluster'⟩ := h workload hworkload
        cases Table.eq_of_conflict hcatalog' hcatalog (hid'.trans hid)
        exact .inl ⟨workload, hworkload, hcluster'.symm, hlive, rfl⟩
      · exact .inr henvironment

/-- The namespace of a live workload of a live catalog is watched. -/
theorem LiveCatalogs.hasCatalogNamespace (h : LiveCatalogs db)
    {workload : KubeAppCatalogWorkload.Model Text} (hworkload : workload ∈ db.catalogWorkloads.rows)
    (hlive : workload.deletedAt = none) :
    db.HasCatalogNamespace workload.clusterId workload.namespace := by
  obtain ⟨catalog, hcatalog, hid, hcluster, hcatalogLive⟩ := h workload hworkload
  exact ⟨catalog, hcatalog, hcluster, hcatalogLive hlive, workload, hworkload, hid.symm, hlive, rfl⟩

end

end Database

/-! ## The statements of the calls -/

namespace WatchCall

section
open Database
variable {fromStr : Text → Option Yaml.Value}

/-- A statement on other tables. -/
theorem along_sameOwners_of_eq {Row : Type} [Entity Row] {get : Database Text → Table Row}
    {set : Database Text → Table Row → Database Text} {f : Table Row → Except DbErr (Table Row)}
    (hcatalogs : ∀ db t, (set db t).appCatalogs = db.appCatalogs)
    (hworkloads : ∀ db t, (set db t).catalogWorkloads = db.catalogWorkloads) :
    Along SameOwners (Database.statement get set f) :=
  Database.along_statement SameOwners.refl fun db t _ => ⟨by rw [hcatalogs], by rw [hworkloads]⟩

/-- A change of environments leaves the owners of workloads. -/
theorem along_onEnvironments_sameOwners
    (f : Table KubeEnvironment.Model → Except DbErr (Table KubeEnvironment.Model)) :
    Along SameOwners (Database.onEnvironments f : Query Text PUnit) :=
  along_sameOwners_of_eq (fun _ _ => rfl) fun _ _ => rfl

/-- The bump of a catalog keeps its key. -/
theorem along_bumpAppCatalogSyncVersion (catalogId : Uuid) (syncedAt : Timestamp) :
    Along SameOwners (DbApi.bumpAppCatalogSyncVersion catalogId syncedAt : Query Text Int) := by
  refine Along.bind SameOwners.trans (Database.along_returning SameOwners.refl
    fun db t h => ⟨Table.map_updateMany h fun _ => rfl, rfl⟩) fun updated => ?_
  cases updated with
  | none => exact (ReadOnly.fail _).along SameOwners.refl
  | some model => exact (ReadOnly.pure _).along SameOwners.refl

/-- New versions leave the owners. -/
theorem along_updateCatalogWorkloadVersions (workloadIds : List Uuid) (version : Int) :
    Along SameOwners (DbApi.updateCatalogWorkloadVersions workloadIds version : Query Text PUnit) := by
  unfold DbApi.updateCatalogWorkloadVersions
  split
  · exact (ReadOnly.pure _).along SameOwners.refl
  · exact Database.along_statement SameOwners.refl
      fun db t h => ⟨rfl, Table.map_updateMany h fun _ => rfl⟩

/-- A catalog is there to insert workloads into. -/
structure Owning (catalogId clusterId : Uuid) (db : Database Text) : Prop where
  liveCatalogs : LiveCatalogs db
  owner : ∃ catalog ∈ db.appCatalogs.rows, catalog.id = catalogId ∧ catalog.clusterId = clusterId ∧
    catalog.deletedAt = none

/-- A catalog owns its workloads by the owners only. -/
theorem Owning.congr {catalogId clusterId : Uuid} {db db' : Database Text}
    (h : Owning catalogId clusterId db) (hsame : SameOwners db db') :
    Owning catalogId clusterId db' := by
  refine ⟨h.liveCatalogs.congr hsame, ?_⟩
  obtain ⟨catalog, hcatalog, hid, hcluster, hlive⟩ := h.owner
  have hmem := List.mem_map_of_mem (f := catalogKey) hcatalog
  rw [← hsame.appCatalogs] at hmem
  obtain ⟨catalog', hcatalog', hkey⟩ := List.mem_map.1 hmem
  simp only [catalogKey, Prod.mk.injEq] at hkey
  exact ⟨catalog', hcatalog', hkey.1.trans hid, hkey.2.1.trans hcluster, hkey.2.2.trans hlive⟩

/-- Workloads are inserted into a live catalog with its cluster. -/
theorem preserves_insertEnrichedWorkloads (catalogId clusterId : Uuid) (now : Timestamp)
    (workloads : List (Uuid × KubeWorkloadDetails Text)) :
    Preserves (Owning catalogId clusterId)
      (Program.forEach (DbApi.insertEnrichedWorkload fromStr catalogId clusterId now) workloads) := by
  refine Triple.forEach (J := fun _ => Owning catalogId clusterId) (fun workload _ => ?_) _
  refine Preserves.bind ?_ fun _ => Preserves.bind ?_ fun _ => ?_
  · refine Database.triple_statement (fun db t hdb h => ?_) fun _ _ hdb => hdb
    refine ⟨fun row hrow => ?_, hdb.owner⟩
    rcases (Table.mem_insert h).1 hrow with hmem | rfl
    · exact hdb.liveCatalogs row hmem
    · obtain ⟨catalog, hcatalog, hid, hcluster, hlive⟩ := hdb.owner
      exact ⟨catalog, hcatalog, hid, hcluster, fun _ => hlive⟩
  · exact (DbApi.along_replaceWorkloadLabels SameOwners.refl SameOwners.trans
      (fun _ _ => ⟨rfl, rfl⟩) _ _ _ _ _ _).preserves fun _ _ hsame h => h.congr hsame
  · exact (DbApi.along_replaceWorkloadDependencies SameOwners.refl SameOwners.trans
      (fun _ _ => ⟨rfl, rfl⟩) _ _ _ _ _ _ _).preserves fun _ _ hsame h => h.congr hsame

/-! ## The calls -/

/-- A new catalog is live when its workloads are inserted. -/
theorem preserves_createAppCatalog_liveCatalogs (orgId clusterId : Uuid) (name : String)
    (workloads : List (Uuid × KubeWorkloadDetails Text)) (catalogId : Uuid) (now : Timestamp) :
    Preserves LiveCatalogs
      (DbApi.createAppCatalogWithEnrichedWorkloads fromStr orgId clusterId name workloads catalogId
        now) := by
  refine Triple.atomic (F := fun _ _ => True) ?_
  refine Triple.bind (Q := fun _ => Owning catalogId clusterId)
    (Database.triple_statement (fun db t hdb h => ⟨fun workload hworkload => ?_, ?_⟩)
      fun _ _ _ => trivial) fun _ => ?_
  · obtain ⟨catalog, hcatalog, hkey⟩ := hdb workload hworkload
    exact ⟨catalog, (Table.mem_insert h).2 (.inl hcatalog), hkey⟩
  · exact ⟨_, (Table.mem_insert h).2 (.inr rfl), rfl, rfl, rfl⟩
  · refine Triple.bind (Q := fun _ => Owning catalogId clusterId)
      ((preserves_insertEnrichedWorkloads catalogId clusterId now workloads).consequence
        (fun _ h => h) (fun _ _ h => h) fun _ _ _ => trivial) fun _ => ?_
    exact Triple.pure fun _ h => h.liveCatalogs

/-- Workloads are added to a live catalog. -/
theorem preserves_addWorkloads_liveCatalogs (orgId catalogId : Uuid)
    (enriched : Except ApiError (List (Uuid × KubeWorkloadDetails Text))) (now : Timestamp) :
    Preserves LiveCatalogs
      (KubeController.addWorkloadsToAppCatalog fromStr orgId catalogId enriched now) := by
  have hkeep : ∀ {ε : Type} {α : Type} {m : Program (Database Text) ε α}, Along SameOwners m →
      Preserves LiveCatalogs m := fun h => h.preserves fun _ _ hsame hdb => hdb.congr hsame
  refine Triple.bind (Q := fun found db => LiveCatalogs db ∧ ∀ catalog ∈ found,
    catalog ∈ db.appCatalogs.rows ∧ catalog.id = catalogId ∧ catalog.deletedAt = none)
    (Triple.mapError (Triple.read fun db hdb => ⟨hdb, fun catalog h => ?_⟩)) fun found => ?_
  · obtain ⟨hmem, hp⟩ := Table.mem_of_one h
    simp only [Bool.and_eq_true, decide_eq_true_eq] at hp
    exact ⟨hmem, hp⟩
  refine Triple.bind (Q := fun catalog => Owning catalogId catalog.clusterId)
    (Triple.orFail (fun catalog db h hdb => ?_) fun _ h => h.1) fun catalog => ?_
  · obtain ⟨hmem, hid, hlive⟩ := hdb.2 catalog h
    exact ⟨hdb.1, catalog, hmem, hid, rfl, hlive⟩
  split
  · exact Triple.fail fun _ h => h.liveCatalogs
  refine Triple.bind (Q := fun _ => Owning catalogId catalog.clusterId)
    (Triple.ofExcept (fun _ _ _ h => h) fun _ _ h => h.liveCatalogs) fun workloads => ?_
  refine Triple.bind (Q := fun _ => LiveCatalogs) (Triple.mapError ?_) fun ids => ?_
  · refine (Triple.atomic (F := fun _ _ => True) (Q := fun _ => LiveCatalogs) ?_).consequence
      (fun _ h => h) (fun _ _ h => h) fun _ _ h => h.liveCatalogs
    refine Triple.bind (Q := fun _ => Owning catalogId catalog.clusterId)
      ((preserves_insertEnrichedWorkloads catalogId catalog.clusterId now workloads).consequence
        (fun _ h => h) (fun _ _ h => h) fun _ _ _ => trivial) fun _ => ?_
    exact Triple.pure fun _ h => h.liveCatalogs
  · exact hkeep (Along.bind SameOwners.trans ((along_bumpAppCatalogSyncVersion _ _).mapError _)
      fun _ => (along_updateCatalogWorkloadVersions _ _).mapError _)

/-- The deletion of a workload keeps the catalogs. -/
theorem preserves_deleteWorkload_liveCatalogs (orgId workloadId : Uuid) (now : Timestamp) :
    Preserves (LiveCatalogs : Database Text → Prop)
      (KubeController.deleteAppCatalogWorkload orgId workloadId now) := by
  have hread : ReadOnly (KubeController.authorizeCatalogWorkload orgId workloadId :
      KubeController.Call Text _) := by
    refine ((ReadOnly.read _).mapError _).bind fun found => (ReadOnly.orFail _ _).bind fun workload =>
      ((ReadOnly.read _).mapError _).bind fun found => (ReadOnly.orFail _ _).bind fun catalog => ?_
    split
    · exact ReadOnly.fail _
    · exact ReadOnly.pure _
  refine (hread.preserves _).bind fun found => Preserves.bind (Preserves.mapError _ ?_) fun _ => ?_
  · unfold DbApi.deleteAppCatalogWorkload
    refine Database.triple_statement (fun db t hdb h => ?_) fun _ _ h => h
    intro row hrow
    rcases (Table.mem_updateMany (Table.updateOne_eq_ok.1 h).2).1 hrow with
      ⟨row₀, hmem, -, rfl⟩ | ⟨hmem, -⟩
    · obtain ⟨catalog, hcatalog, hid, hcluster, -⟩ := hdb row₀ hmem
      exact ⟨catalog, hcatalog, hid, hcluster, nofun⟩
    · exact hdb row hmem
  · refine Preserves.bind (Preserves.mapError _ ?_) fun _ => (ReadOnly.pure _).preserves _
    exact (along_bumpAppCatalogSyncVersion _ _).preserves fun _ _ hsame hdb => hdb.congr hsame

/-- The rows of an environment are on other tables. -/
theorem along_createKubeEnvironment_sameOwners (environmentId orgId userId appCatalogId clusterId : Uuid)
    (name «namespace» status : String) (isShared : Bool) (version : Int)
    (baseEnvironmentId : Option Uuid) (workloads : List (NewEnvironmentWorkload Text))
    (services : HashTable String (KubeServiceWithYaml Text)) (authToken : String) (now : Timestamp) :
    Along SameOwners (DbApi.createKubeEnvironment fromStr environmentId orgId userId appCatalogId
      clusterId name «namespace» status isShared version baseEnvironmentId workloads services
      authToken now) := by
  intro db
  have h := KubeController.triple_createKubeEnvironment fromStr environmentId orgId userId
    appCatalogId clusterId name «namespace» status isShared version baseEnvironmentId workloads
    services authToken now db db rfl
  rcases hrun : (DbApi.createKubeEnvironment fromStr environmentId orgId userId appCatalogId
    clusterId name «namespace» status isShared version baseEnvironmentId workloads services
    authToken now).run db with ⟨_ | _, db'⟩ <;> rw [hrun] at h
  · exact (show db' = db from h) ▸ .refl db
  · exact ⟨congrArg _ (congrArg Table.rows h.appCatalogs),
      congrArg _ (congrArg Table.rows h.catalogWorkloads)⟩

/-- A new branch leaves the owners of workloads. -/
theorem along_createBranchEnvironment (orgId userId baseEnvironmentId : Uuid) (cluster : Bool)
    (name : String) (branchEnvironmentId : Uuid) (authToken : String) (now : Timestamp) :
    Along SameOwners (KubeController.createBranchEnvironment fromStr orgId userId baseEnvironmentId
      cluster name branchEnvironmentId authToken now : KubeController.Call Text _) := by
  have hread : ReadOnly (KubeController.validateBaseEnvironment orgId baseEnvironmentId cluster :
      KubeController.Call Text _) := by
    unfold KubeController.validateBaseEnvironment
    refine ((ReadOnly.read _).mapError _).bind fun found => (ReadOnly.orFail _ _).bind fun base => ?_
    split
    · exact ReadOnly.fail _
    split
    · exact ReadOnly.fail _
    split
    · exact ReadOnly.fail _
    split
    · exact ReadOnly.fail _
    · exact ((ReadOnly.read _).mapError _).bind fun _ => (ReadOnly.orFail _ _).bind fun _ =>
        ReadOnly.pure _
  refine Along.bind SameOwners.trans ((ReadOnly.ofExcept _).along SameOwners.refl) fun name => ?_
  refine Along.bind SameOwners.trans (hread.along SameOwners.refl) fun base => ?_
  refine Along.bind SameOwners.trans
    ((along_createKubeEnvironment_sameOwners _ _ _ _ _ _ _ _ _ _ _ _ _ _ _).mapError _) fun _ => ?_
  exact (along_onEnvironments_sameOwners _).mapError _

/-! ## Deleting a catalog -/

section
variable {db : Database Text} {orgId catalogId : Uuid}

/-- A catalog that cannot be deleted is left. -/
theorem run_deleteAppCatalog_of_not_deletable (h : ¬Deletable db orgId catalogId)
    (now : Timestamp) : ((KubeController.deleteAppCatalog orgId catalogId now).run db).2 = db := by
  unfold KubeController.deleteAppCatalog
  rw [Program.run_bind, Program.run_mapError, DbApi.getAppCatalog, Program.run_read]
  dsimp only
  rw [Program.run_bind, Program.run_orFail]
  cases hcatalog : db.appCatalogs.one fun row => row.id = catalogId && row.deletedAt = none with
  | none => rfl
  | some catalog =>
  obtain ⟨hmem, hp⟩ := Table.mem_of_one hcatalog
  simp only [Bool.and_eq_true, decide_eq_true_eq] at hp
  dsimp only [Option.elim]
  split
  · rfl
  · next horg =>
    rw [Program.run_bind, Program.run_mapError, DbApi.checkAppCatalogHasEnvironments,
      Program.run_read]
    dsimp only
    rw [if_pos]
    · rfl
    rw [Table.one, List.find?_isSome]
    by_contra hnone
    refine h ⟨⟨catalog, hmem, hp.1, hp.2, not_not.1 horg⟩, fun environment henvironment hid hlive =>
      hnone ⟨environment, henvironment, ?_⟩⟩
    simp only [Bool.and_eq_true, decide_eq_true_eq]
    exact ⟨hid, hlive⟩

/-- A catalog that can be deleted is marked, and its workloads are left. -/
theorem run_deleteAppCatalog_of_deletable (h : Deletable db orgId catalogId)
    (now : Timestamp) :
    ∃ t, ((KubeController.deleteAppCatalog orgId catalogId now).run db).2 =
        { db with appCatalogs := t } ∧
      t.rows = db.appCatalogs.rows.map fun row : KubeAppCatalog.Model =>
        if row.id = catalogId then { row with deletedAt := some now } else row := by
  obtain ⟨⟨catalog, hcatalog, rfl, hlive, horg⟩, hunused⟩ := h
  have hone : (db.appCatalogs.one fun row => row.id = catalog.id && row.deletedAt = none) =
      some catalog := by
    refine Table.one_eq_some hcatalog ?_ fun row hrow hp => ?_
    · simp [hlive]
    · simp only [Bool.and_eq_true, decide_eq_true_eq] at hp
      exact Table.eq_of_conflict hrow hcatalog hp.1
  have hnone : (db.environments.one fun row => row.appCatalogId = catalog.id &&
      row.deletedAt = none).isSome = false := by
    rw [Table.one, Bool.eq_false_iff, ne_eq, List.find?_isSome]
    rintro ⟨environment, henvironment, hp⟩
    simp only [Bool.and_eq_true, decide_eq_true_eq] at hp
    exact hunused environment henvironment hp.1 hp.2
  have hupdate : ∃ t, (db.appCatalogs.updateMany (fun row => row.id = catalog.id)
      fun row => { row with deletedAt := some now }) = .ok t := by
    refine Table.updateMany_of_conflict_imp fun r _ r' _ hconflict => ?_
    have hid : ∀ row : KubeAppCatalog.Model, (if decide (row.id = catalog.id) = true then
        { row with deletedAt := some now } else row).id = row.id := by
      intro row
      split <;> rfl
    exact (hid r).symm.trans ((show _ = _ from hconflict).trans (hid r'))
  obtain ⟨t, ht⟩ := hupdate
  have hdelete : (DbApi.deleteAppCatalog catalog.id now).run db =
      (.ok ⟨⟩, { db with appCatalogs := t }) := by
    unfold DbApi.deleteAppCatalog Database.onAppCatalogs
    exact Database.run_statement_ok
      (Table.updateOne_eq_ok.2 ⟨⟨catalog, hcatalog, by simp⟩, ht⟩)
  refine ⟨t, ?_, ?_⟩
  · unfold KubeController.deleteAppCatalog
    rw [Program.run_bind, Program.run_mapError, DbApi.getAppCatalog, Program.run_read, hone]
    dsimp only
    rw [Program.run_bind, Program.run_orFail]
    dsimp only [Option.elim]
    rw [if_neg (not_not.2 horg), Program.run_bind, Program.run_mapError,
      DbApi.checkAppCatalogHasEnvironments, Program.run_read, hnone]
    dsimp only
    rw [if_neg (by decide), Program.run_mapError, hdelete]
  · rw [Table.rows_updateMany ht]
    refine List.map_congr_left fun row _ => ?_
    simp only [decide_eq_true_eq]

/-- What a deletion leaves: the workloads, the environments and the keys of the catalogs. -/
theorem hasCatalogs_of_deleted {t : Table KubeAppCatalog.Model} {now : Timestamp}
    (hrows : t.rows = db.appCatalogs.rows.map fun row : KubeAppCatalog.Model =>
      if row.id = catalogId then { row with deletedAt := some now } else row)
    (h : HasCatalogs db) : HasCatalogs { db with appCatalogs := t } := by
  intro workload hworkload
  obtain ⟨catalog, hcatalog, hid, hcluster⟩ := h workload hworkload
  refine ⟨_, hrows ▸ List.mem_map_of_mem hcatalog, ?_, ?_⟩
  · split
    · exact hid
    · exact hid
  · split
    · exact hcluster
    · exact hcluster

/-- After a deletion the namespaces are right if those of the catalog's live workloads are still
those of live catalogs or environments. -/
theorem watchesExactly_of_deleted {t : Table KubeAppCatalog.Model} {now : Timestamp}
    (hrows : t.rows = db.appCatalogs.rows.map fun row : KubeAppCatalog.Model =>
      if row.id = catalogId then { row with deletedAt := some now } else row)
    (h : LiveCatalogs db) :
    Database.WatchesExactly { db with appCatalogs := t } ↔
      ∀ workload ∈ db.catalogWorkloads.rows, workload.appCatalogId = catalogId →
        workload.deletedAt = none →
          HasCatalogNamespace { db with appCatalogs := t } workload.clusterId workload.namespace ∨
            HasEnvironmentNamespace { db with appCatalogs := t } workload.clusterId
              workload.namespace := by
  rw [watchesExactly_iff (hasCatalogs_of_deleted hrows h.hasCatalogs)]
  constructor
  · exact fun hcovered workload hworkload _ hlive => hcovered workload hworkload hlive
  · intro hcovered workload hworkload hlive
    by_cases hid : workload.appCatalogId = catalogId
    · exact hcovered workload hworkload hid hlive
    · obtain ⟨catalog, hcatalog, hcatalogId, hcluster, hcatalogLive⟩ := h workload hworkload
      refine .inl ⟨catalog, ?_, hcluster, hcatalogLive hlive, workload, hworkload,
        hcatalogId.symm, hlive, rfl⟩
      rw [hrows]
      exact List.mem_map.2 ⟨catalog, hcatalog, if_neg fun h => hid (hcatalogId.symm.trans h)⟩

end

/-! ## Runs -/

section
variable {codec : ManifestCodec Text} {isEmpty : Text → Bool} {db db' : Database Text}

/-- One step keeps a live catalog for each live workload, where only emptied catalogs are deleted. -/
theorem liveCatalogs_step {call : WatchCall Text} (hstep : Step fromStr codec isEmpty db call db')
    (hemptied : DeletesEmptied db call) (h : LiveCatalogs db) : LiveCatalogs db' := by
  cases hstep
  cases call with
  | createAppCatalog orgId clusterId name workloads catalogId now =>
    exact (preserves_createAppCatalog_liveCatalogs orgId clusterId name workloads catalogId
      now).run h
  | deleteAppCatalog orgId catalogId now =>
    rw [apply]
    by_cases hdeletable : Deletable db orgId catalogId
    · obtain ⟨t, hrun, hrows⟩ := run_deleteAppCatalog_of_deletable hdeletable now
      rw [hrun]
      intro workload hworkload
      obtain ⟨catalog, hcatalog, hid, hcluster, hlive⟩ := h workload hworkload
      by_cases hdeleted : catalog.id = catalogId
      · have hdel := hemptied hdeletable workload hworkload (hid.symm.trans hdeleted)
        refine ⟨{ catalog with deletedAt := some now }, ?_, hid, hcluster, fun h => absurd h hdel⟩
        rw [hrows]
        exact List.mem_map.2 ⟨catalog, hcatalog, if_pos hdeleted⟩
      · refine ⟨catalog, ?_, hid, hcluster, hlive⟩
        rw [hrows]
        exact List.mem_map.2 ⟨catalog, hcatalog, if_neg hdeleted⟩
    · rwa [run_deleteAppCatalog_of_not_deletable hdeletable]
  | addWorkloadsToAppCatalog orgId catalogId enriched now =>
    exact (preserves_addWorkloads_liveCatalogs orgId catalogId enriched now).run h
  | deleteAppCatalogWorkload orgId workloadId now =>
    exact (preserves_deleteWorkload_liveCatalogs orgId workloadId now).run h
  | createKubeEnvironment outside orgId userId appCatalogId clusterId cluster name isShared
      environmentId «namespace» authToken now =>
    rw [apply]
    rcases KubeController.run_createKubeEnvironment fromStr codec isEmpty outside db orgId userId
      appCatalogId clusterId cluster name isShared environmentId «namespace» authToken now with
      heq | ⟨catalog, environment, details, -, -, -, -, -, -, -, -, -, hcreated⟩
    · rwa [heq]
    · refine h.congr ⟨?_, ?_⟩
      · rw [hcreated.appCatalogs]
      · rw [hcreated.catalogWorkloads]
  | createBranchEnvironment orgId userId baseEnvironmentId cluster name branchEnvironmentId authToken
      now =>
    exact h.congr (along_createBranchEnvironment orgId userId baseEnvironmentId cluster name
      branchEnvironmentId authToken now db)
  | deleteKubeEnvironment orgId environmentId connected notified destroyResult now =>
    exact h.congr (KubeController.along_deleteKubeEnvironment SameOwners.refl SameOwners.trans
      (fun _ _ => along_onEnvironments_sameOwners _) orgId connected notified destroyResult now db)

/-- **Watched namespaces.** In every run that deletes only catalogs without live workloads a cluster
is watched for the namespaces of its live catalogs and environments, each once. If such a run goes
on with the deletion of another catalog, it is so exactly if every namespace of the catalog's live
workloads is still one of a live catalog or environment. -/
theorem watchesExactly_of_run {calls : List (WatchCall Text)}
    (hrun : Run (Guarded (Step fromStr codec isEmpty) DeletesEmptied) (.empty Text) calls db) :
    db.WatchesExactly ∧
      ∀ orgId catalogId now db', Step fromStr codec isEmpty db (.deleteAppCatalog orgId catalogId now)
        db' → Deletable db orgId catalogId →
          (db'.WatchesExactly ↔ ∀ workload ∈ db.catalogWorkloads.rows,
            workload.appCatalogId = catalogId → workload.deletedAt = none →
              db'.HasCatalogNamespace workload.clusterId workload.namespace ∨
                db'.HasEnvironmentNamespace workload.clusterId workload.namespace) := by
  have h : LiveCatalogs db := by
    refine Run.invariant_of_guard LiveCatalogs ?_ hrun liveCatalogs_empty
    intro db call db' hstep hemptied h
    exact liveCatalogs_step hstep hemptied h
  refine ⟨(watchesExactly_iff h.hasCatalogs).2 fun workload hworkload hlive =>
    .inl (h.hasCatalogNamespace hworkload hlive), ?_⟩
  rintro orgId catalogId now db' rfl hdeletable
  obtain ⟨t, hrun', hrows⟩ := run_deleteAppCatalog_of_deletable hdeletable now
  rw [apply, hrun']
  exact watchesExactly_of_deleted hrows h

end

/-! ## A deleted catalog with a workload -/

/-- The catalog `shop` with the workload `web` in the namespace `prod`. -/
def createShopCatalog : WatchCall Document :=
  .createAppCatalog 1 1 "shop" [(11, ⟨"web", "prod", .deployment, [], [], .blank, none⟩)] 1 1

/-- The database after some calls. -/
def afterWatchCalls (calls : List (WatchCall Document)) : Database Document :=
  calls.foldl (fun db call => call.apply (fun _ => none) Document.codec (fun _ => false) db)
    (.empty _)

/-- The workload is deleted before the catalog. -/
theorem watchesExactly_of_run_emptied :
    (afterWatchCalls [createShopCatalog, .deleteAppCatalogWorkload 1 11 2,
      .deleteAppCatalog 1 1 3]).WatchesExactly := by
  have hdeleted : (afterWatchCalls [createShopCatalog,
      .deleteAppCatalogWorkload 1 11 2]).catalogWorkloads.rows.map (·.deletedAt) = [some 2] := by
    decide +kernel
  have hrun : Run (Guarded (Step (fun _ => none) Document.codec fun _ => false) DeletesEmptied)
      (.empty _) [createShopCatalog, .deleteAppCatalogWorkload 1 11 2, .deleteAppCatalog 1 1 3]
      (afterWatchCalls [createShopCatalog, .deleteAppCatalogWorkload 1 11 2,
        .deleteAppCatalog 1 1 3]) := by
    refine .cons ⟨rfl, trivial⟩ (.cons ⟨rfl, trivial⟩ (.cons ⟨rfl, fun _ => ?_⟩ .nil))
    intro workload hworkload _
    have hmem : workload.deletedAt ∈ [some 2] := hdeleted ▸ List.mem_map_of_mem hworkload
    rw [List.mem_singleton.1 hmem]
    exact nofun
  exact (watchesExactly_of_run hrun).1

/-- The namespace of the deleted catalog is still watched. -/
theorem deleted_catalog_watched :
    ¬∀ (calls : List (WatchCall Document)) (db : Database Document),
      Run (Step (fun _ => none) Document.codec fun _ => false) (.empty _) calls db →
        db.WatchesExactly := by
  intro h
  obtain ⟨namespaces, hrun, -, hmem⟩ := h [createShopCatalog, .deleteAppCatalog 1 1 2]
    (afterWatchCalls [createShopCatalog, .deleteAppCatalog 1 1 2])
    (.cons rfl (.cons rfl .nil)) 1
  have hwatched : ((DbApi.getClusterWatchNamespaces 1).run
      (afterWatchCalls [createShopCatalog, .deleteAppCatalog 1 1 2])).1 = .ok ["prod"] := by
    decide +kernel
  rw [hrun] at hwatched
  cases hwatched
  have hcatalogs : (afterWatchCalls [createShopCatalog,
      .deleteAppCatalog 1 1 2]).appCatalogs.rows.map (·.deletedAt) = [some 2] := by decide +kernel
  have henvironments : (afterWatchCalls [createShopCatalog,
      .deleteAppCatalog 1 1 2]).environments.rows = [] := by decide +kernel
  rcases (hmem "prod").1 (List.mem_singleton_self _) with
    ⟨catalog, hcatalog, -, hlive, -⟩ | ⟨environment, henvironment, -⟩
  · have hdel : catalog.deletedAt ∈ [some 2] := hcatalogs ▸ List.mem_map_of_mem hcatalog
    rw [hlive] at hdel
    simp at hdel
  · rw [henvironments] at henvironment
    cases henvironment

end

end WatchCall

end Lapdev
