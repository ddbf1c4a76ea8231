import Lapdev.Api.CatalogSync
import Lapdev.RustStd.Str

/-!
# Creating an environment

`create_kube_environment` of `kube_controller/environment.rs`: the workloads of a live catalog are
prepared like those of a sync, and stored with the version of the catalog. A creation that succeeds
adds the row of the environment and one row for each workload it read
(`run_createKubeEnvironment`); one that fails leaves the database.
-/

namespace Lapdev

open RustStd Sql Programs

variable {Text : Type}

/-- Source: `db/entities/src/kube_cluster.rs`, with the columns a creation reads. -/
structure KubeCluster.Model where
  organizationId : Uuid
  managerNamespace : Option String
  canDeployPersonal : Bool
  canDeployShared : Bool

namespace KubeController

/-- Source: `environment.rs`. -/
def normalizeEnvironmentName (name : String) : Except ApiError String :=
  let trimmed := Str.trim name.toList
  if trimmed.isEmpty then .error (.invalidRequest "Environment name cannot be empty")
  else .ok (String.ofList trimmed)

/-- Source: `environment.rs`; `cluster` is what `get_kube_cluster` returns. -/
def validateEnvironmentCreation (orgId appCatalogId : Uuid) (cluster : Option KubeCluster.Model)
    (isShared : Bool) : Call Text (KubeAppCatalog.Model × KubeCluster.Model) := do
  let found ← (DbApi.getAppCatalog appCatalogId).mapError .internalError
  let appCatalog ← Program.orFail found (.invalidRequest "App catalog not found")
  if appCatalog.organizationId ≠ orgId then .fail .unauthorized
  else do
    let cluster ← Program.orFail cluster (.invalidRequest "Cluster not found")
    if cluster.organizationId ≠ orgId then .fail .unauthorized
    else if isShared && !cluster.canDeployShared then
      .fail (.invalidRequest "Shared deployments are not allowed on this cluster")
    else if !isShared && !cluster.canDeployPersonal then
      .fail (.invalidRequest "Personal deployments are not allowed on this cluster")
    else pure (appCatalog, cluster)

/-- Source: `environment.rs`. -/
def fetchCatalogWorkloads (isEmpty : Text → Bool) (appCatalog : KubeAppCatalog.Model) :
    Call Text (List (KubeAppCatalogWorkload Text)) := do
  let workloads ← (DbApi.getAppCatalogWorkloads isEmpty appCatalog.id).mapError .internalError
  if workloads.isEmpty then
    .fail (.invalidRequest ("No workloads found for app catalog '" ++ appCatalog.name ++ "'"))
  else pure workloads

section
variable (fromStr : Text → Option Yaml.Value) (codec : ManifestCodec Text) (isEmpty : Text → Bool)
  (outside : Outside Text)

/-- Source: `environment.rs`; the id, the namespace and the token are those it makes up. A unique
violation is an internal error too: the name of an index is never the whole message. The watch of
the namespace and the deployment follow and touch no row of the catalog or of a workload. -/
def createKubeEnvironment (orgId userId appCatalogId clusterId : Uuid)
    (cluster : Option KubeCluster.Model) (name : String) (isShared : Bool) (environmentId : Uuid)
    («namespace» authToken : String) (now : Timestamp) : Call Text PUnit := do
  let name ← Program.ofExcept (normalizeEnvironmentName name)
  let (appCatalog, cluster) ← validateEnvironmentCreation orgId appCatalogId cluster isShared
  if !outside.connected then
    .fail (.invalidRequest "No connected KubeManager for the environment target cluster")
  else do
    let workloads ← fetchCatalogWorkloads isEmpty appCatalog
    let prepared ← getCatalogWorkloadsWithYamlFromDb codec outside appCatalog.clusterId workloads
      ⟨environmentId, «namespace», authToken, cluster.managerNamespace⟩
    (DbApi.createKubeEnvironment fromStr environmentId orgId userId appCatalogId clusterId name
      «namespace» "Creating" isShared appCatalog.syncVersion none prepared.2 prepared.1.services
      authToken now).mapError .internalError

end

/-! ## What a creation writes -/

/-- A creation adds an environment and its workloads, and touches no catalog. -/
structure Created (environment : KubeEnvironment.Model)
    (rows : List (KubeEnvironmentWorkload.Model Text)) (db db' : Database Text) : Prop where
  environments : db'.environments.rows = db.environments.rows ++ [environment]
  environmentWorkloads : db'.environmentWorkloads.rows = db.environmentWorkloads.rows ++ rows
  appCatalogs : db'.appCatalogs = db.appCatalogs
  catalogWorkloads : db'.catalogWorkloads = db.catalogWorkloads

section
variable {fromStr : Text → Option Yaml.Value} {environment : KubeEnvironment.Model}
  {rows : List (KubeEnvironmentWorkload.Model Text)}

/-- A statement on a table that a creation is not described by. -/
theorem Created.of_eq {db db₁ db₂ : Database Text} (h : Created environment rows db db₁)
    (henvironments : db₂.environments = db₁.environments)
    (hworkloads : db₂.environmentWorkloads = db₁.environmentWorkloads)
    (hcatalogs : db₂.appCatalogs = db₁.appCatalogs)
    (hcatalogWorkloads : db₂.catalogWorkloads = db₁.catalogWorkloads) :
    Created environment rows db db₂ :=
  ⟨henvironments ▸ h.environments, hworkloads ▸ h.environmentWorkloads,
    hcatalogs.trans h.appCatalogs, hcatalogWorkloads.trans h.catalogWorkloads⟩

/-- The labels of a workload are in a table of their own. -/
theorem preserves_created_replaceLabels (db : Database Text) (workloadId environmentId : Uuid)
    (labels : BTreeMap String String) (timestamp : Timestamp) :
    Preserves (Created environment rows db)
      (DbApi.replaceEnvironmentWorkloadLabels workloadId environmentId labels timestamp) := by
  refine Triple.bind (Q := fun _ => Created environment rows db) ?_ fun _ => ?_
  · exact Database.triple_statement (fun _ _ h _ => h.of_eq rfl rfl rfl rfl) fun _ _ h => h
  · refine Triple.forEach (J := fun _ => Created environment rows db) (fun entry _ => ?_) _
    unfold DbApi.insertLabel
    exact Database.triple_statement (fun _ _ h _ => h.of_eq rfl rfl rfl rfl) fun _ _ h => h

/-- **The transaction of a creation** adds its rows, or leaves the database. -/
theorem triple_createKubeEnvironment (fromStr : Text → Option Yaml.Value)
    (environmentId orgId userId appCatalogId clusterId : Uuid)
    (name «namespace» status : String) (isShared : Bool) (version : Int)
    (baseEnvironmentId : Option Uuid) (workloads : List (NewEnvironmentWorkload Text))
    (services : HashTable String (KubeServiceWithYaml Text)) (authToken : String) (now : Timestamp)
    (db : Database Text) :
    Triple (fun db₁ => db₁ = db)
      (DbApi.createKubeEnvironment fromStr environmentId orgId userId appCatalogId clusterId name
        «namespace» status isShared version baseEnvironmentId workloads services authToken now)
      (fun _ => Created
        ⟨environmentId, none, orgId, userId, appCatalogId, clusterId, name, «namespace», status,
          isShared, version, some now, "idle", baseEnvironmentId, authToken⟩
        (workloads.map fun workload => DbApi.workloadModel environmentId workload version now) db)
      fun _ db₁ => db₁ = db := by
  refine Triple.atomic (F := fun _ _ => True) ?_
  set environment : KubeEnvironment.Model := ⟨environmentId, none, orgId, userId, appCatalogId,
    clusterId, name, «namespace», status, isShared, version, some now, "idle", baseEnvironmentId,
    authToken⟩
  refine Triple.bind (Q := fun _ => Created environment [] db) ?_ fun _ => ?_
  · refine Database.triple_statement ?_ fun _ _ _ => trivial
    rintro _ t rfl h
    exact ⟨Table.rows_insert h, (List.append_nil _).symm, rfl, rfl⟩
  refine Triple.bind (Q := fun _ => Created environment
    (workloads.map fun workload => DbApi.workloadModel environmentId workload version now) db)
    ?_ fun _ => ?_
  · refine Triple.forEach_done (I := fun done => Created environment
      (done.map fun workload => DbApi.workloadModel environmentId workload version now) db)
      fun done workload _ _ => ?_
    refine Triple.bind (Q := fun _ => Created environment
      ((done ++ [workload]).map fun workload =>
        DbApi.workloadModel environmentId workload version now) db) ?_ fun _ =>
      (preserves_created_replaceLabels db _ _ _ _).consequence (fun _ h => h) (fun _ _ h => h)
        fun _ _ _ => trivial
    refine Database.triple_statement ?_ fun _ _ _ => trivial
    intro db₁ t hdb₁ h
    refine ⟨hdb₁.environments, ?_, hdb₁.appCatalogs, hdb₁.catalogWorkloads⟩
    rw [Table.rows_insert h, hdb₁.environmentWorkloads, List.map_append, List.append_assoc]
    rfl
  · refine Triple.forEach (J := fun _ => Created environment
      (workloads.map fun workload => DbApi.workloadModel environmentId workload version now) db)
      (fun _ _ => ?_) _
    exact Database.triple_statement (fun _ _ h _ => h.of_eq rfl rfl rfl rfl) fun _ _ _ => trivial

/-- A live catalog of the organization is found. -/
theorem run_validateEnvironmentCreation (db : Database Text) (orgId appCatalogId : Uuid)
    (cluster : Option KubeCluster.Model) (isShared : Bool) :
    ∃ r, (validateEnvironmentCreation orgId appCatalogId cluster isShared : Call Text _).run db =
        (r, db) ∧
      ∀ catalog cluster', r = .ok (catalog, cluster') →
        catalog ∈ db.appCatalogs.rows ∧ catalog.id = appCatalogId ∧ catalog.deletedAt = none := by
  unfold validateEnvironmentCreation
  rw [Program.run_bind, Program.run_mapError, DbApi.getAppCatalog, Program.run_read]
  dsimp only
  rw [Program.run_bind, Program.run_orFail]
  cases hcatalog : db.appCatalogs.one fun row =>
      row.id = appCatalogId && row.deletedAt = none with
  | none => exact ⟨_, rfl, fun _ _ h => by cases h⟩
  | some catalog =>
  obtain ⟨hmem, hp⟩ := Table.mem_of_one hcatalog
  simp only [Bool.and_eq_true, decide_eq_true_eq] at hp
  dsimp only [Option.elim]
  split
  · exact ⟨_, rfl, fun _ _ h => by cases h⟩
  cases cluster with
  | none => exact ⟨_, rfl, fun _ _ h => by cases h⟩
  | some cluster =>
  rw [Program.run_bind, Program.run_orFail]
  dsimp only [Option.elim]
  split
  · exact ⟨_, rfl, fun _ _ h => by cases h⟩
  split
  · exact ⟨_, rfl, fun _ _ h => by cases h⟩
  split
  · exact ⟨_, rfl, fun _ _ h => by cases h⟩
  · refine ⟨_, rfl, fun _ _ h => ?_⟩
    cases h
    exact ⟨hmem, hp.1, hp.2⟩

/-- **A run of a creation** leaves the database, or adds an environment at the version of its live
catalog with one workload for each one it read. -/
theorem run_createKubeEnvironment (fromStr : Text → Option Yaml.Value) (codec : ManifestCodec Text)
    (isEmpty : Text → Bool) (outside : Outside Text) (db : Database Text) (orgId userId appCatalogId clusterId : Uuid)
    (cluster : Option KubeCluster.Model) (name : String) (isShared : Bool) (environmentId : Uuid)
    («namespace» authToken : String) (now : Timestamp) :
    ((createKubeEnvironment fromStr codec isEmpty outside orgId userId appCatalogId clusterId
        cluster name isShared environmentId «namespace» authToken now).run db).2 = db ∨
      ∃ catalog environment details,
        catalog ∈ db.appCatalogs.rows ∧ catalog.id = appCatalogId ∧ catalog.deletedAt = none ∧
        environment.id = environmentId ∧ environment.appCatalogId = appCatalogId ∧
        environment.deletedAt = none ∧ environment.baseEnvironmentId = none ∧
        environment.catalogSyncVersion = catalog.syncVersion ∧
        List.Forall₂ (DetailOf «namespace»)
          (DbApi.readCatalogWorkloads isEmpty appCatalogId db) details ∧
        Created environment
          (details.map fun workload =>
            DbApi.workloadModel environmentId workload catalog.syncVersion now) db
          ((createKubeEnvironment fromStr codec isEmpty outside orgId userId appCatalogId clusterId
            cluster name isShared environmentId «namespace» authToken now).run db).2 := by
  unfold createKubeEnvironment
  rw [Program.run_bind, Program.run_ofExcept]
  cases normalizeEnvironmentName name with
  | error e => exact .inl rfl
  | ok name =>
  dsimp only
  obtain ⟨r, hvalidate, hcatalog⟩ := run_validateEnvironmentCreation db orgId appCatalogId cluster
    isShared
  rw [Program.run_bind, hvalidate]
  cases r with
  | error e => exact .inl rfl
  | ok validated =>
  obtain ⟨catalog, cluster'⟩ := validated
  obtain ⟨hmem, rfl, hlive⟩ := hcatalog catalog cluster' rfl
  dsimp only
  split
  · exact .inl rfl
  have hfetch : (fetchCatalogWorkloads isEmpty catalog).run db =
      if (DbApi.readCatalogWorkloads isEmpty catalog.id db).isEmpty then
        (.error (.invalidRequest ("No workloads found for app catalog '" ++ catalog.name ++ "'")),
          db)
      else (.ok (DbApi.readCatalogWorkloads isEmpty catalog.id db), db) := by
    unfold fetchCatalogWorkloads
    rw [Program.run_bind, Program.run_mapError, DbApi.getAppCatalogWorkloads, Program.run_read]
    dsimp only
    split <;> rfl
  rw [Program.run_bind, hfetch]
  split
  · next heq =>
    split at heq
    · cases heq
    cases heq
    obtain ⟨r, hprepare, hdetails⟩ := run_getCatalogWorkloadsWithYamlFromDb codec outside db
      catalog.clusterId (DbApi.readCatalogWorkloads isEmpty catalog.id db)
      ⟨environmentId, «namespace», authToken, cluster'.managerNamespace⟩
    rw [Program.run_bind, hprepare]
    cases r with
    | error e => exact .inl rfl
    | ok prepared =>
    dsimp only
    rw [Program.run_mapError]
    have hcreate := triple_createKubeEnvironment fromStr environmentId orgId userId catalog.id
      clusterId name «namespace» "Creating" isShared catalog.syncVersion none prepared.2
      prepared.1.services authToken now db db rfl
    split at hcreate
    · exact .inr ⟨catalog, _, prepared.2, hmem, rfl, hlive, rfl, rfl, rfl, rfl, rfl,
        (hdetails prepared.1 prepared.2 rfl).1, hcreate⟩
    · exact .inl hcreate
  · next heq =>
    split at heq
    · cases heq
      exact .inl rfl
    · cases heq

end

end KubeController

end Lapdev
