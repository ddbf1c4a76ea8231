import Lapdev.Api.AppCatalogs
import Lapdev.Logic.Run
import Lapdev.RustStd.Result

/-!
# Deletions of parents

Clusters, app catalogs, environments and branches are created and deleted by requests that take one
statement at a time: a creation reads its parents long before it inserts its row, and a deletion
counts what depends on a row before it marks the row as deleted. No row is left under a deleted
parent (`noDangling_of_run`) as long as no insertion comes after the count of a deletion.
-/

namespace Lapdev

open RustStd Sql Runs

namespace Inventory

/-! ## Rows -/

/-- Source: `db/entities/src/kube_cluster.rs`. -/
structure Cluster where
  id : Uuid
  organizationId : Uuid
  deletedAt : Option Timestamp
  canDeployPersonal : Bool
  canDeployShared : Bool

/-- Source: `db/entities/src/kube_app_catalog.rs`. -/
structure Catalog where
  id : Uuid
  organizationId : Uuid
  clusterId : Uuid
  deletedAt : Option Timestamp

/-- Source: `db/entities/src/kube_environment.rs`. -/
structure Environment where
  id : Uuid
  organizationId : Uuid
  appCatalogId : Uuid
  clusterId : Uuid
  isShared : Bool
  baseEnvironmentId : Option Uuid
  deletedAt : Option Timestamp

/-- The primary key. -/
instance clusterEntity : Entity Cluster where
  Conflict r r' := r.id = r'.id
  symm := Eq.symm
  dec := fun _ _ => inferInstance

/-- The primary key. -/
instance catalogEntity : Entity Catalog where
  Conflict r r' := r.id = r'.id
  symm := Eq.symm
  dec := fun _ _ => inferInstance

/-- The primary key; the namespaces that the other indexes keep apart are random. -/
instance environmentEntity : Entity Environment where
  Conflict r r' := r.id = r'.id
  symm := Eq.symm
  dec := fun _ _ => inferInstance

end Inventory

/-- The rows that have parents and their parents, deleted ones included. -/
structure Inventory where
  clusters : Table Inventory.Cluster
  catalogs : Table Inventory.Catalog
  environments : Table Inventory.Environment

namespace Inventory

/-- Before the first row. -/
def empty : Inventory := ⟨.empty, .empty, .empty⟩

/-! ## Statements -/

/-- Source: `db/src/api.rs`. -/
def getKubeCluster (db : Inventory) (clusterId : Uuid) : Option Cluster :=
  db.clusters.one fun row => row.id = clusterId && row.deletedAt = none

/-- Source: `db/src/api.rs`. -/
def getAppCatalog (db : Inventory) (catalogId : Uuid) : Option Catalog :=
  db.catalogs.one fun row => row.id = catalogId && row.deletedAt = none

/-- Source: `db/src/api.rs`. -/
def getKubeEnvironment (db : Inventory) (environmentId : Uuid) : Option Environment :=
  db.environments.one fun row => row.id = environmentId && row.deletedAt = none

/-- Source: `db/src/api.rs`. -/
def checkKubeClusterHasAppCatalogs (db : Inventory) (clusterId : Uuid) : Bool :=
  (db.catalogs.one fun row => row.clusterId = clusterId && row.deletedAt = none).isSome

/-- Source: `db/src/api.rs`. -/
def checkKubeClusterHasEnvironments (db : Inventory) (clusterId : Uuid) : Bool :=
  (db.environments.one fun row => row.clusterId = clusterId && row.deletedAt = none).isSome

/-- Source: `db/src/api.rs`. -/
def checkAppCatalogHasEnvironments (db : Inventory) (catalogId : Uuid) : Bool :=
  (db.environments.one fun row => row.appCatalogId = catalogId && row.deletedAt = none).isSome

/-- Source: `db/src/api.rs`. -/
def checkEnvironmentHasBranches (db : Inventory) (environmentId : Uuid) : Bool :=
  (db.environments.one fun row =>
    row.baseEnvironmentId = some environmentId && row.deletedAt = none).isSome

/-- The result of a write to the database. -/
def written {α : Type} (result : Except DbErr α) : Except ApiError α :=
  result.mapError fun e => .internalError (.db e)

/-- `INSERT`; a row keeps its foreign keys also where its parent is deleted. -/
def insertCatalog (db : Inventory) (row : Catalog) : Except ApiError Inventory :=
  if db.clusters.rows.all (·.id ≠ row.clusterId) then
    .error (.internalError (.anyhow "violates foreign key constraint"))
  else (written (db.catalogs.insert { row with deletedAt := none })).map fun t => { db with catalogs := t }

/-- `INSERT`, with the foreign keys. -/
def insertEnvironment (db : Inventory) (row : Environment) : Except ApiError Inventory :=
  if db.clusters.rows.all (·.id ≠ row.clusterId) || db.catalogs.rows.all (·.id ≠ row.appCatalogId) ||
      row.baseEnvironmentId.any fun baseId => db.environments.rows.all (·.id ≠ baseId) then
    .error (.internalError (.anyhow "violates foreign key constraint"))
  else (written (db.environments.insert { row with deletedAt := none })).map fun t => { db with environments := t }

/-- Source: `db/src/api.rs`. -/
def deleteKubeCluster (db : Inventory) (clusterId : Uuid) (now : Timestamp) :
    Except ApiError Inventory :=
  (written (db.clusters.updateOne (fun row => row.id = clusterId) fun row =>
    { row with deletedAt := some now })).map fun t => { db with clusters := t }

/-- Source: `db/src/api.rs`. -/
def deleteAppCatalog (db : Inventory) (catalogId : Uuid) (now : Timestamp) :
    Except ApiError Inventory :=
  (written (db.catalogs.updateOne (fun row => row.id = catalogId) fun row =>
    { row with deletedAt := some now })).map fun t => { db with catalogs := t }

/-- Source: `db/src/api.rs`. -/
def deleteKubeEnvironment (db : Inventory) (environmentId : Uuid) (now : Timestamp) :
    Except ApiError Inventory :=
  (written (db.environments.updateOne (fun row => row.id = environmentId) fun row =>
    { row with deletedAt := some now })).map fun t => { db with environments := t }

/-! ## Requests -/

/-- A request, with the id that a creation makes up. -/
inductive Call
  | createKubeCluster (orgId clusterId : Uuid)
  | createAppCatalog (orgId clusterId catalogId : Uuid)
  | createKubeEnvironment (orgId appCatalogId clusterId : Uuid) (isShared : Bool)
      (environmentId : Uuid)
  | createBranchEnvironment (orgId baseEnvironmentId environmentId : Uuid)
  | deleteKubeCluster (orgId clusterId : Uuid)
  | deleteAppCatalog (orgId catalogId : Uuid)
  | deleteKubeEnvironment (orgId environmentId : Uuid)

/-- What a request does next, with what it has read. The statements that follow the last one listed
touch none of the three tables. -/
inductive Request
  | insertCluster (cluster : Cluster)
  /-- `enrich_workloads_with_details`, calls to the cluster. -/
  | enrichWorkloads (catalog : Catalog)
  | insertCatalog (catalog : Catalog)
  | readCatalog (orgId : Uuid) (environment : Environment)
  | readCluster (orgId : Uuid) (environment : Environment)
  /-- `require_cluster_server` to `prepare_catalog_workloads`. -/
  | prepareWorkloads (environment : Environment)
  | readBase (orgId baseEnvironmentId environmentId : Uuid)
  | readBaseCluster (orgId : Uuid) (base : Environment) (environmentId : Uuid)
  | readBaseCatalog (orgId : Uuid) (base : Environment) (environmentId : Uuid)
  | insertEnvironment (environment : Environment)
  | findCluster (orgId clusterId : Uuid)
  | countCatalogs (clusterId : Uuid)
  | countEnvironments (clusterId : Uuid)
  | deleteCluster (clusterId : Uuid)
  | findCatalog (orgId catalogId : Uuid)
  | countCatalogEnvironments (catalogId : Uuid)
  | deleteCatalog (catalogId : Uuid)
  | findEnvironment (orgId environmentId : Uuid)
  | countBranches (environment : Environment)
  /-- From the connection to the cluster to the end of `destroy_environment_resources` or
  `destroy_branch_environment_resources` in the background. -/
  | destroy (environment : Environment)
  | deleteEnvironment (environment : Environment)

/-- The first statement of a call. -/
def Call.first : Call → Request
  | createKubeCluster orgId clusterId => .insertCluster ⟨clusterId, orgId, none, true, true⟩
  | createAppCatalog orgId clusterId catalogId => .enrichWorkloads ⟨catalogId, orgId, clusterId, none⟩
  | createKubeEnvironment orgId appCatalogId clusterId isShared environmentId =>
    .readCatalog orgId ⟨environmentId, orgId, appCatalogId, clusterId, isShared, none, none⟩
  | createBranchEnvironment orgId baseEnvironmentId environmentId =>
    .readBase orgId baseEnvironmentId environmentId
  | deleteKubeCluster orgId clusterId => .findCluster orgId clusterId
  | deleteAppCatalog orgId catalogId => .findCatalog orgId catalogId
  | deleteKubeEnvironment orgId environmentId => .findEnvironment orgId environmentId

/-- The row of a new branch. -/
def branchOf (base : Environment) (orgId environmentId : Uuid) : Environment where
  id := environmentId
  organizationId := orgId
  appCatalogId := base.appCatalogId
  clusterId := base.clusterId
  isShared := false
  baseEnvironmentId := some base.id
  deletedAt := none

/-- One statement of a request: the tables after it, and what the request does next. -/
def Request.statement (db : Inventory) (now : Timestamp) :
    Request → Except ApiError (Inventory × Option Request)
  | insertCluster cluster =>
    (written (db.clusters.insert { cluster with deletedAt := none })).map fun t =>
      ({ db with clusters := t }, none)
  | enrichWorkloads catalog => .ok (db, some (insertCatalog catalog))
  | insertCatalog catalog => (db.insertCatalog catalog).map (·, none)
  | readCatalog orgId environment =>
    match db.getAppCatalog environment.appCatalogId with
    | none => .error (.invalidRequest "App catalog not found")
    | some catalog =>
      if catalog.organizationId ≠ orgId then .error .unauthorized
      else .ok (db, some (readCluster orgId environment))
  | readCluster orgId environment =>
    match db.getKubeCluster environment.clusterId with
    | none => .error (.invalidRequest "Cluster not found")
    | some cluster =>
      if cluster.organizationId ≠ orgId then .error .unauthorized
      else if environment.isShared && !cluster.canDeployShared then
        .error (.invalidRequest "Shared deployments are not allowed on this cluster")
      else if !environment.isShared && !cluster.canDeployPersonal then
        .error (.invalidRequest "Personal deployments are not allowed on this cluster")
      else .ok (db, some (prepareWorkloads environment))
  | prepareWorkloads environment => .ok (db, some (insertEnvironment environment))
  | readBase orgId baseEnvironmentId environmentId =>
    match db.getKubeEnvironment baseEnvironmentId with
    | none => .error (.invalidRequest "Base environment not found")
    | some base =>
      if base.organizationId ≠ orgId then .error .unauthorized
      else if !base.isShared then
        .error (.invalidRequest "Only shared environments can be used as base environments")
      else if base.baseEnvironmentId.isSome then
        .error (.invalidRequest "Cannot create a branch from another branch environment")
      else .ok (db, some (readBaseCluster orgId base environmentId))
  | readBaseCluster orgId base environmentId =>
    match db.getKubeCluster base.clusterId with
    | none => .error (.invalidRequest "Cluster not found")
    | some _ => .ok (db, some (readBaseCatalog orgId base environmentId))
  | readBaseCatalog orgId base environmentId =>
    match db.getAppCatalog base.appCatalogId with
    | none => .error (.invalidRequest "App catalog not found")
    | some _ => .ok (db, some (insertEnvironment (branchOf base orgId environmentId)))
  | insertEnvironment environment => (db.insertEnvironment environment).map (·, none)
  | findCluster orgId clusterId =>
    match db.getKubeCluster clusterId with
    | none => .error (.invalidRequest "Cluster not found")
    | some cluster =>
      if cluster.organizationId ≠ orgId then .error .unauthorized
      else .ok (db, some (countCatalogs clusterId))
  | countCatalogs clusterId =>
    if db.checkKubeClusterHasAppCatalogs clusterId then
      .error (.invalidRequest
        "Cannot delete cluster: it has active app catalogs. Please delete them first.")
    else .ok (db, some (countEnvironments clusterId))
  | countEnvironments clusterId =>
    if db.checkKubeClusterHasEnvironments clusterId then
      .error (.invalidRequest
        "Cannot delete cluster: it has active environments. Please delete them first.")
    else .ok (db, some (deleteCluster clusterId))
  | deleteCluster clusterId => (db.deleteKubeCluster clusterId now).map (·, none)
  | findCatalog orgId catalogId =>
    match db.getAppCatalog catalogId with
    | none => .error (.invalidRequest "App catalog not found")
    | some catalog =>
      if catalog.organizationId ≠ orgId then .error .unauthorized
      else .ok (db, some (countCatalogEnvironments catalogId))
  | countCatalogEnvironments catalogId =>
    if db.checkAppCatalogHasEnvironments catalogId then
      .error (.invalidRequest
        "Cannot delete app catalog: it has active environments. Please delete them first.")
    else .ok (db, some (deleteCatalog catalogId))
  | deleteCatalog catalogId => (db.deleteAppCatalog catalogId now).map (·, none)
  | findEnvironment orgId environmentId =>
    match db.getKubeEnvironment environmentId with
    | none => .error (.invalidRequest "Environment not found")
    | some environment =>
      if environment.organizationId ≠ orgId then .error .unauthorized
      else if environment.isShared then .ok (db, some (countBranches environment))
      else .ok (db, some (destroy environment))
  | countBranches environment =>
    if db.checkEnvironmentHasBranches environment.id then
      .error (.invalidRequest
        "Cannot delete shared environment: it has active branch environments. Please delete them first.")
    else .ok (db, some (destroy environment))
  | destroy environment => .ok (db, some (deleteEnvironment environment))
  | deleteEnvironment environment => (db.deleteKubeEnvironment environment.id now).map (·, none)

end Inventory

/-- The tables, and what each request that is under way does next. -/
structure Requests where
  db : Inventory
  requests : Nat → Option Inventory.Request

/-- A request comes in, executes its next statement or ends early. -/
inductive RequestAction
  | call (i : Nat) (call : Inventory.Call)
  | advance (i : Nat) (now : Timestamp)
  | fail (i : Nat)

namespace Requests

open Inventory

/-- No row and no request. -/
def initial : Requests := ⟨.empty, fun _ => none⟩

/-- A request is where it goes next, or over. -/
def goOn (s : Requests) (i : Nat) (next : Option Request) : Requests :=
  { s with requests := Function.update s.requests i next }

/-- The statements of the requests, in any order. What is not modelled (the database, the calls to
the cluster, the check of a name) ends a request at any time without another write. -/
inductive Step : Requests → RequestAction → Requests → Prop
  | call {s : Requests} {i : Nat} {call : Call} (hfree : s.requests i = none) :
      Step s (.call i call) (s.goOn i (some call.first))
  | advance {s : Requests} {i : Nat} {now : Timestamp} {request : Request} {db : Inventory}
      {next : Option Request} (hrequest : s.requests i = some request)
      (hok : request.statement s.db now = .ok (db, next)) :
      Step s (.advance i now) { s.goOn i next with db := db }
  | error {s : Requests} {i : Nat} {now : Timestamp} {request : Request} {e : ApiError}
      (hrequest : s.requests i = some request) (herror : request.statement s.db now = .error e) :
      Step s (.advance i now) (s.goOn i none)
  | fail {s : Requests} {i : Nat} {request : Request} (hrequest : s.requests i = some request) :
      Step s (.fail i) (s.goOn i none)

/-- All requests and tasks have finished. -/
def AllFinished (s : Requests) : Prop := ∀ i, s.requests i = none

end Requests

namespace Inventory

/-! ## Parents -/

/-- **No dangling parents.** A live catalog belongs to a live cluster, and a live environment to a
live cluster, a live catalog and, if it is a branch, a live base. -/
structure NoDangling (db : Inventory) : Prop where
  clusterOfCatalog : ∀ catalog ∈ db.catalogs.rows, catalog.deletedAt = none →
    ∀ cluster ∈ db.clusters.rows, cluster.id = catalog.clusterId → cluster.deletedAt = none
  clusterOfEnvironment : ∀ environment ∈ db.environments.rows, environment.deletedAt = none →
    ∀ cluster ∈ db.clusters.rows, cluster.id = environment.clusterId → cluster.deletedAt = none
  catalogOfEnvironment : ∀ environment ∈ db.environments.rows, environment.deletedAt = none →
    ∀ catalog ∈ db.catalogs.rows, catalog.id = environment.appCatalogId → catalog.deletedAt = none
  baseOfBranch : ∀ branch ∈ db.environments.rows, branch.deletedAt = none →
    ∀ base ∈ db.environments.rows, branch.baseEnvironmentId = some base.id → base.deletedAt = none

/-- A parent, by the column that names it. -/
inductive Parent
  | clusterOfCatalog (clusterId : Uuid)
  | clusterOfEnvironment (clusterId : Uuid)
  | catalogOfEnvironment (catalogId : Uuid)
  | baseOfBranch (environmentId : Uuid)
  deriving DecidableEq

namespace Parent

/-- The parent is soft-deleted. -/
def Deleted (db : Inventory) : Parent → Prop
  | clusterOfCatalog id | clusterOfEnvironment id =>
    ∃ row ∈ db.clusters.rows, row.id = id ∧ row.deletedAt ≠ none
  | catalogOfEnvironment id => ∃ row ∈ db.catalogs.rows, row.id = id ∧ row.deletedAt ≠ none
  | baseOfBranch id => ∃ row ∈ db.environments.rows, row.id = id ∧ row.deletedAt ≠ none

/-- The count of the parent's live dependants. -/
def hasDependants (db : Inventory) : Parent → Bool
  | clusterOfCatalog id => db.checkKubeClusterHasAppCatalogs id
  | clusterOfEnvironment id => db.checkKubeClusterHasEnvironments id
  | catalogOfEnvironment id => db.checkAppCatalogHasEnvironments id
  | baseOfBranch id => db.checkEnvironmentHasBranches id

end Parent

/-- The parents of an environment. -/
def Environment.parents (environment : Environment) : List Parent :=
  .clusterOfEnvironment environment.clusterId :: .catalogOfEnvironment environment.appCatalogId ::
    (environment.baseEnvironmentId.map .baseOfBranch).toList

namespace Request

/-- The parents of the row that a request inserts next. -/
def inserts : Request → List Parent
  | insertCatalog catalog => [.clusterOfCatalog catalog.clusterId]
  | insertEnvironment environment => environment.parents
  | _ => []

/-- The parents whose dependants a deletion has counted. -/
def counted : Request → List Parent
  | countEnvironments clusterId => [.clusterOfCatalog clusterId]
  | deleteCluster clusterId => [.clusterOfCatalog clusterId, .clusterOfEnvironment clusterId]
  | deleteCatalog catalogId => [.catalogOfEnvironment catalogId]
  | destroy environment | deleteEnvironment environment =>
    if environment.isShared then [.baseOfBranch environment.id] else []
  | _ => []

end Request

end Inventory

namespace Requests

open Inventory

/-- An insertion comes before the counts of the deletions of its parents. -/
def InsertsUncounted (s : Requests) : RequestAction → Prop
  | .advance i _ => ∀ request, s.requests i = some request → ∀ parent ∈ request.inserts,
    ¬parent.Deleted s.db ∧ ∀ j other, s.requests j = some other → parent ∉ other.counted
  | _ => True

end Requests

namespace Inventory

/-! ## What a statement does -/

/-- A write that is done has written. -/
theorem eq_ok_of_map_written {α β : Type} {x : Except DbErr α} {f : α → β} {b : β}
    (h : (written x).map f = .ok b) : ∃ a, x = .ok a ∧ f a = b := by
  cases x with
  | error e => cases h
  | ok a => exact ⟨a, rfl, Except.ok.inj h⟩

/-- A row is found exactly if there is one. -/
theorem isSome_one {Row : Type} [Entity Row] {t : Table Row} {p : Row → Bool} :
    (t.one p).isSome = true ↔ ∃ row ∈ t.rows, p row = true :=
  List.find?_isSome

/-- There is a row of the environment, shared or not. -/
def Recorded (db : Inventory) (environmentId : Uuid) (isShared : Bool) : Prop :=
  ∃ row ∈ db.environments.rows, row.id = environmentId ∧ row.isShared = isShared

/-- What a request has read of the environments: a base is shared, and the environment that is
deleted has a row. -/
def Request.Known (db : Inventory) : Request → Prop
  | readCatalog _ environment | readCluster _ environment | prepareWorkloads environment =>
    environment.baseEnvironmentId = none
  | readBaseCluster _ base _ | readBaseCatalog _ base _ => db.Recorded base.id true
  | insertEnvironment environment => ∀ baseId ∈ environment.baseEnvironmentId, db.Recorded baseId true
  | countBranches environment | destroy environment | deleteEnvironment environment =>
    db.Recorded environment.id environment.isShared
  | _ => True

/-- What one statement of a request changes. -/
structure Changes (db : Inventory) (request : Request) (db' : Inventory) (next : Option Request) :
    Prop where
  dependants : ∀ parent : Parent, parent.hasDependants db' = true →
    parent.hasDependants db = true ∨ parent ∈ request.inserts
  deleted : ∀ parent : Parent, parent.Deleted db' → parent.Deleted db ∨ parent ∈ request.counted ∨
    ∃ environment, request = .deleteEnvironment environment ∧ environment.isShared = false ∧
      parent = .baseOfBranch environment.id
  counted : ∀ r ∈ next, ∀ parent ∈ r.counted,
    parent ∈ request.counted ∨ (db' = db ∧ parent.hasDependants db = false)
  recorded : ∀ environmentId isShared,
    db.Recorded environmentId isShared → db'.Recorded environmentId isShared
  branches : ∀ row ∈ db'.environments.rows, ∀ baseId ∈ row.baseEnvironmentId,
    (∃ old ∈ db.environments.rows, old.baseEnvironmentId = some baseId) ∨
      ∃ environment, request = .insertEnvironment environment ∧
        environment.baseEnvironmentId = some baseId
  known : request.Known db → ∀ r ∈ next, r.Known db'

/-- A statement that only reads. -/
theorem Changes.reads {db : Inventory} {request next : Request}
    (hcounted : ∀ parent ∈ next.counted,
      parent ∈ request.counted ∨ parent.hasDependants db = false)
    (hknown : request.Known db → next.Known db) : Changes db request db (some next) where
  dependants _ h := .inl h
  deleted _ h := .inl h
  counted := by
    rintro r hr parent hparent
    cases hr
    exact (hcounted parent hparent).imp_right fun h => ⟨rfl, h⟩
  recorded _ _ h := h
  branches row hrow baseId hbase := .inl ⟨row, hrow, hbase⟩
  known h r hr := by
    cases hr
    exact hknown h

/-- A row that an update leaves. -/
theorem exists_of_mem_updateOne {Row : Type} [Entity Row] {t t' : Table Row} {p : Row → Bool}
    {f : Row → Row} (h : t.updateOne p f = .ok t') {row : Row} (hrow : row ∈ t'.rows) :
    row ∈ t.rows ∨ ∃ old ∈ t.rows, p old = true ∧ f old = row := by
  rcases (Table.mem_updateMany (Table.updateOne_eq_ok.1 h).2).1 hrow with hnew | ⟨hold, -⟩
  · exact .inr hnew
  · exact .inl hold

/-- A condition that the rows an update writes do not meet is met by no more rows than before. -/
theorem isSome_one_of_updateOne {Row : Type} [Entity Row] {t t' : Table Row} {p q : Row → Bool}
    {f : Row → Row} (h : t.updateOne p f = .ok t') (hf : ∀ row, q (f row) = false)
    (hsome : (t'.one q).isSome = true) : (t.one q).isSome = true := by
  obtain ⟨row, hrow, hq⟩ := isSome_one.1 hsome
  rcases exists_of_mem_updateOne h hrow with hold | ⟨old, -, -, rfl⟩
  · exact isSome_one.2 ⟨row, hold, hq⟩
  · rw [hf old] at hq
    exact nomatch hq

/-- A condition is met by an inserted row, or by one before it. -/
theorem isSome_one_of_insert {Row : Type} [Entity Row] {t t' : Table Row} {q : Row → Bool} {row : Row}
    (h : t.insert row = .ok t') (hsome : (t'.one q).isSome = true) :
    (t.one q).isSome = true ∨ q row = true := by
  obtain ⟨r, hr, hq⟩ := isSome_one.1 hsome
  rcases (Table.mem_insert h).1 hr with hold | rfl
  · exact .inl (isSome_one.2 ⟨r, hold, hq⟩)
  · exact .inr hq

variable {db db' : Inventory} {next : Option Request} {now : Timestamp}

/-- What the creation of a cluster changes. -/
theorem changes_insertCluster {cluster : Cluster}
    (h : (Request.insertCluster cluster).statement db now = .ok (db', next)) :
    Changes db (.insertCluster cluster) db' next := by
  obtain ⟨t, ht, heq⟩ := eq_ok_of_map_written h
  cases heq
  refine ⟨fun parent hparent => .inl (by cases parent <;> exact hparent), ?_, nofun, fun _ _ h => h,
    fun row hrow baseId hbase => .inl ⟨row, hrow, hbase⟩, fun _ => nofun⟩
  have hold : ∀ id, (∃ row ∈ t.rows, row.id = id ∧ row.deletedAt ≠ none) →
      ∃ row ∈ db.clusters.rows, row.id = id ∧ row.deletedAt ≠ none := by
    rintro id ⟨row, hrow, hid, hdeleted⟩
    rcases (Table.mem_insert ht).1 hrow with hrow | rfl
    · exact ⟨row, hrow, hid, hdeleted⟩
    · exact absurd rfl hdeleted
  rintro (id | id | id | id) hparent
  · exact .inl (hold id hparent)
  · exact .inl (hold id hparent)
  · exact .inl hparent
  · exact .inl hparent

/-- What the creation of a catalog changes. -/
theorem changes_insertCatalog {catalog : Catalog}
    (h : (Request.insertCatalog catalog).statement db now = .ok (db', next)) :
    Changes db (.insertCatalog catalog) db' next := by
  rw [Request.statement, Inventory.insertCatalog] at h
  split at h
  · cases h
  obtain ⟨db₁, hdb₁, heq⟩ := Result.map_eq_ok.1 h
  obtain ⟨t, ht, rfl⟩ := eq_ok_of_map_written hdb₁
  cases heq
  refine ⟨?_, ?_, nofun, fun _ _ h => h, fun row hrow baseId hbase => .inl ⟨row, hrow, hbase⟩,
    fun _ => nofun⟩
  · rintro (id | id | id | id) hparent
    · refine (isSome_one_of_insert ht hparent).imp_right fun hrow => ?_
      simp only [Bool.and_eq_true, decide_eq_true_eq] at hrow
      rw [← hrow.1]
      exact List.mem_singleton_self _
    · exact .inl hparent
    · exact .inl hparent
    · exact .inl hparent
  · rintro (id | id | id | id) hparent
    · exact .inl hparent
    · exact .inl hparent
    · obtain ⟨row, hrow, hid, hdeleted⟩ := hparent
      rcases (Table.mem_insert ht).1 hrow with hrow | rfl
      · exact .inl ⟨row, hrow, hid, hdeleted⟩
      · exact absurd rfl hdeleted
    · exact .inl hparent

/-- What the creation of an environment changes. -/
theorem changes_insertEnvironment {environment : Environment}
    (h : (Request.insertEnvironment environment).statement db now = .ok (db', next)) :
    Changes db (.insertEnvironment environment) db' next := by
  rw [Request.statement, Inventory.insertEnvironment] at h
  split at h
  · cases h
  obtain ⟨db₁, hdb₁, heq⟩ := Result.map_eq_ok.1 h
  obtain ⟨t, ht, rfl⟩ := eq_ok_of_map_written hdb₁
  cases heq
  refine ⟨?_, ?_, nofun, ?_, ?_, fun _ => nofun⟩
  · rintro (id | id | id | id) hparent
    · exact .inl hparent
    · refine (isSome_one_of_insert ht hparent).imp_right fun hrow => ?_
      simp only [Bool.and_eq_true, decide_eq_true_eq] at hrow
      rw [← hrow.1]
      exact List.mem_cons_self
    · refine (isSome_one_of_insert ht hparent).imp_right fun hrow => ?_
      simp only [Bool.and_eq_true, decide_eq_true_eq] at hrow
      rw [← hrow.1]
      exact List.mem_cons_of_mem _ List.mem_cons_self
    · refine (isSome_one_of_insert ht hparent).imp_right fun hrow => ?_
      simp only [Bool.and_eq_true, decide_eq_true_eq] at hrow
      refine List.mem_cons_of_mem _ (List.mem_cons_of_mem _ ?_)
      rw [Option.mem_toList, hrow.1]
      rfl
  · rintro (id | id | id | id) hparent
    · exact .inl hparent
    · exact .inl hparent
    · exact .inl hparent
    · obtain ⟨row, hrow, hid, hdeleted⟩ := hparent
      rcases (Table.mem_insert ht).1 hrow with hrow | rfl
      · exact .inl ⟨row, hrow, hid, hdeleted⟩
      · exact absurd rfl hdeleted
  · rintro environmentId isShared ⟨row, hrow, hid, hshared⟩
    exact ⟨row, (Table.mem_insert ht).2 (.inl hrow), hid, hshared⟩
  · intro row hrow baseId hbase
    rcases (Table.mem_insert ht).1 hrow with hrow | rfl
    · exact .inl ⟨row, hrow, hbase⟩
    · exact .inr ⟨environment, rfl, hbase⟩

/-- What the deletion of a cluster changes. -/
theorem changes_deleteCluster {clusterId : Uuid}
    (h : (Request.deleteCluster clusterId).statement db now = .ok (db', next)) :
    Changes db (.deleteCluster clusterId) db' next := by
  rw [Request.statement, Inventory.deleteKubeCluster] at h
  obtain ⟨db₁, hdb₁, heq⟩ := Result.map_eq_ok.1 h
  obtain ⟨t, ht, rfl⟩ := eq_ok_of_map_written hdb₁
  cases heq
  refine ⟨fun parent hparent => .inl (by cases parent <;> exact hparent), ?_, nofun, fun _ _ h => h,
    fun row hrow baseId hbase => .inl ⟨row, hrow, hbase⟩, fun _ => nofun⟩
  have hold : ∀ id, (∃ row ∈ t.rows, row.id = id ∧ row.deletedAt ≠ none) →
      (∃ row ∈ db.clusters.rows, row.id = id ∧ row.deletedAt ≠ none) ∨ id = clusterId := by
    rintro id ⟨row, hrow, hid, hdeleted⟩
    rcases exists_of_mem_updateOne ht hrow with hrow | ⟨old, -, hold, rfl⟩
    · exact .inl ⟨row, hrow, hid, hdeleted⟩
    · exact .inr (hid.symm.trans (of_decide_eq_true hold))
  rintro (id | id | id | id) hparent
  · refine (hold id hparent).imp_right fun hid => .inl ?_
    rw [hid]
    exact List.mem_cons_self
  · refine (hold id hparent).imp_right fun hid => .inl ?_
    rw [hid]
    exact List.mem_cons_of_mem _ (List.mem_singleton_self _)
  · exact .inl hparent
  · exact .inl hparent

/-- What the deletion of a catalog changes. -/
theorem changes_deleteCatalog {catalogId : Uuid}
    (h : (Request.deleteCatalog catalogId).statement db now = .ok (db', next)) :
    Changes db (.deleteCatalog catalogId) db' next := by
  rw [Request.statement, Inventory.deleteAppCatalog] at h
  obtain ⟨db₁, hdb₁, heq⟩ := Result.map_eq_ok.1 h
  obtain ⟨t, ht, rfl⟩ := eq_ok_of_map_written hdb₁
  cases heq
  refine ⟨?_, ?_, nofun, fun _ _ h => h, fun row hrow baseId hbase => .inl ⟨row, hrow, hbase⟩,
    fun _ => nofun⟩
  · rintro (id | id | id | id) hparent
    · exact .inl (isSome_one_of_updateOne ht (fun row => by simp) hparent)
    · exact .inl hparent
    · exact .inl hparent
    · exact .inl hparent
  · rintro (id | id | id | id) hparent
    · exact .inl hparent
    · exact .inl hparent
    · obtain ⟨row, hrow, hid, hdeleted⟩ := hparent
      rcases exists_of_mem_updateOne ht hrow with hrow | ⟨old, -, hold, rfl⟩
      · exact .inl ⟨row, hrow, hid, hdeleted⟩
      · refine .inr (.inl ?_)
        rw [← hid, of_decide_eq_true hold]
        exact List.mem_singleton_self _
    · exact .inl hparent

/-- What the deletion of an environment changes. -/
theorem changes_deleteEnvironment {environment : Environment}
    (h : (Request.deleteEnvironment environment).statement db now = .ok (db', next)) :
    Changes db (.deleteEnvironment environment) db' next := by
  rw [Request.statement, Inventory.deleteKubeEnvironment] at h
  obtain ⟨db₁, hdb₁, heq⟩ := Result.map_eq_ok.1 h
  obtain ⟨t, ht, rfl⟩ := eq_ok_of_map_written hdb₁
  cases heq
  refine ⟨?_, ?_, nofun, ?_, ?_, fun _ => nofun⟩
  · rintro (id | id | id | id) hparent
    · exact .inl hparent
    · exact .inl (isSome_one_of_updateOne ht (fun row => by simp) hparent)
    · exact .inl (isSome_one_of_updateOne ht (fun row => by simp) hparent)
    · exact .inl (isSome_one_of_updateOne ht (fun row => by simp) hparent)
  · rintro (id | id | id | id) hparent
    · exact .inl hparent
    · exact .inl hparent
    · exact .inl hparent
    · obtain ⟨row, hrow, hid, hdeleted⟩ := hparent
      rcases exists_of_mem_updateOne ht hrow with hrow | ⟨old, -, hold, rfl⟩
      · exact .inl ⟨row, hrow, hid, hdeleted⟩
      · have hid : id = environment.id := hid.symm.trans (of_decide_eq_true hold)
        cases hshared : environment.isShared with
        | true =>
          refine .inr (.inl ?_)
          rw [Request.counted, if_pos hshared, hid]
          exact List.mem_singleton_self _
        | false => exact .inr (.inr ⟨environment, rfl, hshared, by rw [hid]⟩)
  · rintro environmentId isShared ⟨row, hrow, hid, hshared⟩
    by_cases hdeleted : row.id = environment.id
    · exact ⟨{ row with deletedAt := some now },
        (Table.mem_updateMany (Table.updateOne_eq_ok.1 ht).2).2
          (.inl ⟨row, hrow, decide_eq_true hdeleted, rfl⟩), hid, hshared⟩
    · exact ⟨row, (Table.mem_updateMany (Table.updateOne_eq_ok.1 ht).2).2
        (.inr ⟨hrow, decide_eq_false hdeleted⟩), hid, hshared⟩
  · intro row hrow baseId hbase
    rcases exists_of_mem_updateOne ht hrow with hrow | ⟨old, hmem, -, rfl⟩
    · exact .inl ⟨row, hrow, hbase⟩
    · exact .inl ⟨old, hmem, hbase⟩

/-- A live environment that is found is recorded. -/
theorem recorded_of_getKubeEnvironment {environmentId : Uuid} {environment : Environment}
    (h : db.getKubeEnvironment environmentId = some environment) :
    db.Recorded environment.id environment.isShared :=
  ⟨environment, (Table.mem_of_one h).1, rfl, rfl⟩

/-- What each statement of a request changes. -/
theorem changes_of_statement {request : Request}
    (h : request.statement db now = .ok (db', next)) : Changes db request db' next := by
  cases request with
  | insertCluster cluster => exact changes_insertCluster h
  | enrichWorkloads catalog =>
    cases h
    exact .reads nofun id
  | insertCatalog catalog => exact changes_insertCatalog h
  | readCatalog orgId environment =>
    rw [Request.statement] at h
    split at h
    · cases h
    split at h
    · cases h
    cases h
    exact .reads nofun id
  | readCluster orgId environment =>
    rw [Request.statement] at h
    split at h
    · cases h
    split at h
    · cases h
    split at h
    · cases h
    split at h
    · cases h
    cases h
    exact .reads nofun id
  | prepareWorkloads environment =>
    cases h
    refine .reads nofun fun hbase baseId hmem => ?_
    rw [show environment.baseEnvironmentId = none from hbase] at hmem
    exact nomatch hmem
  | readBase orgId baseEnvironmentId environmentId =>
    rw [Request.statement] at h
    split at h
    · cases h
    next base hbase =>
    split at h
    · cases h
    split at h
    · cases h
    next hshared =>
    split at h
    · cases h
    cases h
    refine .reads nofun fun _ => ?_
    have hrecorded := recorded_of_getKubeEnvironment hbase
    rw [show base.isShared = true by simpa using hshared] at hrecorded
    exact hrecorded
  | readBaseCluster orgId base environmentId =>
    rw [Request.statement] at h
    split at h
    · cases h
    cases h
    exact .reads nofun id
  | readBaseCatalog orgId base environmentId =>
    rw [Request.statement] at h
    split at h
    · cases h
    cases h
    refine .reads nofun fun hrecorded baseId hmem => ?_
    cases Option.mem_def.1 hmem
    exact hrecorded
  | insertEnvironment environment => exact changes_insertEnvironment h
  | findCluster orgId clusterId =>
    rw [Request.statement] at h
    split at h
    · cases h
    split at h
    · cases h
    cases h
    exact .reads nofun id
  | countCatalogs clusterId =>
    rw [Request.statement] at h
    split at h
    · cases h
    next hnone =>
    cases h
    refine .reads (fun parent hparent => .inr ?_) id
    rw [List.mem_singleton.1 hparent]
    exact Bool.eq_false_iff.2 hnone
  | countEnvironments clusterId =>
    rw [Request.statement] at h
    split at h
    · cases h
    next hnone =>
    cases h
    refine .reads (fun parent hparent => ?_) id
    rcases List.mem_cons.1 hparent with rfl | hparent
    · exact .inl (List.mem_singleton_self _)
    · rw [List.mem_singleton.1 hparent]
      exact .inr (Bool.eq_false_iff.2 hnone)
  | deleteCluster clusterId => exact changes_deleteCluster h
  | findCatalog orgId catalogId =>
    rw [Request.statement] at h
    split at h
    · cases h
    split at h
    · cases h
    cases h
    exact .reads nofun id
  | countCatalogEnvironments catalogId =>
    rw [Request.statement] at h
    split at h
    · cases h
    next hnone =>
    cases h
    refine .reads (fun parent hparent => .inr ?_) id
    rw [List.mem_singleton.1 hparent]
    exact Bool.eq_false_iff.2 hnone
  | deleteCatalog catalogId => exact changes_deleteCatalog h
  | findEnvironment orgId environmentId =>
    rw [Request.statement] at h
    split at h
    · cases h
    next environment henvironment =>
    have hrecorded := recorded_of_getKubeEnvironment henvironment
    split at h
    · cases h
    split at h
    · cases h
      exact .reads nofun fun _ => hrecorded
    · next hshared =>
      cases h
      refine .reads (fun parent hparent => ?_) fun _ => hrecorded
      rw [Request.counted, if_neg hshared] at hparent
      exact nomatch hparent
  | countBranches environment =>
    rw [Request.statement] at h
    split at h
    · cases h
    next hnone =>
    cases h
    refine .reads (fun parent hparent => .inr ?_) id
    rw [Request.counted] at hparent
    split at hparent
    · rw [List.mem_singleton.1 hparent]
      exact Bool.eq_false_iff.2 hnone
    · exact nomatch hparent
  | destroy environment =>
    cases h
    exact .reads (fun parent hparent => .inl hparent) id
  | deleteEnvironment environment => exact changes_deleteEnvironment h

/-- Deleted parents without live dependants. -/
theorem noDangling_of_hasDependants
    (h : ∀ parent : Parent, parent.Deleted db → parent.hasDependants db = false) :
    NoDangling db := by
  have hlive : ∀ parent : Parent, parent.hasDependants db = true → ¬parent.Deleted db := by
    intro parent hdependants hdeleted
    rw [h parent hdeleted] at hdependants
    exact nomatch hdependants
  refine ⟨?_, ?_, ?_, ?_⟩
  · intro catalog hcatalog halive cluster hcluster hid
    by_contra hdeleted
    exact hlive (.clusterOfCatalog catalog.clusterId)
      (isSome_one.2 ⟨catalog, hcatalog, by simp [halive]⟩) ⟨cluster, hcluster, hid, hdeleted⟩
  · intro environment henvironment halive cluster hcluster hid
    by_contra hdeleted
    exact hlive (.clusterOfEnvironment environment.clusterId)
      (isSome_one.2 ⟨environment, henvironment, by simp [halive]⟩) ⟨cluster, hcluster, hid, hdeleted⟩
  · intro environment henvironment halive catalog hcatalog hid
    by_contra hdeleted
    exact hlive (.catalogOfEnvironment environment.appCatalogId)
      (isSome_one.2 ⟨environment, henvironment, by simp [halive]⟩) ⟨catalog, hcatalog, hid, hdeleted⟩
  · intro branch hbranch halive base hbase hid
    by_contra hdeleted
    exact hlive (.baseOfBranch base.id)
      (isSome_one.2 ⟨branch, hbranch, by simp [halive, hid]⟩) ⟨base, hbase, rfl, hdeleted⟩

end Inventory

namespace Requests

open Inventory

/-! ## Runs -/

/-- Deleted parents, and those whose deletion has counted, have no live dependants; every base is
shared; and the requests know what they have read. -/
structure Sound (s : Requests) : Prop where
  deleted : ∀ parent : Parent, parent.Deleted s.db → parent.hasDependants s.db = false
  counted : ∀ i request, s.requests i = some request → ∀ parent ∈ request.counted,
    parent.hasDependants s.db = false
  bases : ∀ row ∈ s.db.environments.rows, ∀ baseId ∈ row.baseEnvironmentId,
    s.db.Recorded baseId true
  known : ∀ i request, s.requests i = some request → request.Known s.db

/-- Without rows nothing dangles. -/
theorem sound_initial : initial.Sound where
  deleted := by rintro (id | id | id | id) ⟨row, hrow, -⟩ <;> cases hrow
  counted := nofun
  bases := nofun
  known := nofun

/-- A request that comes in knows no row yet. -/
theorem known_first (db : Inventory) (call : Call) : call.first.Known db := by
  cases call <;> trivial

/-- A request that comes in has counted nothing yet. -/
theorem counted_first (call : Call) : call.first.counted = [] := by
  cases call <;> rfl

/-- A row of a base is shared. -/
theorem Sound.shared_of_dependants {s : Requests} (h : s.Sound) {environment : Environment}
    (hrecorded : s.db.Recorded environment.id environment.isShared)
    (hdependants : Parent.hasDependants s.db (.baseOfBranch environment.id) = true) :
    environment.isShared = true := by
  obtain ⟨branch, hbranch, hbase⟩ := isSome_one.1 hdependants
  simp only [Bool.and_eq_true, decide_eq_true_eq] at hbase
  obtain ⟨row, hrow, hid, hshared⟩ := h.bases branch hbranch environment.id hbase.1
  obtain ⟨row', hrow', hid', hshared'⟩ := hrecorded
  have heq : row = row' := s.db.environments.eq_of_conflict hrow hrow' (hid.trans hid'.symm)
  rw [← hshared', ← heq, hshared]

/-- A request goes on with what it knows and has counted. -/
theorem Sound.goOn {s : Requests} (h : s.Sound) (i : Nat) {next : Option Request}
    (hcounted : ∀ r ∈ next, ∀ parent ∈ r.counted, parent.hasDependants s.db = false)
    (hknown : ∀ r ∈ next, r.Known s.db) : (s.goOn i next).Sound := by
  refine ⟨h.deleted, ?_, h.bases, ?_⟩
  · intro j request hj parent hparent
    rcases update_eq_some hj with ⟨-, hnext⟩ | ⟨-, hold⟩
    · exact hcounted request hnext parent hparent
    · exact h.counted j request hold parent hparent
  · intro j request hj
    rcases update_eq_some hj with ⟨-, hnext⟩ | ⟨-, hold⟩
    · exact hknown request hnext
    · exact h.known j request hold

/-- What a request knows stays so. -/
theorem known_of_changes {db db' : Inventory} {request other : Request} {next : Option Request}
    (h : Changes db request db' next) (hknown : other.Known db) : other.Known db' := by
  cases other with
  | readBaseCluster | readBaseCatalog | countBranches | destroy | deleteEnvironment =>
    exact h.recorded _ _ hknown
  | insertEnvironment environment => exact fun baseId hbase => h.recorded _ _ (hknown baseId hbase)
  | readCatalog | readCluster | prepareWorkloads => exact hknown
  | _ => trivial

/-- A statement of a request whose inserts are uncounted keeps the tables sound. -/
theorem Sound.advance {s : Requests} (h : s.Sound) {i : Nat} {now : Timestamp} {request : Request}
    {db : Inventory} {next : Option Request} (hrequest : s.requests i = some request)
    (hok : request.statement s.db now = .ok (db, next))
    (hguard : InsertsUncounted s (.advance i now)) : Sound { s.goOn i next with db := db } := by
  have hchanges := changes_of_statement hok
  have huncounted := hguard request hrequest
  -- what has no dependants gets none from a statement that inserts below other parents
  have hkeeps : ∀ parent : Parent, parent.hasDependants s.db = false → parent ∉ request.inserts →
      parent.hasDependants db = false := by
    intro parent hnone hinserts
    rw [Bool.eq_false_iff]
    intro hsome
    rcases hchanges.dependants parent hsome with hold | hnew
    · rw [hnone] at hold
      exact nomatch hold
    · exact hinserts hnew
  refine ⟨?_, ?_, ?_, ?_⟩
  · intro parent hdeleted
    rcases hchanges.deleted parent hdeleted with hold | hcounted | ⟨environment, rfl, hshared, rfl⟩
    · exact hkeeps parent (h.deleted parent hold) fun hinserts => (huncounted parent hinserts).1 hold
    · exact hkeeps parent (h.counted i request hrequest parent hcounted)
        fun hinserts => (huncounted parent hinserts).2 i request hrequest hcounted
    · refine hkeeps _ ?_ nofun
      rw [Bool.eq_false_iff]
      intro hdependants
      have hrecorded : s.db.Recorded environment.id environment.isShared := h.known i _ hrequest
      rw [h.shared_of_dependants hrecorded hdependants] at hshared
      exact nomatch hshared
  · intro j other hj parent hparent
    rcases update_eq_some hj with ⟨-, hnext⟩ | ⟨-, hold⟩
    · rcases hchanges.counted other hnext parent hparent with hcounted | ⟨hdb, hnone⟩
      · exact hkeeps parent (h.counted i request hrequest parent hcounted)
          fun hinserts => (huncounted parent hinserts).2 i request hrequest hcounted
      · dsimp only
        rw [hdb]
        exact hnone
    · exact hkeeps parent (h.counted j other hold parent hparent)
        fun hinserts => (huncounted parent hinserts).2 j other hold hparent
  · intro row hrow baseId hbase
    rcases hchanges.branches row hrow baseId hbase with ⟨old, hold, hbase⟩ | ⟨environment, rfl, hbase⟩
    · exact hchanges.recorded _ _ (h.bases old hold baseId hbase)
    · exact hchanges.recorded _ _ (h.known i _ hrequest baseId hbase)
  · intro j other hj
    rcases update_eq_some hj with ⟨-, hnext⟩ | ⟨-, hold⟩
    · exact hchanges.known (h.known i request hrequest) other hnext
    · exact known_of_changes hchanges (h.known j other hold)

/-- Every such step does. -/
theorem Sound.step {s s' : Requests} {action : RequestAction} (hstep : Step s action s')
    (hguard : InsertsUncounted s action) (h : s.Sound) : s'.Sound := by
  cases hstep with
  | @call i call hfree =>
    refine h.goOn i ?_ ?_
    · rintro r hr parent hparent
      cases hr
      rw [counted_first call] at hparent
      exact nomatch hparent
    · rintro r hr
      cases hr
      exact known_first s.db call
  | advance hrequest hok => exact h.advance hrequest hok hguard
  | error | fail => exact h.goOn _ nofun nofun

/-- **No dangling parents.** In every run in which no insertion comes after the count of a deletion
of one of its parents. -/
theorem noDangling_of_run {actions : List RequestAction} {s : Requests}
    (hrun : Run (Guarded Step InsertsUncounted) initial actions s) : s.db.NoDangling := by
  refine noDangling_of_hasDependants (Run.invariant_of_guard Sound ?_ hrun sound_initial).deleted
  intro s action s' hstep hguard h
  exact h.step hstep hguard

/-! ## A catalog of a deleted cluster -/

/-- The state after an action. -/
def perform (s : Requests) : RequestAction → Requests
  | .call i call => s.goOn i (some call.first)
  | .advance i now =>
    match s.requests i with
    | none => s
    | some request =>
      match request.statement s.db now with
      | .ok (db, next) => { s.goOn i next with db := db }
      | .error _ => s.goOn i none
  | .fail i => s.goOn i none

/-- The action can be taken. -/
def enabled (s : Requests) : RequestAction → Bool
  | .call i _ => (s.requests i).isNone
  | .advance i _ | .fail i => (s.requests i).isSome

/-- An action that is enabled is a step. -/
theorem step_perform {s : Requests} {action : RequestAction} (h : s.enabled action = true) :
    Step s action (s.perform action) := by
  cases action with
  | call i call => exact .call (Option.isNone_iff_eq_none.1 h)
  | advance i now =>
    obtain ⟨request, hrequest⟩ := Option.isSome_iff_exists.1 h
    cases hstatement : request.statement s.db now with
    | ok result =>
      simp only [perform, hrequest, hstatement]
      exact .advance hrequest hstatement
    | error e =>
      simp only [perform, hrequest, hstatement]
      exact .error hrequest hstatement
  | fail i =>
    obtain ⟨request, hrequest⟩ := Option.isSome_iff_exists.1 h
    exact .fail hrequest

/-- The actions can be taken one after the other. -/
def enabledAll : Requests → List RequestAction → Bool
  | _, [] => true
  | s, action :: actions => s.enabled action && (s.perform action).enabledAll actions

/-- Actions that are enabled are a run. -/
theorem run_perform {actions : List RequestAction} {s : Requests}
    (h : s.enabledAll actions = true) : Run Step s actions (actions.foldl perform s) := by
  induction actions generalizing s with
  | nil => exact .nil
  | cons action actions ih =>
    rw [enabledAll, Bool.and_eq_true] at h
    exact .cons (step_perform h.1) (ih h.2)

/-- The cluster `1` is created. -/
def createsCluster : List RequestAction := [.call 0 (.createKubeCluster 1 1), .advance 0 1]

/-- Then a catalog of it. -/
def createsCatalog : List RequestAction :=
  createsCluster ++ [.call 1 (.createAppCatalog 1 1 2), .advance 1 2, .advance 1 3]

/-- Then the cluster, which has a catalog, the catalog and the cluster are deleted. -/
def deletesCatalog : List RequestAction :=
  createsCatalog ++ [.call 2 (.deleteKubeCluster 1 1), .advance 2 4, .advance 2 5,
    .call 3 (.deleteAppCatalog 1 2), .advance 3 6, .advance 3 7, .advance 3 8,
    .call 4 (.deleteKubeCluster 1 1), .advance 4 9, .advance 4 10, .advance 4 11, .advance 4 12]

/-- When the catalog is inserted. -/
theorem insertsUncounted_createsCatalog :
    ((createsCatalog.take 4).foldl perform initial).InsertsUncounted (.advance 1 3) := by
  intro request hrequest parent hparent
  cases hrequest
  cases List.mem_singleton.1 hparent
  refine ⟨?_, ?_⟩
  · rintro ⟨row, hrow, -, hdeleted⟩
    cases List.mem_singleton.1 hrow
    exact hdeleted rfl
  · intro j other hother
    rcases update_eq_some hother with ⟨-, heq⟩ | ⟨hj, hold⟩
    · cases heq
      exact nofun
    · rcases update_eq_some hold with ⟨hj', -⟩ | ⟨-, hold⟩
      · exact absurd hj' hj
      · rcases update_eq_some hold with ⟨-, heq⟩ | ⟨-, hold⟩
        · cases heq
        · rcases update_eq_some hold with ⟨-, heq⟩ | ⟨-, hold⟩
          · cases heq
            exact nofun
          · cases hold

/-- The cluster is live when its catalog is inserted, and is deleted after it only. -/
theorem noDangling_of_run_catalog :
    (deletesCatalog.foldl perform initial).db.NoDangling ∧
      (deletesCatalog.foldl perform initial).db.getKubeCluster 1 = none := by
  have hnone : ∀ {s : Requests} {i : Nat} {now : Timestamp} {request : Request},
      s.requests i = some request → request.inserts = [] → InsertsUncounted s (.advance i now) := by
    intro s i now request hrequest hinserts other hother parent hparent
    cases hrequest.symm.trans hother
    rw [hinserts] at hparent
    exact nomatch hparent
  have hrun : Run (Guarded Step InsertsUncounted) initial deletesCatalog
      (deletesCatalog.foldl perform initial) := by
    refine .cons ⟨step_perform rfl, trivial⟩ (.cons ⟨step_perform rfl, hnone rfl rfl⟩
      (.cons ⟨step_perform rfl, trivial⟩ (.cons ⟨step_perform rfl, hnone rfl rfl⟩
        (.cons ⟨step_perform rfl, insertsUncounted_createsCatalog⟩ ?_))))
    -- the deletion of the cluster ends with an error at the count of its catalogs
    refine .cons ⟨step_perform rfl, trivial⟩ (.cons ⟨step_perform rfl, hnone rfl rfl⟩
      (.cons ⟨step_perform rfl, hnone rfl rfl⟩ ?_))
    refine .cons ⟨step_perform rfl, trivial⟩ (.cons ⟨step_perform rfl, hnone rfl rfl⟩
      (.cons ⟨step_perform rfl, hnone rfl rfl⟩ (.cons ⟨step_perform rfl, hnone rfl rfl⟩ ?_)))
    exact .cons ⟨step_perform rfl, trivial⟩ (.cons ⟨step_perform rfl, hnone rfl rfl⟩
      (.cons ⟨step_perform rfl, hnone rfl rfl⟩ (.cons ⟨step_perform rfl, hnone rfl rfl⟩
        (.cons ⟨step_perform rfl, hnone rfl rfl⟩ .nil))))
  exact ⟨noDangling_of_run hrun, rfl⟩

/-- The catalog `2` is inserted between the counts of the deletion of its cluster and its write. -/
def insertsCatalogDuringDeletion : List RequestAction :=
  createsCluster ++ [.call 1 (.deleteKubeCluster 1 1), .advance 1 2, .advance 1 3, .advance 1 4,
    .call 2 (.createAppCatalog 1 1 2), .advance 2 5, .advance 2 6, .advance 1 7]

/-- A live catalog is left under a deleted cluster. -/
theorem catalog_of_deleted_cluster :
    ¬∀ actions s, Run Step initial actions s → s.AllFinished → s.db.NoDangling := by
  intro h
  have hfinished : (insertsCatalogDuringDeletion.foldl perform initial).AllFinished := by
    intro i
    rcases i with - | - | - | i <;> rfl
  have hdangling := (h _ _ (run_perform (by decide +kernel)) hfinished).clusterOfCatalog
    ⟨2, 1, 1, none⟩ (List.mem_singleton_self _) rfl ⟨1, 1, some 7, true, true⟩
    (List.mem_singleton_self _) rfl
  exact nomatch hdangling

end Requests

end Lapdev
