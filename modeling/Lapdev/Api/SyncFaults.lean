import Lapdev.Api.SyncEffect
import Lapdev.Logic.Faults

/-!
# Syncs that fail

`sync_environment_from_catalog` of `api/src/kube_controller/environment.rs` with a fault at any of
its statements. It marks the environment as syncing and puts the mark back where the deployment
fails, but not where a statement after it does. `syncSettles_iff` says when a sync leaves its
environment as its result says.
-/

namespace Lapdev

open RustStd Sql Programs

/-- Source: `common/src/kube.rs`. -/
inductive KubeEnvironmentSyncStatus
  | idle
  | syncing
  deriving DecidableEq, Repr

/-- `KubeEnvironmentSyncStatus::from_str(..).unwrap_or(KubeEnvironmentSyncStatus::Idle)`. -/
def KubeEnvironmentSyncStatus.ofColumn (column : String) : KubeEnvironmentSyncStatus :=
  if column = "Syncing" then .syncing else .idle

/-- The faults of the parts of a sync, by statements. -/
structure SyncFaults where
  validate : Nat → Option QueryErr
  mark : Nat → Option QueryErr
  deploy : Nat → Option QueryErr
  reset : Nat → Option QueryErr
  store : Nat → Option QueryErr
  relink : Nat → Option QueryErr

/-- No fault. -/
def SyncFaults.none : SyncFaults :=
  ⟨fun _ => .none, fun _ => .none, fun _ => .none, fun _ => .none, fun _ => .none, fun _ => .none⟩

namespace KubeController

section
variable {Text : Type}

/-- A part of a call, with faults. -/
def withFaults {α : Type} (m : Call Text α) (faults : Nat → Option QueryErr) : Call Text α :=
  m.inject fun n => (faults n).map .internalError

/-- Without faults it is the part. -/
@[simp] theorem withFaults_none {α : Type} (m : Call Text α) :
    (withFaults m fun _ => .none) = m :=
  Program.inject_none m

section
variable (codec : ManifestCodec Text) (isEmpty : Text → Bool) (outside : Outside Text)

/-- `syncEnvironmentFromCatalog` with faults. -/
def syncWithFaults (faults : SyncFaults) (orgId userId environmentId : Uuid) (now : Timestamp) :
    Call Text PUnit := do
  let validated ←
    (withFaults (authorizeAndValidateSync orgId userId environmentId) faults.validate).attempt
  match validated with
  | .error e =>
    if e = .invalidRequest "Environment is already up to date" then pure ⟨⟩ else .fail e
  | .ok (environment, catalog) => do
    withFaults (setSyncStatus environment.id "Syncing") faults.mark
    let syncResult ←
      (withFaults (deployChanged codec isEmpty outside environment catalog) faults.deploy).attempt
    match syncResult with
    | .error e => do
      let _ ← (withFaults (setSyncStatus environment.id "Idle") faults.reset).attempt
      .fail e
    | .ok synced => do
      let replaced ← withFaults ((updateEnvironmentWorkloadsInDb environment.id
        environment.namespace synced.1 synced.2.1 synced.2.2 catalog.syncVersion now).mapError
        .internalError) faults.store
      withFaults (relinkBranchOverrides environment.id replaced catalog.syncVersion) faults.relink

/-- Without faults it is the call. -/
theorem syncWithFaults_none (orgId userId environmentId : Uuid) (now : Timestamp) :
    syncWithFaults codec isEmpty outside .none orgId userId environmentId now =
      syncEnvironmentFromCatalog codec isEmpty outside orgId userId environmentId now := by
  simp only [syncWithFaults, SyncFaults.none, withFaults_none]
  rfl

end

/-! ## What a call is to leave -/

/-- The live environment of an id. -/
def environmentAt (db : Database Text) (environmentId : Uuid) : Option KubeEnvironment.Model :=
  db.environments.one fun row => row.id = environmentId && row.deletedAt = none

/-- The workload rows of an environment. -/
def workloadRowsOf (db : Database Text) (environmentId : Uuid) :
    List (KubeEnvironmentWorkload.Model Text) :=
  db.environmentWorkloads.select fun row => row.environmentId = environmentId

/-- The version of the catalog of an environment. -/
def catalogVersion (db : Database Text) (environment : KubeEnvironment.Model) : Option Int :=
  (db.appCatalogs.one fun row => row.id = environment.appCatalogId && row.deletedAt = none).map
    (·.syncVersion)

/-- A call leaves its environment idle, at the version it synced to if it succeeds, and at the
version and with the workload rows that it had if it fails. -/
def Settles (version : KubeEnvironment.Model → Option Int) (db : Database Text)
    (environmentId : Uuid) (outcome : Except ApiError PUnit × Database Text) : Prop :=
  ∀ row, environmentAt db environmentId = some row →
    ∃ row', environmentAt outcome.2 environmentId = some row' ∧
      KubeEnvironmentSyncStatus.ofColumn row'.syncStatus = .idle ∧
      match outcome.1 with
      | .ok _ => version row = some row'.catalogSyncVersion
      | .error _ => row'.catalogSyncVersion = row.catalogSyncVersion ∧
          workloadRowsOf outcome.2 environmentId = workloadRowsOf db environmentId

/-! ## Parts with faults -/

section
variable {db db' : Database Text} {environmentId : Uuid}

/-- A single statement fails, or is run. -/
theorem run_withFaults_stmt {α : Type} (f : Database Text → Except QueryErr (α × Database Text))
    (faults : Nat → Option QueryErr) (db : Database Text) :
    (withFaults ((Program.stmt f .done).mapError .internalError) faults).run db =
      match faults 0 with
      | some e => (.error (.internalError e), db)
      | none => ((Program.stmt f .done).mapError .internalError).run db := by
  rw [withFaults, Program.run_inject_stmt]
  cases faults 0 <;> rfl

/-- An environment after an update that leaves what it is looked up by. -/
theorem environmentAt_map {g : KubeEnvironment.Model → KubeEnvironment.Model}
    (hrows : db'.environments.rows = db.environments.rows.map g)
    (hg : ∀ row, (g row).id = row.id ∧ (g row).deletedAt = row.deletedAt) :
    environmentAt db' environmentId = (environmentAt db environmentId).map g := by
  rw [environmentAt, environmentAt, Table.one, Table.one, hrows, List.find?_map]
  congr 2
  funext row
  simp only [Function.comp_apply, (hg row).1, (hg row).2]

/-- The environment of an id is a live row. -/
theorem environmentAt_eq_some {row : KubeEnvironment.Model}
    (h : environmentAt db environmentId = some row) :
    row ∈ db.environments.rows ∧ row.id = environmentId ∧ row.deletedAt = none := by
  obtain ⟨hmem, hp⟩ := Table.mem_of_one h
  simp only [Bool.and_eq_true, decide_eq_true_eq] at hp
  exact ⟨hmem, hp⟩

/-- The environment of a sync is the one of its id. -/
theorem SyncSubject.environmentAt {environment : KubeEnvironment.Model}
    {catalog : KubeAppCatalog.Model} (h : SyncSubject db environmentId environment catalog) :
    environmentAt db environmentId = some environment := by
  refine Table.one_eq_some h.environment_mem (by simp [h.environment_id, h.environment_live])
    fun row hrow hp => ?_
  simp only [Bool.and_eq_true, decide_eq_true_eq] at hp
  exact db.environments.eq_of_conflict hrow h.environment_mem
    (.inl (hp.1.trans h.environment_id.symm))

/-- The catalog of a sync is the one of its environment. -/
theorem SyncSubject.catalogVersion {environment : KubeEnvironment.Model}
    {catalog : KubeAppCatalog.Model} (h : SyncSubject db environmentId environment catalog) :
    catalogVersion db environment = some catalog.syncVersion := by
  have hone : (db.appCatalogs.one fun row =>
      row.id = environment.appCatalogId && row.deletedAt = none) = some catalog := by
    refine Table.one_eq_some h.catalog_mem (by simp [h.catalog_id, h.catalog_live])
      fun row hrow hp => ?_
    simp only [Bool.and_eq_true, decide_eq_true_eq] at hp
    exact db.appCatalogs.eq_of_conflict hrow h.catalog_mem (hp.1.trans h.catalog_id.symm)
  rw [KubeController.catalogVersion, hone, Option.map_some]

/-- The database after the status of an environment is written. -/
def marked (db : Database Text) (environmentId : Uuid) (syncStatus : String) : Database Text :=
  ((setSyncStatus environmentId syncStatus : Call Text PUnit).run db).2

/-- The write of a status succeeds. -/
theorem run_setSyncStatus {row : KubeEnvironment.Model} (hmem : row ∈ db.environments.rows)
    (syncStatus : String) :
    (setSyncStatus row.id syncStatus : Call Text PUnit).run db =
        (.ok ⟨⟩, marked db row.id syncStatus) ∧
      ∃ t, marked db row.id syncStatus = { db with environments := t } ∧
        t.rows = db.environments.rows.map fun r =>
          if r.id = row.id then { r with syncStatus } else r := by
  obtain ⟨t, ht⟩ : ∃ t, db.environments.updateMany (fun r => r.id = row.id)
      (fun r => { r with syncStatus }) = .ok t := by
    refine Table.updateMany_of_conflict_imp fun r _ r' _ hc => ?_
    split at hc <;> split at hc <;> exact hc
  have hone := Table.updateOne_eq_ok.2 ⟨⟨row, hmem, decide_eq_true rfl⟩, ht⟩
  have hrun : (setSyncStatus row.id syncStatus : Call Text PUnit).run db =
      (.ok ⟨⟩, { db with environments := t }) := by
    rw [setSyncStatus, Program.run_mapError, Database.onEnvironments,
      Database.run_statement_ok hone]
  refine ⟨by rw [marked, hrun], t, by rw [marked, hrun], ?_⟩
  rw [Table.rows_updateMany ht]
  simp

/-- The write of a status, with faults. -/
theorem run_withFaults_setSyncStatus {row : KubeEnvironment.Model}
    (hmem : row ∈ db.environments.rows) (syncStatus : String) (faults : Nat → Option QueryErr) :
    (withFaults (setSyncStatus row.id syncStatus) faults).run db =
      match faults 0 with
      | some e => (.error (.internalError e), db)
      | none => (.ok ⟨⟩, marked db row.id syncStatus) := by
  rw [← (run_setSyncStatus hmem syncStatus).1]
  exact run_withFaults_stmt _ faults db

/-- The environment after its status is written. -/
theorem environmentAt_marked {row : KubeEnvironment.Model}
    (h : environmentAt db environmentId = some row) (syncStatus : String) :
    environmentAt (marked db environmentId syncStatus) environmentId =
      some { row with syncStatus } := by
  obtain ⟨hmem, rfl, hlive⟩ := environmentAt_eq_some h
  obtain ⟨t, hmarked, hrows⟩ := (run_setSyncStatus hmem syncStatus).2
  rw [hmarked]
  have hafter : environmentAt { db with environments := t } row.id =
      (environmentAt db row.id).map fun r => if r.id = row.id then { r with syncStatus } else r :=
    environmentAt_map hrows fun r => by split <;> exact ⟨rfl, rfl⟩
  rw [hafter, h]
  simp

/-- A new sync status leaves the workloads. -/
theorem workloadRowsOf_marked {row : KubeEnvironment.Model}
    (h : environmentAt db environmentId = some row) (syncStatus : String) :
    workloadRowsOf (marked db environmentId syncStatus) environmentId =
      workloadRowsOf db environmentId := by
  obtain ⟨hmem, rfl, -⟩ := environmentAt_eq_some h
  obtain ⟨t, hmarked, -⟩ := (run_setSyncStatus hmem syncStatus).2
  rw [hmarked]
  rfl

/-! ## What the parts keep -/

/-- A statement moves along a relation that its writes of one table follow. -/
theorem each_statement {Row : Type} [Entity Row] {R : Database Text → Database Text → Prop}
    {get : Database Text → Table Row} {set : Database Text → Table Row → Database Text}
    {f : Table Row → Except DbErr (Table Row)}
    (h : ∀ db t, f (get db) = .ok t → R db (set db t)) :
    (Database.statement get set f).Each R := by
  refine .write fun db db' hf => ?_
  split at hf
  · next t ht =>
    cases hf
    exact h db t ht
  · cases hf

/-- A part of which every statement only reads leaves the database, with faults too. -/
theorem run_withFaults_of_reads {α : Type} {m : Call Text α} (h : m.Each Eq)
    (faults : Nat → Option QueryErr) (db : Database Text) :
    (withFaults m faults).run db = (((withFaults m faults).run db).1, db) := by
  have := (h.inject fun n => (faults n).map ApiError.internalError).along (fun _ => rfl)
    (fun _ _ _ => Eq.trans) db
  exact Prod.ext rfl this.symm

/-- A read writes nothing. -/
theorem each_read {α : Type} (f : Database Text → α) (g : QueryErr → ApiError) :
    ((Program.read f : Query Text α).mapError g).Each Eq :=
  .mapError (.read (fun _ => rfl) f) g

variable (Text) in
/-- The authorization writes nothing. -/
theorem each_authorizeAndValidateSync (orgId userId environmentId : Uuid) :
    (authorizeAndValidateSync orgId userId environmentId : Call Text _).Each Eq := by
  refine .bind (each_read _ _) fun found => .bind (.orFail _ _) fun environment => ?_
  split
  · trivial
  split
  · trivial
  split
  · trivial
  refine .bind (each_read _ _) fun found => .bind (.orFail _ _) fun catalog => ?_
  split
  · trivial
  split
  · trivial
  · trivial

/-- Finding the services writes nothing. -/
theorem each_getServicesForCatalogWorkloads
    (rs : RandomState ((_ : Uuid) × List (CachedClusterService Text)))
    (rsServices : Uuid → RandomState Uuid) (clusterId : Uuid) (workloadIds : List Uuid) :
    (DbApi.getServicesForCatalogWorkloads rs rsServices clusterId workloadIds).Each Eq := by
  unfold DbApi.getServicesForCatalogWorkloads
  split
  · trivial
  refine .bind (.read (fun _ => rfl) _) fun labelRows => .bind (.foldEach ?_ _) fun found => ?_
  · exact fun _ _ _ => .bind (.read (fun _ => rfl) _) fun _ =>
      .bind (.read (fun _ => rfl) _) fun _ => .pure _
  · split
    · trivial
    · exact .bind (.read (fun _ => rfl) _) fun _ => .pure _

/-- Fetching the dependencies writes nothing. -/
theorem each_fetchDependencyResources (outside : Outside Text) (workloadIds : List Uuid) :
    (fetchDependencyResources outside workloadIds).Each Eq := by
  unfold fetchDependencyResources
  split
  · trivial
  · refine .bind (.read (fun _ => rfl) _) fun rows => ?_
    split
    · trivial
    · exact .ofExcept _

/-- The deployment writes nothing to the database. -/
theorem each_deployChanged (codec : ManifestCodec Text) (isEmpty : Text → Bool)
    (outside : Outside Text) (environment : KubeEnvironment.Model)
    (catalog : KubeAppCatalog.Model) :
    (deployChanged codec isEmpty outside environment catalog).Each Eq := by
  refine .bind (.bind (.read (fun _ => rfl) _) fun _ => .bind (each_read _ _) fun _ => .pure _)
    fun determined => .bind ?_ fun deployed => .pure _
  unfold performWorkloadDeployment
  split
  · trivial
  split
  · trivial
  refine .bind ?_ fun prepared => .bind (.ofExcept _) fun _ => .pure _
  exact .bind (.mapError (each_getServicesForCatalogWorkloads ..) _) fun services =>
    .bind (.ofExcept _) fun _ => .bind (.ofExcept _) fun _ =>
    .bind (each_fetchDependencyResources outside _) fun _ => .bind (.ofExcept _) fun _ => .pure _

/-- The environments are left. -/
def KeepsEnvironments (db db' : Database Text) : Prop := db'.environments = db.environments

/-- A state keeps its environments. -/
theorem KeepsEnvironments.refl (db : Database Text) : KeepsEnvironments db db := rfl

/-- Statements that keep the environments, one after the other. -/
theorem KeepsEnvironments.trans (db₁ db₂ db₃ : Database Text) (h : KeepsEnvironments db₁ db₂)
    (h' : KeepsEnvironments db₂ db₃) : KeepsEnvironments db₁ db₃ :=
  Eq.trans h' h

variable (Text) in
/-- Relinking the overrides keeps the environments. -/
theorem each_relinkBranchOverrides (baseEnvironmentId : Uuid) (replacements : List (Uuid × Uuid))
    (version : Int) :
    (relinkBranchOverrides baseEnvironmentId replacements version : Call Text _).Each
      KeepsEnvironments := by
  refine .forEach fun replaced _ => .bind (.read KeepsEnvironments.refl _) fun workloads =>
    .forEach fun workload _ => ?_
  unfold relinkOverride
  split
  · trivial
  · unfold DbApi.updateBranchWorkloadLink Database.onEnvironmentWorkloads
    refine .mapError ?_ _
    exact each_statement fun db _ _ => KeepsEnvironments.refl db

end

/-! ## Syncs -/

section
variable (codec : ManifestCodec Text) (isEmpty : Text → Bool) (outside : Outside Text)
  (faults : SyncFaults) (orgId userId environmentId : Uuid) (now : Timestamp) (db : Database Text)

/-- A sync comes to mark an environment as syncing. -/
def Marks (environment : KubeEnvironment.Model) (catalog : KubeAppCatalog.Model) : Prop :=
  ((withFaults (authorizeAndValidateSync orgId userId environmentId) faults.validate).run db).1 =
      .ok (environment, catalog) ∧
    faults.mark 0 = .none

/-- What a sync that has marked an environment deploys. -/
def deployed (environment : KubeEnvironment.Model) (catalog : KubeAppCatalog.Model) :=
  ((withFaults (deployChanged codec isEmpty outside environment catalog) faults.deploy).run
    (marked db environmentId "Syncing")).1

/-- The outcome of the transaction of a sync. -/
def stored (environment : KubeEnvironment.Model) (catalog : KubeAppCatalog.Model)
    (synced : List (KubeAppCatalogWorkload Text) × List (NewEnvironmentWorkload Text) ×
      List String) :=
  (withFaults ((updateEnvironmentWorkloadsInDb environment.id environment.namespace synced.1
    synced.2.1 synced.2.2 catalog.syncVersion now).mapError ApiError.internalError)
    faults.store).run (marked db environmentId "Syncing")

/-- No step fails whose failure a sync does not make good: the environment was idle if the sync does
not come to mark it; the mark is put back if the deployment fails; and neither the transaction nor
the relinking fails after a deployment. -/
structure SyncSpared : Prop where
  unmarked : (∀ environment catalog, ¬Marks faults orgId userId environmentId db environment catalog) →
    ∀ row, environmentAt db environmentId = some row →
      KubeEnvironmentSyncStatus.ofColumn row.syncStatus = .idle
  reset : ∀ environment catalog e, Marks faults orgId userId environmentId db environment catalog →
    deployed codec isEmpty outside faults environmentId db environment catalog = .error e →
    faults.reset 0 = .none
  completed : ∀ environment catalog synced,
    Marks faults orgId userId environmentId db environment catalog →
    deployed codec isEmpty outside faults environmentId db environment catalog = .ok synced →
    ∃ replaced db₂, stored faults environmentId now db environment catalog synced =
        (.ok replaced, db₂) ∧
      ((withFaults (relinkBranchOverrides environment.id replaced catalog.syncVersion)
        faults.relink).run db₂).1 = .ok ⟨⟩

/-- The run of a sync, by its parts. -/
theorem run_syncWithFaults_of_marks {environment : KubeEnvironment.Model}
    {catalog : KubeAppCatalog.Model}
    (h : Marks faults orgId userId environmentId db environment catalog) :
    SyncSubject db environmentId environment catalog ∧
      catalog.syncVersion ≠ environment.catalogSyncVersion ∧
      (syncWithFaults codec isEmpty outside faults orgId userId environmentId now).run db =
        match deployed codec isEmpty outside faults environmentId db environment catalog with
        | .error e =>
          (.error e, match faults.reset 0 with
            | some _ => marked db environmentId "Syncing"
            | .none => marked (marked db environmentId "Syncing") environmentId "Idle")
        | .ok synced =>
          match stored faults environmentId now db environment catalog synced with
          | (.ok replaced, db₂) =>
            (withFaults (relinkBranchOverrides environment.id replaced catalog.syncVersion)
              faults.relink).run db₂
          | (.error e, db₂) => (.error e, db₂) := by
  obtain ⟨hvalidated, hmark⟩ := h
  have hreads := run_withFaults_of_reads
    (each_authorizeAndValidateSync Text orgId userId environmentId) faults.validate db
  rw [hvalidated] at hreads
  obtain ⟨r, hrun, hok, -⟩ := run_authorizeAndValidateSync db orgId userId environmentId
  have hclean := Program.run_inject_eq_ok hreads
  rw [hrun] at hclean
  obtain ⟨hsubject, hne⟩ := hok environment catalog (congrArg Prod.fst hclean)
  refine ⟨hsubject, hne, ?_⟩
  have hat := hsubject.environmentAt
  obtain ⟨hmem, rfl, -⟩ := hsubject
  have hmem₁ := (environmentAt_eq_some (environmentAt_marked hat "Syncing")).1
  have hmarked := run_withFaults_setSyncStatus hmem "Syncing" faults.mark
  rw [hmark] at hmarked
  have hreset := run_withFaults_setSyncStatus hmem₁ "Idle" faults.reset
  have hdeploy := run_withFaults_of_reads (each_deployChanged codec isEmpty outside environment
    catalog) faults.deploy (marked db environment.id "Syncing")
  unfold syncWithFaults
  rw [Program.run_bind, Program.run_attempt, hreads]
  dsimp only
  rw [Program.run_bind_of_ok hmarked, Program.run_bind, Program.run_attempt, hdeploy, deployed]
  dsimp only
  cases ((withFaults (deployChanged codec isEmpty outside environment catalog) faults.deploy).run
      (marked db environment.id "Syncing")).1 with
  | error e =>
    dsimp only
    rw [Program.run_bind, Program.run_attempt, hreset]
    cases faults.reset 0 <;> rfl
  | ok synced =>
    have hstored : (withFaults ((updateEnvironmentWorkloadsInDb environment.id
        environment.namespace synced.1 synced.2.1 synced.2.2 catalog.syncVersion now).mapError
        ApiError.internalError) faults.store).run (marked db environment.id "Syncing") =
        stored faults environment.id now db environment catalog synced := rfl
    dsimp only
    rw [Program.run_bind, hstored]
    rcases stored faults environment.id now db environment catalog synced with ⟨_ | _, db₂⟩ <;> rfl

/-- The transaction writes the version and the status, or leaves the database. -/
theorem stored_spec {environment : KubeEnvironment.Model} (catalog : KubeAppCatalog.Model)
    (hat : environmentAt db environmentId = some environment)
    (synced : List (KubeAppCatalogWorkload Text) × List (NewEnvironmentWorkload Text) ×
      List String) :
    match stored faults environmentId now db environment catalog synced with
    | (.ok _, db₂) => ∃ row', environmentAt db₂ environmentId = some row' ∧
        row'.catalogSyncVersion = catalog.syncVersion ∧ row'.syncStatus = "Idle"
    | (.error _, db₂) => db₂ = marked db environmentId "Syncing" := by
  have hstored : stored faults environmentId now db environment catalog synced =
      match faults.store 0 with
      | some e => (.error (.internalError e), marked db environmentId "Syncing")
      | .none => ((updateEnvironmentWorkloadsInDb environment.id environment.namespace synced.1
          synced.2.1 synced.2.2 catalog.syncVersion now).mapError ApiError.internalError).run
          (marked db environmentId "Syncing") :=
    run_withFaults_stmt _ _ _
  rw [hstored]
  cases faults.store 0 with
  | some e => rfl
  | none =>
    have htriple := (triple_updateEnvironmentWorkloadsInDb_written environment.id
      environment.namespace catalog.syncVersion now (marked db environmentId "Syncing") synced.1
      synced.2.1 synced.2.2).mapError (g := ApiError.internalError)
      (F := fun _ db₂ => db₂ = marked db environmentId "Syncing") _ rfl
    dsimp only
    rcases hrun : ((updateEnvironmentWorkloadsInDb environment.id environment.namespace synced.1
      synced.2.1 synced.2.2 catalog.syncVersion now).mapError ApiError.internalError).run
      (marked db environmentId "Syncing") with ⟨e | replaced, db₂⟩
    · rw [hrun] at htriple
      exact htriple
    · rw [hrun] at htriple
      have hafter : environmentAt db₂ environmentId =
          (environmentAt (marked db environmentId "Syncing") environmentId).map
            (syncedEnvironment environment.id catalog.syncVersion now) :=
        environmentAt_map htriple.environments fun row => by
          unfold syncedEnvironment
          split <;> exact ⟨rfl, rfl⟩
      rw [environmentAt_marked hat, Option.map_some] at hafter
      obtain ⟨-, hid, -⟩ := environmentAt_eq_some hat
      refine ⟨_, hafter, ?_⟩
      rw [syncedEnvironment, if_pos (by rfl)]
      exact ⟨rfl, rfl⟩

/-- A run that does not come to mark the environment leaves the database, and succeeds only if the
environment is up to date. -/
theorem run_syncWithFaults_of_not_marks
    (h : ∀ environment catalog, ¬Marks faults orgId userId environmentId db environment catalog) :
    ((syncWithFaults codec isEmpty outside faults orgId userId environmentId now).run db).2 = db ∧
      (((syncWithFaults codec isEmpty outside faults orgId userId environmentId now).run db).1 =
          .ok ⟨⟩ → ∃ environment catalog, SyncSubject db environmentId environment catalog ∧
            catalog.syncVersion = environment.catalogSyncVersion) := by
  have hreads := run_withFaults_of_reads
    (each_authorizeAndValidateSync Text orgId userId environmentId) faults.validate db
  unfold syncWithFaults
  rw [Program.run_bind, Program.run_attempt]
  cases hvalidated : ((withFaults (authorizeAndValidateSync orgId userId environmentId :
      Call Text _) faults.validate).run db).1 with
  | error e =>
    rw [hreads, hvalidated]
    dsimp only
    split
    · next huptodate =>
      refine ⟨rfl, fun _ => ?_⟩
      rw [hvalidated] at hreads
      obtain ⟨r, hrun, -, hsubject⟩ := run_authorizeAndValidateSync db orgId userId environmentId
      rcases Program.run_inject_eq_error hreads with hclean | ⟨n, hfault⟩
      · rw [hrun] at hclean
        exact hsubject ((congrArg Prod.fst hclean).trans (congrArg Except.error huptodate))
      · obtain ⟨e', -, rfl⟩ := Option.map_eq_some_iff.1 hfault
        cases huptodate
    · exact ⟨rfl, fun hok => nomatch hok⟩
  | ok subject =>
    obtain ⟨environment, catalog⟩ := subject
    rw [hvalidated] at hreads
    obtain ⟨r, hrun, hok, -⟩ := run_authorizeAndValidateSync db orgId userId environmentId
    have hclean := Program.run_inject_eq_ok hreads
    rw [hrun] at hclean
    obtain ⟨hsubject, -⟩ := hok environment catalog (congrArg Prod.fst hclean)
    obtain ⟨e, hfault⟩ := Option.ne_none_iff_exists'.1 fun hmark =>
      h environment catalog ⟨hvalidated, hmark⟩
    have hmarked := run_withFaults_setSyncStatus hsubject.environment_mem "Syncing" faults.mark
    rw [hfault] at hmarked
    rw [hreads]
    dsimp only
    rw [Program.run_bind, hmarked]
    exact ⟨rfl, fun hok => nomatch hok⟩

/-- The relinking leaves the environments. -/
theorem environmentAt_relinked (replaced : List (Uuid × Uuid)) (baseEnvironmentId : Uuid)
    (version : Int) (relinkFaults : Nat → Option QueryErr) :
    environmentAt ((withFaults (relinkBranchOverrides baseEnvironmentId replaced version)
      relinkFaults).run db).2 environmentId = environmentAt db environmentId := by
  have hkeeps : KeepsEnvironments db _ :=
    ((each_relinkBranchOverrides Text baseEnvironmentId replaced version).inject
      fun n => (relinkFaults n).map ApiError.internalError).along KeepsEnvironments.refl
        KeepsEnvironments.trans db
  rw [environmentAt, withFaults, hkeeps]
  rfl

/-- A sync that leaves the mark does not settle. -/
theorem not_settles_of_marked {version : KubeEnvironment.Model → Option Int}
    {row : KubeEnvironment.Model} (hat : environmentAt db environmentId = some row)
    (r : Except ApiError PUnit) :
    ¬Settles version db environmentId (r, marked db environmentId "Syncing") := by
  intro h
  obtain ⟨row', hrow', hidle, -⟩ := h row hat
  rw [environmentAt_marked hat] at hrow'
  cases hrow'
  cases hidle

/-- A sync leaves its environment as its result says exactly if no step fails whose failure it does
not make good. -/
theorem syncSettles_iff :
    Settles (catalogVersion db) db environmentId
        ((syncWithFaults codec isEmpty outside faults orgId userId environmentId now).run db) ↔
      SyncSpared codec isEmpty outside faults orgId userId environmentId now db := by
  constructor
  · intro hsettles
    refine ⟨fun hnever row hrow => ?_, fun environment catalog e hmarks hfails => ?_,
      fun environment catalog synced hmarks hdeployed => ?_⟩
    · obtain ⟨row', hrow', hidle, -⟩ := hsettles row hrow
      rw [(run_syncWithFaults_of_not_marks codec isEmpty outside faults orgId userId environmentId
        now db hnever).1, hrow] at hrow'
      cases hrow'
      exact hidle
    · obtain ⟨hsubject, -, hrun⟩ := run_syncWithFaults_of_marks codec isEmpty outside faults orgId
        userId environmentId now db hmarks
      rw [hrun, hfails] at hsettles
      cases hreset : faults.reset 0 with
      | none => rfl
      | some e' =>
        rw [hreset] at hsettles
        exact absurd hsettles (not_settles_of_marked environmentId db hsubject.environmentAt _)
    · obtain ⟨hsubject, hne, hrun⟩ := run_syncWithFaults_of_marks codec isEmpty outside faults orgId
        userId environmentId now db hmarks
      have hat := hsubject.environmentAt
      have hstored := stored_spec faults environmentId now db catalog hat synced
      rw [hrun, hdeployed] at hsettles
      dsimp only at hsettles
      rcases hst : stored faults environmentId now db environment catalog synced with
        ⟨e | replaced, db₂⟩
      · rw [hst] at hstored hsettles
        cases hstored
        exact absurd hsettles (not_settles_of_marked environmentId db hat _)
      · rw [hst] at hstored hsettles
        obtain ⟨row₂, hat₂, hversion, -⟩ := hstored
        refine ⟨replaced, db₂, rfl, ?_⟩
        have hrelinked := environmentAt_relinked environmentId db₂ replaced environment.id
          catalog.syncVersion faults.relink
        dsimp only at hsettles
        rcases hrelink : (withFaults (relinkBranchOverrides environment.id replaced
          catalog.syncVersion) faults.relink).run db₂ with ⟨e | ⟨⟩, db₃⟩
        · rw [hrelink] at hsettles hrelinked
          obtain ⟨row', hrow', -, hkept, -⟩ := hsettles environment hat
          rw [hrelinked, hat₂] at hrow'
          cases hrow'
          exact absurd (hversion.symm.trans hkept) hne
        · rfl
  · intro hspared row hrow
    by_cases hever : ∃ environment catalog,
        Marks faults orgId userId environmentId db environment catalog
    · obtain ⟨environment, catalog, hmarks⟩ := hever
      obtain ⟨hsubject, -, hrun⟩ := run_syncWithFaults_of_marks codec isEmpty outside faults orgId
        userId environmentId now db hmarks
      have hat := hsubject.environmentAt
      cases hrow.symm.trans hat
      rw [hrun]
      cases hdeployed : deployed codec isEmpty outside faults environmentId db row catalog with
      | error e =>
        have hmarked := environmentAt_marked hat "Syncing"
        rw [hspared.reset row catalog e hmarks hdeployed]
        refine ⟨_, environmentAt_marked hmarked "Idle", rfl, rfl, ?_⟩
        exact (workloadRowsOf_marked hmarked "Idle").trans (workloadRowsOf_marked hat "Syncing")
      | ok synced =>
        obtain ⟨replaced, db₂, hst, hrelink⟩ := hspared.completed row catalog synced hmarks hdeployed
        have hstored := stored_spec faults environmentId now db catalog hat synced
        rw [hst] at hstored
        obtain ⟨row₂, hat₂, hversion, hidle⟩ := hstored
        have hrelinked := environmentAt_relinked environmentId db₂ replaced row.id
          catalog.syncVersion faults.relink
        dsimp only
        rw [hst]
        dsimp only
        refine ⟨row₂, hrelinked.trans hat₂, by rw [hidle]; rfl, ?_⟩
        rw [hrelink, hsubject.catalogVersion, hversion]
    · have hnever : ∀ environment catalog,
          ¬Marks faults orgId userId environmentId db environment catalog :=
        fun environment catalog hmarks => hever ⟨environment, catalog, hmarks⟩
      obtain ⟨hleft, huptodate⟩ := run_syncWithFaults_of_not_marks codec isEmpty outside faults
        orgId userId environmentId now db hnever
      refine ⟨row, by rw [hleft, hrow], hspared.unmarked hnever row hrow, ?_⟩
      cases hresult : ((syncWithFaults codec isEmpty outside faults orgId userId environmentId
          now).run db).1 with
      | error e => exact ⟨rfl, by rw [hleft]⟩
      | ok _ =>
        obtain ⟨environment, catalog, hsubject, hversion⟩ := huptodate hresult
        cases hrow.symm.trans hsubject.environmentAt
        exact hsubject.catalogVersion.trans (congrArg some hversion)

end

end

end KubeController

end Lapdev
