import Lapdev.Api.BranchEnvironments
import Lapdev.Api.SyncFaults
import Lapdev.Api.SyncRuns

/-!
# Rebases that fail

`rebase_branch_environment` of `api/src/kube_controller/environment.rs` with a fault at any of its
statements. It writes the overrides of the branch one by one, so that a fault leaves those that come
before it rewritten. `settles_iff` says when a sync or a rebase leaves its environment as its result
says.
-/

namespace Lapdev

open RustStd Sql Programs

/-- The faults of the parts of a rebase; those of a round are those of its override. -/
structure RebaseFaults where
  authorize : Nat → Option QueryErr
  mark : Nat → Option QueryErr
  load : Nat → Option QueryErr
  prepare : Uuid → Nat → Option QueryErr
  write : Uuid → Nat → Option QueryErr
  reset : Nat → Option QueryErr
  finish : Nat → Option QueryErr

/-- No fault. -/
def RebaseFaults.none : RebaseFaults :=
  ⟨fun _ => .none, fun _ => .none, fun _ => .none, fun _ _ => .none, fun _ _ => .none,
    fun _ => .none, fun _ => .none⟩

/-- What a rebase writes to an override. -/
structure Rewriting (Text : Type) where
  containers : List KubeContainerInfo
  workloadYaml : Text
  baseWorkloadId : Uuid

/-- The override with the contents that it is rewritten to. -/
def Rewriting.content {Text : Type} (rewriting : Rewriting Text)
    (row : KubeEnvironmentWorkload.Model Text) : KubeEnvironmentWorkload.Model Text :=
  { row with containers := rewriting.containers, workloadYaml := rewriting.workloadYaml }

/-- The override with the link to its base. -/
def Rewriting.link {Text : Type} (rewriting : Rewriting Text) (catalogSyncVersion : Int)
    (row : KubeEnvironmentWorkload.Model Text) : KubeEnvironmentWorkload.Model Text :=
  { row with baseWorkloadId := some rewriting.baseWorkloadId, catalogSyncVersion }

namespace KubeController

section
variable {Text : Type}

section
variable (fromStr : Text → Option Yaml.Value) (codec : ManifestCodec Text)
  (outside : BranchOutside) (branchEnvironment baseEnvironment : KubeEnvironment.Model)

/-- The part of `reapply_branch_overrides_from_base` in front of its loop. -/
def loadOverrides : Call Text (List (KubeEnvironmentWorkload.Model Text) ×
    List (KubeEnvironmentWorkload.Model Text) × List (KubeEnvironmentService.Model Text)) := do
  let branchWorkloads ← (DbApi.getEnvironmentWorkloads branchEnvironment.id).mapError .internalError
  if branchWorkloads.isEmpty then pure ([], [], [])
  else do
    let baseWorkloads ← (DbApi.getEnvironmentWorkloads baseEnvironment.id).mapError .internalError
    let baseServices ← (DbApi.getEnvironmentServices baseEnvironment.id).mapError .internalError
    if !outside.connected then
      .fail (.invalidRequest "No connected KubeManager for the environment target cluster")
    else pure (branchWorkloads, baseWorkloads, baseServices)

/-- The part of a round in front of its writes to the override. -/
def prepareOverride (baseWorkloads : List (KubeEnvironmentWorkload.Model Text))
    (baseServices : List (KubeEnvironmentService.Model Text)) (now : Timestamp)
    (branchWorkload : KubeEnvironmentWorkload.Model Text) : Call Text (Option (Rewriting Text)) :=
  let baseName := stripBranchSuffix branchWorkload.name branchEnvironment.id
  match (workloadsByName baseWorkloads).lookup baseName with
  | none => pure none
  | some baseWorkload => do
    refreshBranchServicesForWorkload codec branchEnvironment baseName branchWorkload.name baseServices
      now
    let (template, _) ← Program.ofExcept (buildBranchWorkloadDetails codec outside.newId baseWorkload
      branchEnvironment.namespace branchEnvironment.id)
    let mergedContainers :=
      mergeBranchContainers template.details.containers branchWorkload.containers
    let kind ← Program.orFail (KubeWorkloadKind.parse branchWorkload.kind)
      (.invalidRequest ("Invalid workload kind " ++ branchWorkload.kind ++
        " when rebasing branch workload"))
    let persistedYaml ← Program.ofExcept (buildStandardWorkloadManifest codec outside.seeds kind
      template.details.workloadYaml mergedContainers)
    let _ ← Program.ofExcept
      (deployWorkload branchEnvironment (outside.deployment branchWorkload.id))
    pure (some ⟨mergedContainers, persistedYaml, baseWorkload.id⟩)

/-- The writes of a round to its override. -/
def writeOverride (now : Timestamp) (branchWorkload : KubeEnvironmentWorkload.Model Text)
    (rewriting : Rewriting Text) : Call Text PUnit := do
  let _ ← (DbApi.updateEnvironmentWorkload fromStr branchWorkload.id rewriting.containers
    rewriting.workloadYaml now).mapError .internalError
  (DbApi.updateBranchWorkloadLink branchWorkload.id rewriting.baseWorkloadId
    baseEnvironment.catalogSyncVersion).mapError .internalError

/-- A round of `reapply_branch_overrides_from_base` with faults. -/
def reapplyWithFaults (faults : RebaseFaults)
    (baseWorkloads : List (KubeEnvironmentWorkload.Model Text))
    (baseServices : List (KubeEnvironmentService.Model Text)) (now : Timestamp)
    (branchWorkload : KubeEnvironmentWorkload.Model Text) : Call Text PUnit := do
  let prepared ← withFaults (prepareOverride codec outside branchEnvironment baseWorkloads
    baseServices now branchWorkload) (faults.prepare branchWorkload.id)
  match prepared with
  | none => pure ⟨⟩
  | some rewriting =>
    withFaults (writeOverride fromStr baseEnvironment now branchWorkload rewriting)
      (faults.write branchWorkload.id)

/-- `reapplyBranchOverridesFromBase` with faults. -/
def reapplyAllWithFaults (faults : RebaseFaults) (now : Timestamp) : Call Text PUnit := do
  let loaded ← withFaults (loadOverrides outside branchEnvironment baseEnvironment) faults.load
  Program.forEach (reapplyWithFaults fromStr codec outside branchEnvironment baseEnvironment faults
    loaded.2.1 loaded.2.2 now) loaded.1

end

/-- `rebaseBranchEnvironment` with faults. -/
def rebaseWithFaults (fromStr : Text → Option Yaml.Value) (codec : ManifestCodec Text)
    (outside : BranchOutside) (faults : RebaseFaults) (orgId userId environmentId : Uuid)
    (now : Timestamp) : Call Text PUnit := do
  let (environment, baseEnvironment) ←
    withFaults (authorizeRebase orgId userId environmentId) faults.authorize
  withFaults (setSyncStatus environment.id "Syncing") faults.mark
  let rebaseResult ←
    (reapplyAllWithFaults fromStr codec outside environment baseEnvironment faults now).attempt
  match rebaseResult with
  | .error err => do
    let _ ← (withFaults (setSyncStatus environment.id "Idle") faults.reset).attempt
    .fail err
  | .ok _ =>
    withFaults ((Database.onEnvironments fun t =>
      t.updateOne (fun row => row.id = environment.id) fun row =>
        { row with
          catalogSyncVersion := baseEnvironment.catalogSyncVersion
          lastCatalogSyncedAt := some now
          syncStatus := "Idle" }).mapError .internalError) faults.finish

section
variable (fromStr : Text → Option Yaml.Value) (codec : ManifestCodec Text)
  (outside : BranchOutside)

/-- Without faults a round is the loop body. -/
theorem reapplyWithFaults_none (branchEnvironment baseEnvironment : KubeEnvironment.Model)
    (baseWorkloads : List (KubeEnvironmentWorkload.Model Text))
    (baseServices : List (KubeEnvironmentService.Model Text)) (now : Timestamp)
    (branchWorkload : KubeEnvironmentWorkload.Model Text) :
    reapplyWithFaults fromStr codec outside branchEnvironment baseEnvironment .none baseWorkloads
        baseServices now branchWorkload =
      reapplyOverride fromStr codec outside branchEnvironment baseEnvironment baseWorkloads
        baseServices now branchWorkload := by
  simp only [reapplyWithFaults, RebaseFaults.none, withFaults_none]
  unfold prepareOverride reapplyOverride
  dsimp only
  cases (workloadsByName baseWorkloads).lookup
      (stripBranchSuffix branchWorkload.name branchEnvironment.id) with
  | none => rfl
  | some baseWorkload =>
    simp only [Program.bind_assoc]
    rfl

/-- Without faults it is the call. -/
theorem rebaseWithFaults_none (orgId userId environmentId : Uuid) (now : Timestamp) :
    rebaseWithFaults fromStr codec outside .none orgId userId environmentId now =
      rebaseBranchEnvironment fromStr codec outside orgId userId environmentId now := by
  have hround : ∀ branchEnvironment baseEnvironment baseWorkloads baseServices,
      reapplyWithFaults fromStr codec outside branchEnvironment baseEnvironment .none baseWorkloads
        baseServices now = reapplyOverride fromStr codec outside branchEnvironment baseEnvironment
        baseWorkloads baseServices now := by
    intro branchEnvironment baseEnvironment baseWorkloads baseServices
    funext branchWorkload
    exact reapplyWithFaults_none fromStr codec outside ..
  have hall : ∀ branchEnvironment baseEnvironment,
      reapplyAllWithFaults fromStr codec outside branchEnvironment baseEnvironment .none now =
        reapplyBranchOverridesFromBase fromStr codec outside branchEnvironment baseEnvironment
          now := by
    intro branchEnvironment baseEnvironment
    simp only [reapplyAllWithFaults, hround]
    simp only [RebaseFaults.none, withFaults_none]
    unfold loadOverrides reapplyBranchOverridesFromBase
    rw [Program.bind_assoc]
    refine congrArg _ (funext fun branchWorkloads => ?_)
    split
    · rfl
    · simp only [Program.bind_assoc]
      refine congrArg _ (funext fun baseWorkloads => congrArg _ (funext fun baseServices => ?_))
      split <;> rfl
  simp only [rebaseWithFaults, hall]
  simp only [RebaseFaults.none, withFaults_none]
  rfl

end

/-- The version of the base of an environment. -/
def baseVersion (db : Database Text) (environment : KubeEnvironment.Model) : Option Int :=
  environment.baseEnvironmentId.bind fun baseEnvironmentId =>
    (environmentAt db baseEnvironmentId).map (·.catalogSyncVersion)

/-! ## What the parts keep -/

/-- The environments and the workload rows are left. -/
def KeepsWorkloads (db db' : Database Text) : Prop :=
  db'.environments = db.environments ∧ db'.environmentWorkloads = db.environmentWorkloads

/-- A state keeps its workloads. -/
theorem KeepsWorkloads.refl (db : Database Text) : KeepsWorkloads db db := ⟨rfl, rfl⟩

/-- Statements that keep the workloads, one after the other. -/
theorem KeepsWorkloads.trans (db₁ db₂ db₃ : Database Text) (h : KeepsWorkloads db₁ db₂)
    (h' : KeepsWorkloads db₂ db₃) : KeepsWorkloads db₁ db₃ :=
  ⟨h'.1.trans h.1, h'.2.trans h.2⟩

variable (Text) in
/-- The authorization writes nothing. -/
theorem each_authorizeRebase (orgId userId environmentId : Uuid) :
    (authorizeRebase orgId userId environmentId : Call Text _).Each Eq := by
  refine .bind (each_read _ _) fun found => .bind (.orFail _ _) fun environment => ?_
  split
  · trivial
  split
  · trivial
  refine .bind (.orFail _ _) fun baseEnvironmentId => .bind (each_read _ _) fun found =>
    .bind (.orFail _ _) fun baseEnvironment => ?_
  split
  · trivial
  · trivial

section
variable (fromStr : Text → Option Yaml.Value) (codec : ManifestCodec Text)
  (outside : BranchOutside) (branchEnvironment baseEnvironment : KubeEnvironment.Model)

variable (Text) in
/-- Loading the overrides writes nothing. -/
theorem each_loadOverrides :
    (loadOverrides outside branchEnvironment baseEnvironment : Call Text _).Each Eq := by
  refine .bind (each_read _ _) fun branchWorkloads => ?_
  split
  · trivial
  refine .bind (each_read _ _) fun baseWorkloads => .bind (each_read _ _) fun baseServices => ?_
  split
  · trivial
  · trivial

/-- The services of a branch keep the workloads. -/
theorem each_refreshBranchServicesForWorkload (baseWorkloadName branchWorkloadName : String)
    (baseServices : List (KubeEnvironmentService.Model Text)) (now : Timestamp) :
    (refreshBranchServicesForWorkload codec branchEnvironment baseWorkloadName branchWorkloadName
      baseServices now).Each KeepsWorkloads := by
  have hdelete : ∀ name, ((DbApi.softDeleteEnvironmentService branchEnvironment.id name now :
      Query Text _).mapError ApiError.internalError).Each KeepsWorkloads := by
    intro name
    unfold DbApi.softDeleteEnvironmentService Database.onEnvironmentServices
    refine .mapError ?_ _
    exact each_statement fun db _ _ => KeepsWorkloads.refl db
  have hinsert : ∀ entry : KubeServiceWithYaml Text,
      ((DbApi.insertEnvironmentService branchEnvironment.id branchEnvironment.namespace entry
        now).mapError ApiError.internalError).Each KeepsWorkloads := by
    intro entry
    unfold DbApi.insertEnvironmentService Database.onEnvironmentServices
    refine .mapError ?_ _
    exact each_statement fun db _ _ => KeepsWorkloads.refl db
  unfold refreshBranchServicesForWorkload
  refine .bind (.ofExcept _) fun desired => .bind ?_ fun existing => .bind ?_ fun _ => ?_
  · exact .mapError (.read KeepsWorkloads.refl _) _
  · exact .forEach fun service _ => .when _ (hdelete service.name)
  · exact .forEach fun entry _ => .bind (hdelete entry.details.name) fun _ => hinsert entry

/-- Preparing an override keeps the workloads. -/
theorem each_prepareOverride (baseWorkloads : List (KubeEnvironmentWorkload.Model Text))
    (baseServices : List (KubeEnvironmentService.Model Text)) (now : Timestamp)
    (branchWorkload : KubeEnvironmentWorkload.Model Text) :
    (prepareOverride codec outside branchEnvironment baseWorkloads baseServices now
      branchWorkload).Each KeepsWorkloads := by
  unfold prepareOverride
  dsimp only
  split
  · trivial
  exact .bind (each_refreshBranchServicesForWorkload codec branchEnvironment ..) fun _ =>
    .bind (.ofExcept _) fun _ => .bind (.orFail _ _) fun _ => .bind (.ofExcept _) fun _ =>
    .bind (.ofExcept _) fun _ => .pure _

/-! ## What a round leaves of its override -/

/-- The rows after the one of an id is changed. -/
def changedAt (id : Uuid)
    (f : KubeEnvironmentWorkload.Model Text → KubeEnvironmentWorkload.Model Text)
    (rows : List (KubeEnvironmentWorkload.Model Text)) : List (KubeEnvironmentWorkload.Model Text) :=
  rows.map fun row => if row.id = id then f row else row

/-- Nothing is changed at a row that is left. -/
theorem changedAt_id (id : Uuid) (rows : List (KubeEnvironmentWorkload.Model Text)) :
    changedAt id (fun row => row) rows = rows := by
  simp [changedAt]

/-- Two changes of one row. -/
theorem changedAt_changedAt (id : Uuid)
    {f g : KubeEnvironmentWorkload.Model Text → KubeEnvironmentWorkload.Model Text}
    (hf : ∀ row, (f row).id = row.id) (rows : List (KubeEnvironmentWorkload.Model Text)) :
    changedAt id g (changedAt id f rows) = changedAt id (fun row => g (f row)) rows := by
  rw [changedAt, changedAt, changedAt, List.map_map]
  refine List.map_congr_left fun row _ => ?_
  rw [Function.comp_apply]
  by_cases hid : row.id = id
  · rw [if_pos hid, if_pos hid, if_pos ((hf row).trans hid)]
  · rw [if_neg hid, if_neg hid, if_neg hid]

/-- The rows of other ids stay. -/
theorem mem_changedAt_of_ne {id : Uuid}
    {f : KubeEnvironmentWorkload.Model Text → KubeEnvironmentWorkload.Model Text}
    (hf : ∀ row, (f row).id = row.id) {rows : List (KubeEnvironmentWorkload.Model Text)}
    {row : KubeEnvironmentWorkload.Model Text} (hrow : row.id ≠ id) :
    row ∈ changedAt id f rows ↔ row ∈ rows := by
  rw [changedAt, List.mem_map]
  constructor
  · rintro ⟨row', hmem, rfl⟩
    split at hrow
    · next hid => exact absurd ((hf row').trans hid) hrow
    · next hid =>
      rw [if_neg hid]
      exact hmem
  · intro hmem
    exact ⟨row, hmem, if_neg hrow⟩

/-- A change that leaves its row leaves the rows. -/
theorem changedAt_eq_self {t : Table (KubeEnvironmentWorkload.Model Text)}
    {w : KubeEnvironmentWorkload.Model Text} (hmem : w ∈ t.rows)
    {f : KubeEnvironmentWorkload.Model Text → KubeEnvironmentWorkload.Model Text} (hf : f w = w) :
    changedAt w.id f t.rows = t.rows := by
  refine (List.map_congr_left fun row hrow => ?_).trans (List.map_id _)
  split
  · next hid =>
    rw [t.eq_of_conflict hrow hmem (.inl hid), hf]
    rfl
  · rfl

/-- The faults of a sequence are those of its first part, and then others. -/
theorem run_withFaults_bind {α β : Type} (m : Call Text α) (g : α → Call Text β)
    (faults : Nat → Option QueryErr) (db : Database Text) :
    ∃ faults', (withFaults (m >>= g) faults).run db =
      match (withFaults m faults).run db with
      | (.ok a, db') => (withFaults (g a) faults').run db'
      | (.error e, db') => (.error e, db') := by
  obtain ⟨n, hn⟩ := Program.run_inject_bind m g (fun n => (faults n).map ApiError.internalError) db
  refine ⟨fun i => faults (n + i), ?_⟩
  rw [withFaults, hn, withFaults]
  rcases (m.inject fun n => (faults n).map ApiError.internalError).run db with ⟨_ | _, _⟩ <;> rfl

/-- An update of the row of an id that leaves what rows conflict by. -/
theorem updateMany_changedAt (t : Table (KubeEnvironmentWorkload.Model Text)) (id : Uuid)
    {f : KubeEnvironmentWorkload.Model Text → KubeEnvironmentWorkload.Model Text}
    (hf : ∀ row row', Entity.Conflict (f row) (f row') → Entity.Conflict row row')
    (hf' : ∀ row row', Entity.Conflict (f row) row' → Entity.Conflict row row') :
    ∃ t', t.updateMany (fun row => row.id = id) f = .ok t' ∧ t'.rows = changedAt id f t.rows := by
  obtain ⟨t', ht'⟩ : ∃ t', t.updateMany (fun row => row.id = id) f = .ok t' := by
    refine Table.updateMany_of_conflict_imp fun row _ row' _ hc => ?_
    split at hc <;> split at hc
    · exact hf _ _ hc
    · exact hf' _ _ hc
    · exact Entity.symm (hf' _ _ (Entity.symm hc))
    · exact hc
  refine ⟨t', ht', ?_⟩
  rw [Table.rows_updateMany ht', changedAt]
  simp only [decide_eq_true_eq]

/-- What `update_environment_workload` does once it has written the contents. -/
def rewriteLabels (now : Timestamp) (updated : Option (KubeEnvironmentWorkload.Model Text)) :
    Query Text (KubeEnvironmentWorkload.Model Text) := do
  let updatedModel ← Program.orFail updated (.db .recordNotUpdated)
  match KubeWorkloadKind.parse updatedModel.kind with
  | none => pure updatedModel
  | some kind => do
    DbApi.replaceEnvironmentWorkloadLabels updatedModel.id updatedModel.environmentId
      (labelsFromWorkloadYaml fromStr kind updatedModel.workloadYaml) now
    pure updatedModel

/-- A round writes the contents, then the labels, and then the link. -/
theorem writeOverride_eq (now : Timestamp) (branchWorkload : KubeEnvironmentWorkload.Model Text)
    (rewriting : Rewriting Text) :
    ∃ labels : Option (KubeEnvironmentWorkload.Model Text) →
        Call Text (KubeEnvironmentWorkload.Model Text),
      (∀ updated, (labels updated).Each KeepsWorkloads) ∧
      writeOverride fromStr baseEnvironment now branchWorkload rewriting =
        (do
          let updated ← (Database.returning (·.environmentWorkloads)
            (fun db t => { db with environmentWorkloads := t })
            (fun row => row.id = branchWorkload.id) rewriting.content).mapError .internalError
          let _ ← labels updated
          (Database.onEnvironmentWorkloads fun t => t.updateOne (fun row => row.id = branchWorkload.id)
            (rewriting.link baseEnvironment.catalogSyncVersion)).mapError .internalError) := by
  refine ⟨fun updated => (rewriteLabels fromStr now updated).mapError .internalError,
    fun updated => .mapError (.bind (.orFail _ _) fun updatedModel => ?_) _, rfl⟩
  split
  · trivial
  · refine .bind (.bind ?_ fun _ => .forEach fun entry _ => ?_) fun _ => .pure _
    · unfold Database.onEnvironmentWorkloadLabels
      exact each_statement fun db _ _ => KeepsWorkloads.refl db
    · unfold DbApi.insertLabel Database.onEnvironmentWorkloadLabels
      exact each_statement fun db _ _ => KeepsWorkloads.refl db

/-- What comes after the contents, with faults: the link is written last. -/
theorem run_link {α : Type} {m : Call Text α} (hm : m.Each KeepsWorkloads) {db : Database Text}
    {row : KubeEnvironmentWorkload.Model Text} (hmem : row ∈ db.environmentWorkloads.rows)
    (rewriting : Rewriting Text) (catalogSyncVersion : Int) (faults : Nat → Option QueryErr) :
    ∃ result db', (withFaults (m >>= fun _ => (Database.onEnvironmentWorkloads fun t =>
        t.updateOne (fun r => r.id = row.id) (rewriting.link catalogSyncVersion)).mapError
        .internalError) faults).run db = (result, db') ∧
      db'.environments = db.environments ∧
      db'.environmentWorkloads.rows = changedAt row.id
        (match result with
        | .ok _ => rewriting.link catalogSyncVersion
        | .error _ => fun row => row) db.environmentWorkloads.rows := by
  obtain ⟨faults', hrun⟩ := run_withFaults_bind m (fun _ => (Database.onEnvironmentWorkloads fun t =>
    t.updateOne (fun r => r.id = row.id) (rewriting.link catalogSyncVersion)).mapError
    .internalError) faults db
  have hkeeps : KeepsWorkloads db ((withFaults m faults).run db).2 :=
    (hm.inject fun n => (faults n).map ApiError.internalError).along KeepsWorkloads.refl
      KeepsWorkloads.trans db
  rw [hrun]
  generalize (withFaults m faults).run db = outcome at hkeeps ⊢
  obtain ⟨henvironments, hworkloads⟩ := hkeeps
  rcases outcome with ⟨e | a, db'⟩
  · refine ⟨_, _, rfl, henvironments, ?_⟩
    dsimp only at hworkloads ⊢
    rw [hworkloads, changedAt_id]
  · dsimp only at henvironments hworkloads ⊢
    rw [Database.onEnvironmentWorkloads, Database.statement, Program.write, run_withFaults_stmt]
    cases faults' 0 with
    | some e =>
      refine ⟨_, _, rfl, henvironments, ?_⟩
      dsimp only
      rw [hworkloads, changedAt_id]
    | none =>
      obtain ⟨t, ht, hrows⟩ := updateMany_changedAt db'.environmentWorkloads row.id
        (f := rewriting.link catalogSyncVersion) (fun _ _ hc => hc) fun _ _ hc => hc
      rw [← hworkloads] at hmem ⊢
      have hone := Table.updateOne_eq_ok.2 ⟨⟨row, hmem, decide_eq_true rfl⟩, ht⟩
      refine ⟨.ok ⟨⟩, { db' with environmentWorkloads := t }, ?_, henvironments, hrows⟩
      dsimp only
      rw [Program.run_mapError, Program.run]
      simp only [hone]
      rfl

/-- The writes of a round, with faults: those that come before the fault are done. -/
theorem run_writeOverride {db : Database Text} {branchWorkload : KubeEnvironmentWorkload.Model Text}
    (hmem : branchWorkload ∈ db.environmentWorkloads.rows) (now : Timestamp)
    (rewriting : Rewriting Text) (faults : Nat → Option QueryErr) :
    ∃ result db', (withFaults (writeOverride fromStr baseEnvironment now branchWorkload rewriting)
        faults).run db = (result, db') ∧
      db'.environments = db.environments ∧
      db'.environmentWorkloads.rows = changedAt branchWorkload.id
        (match result, faults 0 with
        | .ok _, _ => fun row =>
          rewriting.link baseEnvironment.catalogSyncVersion (rewriting.content row)
        | .error _, none => rewriting.content
        | .error _, some _ => fun row => row) db.environmentWorkloads.rows := by
  obtain ⟨labels, hlabels, hparts⟩ := writeOverride_eq fromStr baseEnvironment now branchWorkload
    rewriting
  obtain ⟨t, ht, hrows⟩ := updateMany_changedAt db.environmentWorkloads branchWorkload.id
    (f := rewriting.content) (fun _ _ hc => hc) fun _ _ hc => hc
  obtain ⟨faults', hrun⟩ := run_withFaults_bind _ _ faults db
  have hfirst : (Database.returning (·.environmentWorkloads)
      (fun (db : Database Text) t => { db with environmentWorkloads := t })
      (fun row => row.id = branchWorkload.id) rewriting.content).run db =
      (.ok ((db.environmentWorkloads.one fun row => row.id = branchWorkload.id).map
        rewriting.content), { db with environmentWorkloads := t }) :=
    Database.run_returning_ok ht
  rw [hparts, hrun]
  rw [Database.returning] at hfirst ⊢
  rw [run_withFaults_stmt]
  cases hfault : faults 0 with
  | some e => exact ⟨_, _, rfl, rfl, (changedAt_id ..).symm⟩
  | none =>
    have hmem' : rewriting.content branchWorkload ∈
        ({ db with environmentWorkloads := t } : Database Text).environmentWorkloads.rows := by
      dsimp only
      rw [hrows]
      exact List.mem_map.2 ⟨branchWorkload, hmem, if_pos rfl⟩
    obtain ⟨result, db', hlink, henvironments, hlinked⟩ := run_link (hlabels _) hmem' rewriting
      baseEnvironment.catalogSyncVersion faults'
    dsimp only
    rw [Program.run_mapError, hfirst]
    refine ⟨result, db', hlink, henvironments, ?_⟩
    rw [hlinked]
    dsimp only
    rw [hrows]
    cases result with
    | ok _ =>
      exact changedAt_changedAt branchWorkload.id (f := rewriting.content)
        (g := rewriting.link baseEnvironment.catalogSyncVersion) (fun _ => rfl) _
    | error e => exact changedAt_id _ _

/-! ## Rounds -/

section
variable (faults : RebaseFaults) (baseWorkloads : List (KubeEnvironmentWorkload.Model Text))
  (baseServices : List (KubeEnvironmentService.Model Text)) (now : Timestamp)

/-- What a round writes to its override before it fails or ends. -/
def rewritten (branchWorkload : KubeEnvironmentWorkload.Model Text) (db : Database Text) :
    KubeEnvironmentWorkload.Model Text → KubeEnvironmentWorkload.Model Text :=
  match (withFaults (prepareOverride codec outside branchEnvironment baseWorkloads baseServices now
      branchWorkload) (faults.prepare branchWorkload.id)).run db with
  | (.ok (some rewriting), db') =>
    match ((withFaults (writeOverride fromStr baseEnvironment now branchWorkload rewriting)
        (faults.write branchWorkload.id)).run db').1, faults.write branchWorkload.id 0 with
    | .ok _, _ => fun row =>
      rewriting.link baseEnvironment.catalogSyncVersion (rewriting.content row)
    | .error _, none => rewriting.content
    | .error _, some _ => fun row => row
  | _ => fun row => row

/-- A row that is rewritten keeps its id. -/
theorem id_rewritten (branchWorkload : KubeEnvironmentWorkload.Model Text) (db : Database Text)
    (row : KubeEnvironmentWorkload.Model Text) :
    (rewritten fromStr codec outside branchEnvironment baseEnvironment faults baseWorkloads
      baseServices now branchWorkload db row).id = row.id := by
  unfold rewritten
  rcases (withFaults (prepareOverride codec outside branchEnvironment baseWorkloads baseServices now
    branchWorkload) (faults.prepare branchWorkload.id)).run db with ⟨e | _ | rewriting, db'⟩
  · rfl
  · rfl
  · dsimp only
    generalize ((withFaults (writeOverride fromStr baseEnvironment now branchWorkload rewriting)
      (faults.write branchWorkload.id)).run db').1 = result
    cases faults.write branchWorkload.id 0 <;> cases result <;> rfl

/-- A round writes to its override and to no other one, and leaves the environments. -/
theorem run_reapplyWithFaults {db : Database Text}
    {branchWorkload : KubeEnvironmentWorkload.Model Text}
    (hmem : branchWorkload ∈ db.environmentWorkloads.rows) :
    let outcome := (reapplyWithFaults fromStr codec outside branchEnvironment baseEnvironment faults
      baseWorkloads baseServices now branchWorkload).run db
    outcome.2.environments = db.environments ∧
      outcome.2.environmentWorkloads.rows = changedAt branchWorkload.id
        (rewritten fromStr codec outside branchEnvironment baseEnvironment faults baseWorkloads
          baseServices now branchWorkload db) db.environmentWorkloads.rows := by
  have hkeeps : KeepsWorkloads db ((withFaults (prepareOverride codec outside branchEnvironment
      baseWorkloads baseServices now branchWorkload) (faults.prepare branchWorkload.id)).run db).2 :=
    ((each_prepareOverride codec outside branchEnvironment baseWorkloads baseServices now
      branchWorkload).inject fun n => (faults.prepare branchWorkload.id n).map
        ApiError.internalError).along KeepsWorkloads.refl KeepsWorkloads.trans db
  rw [reapplyWithFaults, Program.run_bind]
  unfold rewritten
  generalize (withFaults (prepareOverride codec outside branchEnvironment baseWorkloads baseServices
    now branchWorkload) (faults.prepare branchWorkload.id)).run db = prepared at hkeeps ⊢
  obtain ⟨henvironments, hworkloads⟩ := hkeeps
  rcases prepared with ⟨e | _ | rewriting, db'⟩
  · exact ⟨henvironments, (congrArg Table.rows hworkloads).trans (changedAt_id ..).symm⟩
  · exact ⟨henvironments, (congrArg Table.rows hworkloads).trans (changedAt_id ..).symm⟩
  · dsimp only at henvironments hworkloads ⊢
    rw [← hworkloads] at hmem ⊢
    obtain ⟨result, db'', hrun, hkept, hrows⟩ := run_writeOverride fromStr baseEnvironment hmem now
      rewriting (faults.write branchWorkload.id)
    rw [hrun]
    exact ⟨hkept.trans henvironments, hrows⟩

/-- Every round up to the one that fails writes what its override already has. -/
def Untouched : List (KubeEnvironmentWorkload.Model Text) → Database Text → Prop
  | [], _ => True
  | branchWorkload :: branchWorkloads, db =>
    rewritten fromStr codec outside branchEnvironment baseEnvironment faults baseWorkloads
        baseServices now branchWorkload db branchWorkload = branchWorkload ∧
      match (reapplyWithFaults fromStr codec outside branchEnvironment baseEnvironment faults
          baseWorkloads baseServices now branchWorkload).run db with
      | (.ok _, db') => Untouched branchWorkloads db'
      | (.error _, _) => True

/-- One round after the other. -/
theorem run_rounds_cons (branchWorkload : KubeEnvironmentWorkload.Model Text)
    (branchWorkloads : List (KubeEnvironmentWorkload.Model Text)) (db : Database Text) :
    (Program.forEach (reapplyWithFaults fromStr codec outside branchEnvironment baseEnvironment
        faults baseWorkloads baseServices now) (branchWorkload :: branchWorkloads)).run db =
      match (reapplyWithFaults fromStr codec outside branchEnvironment baseEnvironment faults
        baseWorkloads baseServices now branchWorkload).run db with
      | (.ok _, db') => (Program.forEach (reapplyWithFaults fromStr codec outside branchEnvironment
          baseEnvironment faults baseWorkloads baseServices now) branchWorkloads).run db'
      | (.error e, db') => (.error e, db') := by
  rw [Program.forEach, Program.run_foldEach_cons]
  rcases (reapplyWithFaults fromStr codec outside branchEnvironment baseEnvironment faults
    baseWorkloads baseServices now branchWorkload).run db with ⟨e | ⟨⟩, db'⟩ <;> rfl

/-- The rounds leave the environments and the rows of other ids than those of their overrides. -/
theorem run_rounds_keeps {branchWorkloads : List (KubeEnvironmentWorkload.Model Text)}
    {db : Database Text} (hmem : ∀ w ∈ branchWorkloads, w ∈ db.environmentWorkloads.rows)
    (hnodup : (branchWorkloads.map (·.id)).Nodup) :
    let outcome := (Program.forEach (reapplyWithFaults fromStr codec outside branchEnvironment
      baseEnvironment faults baseWorkloads baseServices now) branchWorkloads).run db
    outcome.2.environments = db.environments ∧
      ∀ row, row.id ∉ branchWorkloads.map (·.id) →
        (row ∈ outcome.2.environmentWorkloads.rows ↔ row ∈ db.environmentWorkloads.rows) := by
  induction branchWorkloads generalizing db with
  | nil => exact ⟨rfl, fun _ _ => Iff.rfl⟩
  | cons w ws ih =>
    rw [List.map_cons, List.nodup_cons] at hnodup
    obtain ⟨henvironments, hrows⟩ := run_reapplyWithFaults fromStr codec outside branchEnvironment
      baseEnvironment faults baseWorkloads baseServices now (hmem w (.head _))
    rw [run_rounds_cons]
    generalize (reapplyWithFaults fromStr codec outside branchEnvironment baseEnvironment faults
      baseWorkloads baseServices now w).run db = outcome at henvironments hrows ⊢
    have hothers : ∀ row, row.id ≠ w.id →
        (row ∈ outcome.2.environmentWorkloads.rows ↔ row ∈ db.environmentWorkloads.rows) := by
      intro row hrow
      rw [hrows]
      exact mem_changedAt_of_ne (id_rewritten fromStr codec outside branchEnvironment
        baseEnvironment faults baseWorkloads baseServices now w db) hrow
    rcases outcome with ⟨e | _, db'⟩
    · refine ⟨henvironments, fun row hrow => hothers row ?_⟩
      exact fun hid => hrow (hid ▸ List.mem_cons_self)
    · have hmem' : ∀ w' ∈ ws, w' ∈ db'.environmentWorkloads.rows := by
        intro w' hw'
        refine (hothers w' ?_).2 (hmem w' (.tail _ hw'))
        exact fun hid => hnodup.1 (hid ▸ List.mem_map_of_mem hw')
      obtain ⟨hkept, hrest⟩ := ih hmem' hnodup.2
      refine ⟨hkept.trans henvironments, fun row hrow => ?_⟩
      rw [List.map_cons, List.mem_cons, not_or] at hrow
      exact (hrest row hrow.2).trans (hothers row hrow.1)

/-- Rounds that write what is there leave the rows. -/
theorem rows_of_untouched {branchWorkloads : List (KubeEnvironmentWorkload.Model Text)}
    {db : Database Text} (hmem : ∀ w ∈ branchWorkloads, w ∈ db.environmentWorkloads.rows)
    (h : Untouched fromStr codec outside branchEnvironment baseEnvironment faults baseWorkloads
      baseServices now branchWorkloads db) :
    ((Program.forEach (reapplyWithFaults fromStr codec outside branchEnvironment baseEnvironment
      faults baseWorkloads baseServices now) branchWorkloads).run db).2.environmentWorkloads.rows =
      db.environmentWorkloads.rows := by
  induction branchWorkloads generalizing db with
  | nil => rfl
  | cons w ws ih =>
    obtain ⟨hsame, hrest⟩ := h
    have hrows := (run_reapplyWithFaults fromStr codec outside branchEnvironment baseEnvironment
      faults baseWorkloads baseServices now (hmem w (.head _))).2
    rw [changedAt_eq_self (hmem w (.head _)) hsame] at hrows
    rw [run_rounds_cons]
    generalize (reapplyWithFaults fromStr codec outside branchEnvironment baseEnvironment faults
      baseWorkloads baseServices now w).run db = outcome at hrest hrows ⊢
    rcases outcome with ⟨e | _, db'⟩
    · exact hrows
    · dsimp only at hrest hrows ⊢
      refine (ih (fun w' hw' => ?_) hrest).trans hrows
      rw [hrows]
      exact hmem w' (.tail _ hw')

/-- Rounds that leave their overrides write what is there. -/
theorem untouched_of_mem {branchWorkloads : List (KubeEnvironmentWorkload.Model Text)}
    {db : Database Text} (hmem : ∀ w ∈ branchWorkloads, w ∈ db.environmentWorkloads.rows)
    (hnodup : (branchWorkloads.map (·.id)).Nodup)
    (h : ∀ w ∈ branchWorkloads, w ∈ ((Program.forEach (reapplyWithFaults fromStr codec outside
      branchEnvironment baseEnvironment faults baseWorkloads baseServices now) branchWorkloads).run
      db).2.environmentWorkloads.rows) :
    Untouched fromStr codec outside branchEnvironment baseEnvironment faults baseWorkloads
      baseServices now branchWorkloads db := by
  induction branchWorkloads generalizing db with
  | nil => trivial
  | cons w ws ih =>
    rw [List.map_cons, List.nodup_cons] at hnodup
    have hrows := (run_reapplyWithFaults fromStr codec outside branchEnvironment baseEnvironment
      faults baseWorkloads baseServices now (hmem w (.head _))).2
    have hid := id_rewritten fromStr codec outside branchEnvironment baseEnvironment faults
      baseWorkloads baseServices now w db
    have hothers : ∀ w' ∈ ws, w'.id ≠ w.id := fun w' hw' heq =>
      hnodup.1 (heq ▸ List.mem_map_of_mem hw')
    rw [Untouched]
    rw [run_rounds_cons] at h
    generalize (reapplyWithFaults fromStr codec outside branchEnvironment baseEnvironment faults
      baseWorkloads baseServices now w).run db = outcome at h hrows ⊢
    have hwritten : rewritten fromStr codec outside branchEnvironment baseEnvironment faults
        baseWorkloads baseServices now w db w ∈ outcome.2.environmentWorkloads.rows := by
      rw [hrows]
      exact List.mem_map.2 ⟨w, hmem w (.head _), if_pos rfl⟩
    rcases outcome with ⟨e | _, db'⟩
    · exact ⟨Table.eq_of_conflict hwritten (h w (.head _)) (.inl (hid w)), trivial⟩
    · have hmem' : ∀ w' ∈ ws, w' ∈ db'.environmentWorkloads.rows := by
        intro w' hw'
        dsimp only at hrows
        rw [hrows]
        exact (mem_changedAt_of_ne hid (hothers w' hw')).2 (hmem w' (.tail _ hw'))
      have hkept := (run_rounds_keeps fromStr codec outside branchEnvironment baseEnvironment faults
        baseWorkloads baseServices now hmem' hnodup.2).2 _ ((hid w).symm ▸ hnodup.1)
      refine ⟨Table.eq_of_conflict (hkept.2 hwritten) (h w (.head _)) (.inl (hid w)), ?_⟩
      exact ih hmem' hnodup.2 fun w' hw' => h w' (.tail _ hw')

end

/-- The overrides of a rebase are rows of its branch. -/
theorem run_loadOverrides {db db' : Database Text}
    {loaded : List (KubeEnvironmentWorkload.Model Text) ×
      List (KubeEnvironmentWorkload.Model Text) × List (KubeEnvironmentService.Model Text)}
    (h : (loadOverrides outside branchEnvironment baseEnvironment).run db = (.ok loaded, db')) :
    loaded.1.Sublist db.environmentWorkloads.rows ∧
      ∀ w ∈ loaded.1, w.environmentId = branchEnvironment.id := by
  unfold loadOverrides DbApi.getEnvironmentWorkloads DbApi.getEnvironmentServices at h
  rw [Program.run_mapError_read_bind] at h
  split at h
  · cases h
    exact ⟨List.nil_sublist _, fun w hw => nomatch hw⟩
  · rw [Program.run_mapError_read_bind, Program.run_mapError_read_bind] at h
    split at h
    · cases h
    · cases h
      refine ⟨List.filter_sublist, fun w hw => ?_⟩
      have hp := (Table.mem_select.1 hw).2
      simp only [Bool.and_eq_true, decide_eq_true_eq] at hp
      exact hp.1

/-- The overrides that a rebase comes to write are written what they have. -/
def OverridesUntouched (faults : RebaseFaults) (now : Timestamp) (db : Database Text) : Prop :=
  ∀ loaded, ((withFaults (loadOverrides outside branchEnvironment baseEnvironment)
      faults.load).run db).1 = .ok loaded →
    Untouched fromStr codec outside branchEnvironment baseEnvironment faults loaded.2.1 loaded.2.2
      now loaded.1 db

/-- The overrides are derived again without a write to an environment, and the rows of the branch
are left exactly if every write to them is of what they have. -/
theorem run_reapplyAllWithFaults (faults : RebaseFaults) (now : Timestamp) (db : Database Text) :
    let outcome := (reapplyAllWithFaults fromStr codec outside branchEnvironment baseEnvironment
      faults now).run db
    outcome.2.environments = db.environments ∧
      (workloadRowsOf outcome.2 branchEnvironment.id = workloadRowsOf db branchEnvironment.id ↔
        OverridesUntouched fromStr codec outside branchEnvironment baseEnvironment faults now
          db) := by
  have hreads := run_withFaults_of_reads (each_loadOverrides Text outside
    branchEnvironment baseEnvironment) faults.load db
  rw [reapplyAllWithFaults, Program.run_bind, hreads]
  unfold OverridesUntouched
  cases hloaded : ((withFaults (loadOverrides outside branchEnvironment baseEnvironment)
      faults.load).run db).1 with
  | error e =>
    exact ⟨rfl, iff_of_true rfl fun _ h => nomatch h⟩
  | ok loaded =>
    rw [hloaded] at hreads
    obtain ⟨hsublist, hbranch⟩ := run_loadOverrides outside branchEnvironment baseEnvironment
      (Program.run_inject_eq_ok hreads)
    have hmem : ∀ w ∈ loaded.1, w ∈ db.environmentWorkloads.rows := fun w hw => hsublist.subset hw
    have hnodup : (loaded.1.map (·.id)).Nodup := by
      refine List.pairwise_map.2 ((db.environmentWorkloads.unique.sublist hsublist).imp ?_)
      exact fun hconflict heq => hconflict (.inl heq)
    dsimp only
    refine ⟨(run_rounds_keeps fromStr codec outside branchEnvironment baseEnvironment faults _ _ now
      hmem hnodup).1, fun hrows loaded' h => ?_, fun h => ?_⟩
    · cases h
      refine untouched_of_mem fromStr codec outside branchEnvironment baseEnvironment faults _ _ now
        hmem hnodup fun w hw => ?_
      have hw' : w ∈ workloadRowsOf db branchEnvironment.id :=
        Table.mem_select.2 ⟨hmem w hw, decide_eq_true (hbranch w hw)⟩
      rw [← hrows] at hw'
      exact (Table.mem_select.1 hw').1
    · rw [workloadRowsOf, Table.select, rows_of_untouched fromStr codec outside branchEnvironment
        baseEnvironment faults _ _ now hmem (h loaded rfl)]
      rfl

end

/-! ## Rebases -/

/-- The environment of a rebase and its base. -/
structure RebaseSubject (db : Database Text) (environmentId : Uuid)
    (environment baseEnvironment : KubeEnvironment.Model) : Prop where
  found : environmentAt db environmentId = some environment
  version : baseVersion db environment = some baseEnvironment.catalogSyncVersion

/-- A call that is authorized has read its environment and the base. -/
theorem run_authorizeRebase {db db' : Database Text} {orgId userId environmentId : Uuid}
    {environment baseEnvironment : KubeEnvironment.Model}
    (h : (authorizeRebase orgId userId environmentId).run db =
      (.ok (environment, baseEnvironment), db')) :
    RebaseSubject db environmentId environment baseEnvironment := by
  unfold authorizeRebase DbApi.getKubeEnvironment at h
  rw [Program.run_mapError_read_bind] at h
  obtain ⟨environment', hfound, h⟩ := Program.run_orFail_bind_eq_ok.1 h
  split at h
  · cases h
  split at h
  · cases h
  obtain ⟨baseEnvironmentId, hbase, h⟩ := Program.run_orFail_bind_eq_ok.1 h
  rw [Program.run_mapError_read_bind] at h
  obtain ⟨baseEnvironment', hfoundBase, h⟩ := Program.run_orFail_bind_eq_ok.1 h
  split at h
  · cases h
  · cases h
    refine ⟨hfound, ?_⟩
    rw [baseVersion, hbase, Option.bind_some, environmentAt, hfoundBase, Option.map_some]

section
variable (fromStr : Text → Option Yaml.Value) (codec : ManifestCodec Text)
  (outside : BranchOutside) (faults : RebaseFaults) (orgId userId environmentId : Uuid)
  (now : Timestamp) (db : Database Text)

/-- A rebase comes to mark an environment as syncing. -/
def MarksRebase (environment baseEnvironment : KubeEnvironment.Model) : Prop :=
  ((withFaults (authorizeRebase orgId userId environmentId) faults.authorize).run db).1 =
      .ok (environment, baseEnvironment) ∧
    faults.mark 0 = .none

/-- The outcome of the rounds of a rebase. -/
def reapplied (environment baseEnvironment : KubeEnvironment.Model) :
    Except ApiError PUnit × Database Text :=
  (reapplyAllWithFaults fromStr codec outside environment baseEnvironment faults now).run
    (marked db environmentId "Syncing")

/-- The environment that a rebase writes last. -/
def rebasedEnvironment (environmentId : Uuid) (catalogSyncVersion : Int) (now : Timestamp)
    (row : KubeEnvironment.Model) : KubeEnvironment.Model :=
  if row.id = environmentId then
    { row with catalogSyncVersion, lastCatalogSyncedAt := some now, syncStatus := "Idle" }
  else row

/-- No step fails whose failure a rebase does not make good: the environment was idle if the rebase
does not come to mark it; where a round fails, the mark is put back and the overrides that were
written by then had what was written; and the last write does not fail after the rounds. -/
structure RebaseSpared : Prop where
  unmarked : (∀ environment baseEnvironment,
      ¬MarksRebase faults orgId userId environmentId db environment baseEnvironment) →
    ∀ row, environmentAt db environmentId = some row →
      KubeEnvironmentSyncStatus.ofColumn row.syncStatus = .idle
  reset : ∀ environment baseEnvironment e,
    MarksRebase faults orgId userId environmentId db environment baseEnvironment →
    (reapplied fromStr codec outside faults environmentId now db environment baseEnvironment).1 =
      .error e →
    faults.reset 0 = .none ∧
      OverridesUntouched fromStr codec outside environment baseEnvironment faults now
        (marked db environmentId "Syncing")
  finished : ∀ environment baseEnvironment,
    MarksRebase faults orgId userId environmentId db environment baseEnvironment →
    (reapplied fromStr codec outside faults environmentId now db environment baseEnvironment).1 =
      .ok ⟨⟩ →
    faults.finish 0 = .none

/-- The last write of a rebase, with faults. -/
theorem run_finish {row : KubeEnvironment.Model} (hmem : row ∈ db.environments.rows)
    (catalogSyncVersion : Int) (finishFaults : Nat → Option QueryErr) :
    ∃ result db', (withFaults ((Database.onEnvironments fun t =>
        t.updateOne (fun r => r.id = row.id) fun r =>
          { r with catalogSyncVersion, lastCatalogSyncedAt := some now, syncStatus := "Idle" }).mapError
        .internalError) finishFaults).run db = (result, db') ∧
      match finishFaults 0 with
      | some e => result = .error (.internalError e) ∧ db' = db
      | none => result = .ok ⟨⟩ ∧ db'.environments.rows =
          db.environments.rows.map (rebasedEnvironment row.id catalogSyncVersion now) := by
  rw [Database.onEnvironments, Database.statement, Program.write, run_withFaults_stmt]
  cases finishFaults 0 with
  | some e => exact ⟨_, _, rfl, rfl, rfl⟩
  | none =>
    obtain ⟨t, ht⟩ : ∃ t, db.environments.updateMany (fun r => r.id = row.id)
        (fun r => { r with catalogSyncVersion, lastCatalogSyncedAt := some now, syncStatus := "Idle" })
          = .ok t := by
      refine Table.updateMany_of_conflict_imp fun r _ r' _ hc => ?_
      split at hc <;> split at hc <;> exact hc
    have hone := Table.updateOne_eq_ok.2 ⟨⟨row, hmem, decide_eq_true rfl⟩, ht⟩
    refine ⟨.ok ⟨⟩, { db with environments := t }, ?_, rfl, ?_⟩
    · dsimp only
      rw [Program.run_mapError, Program.run]
      simp only [hone]
      rfl
    · dsimp only
      rw [Table.rows_updateMany ht]
      simp only [decide_eq_true_eq]
      rfl

/-- The run of a rebase, by its parts. -/
theorem run_rebaseWithFaults_of_marks {environment baseEnvironment : KubeEnvironment.Model}
    (h : MarksRebase faults orgId userId environmentId db environment baseEnvironment) :
    RebaseSubject db environmentId environment baseEnvironment ∧
      ∃ db', environmentAt db' environmentId = some { environment with syncStatus := "Syncing" } ∧
        (workloadRowsOf db' environmentId = workloadRowsOf db environmentId ↔
          OverridesUntouched fromStr codec outside environment baseEnvironment faults now
            (marked db environmentId "Syncing")) ∧
        match (reapplied fromStr codec outside faults environmentId now db environment
          baseEnvironment).1 with
        | .error e =>
          (rebaseWithFaults fromStr codec outside faults orgId userId environmentId now).run db =
            (.error e, match faults.reset 0 with
              | some _ => db'
              | .none => marked db' environmentId "Idle")
        | .ok _ =>
          ∃ result db'', (rebaseWithFaults fromStr codec outside faults orgId userId environmentId
              now).run db = (result, db'') ∧
            match faults.finish 0 with
            | some e => result = .error (.internalError e) ∧ db'' = db'
            | .none => result = .ok ⟨⟩ ∧ db''.environments.rows = db'.environments.rows.map
                (rebasedEnvironment environmentId baseEnvironment.catalogSyncVersion now) := by
  obtain ⟨hauthorized, hmark⟩ := h
  have hreads := run_withFaults_of_reads
    (each_authorizeRebase Text orgId userId environmentId) faults.authorize db
  rw [hauthorized] at hreads
  have hsubject := run_authorizeRebase (Program.run_inject_eq_ok hreads)
  have hat := hsubject.found
  obtain ⟨hmem, rfl, -⟩ := environmentAt_eq_some hat
  have hmarked := run_withFaults_setSyncStatus hmem "Syncing" faults.mark
  rw [hmark] at hmarked
  obtain ⟨henvironments, hrows⟩ := run_reapplyAllWithFaults fromStr codec outside environment
    baseEnvironment faults now (marked db environment.id "Syncing")
  rw [workloadRowsOf_marked hat] at hrows
  have hafter := environmentAt_marked hat "Syncing"
  rw [environmentAt, ← henvironments] at hafter
  have hrun : (reapplyAllWithFaults fromStr codec outside environment baseEnvironment faults
      now).run (marked db environment.id "Syncing") =
      reapplied fromStr codec outside faults environment.id now db environment baseEnvironment := rfl
  unfold rebaseWithFaults
  rw [Program.run_bind, hreads]
  dsimp only
  rw [Program.run_bind_of_ok hmarked, Program.run_bind, Program.run_attempt]
  rw [hrun] at hafter hrows ⊢
  generalize reapplied fromStr codec outside faults environment.id now db environment
    baseEnvironment = outcome at hafter hrows ⊢
  refine ⟨hsubject, outcome.2, hafter, hrows, ?_⟩
  have hmem' := (environmentAt_eq_some hafter).1
  rcases outcome with ⟨e | ⟨⟩, db'⟩
  · have hreset := run_withFaults_setSyncStatus hmem' "Idle" faults.reset
    dsimp only at hreset ⊢
    rw [Program.run_bind, Program.run_attempt, hreset]
    cases faults.reset 0 <;> rfl
  · exact run_finish now db' hmem' baseEnvironment.catalogSyncVersion faults.finish

/-- A run that does not come to mark the environment fails and leaves the database. -/
theorem run_rebaseWithFaults_of_not_marks
    (h : ∀ environment baseEnvironment,
      ¬MarksRebase faults orgId userId environmentId db environment baseEnvironment) :
    ∃ e, (rebaseWithFaults fromStr codec outside faults orgId userId environmentId now).run db =
      (.error e, db) := by
  have hreads := run_withFaults_of_reads
    (each_authorizeRebase Text orgId userId environmentId) faults.authorize db
  unfold rebaseWithFaults
  rw [Program.run_bind]
  cases hauthorized : ((withFaults (authorizeRebase orgId userId environmentId : Call Text _)
      faults.authorize).run db).1 with
  | error e =>
    rw [hreads, hauthorized]
    exact ⟨e, rfl⟩
  | ok subject =>
    obtain ⟨environment, baseEnvironment⟩ := subject
    rw [hauthorized] at hreads
    have hsubject := run_authorizeRebase (Program.run_inject_eq_ok hreads)
    obtain ⟨hmem, rfl, -⟩ := environmentAt_eq_some hsubject.found
    obtain ⟨e, hfault⟩ := Option.ne_none_iff_exists'.1 fun hmark =>
      h environment baseEnvironment ⟨hauthorized, hmark⟩
    have hmarked := run_withFaults_setSyncStatus hmem "Syncing" faults.mark
    rw [hfault] at hmarked
    rw [hreads]
    dsimp only
    rw [Program.run_bind, hmarked]
    exact ⟨_, rfl⟩

/-- A rebase leaves its environment as its result says exactly if no step fails whose failure it
does not make good. -/
theorem rebaseSettles_iff :
    Settles (baseVersion db) db environmentId
        ((rebaseWithFaults fromStr codec outside faults orgId userId environmentId now).run db) ↔
      RebaseSpared fromStr codec outside faults orgId userId environmentId now db := by
  constructor
  · intro hsettles
    refine ⟨fun hnever row hrow => ?_, fun environment baseEnvironment e hmarks hfails => ?_,
      fun environment baseEnvironment hmarks hends => ?_⟩
    · obtain ⟨e, hrun⟩ := run_rebaseWithFaults_of_not_marks fromStr codec outside faults orgId
        userId environmentId now db hnever
      obtain ⟨row', hrow', hidle, -⟩ := hsettles row hrow
      rw [hrun, hrow] at hrow'
      cases hrow'
      exact hidle
    · obtain ⟨hsubject, db', hat, hrows, hrun⟩ := run_rebaseWithFaults_of_marks fromStr codec
        outside faults orgId userId environmentId now db hmarks
      rw [hfails] at hrun
      obtain ⟨row', hrow', hidle, hkept⟩ := hsettles environment hsubject.found
      rw [hrun] at hrow' hkept
      cases hreset : faults.reset 0 with
      | some e' =>
        rw [hreset] at hrow'
        cases hat.symm.trans hrow'
        cases hidle
      | none =>
        rw [hreset] at hkept
        exact ⟨rfl, hrows.1 ((workloadRowsOf_marked hat "Idle").symm.trans hkept.2)⟩
    · obtain ⟨hsubject, db', hat, -, hrun⟩ := run_rebaseWithFaults_of_marks fromStr codec
        outside faults orgId userId environmentId now db hmarks
      rw [hends] at hrun
      obtain ⟨result, db'', hrun, hfinish⟩ := hrun
      obtain ⟨row', hrow', hidle, -⟩ := hsettles environment hsubject.found
      rw [hrun] at hrow'
      cases hfault : faults.finish 0 with
      | none => rfl
      | some e =>
        rw [hfault] at hfinish
        obtain ⟨-, rfl⟩ := hfinish
        cases hat.symm.trans hrow'
        cases hidle
  · intro hspared row hrow
    by_cases hever : ∃ environment baseEnvironment,
        MarksRebase faults orgId userId environmentId db environment baseEnvironment
    · obtain ⟨environment, baseEnvironment, hmarks⟩ := hever
      obtain ⟨hsubject, db', hat, hrows, hrun⟩ := run_rebaseWithFaults_of_marks fromStr codec
        outside faults orgId userId environmentId now db hmarks
      cases hrow.symm.trans hsubject.found
      cases hresult : (reapplied fromStr codec outside faults environmentId now db row
          baseEnvironment).1 with
      | error e =>
        obtain ⟨hreset, huntouched⟩ := hspared.reset row baseEnvironment e hmarks hresult
        rw [hresult, hreset] at hrun
        dsimp only at hrun
        rw [hrun]
        refine ⟨_, environmentAt_marked hat "Idle", rfl, rfl, ?_⟩
        exact (workloadRowsOf_marked hat "Idle").trans (hrows.2 huntouched)
      | ok _ =>
        rw [hresult] at hrun
        obtain ⟨result, db'', hrun, hfinish⟩ := hrun
        rw [hspared.finished row baseEnvironment hmarks hresult] at hfinish
        obtain ⟨rfl, hrebased⟩ := hfinish
        rw [hrun]
        have hafter : environmentAt db'' environmentId = (environmentAt db' environmentId).map
            (rebasedEnvironment environmentId baseEnvironment.catalogSyncVersion now) :=
          environmentAt_map hrebased fun r => by
            unfold rebasedEnvironment
            split <;> exact ⟨rfl, rfl⟩
        obtain ⟨-, hid, -⟩ := environmentAt_eq_some hat
        rw [hat, Option.map_some, rebasedEnvironment, if_pos hid] at hafter
        exact ⟨_, hafter, rfl, hsubject.version⟩
    · have hnever : ∀ environment baseEnvironment,
          ¬MarksRebase faults orgId userId environmentId db environment baseEnvironment :=
        fun environment baseEnvironment hmarks => hever ⟨environment, baseEnvironment, hmarks⟩
      obtain ⟨e, hrun⟩ := run_rebaseWithFaults_of_not_marks fromStr codec outside faults orgId
        userId environmentId now db hnever
      rw [hrun]
      exact ⟨row, hrow, hspared.unmarked hnever row hrow, rfl, rfl⟩

end

end

/-- A sync or a rebase leaves its environment as its result says exactly if no step fails whose
failure it does not make good. -/
theorem settles_iff {Text : Type} (fromStr : Text → Option Yaml.Value) (codec : ManifestCodec Text)
    (isEmpty : Text → Bool) (outside : Outside Text) (branchOutside : BranchOutside)
    (syncFaults : SyncFaults) (rebaseFaults : RebaseFaults) (orgId userId environmentId : Uuid)
    (now : Timestamp) (db : Database Text) :
    (Settles (catalogVersion db) db environmentId
        ((syncWithFaults codec isEmpty outside syncFaults orgId userId environmentId now).run db) ↔
      SyncSpared codec isEmpty outside syncFaults orgId userId environmentId now db) ∧
    (Settles (baseVersion db) db environmentId
        ((rebaseWithFaults fromStr codec branchOutside rebaseFaults orgId userId environmentId
          now).run db) ↔
      RebaseSpared fromStr codec branchOutside rebaseFaults orgId userId environmentId now db) :=
  ⟨syncSettles_iff .., rebaseSettles_iff ..⟩

/-- The transaction of a sync fails. -/
def commitFault : SyncFaults :=
  { SyncFaults.none with store := fun _ => some (.anyhow "connection lost") }

/-- A catalog that is changed after an environment is made of it. -/
def changedShop : Database Document :=
  SyncCall.afterCalls [SyncCall.createShop false, SyncCall.createDev, SyncCall.updateWeb]

/-- A sync whose transaction fails leaves the environment marked. -/
theorem failed_commit_syncing :
    ¬Settles (catalogVersion changedShop) changedShop 5
      ((syncWithFaults Document.codec (fun _ => false)
        { connectedCluster with newId := fun id => id + 200 } commitFault 1 1 5 4).run
        changedShop) := by
  intro h
  obtain ⟨row', hrow', hidle, -⟩ := h
    ⟨5, none, 1, 1, 1, 1, "dev", "dev", "Creating", false, 0, some 2, "idle", none, "token"⟩
    (by decide +kernel)
  have hstatus : (environmentAt ((syncWithFaults Document.codec (fun _ => false)
      { connectedCluster with newId := fun id => id + 200 } commitFault 1 1 5 4).run
      changedShop).2 5).map (·.syncStatus) = some "Syncing" := by decide +kernel
  rw [hrow', Option.map_some, Option.some.injEq] at hstatus
  rw [hstatus] at hidle
  cases hidle

end KubeController

end Lapdev
