import Lapdev.Db.Entities

/-!
# Ready replicas of environment workloads

`update_environment_workload_ready_replicas` of `kube/src/server.rs`: a workload event names an
environment by its branch label, or by its namespace alone. The branches of an environment share its
namespace, so the second lookup may find any of them, in whatever order the database returns the
rows (`attributed_iff`).
-/

namespace Lapdev

open RustStd Sql Programs

variable {Text : Type}

namespace KubeClusterServer

section
variable (parseStr : String → Option Uuid) (clusterId : Uuid) («namespace» resourceName : String)
  (metadataLabels : BTreeMap String String)

/-- `lapdev.io/branch-environment-id`. -/
def branchEnvironmentId : Option Uuid :=
  (metadataLabels.lookup "lapdev.io/branch-environment-id").bind parseStr

/-- `lapdev.base-workload-id`. -/
def baseWorkloadId : Option Uuid :=
  (metadataLabels.lookup "lapdev.base-workload-id").bind parseStr

/-- The environment of a workload event. -/
def eventEnvironment : Query Text (Option KubeEnvironment.Model) :=
  match branchEnvironmentId parseStr metadataLabels with
  | some envId => do
    let environment ← Program.read fun db =>
      db.environments.one fun row => row.id = envId && row.deletedAt = none
    pure (environment.filter fun env => env.clusterId = clusterId)
  | none =>
    .read fun db => db.environments.one fun row =>
      row.clusterId = clusterId && row.namespace = «namespace» && row.deletedAt = none

/-- The workload of an environment whose base workload the label names. -/
def labelledWorkload (environmentId : Uuid) : Query Text (Option (KubeEnvironmentWorkload.Model Text)) :=
  match baseWorkloadId parseStr metadataLabels with
  | some baseWorkloadId =>
    .read fun db => db.environmentWorkloads.one fun row =>
      row.environmentId = environmentId && row.baseWorkloadId = some baseWorkloadId &&
        row.deletedAt = none
  | none => pure none

/-- The workload of an environment that a workload event is about. -/
def eventWorkload (environmentId : Uuid) : Query Text (Option (KubeEnvironmentWorkload.Model Text)) := do
  let workload ← labelledWorkload parseStr metadataLabels environmentId
  match workload with
  | some workload => pure (some workload)
  | none =>
    .read fun db => db.environmentWorkloads.one fun row =>
      row.environmentId = environmentId && row.name = resourceName && row.deletedAt = none

/-- Source: `server.rs`; `parseStr` is `Uuid::parse_str`. The event it publishes about the row is
left out. -/
def updateEnvironmentWorkloadReadyReplicas (readyReplicas : Option Int) : Query Text PUnit := do
  let environment ← eventEnvironment parseStr clusterId «namespace» metadataLabels
  match environment with
  | none => pure ⟨⟩
  | some environment => do
    let workload ← eventWorkload parseStr resourceName metadataLabels environment.id
    match workload with
    | none => pure ⟨⟩
    | some workload =>
      if workload.readyReplicas = readyReplicas then pure ⟨⟩
      else
        Database.onEnvironmentWorkloads fun t =>
          t.updateOne (fun row => row.id = workload.id) fun row => { row with readyReplicas }

end

/-! ## What the lookups may find -/

section
variable (parseStr : String → Option Uuid) (clusterId : Uuid) («namespace» resourceName : String)
  (metadataLabels : BTreeMap String String) (db : Database Text)

/-- The environments one of which the first lookup returns. -/
def environmentCandidates : List KubeEnvironment.Model :=
  match branchEnvironmentId parseStr metadataLabels with
  | some envId =>
    db.environments.select fun row =>
      row.id = envId && row.deletedAt = none && row.clusterId = clusterId
  | none =>
    db.environments.select fun row =>
      row.clusterId = clusterId && row.namespace = «namespace» && row.deletedAt = none

/-- The workloads of an environment with the base workload of the label. -/
def labelledWorkloads (environmentId : Uuid) : List (KubeEnvironmentWorkload.Model Text) :=
  match baseWorkloadId parseStr metadataLabels with
  | some baseWorkloadId =>
    db.environmentWorkloads.select fun row =>
      row.environmentId = environmentId && row.baseWorkloadId = some baseWorkloadId &&
        row.deletedAt = none
  | none => []

/-- The workloads one of which the second lookup returns: those of the label, or else those of the
event's name. -/
def workloadCandidates (environmentId : Uuid) : List (KubeEnvironmentWorkload.Model Text) :=
  if labelledWorkloads parseStr metadataLabels db environmentId = [] then
    db.environmentWorkloads.select fun row =>
      row.environmentId = environmentId && row.name = resourceName && row.deletedAt = none
  else labelledWorkloads parseStr metadataLabels db environmentId

end

section
variable {parseStr : String → Option Uuid} {clusterId : Uuid} {«namespace» resourceName : String}
  {metadataLabels : BTreeMap String String} {db db' : Database Text}

/-- The first lookup returns the first candidate. -/
theorem run_eventEnvironment :
    (eventEnvironment parseStr clusterId «namespace» metadataLabels).run db =
      (.ok (environmentCandidates parseStr clusterId «namespace» metadataLabels db).head?, db) := by
  unfold eventEnvironment environmentCandidates
  split
  · next envId _ =>
    rw [Program.run_bind, Program.run_read]
    dsimp only
    rw [Program.run_pure, ← Table.one_eq_head?]
    congr 2
    cases hone : db.environments.one fun row => row.id = envId && row.deletedAt = none with
    | none =>
      refine Eq.symm (List.find?_eq_none.2 fun row hrow hp => ?_)
      refine List.find?_eq_none.1 hone row hrow ?_
      simp only [Bool.and_eq_true] at hp ⊢
      exact hp.1
    | some env =>
      obtain ⟨hmem, hp⟩ := Table.mem_of_one hone
      simp only [Bool.and_eq_true, decide_eq_true_eq] at hp
      rw [Option.filter_some]
      split
      · next hcluster =>
        refine Eq.symm (Table.one_eq_some hmem (by simp [hp, of_decide_eq_true hcluster]) ?_)
        intro row hrow hp'
        simp only [Bool.and_eq_true, decide_eq_true_eq] at hp'
        exact Table.eq_of_conflict hrow hmem (.inl (hp'.1.1.trans hp.1.symm))
      · next hcluster =>
        refine Eq.symm (List.find?_eq_none.2 fun row hrow hp' => hcluster ?_)
        simp only [Bool.and_eq_true, decide_eq_true_eq] at hp'
        cases Table.eq_of_conflict hrow hmem (.inl (hp'.1.1.trans hp.1.symm))
        exact decide_eq_true hp'.2
  · rw [Program.run_read, Table.one_eq_head?]

/-- The second lookup returns the first candidate. -/
theorem run_eventWorkload (environmentId : Uuid) :
    (eventWorkload parseStr resourceName metadataLabels environmentId).run db =
      (.ok (workloadCandidates parseStr resourceName metadataLabels db environmentId).head?, db) := by
  have hlabelled : (labelledWorkload parseStr metadataLabels environmentId).run db =
      (.ok (labelledWorkloads parseStr metadataLabels db environmentId).head?, db) := by
    unfold labelledWorkload labelledWorkloads
    split
    · rw [Program.run_read, Table.one_eq_head?]
    · rfl
  unfold eventWorkload workloadCandidates
  rw [Program.run_bind_of_ok hlabelled]
  cases labelledWorkloads parseStr metadataLabels db environmentId with
  | nil =>
    rw [if_pos rfl, List.head?_nil]
    dsimp only
    rw [Program.run_read, Table.one_eq_head?]
  | cons row rows => rfl

/-- The workload that an event is about, if the lookups find one. -/
def pickedWorkload (parseStr : String → Option Uuid) (clusterId : Uuid)
    («namespace» resourceName : String) (metadataLabels : BTreeMap String String)
    (db : Database Text) : Option (KubeEnvironmentWorkload.Model Text) :=
  (environmentCandidates parseStr clusterId «namespace» metadataLabels db).head?.bind fun env =>
    (workloadCandidates parseStr resourceName metadataLabels db env.id).head?

/-- A workload row with ready replicas, and the other rows as they were. -/
def setReady (workloadId : Uuid) (readyReplicas : Option Int)
    (row : KubeEnvironmentWorkload.Model Text) : KubeEnvironmentWorkload.Model Text :=
  if row.id = workloadId then { row with readyReplicas } else row

theorem mem_of_mem_labelledWorkloads {environmentId : Uuid}
    {row : KubeEnvironmentWorkload.Model Text}
    (h : row ∈ labelledWorkloads parseStr metadataLabels db environmentId) :
    row ∈ db.environmentWorkloads.rows ∧ row.environmentId = environmentId := by
  unfold labelledWorkloads at h
  split at h
  · obtain ⟨hmem, hp⟩ := Table.mem_select.1 h
    simp only [Bool.and_eq_true, decide_eq_true_eq] at hp
    exact ⟨hmem, hp.1.1⟩
  · cases h

theorem mem_of_mem_workloadCandidates {environmentId : Uuid}
    {row : KubeEnvironmentWorkload.Model Text}
    (h : row ∈ workloadCandidates parseStr resourceName metadataLabels db environmentId) :
    row ∈ db.environmentWorkloads.rows ∧ row.environmentId = environmentId := by
  unfold workloadCandidates at h
  split at h
  · obtain ⟨hmem, hp⟩ := Table.mem_select.1 h
    simp only [Bool.and_eq_true, decide_eq_true_eq] at hp
    exact ⟨hmem, hp.1.1⟩
  · exact mem_of_mem_labelledWorkloads h

/-- What the picked workload is picked from. -/
theorem pickedWorkload_eq_some {row : KubeEnvironmentWorkload.Model Text}
    (h : pickedWorkload parseStr clusterId «namespace» resourceName metadataLabels db = some row) :
    ∃ env ∈ environmentCandidates parseStr clusterId «namespace» metadataLabels db,
      row ∈ workloadCandidates parseStr resourceName metadataLabels db env.id := by
  obtain ⟨env, henv, hrow⟩ := Option.bind_eq_some_iff.1 h
  exact ⟨env, List.mem_of_head? henv, List.mem_of_head? hrow⟩

theorem pickedWorkload_eq_none
    (h : pickedWorkload parseStr clusterId «namespace» resourceName metadataLabels db = none) :
    environmentCandidates parseStr clusterId «namespace» metadataLabels db = [] ∨
      ∃ env ∈ environmentCandidates parseStr clusterId «namespace» metadataLabels db,
        workloadCandidates parseStr resourceName metadataLabels db env.id = [] := by
  unfold pickedWorkload at h
  cases henv : (environmentCandidates parseStr clusterId «namespace» metadataLabels db).head? with
  | none => exact .inl (List.head?_eq_none_iff.1 henv)
  | some env =>
    rw [henv, Option.bind_some] at h
    exact .inr ⟨env, List.mem_of_head? henv, List.head?_eq_none_iff.1 h⟩

/-- The update of a row's ready replicas succeeds. -/
theorem updateMany_readyReplicas_ok (t : Table (KubeEnvironmentWorkload.Model Text))
    (workloadId : Uuid) (readyReplicas : Option Int) :
    ∃ t', t.updateMany (fun row => row.id = workloadId) (fun row => { row with readyReplicas }) =
      .ok t' := by
  refine Table.updateMany_of_conflict_imp fun row _ row' _ hc => ?_
  have hkeeps : ∀ row : KubeEnvironmentWorkload.Model Text, ∃ r,
      (if decide (row.id = workloadId) then { row with readyReplicas } else row) =
        { row with readyReplicas := r } := by
    intro row
    split
    · exact ⟨_, rfl⟩
    · exact ⟨row.readyReplicas, rfl⟩
  obtain ⟨r, hr⟩ := hkeeps row
  obtain ⟨r', hr'⟩ := hkeeps row'
  rw [hr, hr'] at hc
  exact hc

/-- **The update** sets the ready replicas of the picked workload, if there is one. -/
theorem run_updateEnvironmentWorkloadReadyReplicas (parseStr : String → Option Uuid)
    (clusterId : Uuid) («namespace» resourceName : String)
    (metadataLabels : BTreeMap String String) (readyReplicas : Option Int) (db : Database Text) :
    ∃ t, (updateEnvironmentWorkloadReadyReplicas parseStr clusterId «namespace» resourceName
        metadataLabels readyReplicas).run db = (.ok ⟨⟩, { db with environmentWorkloads := t }) ∧
      t.rows = match pickedWorkload parseStr clusterId «namespace» resourceName metadataLabels db with
        | none => db.environmentWorkloads.rows
        | some row => db.environmentWorkloads.rows.map (setReady row.id readyReplicas) := by
  unfold updateEnvironmentWorkloadReadyReplicas
  rw [Program.run_bind_of_ok run_eventEnvironment, pickedWorkload]
  cases henv : (environmentCandidates parseStr clusterId «namespace» metadataLabels db).head? with
  | none => exact ⟨_, rfl, rfl⟩
  | some env =>
    rw [Option.bind_some]
    dsimp only
    rw [Program.run_bind_of_ok (run_eventWorkload env.id)]
    cases hrow : (workloadCandidates parseStr resourceName metadataLabels db env.id).head? with
    | none => exact ⟨_, rfl, rfl⟩
    | some row =>
      have hmem := (mem_of_mem_workloadCandidates (List.mem_of_head? hrow)).1
      dsimp only
      split
      · next hready =>
        refine ⟨_, rfl, (List.map_id _).symm.trans (List.map_congr_left fun row' hrow' => ?_)⟩
        rw [setReady]
        split
        · next hid =>
          cases Table.eq_of_conflict hrow' hmem (.inl hid)
          rw [← hready]
          rfl
        · rfl
      · obtain ⟨t, ht⟩ := updateMany_readyReplicas_ok db.environmentWorkloads row.id readyReplicas
        have hrun := Table.updateOne_eq_ok.2 ⟨⟨row, hmem, decide_eq_true rfl⟩, ht⟩
        refine ⟨t, Database.run_statement_ok hrun, ?_⟩
        rw [Table.rows_updateMany ht]
        simp [setReady]

/-- Setting the ready replicas of one row or of another comes to the same where it is one row, or
neither changes. -/
theorem map_setReady_eq_iff {rows : List (KubeEnvironmentWorkload.Model Text)}
    {row target : KubeEnvironmentWorkload.Model Text} {readyReplicas : Option Int}
    (hrow : row ∈ rows) (htarget : target ∈ rows)
    (hunique : ∀ r ∈ rows, ∀ r' ∈ rows, r.id = r'.id → r = r') :
    rows.map (setReady row.id readyReplicas) = rows.map (setReady target.id readyReplicas) ↔
      row.id = target.id ∨
        row.readyReplicas = readyReplicas ∧ target.readyReplicas = readyReplicas := by
  rw [List.map_inj_left]
  constructor
  · intro h
    refine or_iff_not_imp_left.2 fun hne => ⟨?_, ?_⟩
    · have := h row hrow
      rw [setReady, if_pos rfl, setReady, if_neg hne] at this
      exact (congrArg (·.readyReplicas) this).symm
    · have := h target htarget
      rw [setReady, if_neg (Ne.symm hne), setReady, if_pos rfl] at this
      exact congrArg (·.readyReplicas) this
  · rintro (heq | ⟨hready, hready'⟩) r hr
    · rw [heq]
    · have hsame : ∀ r' ∈ rows, r'.readyReplicas = readyReplicas →
          setReady r'.id readyReplicas r = r := by
        intro r' hr' hr'ready
        rw [setReady]
        split
        · next hid =>
          cases hunique r hr r' hr' hid
          rw [← hr'ready]
        · rfl
      rw [hsame row hrow hready, hsame target htarget hready']

/-- Setting the ready replicas of a row changes nothing where it has them. -/
theorem map_setReady_eq_self_iff {rows : List (KubeEnvironmentWorkload.Model Text)}
    {target : KubeEnvironmentWorkload.Model Text} {readyReplicas : Option Int}
    (htarget : target ∈ rows) (hunique : ∀ r ∈ rows, ∀ r' ∈ rows, r.id = r'.id → r = r') :
    rows = rows.map (setReady target.id readyReplicas) ↔ target.readyReplicas = readyReplicas := by
  constructor
  · intro h
    have := List.map_inj_left.1 ((List.map_id rows).trans h) target htarget
    rw [setReady, if_pos rfl] at this
    exact congrArg (·.readyReplicas) this
  · intro hready
    refine (List.map_id _).symm.trans (List.map_congr_left fun r hr => ?_)
    rw [setReady]
    split
    · next hid =>
      cases hunique r hr target htarget hid
      rw [← hready]
      rfl
    · rfl

end

/-! ## Orders of the rows -/

/-- The same database, with the environments and their workloads in some order. -/
structure EnvironmentsReordered (db db' : Database Text) : Prop where
  environments : db'.environments.rows.Perm db.environments.rows
  environmentWorkloads : db'.environmentWorkloads.rows.Perm db.environmentWorkloads.rows
  others : db' = { db with
    environments := db'.environments, environmentWorkloads := db'.environmentWorkloads }

section
variable {parseStr : String → Option Uuid} {clusterId : Uuid} {«namespace» resourceName : String}
  {metadataLabels : BTreeMap String String} {db db' : Database Text}

theorem EnvironmentsReordered.environmentCandidates_perm (h : EnvironmentsReordered db db') :
    (environmentCandidates parseStr clusterId «namespace» metadataLabels db').Perm
      (environmentCandidates parseStr clusterId «namespace» metadataLabels db) := by
  unfold environmentCandidates
  split <;> exact h.environments.filter _

theorem EnvironmentsReordered.labelledWorkloads_perm (h : EnvironmentsReordered db db')
    (environmentId : Uuid) :
    (labelledWorkloads parseStr metadataLabels db' environmentId).Perm
      (labelledWorkloads parseStr metadataLabels db environmentId) := by
  unfold labelledWorkloads
  split
  · exact h.environmentWorkloads.filter _
  · exact .nil

theorem EnvironmentsReordered.workloadCandidates_perm (h : EnvironmentsReordered db db')
    (environmentId : Uuid) :
    (workloadCandidates parseStr resourceName metadataLabels db' environmentId).Perm
      (workloadCandidates parseStr resourceName metadataLabels db environmentId) := by
  have hperm : (labelledWorkloads parseStr metadataLabels db' environmentId).Perm
      (labelledWorkloads parseStr metadataLabels db environmentId) :=
    h.labelledWorkloads_perm environmentId
  unfold workloadCandidates
  by_cases hnil : labelledWorkloads parseStr metadataLabels db environmentId = []
  · rw [if_pos hnil, if_pos (hnil ▸ hperm).eq_nil]
    exact h.environmentWorkloads.filter _
  · rw [if_neg hnil, if_neg fun hnil' => hnil (hnil' ▸ hperm).symm.eq_nil]
    exact hperm

/-- Each candidate for the environment comes first in some order. -/
theorem exists_environments {env : KubeEnvironment.Model}
    (h : env ∈ environmentCandidates parseStr clusterId «namespace» metadataLabels db) :
    ∃ t : Table KubeEnvironment.Model, t.rows.Perm db.environments.rows ∧
      ∀ t' : Table (KubeEnvironmentWorkload.Model Text),
        (environmentCandidates parseStr clusterId «namespace» metadataLabels
          { db with environments := t, environmentWorkloads := t' }).head? = some env := by
  unfold environmentCandidates at h ⊢
  split at h
  · obtain ⟨t, hperm, hhead⟩ := Table.exists_head_of_mem_select h
    exact ⟨t, hperm, fun _ => hhead⟩
  · obtain ⟨t, hperm, hhead⟩ := Table.exists_head_of_mem_select h
    exact ⟨t, hperm, fun _ => hhead⟩

/-- Each candidate for the workload comes first in some order. -/
theorem exists_environmentWorkloads {environmentId : Uuid}
    {row : KubeEnvironmentWorkload.Model Text}
    (h : row ∈ workloadCandidates parseStr resourceName metadataLabels db environmentId) :
    ∃ t' : Table (KubeEnvironmentWorkload.Model Text), t'.rows.Perm db.environmentWorkloads.rows ∧
      ∀ t : Table KubeEnvironment.Model,
        (workloadCandidates parseStr resourceName metadataLabels
          { db with environments := t, environmentWorkloads := t' } environmentId).head? =
            some row := by
  unfold workloadCandidates at h
  by_cases hnil : labelledWorkloads parseStr metadataLabels db environmentId = []
  · rw [if_pos hnil] at h
    obtain ⟨t', hperm, hhead⟩ := Table.exists_head_of_mem_select h
    refine ⟨t', hperm, fun t => ?_⟩
    have hlabelled : labelledWorkloads parseStr metadataLabels
        { db with environments := t, environmentWorkloads := t' } environmentId = [] := by
      have hreordered : EnvironmentsReordered { db with environments := t }
          { db with environments := t, environmentWorkloads := t' } := ⟨.refl _, hperm, rfl⟩
      exact (hnil ▸ hreordered.labelledWorkloads_perm environmentId : List.Perm _ []).eq_nil
    rw [workloadCandidates, if_pos hlabelled]
    exact hhead
  · rw [if_neg hnil] at h
    have hsplit : ∃ t' : Table (KubeEnvironmentWorkload.Model Text),
        t'.rows.Perm db.environmentWorkloads.rows ∧ ∀ t : Table KubeEnvironment.Model,
          (labelledWorkloads parseStr metadataLabels
            { db with environments := t, environmentWorkloads := t' } environmentId).head? =
              some row := by
      unfold labelledWorkloads at h ⊢
      split at h
      · obtain ⟨t', hperm, hhead⟩ := Table.exists_head_of_mem_select h
        exact ⟨t', hperm, fun _ => hhead⟩
      · cases h
    obtain ⟨t', hperm, hhead⟩ := hsplit
    refine ⟨t', hperm, fun t => ?_⟩
    rw [workloadCandidates, if_neg fun hnil' => ?_]
    · exact hhead t
    · have := hhead t
      rw [hnil'] at this
      cases this

/-! ## Attribution -/

/-- In every order of the rows, the update sets the ready replicas of the target, and no other
row. -/
def Attributed (parseStr : String → Option Uuid) (clusterId : Uuid)
    («namespace» resourceName : String) (metadataLabels : BTreeMap String String)
    (readyReplicas : Option Int) (db : Database Text)
    (target : KubeEnvironmentWorkload.Model Text) : Prop :=
  ∀ db', EnvironmentsReordered db db' →
    ∃ t, (updateEnvironmentWorkloadReadyReplicas parseStr clusterId «namespace» resourceName
        metadataLabels readyReplicas).run db' = (.ok ⟨⟩, { db' with environmentWorkloads := t }) ∧
      t.rows = db'.environmentWorkloads.rows.map (setReady target.id readyReplicas)

/-- The lookups in an environment return the target in every order. -/
def Sole (parseStr : String → Option Uuid) (resourceName : String)
    (metadataLabels : BTreeMap String String) (db : Database Text) (environmentId : Uuid)
    (target : KubeEnvironmentWorkload.Model Text) : Prop :=
  workloadCandidates parseStr resourceName metadataLabels db environmentId ≠ [] ∧
    ∀ row ∈ workloadCandidates parseStr resourceName metadataLabels db environmentId,
      row.id = target.id

/-- The target and whatever the lookups may return in an environment already have the ready
replicas. -/
def Unchanged (parseStr : String → Option Uuid) (resourceName : String)
    (metadataLabels : BTreeMap String String) (readyReplicas : Option Int) (db : Database Text)
    (environmentId : Uuid) (target : KubeEnvironmentWorkload.Model Text) : Prop :=
  target.readyReplicas = readyReplicas ∧
    ∀ row ∈ workloadCandidates parseStr resourceName metadataLabels db environmentId,
      row.readyReplicas = readyReplicas

variable {readyReplicas : Option Int} {target : KubeEnvironmentWorkload.Model Text}

/-- In one order of the rows. -/
theorem attributed_in_order_iff (htarget : target ∈ db'.environmentWorkloads.rows) :
    (∃ t, (updateEnvironmentWorkloadReadyReplicas parseStr clusterId «namespace» resourceName
        metadataLabels readyReplicas).run db' = (.ok ⟨⟩, { db' with environmentWorkloads := t }) ∧
      t.rows = db'.environmentWorkloads.rows.map (setReady target.id readyReplicas)) ↔
    match pickedWorkload parseStr clusterId «namespace» resourceName metadataLabels db' with
    | none => target.readyReplicas = readyReplicas
    | some row => row.id = target.id ∨
        row.readyReplicas = readyReplicas ∧ target.readyReplicas = readyReplicas := by
  obtain ⟨t, hrun, hrows⟩ := run_updateEnvironmentWorkloadReadyReplicas parseStr clusterId
    «namespace» resourceName metadataLabels readyReplicas db'
  have hunique : ∀ r ∈ db'.environmentWorkloads.rows, ∀ r' ∈ db'.environmentWorkloads.rows,
      r.id = r'.id → r = r' := fun r hr r' hr' hid => Table.eq_of_conflict hr hr' (.inl hid)
  have htable : (∃ t, (updateEnvironmentWorkloadReadyReplicas parseStr clusterId «namespace»
        resourceName metadataLabels readyReplicas).run db' =
          (.ok ⟨⟩, { db' with environmentWorkloads := t }) ∧
        t.rows = db'.environmentWorkloads.rows.map (setReady target.id readyReplicas)) ↔
      t.rows = db'.environmentWorkloads.rows.map (setReady target.id readyReplicas) := by
    constructor
    · rintro ⟨t', hrun', hrows'⟩
      have hdb := congrArg (·.2.environmentWorkloads) (hrun.symm.trans hrun')
      exact (congrArg Table.rows hdb).trans hrows'
    · exact fun h => ⟨t, hrun, h⟩
  rw [htable, hrows]
  cases hpicked : pickedWorkload parseStr clusterId «namespace» resourceName metadataLabels db' with
  | none => exact map_setReady_eq_self_iff htarget hunique
  | some row =>
    obtain ⟨env, -, hrow⟩ := pickedWorkload_eq_some hpicked
    exact map_setReady_eq_iff (mem_of_mem_workloadCandidates hrow).1 htarget hunique

/-- In all orders: each candidate is the target, or nothing changes. -/
theorem attributed_iff_candidates (htarget : target ∈ db.environmentWorkloads.rows) :
    Attributed parseStr clusterId «namespace» resourceName metadataLabels readyReplicas db target ↔
      (environmentCandidates parseStr clusterId «namespace» metadataLabels db = [] →
        target.readyReplicas = readyReplicas) ∧
      ∀ env ∈ environmentCandidates parseStr clusterId «namespace» metadataLabels db,
        Sole parseStr resourceName metadataLabels db env.id target ∨
          Unchanged parseStr resourceName metadataLabels readyReplicas db env.id target := by
  have hin : ∀ db', EnvironmentsReordered db db' → target ∈ db'.environmentWorkloads.rows :=
    fun db' h => h.environmentWorkloads.mem_iff.2 htarget
  constructor
  · intro h
    refine ⟨fun hnil => ?_, fun env henv => ?_⟩
    · have := (attributed_in_order_iff htarget).1 (h db ⟨.refl _, .refl _, rfl⟩)
      rwa [pickedWorkload, hnil] at this
    obtain ⟨t, hperm, henvHead⟩ := exists_environments henv
    have hpicked : ∀ row ∈ workloadCandidates parseStr resourceName metadataLabels db env.id,
        row.id = target.id ∨
          row.readyReplicas = readyReplicas ∧ target.readyReplicas = readyReplicas := by
      intro row hrow
      obtain ⟨t', hperm', hrowHead⟩ := exists_environmentWorkloads hrow
      let db' : Database Text := { db with environments := t, environmentWorkloads := t' }
      have hreordered : EnvironmentsReordered db db' := ⟨hperm, hperm', rfl⟩
      have := (attributed_in_order_iff (hin db' hreordered)).1 (h db' hreordered)
      rwa [pickedWorkload, henvHead, Option.bind_some, hrowHead] at this
    by_cases hready : target.readyReplicas = readyReplicas
    · -- a candidate that is the target has the replicas of the target
      refine .inr ⟨hready, fun row hrow => ?_⟩
      rcases hpicked row hrow with hid | hboth
      · cases Table.eq_of_conflict (mem_of_mem_workloadCandidates hrow).1 htarget (.inl hid)
        exact hready
      · exact hboth.1
    · refine .inl ⟨fun hnil => hready ?_, fun row hrow => ?_⟩
      · let db' : Database Text := { db with environments := t }
        have hreordered : EnvironmentsReordered db db' := ⟨hperm, .refl _, rfl⟩
        have := (attributed_in_order_iff (hin db' hreordered)).1 (h db' hreordered)
        have hhead : (workloadCandidates parseStr resourceName metadataLabels db' env.id).head? =
            none := congrArg List.head? hnil
        rwa [pickedWorkload, henvHead, Option.bind_some, hhead] at this
      · exact (hpicked row hrow).resolve_right fun hboth => hready hboth.2
  · rintro ⟨hempty, hcandidates⟩ db' hreordered
    refine (attributed_in_order_iff (hin db' hreordered)).2 ?_
    cases hpicked : pickedWorkload parseStr clusterId «namespace» resourceName metadataLabels db' with
    | none =>
      rcases pickedWorkload_eq_none hpicked with hnil | ⟨env, henv, hnil⟩
      · exact hempty (hnil ▸ hreordered.environmentCandidates_perm).symm.eq_nil
      · rcases hcandidates env (hreordered.environmentCandidates_perm.mem_iff.1 henv) with hsole | hsame
        · exact absurd (hnil ▸ hreordered.workloadCandidates_perm env.id).symm.eq_nil hsole.1
        · exact hsame.1
    | some row =>
      obtain ⟨env, henv, hrow⟩ := pickedWorkload_eq_some hpicked
      have hrow' := (hreordered.workloadCandidates_perm env.id).mem_iff.1 hrow
      rcases hcandidates env (hreordered.environmentCandidates_perm.mem_iff.1 henv) with hsole | hsame
      · exact .inl (hsole.2 row hrow')
      · exact .inr ⟨hsame.2 row hrow', hsame.1⟩

/-- The target is a workload of the environment in which it is the sole candidate. -/
theorem Sole.environmentId_eq {environmentId : Uuid} (htarget : target ∈ db.environmentWorkloads.rows)
    (h : Sole parseStr resourceName metadataLabels db environmentId target) :
    target.environmentId = environmentId := by
  obtain ⟨row, hrow⟩ := List.exists_mem_of_ne_nil _ h.1
  obtain ⟨hmem, henv⟩ := mem_of_mem_workloadCandidates hrow
  cases Table.eq_of_conflict hmem htarget (.inl (h.2 row hrow))
  exact henv

/-- A sole candidate that has the ready replicas stays unchanged. -/
theorem Sole.unchanged {environmentId : Uuid} (htarget : target ∈ db.environmentWorkloads.rows)
    (h : Sole parseStr resourceName metadataLabels db environmentId target)
    (hready : target.readyReplicas = readyReplicas) :
    Unchanged parseStr resourceName metadataLabels readyReplicas db environmentId target := by
  refine ⟨hready, fun row hrow => ?_⟩
  cases Table.eq_of_conflict (mem_of_mem_workloadCandidates hrow).1 htarget (.inl (h.2 row hrow))
  exact hready

/-- The only candidate. -/
theorem Sole.of_ids {environmentId : Uuid}
    (hids : (workloadCandidates parseStr resourceName metadataLabels db environmentId).map (·.id) =
      [target.id]) :
    Sole parseStr resourceName metadataLabels db environmentId target := by
  refine ⟨fun hnil => ?_, fun row hrow => ?_⟩
  · rw [hnil] at hids
    cases hids
  · exact List.mem_singleton.1 (hids ▸ List.mem_map_of_mem hrow)

/-- A live environment in a namespace of a cluster. -/
def LiveIn (clusterId : Uuid) («namespace» : String) (env : KubeEnvironment.Model) : Prop :=
  env.deletedAt = none ∧ env.clusterId = clusterId ∧ env.namespace = «namespace»

/-- **Attribution of ready replicas.** An event without a branch label updates the base workload it
is about, and no other row, in every order of the rows exactly if the base is the only live
environment of its namespace and the lookups return no other workload of it, or nothing changes. An
event of a branch updates the workload of the branch exactly if the lookups return no other workload
of the branch, or nothing changes. -/
theorem attributed_iff (htarget : target ∈ db.environmentWorkloads.rows) :
    (∀ base ∈ db.environments.rows, LiveIn clusterId «namespace» base →
      target.environmentId = base.id → branchEnvironmentId parseStr metadataLabels = none →
        (Attributed parseStr clusterId «namespace» resourceName metadataLabels readyReplicas db
            target ↔
          ((∀ env ∈ db.environments.rows, LiveIn clusterId «namespace» env → env = base) ∧
            Sole parseStr resourceName metadataLabels db base.id target) ∨
          ∀ env ∈ db.environments.rows, LiveIn clusterId «namespace» env →
            Unchanged parseStr resourceName metadataLabels readyReplicas db env.id target)) ∧
    (∀ branch ∈ db.environments.rows, branch.deletedAt = none → branch.clusterId = clusterId →
      branchEnvironmentId parseStr metadataLabels = some branch.id →
        (Attributed parseStr clusterId «namespace» resourceName metadataLabels readyReplicas db
            target ↔
          Sole parseStr resourceName metadataLabels db branch.id target ∨
          Unchanged parseStr resourceName metadataLabels readyReplicas db branch.id target)) := by
  refine ⟨fun base hbase hbaseLive hbaseId hlabel => ?_, fun branch hbranch hlive hcluster hlabel => ?_⟩
  · have hmem : ∀ env, env ∈ environmentCandidates parseStr clusterId «namespace» metadataLabels db ↔
        env ∈ db.environments.rows ∧ LiveIn clusterId «namespace» env := by
      intro env
      simp only [environmentCandidates, hlabel, Table.mem_select, Bool.and_eq_true,
        decide_eq_true_eq, LiveIn]
      tauto
    rw [attributed_iff_candidates htarget]
    have hne : environmentCandidates parseStr clusterId «namespace» metadataLabels db ≠ [] :=
      List.ne_nil_of_mem ((hmem base).2 ⟨hbase, hbaseLive⟩)
    rw [and_iff_right fun hnil => absurd hnil hne]
    constructor
    · intro h
      by_cases hready : target.readyReplicas = readyReplicas
      · refine .inr fun env henv hlive => ?_
        exact (h env ((hmem env).2 ⟨henv, hlive⟩)).elim (·.unchanged htarget hready) id
      · have hsole : ∀ env ∈ db.environments.rows, LiveIn clusterId «namespace» env →
            Sole parseStr resourceName metadataLabels db env.id target := fun env henv hlive =>
          (h env ((hmem env).2 ⟨henv, hlive⟩)).resolve_right fun hsame => hready hsame.1
        refine .inl ⟨fun env henv hlive => ?_, hsole base hbase hbaseLive⟩
        have hid := (hsole env henv hlive).environmentId_eq htarget
        exact Table.eq_of_conflict henv hbase (.inl (hid.symm.trans hbaseId))
    · rintro (⟨honly, hsole⟩ | hsame) env henv
      · obtain ⟨henv, hlive⟩ := (hmem env).1 henv
        exact .inl (honly env henv hlive ▸ hsole)
      · obtain ⟨henv, hlive⟩ := (hmem env).1 henv
        exact .inr (hsame env henv hlive)
  · have hmem : ∀ env, env ∈ environmentCandidates parseStr clusterId «namespace» metadataLabels db ↔
        env = branch := by
      intro env
      simp only [environmentCandidates, hlabel, Table.mem_select, Bool.and_eq_true,
        decide_eq_true_eq]
      constructor
      · rintro ⟨henv, ⟨hid, -⟩, -⟩
        exact Table.eq_of_conflict henv hbranch (.inl hid)
      · rintro rfl
        exact ⟨hbranch, ⟨rfl, hlive⟩, hcluster⟩
    rw [attributed_iff_candidates htarget]
    have hne : environmentCandidates parseStr clusterId «namespace» metadataLabels db ≠ [] :=
      List.ne_nil_of_mem ((hmem branch).2 rfl)
    rw [and_iff_right fun hnil => absurd hnil hne]
    simp only [hmem, forall_eq]

end

/-! ## A base environment and a branch of it -/

/-- The base environment of the namespace `prod`, or a branch of it. -/
def prodEnvironment (id : Uuid) (baseEnvironmentId : Option Uuid) : KubeEnvironment.Model :=
  { id
    deletedAt := none
    organizationId := 7
    userId := 8
    appCatalogId := 1
    clusterId := 5
    name := "prod"
    «namespace» := "prod"
    status := "Running"
    isShared := baseEnvironmentId = none
    catalogSyncVersion := 1
    lastCatalogSyncedAt := none
    syncStatus := "idle"
    baseEnvironmentId
    authToken := "t" }

/-- The workload `web` of an environment, not ready yet. -/
def prodWeb (id environmentId : Uuid) (baseWorkloadId : Option Uuid) :
    KubeEnvironmentWorkload.Model PUnit :=
  { id
    createdAt := 1
    deletedAt := none
    environmentId
    baseWorkloadId
    name := "web"
    «namespace» := "prod"
    kind := "Deployment"
    containers := []
    ports := []
    workloadYaml := ⟨⟩
    catalogSyncVersion := 1
    readyReplicas := none }

/-- The base environment alone. -/
def prodAlone : Database PUnit :=
  { Database.empty PUnit with
    environments := ⟨[prodEnvironment 1 none], List.pairwise_singleton _ _⟩
    environmentWorkloads := ⟨[prodWeb 21 1 none], List.pairwise_singleton _ _⟩ }

/-- The base environment with a branch that overrides its workload. -/
def prodBranched : Database PUnit :=
  { Database.empty PUnit with
    environments := ⟨[prodEnvironment 2 (some 1), prodEnvironment 1 none], by decide⟩
    environmentWorkloads := ⟨[prodWeb 21 1 none, prodWeb 22 2 (some 21)], by decide⟩ }

/-- `Uuid::parse_str` of the two identifiers in use. -/
def parseProdUuid (s : String) : Option Uuid :=
  if s = "00000000-0000-0000-0000-000000000002" then some 2
  else if s = "00000000-0000-0000-0000-000000000015" then some 21
  else none

/-- The labels of the deployed workload of the base environment. -/
def baseLabels : BTreeMap String String :=
  HashTable.collect [("app", "web"), ("lapdev.managed-by", "lapdev")]

/-- The labels of the deployed override of the branch. -/
def branchLabels : BTreeMap String String :=
  HashTable.collect [("lapdev.base-workload-id", "00000000-0000-0000-0000-000000000015"),
    ("lapdev.io/branch-environment-id", "00000000-0000-0000-0000-000000000002")]

/-- Without a branch the base workload is updated, and with one the override. -/
theorem attributed_web :
    Attributed parseProdUuid 5 "prod" "web" baseLabels (some 1) prodAlone (prodWeb 21 1 none) ∧
      Attributed parseProdUuid 5 "prod" "web" branchLabels (some 1) prodBranched
        (prodWeb 22 2 (some 21)) := by
  constructor
  · have hsole : Sole parseProdUuid "web" baseLabels prodAlone 1 (prodWeb 21 1 none) :=
      Sole.of_ids (by decide +kernel)
    refine ((attributed_iff (List.mem_singleton.2 rfl)).1 (prodEnvironment 1 none)
      (List.mem_singleton.2 rfl) ⟨rfl, rfl, rfl⟩ rfl (by decide +kernel)).2 (.inl ⟨?_, hsole⟩)
    exact fun env henv _ => List.mem_singleton.1 henv
  · have hsole : Sole parseProdUuid "web" branchLabels prodBranched 2 (prodWeb 22 2 (some 21)) :=
      Sole.of_ids (by decide +kernel)
    exact ((attributed_iff (.tail _ (.head _))).2 (prodEnvironment 2 (some 1)) (.head _) rfl rfl
      (by decide +kernel)).2 (.inl hsole)

/-- The row of a branch comes first, and the event of the base workload updates the override. -/
theorem branch_takes_event :
    ¬∀ (parseStr : String → Option Uuid) (clusterId : Uuid) («namespace» resourceName : String)
      (metadataLabels : BTreeMap String String) (readyReplicas : Option Int) (db : Database PUnit),
      ∀ base ∈ db.environments.rows, base.baseEnvironmentId = none →
        LiveIn clusterId «namespace» base → branchEnvironmentId parseStr metadataLabels = none →
          ∀ target ∈ db.environmentWorkloads.rows, target.deletedAt = none →
            target.environmentId = base.id → target.name = resourceName →
              Attributed parseStr clusterId «namespace» resourceName metadataLabels readyReplicas db
                target := by
  intro h
  have hattributed := h parseProdUuid 5 "prod" "web" baseLabels (some 1) prodBranched
    (prodEnvironment 1 none) (.tail _ (.head _)) rfl ⟨rfl, rfl, rfl⟩ (by decide +kernel)
    (prodWeb 21 1 none) (.head _) rfl rfl rfl
  have hpicked := (attributed_in_order_iff (.head _)).1
    (hattributed prodBranched ⟨.refl _, .refl _, rfl⟩)
  have hid : (pickedWorkload parseProdUuid 5 "prod" "web" baseLabels prodBranched).map (·.id) =
      some 22 := by decide +kernel
  obtain ⟨row, hrow, hrowId⟩ := Option.map_eq_some_iff.1 hid
  rw [hrow] at hpicked
  rcases hpicked with hsame | ⟨-, hready⟩
  · exact absurd (hrowId.symm.trans hsame) (by decide)
  · cases hready

end KubeClusterServer

end Lapdev
