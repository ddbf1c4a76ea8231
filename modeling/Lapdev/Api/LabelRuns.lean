import Lapdev.Api.SyncLabels

/-!
# Labels in every reachable database

The queries that write workload rows of environments as calls, and `labelsCurrent_of_run`: in every
run from an empty database whose syncs deploy unlabelled workloads, every live workload has its
stored labels as its label rows, and the query that decides the branch routes returns them.
-/

namespace Lapdev

open RustStd Sql Programs Runs

/-- A call of one of the queries that write workload rows, at the time `now`. -/
inductive EnvironmentCall (Text : Type)
  | createKubeEnvironment (environmentId orgId userId appCatalogId clusterId : Uuid)
      (name «namespace» status : String) (isShared : Bool) (catalogSyncVersion : Int)
      (baseEnvironmentId : Option Uuid) (workloads : List (NewEnvironmentWorkload Text))
      (services : HashTable String (KubeServiceWithYaml Text)) (authToken : String)
  | insertEnvironmentWorkload (environmentId : Uuid) (workload : NewEnvironmentWorkload Text)
      (catalogSyncVersion : Int)
  | updateEnvironmentWorkload (workloadId : Uuid) (containers : List KubeContainerInfo)
      (workloadYaml : Text)
  | deleteEnvironmentWorkload (workloadId : Uuid)
  | updateBranchWorkloadLink (workloadId baseWorkloadId : Uuid) (catalogSyncVersion : Int)
  | updateEnvironmentWorkloadsInDb (environmentId : Uuid) (environmentNamespace : String)
      (catalogWorkloads : List (KubeAppCatalogWorkload Text))
      (workloadsToDeploy : List (NewEnvironmentWorkload Text)) (serviceNames : List String)
      (newCatalogSyncVersion : Int)

namespace EnvironmentCall

variable {Text : Type} (fromStr : Text → Option Yaml.Value)

/-- The database a call leaves. -/
def apply (now : Timestamp) (db : Database Text) : EnvironmentCall Text → Database Text
  | createKubeEnvironment environmentId orgId userId appCatalogId clusterId name «namespace» status
      isShared version baseEnvironmentId workloads services authToken =>
    ((DbApi.createKubeEnvironment fromStr environmentId orgId userId appCatalogId clusterId name
      «namespace» status isShared version baseEnvironmentId workloads services authToken now).run
      db).2
  | insertEnvironmentWorkload environmentId workload version =>
    ((DbApi.insertEnvironmentWorkload fromStr environmentId workload version now).run db).2
  | updateEnvironmentWorkload workloadId containers workloadYaml =>
    ((DbApi.updateEnvironmentWorkload fromStr workloadId containers workloadYaml now).run db).2
  | deleteEnvironmentWorkload workloadId =>
    ((DbApi.deleteEnvironmentWorkload workloadId now).run db).2
  | updateBranchWorkloadLink workloadId baseWorkloadId version =>
    ((DbApi.updateBranchWorkloadLink workloadId baseWorkloadId version).run db).2
  | updateEnvironmentWorkloadsInDb environmentId environmentNamespace catalogWorkloads
      workloadsToDeploy serviceNames version =>
    ((KubeController.updateEnvironmentWorkloadsInDb environmentId environmentNamespace
      catalogWorkloads workloadsToDeploy serviceNames version now).run db).2

/-- A step of the database: a call at a time later than every deletion before it. -/
def Step (db : Database Text) (call : EnvironmentCall Text × Timestamp) (db' : Database Text) :
    Prop :=
  db.Before call.2 ∧ db' = call.1.apply fromStr call.2 db

/-- The workloads a sync leaves live have no labels. The other calls write the labels of their
workload themselves. -/
def SyncsUnlabelled (_ : Database Text) (call : EnvironmentCall Text × Timestamp) : Prop :=
  match call.1 with
  | updateEnvironmentWorkloadsInDb _ _ _ workloadsToDeploy _ _ =>
    ∀ w ∈ KubeController.lastOfEachName workloadsToDeploy,
      KubeController.deployedLabels fromStr w = ∅
  | _ => True

variable {fromStr} {db db' : Database Text} {call : EnvironmentCall Text × Timestamp}

/-- One call keeps the invariant, one case for each of them. -/
theorem labelInvariant_step (hstep : Step fromStr db call db')
    (hguard : SyncsUnlabelled fromStr db call) (hdb : LabelInvariant fromStr db) :
    LabelInvariant fromStr db' := by
  obtain ⟨hbefore, rfl⟩ := hstep
  obtain ⟨call, now⟩ := call
  cases call with
  | createKubeEnvironment =>
    exact Preserves.run (preserves_createKubeEnvironment _ _ _ _ _ _ _ _ _ _ _ _ _ _ _) hdb
  | insertEnvironmentWorkload =>
    exact Preserves.run (preserves_insertEnvironmentWorkload _ _ _ _) hdb
  | updateEnvironmentWorkload workloadId containers workloadYaml =>
    have := triple_updateEnvironmentWorkload workloadId containers workloadYaml now db
      ⟨hdb, hbefore⟩
    simp only [apply]
    split at this
    · next h => rwa [h]
    · next h => rwa [h]
  | deleteEnvironmentWorkload =>
    exact Preserves.run (preserves_deleteEnvironmentWorkload _ _) hdb
  | updateBranchWorkloadLink =>
    exact Preserves.run (preserves_updateBranchWorkloadLink _ _ _) hdb
  | updateEnvironmentWorkloadsInDb =>
    exact Preserves.run (KubeController.triple_sync_of_unlabelled hguard) hdb

/-- The query for the labels of a workload returns its stored labels, if they are current. -/
theorem getEnvironmentWorkloadLabels_of_current {row : KubeEnvironmentWorkload.Model Text}
    (h : HasCurrentLabels fromStr db.environmentWorkloadLabels row) :
    ∃ labels, (DbApi.getEnvironmentWorkloadLabels row.id).run db = (.ok labels, db) ∧
      ∀ k, labels.lookup k = (storedLabels fromStr row).lookup k := by
  refine ⟨_, rfl, fun k => ?_⟩
  have hlive : ∀ k v, (k, v) ∈ (db.environmentWorkloadLabels.select fun label =>
        label.workloadId = row.id && label.deletedAt = none).map
          (fun label => (label.labelKey, label.labelValue)) ↔
      LiveLabel db.environmentWorkloadLabels row.id k v := by
    intro k v
    simp only [List.mem_map, Table.mem_select, Bool.and_eq_true, decide_eq_true_eq, Prod.mk.injEq]
    constructor
    · rintro ⟨label, ⟨hmem, hid, hdel⟩, hk, hv⟩
      exact ⟨label, hmem, hid, hdel, hk, hv⟩
    · rintro ⟨label, hmem, hid, hdel, hk, hv⟩
      exact ⟨label, ⟨hmem, hid, hdel⟩, hk, hv⟩
  ext v
  rw [← h k v, ← hlive]
  constructor
  · exact HashTable.mem_of_lookup_collect
  · intro hmem
    obtain ⟨v', hv'⟩ := HashTable.exists_lookup_collect hmem
    have hstored := (h k v').1 ((hlive k v').1 (HashTable.mem_of_lookup_collect hv'))
    have hstored' := (h k v).1 ((hlive k v).1 hmem)
    rwa [Option.some.inj (hstored.symm.trans hstored')] at hv'

/-- **The labels of every reachable database.** In a run whose syncs deploy unlabelled workloads,
the live label rows of every live workload are the labels of its stored kind and YAML, and
`get_environment_workload_labels` returns them. -/
theorem labelsCurrent_of_run {calls : List (EnvironmentCall Text × Timestamp)}
    (hrun : Run (Guarded (Step fromStr) (SyncsUnlabelled fromStr)) (.empty Text) calls db) :
    LabelsCurrent fromStr db ∧
      ∀ row ∈ db.environmentWorkloads.rows, row.deletedAt = none →
        ∃ labels, (DbApi.getEnvironmentWorkloadLabels row.id).run db = (.ok labels, db) ∧
          ∀ k, labels.lookup k = (storedLabels fromStr row).lookup k := by
  have hempty : LabelInvariant fromStr (.empty Text) :=
    ⟨fun _ hrow => (nomatch hrow), fun _ hrow => (nomatch hrow)⟩
  have hdb : LabelInvariant fromStr db := by
    refine Run.invariant_of_guard (LabelInvariant fromStr) ?_ hrun hempty
    intro s call s' hstep hguard hs
    exact labelInvariant_step hstep hguard hs
  exact ⟨hdb.current, fun row hrow hdel =>
    getEnvironmentWorkloadLabels_of_current (hdb.current row hrow hdel)⟩

/-! ## A sync of one labelled workload -/

/-- A Deployment manifest with given pod labels. -/
def deploymentYaml (labels : List (Yaml.Value × Yaml.Value)) : Yaml.Value :=
  .mapping [(.string "spec", .mapping [(.string "template", .mapping [(.string "metadata",
    .mapping [(.string "labels", .mapping labels)])])])]

/-- A Deployment to deploy, with given pod labels. -/
def newDeployment (id : Uuid) (name : String) (labels : List (Yaml.Value × Yaml.Value)) :
    NewEnvironmentWorkload Yaml.Value where
  id := id
  details :=
    { name := name
      «namespace» := "prod"
      kind := .deployment
      containers := []
      ports := []
      workloadYaml := deploymentYaml labels
      baseWorkloadId := none }

/-- The Deployment `web` of a catalog. -/
def webCatalogWorkload : KubeAppCatalogWorkload Yaml.Value where
  id := 9
  name := "web"
  «namespace» := "prod"
  kind := .deployment
  containers := []
  ports := []
  workloadYaml := deploymentYaml [(.string "app", .string "web")]
  catalogSyncVersion := 1

/-- The environment `dev` is created with some workloads. -/
def createDev (created : List (NewEnvironmentWorkload Yaml.Value)) : EnvironmentCall Yaml.Value :=
  .createKubeEnvironment 1 2 3 4 5 "dev" "dev" "Running" true 0 none created ∅ "token"

/-- A sync deploys some workloads into `dev`. -/
def syncDev (deployed : List (NewEnvironmentWorkload Yaml.Value)) : EnvironmentCall Yaml.Value :=
  .updateEnvironmentWorkloadsInDb 1 "dev" [webCatalogWorkload] deployed [] 1

/-- The database after both calls. -/
def syncedDev (created deployed : List (NewEnvironmentWorkload Yaml.Value)) :
    Database Yaml.Value :=
  (syncDev deployed).apply some 2 ((createDev created).apply some 1 (.empty Yaml.Value))

/-- The workload `web` is created with its label, and the unlabelled `cron` is synced. -/
theorem labelsCurrent_of_run_unlabelled :
    let web := newDeployment 7 "web" [(.string "app", .string "web")]
    let db := syncedDev [web] [newDeployment 8 "cron" []]
    LabelsCurrent some db ∧
      ∀ row ∈ db.environmentWorkloads.rows, row.deletedAt = none →
        ∃ labels, (DbApi.getEnvironmentWorkloadLabels row.id).run db = (.ok labels, db) ∧
          ∀ k, labels.lookup k = (storedLabels some row).lookup k := by
  intro web db
  have hguard : ∀ w ∈ KubeController.lastOfEachName [newDeployment 8 "cron" []],
      KubeController.deployedLabels some w = ∅ := List.forall_mem_singleton.2 rfl
  have hrun : Run (Guarded (Step some) (SyncsUnlabelled some)) (.empty Yaml.Value)
      [(createDev [web], 1), (syncDev [newDeployment 8 "cron" []], 2)] db :=
    .cons ⟨⟨by decide, rfl⟩, trivial⟩ (.cons ⟨⟨by decide, rfl⟩, hguard⟩ .nil)
  exact labelsCurrent_of_run hrun

/-- After `web` is synced with its label, its live row has no label row. -/
theorem sync_loses_labels :
    ¬∀ calls db, Run (Step some) (.empty Yaml.Value) calls db → LabelsCurrent some db := by
  intro h
  let web := newDeployment 7 "web" [(.string "app", .string "web")]
  have hcurrent := h [(createDev [], 1), (syncDev [web], 2)] (syncedDev [] [web])
    (.cons ⟨by decide, rfl⟩ (.cons ⟨by decide, rfl⟩ .nil))
  have hlive := (hcurrent (KubeController.syncedModel 1 "dev" web 1 2) (.head _) rfl
    "app" "web").2 rfl
  obtain ⟨label, hlabel, -⟩ := hlive
  cases hlabel

end EnvironmentCall

end Lapdev
