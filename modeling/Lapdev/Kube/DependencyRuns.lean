import Lapdev.Kube.DependencyCalls

/-!
# Dependency events over whole runs

The calls on catalogs and their workloads and the events of the cluster as steps, with what was last
seen of every workload beside the database. After every run an event of a config map or a secret is
exact precisely where no stale workload depends on the resource alone (`exact_iff_of_run`). A
deleted catalog is enough to make the handler fail before it reaches a live one
(`dependencyEvent_inexact`).
-/

namespace Lapdev

open RustStd Sql Programs Runs

/-- A call that writes catalogs, an event of the cluster, or a call on environments, which may leave
anything in their tables. -/
inductive DependencyCall (Text Json : Type)
  | catalog (call : CatalogCall Text Json)
  | addWorkloadsToAppCatalog (orgId catalogId : Uuid)
      (enriched : Except ApiError (List (Uuid × KubeWorkloadDetails Text))) (now : Timestamp)
  | deleteAppCatalogWorkload (orgId workloadId : Uuid) (now : Timestamp)
  | updateAppCatalogWorkload (orgId workloadId : Uuid) (containers : List KubeContainerInfo)
      (now : Timestamp)
  | handleDependencyChange (clusterId : Uuid) (event : ResourceChangeEvent)
      (resourceType : DependencyType)
  | environment (environments : Table KubeEnvironment.Model)
      (environmentWorkloads : Table (KubeEnvironmentWorkload.Model Text))
      (environmentWorkloadLabels : Table KubeEnvironmentWorkloadLabel.Model)
      (environmentServices : Table (KubeEnvironmentService.Model Text))

namespace DependencyCall

variable {Text Json : Type} [DecidableEq Json]

section
variable (serde : SerdeParsers Text Json)
  (validateContainers : List KubeContainerInfo → Except ApiError PUnit)

/-- The database a call leaves, whether it succeeds or not. -/
def apply (rs : RandomState ((_ : Uuid) × List Uuid)) (db : Database Text) :
    DependencyCall Text Json → Database Text
  | catalog call => call.apply serde rs db
  | addWorkloadsToAppCatalog orgId catalogId enriched now =>
    ((KubeController.addWorkloadsToAppCatalog serde.fromStr orgId catalogId enriched now).run db).2
  | deleteAppCatalogWorkload orgId workloadId now =>
    ((KubeController.deleteAppCatalogWorkload orgId workloadId now).run db).2
  | updateAppCatalogWorkload orgId workloadId containers now =>
    ((KubeController.updateAppCatalogWorkload validateContainers orgId workloadId containers
      now).run db).2
  | handleDependencyChange clusterId event resourceType =>
    ((KubeClusterServer.handleDependencyChange clusterId rs event resourceType).run db).2
  | environment environments environmentWorkloads environmentWorkloadLabels environmentServices =>
    { db with environments, environmentWorkloads, environmentWorkloadLabels, environmentServices }

/-- What was last seen of the workloads after a call from `db` to `db'`. -/
def observe (db db' : Database Text) (refs : Uuid → BTreeSet String × BTreeSet String) :
    DependencyCall Text Json → Uuid → BTreeSet String × BTreeSet String
  | catalog (.createAppCatalog _ _ _ workloads _ _) =>
    Observed.afterInsertion serde.fromStr workloads db db' refs
  | catalog (.syncCatalogFromWorkloadEvent clusterId event workloadKind new) =>
    Observed.eventRefs workloadKind new (KubeClusterServer.eventWorkloads clusterId event db) refs
  | addWorkloadsToAppCatalog _ _ enriched _ =>
    Observed.afterInsertion serde.fromStr (Observed.enrichedWorkloads enriched) db db' refs
  | _ => refs

/-- A call with some order of the hash map. -/
def Step (s : Observed Text) (call : DependencyCall Text Json) (s' : Observed Text) : Prop :=
  ∃ rs, s'.db = call.apply serde validateContainers rs s.db ∧
    s'.refs = call.observe serde s.db s'.db s.refs

/-- Before the first call. -/
def start : Observed Text := ⟨.empty Text, fun _ => ([], [])⟩

end

variable {serde : SerdeParsers Text Json}
  {validateContainers : List KubeContainerInfo → Except ApiError PUnit}

/-- Every call keeps the dependency rows current. -/
theorem current_step (s : Observed Text) (call : DependencyCall Text Json) (s' : Observed Text)
    (hstep : Step serde validateContainers s call s') (h : s.Current) : s'.Current := by
  obtain ⟨rs, hdb, hrefs⟩ := hstep
  obtain ⟨db', refs'⟩ := s'
  dsimp only at hdb hrefs
  subst hrefs
  have hkeeps : SameDependencies s.db db' → Observed.Current ⟨db', s.refs⟩ := fun hsame =>
    Observed.Current.congr h hsame
  match call with
  | .catalog (.createAppCatalog orgId clusterId name workloads catalogId now) =>
    exact h.createAppCatalog orgId clusterId name workloads catalogId now hdb
  | .catalog (.deleteAppCatalog orgId catalogId now) =>
    exact hkeeps (hdb ▸ along_deleteAppCatalog orgId catalogId now s.db)
  | .catalog (.upsertClusterService clusterId «namespace» name resourceVersion serviceYaml selector
      ports serviceType observedAt newId) =>
    exact hkeeps (hdb ▸ DbApi.along_upsertClusterService .refl .trans (fun _ _ => ⟨rfl, rfl⟩)
      (fun _ _ => ⟨rfl, rfl⟩) _ _ _ _ _ _ _ _ _ _ s.db)
  | .catalog (.markClusterServiceDeleted clusterId «namespace» name observedAt) =>
    exact hkeeps (hdb ▸ DbApi.along_markClusterServiceDeleted .refl .trans (fun _ _ => ⟨rfl, rfl⟩)
      (fun _ _ => ⟨rfl, rfl⟩) _ _ _ _ s.db)
  | .catalog (.syncCatalogFromWorkloadEvent clusterId event workloadKind new) =>
    rw [hdb]
    exact h.syncCatalogFromWorkloadEvent serde clusterId event workloadKind new rs
  | .catalog (.reconcileWorkloadsForSelector clusterId «namespace» selectorMap observedAt) =>
    exact hkeeps (hdb ▸ along_reconcileWorkloadsForSelector clusterId rs «namespace» selectorMap
      observedAt s.db)
  | .addWorkloadsToAppCatalog orgId catalogId enriched now =>
    exact h.addWorkloadsToAppCatalog orgId catalogId enriched now hdb
  | .deleteAppCatalogWorkload orgId workloadId now =>
    exact hkeeps (hdb ▸ along_deleteAppCatalogWorkload orgId workloadId now s.db)
  | .updateAppCatalogWorkload orgId workloadId containers now =>
    exact hkeeps (hdb ▸ along_updateAppCatalogWorkload validateContainers orgId workloadId containers
      now s.db)
  | .handleDependencyChange clusterId event resourceType =>
    exact hkeeps (hdb ▸ along_handleDependencyChange clusterId rs event resourceType s.db)
  | .environment .. =>
    exact hkeeps (hdb ▸ ⟨rfl, rfl⟩)

/-- After every run the dependency rows are what was last seen. -/
theorem current_of_run {calls : List (DependencyCall Text Json)} {s : Observed Text}
    (hrun : Run (Step serde validateContainers) start calls s) : s.Current :=
  Run.invariant Observed.Current current_step hrun
    ⟨fun _ hw => absurd hw Table.mem_empty, fun _ _ => rfl⟩

/-- **Exact dependency events.** After every run, the handler of an event of a config map or a
secret returns `Ok` and bumps the live catalogs with a live workload that depends on the resource,
and no others, in every order of the hash map, precisely where every workload that depends on it,
deleted or not, belongs to such a catalog. -/
theorem exact_iff_of_run {calls : List (DependencyCall Text Json)} {s : Observed Text}
    (hrun : Run (Step serde validateContainers) start calls s) (clusterId : Uuid)
    (event : ResourceChangeEvent) (resourceType : DependencyType) :
    s.Exact clusterId event resourceType ↔ s.NoStale clusterId event resourceType :=
  (current_of_run hrun).exact_iff_noStale

/-! ## Two catalogs with one workload -/

/-- The state after some calls, with one order of the maps. -/
def after (calls : List (DependencyCall Yaml.Value (List (String × String)))) :
    Observed Yaml.Value :=
  calls.foldl (fun s call =>
    let db' := call.apply CatalogCall.flatSerde (fun _ => .ok ⟨⟩) (.identity _) s.db
    ⟨db', call.observe CatalogCall.flatSerde s.db db' s.refs⟩) start

theorem run_after (calls : List (DependencyCall Yaml.Value (List (String × String)))) :
    Run (Step CatalogCall.flatSerde fun _ => .ok ⟨⟩) start calls (after calls) :=
  Run.of_foldl (fun _ _ => ⟨_, rfl, rfl⟩) calls start

/-- The catalogs 11 and 12 share `web`, which starts to read the config map `settings`. -/
def sharedSettings : List (DependencyCall Yaml.Value (List (String × String))) :=
  [.catalog (CatalogCall.createWeb 11 21), .catalog (CatalogCall.createWeb 12 22),
    .catalog (.syncCatalogFromWorkloadEvent 5 ⟨"prod", "web", 3⟩ .deployment
      { yaml := CatalogCall.imageYaml "nginx:2"
        specSnapshot := some [("image", "nginx:2")]
        labels := ∅
        containers := []
        configmapRefs := ["settings"]
        secretRefs := [] })]

theorem exact_iff_of_run_settings :
    (after sharedSettings).Exact 5 ⟨"prod", "settings", 4⟩ .configmap := by
  refine (exact_iff_of_run (run_after sharedSettings) 5 ⟨"prod", "settings", 4⟩ .configmap).2 ?_
  decide +kernel

/-- Once the catalog 11 is deleted its rows stay live, and a change of `settings` is exact no
more. -/
theorem dependencyEvent_inexact :
    ¬∀ (calls : List (DependencyCall Yaml.Value (List (String × String)))) (s : Observed _),
      Run (Step CatalogCall.flatSerde fun _ => .ok ⟨⟩) start calls s →
        ∀ clusterId event resourceType, s.Exact clusterId event resourceType := by
  intro h
  let calls := sharedSettings ++ [.catalog (.deleteAppCatalog 2 11 4)]
  have hstale := (current_of_run (run_after calls)).exact_iff_noStale.1
    (h calls (after calls) (run_after calls) 5 ⟨"prod", "settings", 5⟩ .configmap)
  revert hstale
  decide +kernel

end DependencyCall

end Lapdev
