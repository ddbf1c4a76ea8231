import Lapdev.Api.AppCatalogs
import Lapdev.Kube.EventChanges
import Lapdev.Logic.Run

/-!
# Catalogs over whole runs

The calls that create and delete catalogs and the events of the cluster as steps, each event with
its own order of the hash map. In every run whose events are all publishable no event changes a
catalog silently (`noSilentChange_of_run`), and in the state a run reaches an event is published in
every order exactly when it is publishable. A catalog that shares a workload with a deleted one is
the counterexample: the deleted catalog keeps its workload rows.
-/

namespace Lapdev

open RustStd Sql Programs Runs

/-- A call that writes catalogs or the services of a cluster. `handle_service_change` is a call on
the service followed by `reconcileWorkloadsForSelector`. -/
inductive CatalogCall (Text Json : Type)
  | createAppCatalog (orgId clusterId : Uuid) (name : String)
      (workloads : List (Uuid × KubeWorkloadDetails Text)) (catalogId : Uuid) (now : Timestamp)
  | deleteAppCatalog (orgId catalogId : Uuid) (now : Timestamp)
  | upsertClusterService (clusterId : Uuid) («namespace» name resourceVersion : String)
      (serviceYaml : Text) (selector : BTreeMap String String) (ports : List StoredServicePort)
      (serviceType : Option String) (observedAt : Timestamp) (newId : Uuid)
  | markClusterServiceDeleted (clusterId : Uuid) («namespace» name : String)
      (observedAt : Timestamp)
  | syncCatalogFromWorkloadEvent (clusterId : Uuid) (event : ResourceChangeEvent)
      (workloadKind : KubeWorkloadKind) (new : WorkloadSnapshot Text Json)
  | reconcileWorkloadsForSelector (clusterId : Uuid) («namespace» : String)
      (selectorMap : BTreeMap String String) (observedAt : Timestamp)

namespace CatalogCall

variable {Text Json : Type} [DecidableEq Json] (serde : SerdeParsers Text Json)

/-- The database a call leaves, whether it succeeds or not. -/
def apply (rs : RandomState ((_ : Uuid) × List Uuid)) (db : Database Text) :
    CatalogCall Text Json → Database Text
  | createAppCatalog orgId clusterId name workloads catalogId now =>
    ((DbApi.createAppCatalogWithEnrichedWorkloads serde.fromStr orgId clusterId name workloads
      catalogId now).run db).2
  | deleteAppCatalog orgId catalogId now =>
    ((KubeController.deleteAppCatalog orgId catalogId now).run db).2
  | upsertClusterService clusterId «namespace» name resourceVersion serviceYaml selector ports
      serviceType observedAt newId =>
    ((DbApi.upsertClusterService clusterId «namespace» name resourceVersion serviceYaml selector
      ports serviceType observedAt newId).run db).2
  | markClusterServiceDeleted clusterId «namespace» name observedAt =>
    ((DbApi.markClusterServiceDeleted clusterId «namespace» name observedAt).run db).2
  | syncCatalogFromWorkloadEvent clusterId event workloadKind new =>
    ((KubeClusterServer.syncCatalogFromWorkloadEvent serde clusterId rs event workloadKind new).run
      db).2
  | reconcileWorkloadsForSelector clusterId «namespace» selectorMap observedAt =>
    ((KubeClusterServer.reconcileWorkloadsForSelector clusterId rs «namespace» selectorMap
      observedAt).run db).2

/-- The calls that are event handlers. -/
def IsEvent : CatalogCall Text Json → Prop
  | syncCatalogFromWorkloadEvent .. => True
  | reconcileWorkloadsForSelector .. => True
  | _ => False

/-- A call with some order of the hash map. -/
def Step (db : Database Text) (call : CatalogCall Text Json) (db' : Database Text) : Prop :=
  ∃ rs, db' = call.apply serde rs db

/-- The change of an event is publishable. -/
def Publishable (db : Database Text) : CatalogCall Text Json → Prop
  | syncCatalogFromWorkloadEvent clusterId event workloadKind new =>
    (KubeClusterServer.workloadEventChange serde clusterId event workloadKind new db).Publishable
  | reconcileWorkloadsForSelector clusterId «namespace» selectorMap _ =>
    (KubeClusterServer.serviceEventChange clusterId «namespace» selectorMap db).Publishable
  | _ => True

/-- A step that, if it is an event, publishes what it changes. -/
def PublishingStep (db : Database Text) (call : CatalogCall Text Json) (db' : Database Text) :
    Prop :=
  Step serde db call db' ∧ (call.IsEvent → Publishes db db')

variable {serde} {db₀ db db' : Database Text} {call : CatalogCall Text Json}

/-- An event is published in every order of the map exactly when it is publishable. -/
theorem publishes_iff_publishable (hevent : call.IsEvent) :
    (∀ db', Step serde db call db' → Publishes db db') ↔ Publishable serde db call := by
  have hseeds : (∀ db', Step serde db call db' → Publishes db db') ↔
      ∀ rs, Publishes db (call.apply serde rs db) :=
    ⟨fun h rs => h _ ⟨rs, rfl⟩, fun h db' ⟨rs, heq⟩ => heq ▸ h rs⟩
  rw [hseeds]
  cases call with
  | syncCatalogFromWorkloadEvent clusterId event workloadKind new =>
    exact KubeClusterServer.syncCatalogFromWorkloadEvent_publishes_iff serde clusterId event
      workloadKind new db
  | reconcileWorkloadsForSelector clusterId «namespace» selectorMap observedAt =>
    exact KubeClusterServer.reconcileWorkloadsForSelector_publishes_iff clusterId «namespace»
      selectorMap db observedAt
  | _ => exact absurd hevent id

/-- **No silent catalog change.** In a run whose events are publishable, every event publishes the
change it makes; in the state the run reaches, an event is published in every order of the map
exactly when it is publishable. -/
theorem noSilentChange_of_run {calls : List (CatalogCall Text Json)}
    (hrun : Run (Guarded (Step serde) (Publishable serde)) db₀ calls db) :
    Run (PublishingStep serde) db₀ calls db ∧
      ∀ call : CatalogCall Text Json, call.IsEvent →
        ((∀ db', Step serde db call db' → Publishes db db') ↔ Publishable serde db call) := by
  refine ⟨hrun.mono fun {db call db'} h => ⟨h.1, fun hevent => ?_⟩, fun call hevent =>
    publishes_iff_publishable hevent⟩
  exact (publishes_iff_publishable hevent).2 h.2 db' h.1

/-! ## Two catalogs with one workload -/

/-- `serde_json::to_value` of a flat mapping of strings, as the list of its entries. -/
def flatJson : Yaml.Value → Option (List (String × String))
  | .mapping entries => entries.mapM fun e =>
    match e with
    | (.string key, .string value) => some (key, value)
    | _ => none
  | _ => none

/-- The parsers on YAML values that need no parsing. -/
def flatSerde : SerdeParsers Yaml.Value (List (String × String)) where
  fromStr := some
  toValue := flatJson
  removeKey key entries := entries.filter fun e => e.1 ≠ key

/-- A Deployment manifest with a given image. -/
def imageYaml (image : String) : Yaml.Value :=
  .mapping [(.string "spec", .mapping [(.string "image", .string image)])]

/-- A catalog with the Deployment `web`. -/
def createWeb (catalogId workloadId : Uuid) : CatalogCall Yaml.Value (List (String × String)) :=
  .createAppCatalog 2 5 "shop"
    [(workloadId,
      { name := "web"
        «namespace» := "prod"
        kind := .deployment
        containers := []
        ports := []
        workloadYaml := imageYaml "nginx:1"
        baseWorkloadId := none })] catalogId 1

/-- The image of `web` changes in the cluster. -/
def webEvent : CatalogCall Yaml.Value (List (String × String)) :=
  .syncCatalogFromWorkloadEvent 5
    { «namespace» := "prod"
      resourceName := "web"
      timestamp := 3 }
    .deployment
    { yaml := imageYaml "nginx:2"
      specSnapshot := some [("image", "nginx:2")]
      labels := ∅
      containers := []
      configmapRefs := []
      secretRefs := [] }

/-- The database after some calls, with one order of the maps. -/
def after (calls : List (CatalogCall Yaml.Value (List (String × String)))) : Database Yaml.Value :=
  calls.foldl (fun db call => call.apply flatSerde (.reversed _) db) (.empty _)

/-- The catalogs 11 and 12 share `web`, and 11 is deleted. -/
def sharedWeb : List (CatalogCall Yaml.Value (List (String × String))) :=
  [createWeb 11 21, createWeb 12 22, .deleteAppCatalog 2 11 2]

/-- Before the deletion the event is published to both catalogs. -/
theorem noSilentChange_of_run_web :
    let calls := [createWeb 11 21, createWeb 12 22, webEvent]
    Run (PublishingStep flatSerde) (.empty _) calls (after calls) ∧
      ∀ call : CatalogCall Yaml.Value (List (String × String)), call.IsEvent →
        ((∀ db', Step flatSerde (after calls) call db' → Publishes (after calls) db') ↔
          Publishable flatSerde (after calls) call) := by
  intro calls
  have hlive : ∀ w ∈ KubeClusterServer.eventWorkloads 5 ⟨"prod", "web", 3⟩
      (after [createWeb 11 21, createWeb 12 22]),
      (after [createWeb 11 21, createWeb 12 22]).LiveCatalog w.appCatalogId := by
    have hrows : (KubeClusterServer.eventWorkloads 5 ⟨"prod", "web", 3⟩
        (after [createWeb 11 21, createWeb 12 22])).map (·.appCatalogId) = [11, 12] := rfl
    intro w hw
    have hid : w.appCatalogId ∈ [11, 12] := hrows ▸ List.mem_map_of_mem hw
    rcases List.mem_pair.1 hid with heq | heq <;> rw [heq]
    · exact ⟨⟨11, none, 2, "shop", 5, 0, none⟩, .head _, rfl, rfl⟩
    · exact ⟨⟨12, none, 2, "shop", 5, 0, none⟩, .tail _ (.head _), rfl, rfl⟩
  exact noSilentChange_of_run (.cons ⟨⟨_, rfl⟩, trivial⟩ (.cons ⟨⟨_, rfl⟩, trivial⟩
    (.cons ⟨⟨_, rfl⟩, .inl fun w hw _ => hlive w hw⟩ .nil)))

/-- After the deletion the event changes the content of `web` in the live catalog 12, and leaves
its version: the deleted catalog comes first in the map and ends the loop. -/
theorem webEvent_silent :
    ¬∀ (calls : List (CatalogCall Yaml.Value (List (String × String)))) (db db' : Database _)
      (call : CatalogCall Yaml.Value (List (String × String))),
      Run (Step flatSerde) (.empty _) calls db → call.IsEvent → Step flatSerde db call db' →
        Publishes db db' := by
  intro h
  have hstep : ∀ (db : Database Yaml.Value) (call : CatalogCall _ (List (String × String))),
      Step flatSerde db call (call.apply flatSerde (.reversed _) db) := fun _ _ => ⟨_, rfl⟩
  have hpublishes := h sharedWeb (after sharedWeb) (after (sharedWeb ++ [webEvent])) webEvent
    (Run.of_foldl hstep sharedWeb (.empty _)) trivial ⟨.reversed _, rfl⟩
  obtain ⟨catalog', hcatalog', -, hlt, -⟩ :=
    hpublishes ⟨12, none, 2, "shop", 5, 0, none⟩ (.tail _ (.head _)) rfl
      ⟨22, 1, none, 12, 5, "web", "prod", "Deployment", [], [], imageYaml "nginx:1", 0⟩
      (.tail _ (.head _)) rfl rfl
      ⟨22, 1, none, 12, 5, "web", "prod", "Deployment", [], [], imageYaml "nginx:2", 0⟩
      (.tail _ (.head _)) rfl (.inr (.inr (by simp [imageYaml])))
  have hversions : ∀ row ∈ (after (sharedWeb ++ [webEvent])).appCatalogs.rows,
      row.syncVersion = 0 := by
    have hrows : (after (sharedWeb ++ [webEvent])).appCatalogs.rows.map (·.syncVersion) = [0, 0] :=
      rfl
    intro row hrow
    have hmem : row.syncVersion ∈ [(0 : Int), 0] := hrows ▸ List.mem_map_of_mem hrow
    simpa using hmem
  rw [hversions catalog' hcatalog'] at hlt
  exact absurd hlt (lt_irrefl _)

end CatalogCall

end Lapdev
