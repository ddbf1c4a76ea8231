import Lapdev.Kube.AbsorbedEvents
import Lapdev.Kube.Extractors

/-!
# Events that are repeated

The event of a workload text that `extract_workload_from_yaml` accepts, handled a second time: the
updates it computes are empty and no catalog is written (`repeated_event_unchanged`). Between the two
events other writes may come, as long as they leave the workloads, their rows and the matching
services.
-/

namespace Lapdev

open RustStd Sql WatchManager

section
variable {Text Json : Type} (serde : WorkloadSerde Text Json)

/-- The text is the serialisation of a typed object: the spec of its generic value is, as JSON, what
the typed spec is serialised to. -/
def WorkloadSerde.RoundTrips (resourceType : ResourceType) (yaml : Text) : Prop :=
  ∃ document, serde.fromStr yaml = some document ∧
    (document.field "spec").map serde.toValue = serde.specValue resourceType yaml

variable {serde} [DecidableEq Json] {resourceType : ResourceType} {kind : KubeWorkloadKind}
  {yaml : Text} {e : ExtractedWorkload Json}

omit [DecidableEq Json] in
/-- The spec of a text that round-trips is the snapshot that is extracted from it. -/
theorem WorkloadSerde.RoundTrips.specSection (htrip : serde.RoundTrips resourceType yaml)
    (hkind : workloadKindFor resourceType = some kind)
    (hextract : extractWorkloadFromYaml serde resourceType yaml = .ok e) :
    specSectionFromYaml serde.toSerdeParsers yaml = some e.specSnapshot := by
  obtain ⟨document, hdocument, hspec⟩ := htrip
  obtain ⟨template, podSpec, hread⟩ := extractWorkloadFromYaml_eq_ok hkind hextract
  obtain ⟨failed, hsnapshot⟩ := hread.snapshot
  rw [← hspec, Yaml.Value.field] at hsnapshot
  rw [specSectionFromYaml, hdocument]
  dsimp only
  cases hvalue : document.asMapping.bind fun entries => Yaml.Value.get entries "spec" with
  | none =>
    rw [hvalue, Option.map_none, serializeSpec] at hsnapshot
    exact congrArg some (Except.ok.inj hsnapshot)
  | some value =>
    rw [hvalue, Option.map_some] at hsnapshot
    dsimp only
    rw [serializeSpecForCatalog]
    cases hjson : serde.toValue value with
    | none =>
      rw [hjson, serializeSpec] at hsnapshot
      cases hsnapshot
    | some json =>
      rw [hjson, serializeSpec] at hsnapshot
      exact congrArg some (Except.ok.inj hsnapshot)

/-- **A repeated event changes nothing.** Once an event has been handled, an event of the same
workload with the same text, where the stored workloads, their rows and the matching services are as
the first one left them, computes for each workload an update without changes, and leaves the
database as it is. -/
theorem repeated_event_unchanged (hkind : workloadKindFor resourceType = some kind)
    (hextract : extractWorkloadFromYaml serde resourceType yaml = .ok e)
    (htrip : serde.RoundTrips resourceType yaml) (hnames : (e.containers.map (·.name)).Nodup)
    (clusterId : Uuid) (event event' : ResourceChangeEvent)
    (hname : event'.resourceName = event.resourceName)
    (hnamespace : event'.namespace = event.namespace)
    (rs rs' : RandomState ((_ : Uuid) × List Uuid)) (db db' : Database Text)
    (hsame : SameStored clusterId event.namespace e.podLabels
      ((KubeClusterServer.syncCatalogFromWorkloadEvent serde.toSerdeParsers clusterId rs event kind
        (e.snapshot yaml)).run db).2 db') :
    (∀ workload ∈ KubeClusterServer.eventWorkloads clusterId event' db',
      ∀ update ∈ KubeClusterServer.eventUpdate serde.toSerdeParsers clusterId event' kind
        (e.snapshot yaml) db' workload,
        update.requiresCatalogBump = false ∧ update.hasModelUpdates = false) ∧
      (KubeClusterServer.syncCatalogFromWorkloadEvent serde.toSerdeParsers clusterId rs' event' kind
        (e.snapshot yaml)).run db' = (.ok ⟨⟩, db') := by
  have habsorbed : ∀ row ∈ KubeClusterServer.eventWorkloads clusterId event' db',
      Absorbed serde.toSerdeParsers (e.snapshot yaml)
        (eventPorts clusterId event'.namespace e.podLabels db') kind db' row := by
    intro row hrow
    obtain ⟨hmem, hfound⟩ := Table.mem_select.1 hrow
    obtain ⟨row₀, hrow₀, hcontent⟩ := hsame.exists_row hmem
    have hin : row₀ ∈ KubeClusterServer.eventWorkloads clusterId event
        ((KubeClusterServer.syncCatalogFromWorkloadEvent serde.toSerdeParsers clusterId rs event kind
          (e.snapshot yaml)).run db).2 := by
      have hkey : eventKey { row₀ with catalogSyncVersion := 0 } =
        eventKey { row with catalogSyncVersion := 0 } := congrArg eventKey hcontent
      simp only [eventKey, Prod.mk.injEq] at hkey
      obtain ⟨-, hname', hns', hdeleted, hcluster⟩ := hkey
      rw [← hname', ← hns', ← hdeleted, ← hcluster, hname, hnamespace] at hfound
      exact Table.mem_select.2 ⟨hrow₀, hfound⟩
    have h := (absorbed_of_event hnames (htrip.specSection hkind hextract) rs rfl hin).of_sameStored
      hsame hcontent
    rwa [hnamespace, eventPorts, hsame.services]
  refine ⟨fun workload hworkload update hupdate => ?_, run_of_absorbed rs' habsorbed⟩
  rw [KubeClusterServer.eventUpdate] at hupdate
  split at hupdate
  · cases hupdate
  · next hkind' =>
    have hid := List.mem_map_of_mem (f := fun w : KubeAppCatalogWorkload.Model Text => w.id) hworkload
    rw [labelsOf_select db' hid, dependenciesOf_select db' hid] at hupdate
    obtain rfl := Option.some.inj hupdate
    have hbump := (habsorbed workload hworkload).resolve_left hkind'
    exact ⟨hbump, hasModelUpdates_of_not_requiresCatalogBump serde.toSerdeParsers (e.snapshot yaml)
      rfl hbump⟩

end

/-- `web` is stored without containers and labels, in a catalog. -/
def databaseWithWeb : Database SampleText :=
  { Database.empty SampleText with
    appCatalogs := ⟨[⟨11, none, 2, "shop", 5, 0, none⟩], by simp⟩
    catalogWorkloads :=
      ⟨[⟨21, 1, none, 11, 5, "web", "prod", "Deployment", [], [], .web, 0⟩], by simp⟩ }

theorem repeated_event_unchanged_web :
    ∃ e db', extractWorkloadFromYaml sampleSerde .deployment .web = .ok e ∧
      ((KubeClusterServer.syncCatalogFromWorkloadEvent sampleSerde.toSerdeParsers 5 (.reversed _)
        ⟨"prod", "web", 3⟩ .deployment (e.snapshot .web)).run databaseWithWeb) = (.ok ⟨⟩, db') ∧
      (KubeClusterServer.syncCatalogFromWorkloadEvent sampleSerde.toSerdeParsers 5 (.reversed _)
        ⟨"prod", "web", 4⟩ .deployment (e.snapshot .web)).run db' = (.ok ⟨⟩, db') := by
  refine ⟨_, _, rfl, rfl, ?_⟩
  have hkind : workloadKindFor .deployment = some .deployment := rfl
  exact (repeated_event_unchanged hkind rfl ⟨_, rfl, rfl⟩ (by decide) 5 ⟨"prod", "web", 3⟩
    ⟨"prod", "web", 4⟩ rfl rfl (.reversed _) (.reversed _) databaseWithWeb _ (.refl _)).2

end Lapdev
