import Lapdev.Api.Listeners
import Lapdev.Api.SyncCompleteness

/-!
# Runs of catalogs, environments and syncs

The calls that change catalogs, create environments and sync them as steps. `complete_of_run` says
that in every run from the empty database in which creations and syncs find distinguished catalogs,
every sync that succeeds leaves the workloads of the catalog, one to one by name and kind. Without
the condition a sync may delete a workload that the catalog has (`sync_loses_statefulSet`).
-/

namespace Lapdev

open RustStd Sql Programs Runs

/-- A call on catalogs, or the creation or sync of an environment; the calls that prepare workloads
carry what they get from outside. -/
inductive SyncCall (Text Json : Type)
  | catalog (call : CatalogCall Text Json)
  | addWorkloadsToAppCatalog (orgId catalogId : Uuid)
      (enriched : Except ApiError (List (Uuid × KubeWorkloadDetails Text))) (now : Timestamp)
  | deleteAppCatalogWorkload (orgId workloadId : Uuid) (now : Timestamp)
  | updateAppCatalogWorkload (orgId workloadId : Uuid) (containers : List KubeContainerInfo)
      (now : Timestamp)
  | createKubeEnvironment (outside : Outside Text)
      (orgId userId appCatalogId clusterId : Uuid) (cluster : Option KubeCluster.Model)
      (name : String) (isShared : Bool) (environmentId : Uuid) («namespace» authToken : String)
      (now : Timestamp)
  | syncEnvironmentFromCatalog (outside : Outside Text)
      (orgId userId environmentId : Uuid) (now : Timestamp)

namespace SyncCall

variable {Text Json : Type} [DecidableEq Json]

section
variable (serde : SerdeParsers Text Json) (codec : ManifestCodec Text) (isEmpty : Text → Bool)
  (validateContainers : List KubeContainerInfo → Except ApiError PUnit)

/-- The database a call leaves, whether it succeeds or not. -/
def apply (rs : RandomState ((_ : Uuid) × List Uuid)) (db : Database Text) :
    SyncCall Text Json → Database Text
  | catalog call => call.apply serde rs db
  | addWorkloadsToAppCatalog orgId catalogId enriched now =>
    ((KubeController.addWorkloadsToAppCatalog serde.fromStr orgId catalogId enriched now).run db).2
  | deleteAppCatalogWorkload orgId workloadId now =>
    ((KubeController.deleteAppCatalogWorkload orgId workloadId now).run db).2
  | updateAppCatalogWorkload orgId workloadId containers now =>
    ((KubeController.updateAppCatalogWorkload validateContainers orgId workloadId containers
      now).run db).2
  | createKubeEnvironment outside orgId userId appCatalogId clusterId cluster name isShared
      environmentId «namespace» authToken now =>
    ((KubeController.createKubeEnvironment serde.fromStr codec isEmpty outside orgId userId
      appCatalogId clusterId cluster name isShared environmentId «namespace» authToken now).run db).2
  | syncEnvironmentFromCatalog outside orgId userId environmentId now =>
    ((KubeController.syncEnvironmentFromCatalog codec isEmpty outside orgId userId environmentId
      now).run db).2

/-- A call with some order of the hash map. -/
def Step (db : Database Text) (call : SyncCall Text Json) (db' : Database Text) : Prop :=
  ∃ rs, db' = call.apply serde codec isEmpty validateContainers rs db

/-- The catalog of a creation or of a sync is distinguished. -/
def Distinct (db : Database Text) : SyncCall Text Json → Prop
  | createKubeEnvironment _ _ _ appCatalogId .. =>
    KubeController.Distinguished isEmpty db appCatalogId
  | syncEnvironmentFromCatalog _ _ _ environmentId _ => ∀ environment catalog,
    KubeController.SyncSubject db environmentId environment catalog →
      KubeController.Distinguished isEmpty db catalog.id
  | _ => True

/-- A sync that returns `Ok` leaves workloads that correspond to those of the catalog. -/
def Completes (db : Database Text) : SyncCall Text Json → Database Text → Prop
  | syncEnvironmentFromCatalog outside orgId userId environmentId now, db' =>
    ((KubeController.syncEnvironmentFromCatalog codec isEmpty outside orgId userId environmentId
        now).run db).1 = .ok ⟨⟩ →
      ∀ environment catalog, KubeController.SyncSubject db environmentId environment catalog →
        KubeController.Corresponds db' environmentId catalog.id
  | _, _ => True

/-- A step that, if it is a sync, is complete. -/
def CompleteStep (db : Database Text) (call : SyncCall Text Json) (db' : Database Text) : Prop :=
  Step serde codec isEmpty validateContainers db call db' ∧ Completes codec isEmpty db call db'

end

section
variable {serde : SerdeParsers Text Json} {codec : ManifestCodec Text} {isEmpty : Text → Bool}
  {validateContainers : List KubeContainerInfo → Except ApiError PUnit} {db db' : Database Text}
  {call : SyncCall Text Json}

/-- One step keeps `Sound`, and is complete. -/
theorem sound_step (hstep : Step serde codec isEmpty validateContainers db call db')
    (hdistinct : Distinct isEmpty db call) (hdb : KubeController.Sound none [] db) :
    KubeController.Sound none [] db' ∧ Completes codec isEmpty db call db' := by
  obtain ⟨rs, rfl⟩ := hstep
  cases call with
  | catalog call =>
    exact ⟨KubeController.sound_catalogCall serde hdb ⟨rs, rfl⟩, trivial⟩
  | addWorkloadsToAppCatalog orgId catalogId enriched now =>
    exact ⟨(KubeController.preserves_addWorkloadsToAppCatalog serde.fromStr orgId catalogId enriched
      now).run hdb, trivial⟩
  | deleteAppCatalogWorkload orgId workloadId now =>
    exact ⟨(KubeController.preserves_deleteAppCatalogWorkload orgId workloadId now).run hdb, trivial⟩
  | updateAppCatalogWorkload orgId workloadId containers now =>
    exact ⟨(KubeController.preserves_updateAppCatalogWorkload validateContainers orgId workloadId
      containers now).run hdb, trivial⟩
  | createKubeEnvironment outside orgId userId appCatalogId clusterId cluster name isShared
      environmentId «namespace» authToken now =>
    refine ⟨?_, trivial⟩
    rcases KubeController.run_createKubeEnvironment serde.fromStr codec isEmpty outside
      db orgId userId appCatalogId clusterId cluster name isShared environmentId «namespace»
      authToken now with heq | ⟨catalog, environment, details, hmem, rfl, -, rfl, hcatalogId, -, -,
        hversion, hdetails, hcreated⟩
    · rwa [apply, heq]
    · exact hdb.of_created hdistinct hmem hcatalogId hversion hdetails hcreated
  | syncEnvironmentFromCatalog outside orgId userId environmentId now =>
    exact KubeController.sync_corresponds hdb hdistinct rfl

/-- Nothing is in the empty database. -/
theorem sound_empty : KubeController.Sound none [] (.empty Text) := by
  refine ⟨fun _ h => absurd h Table.mem_empty, fun _ h => absurd h Table.mem_empty,
    fun _ h => absurd h Table.mem_empty, fun _ h => absurd h Table.mem_empty, fun _ _ h => ?_,
    fun _ _ h => ?_⟩
  · exact absurd h.environment_mem Table.mem_empty
  · exact absurd h.environment_mem Table.mem_empty

/-- The calls from a sound database, by induction on the run. -/
theorem complete_of_sound {calls : List (SyncCall Text Json)}
    (hrun : Run (Guarded (Step serde codec isEmpty validateContainers) (Distinct isEmpty))
      db calls db') (hdb : KubeController.Sound none [] db) :
    Run (CompleteStep serde codec isEmpty validateContainers) db calls db' := by
  induction hrun with
  | nil => exact .nil
  | cons hs _ ih =>
    obtain ⟨hsound, hcompletes⟩ := sound_step hs.1 hs.2 hdb
    exact .cons ⟨hs.1, hcompletes⟩ (ih hsound)

/-- **Sync completeness.** In a run whose creations and syncs find distinguished catalogs, every
sync that returns `Ok` leaves the workloads of its catalog, one to one by name and kind. -/
theorem complete_of_run {calls : List (SyncCall Text Json)}
    (hrun : Run (Guarded (Step serde codec isEmpty validateContainers) (Distinct isEmpty))
      (.empty Text) calls db) :
    Run (CompleteStep serde codec isEmpty validateContainers) (.empty Text) calls db :=
  complete_of_sound hrun sound_empty

end

/-! ## A Deployment and a StatefulSet of one name -/

/-- The parsers on documents without labels; no event asks for the other two. -/
def documentSerde : SerdeParsers Document PUnit where
  fromStr _ := some (.mapping [])
  toValue _ := none
  removeKey _ := id

/-- The catalog `shop` with `web` as a Deployment, and as a StatefulSet too or not. -/
def createShop (statefulSet : Bool) : SyncCall Document PUnit :=
  .catalog <| .createAppCatalog 1 1 "shop"
    ((11, ⟨"web", "prod", .deployment, [], [], KubeController.webDeployment, none⟩) ::
      if statefulSet then
        [(12, ⟨"web", "prod", .statefulSet, [], [], KubeController.webStatefulSet, none⟩)]
      else []) 1 1

/-- The environment `dev` of the catalog. -/
def createDev : SyncCall Document PUnit :=
  .createKubeEnvironment KubeController.connectedCluster 1 1 1 1 (some ⟨1, none, true, true⟩) "dev"
    false 5 "dev" "token" 2

/-- The Deployment is changed in the catalog. -/
def updateWeb : SyncCall Document PUnit := .updateAppCatalogWorkload 1 11 [] 3

/-- The sync of the environment; the workloads get new ids. -/
def syncDev : SyncCall Document PUnit :=
  .syncEnvironmentFromCatalog { KubeController.connectedCluster with newId := fun id => id + 200 }
    1 1 5 4

/-- The database after some calls. -/
def afterCalls (calls : List (SyncCall Document PUnit)) : Database Document :=
  calls.foldl (fun db call => call.apply documentSerde Document.codec (fun _ => false)
    (fun _ => .ok ⟨⟩) (.identity _) db) (.empty _)

/-- A step of some calls on documents. -/
abbrev DocumentStep : Database Document → SyncCall Document PUnit → Database Document → Prop :=
  Step documentSerde Document.codec (fun _ => false) fun _ => .ok ⟨⟩

/-- The names decide whether the catalog `1` is distinguished. -/
theorem distinguished_of_names {db : Database Document} (names : List String)
    (h : (db.catalogWorkloads.select (DbApi.liveOf 1)).map (·.name) = names) (hnodup : names.Nodup) :
    KubeController.Distinguished (fun _ => false) db 1 :=
  ⟨h ▸ hnodup, fun _ _ => rfl⟩

/-- With the Deployment alone every sync is complete. -/
theorem complete_of_run_deployment :
    Run (CompleteStep documentSerde Document.codec (fun _ => false) fun _ => .ok ⟨⟩) (.empty _)
      [createShop false, createDev, updateWeb, syncDev]
      (afterCalls [createShop false, createDev, updateWeb, syncDev]) := by
  refine complete_of_run (.cons ⟨⟨.identity _, rfl⟩, trivial⟩ (.cons ⟨⟨.identity _, rfl⟩, ?_⟩
    (.cons ⟨⟨.identity _, rfl⟩, trivial⟩ (.cons ⟨⟨.identity _, rfl⟩, ?_⟩ .nil))))
  · exact distinguished_of_names ["web"] (by decide +kernel) (by decide)
  · intro environment catalog hsubject
    have hids : (afterCalls [createShop false, createDev, updateWeb]).appCatalogs.rows.map (·.id) =
        [1] := by decide +kernel
    have hid : catalog.id ∈ [1] := hids ▸ List.mem_map_of_mem hsubject.catalog_mem
    rw [List.mem_singleton.1 hid]
    exact distinguished_of_names ["web"] (by decide +kernel) (by decide)

/-- The sync of the changed Deployment deletes the StatefulSet of its name too. -/
theorem sync_loses_statefulSet :
    ¬∀ (calls : List (SyncCall Document PUnit)) (db db' : Database Document)
      (call : SyncCall Document PUnit), Run DocumentStep (.empty _) calls db →
        DocumentStep db call db' → Completes Document.codec (fun _ => false) db call db' := by
  intro h
  have hstep : ∀ (db : Database Document) (call : SyncCall Document PUnit), DocumentStep db call
      (call.apply documentSerde Document.codec (fun _ => false) (fun _ => .ok ⟨⟩) (.identity _) db) :=
    fun _ _ => ⟨_, rfl⟩
  have hcompletes := h [createShop true, createDev, updateWeb]
    (afterCalls [createShop true, createDev, updateWeb])
    (afterCalls [createShop true, createDev, updateWeb, syncDev]) syncDev
    (Run.of_foldl hstep _ _) ⟨.identity _, rfl⟩
  let environment : KubeEnvironment.Model :=
    ⟨5, none, 1, 1, 1, 1, "dev", "dev", "Creating", false, 0, some 2, "idle", none, "token"⟩
  let catalog : KubeAppCatalog.Model := ⟨1, none, 1, "shop", 1, 1, some 3⟩
  have hsubject : KubeController.SyncSubject (afterCalls [createShop true, createDev, updateWeb]) 5
      environment catalog := by
    refine ⟨?_, rfl, rfl, rfl, ?_, rfl, rfl⟩
    · decide +kernel
    · decide +kernel
  have hlength := (hcompletes (by decide +kernel) environment catalog hsubject).length_eq
  revert hlength
  decide +kernel

end SyncCall

end Lapdev
