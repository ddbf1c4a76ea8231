import Lapdev.Api.AppCatalogs
import Lapdev.Api.CatalogSync
import Lapdev.Kube.PublishCatalogs

/-!
# Environments and the versions of their catalogs

`Sound` relates every environment to its catalog: a workload that the environment has with another
kind than the catalog is older there than in the catalog, and an environment at the version of its
catalog has the same workloads. A call that changes a catalog breaks this with its first statement
and restores it with its last, the stamp of the changed workloads; the two parameters of `Sound` say
what is missing in between, and `triple_publish` is the end of such a call.
-/

namespace Lapdev

open RustStd Sql Programs

variable {Text : Type}

namespace KubeController

/-! ## Correspondence -/

/-- An environment's live workloads correspond one to one to a catalog's, by name and kind. -/
def Corresponds (db : Database Text) (environmentId catalogId : Uuid) : Prop :=
  ((db.environmentWorkloads.select (liveIn environmentId)).map fun row => (row.name, row.kind)).Perm
    ((db.catalogWorkloads.select (DbApi.liveOf catalogId)).map fun row => (row.name, row.kind))

/-- The names of a catalog's live workloads are distinct, and none of them has an empty YAML. -/
structure Distinguished (isEmpty : Text → Bool) (db : Database Text) (catalogId : Uuid) : Prop where
  names : ((db.catalogWorkloads.select (DbApi.liveOf catalogId)).map (·.name)).Nodup
  yaml : ∀ row ∈ db.catalogWorkloads.select (DbApi.liveOf catalogId),
    isEmpty row.workloadYaml = false

/-- An environment and a catalog have workloads of the same names and kinds. -/
def SameWorkloads (db : Database Text) (environmentId catalogId : Uuid) : Prop :=
  ∀ name kind,
    (∃ row ∈ db.environmentWorkloads.rows, liveIn environmentId row = true ∧ row.name = name ∧
      row.kind = kind) ↔
    ∃ row ∈ db.catalogWorkloads.rows, DbApi.liveOf catalogId row = true ∧ row.name = name ∧
      row.kind = kind

/-- How an environment stands to its catalog; the workloads of the list are left out. -/
structure Tracks (unstamped : List Uuid) (db : Database Text) (environment : KubeEnvironment.Model)
    (catalog : KubeAppCatalog.Model) : Prop where
  version : environment.catalogSyncVersion ≤ catalog.syncVersion
  versions : ∀ row ∈ db.environmentWorkloads.rows, liveIn environment.id row = true →
    row.catalogSyncVersion ≤ catalog.syncVersion
  names : ∀ row ∈ db.environmentWorkloads.rows, ∀ row' ∈ db.environmentWorkloads.rows,
    liveIn environment.id row = true → liveIn environment.id row' = true → row.name = row'.name →
      row = row'
  kinds : ∀ row ∈ db.environmentWorkloads.rows, liveIn environment.id row = true →
    ∀ workload ∈ db.catalogWorkloads.rows, DbApi.liveOf catalog.id workload = true →
      workload.id ∉ unstamped → row.name = workload.name →
        row.kind = workload.kind ∨ row.catalogSyncVersion < workload.catalogSyncVersion

/-- What the calls keep. A catalog that is not bumped yet may have other workloads than the
environments at its version, and the unstamped workloads any version. -/
structure Sound (unbumped : Option Uuid) (unstamped : List Uuid) (db : Database Text) : Prop where
  environmentOf : ∀ row ∈ db.environmentWorkloads.rows,
    ∃ environment ∈ db.environments.rows, environment.id = row.environmentId
  catalogOf : ∀ environment ∈ db.environments.rows,
    ∃ catalog ∈ db.appCatalogs.rows, catalog.id = environment.appCatalogId
  base : ∀ row ∈ db.environmentWorkloads.rows, row.deletedAt = none →
    ∀ environment ∈ db.environments.rows, environment.id = row.environmentId →
      environment.baseEnvironmentId = none →
        row.baseWorkloadId = none ∨ row.baseWorkloadId = some row.id
  kind : ∀ row ∈ db.catalogWorkloads.rows, ∃ kind, row.kind = KubeWorkloadKind.toString kind
  tracks : ∀ environment catalog, SyncSubject db environment.id environment catalog →
    Tracks unstamped db environment catalog
  current : ∀ environment catalog, SyncSubject db environment.id environment catalog →
    unbumped ≠ some catalog.id → environment.catalogSyncVersion = catalog.syncVersion →
      SameWorkloads db environment.id catalog.id

section
variable {unbumped : Option Uuid} {unstamped : List Uuid} {db db' : Database Text}

theorem SyncSubject.congr {environmentId : Uuid} {environment : KubeEnvironment.Model}
    {catalog : KubeAppCatalog.Model} (h : SyncSubject db' environmentId environment catalog)
    (db : Database Text) (henvironments : db'.environments = db.environments)
    (hcatalogs : db'.appCatalogs = db.appCatalogs) :
    SyncSubject db environmentId environment catalog :=
  ⟨henvironments ▸ h.environment_mem, h.environment_id, h.environment_live, h.notBranch,
    hcatalogs ▸ h.catalog_mem, h.catalog_id, h.catalog_live⟩

theorem Tracks.congr {environment : KubeEnvironment.Model} {catalog : KubeAppCatalog.Model}
    (h : Tracks unstamped db environment catalog)
    (hworkloads : db'.environmentWorkloads = db.environmentWorkloads)
    (hcatalogWorkloads : db'.catalogWorkloads = db.catalogWorkloads) :
    Tracks unstamped db' environment catalog := by
  refine ⟨h.version, ?_, ?_, ?_⟩
  · exact hworkloads ▸ h.versions
  · exact hworkloads ▸ h.names
  · rw [hworkloads, hcatalogWorkloads]
    exact h.kinds

/-- A call may start with either statement. -/
theorem Sound.weaken (h : Sound none [] db) (unbumped : Option Uuid) (unstamped : List Uuid) :
    Sound unbumped unstamped db := by
  refine ⟨h.environmentOf, h.catalogOf, h.base, h.kind, fun environment catalog hsubject => ?_,
    fun environment catalog hsubject _ => h.current environment catalog hsubject (by simp)⟩
  have htracks := h.tracks environment catalog hsubject
  exact ⟨htracks.version, htracks.versions, htracks.names,
    fun row hrow hlive workload hworkload hlive' _ =>
      htracks.kinds row hrow hlive workload hworkload hlive' (by simp)⟩

/-- What `Sound` reads of a catalog workload. -/
def versionedKey (row : KubeAppCatalogWorkload.Model Text) :
    Uuid × Option Timestamp × Uuid × String × String × Int :=
  (row.id, row.deletedAt, row.appCatalogId, row.name, row.kind, row.catalogSyncVersion)

/-- Databases that `Sound` does not tell apart. -/
structure SameVersions (db db' : Database Text) : Prop where
  appCatalogs : db'.appCatalogs = db.appCatalogs
  environments : db'.environments = db.environments
  environmentWorkloads : db'.environmentWorkloads = db.environmentWorkloads
  catalogWorkloads : db'.catalogWorkloads.rows.map versionedKey =
    db.catalogWorkloads.rows.map versionedKey

theorem SameVersions.exists_row (h : SameVersions db db')
    {row : KubeAppCatalogWorkload.Model Text} (hrow : row ∈ db'.catalogWorkloads.rows) :
    ∃ row₀ ∈ db.catalogWorkloads.rows, versionedKey row₀ = versionedKey row := by
  have hmem := List.mem_map_of_mem (f := versionedKey) hrow
  rw [h.catalogWorkloads] at hmem
  exact List.mem_map.1 hmem

theorem SameVersions.symm (h : SameVersions db db') : SameVersions db' db :=
  ⟨h.appCatalogs.symm, h.environments.symm, h.environmentWorkloads.symm, h.catalogWorkloads.symm⟩

/-- Workloads with the same key are alike to `Sound`. -/
theorem liveOf_of_versionedKey {row row' : KubeAppCatalogWorkload.Model Text}
    (h : versionedKey row = versionedKey row') (catalogId : Uuid) :
    DbApi.liveOf catalogId row = DbApi.liveOf catalogId row' := by
  simp only [versionedKey, Prod.mk.injEq] at h
  simp only [DbApi.liveOf, h]

theorem Sound.congr (hdb : Sound unbumped unstamped db) (h : SameVersions db db') :
    Sound unbumped unstamped db' := by
  have hkey : ∀ {row row' : KubeAppCatalogWorkload.Model Text},
      versionedKey row = versionedKey row' → row.id = row'.id ∧ row.name = row'.name ∧
        row.kind = row'.kind ∧ row.catalogSyncVersion = row'.catalogSyncVersion := by
    intro row row' h
    simp only [versionedKey, Prod.mk.injEq] at h
    exact ⟨h.1, h.2.2.2.1, h.2.2.2.2.1, h.2.2.2.2.2⟩
  have hside : ∀ {db db' : Database Text}, SameVersions db db' → ∀ {catalogId name kind},
      (∃ row ∈ db.catalogWorkloads.rows, DbApi.liveOf catalogId row = true ∧ row.name = name ∧
        row.kind = kind) → ∃ row ∈ db'.catalogWorkloads.rows, DbApi.liveOf catalogId row = true ∧
          row.name = name ∧ row.kind = kind := by
    rintro db db' h catalogId name kind ⟨row, hrow, hlive, rfl, rfl⟩
    obtain ⟨row', hrow', hkeys⟩ := h.symm.exists_row hrow
    exact ⟨row', hrow', (liveOf_of_versionedKey hkeys _).trans hlive, (hkey hkeys).2.1,
      (hkey hkeys).2.2.1⟩
  refine ⟨?_, ?_, ?_, ?_, fun environment catalog hsubject => ?_,
    fun environment catalog hsubject hne hversion name kind => ?_⟩
  · rw [h.environmentWorkloads, h.environments]
    exact hdb.environmentOf
  · rw [h.environments, h.appCatalogs]
    exact hdb.catalogOf
  · rw [h.environmentWorkloads, h.environments]
    exact hdb.base
  · intro row hrow
    obtain ⟨row₀, hrow₀, hkeys⟩ := h.exists_row hrow
    rw [← (hkey hkeys).2.2.1]
    exact hdb.kind row₀ hrow₀
  · have htracks := hdb.tracks environment catalog (hsubject.congr db h.environments h.appCatalogs)
    refine ⟨htracks.version, ?_, ?_, ?_⟩
    · rw [h.environmentWorkloads]
      exact htracks.versions
    · rw [h.environmentWorkloads]
      exact htracks.names
    · rw [h.environmentWorkloads]
      intro row hrow hlive workload hworkload hlive' hstamped hname
      obtain ⟨workload₀, hworkload₀, hkeys⟩ := h.exists_row hworkload
      obtain ⟨hid, hname', hkind, hversion⟩ := hkey hkeys
      rw [← hkind, ← hversion]
      exact htracks.kinds row hrow hlive workload₀ hworkload₀
        ((liveOf_of_versionedKey hkeys _).trans hlive') (hid ▸ hstamped) (hname.trans hname'.symm)
  · rw [h.environmentWorkloads, hdb.current environment catalog (hsubject.congr db h.environments h.appCatalogs) hne
      hversion name kind]
    exact ⟨hside h, hside h.symm⟩

end

/-! ## The end of a call that changes a catalog -/

/-- The catalog of each workload. -/
def ownersOf (db : Database Text) : List (Uuid × Uuid) :=
  db.catalogWorkloads.rows.map fun row => (row.id, row.appCatalogId)

/-- `Sound`, with the owners of the workloads. -/
def SoundWith (unbumped : Option Uuid) (unstamped : List Uuid) (owners : List (Uuid × Uuid))
    (db : Database Text) : Prop :=
  Sound unbumped unstamped db ∧ ownersOf db = owners

/-- Some workloads are all of one catalog. -/
def OwnedBy (catalogId : Uuid) (owners : List (Uuid × Uuid)) (workloadIds : List Uuid) : Prop :=
  ∀ owner ∈ owners, owner.1 ∈ workloadIds → owner.2 = catalogId

/-- The live workloads of the environments of a catalog are older than a version. -/
def Ahead (catalogId : Uuid) (version : Int) (db : Database Text) : Prop :=
  ∀ environment catalog, SyncSubject db environment.id environment catalog →
    catalog.id = catalogId → ∀ row ∈ db.environmentWorkloads.rows,
      liveIn environment.id row = true → row.catalogSyncVersion < version

section
variable {unbumped : Option Uuid} {unstamped workloadIds : List Uuid}
  {owners : List (Uuid × Uuid)} {db db' : Database Text} {catalogId : Uuid}

theorem SameVersions.ownersOf_eq (h : SameVersions db db') : ownersOf db' = ownersOf db := by
  have howner : ∀ db : Database Text, ownersOf db =
      (db.catalogWorkloads.rows.map versionedKey).map fun key => (key.1, key.2.2.1) := by
    intro db
    rw [List.map_map]
    rfl
  rw [howner, howner, h.catalogWorkloads]

/-- The owner of a workload is its catalog. -/
theorem OwnedBy.appCatalogId (h : OwnedBy catalogId (ownersOf db) workloadIds)
    {row : KubeAppCatalogWorkload.Model Text} (hrow : row ∈ db.catalogWorkloads.rows)
    (hid : row.id ∈ workloadIds) : row.appCatalogId = catalogId :=
  h _ (List.mem_map_of_mem (f := fun row : KubeAppCatalogWorkload.Model Text =>
    (row.id, row.appCatalogId)) hrow) hid

/-- Nothing is missing of a catalog that no live environment is synced from. -/
theorem Sound.of_no_subject (h : Sound (some catalogId) unstamped db)
    (howned : OwnedBy catalogId (ownersOf db) unstamped)
    (hnone : ∀ environment catalog, SyncSubject db environment.id environment catalog →
      catalog.id ≠ catalogId) : Sound none [] db := by
  refine ⟨h.environmentOf, h.catalogOf, h.base, h.kind, fun environment catalog hsubject => ?_,
    fun environment catalog hsubject _ => h.current environment catalog hsubject fun heq =>
      hnone environment catalog hsubject (Option.some.inj heq).symm⟩
  have htracks := h.tracks environment catalog hsubject
  refine ⟨htracks.version, htracks.versions, htracks.names,
    fun row hrow hlive workload hworkload hlive' _ hname => ?_⟩
  refine htracks.kinds row hrow hlive workload hworkload hlive' (fun hid => ?_) hname
  simp only [DbApi.liveOf, Bool.and_eq_true, decide_eq_true_eq] at hlive'
  exact hnone environment catalog hsubject
    (hlive'.1.symm.trans (howned.appCatalogId hworkload hid))

/-- The bump of a catalog puts it ahead of its environments. -/
theorem triple_bump (catalogId : Uuid) (syncedAt : Timestamp) (unstamped : List Uuid)
    (owners : List (Uuid × Uuid)) :
    Triple (SoundWith (some catalogId) unstamped owners : Database Text → Prop)
      (DbApi.bumpAppCatalogSyncVersion catalogId syncedAt)
      (fun version db => SoundWith none unstamped owners db ∧ Ahead catalogId version db)
      fun _ db => SoundWith (some catalogId) unstamped owners db ∧ ¬db.LiveCatalog catalogId := by
  rintro db ⟨hdb, howners⟩
  by_cases hlive : db.LiveCatalog catalogId
  case neg =>
    rw [DbApi.run_bump_of_not_live syncedAt hlive]
    exact ⟨⟨hdb, howners⟩, hlive⟩
  obtain ⟨bumped, hbumped, hid, hbumpedLive⟩ := hlive
  obtain ⟨t, hrun, hrows⟩ := DbApi.run_bump syncedAt hbumped hid hbumpedLive
  rw [hrun]
  -- a catalog after the bump is the bumped one, or another one as it was
  have hcatalog : ∀ catalog ∈ t.rows, ∃ catalog₀ ∈ db.appCatalogs.rows,
      catalog₀.id = catalog.id ∧ catalog₀.deletedAt = catalog.deletedAt ∧
        ((catalog.id = catalogId ∧ catalog.deletedAt = none ∧
            catalog.syncVersion = catalog₀.syncVersion + 1) ∨
          ((catalog.id = catalogId → catalog.deletedAt ≠ none) ∧
            catalog.syncVersion = catalog₀.syncVersion)) := by
    intro catalog hmem
    rw [hrows] at hmem
    obtain ⟨catalog₀, hmem₀, rfl⟩ := List.mem_map.1 hmem
    refine ⟨catalog₀, hmem₀, ?_⟩
    unfold DbApi.bumped
    split
    · next h => exact ⟨rfl, rfl, .inl ⟨h.1, h.2, rfl⟩⟩
    · next h => exact ⟨rfl, rfl, .inr ⟨fun heq hdel => h ⟨heq, hdel⟩, rfl⟩⟩
  have hsubject : ∀ {environment catalog}, SyncSubject { db with appCatalogs := t } environment.id
      environment catalog → ∃ catalog₀, SyncSubject db environment.id environment catalog₀ ∧
        catalog₀.id = catalog.id ∧
        ((catalog.id = catalogId ∧ catalog.syncVersion = catalog₀.syncVersion + 1) ∨
          (catalog.id ≠ catalogId ∧ catalog.syncVersion = catalog₀.syncVersion)) := by
    intro environment catalog h
    obtain ⟨catalog₀, hmem₀, hid₀, hdel₀, hversion⟩ := hcatalog catalog h.catalog_mem
    refine ⟨catalog₀, ⟨h.environment_mem, rfl, h.environment_live, h.notBranch, hmem₀,
      hid₀.trans h.catalog_id, hdel₀.trans h.catalog_live⟩, hid₀, ?_⟩
    rcases hversion with ⟨heq, -, hversion⟩ | ⟨hne, hversion⟩
    · exact .inl ⟨heq, hversion⟩
    · exact .inr ⟨fun heq => hne heq h.catalog_live, hversion⟩
  refine ⟨⟨⟨hdb.environmentOf, ?_, hdb.base, hdb.kind, fun environment catalog h => ?_,
    fun environment catalog h _ hversion => ?_⟩, howners⟩, fun environment catalog h heq row hrow
      hrowLive => ?_⟩
  · intro environment henvironment
    obtain ⟨catalog, hmem, hcid⟩ := hdb.catalogOf environment henvironment
    refine ⟨DbApi.bumped catalogId syncedAt catalog, hrows ▸ List.mem_map_of_mem hmem, ?_⟩
    rw [← hcid]
    unfold DbApi.bumped
    split <;> rfl
  · obtain ⟨catalog₀, h₀, hid₀, hcases⟩ := hsubject h
    have htracks := hdb.tracks environment catalog₀ h₀
    have hle : catalog₀.syncVersion ≤ catalog.syncVersion := by omega
    refine ⟨htracks.version.trans hle, fun row hrow hrowLive =>
      (htracks.versions row hrow hrowLive).trans hle, htracks.names, ?_⟩
    rw [← hid₀]
    exact htracks.kinds
  · obtain ⟨catalog₀, h₀, hid₀, hcases⟩ := hsubject h
    have hle := (hdb.tracks environment catalog₀ h₀).version
    rcases hcases with ⟨-, hnew⟩ | ⟨hne, hold⟩
    · omega
    · rw [← hid₀]
      exact hdb.current environment catalog₀ h₀ (fun heq => hne (by
        rw [← hid₀]; exact (Option.some.inj heq).symm)) (hversion.trans hold)
  · obtain ⟨catalog₀, h₀, hid₀, hcases⟩ := hsubject h
    have heq₀ : catalog₀ = bumped := Table.eq_of_conflict h₀.catalog_mem hbumped
      ((hid₀.trans heq).trans hid.symm)
    have hle := (hdb.tracks environment catalog₀ h₀).versions row hrow hrowLive
    rw [heq₀] at hle
    omega

/-- The stamp of the changed workloads completes a call. -/
theorem triple_stamp {version : Int} (hsubset : unstamped ⊆ workloadIds)
    (howned : OwnedBy catalogId owners workloadIds) :
    Triple (fun db : Database Text => SoundWith none unstamped owners db ∧ Ahead catalogId version db)
      (DbApi.updateCatalogWorkloadVersions workloadIds version)
      (fun _ => SoundWith none [] owners) fun _ => SoundWith none [] owners := by
  rintro db ⟨⟨hdb, rfl⟩, hahead⟩
  obtain ⟨t, hrun, hrows⟩ := DbApi.run_updateCatalogWorkloadVersions db workloadIds version
  rw [hrun]
  -- a workload after the stamp is one of before, with the new version if it is listed
  have hworkload : ∀ row ∈ t.rows, ∃ row₀ ∈ db.catalogWorkloads.rows, row.id = row₀.id ∧
      row.name = row₀.name ∧ row.kind = row₀.kind ∧
      (∀ catalogId, DbApi.liveOf catalogId row = DbApi.liveOf catalogId row₀) ∧
      ((row.id ∈ workloadIds ∧ row.catalogSyncVersion = version) ∨
        (row.id ∉ workloadIds ∧ row.catalogSyncVersion = row₀.catalogSyncVersion)) := by
    intro row hrow
    rw [hrows] at hrow
    obtain ⟨row₀, hrow₀, rfl⟩ := List.mem_map.1 hrow
    refine ⟨row₀, hrow₀, ?_⟩
    split
    · next hin => exact ⟨rfl, rfl, rfl, fun _ => rfl, .inl ⟨hin, rfl⟩⟩
    · next hout => exact ⟨rfl, rfl, rfl, fun _ => rfl, .inr ⟨hout, rfl⟩⟩
  refine ⟨⟨hdb.environmentOf, hdb.catalogOf, hdb.base, fun row hrow => ?_,
    fun environment catalog h => ?_, fun environment catalog h hne hversion name kind => ?_⟩, ?_⟩
  · obtain ⟨row₀, hrow₀, -, -, hkind, -⟩ := hworkload row hrow
    rw [hkind]
    exact hdb.kind row₀ hrow₀
  · have h₀ : SyncSubject db environment.id environment catalog := h.congr db rfl rfl
    have htracks := hdb.tracks environment catalog h₀
    refine ⟨htracks.version, htracks.versions, htracks.names,
      fun row hrow hlive workload hmem hliveOf _ hname => ?_⟩
    obtain ⟨workload₀, hmem₀, hid, hname₀, hkind, hliveOf₀, hstamp⟩ := hworkload workload hmem
    rw [hliveOf₀] at hliveOf
    rcases hstamp with ⟨hin, hversion⟩ | ⟨hout, hversion⟩
    · have howner := howned.appCatalogId hmem₀ (hid ▸ hin)
      simp only [DbApi.liveOf, Bool.and_eq_true, decide_eq_true_eq] at hliveOf
      rw [hversion]
      exact .inr (hahead environment catalog h₀ (hliveOf.1.symm.trans howner) row hrow hlive)
    · rw [hkind, hversion]
      exact htracks.kinds row hrow hlive workload₀ hmem₀ hliveOf
        (fun hun => hout (hid ▸ hsubset hun)) (hname.trans hname₀)
  · have h₀ : SyncSubject db environment.id environment catalog := h.congr db rfl rfl
    rw [hdb.current environment catalog h₀ hne hversion name kind]
    constructor
    · rintro ⟨row₀, hrow₀, hlive, rfl, rfl⟩
      refine ⟨_, hrows ▸ List.mem_map_of_mem hrow₀, ?_⟩
      split <;> exact ⟨hlive, rfl, rfl⟩
    · rintro ⟨row, hrow, hlive, rfl, rfl⟩
      obtain ⟨row₀, hrow₀, -, hname, hkind, hlive₀, -⟩ := hworkload row hrow
      exact ⟨row₀, hrow₀, hlive₀ _ ▸ hlive, hname.symm, hkind.symm⟩
  · unfold ownersOf
    rw [hrows, List.map_map]
    refine List.map_congr_left fun row _ => ?_
    dsimp only [Function.comp_apply]
    split <;> rfl

/-- **The end of a call that changes a catalog**: the bump and the stamp of what it changed. -/
theorem triple_publish {E : Type} (g g' : QueryErr → E) (syncedAt : Timestamp)
    (hsubset : unstamped ⊆ workloadIds) (howned : OwnedBy catalogId owners workloadIds) :
    Triple (SoundWith (some catalogId) unstamped owners : Database Text → Prop)
      (do
        let version ← (DbApi.bumpAppCatalogSyncVersion catalogId syncedAt).mapError g
        (DbApi.updateCatalogWorkloadVersions workloadIds version).mapError g')
      (fun _ => SoundWith none [] owners) fun _ => SoundWith none [] owners := by
  refine Triple.bind (Q := fun version db => SoundWith none unstamped owners db ∧
    Ahead catalogId version db) (Triple.mapError ?_) fun version =>
      Triple.mapError (triple_stamp hsubset howned)
  refine (triple_bump catalogId syncedAt unstamped owners).consequence (fun _ h => h)
    (fun _ _ h => h) ?_
  rintro _ db ⟨⟨hdb, rfl⟩, hdead⟩
  refine ⟨hdb.of_no_subject (fun owner hmem hin => howned owner hmem (hsubset hin)) ?_, rfl⟩
  intro environment catalog hsubject heq
  exact hdead ⟨catalog, hsubject.catalog_mem, heq, hsubject.catalog_live⟩

end

end KubeController

end Lapdev
