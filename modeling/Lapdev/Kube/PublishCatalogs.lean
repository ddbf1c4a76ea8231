import Lapdev.Kube.ResourceEvents

/-!
# Publishing changed catalogs

The last loop of the event handlers. Over live catalogs it bumps every version and stamps every
changed workload (`run_publishCatalogs_of_live`); at a deleted catalog it stops, and the catalogs
behind it keep their versions.
-/

namespace Lapdev

open RustStd Sql Programs

variable {Text : Type}

/-- A catalog that is not deleted. -/
def Database.LiveCatalog (db : Database Text) (catalogId : Uuid) : Prop :=
  ∃ catalog ∈ db.appCatalogs.rows, catalog.id = catalogId ∧ catalog.deletedAt = none

/-- What a publication of catalogs leaves of a workload row: everything but the version. -/
structure SameWorkload (row row' : KubeAppCatalogWorkload.Model Text) : Prop where
  id : row'.id = row.id
  deletedAt : row'.deletedAt = row.deletedAt
  appCatalogId : row'.appCatalogId = row.appCatalogId
  containers : row'.containers = row.containers
  ports : row'.ports = row.ports
  workloadYaml : row'.workloadYaml = row.workloadYaml

theorem SameWorkload.refl (row : KubeAppCatalogWorkload.Model Text) : SameWorkload row row :=
  ⟨rfl, rfl, rfl, rfl, rfl, rfl⟩

theorem SameWorkload.trans {row row' row'' : KubeAppCatalogWorkload.Model Text}
    (h : SameWorkload row row') (h' : SameWorkload row' row'') : SameWorkload row row'' :=
  ⟨h'.id.trans h.id, h'.deletedAt.trans h.deletedAt, h'.appCatalogId.trans h.appCatalogId,
    h'.containers.trans h.containers, h'.ports.trans h.ports, h'.workloadYaml.trans h.workloadYaml⟩

/-- The columns of the unique indexes of catalog workloads are kept. -/
structure KeepsIndex (f : KubeAppCatalogWorkload.Model Text → KubeAppCatalogWorkload.Model Text) :
    Prop where
  id : ∀ row, (f row).id = row.id
  deletedAt : ∀ row, (f row).deletedAt = row.deletedAt
  appCatalogId : ∀ row, (f row).appCatalogId = row.appCatalogId
  name : ∀ row, (f row).name = row.name
  «namespace» : ∀ row, (f row).namespace = row.namespace
  kind : ∀ row, (f row).kind = row.kind

/-- An update of catalog workloads that keeps the indexed columns succeeds. -/
theorem KeepsIndex.updateMany_ok
    {f : KubeAppCatalogWorkload.Model Text → KubeAppCatalogWorkload.Model Text} (hf : KeepsIndex f)
    (t : Table (KubeAppCatalogWorkload.Model Text)) (p : KubeAppCatalogWorkload.Model Text → Bool) :
    ∃ t', t.updateMany p f = .ok t' := by
  refine Table.updateMany_of_conflict_imp fun row _ row' _ hc => ?_
  have hid : ∀ row : KubeAppCatalogWorkload.Model Text, (if p row then f row else row).id = row.id ∧
      (if p row then f row else row).deletedAt = row.deletedAt ∧
      (if p row then f row else row).appCatalogId = row.appCatalogId ∧
      (if p row then f row else row).name = row.name ∧
      (if p row then f row else row).namespace = row.namespace ∧
      (if p row then f row else row).kind = row.kind := by
    intro row
    split
    · exact ⟨hf.id _, hf.deletedAt _, hf.appCatalogId _, hf.name _, hf.namespace _, hf.kind _⟩
    · exact ⟨rfl, rfl, rfl, rfl, rfl, rfl⟩
  obtain ⟨h₁, h₂, h₃, h₄, h₅, h₆⟩ := hid row
  obtain ⟨h₁', h₂', h₃', h₄', h₅', h₆'⟩ := hid row'
  simp only [Entity.Conflict, h₁, h₂, h₃, h₄, h₅, h₆, h₁', h₂', h₃', h₄', h₅', h₆'] at hc
  exact hc

namespace DbApi

variable {db : Database Text} {catalogId : Uuid}

/-- The bump of a version succeeds in the database. -/
theorem updateMany_syncVersion_ok (t : Table KubeAppCatalog.Model) (catalogId : Uuid)
    (syncedAt : Timestamp) :
    ∃ t', t.updateMany (fun row => row.id = catalogId && row.deletedAt = none)
      (fun row => { row with syncVersion := row.syncVersion + 1, lastSyncedAt := some syncedAt }) =
        .ok t' := by
  refine Table.updateMany_of_conflict_imp fun row _ row' _ hc => ?_
  have hid : ∀ row : KubeAppCatalog.Model, (if row.id = catalogId && row.deletedAt = none then
      { row with syncVersion := row.syncVersion + 1, lastSyncedAt := some syncedAt }
      else row).id = row.id := by
    intro row
    split <;> rfl
  simp only [Entity.Conflict, hid] at hc
  exact hc

/-- A catalog after a bump. -/
def bumped (catalogId : Uuid) (syncedAt : Timestamp) (row : KubeAppCatalog.Model) :
    KubeAppCatalog.Model :=
  if row.id = catalogId ∧ row.deletedAt = none then
    { row with syncVersion := row.syncVersion + 1, lastSyncedAt := some syncedAt }
  else row

/-- A bump keeps what makes a catalog live. -/
theorem bumped_keeps (catalogId : Uuid) (syncedAt : Timestamp) (row : KubeAppCatalog.Model) :
    (bumped catalogId syncedAt row).id = row.id ∧
      (bumped catalogId syncedAt row).deletedAt = row.deletedAt := by
  unfold bumped
  split <;> exact ⟨rfl, rfl⟩

/-- The bump of a live catalog returns its new version. -/
theorem run_bump (syncedAt : Timestamp) {catalog : KubeAppCatalog.Model}
    (hmem : catalog ∈ db.appCatalogs.rows) (hid : catalog.id = catalogId)
    (hlive : catalog.deletedAt = none) :
    ∃ t, (bumpAppCatalogSyncVersion catalogId syncedAt).run db =
        (.ok (catalog.syncVersion + 1), { db with appCatalogs := t }) ∧
      t.rows = db.appCatalogs.rows.map (bumped catalogId syncedAt) := by
  obtain ⟨t, ht⟩ := updateMany_syncVersion_ok db.appCatalogs catalogId syncedAt
  have hone : db.appCatalogs.one (fun row => row.id = catalogId && row.deletedAt = none) =
      some catalog := by
    refine Table.one_eq_some hmem (by simp [hid, hlive]) fun row hrow hp => ?_
    have hrid : row.id = catalogId := by
      simp only [Bool.and_eq_true, decide_eq_true_eq] at hp
      exact hp.1
    exact Table.eq_of_conflict hrow hmem (hrid.trans hid.symm)
  refine ⟨t, ?_, ?_⟩
  · refine (Program.run_bind_of_ok (Database.run_returning_ok ht)).trans ?_
    rw [hone]
    rfl
  · rw [Table.rows_updateMany ht]
    exact List.map_congr_left fun row _ => by simp [bumped]

/-- A live catalog is bumped by one, and the others are left. -/
theorem run_bump_of_live (syncedAt : Timestamp) {catalog : KubeAppCatalog.Model}
    (hmem : catalog ∈ db.appCatalogs.rows) (hid : catalog.id = catalogId) (hlive : catalog.deletedAt = none) :
    ∃ t, (bumpAppCatalogSyncVersion catalogId syncedAt).run db =
        (.ok (catalog.syncVersion + 1), { db with appCatalogs := t }) ∧
      ∀ row ∈ db.appCatalogs.rows, ∃ row' ∈ t.rows, row'.id = row.id ∧
        row'.deletedAt = row.deletedAt ∧
        row'.syncVersion = if row.id = catalogId then row.syncVersion + 1 else row.syncVersion := by
  obtain ⟨t, hrun, hrows⟩ := run_bump syncedAt hmem hid hlive
  refine ⟨t, hrun, fun row hrow => ⟨bumped catalogId syncedAt row, hrows ▸ List.mem_map_of_mem hrow, ?_⟩⟩
  by_cases hrid : row.id = catalogId
  · cases Table.eq_of_conflict hrow hmem (hrid.trans hid.symm)
    simp [bumped, hid, hlive]
  · simp [bumped, hrid]

/-- A catalog that is not live is an error, and nothing changes. -/
theorem run_bump_of_not_live (syncedAt : Timestamp) (h : ¬db.LiveCatalog catalogId) :
    (bumpAppCatalogSyncVersion catalogId syncedAt).run db =
      (.error (.anyhow ("App catalog " ++ Uuid.hyphenated catalogId ++
        " not found or already deleted")), db) := by
  have hp : ∀ row ∈ db.appCatalogs.rows,
      (decide (row.id = catalogId) && decide (row.deletedAt = none)) = false := by
    intro row hrow
    rw [Bool.eq_false_iff]
    intro hp
    simp only [Bool.and_eq_true, decide_eq_true_eq] at hp
    exact h ⟨row, hrow, hp⟩
  obtain ⟨t, ht⟩ := updateMany_syncVersion_ok db.appCatalogs catalogId syncedAt
  have hone : db.appCatalogs.one (fun row => row.id = catalogId && row.deletedAt = none) = none :=
    List.find?_eq_none.2 fun row hrow => by simpa using hp row hrow
  refine (Program.run_bind_of_ok (Database.run_returning_ok ht)).trans ?_
  rw [hone, Table.eq_of_updateMany ht hp]
  rfl

/-- Workloads are stamped with a version, and keep everything else. -/
theorem run_updateCatalogWorkloadVersions (db : Database Text) (workloadIds : List Uuid)
    (version : Int) :
    ∃ t, (updateCatalogWorkloadVersions workloadIds version).run db =
        (.ok ⟨⟩, { db with catalogWorkloads := t }) ∧
      t.rows = db.catalogWorkloads.rows.map fun row =>
        if row.id ∈ workloadIds then { row with catalogSyncVersion := version } else row := by
  unfold updateCatalogWorkloadVersions
  split
  · next hempty =>
    refine ⟨db.catalogWorkloads, rfl, ?_⟩
    rw [List.isEmpty_iff.1 hempty]
    simp
  · obtain ⟨t, ht⟩ := KeepsIndex.updateMany_ok
      (f := fun row : KubeAppCatalogWorkload.Model Text => { row with catalogSyncVersion := version })
      ⟨fun _ => rfl, fun _ => rfl, fun _ => rfl, fun _ => rfl, fun _ => rfl, fun _ => rfl⟩
      db.catalogWorkloads fun row => row.id ∈ workloadIds
    refine ⟨t, Database.run_statement_ok ht, ?_⟩
    rw [Table.rows_updateMany ht]
    simp

end DbApi

namespace KubeClusterServer

variable {db db' : Database Text} (change : String) (syncedAt : Timestamp)
  {entry : (_ : Uuid) × List Uuid} {entries : List ((_ : Uuid) × List Uuid)}

/-- What a publication of catalogs leaves, if they are all live. -/
structure Published (entries : List ((_ : Uuid) × List Uuid)) (db db' : Database Text) : Prop where
  catalogs : ∀ row ∈ db.appCatalogs.rows, ∃ row' ∈ db'.appCatalogs.rows, row'.id = row.id ∧
    row'.deletedAt = row.deletedAt ∧
    row'.syncVersion = if row.id ∈ entries.keys then row.syncVersion + 1 else row.syncVersion
  workloads : ∀ row' ∈ db'.catalogWorkloads.rows, ∃ row ∈ db.catalogWorkloads.rows,
    SameWorkload row row' ∧
    (∀ e ∈ entries, row.id ∈ e.2 → ∀ catalog ∈ db.appCatalogs.rows, catalog.id = e.1 →
      row'.catalogSyncVersion = catalog.syncVersion + 1) ∧
    ((∀ e ∈ entries, row.id ∉ e.2) → row'.catalogSyncVersion = row.catalogSyncVersion)

/-- One live catalog is published. -/
theorem run_publishCatalog_of_live (hlive : db.LiveCatalog entry.1) :
    ∃ db', (publishCatalog change syncedAt entry).run db = (.ok ⟨⟩, db') ∧
      Published [entry] db db' := by
  obtain ⟨catalog, hmem, hid, hdel⟩ := hlive
  obtain ⟨t, hbump, hcatalogs⟩ := DbApi.run_bump_of_live syncedAt hmem hid hdel
  obtain ⟨t', hstamp, hrows⟩ := DbApi.run_updateCatalogWorkloadVersions
    { db with appCatalogs := t } entry.2 (catalog.syncVersion + 1)
  refine ⟨{ db with appCatalogs := t, catalogWorkloads := t' }, ?_, ?_, ?_⟩
  · rw [publishCatalog, Program.run_bind, Program.run_mapError, hbump]
    dsimp only
    rw [Program.run_mapError, hstamp]
  · intro row hrow
    obtain ⟨row', hrow', hid', hdel', hversion⟩ := hcatalogs row hrow
    refine ⟨row', hrow', hid', hdel', ?_⟩
    simpa using hversion
  · intro row' hrow'
    rw [hrows] at hrow'
    obtain ⟨row, hrow, rfl⟩ := List.mem_map.1 hrow'
    refine ⟨row, hrow, ?_, ?_, ?_⟩
    · split <;> exact ⟨rfl, rfl, rfl, rfl, rfl, rfl⟩
    · intro e he hin catalog' hmem' hid'
      cases List.mem_singleton.1 he
      rw [if_pos hin, Table.eq_of_conflict hmem' hmem (hid'.trans hid.symm)]
    · intro hnot
      rw [if_neg (hnot entry (List.mem_singleton_self _))]

/-- A deleted catalog stops the publication. -/
theorem run_publishCatalog_of_not_live (h : ¬db.LiveCatalog entry.1) :
    ∃ e, (publishCatalog change syncedAt entry).run db = (.error e, db) := by
  rw [publishCatalog, Program.run_bind, Program.run_mapError, DbApi.run_bump_of_not_live syncedAt h]
  exact ⟨_, rfl⟩

/-- **Live catalogs are published.** Every version grows by one and every changed workload is
stamped with the new version of its catalog. -/
theorem run_publishCatalogs_of_live (hnodup : entries.NodupKeys)
    (hdisjoint : entries.Pairwise fun e e' => ∀ id ∈ e.2, id ∉ e'.2)
    (hlive : ∀ e ∈ entries, db.LiveCatalog e.1) :
    ∃ db', (publishCatalogs change syncedAt entries).run db = (.ok ⟨⟩, db') ∧
      Published entries db db' := by
  induction entries generalizing db with
  | nil =>
    refine ⟨db, rfl, fun row hrow => ⟨row, hrow, rfl, rfl, rfl⟩, fun row hrow => ?_⟩
    exact ⟨row, hrow, .refl row, fun e he => (nomatch he), fun _ => rfl⟩
  | cons entry entries ih =>
    rw [List.nodupKeys_cons] at hnodup
    obtain ⟨hfresh, hdisjoint⟩ := List.pairwise_cons.1 hdisjoint
    obtain ⟨db₁, hrun₁, hpub₁⟩ := run_publishCatalog_of_live change syncedAt
      (hlive entry List.mem_cons_self)
    have hlive₁ : ∀ e ∈ entries, db₁.LiveCatalog e.1 := by
      intro e he
      obtain ⟨row, hrow, hid, hdel⟩ := hlive e (List.mem_cons_of_mem _ he)
      obtain ⟨row', hrow', hid', hdel', -⟩ := hpub₁.catalogs row hrow
      exact ⟨row', hrow', hid'.trans hid, hdel'.trans hdel⟩
    obtain ⟨db', hrun, hpub⟩ := ih hnodup.2 hdisjoint hlive₁
    refine ⟨db', ?_, ?_, ?_⟩
    · rw [publishCatalogs, Program.forEach, Program.run_foldEach_cons, hrun₁]
      exact hrun
    · intro row hrow
      obtain ⟨row₁, hrow₁, hid₁, hdel₁, hversion₁⟩ := hpub₁.catalogs row hrow
      obtain ⟨row', hrow', hid', hdel', hversion'⟩ := hpub.catalogs row₁ hrow₁
      refine ⟨row', hrow', hid'.trans hid₁, hdel'.trans hdel₁, ?_⟩
      rw [hversion', hversion₁, hid₁]
      by_cases heq : row.id = entry.1
      · have hnot : row.id ∉ entries.keys := heq ▸ hnodup.1
        simp [heq, heq ▸ hnot]
      · simp [heq]
    · intro row' hrow'
      obtain ⟨row₁, hrow₁, hsame', hstamped', hkept'⟩ := hpub.workloads row' hrow'
      obtain ⟨row, hrow, hsame₁, hstamped₁, hkept₁⟩ := hpub₁.workloads row₁ hrow₁
      refine ⟨row, hrow, hsame₁.trans hsame', ?_, ?_⟩
      · intro e he hin catalog hcatalog hid
        rcases List.mem_cons.1 he with rfl | he
        · -- stamped by the first catalog, and listed by no later one
          have hlater : ∀ e' ∈ entries, row₁.id ∉ e'.2 := fun e' he' =>
            hsame₁.id ▸ hfresh e' he' row.id hin
          rw [hkept' hlater]
          exact hstamped₁ e (List.mem_singleton_self _) hin catalog hcatalog hid
        · obtain ⟨catalog₁, hcatalog₁, hid₁, -, hversion₁⟩ := hpub₁.catalogs catalog hcatalog
          have hne : catalog.id ∉ [entry].keys := by
            have hkey : e.1 ∈ entries.keys := List.mem_keys_of_mem he
            have hne : e.1 ≠ entry.1 := fun heq => hnodup.1 (heq ▸ hkey)
            simpa [hid] using hne
          rw [hstamped' e he (hsame₁.id ▸ hin) catalog₁ hcatalog₁ (hid₁.trans hid), hversion₁,
            if_neg hne]
      · intro hnot
        rw [hkept' fun e he => hsame₁.id ▸ hnot e (List.mem_cons_of_mem _ he)]
        exact hkept₁ fun e he => List.mem_singleton.1 he ▸ hnot entry List.mem_cons_self

/-- The workloads of a database are those of an earlier one, up to their versions. -/
def KeepsWorkloads (db db' : Database Text) : Prop :=
  ∀ row' ∈ db'.catalogWorkloads.rows, ∃ row ∈ db.catalogWorkloads.rows, SameWorkload row row'

/-- However a publication ends, it changes nothing of a workload but its version. -/
theorem preserves_publishCatalogs (entries : List ((_ : Uuid) × List Uuid)) (db : Database Text) :
    Preserves (KeepsWorkloads db) (publishCatalogs change syncedAt entries) := by
  refine Triple.forEach (J := fun _ => KeepsWorkloads db) (fun entry _ db₁ h => ?_) entries
  by_cases hlive : db₁.LiveCatalog entry.1
  · obtain ⟨db', hrun, hpub⟩ := run_publishCatalog_of_live change syncedAt hlive
    rw [hrun]
    intro row' hrow'
    obtain ⟨row₁, hrow₁, hsame₁, -⟩ := hpub.workloads row' hrow'
    obtain ⟨row, hrow, hsame⟩ := h row₁ hrow₁
    exact ⟨row, hrow, hsame.trans hsame₁⟩
  · obtain ⟨e, hrun⟩ := run_publishCatalog_of_not_live change syncedAt hlive
    rw [hrun]
    exact h

end KubeClusterServer

end Lapdev
