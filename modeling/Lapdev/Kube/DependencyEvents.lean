import Lapdev.Db.Dependencies
import Lapdev.Kube.CatalogChanges

/-!
# Events of config maps and secrets

`handle_dependency_change` of `kube/src/server.rs` looks up the dependency rows of a resource and
publishes their catalogs. Nothing retires the rows of a deleted workload or of a deleted catalog, so
the handler is exact only where none of those depends on the resource alone
(`exact_iff_noStale`).
-/

namespace Lapdev

open RustStd Sql Programs

variable {Text : Type}

namespace KubeClusterServer

/-- The body of the loop of `handle_dependency_change`. -/
def publishDependentCatalog (resourceType : String) (syncedAt : Timestamp)
    (entry : (_ : Uuid) × List Uuid) : Query Text PUnit := do
  let newVersion ← (DbApi.bumpAppCatalogSyncVersion entry.1 syncedAt).mapError
    (.context ("failed to bump sync version for catalog " ++ Uuid.hyphenated entry.1 ++ " after " ++
      resourceType ++ " change"))
  (DbApi.updateCatalogWorkloadVersions entry.2 newVersion).mapError
    (.context ("failed to update workload sync version for catalog " ++ Uuid.hyphenated entry.1))

/-- `workloads_by_catalog`, from the workloads and catalogs found. -/
def groupByCatalog (found : List (Uuid × Uuid)) : HashTable Uuid (List Uuid) :=
  found.foldl (fun byCatalog pair => pushWorkload byCatalog pair.2 pair.1) ∅

/-- Source: `server.rs`. -/
def handleDependencyChange (clusterId : Uuid) (rs : RandomState ((_ : Uuid) × List Uuid))
    (event : ResourceChangeEvent) (resourceType : DependencyType) : Query Text PUnit := do
  let workloads ← DbApi.findWorkloadsByDependency clusterId event.namespace resourceType.toString
    event.resourceName
  if workloads.isEmpty then pure ⟨⟩
  else
    Program.forEach (publishDependentCatalog resourceType.toString event.timestamp)
      ((groupByCatalog workloads).reseed rs).entries

/-! ## The groups -/

/-- One group, after any part of the loop. -/
theorem lookup_foldl_pushWorkload (found : List (Uuid × Uuid))
    (byCatalog : HashTable Uuid (List Uuid)) (catalogId : Uuid) :
    (found.foldl (fun byCatalog pair => pushWorkload byCatalog pair.2 pair.1) byCatalog).lookup
        catalogId =
      match (found.filter fun pair => pair.2 = catalogId).map (·.1) with
      | [] => byCatalog.lookup catalogId
      | ids => some ((byCatalog.lookup catalogId).getD [] ++ ids) := by
  induction found generalizing byCatalog with
  | nil => rfl
  | cons pair found ih =>
    rw [List.foldl_cons, ih, pushWorkload, HashTable.lookup_insert]
    by_cases heq : pair.2 = catalogId
    · subst heq
      simp only [List.filter_cons, decide_true, if_true, List.map_cons, Option.getD_some]
      split
      · next hnil => rw [hnil]
      · simp
    · simp [heq, Ne.symm heq]

variable {found : List (Uuid × Uuid)} {e : (_ : Uuid) × List Uuid}

/-- What a group lists. -/
theorem mem_groupByCatalog (he : e ∈ (groupByCatalog found).entries) :
    ∀ id, id ∈ e.2 ↔ (id, e.1) ∈ found := by
  have hlookup := AList.mem_lookup_iff.2 he
  rw [groupByCatalog, lookup_foldl_pushWorkload] at hlookup
  intro id
  split at hlookup
  · exact absurd hlookup (by simp)
  · simp only [AList.lookup_empty, Option.getD_none, List.nil_append, Option.mem_some_iff]
      at hlookup
    simp [← hlookup]

/-- There is a group for each catalog found. -/
theorem mem_keys_groupByCatalog {catalogId : Uuid} :
    catalogId ∈ (groupByCatalog found).entries.keys ↔ ∃ id, (id, catalogId) ∈ found := by
  constructor
  · intro h
    obtain ⟨ids, hids⟩ := List.exists_of_mem_keys h
    have hlookup := AList.mem_lookup_iff.2 hids
    rw [groupByCatalog, lookup_foldl_pushWorkload] at hlookup
    split at hlookup
    · exact absurd hlookup (by simp)
    · next hne =>
      obtain ⟨id, hid⟩ := List.exists_mem_of_ne_nil _ hne
      obtain ⟨pair, hpair, rfl⟩ := List.mem_map.1 hid
      obtain ⟨hmem, hcatalog⟩ := List.mem_filter.1 hpair
      exact ⟨pair.1, of_decide_eq_true hcatalog ▸ hmem⟩
  · rintro ⟨id, hid⟩
    have hmem : id ∈ (found.filter fun pair => pair.2 = catalogId).map (·.1) :=
      List.mem_map_of_mem (List.mem_filter.2 ⟨hid, decide_eq_true rfl⟩)
    have hlookup := lookup_foldl_pushWorkload found ∅ catalogId
    split at hlookup
    · next hnil =>
      rw [hnil] at hmem
      exact absurd hmem List.not_mem_nil
    · exact List.mem_keys_of_mem (AList.mem_lookup_iff.1 hlookup)

/-! ## The publication -/

/-- The error texts apart, the catalogs are published as by the other handlers. -/
theorem sameOutcome_publishDependentCatalog (resourceType change : String) (syncedAt : Timestamp)
    (entries : List ((_ : Uuid) × List Uuid)) :
    SameOutcome
      (Program.forEach (publishDependentCatalog resourceType syncedAt) entries : Query Text PUnit)
      (publishCatalogs change syncedAt entries) :=
  SameOutcome.forEach (fun _ => SameOutcome.bind (SameOutcome.mapError _ _ _) fun _ =>
    SameOutcome.mapError _ _ _) entries

/-- A publication that succeeds has found every catalog live. -/
theorem liveCatalog_of_run_publishCatalogs {change : String} {syncedAt : Timestamp}
    {entries : List ((_ : Uuid) × List Uuid)} {db db' : Database Text}
    (hrun : (publishCatalogs change syncedAt entries).run db = (.ok ⟨⟩, db')) :
    ∀ e ∈ entries, db.LiveCatalog e.1 := by
  induction entries generalizing db with
  | nil => exact fun e he => (nomatch he)
  | cons entry entries ih =>
    rw [publishCatalogs, Program.forEach, Program.run_foldEach_cons] at hrun
    by_cases hlive : db.LiveCatalog entry.1
    · obtain ⟨catalog, hmem, hid, hdel⟩ := hlive
      obtain ⟨t, hbump, hrows⟩ := DbApi.run_bump syncedAt hmem hid hdel
      obtain ⟨t', hstamp, -⟩ := DbApi.run_updateCatalogWorkloadVersions
        { db with appCatalogs := t } entry.2 (catalog.syncVersion + 1)
      have hrun₁ : (publishCatalog change syncedAt entry).run db =
          (.ok ⟨⟩, { db with appCatalogs := t, catalogWorkloads := t' }) := by
        rw [publishCatalog, Program.run_bind, Program.run_mapError, hbump]
        dsimp only
        rw [Program.run_mapError, hstamp]
      rw [hrun₁] at hrun
      intro e he
      rcases List.mem_cons.1 he with rfl | he
      · exact ⟨catalog, hmem, hid, hdel⟩
      · -- a bump revives no catalog
        obtain ⟨row, hrow, hrid, hrdel⟩ := ih hrun e he
        rw [hrows] at hrow
        obtain ⟨row₀, hrow₀, rfl⟩ := List.mem_map.1 hrow
        obtain ⟨hid₀, hdel₀⟩ := DbApi.bumped_keeps entry.1 syncedAt row₀
        exact ⟨row₀, hrow₀, hid₀.symm.trans hrid, hdel₀.symm.trans hrdel⟩
    · obtain ⟨err, herr⟩ := run_publishCatalog_of_not_live change syncedAt hlive
      rw [herr] at hrun
      cases hrun

end KubeClusterServer

/-! ## Exact events -/

/-- A database, with the config maps and secrets last seen of each catalog workload: those of its
insertion, or of the last workload event about it. -/
structure Observed (Text : Type) where
  db : Database Text
  refs : Uuid → BTreeSet String × BTreeSet String

namespace Observed

/-- The live dependency rows of every workload are what was last seen of it. -/
structure Current (s : Observed Text) : Prop where
  rows : ∀ w ∈ s.db.catalogWorkloads.rows, ∀ row, row ∈ liveDependencies s.db w.id ↔
    row ∈ dependencyRows w.appCatalogId w.clusterId w.namespace (s.refs w.id)
  others : ∀ id, (∀ w ∈ s.db.catalogWorkloads.rows, w.id ≠ id) → liveDependencies s.db id = []

variable (s : Observed Text) (clusterId : Uuid) (event : ResourceChangeEvent)
  (resourceType : DependencyType)

/-- A workload, deleted or not, depends on the resource of an event. -/
def DependsOn (w : KubeAppCatalogWorkload.Model Text) : Prop :=
  w.clusterId = clusterId ∧ w.namespace = event.namespace ∧
    event.resourceName ∈ resourceType.names (s.refs w.id)

/-- A live catalog owns a live workload that depends on the resource. -/
def Affected (catalog : KubeAppCatalog.Model) : Prop :=
  catalog.deletedAt = none ∧ ∃ w ∈ s.db.catalogWorkloads.rows, w.deletedAt = none ∧
    w.appCatalogId = catalog.id ∧ s.DependsOn clusterId event resourceType w

/-- In every order of the hash map the handler returns `Ok`, and bumps the affected catalogs and no
others. -/
def Exact : Prop :=
  ∀ rs, ∃ db', (KubeClusterServer.handleDependencyChange clusterId rs event resourceType).run s.db =
      (.ok ⟨⟩, db') ∧
    ∀ row ∈ s.db.appCatalogs.rows, ∃ row' ∈ db'.appCatalogs.rows, row'.id = row.id ∧
      (s.Affected clusterId event resourceType row → row'.syncVersion = row.syncVersion + 1) ∧
      (¬s.Affected clusterId event resourceType row → row'.syncVersion = row.syncVersion)

/-- The condition: every workload, deleted or not, that depends on the resource belongs to an
affected catalog. -/
def NoStale : Prop :=
  ∀ w ∈ s.db.catalogWorkloads.rows, s.DependsOn clusterId event resourceType w →
    ∃ catalog ∈ s.db.appCatalogs.rows, catalog.id = w.appCatalogId ∧
      s.Affected clusterId event resourceType catalog

instance (w : KubeAppCatalogWorkload.Model Text) :
    Decidable (s.DependsOn clusterId event resourceType w) :=
  inferInstanceAs (Decidable (_ ∧ _))

instance (catalog : KubeAppCatalog.Model) :
    Decidable (s.Affected clusterId event resourceType catalog) :=
  inferInstanceAs (Decidable (_ ∧ ∃ w ∈ s.db.catalogWorkloads.rows, _))

instance : Decidable (s.NoStale clusterId event resourceType) :=
  inferInstanceAs (Decidable (∀ w ∈ s.db.catalogWorkloads.rows, _))

variable {s} {clusterId event resourceType}

/-- What the handler's lookup finds, by the workloads. -/
theorem Current.mem_found (h : s.Current) {workloadId catalogId : Uuid} :
    ⟨catalogId, clusterId, event.namespace, event.resourceName, resourceType.toString⟩ ∈
        liveDependencies s.db workloadId ↔
      ∃ w ∈ s.db.catalogWorkloads.rows, w.id = workloadId ∧ w.appCatalogId = catalogId ∧
        s.DependsOn clusterId event resourceType w := by
  constructor
  · intro hrow
    by_cases hid : ∃ w ∈ s.db.catalogWorkloads.rows, w.id = workloadId
    · obtain ⟨w, hw, rfl⟩ := hid
      obtain ⟨hcatalog, hcluster, hns, type, htype, hname⟩ :=
        mem_dependencyRows.1 ((h.rows w hw _).1 hrow)
      cases DependencyType.toString_injective htype
      exact ⟨w, hw, rfl, hcatalog.symm, hcluster.symm, hns.symm, hname⟩
    · rw [h.others workloadId fun w hw heq => hid ⟨w, hw, heq⟩] at hrow
      cases hrow
  · rintro ⟨w, hw, rfl, rfl, hcluster, hns, hname⟩
    exact (h.rows w hw _).2
      (mem_dependencyRows.2 ⟨rfl, hcluster.symm, hns.symm, resourceType, rfl, hname⟩)

/-- The run of the handler as a publication of groups, one for each catalog with a dependent
workload. -/
theorem Current.run_handle (h : s.Current) (rs : RandomState ((_ : Uuid) × List Uuid)) :
    ∃ entries : List ((_ : Uuid) × List Uuid), entries.NodupKeys ∧
      (entries.Pairwise fun e e' => ∀ id ∈ e.2, id ∉ e'.2) ∧
      (∀ catalogId, catalogId ∈ entries.keys ↔
        ∃ w ∈ s.db.catalogWorkloads.rows, w.appCatalogId = catalogId ∧
          s.DependsOn clusterId event resourceType w) ∧
      ∀ db', (KubeClusterServer.handleDependencyChange clusterId rs event resourceType).run s.db =
          (.ok ⟨⟩, db') ↔
        (KubeClusterServer.publishCatalogs "" event.timestamp entries).run s.db = (.ok ⟨⟩, db') := by
  obtain ⟨found, hrun, hfound⟩ := DbApi.run_findWorkloadsByDependency s.db clusterId event.namespace
    resourceType.toString event.resourceName
  let groups := (KubeClusterServer.groupByCatalog found).reseed rs
  have hperm : groups.entries.Perm (KubeClusterServer.groupByCatalog found).entries :=
    rs.arrange_perm _
  refine ⟨groups.entries, groups.nodupKeys, ?_, fun catalogId => ?_, fun db' => ?_⟩
  · refine (List.nodupKeys_iff_pairwise.1 groups.nodupKeys).imp_of_mem fun {e e'} he he' hne => ?_
    intro id hid hid'
    have hin := (KubeClusterServer.mem_groupByCatalog (hperm.mem_iff.1 he) id).1 hid
    have hin' := (KubeClusterServer.mem_groupByCatalog (hperm.mem_iff.1 he') id).1 hid'
    obtain ⟨w, hw, hwid, hcatalog, -⟩ := h.mem_found.1 ((hfound _ _).1 hin)
    obtain ⟨w', hw', hwid', hcatalog', -⟩ := h.mem_found.1 ((hfound _ _).1 hin')
    cases Table.eq_of_conflict hw hw' (.inl (hwid.trans hwid'.symm))
    exact hne (hcatalog.symm.trans hcatalog')
  · have hkeys : catalogId ∈ groups.entries.keys ↔
        catalogId ∈ (KubeClusterServer.groupByCatalog found).entries.keys :=
      (hperm.map Sigma.fst).mem_iff
    rw [hkeys, KubeClusterServer.mem_keys_groupByCatalog]
    constructor
    · rintro ⟨id, hid⟩
      obtain ⟨w, hw, -, hcatalog, hdepends⟩ := h.mem_found.1 ((hfound _ _).1 hid)
      exact ⟨w, hw, hcatalog, hdepends⟩
    · rintro ⟨w, hw, hcatalog, hdepends⟩
      exact ⟨w.id, (hfound _ _).2 (h.mem_found.2 ⟨w, hw, rfl, hcatalog, hdepends⟩)⟩
  · rw [← (KubeClusterServer.sameOutcome_publishDependentCatalog resourceType.toString ""
      event.timestamp groups.entries).run_eq_ok, KubeClusterServer.handleDependencyChange,
      Program.run_bind_of_ok hrun]
    split
    · next hempty =>
      cases List.isEmpty_iff.1 hempty
      have hnil : groups.entries = [] := hperm.eq_nil
      rw [hnil]
      rfl
    · rfl

/-- **Exact events.** The handler is exact for an event exactly where no deleted workload and no
workload of a deleted catalog is the only one to depend on the resource in its catalog. -/
theorem Current.exact_iff_noStale (h : s.Current) :
    s.Exact clusterId event resourceType ↔ s.NoStale clusterId event resourceType := by
  constructor
  · intro hexact w hw hdepends
    obtain ⟨db', hrun, hcatalogs⟩ := hexact (.identity _)
    obtain ⟨entries, hnodup, hdisjoint, hkeys, hiff⟩ := h.run_handle (.identity _)
    rw [hiff] at hrun
    have hlive := KubeClusterServer.liveCatalog_of_run_publishCatalogs hrun
    obtain ⟨db₁, hrun₁, hpublished⟩ := KubeClusterServer.run_publishCatalogs_of_live ""
      event.timestamp hnodup hdisjoint hlive
    cases hrun.symm.trans hrun₁
    have hkey : w.appCatalogId ∈ entries.keys := (hkeys _).2 ⟨w, hw, rfl, hdepends⟩
    obtain ⟨ids, he⟩ := List.exists_of_mem_keys hkey
    obtain ⟨catalog, hmem, hid, -⟩ := hlive _ he
    refine ⟨catalog, hmem, hid, ?_⟩
    by_contra hnot
    obtain ⟨row', hrow', hrid', -, hkept⟩ := hcatalogs catalog hmem
    obtain ⟨row'', hrow'', hrid'', -, hversion⟩ := hpublished.catalogs catalog hmem
    cases Table.eq_of_conflict hrow' hrow'' (hrid'.trans hrid''.symm)
    rw [hkept hnot, if_pos (hid ▸ hkey)] at hversion
    omega
  · intro hstale rs
    obtain ⟨entries, hnodup, hdisjoint, hkeys, hiff⟩ := h.run_handle rs
    -- every group is one of an affected catalog
    have haffected : ∀ catalogId ∈ entries.keys, ∃ catalog ∈ s.db.appCatalogs.rows,
        catalog.id = catalogId ∧ s.Affected clusterId event resourceType catalog := by
      intro catalogId hkey
      obtain ⟨w, hw, rfl, hdepends⟩ := (hkeys _).1 hkey
      exact hstale w hw hdepends
    have hlive : ∀ e ∈ entries, s.db.LiveCatalog e.1 := by
      intro e he
      obtain ⟨catalog, hmem, hid, hdel, -⟩ := haffected e.1 (List.mem_keys_of_mem he)
      exact ⟨catalog, hmem, hid, hdel⟩
    obtain ⟨db', hrun, hpublished⟩ := KubeClusterServer.run_publishCatalogs_of_live ""
      event.timestamp hnodup hdisjoint hlive
    refine ⟨db', (hiff db').2 hrun, fun row hrow => ?_⟩
    obtain ⟨row', hrow', hid', -, hversion⟩ := hpublished.catalogs row hrow
    refine ⟨row', hrow', hid', fun haff => ?_, fun hnot => ?_⟩
    · obtain ⟨-, w, hw, -, hcatalog, hdepends⟩ := haff
      rw [hversion, if_pos ((hkeys _).2 ⟨w, hw, hcatalog, hdepends⟩)]
    · rw [hversion, if_neg fun hkey => ?_]
      obtain ⟨catalog, hmem, hid, haff⟩ := haffected _ hkey
      cases Table.eq_of_conflict hmem hrow hid
      exact hnot haff

end Observed

end Lapdev
