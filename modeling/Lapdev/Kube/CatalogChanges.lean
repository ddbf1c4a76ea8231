import Lapdev.Kube.PublishCatalogs

/-!
# The change an event makes to catalogs

Both event handlers are one loop that writes rows and records catalogs, followed by the publication
of the recorded catalogs. A `CatalogChange` is what such a loop does to the rows, and
`publishes_iff` says when the handler publishes it whatever the order of the hash map: every
recorded catalog is live, or no workload of a live catalog changes.
-/

namespace Lapdev

open RustStd Sql Programs

variable {Text : Type}

/-- The stored content of a workload differs. -/
def ContentChanged (row row' : KubeAppCatalogWorkload.Model Text) : Prop :=
  row'.containers ≠ row.containers ∨ row'.ports ≠ row.ports ∨ row'.workloadYaml ≠ row.workloadYaml

theorem not_contentChanged_self (row : KubeAppCatalogWorkload.Model Text) :
    ¬ContentChanged row row := by
  simp [ContentChanged]

/-- Only the content of a workload matters for its change. -/
theorem SameWorkload.contentChanged_iff {row row' row'' : KubeAppCatalogWorkload.Model Text}
    (h : SameWorkload row' row'') : ContentChanged row row'' ↔ ContentChanged row row' := by
  rw [ContentChanged, h.containers, h.ports, h.workloadYaml, ContentChanged]

/-- **No silent change.** Every live catalog with a live workload whose content differs has a
greater version, and the workload is stamped with it. -/
def Publishes (db db' : Database Text) : Prop :=
  ∀ catalog ∈ db.appCatalogs.rows, catalog.deletedAt = none →
    ∀ row ∈ db.catalogWorkloads.rows, row.deletedAt = none → row.appCatalogId = catalog.id →
      ∀ row' ∈ db'.catalogWorkloads.rows, row'.id = row.id → ContentChanged row row' →
        ∃ catalog' ∈ db'.appCatalogs.rows, catalog'.id = catalog.id ∧
          catalog.syncVersion < catalog'.syncVersion ∧
          row'.catalogSyncVersion = catalog'.syncVersion

/-- Without a change there is nothing to publish. -/
theorem publishes_refl (db : Database Text) : Publishes db db := by
  intro catalog _ _ row hrow _ _ row' hrow' hid hchanged
  rw [Table.eq_of_conflict hrow' hrow (.inl hid)] at hchanged
  exact absurd hchanged (not_contentChanged_self row)

/-- The tables the loop of a handler reads and does not write. -/
structure SameSources (db db' : Database Text) : Prop where
  appCatalogs : db'.appCatalogs = db.appCatalogs
  clusterServices : db'.clusterServices = db.clusterServices
  clusterServiceSelectors : db'.clusterServiceSelectors = db.clusterServiceSelectors

theorem SameSources.refl (db : Database Text) : SameSources db db := ⟨rfl, rfl, rfl⟩

theorem SameSources.trans {db db' db'' : Database Text} (h : SameSources db db')
    (h' : SameSources db' db'') : SameSources db db'' :=
  ⟨h'.appCatalogs.trans h.appCatalogs, h'.clusterServices.trans h.clusterServices,
    h'.clusterServiceSelectors.trans h.clusterServiceSelectors⟩

/-- What the loop of a handler does to the rows of catalog workloads: the live rows it walks over,
the row it leaves of each, and the rows whose catalog it records. -/
structure CatalogChange (db : Database Text) where
  workloads : List (KubeAppCatalogWorkload.Model Text)
  put : KubeAppCatalogWorkload.Model Text → KubeAppCatalogWorkload.Model Text
  bump : KubeAppCatalogWorkload.Model Text → Bool
  sublist : workloads.Sublist db.catalogWorkloads.rows
  live : ∀ w ∈ workloads, w.deletedAt = none
  keepsIndex : KeepsIndex put
  bump_of_contentChanged : ∀ w ∈ workloads, ContentChanged w (put w) → bump w = true

namespace CatalogChange

variable {db db₁ : Database Text} (change : CatalogChange db)

/-- Every recorded catalog is live, or no workload of a live catalog changes. -/
def Publishable : Prop :=
  (∀ w ∈ change.workloads, change.bump w = true → db.LiveCatalog w.appCatalogId) ∨
    ∀ w ∈ change.workloads, db.LiveCatalog w.appCatalogId → ¬ContentChanged w (change.put w)

/-- A change of no row is publishable. -/
theorem publishable_of_isEmpty (h : change.workloads.isEmpty = true) : change.Publishable := by
  refine .inl fun w hw => ?_
  rw [List.isEmpty_iff.1 h] at hw
  exact absurd hw List.not_mem_nil

/-- A row after the loop. -/
def written (row : KubeAppCatalogWorkload.Model Text) : KubeAppCatalogWorkload.Model Text :=
  if row.id ∈ change.workloads.map (·.id) then change.put row else row

/-- The hash map of the loop after one row. -/
def record (byCatalog : HashTable Uuid (List Uuid)) (w : KubeAppCatalogWorkload.Model Text) :
    HashTable Uuid (List Uuid) :=
  if change.bump w then KubeClusterServer.pushWorkload byCatalog w.appCatalogId w.id else byCatalog

/-- The hash map after the loop. -/
def recorded : HashTable Uuid (List Uuid) := change.workloads.foldl change.record ∅

/-- The recorded workloads of one catalog. -/
def recordedOf (catalogId : Uuid) : List Uuid :=
  (change.workloads.filter fun w => change.bump w && w.appCatalogId = catalogId).map (·.id)

/-! ## The rows the loop walks over -/

theorem mem_rows {w : KubeAppCatalogWorkload.Model Text} (h : w ∈ change.workloads) :
    w ∈ db.catalogWorkloads.rows :=
  change.sublist.subset h

theorem nodup_ids : (change.workloads.map (·.id)).Nodup := by
  have hunique := db.catalogWorkloads.unique.sublist change.sublist
  exact List.pairwise_map.2 (hunique.imp fun hn heq => hn (.inl heq))

/-- A row with the id of a row of the loop is that row. -/
theorem eq_of_id {w row : KubeAppCatalogWorkload.Model Text} (hw : w ∈ change.workloads)
    (hrow : row ∈ db.catalogWorkloads.rows) (h : row.id = w.id) : row = w :=
  Table.eq_of_conflict hrow (change.mem_rows hw) (.inl h)

theorem id_written (row : KubeAppCatalogWorkload.Model Text) : (change.written row).id = row.id := by
  unfold written
  split
  · exact change.keepsIndex.id row
  · rfl

/-- A row of the loop is written. -/
theorem written_of_mem {w : KubeAppCatalogWorkload.Model Text} (h : w ∈ change.workloads) :
    change.written w = change.put w :=
  if_pos (List.mem_map_of_mem h)

/-- A row that the loop changes is one it walks over. -/
theorem mem_of_contentChanged {row : KubeAppCatalogWorkload.Model Text}
    (hrow : row ∈ db.catalogWorkloads.rows) (h : ContentChanged row (change.written row)) :
    row ∈ change.workloads ∧ ContentChanged row (change.put row) := by
  unfold written at h
  split at h
  · next hid =>
    obtain ⟨w, hw, heq⟩ := List.mem_map.1 hid
    rw [change.eq_of_id hw hrow heq.symm] at h ⊢
    exact ⟨hw, h⟩
  · exact absurd h (not_contentChanged_self row)

/-! ## The catalogs the loop records -/

/-- One entry of the map, after any part of the loop. -/
theorem lookup_foldl_record (ws : List (KubeAppCatalogWorkload.Model Text))
    (byCatalog : HashTable Uuid (List Uuid)) (catalogId : Uuid) :
    (ws.foldl change.record byCatalog).lookup catalogId =
      match (ws.filter fun w => change.bump w && w.appCatalogId = catalogId).map (·.id) with
      | [] => byCatalog.lookup catalogId
      | ids => some ((byCatalog.lookup catalogId).getD [] ++ ids) := by
  induction ws generalizing byCatalog with
  | nil => rfl
  | cons w ws ih =>
    rw [List.foldl_cons, ih, record]
    cases hbump : change.bump w with
    | false => simp [hbump]
    | true =>
      rw [if_pos rfl, KubeClusterServer.pushWorkload, HashTable.lookup_insert]
      by_cases heq : w.appCatalogId = catalogId
      · subst heq
        simp only [hbump, List.filter_cons, Bool.true_and, decide_true, if_true, List.map_cons,
          Option.getD_some]
        split
        · next hnil => rw [hnil]
        · simp
      · simp [hbump, heq, Ne.symm heq]

theorem lookup_recorded (catalogId : Uuid) {ids : List Uuid} :
    change.recorded.lookup catalogId = some ids ↔
      ids = change.recordedOf catalogId ∧ ids ≠ [] := by
  rw [recorded, lookup_foldl_record, recordedOf]
  split
  · next h => simp [h]
  · next h =>
    rw [Option.some.injEq, AList.lookup_empty, Option.getD_none, List.nil_append]
    exact ⟨fun heq => ⟨heq.symm, fun hnil => h (heq.trans hnil)⟩, fun heq => heq.1.symm⟩

/-- What an entry of the map lists. -/
theorem mem_recorded {e : (_ : Uuid) × List Uuid} (he : e ∈ change.recorded.entries) {id : Uuid} :
    id ∈ e.2 ↔
      ∃ w ∈ change.workloads, change.bump w = true ∧ w.appCatalogId = e.1 ∧ w.id = id := by
  have h := (change.lookup_recorded e.1).1 (AList.mem_lookup_iff.2 he)
  rw [h.1, recordedOf]
  simp [and_assoc]

/-- A catalog of the map has a workload that records it. -/
theorem exists_of_mem_recorded {e : (_ : Uuid) × List Uuid} (he : e ∈ change.recorded.entries) :
    ∃ w ∈ change.workloads, change.bump w = true ∧ w.appCatalogId = e.1 := by
  have h := (change.lookup_recorded e.1).1 (AList.mem_lookup_iff.2 he)
  obtain ⟨id, hid⟩ := List.exists_mem_of_ne_nil _ h.2
  obtain ⟨w, hw, hbump, heq, -⟩ := (change.mem_recorded he).1 hid
  exact ⟨w, hw, hbump, heq⟩

/-- Every workload that bumps stands in the entry of its catalog. -/
theorem exists_entry {w : KubeAppCatalogWorkload.Model Text} (hw : w ∈ change.workloads)
    (hbump : change.bump w = true) :
    ∃ e ∈ change.recorded.entries, e.1 = w.appCatalogId ∧ w.id ∈ e.2 := by
  have hmem : w.id ∈ change.recordedOf w.appCatalogId :=
    List.mem_map_of_mem (List.mem_filter.2 ⟨hw, by simp [hbump]⟩)
  exact ⟨⟨w.appCatalogId, change.recordedOf w.appCatalogId⟩,
    AList.mem_lookup_iff.1 ((change.lookup_recorded _).2 ⟨rfl, List.ne_nil_of_mem hmem⟩), rfl, hmem⟩

/-- No workload stands in the entries of two catalogs. -/
theorem pairwise_disjoint {entries : List ((_ : Uuid) × List Uuid)}
    (h : entries.Perm change.recorded.entries) :
    entries.Pairwise fun e e' => ∀ id ∈ e.2, id ∉ e'.2 := by
  have hkeys := List.nodupKeys_iff_pairwise.1
    ((List.perm_nodupKeys h).2 change.recorded.nodupKeys)
  refine hkeys.imp_of_mem fun {e e'} he he' hne id hid hid' => ?_
  obtain ⟨w, hw, -, heq, hwid⟩ := (change.mem_recorded (h.mem_iff.1 he)).1 hid
  obtain ⟨w', hw', -, heq', hwid'⟩ := (change.mem_recorded (h.mem_iff.1 he')).1 hid'
  have hsame := change.eq_of_id hw (change.mem_rows hw') (hwid'.trans hwid.symm)
  exact hne (heq.symm.trans (hsame ▸ heq'))

/-! ## The loop -/

/-- What one round of the loop does: its row is written, and its catalog recorded. -/
def Round (f : HashTable Uuid (List Uuid) → KubeAppCatalogWorkload.Model Text →
    Query Text (HashTable Uuid (List Uuid))) : Prop :=
  ∀ byCatalog w db₁, w ∈ change.workloads → SameSources db db₁ → w ∈ db₁.catalogWorkloads.rows →
    ∃ db₂, (f byCatalog w).run db₁ = (.ok (change.record byCatalog w), db₂) ∧ SameSources db db₂ ∧
      db₂.catalogWorkloads.rows = db₁.catalogWorkloads.rows.map fun row =>
        if row.id = w.id then change.put row else row

variable {f : HashTable Uuid (List Uuid) → KubeAppCatalogWorkload.Model Text →
  Query Text (HashTable Uuid (List Uuid))}

/-- The loop over some of the rows writes them all. -/
theorem run_rounds (hf : change.Round f) {ws : List (KubeAppCatalogWorkload.Model Text)}
    (hws : ws ⊆ change.workloads) (hnodup : (ws.map (·.id)).Nodup)
    (byCatalog : HashTable Uuid (List Uuid)) (hsrc : SameSources db db₁)
    (hmem : ws ⊆ db₁.catalogWorkloads.rows) :
    ∃ db₂, (Program.foldEach f byCatalog ws).run db₁ =
        (.ok (ws.foldl change.record byCatalog), db₂) ∧ SameSources db db₂ ∧
      db₂.catalogWorkloads.rows = db₁.catalogWorkloads.rows.map fun row =>
        if row.id ∈ ws.map (·.id) then change.put row else row := by
  induction ws generalizing byCatalog db₁ with
  | nil => exact ⟨db₁, rfl, hsrc, by simp⟩
  | cons w ws ih =>
    rw [List.map_cons, List.nodup_cons] at hnodup
    rw [List.cons_subset] at hws hmem
    obtain ⟨db₂, hrun, hsrc₂, hrows₂⟩ := hf byCatalog w db₁ hws.1 hsrc hmem.1
    have hmem₂ : ws ⊆ db₂.catalogWorkloads.rows := by
      intro w' hw'
      have hne : w'.id ≠ w.id := fun heq => hnodup.1 (heq ▸ List.mem_map_of_mem hw')
      rw [hrows₂]
      exact List.mem_map.2 ⟨w', hmem.2 hw', if_neg hne⟩
    obtain ⟨db₃, hrun₃, hsrc₃, hrows₃⟩ :=
      ih hws.2 hnodup.2 (change.record byCatalog w) hsrc₂ hmem₂
    refine ⟨db₃, ?_, hsrc₃, ?_⟩
    · rw [Program.run_foldEach_cons, hrun]
      exact hrun₃
    · rw [hrows₃, hrows₂, List.map_map]
      refine List.map_congr_left fun row _ => ?_
      by_cases heq : row.id = w.id
      · have hnot : (change.put row).id ∉ ws.map (·.id) := by
          rw [change.keepsIndex.id, heq]
          exact hnodup.1
        have hin : row.id ∈ (w :: ws).map (·.id) := heq ▸ List.mem_cons_self
        rw [Function.comp_apply, if_pos heq, if_neg hnot, if_pos hin]
      · simp [heq]

/-! ## The publication -/

section
variable (text : String) (syncedAt : Timestamp) (rs : RandomState ((_ : Uuid) × List Uuid))

/-- A handler: the loop, and the publication of the recorded catalogs. -/
def handler (f : HashTable Uuid (List Uuid) → KubeAppCatalogWorkload.Model Text →
    Query Text (HashTable Uuid (List Uuid))) : Query Text PUnit :=
  Program.foldEach f ∅ change.workloads >>= fun byCatalog =>
    KubeClusterServer.publishCatalogs text syncedAt (byCatalog.reseed rs).entries

/-- A handler publishes the recorded catalogs from the rows that its loop has written. -/
theorem run_handler (hf : change.Round f) :
    ∃ db₁, (change.handler text syncedAt rs f).run db =
        (KubeClusterServer.publishCatalogs text syncedAt (change.recorded.reseed rs).entries).run
          db₁ ∧ SameSources db db₁ ∧
      db₁.catalogWorkloads.rows = db.catalogWorkloads.rows.map change.written := by
  obtain ⟨db₁, hrun, hsrc, hrows⟩ := change.run_rounds hf (List.Subset.refl _) change.nodup_ids ∅
    (.refl db) change.sublist.subset
  exact ⟨db₁, Program.run_bind_of_ok hrun, hsrc, hrows⟩

/-- A content that differs after the publication is one that the loop changed. -/
theorem mem_of_contentChanged_publish
    (hrows : db₁.catalogWorkloads.rows = db.catalogWorkloads.rows.map change.written)
    {row row₁ row' : KubeAppCatalogWorkload.Model Text} (hrow : row ∈ db.catalogWorkloads.rows)
    (hrow₁ : row₁ ∈ db₁.catalogWorkloads.rows) (hsame : SameWorkload row₁ row')
    (hid : row'.id = row.id) (hchanged : ContentChanged row row') :
    row₁ = change.written row ∧ row ∈ change.workloads ∧ ContentChanged row (change.put row) := by
  rw [hrows] at hrow₁
  obtain ⟨row₀, hrow₀, rfl⟩ := List.mem_map.1 hrow₁
  have heq : row₀ = row := by
    refine Table.eq_of_conflict hrow₀ hrow (.inl ?_)
    rw [← hid, hsame.id, change.id_written]
  subst heq
  exact ⟨rfl, change.mem_of_contentChanged hrow (hsame.contentChanged_iff.1 hchanged)⟩

/-- Whatever the order of the map, a publishable change is published. -/
theorem publishes_of_publishable (hf : change.Round f) (h : change.Publishable) :
    Publishes db ((change.handler text syncedAt rs f).run db).2 := by
  obtain ⟨db₁, hrun, hsrc, hrows⟩ := change.run_handler text syncedAt rs hf
  rw [hrun]
  have hperm := rs.arrange_perm change.recorded.entries
  intro catalog hcatalog hlive row hrow hrowLive hcat row' hrow' hid hchanged
  rcases h with hall | hnone
  · -- every catalog of the map is live
    have hlive₁ : ∀ e ∈ (change.recorded.reseed rs).entries, db₁.LiveCatalog e.1 := by
      intro e he
      obtain ⟨w, hw, hbump, heq⟩ := change.exists_of_mem_recorded (hperm.mem_iff.1 he)
      rw [Database.LiveCatalog, hsrc.appCatalogs, ← heq]
      exact hall w hw hbump
    obtain ⟨db', hpublish, hpublished⟩ := KubeClusterServer.run_publishCatalogs_of_live text syncedAt
      (change.recorded.reseed rs).nodupKeys (change.pairwise_disjoint hperm) hlive₁
    rw [hpublish] at hrow' ⊢
    obtain ⟨row₁, hrow₁, hsame, hstamped, -⟩ := hpublished.workloads row' hrow'
    obtain ⟨rfl, hmem, hput⟩ :=
      change.mem_of_contentChanged_publish hrows hrow hrow₁ hsame hid hchanged
    obtain ⟨e, he, hkey, hin⟩ := change.exists_entry hmem (change.bump_of_contentChanged row hmem hput)
    have he' : e ∈ (change.recorded.reseed rs).entries := hperm.mem_iff.2 he
    have hcatalog₁ : catalog ∈ db₁.appCatalogs.rows := hsrc.appCatalogs ▸ hcatalog
    have hkey' : catalog.id = e.1 := hcat.symm.trans hkey.symm
    obtain ⟨catalog', hcatalog', hid', -, hversion⟩ := hpublished.catalogs catalog hcatalog₁
    rw [if_pos (hkey' ▸ List.mem_keys_of_mem he')] at hversion
    refine ⟨catalog', hcatalog', hid', by omega, ?_⟩
    rw [hversion]
    exact hstamped e he' (change.id_written row ▸ hin) catalog hcatalog₁ hkey'
  · -- no workload of a live catalog changes
    have hkeeps := (KubeClusterServer.preserves_publishCatalogs text syncedAt
      (change.recorded.reseed rs).entries db₁).run fun r hr => ⟨r, hr, .refl r⟩
    obtain ⟨row₁, hrow₁, hsame⟩ := hkeeps row' hrow'
    obtain ⟨-, hmem, hput⟩ :=
      change.mem_of_contentChanged_publish hrows hrow hrow₁ hsame hid hchanged
    exact absurd hput (hnone row hmem ⟨catalog, hcatalog, hcat.symm, hlive⟩)

/-- A change that is not publishable is lost in some order of the map: the publication stops at a
deleted catalog before the first version grows. -/
theorem exists_not_publishes (hf : change.Round f) (h : ¬change.Publishable) :
    ∃ rs, ¬Publishes db ((change.handler text syncedAt rs f).run db).2 := by
  simp only [Publishable, not_or, not_forall, not_not] at h
  obtain ⟨⟨w, hw, hbump, hdead⟩, w', hw', ⟨catalog, hcatalog, hcat, hlive⟩, hput⟩ := h
  obtain ⟨e, he, hkey, -⟩ := change.exists_entry hw hbump
  obtain ⟨before, after, hsplit⟩ := List.append_of_mem he
  have hperm : (e :: (before ++ after)).Perm change.recorded.entries :=
    hsplit ▸ List.perm_middle.symm
  obtain ⟨rs, hrs⟩ := RandomState.exists_arrange hperm
  obtain ⟨db₁, hrun, hsrc, hrows⟩ := change.run_handler text syncedAt rs hf
  have hdead₁ : ¬db₁.LiveCatalog e.1 := by
    rw [Database.LiveCatalog, hsrc.appCatalogs, hkey]
    exact hdead
  obtain ⟨err, herr⟩ := KubeClusterServer.run_publishCatalog_of_not_live text syncedAt hdead₁
  have hstop : ((change.handler text syncedAt rs f).run db).2 = db₁ := by
    have hentries : (change.recorded.reseed rs).entries = e :: (before ++ after) := hrs
    rw [hrun, hentries, KubeClusterServer.publishCatalogs, Program.forEach,
      Program.run_foldEach_cons, herr]
  refine ⟨rs, fun hpublishes => ?_⟩
  rw [hstop] at hpublishes
  have hmem₁ : change.put w' ∈ db₁.catalogWorkloads.rows := by
    rw [hrows, ← change.written_of_mem hw']
    exact List.mem_map_of_mem (change.mem_rows hw')
  obtain ⟨catalog', hcatalog', hid', hlt, -⟩ := hpublishes catalog hcatalog hlive w'
    (change.mem_rows hw') (change.live w' hw') hcat.symm _ hmem₁ (change.keepsIndex.id w') hput
  rw [hsrc.appCatalogs] at hcatalog'
  rw [Table.eq_of_conflict hcatalog' hcatalog hid'] at hlt
  exact absurd hlt (lt_irrefl _)

/-- **When a change is published.** The handler publishes it in every order of the map exactly when
it is publishable. -/
theorem publishes_iff (hf : change.Round f) :
    (∀ rs, Publishes db ((change.handler text syncedAt rs f).run db).2) ↔ change.Publishable := by
  constructor
  · intro h
    by_contra hnot
    obtain ⟨rs, hrs⟩ := change.exists_not_publishes text syncedAt hf hnot
    exact hrs (h rs)
  · exact fun h rs => change.publishes_of_publishable text syncedAt rs hf h

end

end CatalogChange

end Lapdev
