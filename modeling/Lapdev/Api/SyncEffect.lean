import Lapdev.Api.CatalogSync
import Lapdev.Api.SyncLabels

/-!
# What a sync writes

The transaction of a sync and the links after it, described on the rows: the live rows of the
environment are those whose name is in the catalog and was not deployed, and one for the last
deployed workload of each name; of its services those with a deployed name are left
(`triple_updateEnvironmentWorkloadsInDb_written`); and the rows of other environments change at most
in their link and version (`triple_relinkBranchOverrides`).
-/

namespace Lapdev

open RustStd Sql Programs

variable {Text : Type}

namespace KubeController

/-- A later workload replaces the earlier ones of its name. -/
theorem mem_lastOfEachName_append {done : List (NewEnvironmentWorkload Text)}
    {c d : NewEnvironmentWorkload Text} :
    d ∈ lastOfEachName (done ++ [c]) ↔
      (d ∈ lastOfEachName done ∧ d.details.name ≠ c.details.name) ∨ d = c := by
  induction done with
  | nil => simp [lastOfEachName]
  | cons e done ih =>
    rw [List.cons_append, lastOfEachName, lastOfEachName, List.any_append]
    by_cases hlater : done.any fun later => later.details.name = e.details.name
    · simp only [hlater, Bool.true_or, if_true]
      exact ih
    · by_cases heq : c.details.name = e.details.name
      · simp only [hlater, List.any_cons, heq, decide_true, List.any_nil, Bool.or_false,
          Bool.or_true, if_true, ih]
        grind
      · simp only [hlater, List.any_cons, heq, decide_false, List.any_nil, Bool.or_false]
        grind

/-- Without two workloads of one name every deployed workload stays live. -/
theorem lastOfEachName_of_nodup {details : List (NewEnvironmentWorkload Text)}
    (h : (details.map (·.details.name)).Nodup) : lastOfEachName details = details := by
  induction details with
  | nil => rfl
  | cons d details ih =>
    rw [List.map_cons, List.nodup_cons] at h
    have hlater : ¬(details.any fun later => later.details.name = d.details.name) := by
      intro hany
      obtain ⟨later, hmem, hname⟩ := List.any_eq_true.1 hany
      exact h.1 (of_decide_eq_true hname ▸ List.mem_map_of_mem hmem)
    rw [lastOfEachName, if_neg hlater, ih h.2]

/-! ## The rows of one environment -/

/-- What a sync has done to the workload rows so far: of the live rows of its environment the ones
to `keep` are left, and the `new` ones are there; the rows of the others are untouched. -/
structure RowsAfter (environmentId : Uuid) (keep new : KubeEnvironmentWorkload.Model Text → Prop)
    (t₀ t : Table (KubeEnvironmentWorkload.Model Text)) : Prop where
  live : ∀ row, liveIn environmentId row = true →
    (row ∈ t.rows ↔ (row ∈ t₀.rows ∧ keep row) ∨ new row)
  others : ∀ row : KubeEnvironmentWorkload.Model Text, row.environmentId ≠ environmentId →
    (row ∈ t.rows ↔ row ∈ t₀.rows)
  ids : ∀ row ∈ t₀.rows, ∃ row' ∈ t.rows, row'.id = row.id ∧ row'.environmentId = row.environmentId
  fresh : ∀ row, liveIn environmentId row = true → new row → ∀ row₀ ∈ t₀.rows, row₀.id ≠ row.id

section
variable {environmentId : Uuid} {keep new : KubeEnvironmentWorkload.Model Text → Prop}
  {t₀ t t' : Table (KubeEnvironmentWorkload.Model Text)} {now : Timestamp}

theorem mem_liveIn {row : KubeEnvironmentWorkload.Model Text} :
    liveIn environmentId row = true ↔ row.environmentId = environmentId ∧ row.deletedAt = none := by
  simp [liveIn]

theorem RowsAfter.refl (t : Table (KubeEnvironmentWorkload.Model Text)) :
    RowsAfter environmentId (fun _ => True) (fun _ => False) t t :=
  ⟨fun _ _ => by simp, fun _ _ => Iff.rfl, fun row hrow => ⟨row, hrow, rfl, rfl⟩,
    fun _ _ hnew => hnew.elim⟩

/-- The predicates matter on live rows of the environment only. -/
theorem RowsAfter.congr {keep' new' : KubeEnvironmentWorkload.Model Text → Prop}
    (h : RowsAfter environmentId keep new t₀ t)
    (hkeep : ∀ row ∈ t₀.rows, liveIn environmentId row = true → (keep row ↔ keep' row))
    (hnew : ∀ row, liveIn environmentId row = true → (new row ↔ new' row)) :
    RowsAfter environmentId keep' new' t₀ t := by
  refine ⟨fun row hlive => ?_, h.others, h.ids, fun row hlive hrow =>
    h.fresh row hlive ((hnew row hlive).2 hrow)⟩
  rw [h.live row hlive, hnew row hlive]
  exact or_congr_left (and_congr_right fun hmem => hkeep row hmem hlive)

/-- Rows of the environment are deleted. -/
theorem RowsAfter.softDelete {p : KubeEnvironmentWorkload.Model Text → Bool}
    (h : RowsAfter environmentId keep new t₀ t)
    (hp : ∀ row ∈ t.rows, p row = true → row.environmentId = environmentId)
    (hrun : t.updateMany p (fun row => { row with deletedAt := some now }) = .ok t') :
    RowsAfter environmentId (fun row => keep row ∧ p row = false)
      (fun row => new row ∧ p row = false) t₀ t' where
  live := by
    intro row hlive
    have hmem : row ∈ t'.rows ↔ row ∈ t.rows ∧ p row = false := by
      rw [Table.mem_updateMany hrun]
      refine ⟨fun h => h.elim ?_ id, .inr⟩
      rintro ⟨row₀, -, -, rfl⟩
      exact nomatch (mem_liveIn.1 hlive).2
    rw [hmem, h.live row hlive]
    tauto
  others := by
    intro row hne
    rw [Table.mem_updateMany hrun, ← h.others row hne]
    constructor
    · rintro (⟨row₀, hmem, hp₀, rfl⟩ | ⟨hmem, -⟩)
      · exact absurd (hp row₀ hmem hp₀) hne
      · exact hmem
    · intro hmem
      exact .inr ⟨hmem, Bool.eq_false_iff.2 fun hp₀ => hne (hp row hmem hp₀)⟩
  ids := by
    intro row hrow
    obtain ⟨row', hrow', hid, henv⟩ := h.ids row hrow
    rcases hp₀ : p row' with _ | _
    · exact ⟨row', (Table.mem_updateMany hrun).2 (.inr ⟨hrow', hp₀⟩), hid, henv⟩
    · exact ⟨_, (Table.mem_updateMany hrun).2 (.inl ⟨row', hrow', hp₀, rfl⟩), hid, henv⟩
  fresh := fun row hlive hrow => h.fresh row hlive hrow.1

/-- A row of the environment is inserted. -/
theorem RowsAfter.insert {inserted : KubeEnvironmentWorkload.Model Text}
    (h : RowsAfter environmentId keep new t₀ t) (henv : inserted.environmentId = environmentId)
    (hrun : t.insert inserted = .ok t') :
    RowsAfter environmentId keep (fun row => new row ∨ row = inserted) t₀ t' where
  live := by
    intro row hlive
    rw [Table.mem_insert hrun, h.live row hlive, or_assoc]
  others := by
    intro row hne
    rw [Table.mem_insert hrun, ← h.others row hne]
    exact or_iff_left fun heq => hne (heq ▸ henv)
  ids := by
    intro row hrow
    obtain ⟨row', hrow', hid, henv'⟩ := h.ids row hrow
    exact ⟨row', (Table.mem_insert hrun).2 (.inl hrow'), hid, henv'⟩
  fresh := by
    rintro row hlive (hrow | rfl) row₀ hrow₀ hid
    · exact h.fresh row hlive hrow row₀ hrow₀ hid
    · obtain ⟨row', hrow', hid', -⟩ := h.ids row₀ hrow₀
      exact Table.not_conflict_of_insert hrun hrow' (.inl (hid'.trans hid))

end

/-! ## The loops -/

section
variable {environmentId : Uuid} {environmentNamespace : String} {version : Int} {now : Timestamp}

/-- Only the workload rows differ, and these as a sync leaves them. -/
def WorkloadsAfter (environmentId : Uuid) (keep new : KubeEnvironmentWorkload.Model Text → Prop)
    (db₀ db : Database Text) : Prop :=
  ∃ t, db = { db₀ with environmentWorkloads := t } ∧
    RowsAfter environmentId keep new db₀.environmentWorkloads t

theorem WorkloadsAfter.congr {keep keep' new new' : KubeEnvironmentWorkload.Model Text → Prop}
    {db₀ db : Database Text} (h : WorkloadsAfter environmentId keep new db₀ db)
    (hkeep : ∀ row ∈ db₀.environmentWorkloads.rows, liveIn environmentId row = true →
      (keep row ↔ keep' row))
    (hnew : ∀ row, liveIn environmentId row = true → (new row ↔ new' row)) :
    WorkloadsAfter environmentId keep' new' db₀ db := by
  obtain ⟨t, rfl, ht⟩ := h
  exact ⟨t, rfl, ht.congr hkeep hnew⟩

/-- The first loop deletes the live rows whose name left the catalog. -/
theorem triple_deleteMissing_loop (names : List String) (db₀ : Database Text) :
    Triple (fun db => db = db₀)
      (Program.forEach (deleteMissing names now)
        (db₀.environmentWorkloads.select (liveIn environmentId)))
      (fun _ => WorkloadsAfter environmentId (fun row => row.name ∈ names) (fun _ => False) db₀)
      fun _ _ => True := by
  let existing := db₀.environmentWorkloads.select (liveIn environmentId)
  let I (done : List (KubeEnvironmentWorkload.Model Text)) : Database Text → Prop :=
    WorkloadsAfter environmentId (fun row => ∀ e ∈ done, e.name ∉ names → row.id ≠ e.id)
      (fun _ => False) db₀
  have hloop : Triple (I []) (Program.forEach (deleteMissing names now) existing)
      (fun _ => I existing) fun _ _ => True := by
    refine Triple.forEach_done fun done e rest hdone => ?_
    have he : e ∈ existing := hdone ▸ List.mem_append_right done List.mem_cons_self
    obtain ⟨hmem, hlive⟩ := Table.mem_select.1 he
    have hdeleted : ∀ row : KubeEnvironmentWorkload.Model Text,
        (∀ e' ∈ done ++ [e], e'.name ∉ names → row.id ≠ e'.id) ↔
          (∀ e' ∈ done, e'.name ∉ names → row.id ≠ e'.id) ∧ (e.name ∉ names → row.id ≠ e.id) := by
      intro row
      simp [or_imp, forall_and]
    unfold deleteMissing
    split
    · next hname =>
      refine Triple.pure fun db hdb => hdb.congr (fun row _ _ => ?_) fun _ _ => Iff.rfl
      rw [hdeleted]
      exact (and_iff_left fun h => absurd hname h).symm
    · next hname =>
      refine Database.triple_statement ?_ fun _ _ _ => trivial
      rintro _ t' ⟨t, rfl, ht⟩ h
      refine ⟨t', rfl, (ht.softDelete ?_ (Table.updateOne_eq_ok.1 h).2).congr (fun row _ _ => ?_)
        fun _ _ => by simp⟩
      · intro row hrow hid
        obtain ⟨row', hrow', hid', henv'⟩ := ht.ids e hmem
        have heq : row = row' := Table.eq_of_conflict hrow hrow'
          (.inl ((of_decide_eq_true hid).trans hid'.symm))
        rw [heq, henv', (mem_liveIn.1 hlive).1]
      · rw [hdeleted]
        exact and_congr_right fun _ => by simp [hname]
  refine hloop.consequence ?_ (fun _ db h => h.congr (fun row hrow hlive => ?_) fun _ _ => Iff.rfl)
    fun _ _ h => h
  · rintro db rfl
    exact ⟨db.environmentWorkloads, rfl, (RowsAfter.refl _).congr (fun _ _ _ => by simp)
      fun _ _ => Iff.rfl⟩
  · have hexisting : row ∈ existing := Table.mem_select.2 ⟨hrow, hlive⟩
    constructor
    · intro h
      by_contra hname
      exact h row hexisting hname rfl
    · intro hname e he hmissing hid
      rw [Table.eq_of_conflict hrow (Table.mem_select.1 he).1 (.inl hid)] at hname
      exact hmissing hname

/-- The rows of a sync that are there after some workloads were deployed. -/
def newRows (environmentId : Uuid) (environmentNamespace : String) (version : Int) (now : Timestamp)
    (done : List (NewEnvironmentWorkload Text)) (row : KubeEnvironmentWorkload.Model Text) : Prop :=
  ∃ d ∈ lastOfEachName done, row = syncedModel environmentId environmentNamespace d version now

/-- The second loop replaces the live rows of the deployed names. -/
theorem triple_replaceDeployed_loop (environmentNamespace : String) (version : Int)
    (now : Timestamp) (keep : KubeEnvironmentWorkload.Model Text → Prop)
    (db₀ : Database Text) (details : List (NewEnvironmentWorkload Text)) :
    Triple (WorkloadsAfter environmentId keep (fun _ => False) db₀)
      (Program.foldEach (replaceDeployed environmentId environmentNamespace version now) [] details)
      (fun replaced db => WorkloadsAfter environmentId
          (fun row => keep row ∧ ∀ d ∈ details, d.details.name ≠ row.name)
          (newRows environmentId environmentNamespace version now details) db₀ db ∧
        ∀ p ∈ replaced, ∃ row ∈ db.environmentWorkloads.rows, row.id = p.1 ∧
          row.environmentId = environmentId)
      fun _ _ => True := by
  let I (done : List (NewEnvironmentWorkload Text)) (replaced : List (Uuid × Uuid))
      (db : Database Text) : Prop :=
    WorkloadsAfter environmentId (fun row => keep row ∧ ∀ d ∈ done, d.details.name ≠ row.name)
      (newRows environmentId environmentNamespace version now done) db₀ db ∧
    ∀ p ∈ replaced, ∃ row ∈ db.environmentWorkloads.rows, row.id = p.1 ∧
      row.environmentId = environmentId
  refine (Triple.foldEach_done (I := I) (E := fun _ _ => True) ?_ []).consequence
    (fun db h => ⟨h.congr (fun _ _ _ => by simp) fun _ _ => by simp [newRows, lastOfEachName],
      by simp⟩) (fun _ _ h => h) fun _ _ h => h
  intro done replaced c _ _
  -- the row that is read, and the table after each of the two statements
  refine Triple.bind (Q := fun existing db => I done replaced db ∧ ∀ e ∈ existing,
      ∃ row ∈ db.environmentWorkloads.rows, row.id = e.id ∧ row.environmentId = environmentId)
    (Triple.read fun db hdb => ⟨hdb, fun e he => ?_⟩) fun existing => ?_
  · obtain ⟨hmem, hp⟩ := Table.mem_of_one he
    simp only [liveNamed, Bool.and_eq_true, decide_eq_true_eq] at hp
    exact ⟨e, hmem, rfl, hp.1.1⟩
  let after (db : Database Text) : Prop := I (done ++ [c]) replaced db ∧ ∀ e ∈ existing,
    ∃ row ∈ db.environmentWorkloads.rows, row.id = e.id ∧ row.environmentId = environmentId
  let deleted (db : Database Text) : Prop :=
    (WorkloadsAfter environmentId
        (fun row => (keep row ∧ ∀ d ∈ done, d.details.name ≠ row.name) ∧ row.name ≠ c.details.name)
        (fun row => newRows environmentId environmentNamespace version now done row ∧
          row.name ≠ c.details.name) db₀ db ∧
      ∀ p ∈ replaced, ∃ row ∈ db.environmentWorkloads.rows, row.id = p.1 ∧
        row.environmentId = environmentId) ∧
    ∀ e ∈ existing, ∃ row ∈ db.environmentWorkloads.rows, row.id = e.id ∧
      row.environmentId = environmentId
  have hids : ∀ {t t' : Table (KubeEnvironmentWorkload.Model Text)}, t.updateMany
        (liveNamed environmentId c.details.name) (fun row => { row with deletedAt := some now }) =
        .ok t' → ∀ id, (∃ row ∈ t.rows, row.id = id ∧ row.environmentId = environmentId) →
        ∃ row ∈ t'.rows, row.id = id ∧ row.environmentId = environmentId := by
    rintro t t' h id ⟨row, hrow, hid, henv⟩
    rcases hp : liveNamed environmentId c.details.name row with _ | _
    · exact ⟨row, (Table.mem_updateMany h).2 (.inr ⟨hrow, hp⟩), hid, henv⟩
    · exact ⟨_, (Table.mem_updateMany h).2 (.inl ⟨row, hrow, hp, rfl⟩), hid, henv⟩
  refine Triple.bind (Q := fun _ => deleted) ?_ fun _ => ?_
  · refine Database.triple_statement ?_ fun _ _ _ => trivial
    rintro _ t' ⟨⟨⟨t, rfl, ht⟩, hreplaced⟩, hexisting⟩ h
    have hnamed : ∀ row : KubeEnvironmentWorkload.Model Text, liveIn environmentId row = true →
        (liveNamed environmentId c.details.name row = false ↔ row.name ≠ c.details.name) := by
      intro row hlive
      obtain ⟨henv, hdel⟩ := mem_liveIn.1 hlive
      simp [liveNamed, henv, hdel]
    refine ⟨⟨⟨t', rfl, (ht.softDelete ?_ h).congr (fun row _ hlive => ?_) fun row hlive => ?_⟩,
      fun p hp => hids h _ (hreplaced p hp)⟩, fun e he => hids h _ (hexisting e he)⟩
    · intro row _ hp
      simp only [liveNamed, Bool.and_eq_true, decide_eq_true_eq] at hp
      exact hp.1.1
    · rw [hnamed row hlive]
    · rw [hnamed row hlive]
  refine Triple.bind (Q := fun _ => after) ?_ fun _ => ?_
  · refine Database.triple_statement ?_ fun _ _ _ => trivial
    rintro _ t' ⟨⟨⟨t, rfl, ht⟩, hreplaced⟩, hexisting⟩ h
    have hids' : ∀ id, (∃ row ∈ t.rows, row.id = id ∧ row.environmentId = environmentId) →
        ∃ row ∈ t'.rows, row.id = id ∧ row.environmentId = environmentId := by
      rintro id ⟨row, hrow, hid⟩
      exact ⟨row, (Table.mem_insert h).2 (.inl hrow), hid⟩
    refine ⟨⟨⟨t', rfl, (ht.insert (by rfl) h).congr (fun row _ _ => ?_) fun row _ => ?_⟩,
      fun p hp => hids' _ (hreplaced p hp)⟩, fun e he => hids' _ (hexisting e he)⟩
    · simp only [List.mem_append, List.mem_singleton, or_imp, forall_and, forall_eq, and_assoc]
      exact and_congr_right fun _ => and_congr_right fun _ => ne_comm
    · simp only [newRows, mem_lastOfEachName_append]
      constructor
      · rintro (⟨⟨d, hd, rfl⟩, hname⟩ | rfl)
        · exact ⟨d, .inl ⟨hd, hname⟩, rfl⟩
        · exact ⟨c, .inr rfl, rfl⟩
      · rintro ⟨d, ⟨hd, hname⟩ | rfl, rfl⟩
        · exact .inl ⟨⟨d, hd, rfl⟩, hname⟩
        · exact .inr rfl
  · cases existing with
    | none => exact Triple.pure fun _ h => h.1
    | some existing =>
      refine Triple.pure fun db h => ⟨h.1.1, fun p hp => ?_⟩
      rcases List.mem_append.1 hp with hp | hp
      · exact h.1.2 p hp
      · rw [List.mem_singleton.1 hp]
        exact h.2 existing rfl

/-! ## The transaction -/

/-- The environment row after a sync. -/
def syncedEnvironment (environmentId : Uuid) (version : Int) (now : Timestamp)
    (row : KubeEnvironment.Model) : KubeEnvironment.Model :=
  if row.id = environmentId then
    { row with
      catalogSyncVersion := version
      lastCatalogSyncedAt := some now
      syncStatus := "Idle" }
  else row

/-- A live service row of an environment. -/
def liveService (environmentId : Uuid) (row : KubeEnvironmentService.Model Text) : Prop :=
  row.environmentId = environmentId ∧ row.deletedAt = none

/-- What the transaction of a sync writes. -/
structure Written (environmentId : Uuid) (environmentNamespace : String)
    (catalogNames : List String) (details : List (NewEnvironmentWorkload Text))
    (serviceNames : List String) (version : Int) (now : Timestamp) (db₀ db : Database Text)
    (replaced : List (Uuid × Uuid)) : Prop where
  tables : ∃ workloads environments services, db = { db₀ with
    environmentWorkloads := workloads
    environments := environments
    environmentServices := services }
  workloads : RowsAfter environmentId
    (fun row => row.name ∈ catalogNames ∧ ∀ d ∈ details, d.details.name ≠ row.name)
    (newRows environmentId environmentNamespace version now details)
    db₀.environmentWorkloads db.environmentWorkloads
  environments : db.environments.rows =
    db₀.environments.rows.map (syncedEnvironment environmentId version now)
  services : ∀ row, liveService environmentId row →
    (row ∈ db.environmentServices.rows ↔
      row ∈ db₀.environmentServices.rows ∧ row.name ∈ serviceNames)
  replaced : ∀ p ∈ replaced, ∃ row ∈ db.environmentWorkloads.rows, row.id = p.1 ∧
    row.environmentId = environmentId

/-- **The transaction of a sync** writes the rows of its environment, or leaves the database. -/
theorem triple_updateEnvironmentWorkloadsInDb_written (environmentId : Uuid)
    (environmentNamespace : String) (version : Int) (now : Timestamp) (db₀ : Database Text)
    (catalogWorkloads : List (KubeAppCatalogWorkload Text))
    (details : List (NewEnvironmentWorkload Text)) (serviceNames : List String) :
    Triple (fun db => db = db₀)
      (updateEnvironmentWorkloadsInDb environmentId environmentNamespace catalogWorkloads details
        serviceNames version now)
      (fun replaced db => Written environmentId environmentNamespace (catalogWorkloads.map (·.name))
        details serviceNames version now db₀ db replaced)
      fun _ db => db = db₀ := by
  refine Triple.atomic (F := fun _ _ => True) ?_
  refine Triple.bind (Q := fun existing db => db = db₀ ∧
    existing = db₀.environmentWorkloads.select (liveIn environmentId))
    (Triple.read fun db h => ⟨h, by rw [h]⟩) fun existing => ?_
  let names := catalogWorkloads.map (·.name)
  let kept := @WorkloadsAfter Text environmentId (fun row => row.name ∈ names)
    fun _ => False
  refine Triple.bind (Q := fun _ => kept db₀) ?_ fun _ => ?_
  · rintro db ⟨rfl, rfl⟩
    exact triple_deleteMissing_loop names db db rfl
  -- the services are written between the two loops, and the second loop starts from there
  let withServices (db : Database Text) : Prop := ∃ ts : Table (KubeEnvironmentService.Model Text),
    kept { db₀ with environmentServices := ts } db ∧ ∀ row, liveService environmentId row →
      (row ∈ ts.rows ↔ row ∈ db₀.environmentServices.rows ∧ row.name ∈ serviceNames)
  refine Triple.bind (Q := fun _ => withServices) ?_ fun _ => ?_
  · refine Database.triple_statement ?_ fun _ _ _ => trivial
    rintro _ ts ⟨t, rfl, ht⟩ h
    refine ⟨ts, ⟨t, rfl, ht⟩, fun row hlive => ?_⟩
    rw [Table.mem_updateMany h]
    constructor
    · rintro (⟨row₀, -, -, rfl⟩ | ⟨hmem, hp⟩)
      · exact nomatch hlive.2
      · simp only [hlive.1, hlive.2, decide_true, Bool.true_and, Bool.or_eq_false_iff,
          decide_eq_false_iff_not, not_not] at hp
        exact ⟨hmem, hp.2⟩
    · rintro ⟨hmem, hname⟩
      have hne : serviceNames.isEmpty = false := by
        cases serviceNames with
        | nil => cases hname
        | cons _ _ => rfl
      exact .inr ⟨hmem, by simp [hname, hne]⟩
  let replacedRows (replaced : List (Uuid × Uuid)) (db : Database Text) : Prop :=
    ∃ ts : Table (KubeEnvironmentService.Model Text),
      (WorkloadsAfter environmentId
          (fun row => row.name ∈ names ∧ ∀ d ∈ details, d.details.name ≠ row.name)
          (newRows environmentId environmentNamespace version now details)
          { db₀ with environmentServices := ts } db ∧
        ∀ p ∈ replaced, ∃ row ∈ db.environmentWorkloads.rows, row.id = p.1 ∧
          row.environmentId = environmentId) ∧
      ∀ row, liveService environmentId row →
        (row ∈ ts.rows ↔ row ∈ db₀.environmentServices.rows ∧ row.name ∈ serviceNames)
  refine Triple.bind (Q := replacedRows) ?_ fun replaced => ?_
  · rintro db ⟨ts, hkept, hservices⟩
    have := triple_replaceDeployed_loop environmentNamespace version now
      (fun row => row.name ∈ names)
      { db₀ with environmentServices := ts } details db hkept
    split at this
    · exact ⟨ts, this, hservices⟩
    · exact trivial
  refine Triple.bind (Q := fun _ db => Written environmentId environmentNamespace names details
    serviceNames version now db₀ db replaced) ?_ fun _ => Triple.pure fun _ h => h
  refine Database.triple_statement ?_ fun _ _ _ => trivial
  rintro _ te ⟨ts, ⟨⟨t, rfl, ht⟩, hreplaced⟩, hservices⟩ h
  refine ⟨⟨t, te, ts, rfl⟩, ht, ?_, hservices, hreplaced⟩
  rw [Table.rows_updateMany (Table.updateOne_eq_ok.1 h).2]
  refine List.map_congr_left fun row _ => ?_
  simp [syncedEnvironment]

end

/-! ## Links of the branch overrides -/

section
variable {baseEnvironmentId newBaseId : Uuid} {version : Int} {db : Database Text}

/-- What `relink_branch_overrides` does to a row for one replaced workload. -/
def linkRow (baseEnvironmentId : Uuid) (version : Int) (row : KubeEnvironmentWorkload.Model Text)
    (replaced : Uuid × Uuid) : KubeEnvironmentWorkload.Model Text :=
  if row.environmentId ≠ baseEnvironmentId ∧ row.baseWorkloadId = some replaced.1 ∧
      row.deletedAt = none then
    { row with baseWorkloadId := some replaced.2, catalogSyncVersion := version }
  else row

/-- The link of one row that is there is written. -/
theorem run_updateBranchWorkloadLink (newBaseId : Uuid) (version : Int) {workload : KubeEnvironmentWorkload.Model Text}
    (hmem : workload ∈ db.environmentWorkloads.rows) :
    ∃ t, (DbApi.updateBranchWorkloadLink workload.id newBaseId version).run db =
        (.ok ⟨⟩, { db with environmentWorkloads := t }) ∧
      t.rows = db.environmentWorkloads.rows.map fun row =>
        if row.id = workload.id then
          { row with baseWorkloadId := some newBaseId, catalogSyncVersion := version }
        else row := by
  have hkeeps : ∃ t, db.environmentWorkloads.updateMany (fun row => row.id = workload.id)
      (fun row => { row with baseWorkloadId := some newBaseId, catalogSyncVersion := version }) =
        .ok t := by
    refine Table.updateMany_of_conflict_imp fun row _ row' _ hc => ?_
    split at hc <;> split at hc <;> exact hc
  obtain ⟨t, ht⟩ := hkeeps
  have hone := Table.updateOne_eq_ok.2 ⟨⟨workload, hmem, decide_eq_true rfl⟩, ht⟩
  refine ⟨t, ?_, ?_⟩
  · rw [DbApi.updateBranchWorkloadLink, Database.onEnvironmentWorkloads,
      Database.run_statement_ok hone]
  · rw [Table.rows_updateMany ht]
    simp

/-- The inner loop links the listed rows of other environments. -/
theorem run_relinkOverride_loop (baseEnvironmentId newBaseId : Uuid) (version : Int)
    (db : Database Text) (ws : List (KubeEnvironmentWorkload.Model Text))
    (hws : ∀ w ∈ ws, ∃ row ∈ db.environmentWorkloads.rows, row.id = w.id) :
    ∃ t, (Program.forEach (relinkOverride baseEnvironmentId newBaseId version) ws).run db =
        (.ok ⟨⟩, { db with environmentWorkloads := t }) ∧
      t.rows = db.environmentWorkloads.rows.map fun row =>
        if ∃ w ∈ ws, w.environmentId ≠ baseEnvironmentId ∧ w.id = row.id then
          { row with baseWorkloadId := some newBaseId, catalogSyncVersion := version }
        else row := by
  induction ws generalizing db with
  | nil => exact ⟨db.environmentWorkloads, rfl, by simp⟩
  | cons w ws ih =>
    have hfirst : ∃ t, (relinkOverride baseEnvironmentId newBaseId version w).run db =
        (.ok ⟨⟩, { db with environmentWorkloads := t }) ∧
        t.rows = db.environmentWorkloads.rows.map fun row =>
          if w.environmentId ≠ baseEnvironmentId ∧ w.id = row.id then
            { row with baseWorkloadId := some newBaseId, catalogSyncVersion := version }
          else row := by
      unfold relinkOverride
      split
      · next henv => exact ⟨db.environmentWorkloads, rfl, by simp [henv]⟩
      · next henv =>
        obtain ⟨row, hrow, hid⟩ := hws w List.mem_cons_self
        obtain ⟨t, hrun, hrows⟩ := run_updateBranchWorkloadLink newBaseId version hrow
        refine ⟨t, ?_, ?_⟩
        · rw [Program.run_mapError, ← hid, hrun]
        · rw [hrows]
          exact List.map_congr_left fun row' _ => by simp [henv, hid, eq_comm]
    obtain ⟨t₁, hrun₁, hrows₁⟩ := hfirst
    obtain ⟨t, hrun, hrows⟩ := ih { db with environmentWorkloads := t₁ } fun w' hw' => by
      obtain ⟨row, hrow, hid⟩ := hws w' (List.mem_cons_of_mem _ hw')
      refine ⟨_, hrows₁ ▸ List.mem_map_of_mem hrow, ?_⟩
      split <;> exact hid
    refine ⟨t, ?_, ?_⟩
    · rw [Program.forEach, Program.run_foldEach_cons, hrun₁]
      exact hrun
    · rw [hrows, hrows₁, List.map_map]
      refine List.map_congr_left fun row _ => ?_
      dsimp only [Function.comp_apply]
      by_cases hw : w.environmentId ≠ baseEnvironmentId ∧ w.id = row.id
      · simp [hw]
      · simp [hw]

/-- The outer loop body links the live rows of other environments that override a workload. -/
theorem run_relinkReplaced (baseEnvironmentId : Uuid) (version : Int) (db : Database Text) (replaced : Uuid × Uuid) :
    ∃ t, (relinkReplaced baseEnvironmentId version replaced).run db =
        (.ok ⟨⟩, { db with environmentWorkloads := t }) ∧
      t.rows = db.environmentWorkloads.rows.map fun row =>
        linkRow baseEnvironmentId version row replaced := by
  obtain ⟨t, hrun, hrows⟩ := run_relinkOverride_loop baseEnvironmentId replaced.2 version db
    (db.environmentWorkloads.select fun row =>
      row.baseWorkloadId = some replaced.1 && row.deletedAt = none)
    fun w hw => ⟨w, (Table.mem_select.1 hw).1, rfl⟩
  refine ⟨t, ?_, ?_⟩
  · unfold relinkReplaced
    rw [Program.run_bind, Program.run_read]
    exact hrun
  · rw [hrows]
    refine List.map_congr_left fun row hrow => ?_
    have hiff : (∃ w ∈ db.environmentWorkloads.select fun row =>
        row.baseWorkloadId = some replaced.1 && row.deletedAt = none,
          w.environmentId ≠ baseEnvironmentId ∧ w.id = row.id) ↔
        row.environmentId ≠ baseEnvironmentId ∧ row.baseWorkloadId = some replaced.1 ∧
          row.deletedAt = none := by
      constructor
      · rintro ⟨w, hw, henv, hid⟩
        obtain ⟨hmem, hp⟩ := Table.mem_select.1 hw
        rw [← Table.eq_of_conflict hmem hrow (.inl hid)]
        simpa [henv] using hp
      · rintro ⟨henv, hbase, hdel⟩
        exact ⟨row, Table.mem_select.2 ⟨hrow, by simp [hbase, hdel]⟩, henv, rfl⟩
    simp only [hiff, linkRow]

/-- **The links of the branch overrides** are written for one replaced workload after the other,
and no step of it fails. -/
theorem run_relinkBranchOverrides (baseEnvironmentId : Uuid) (version : Int) (db : Database Text)
    (replacements : List (Uuid × Uuid)) :
    ∃ t, (relinkBranchOverrides baseEnvironmentId replacements version).run db =
        (.ok ⟨⟩, { db with environmentWorkloads := t }) ∧
      t.rows = db.environmentWorkloads.rows.map fun row =>
        replacements.foldl (linkRow baseEnvironmentId version) row := by
  induction replacements generalizing db with
  | nil => exact ⟨db.environmentWorkloads, rfl, by simp⟩
  | cons replaced replacements ih =>
    obtain ⟨t₁, hrun₁, hrows₁⟩ := run_relinkReplaced baseEnvironmentId version db replaced
    obtain ⟨t, hrun, hrows⟩ := ih { db with environmentWorkloads := t₁ }
    refine ⟨t, ?_, ?_⟩
    · rw [relinkBranchOverrides, Program.forEach, Program.run_foldEach_cons, hrun₁]
      exact hrun
    · rw [hrows, hrows₁, List.map_map]
      rfl

/-- A row of the base environment is no branch override. -/
theorem foldl_linkRow_of_base (replacements : List (Uuid × Uuid))
    {row : KubeEnvironmentWorkload.Model Text} (h : row.environmentId = baseEnvironmentId) :
    replacements.foldl (linkRow baseEnvironmentId version) row = row := by
  induction replacements with
  | nil => rfl
  | cons replaced replacements ih =>
    rw [List.foldl_cons, linkRow, if_neg fun hlink => hlink.1 h]
    exact ih

/-- A row that overrides none of the replaced workloads keeps its link and version. -/
theorem foldl_linkRow_of_forall_ne {replacements : List (Uuid × Uuid)}
    {row : KubeEnvironmentWorkload.Model Text}
    (h : ∀ p ∈ replacements, row.environmentId ≠ baseEnvironmentId →
      row.baseWorkloadId ≠ some p.1) :
    replacements.foldl (linkRow baseEnvironmentId version) row = row := by
  induction replacements with
  | nil => rfl
  | cons replaced replacements ih =>
    rw [List.foldl_cons, linkRow, if_neg]
    · exact ih fun p hp => h p (List.mem_cons_of_mem _ hp)
    · exact fun hlink => h replaced List.mem_cons_self hlink.1 hlink.2.1

/-- A link changes the link and the version of a row. -/
theorem foldl_linkRow_eq (baseEnvironmentId : Uuid) (version : Int)
    (replacements : List (Uuid × Uuid)) (row : KubeEnvironmentWorkload.Model Text) :
    ∃ baseWorkloadId catalogSyncVersion,
      replacements.foldl (linkRow baseEnvironmentId version) row =
        { row with baseWorkloadId, catalogSyncVersion } := by
  induction replacements generalizing row with
  | nil => exact ⟨row.baseWorkloadId, row.catalogSyncVersion, rfl⟩
  | cons replaced replacements ih =>
    obtain ⟨baseWorkloadId, catalogSyncVersion, heq⟩ := ih (linkRow baseEnvironmentId version row
      replaced)
    refine ⟨baseWorkloadId, catalogSyncVersion, heq.trans ?_⟩
    unfold linkRow
    split <;> rfl

end

/-! ## A whole sync -/

section
variable {codec : ManifestCodec Text} {isEmpty : Text → Bool} {outside : Outside Text}
  {db db' : Database Text} {environment : KubeEnvironment.Model} {catalog : KubeAppCatalog.Model}
  {now : Timestamp}

/-- The catalog workloads a sync has to deploy. -/
def toDeploy (isEmpty : Text → Bool) (db : Database Text) (environment : KubeEnvironment.Model)
    (catalog : KubeAppCatalog.Model) : List (KubeAppCatalogWorkload Text) :=
  workloadsToDeploy (db.environmentWorkloads.select (liveIn environment.id))
    (DbApi.readCatalogWorkloads isEmpty catalog.id db)

/-- What a sync that deploys `details` leaves. -/
structure SyncWrites (isEmpty : Text → Bool) (db : Database Text)
    (environment : KubeEnvironment.Model) (catalog : KubeAppCatalog.Model) (now : Timestamp)
    (details : List (NewEnvironmentWorkload Text)) (db' : Database Text) : Prop where
  deployed : List.Forall₂ (DetailOf environment.namespace) (toDeploy isEmpty db environment catalog)
    details
  live : ∀ row, liveIn environment.id row = true → (row ∈ db'.environmentWorkloads.rows ↔
    (row ∈ db.environmentWorkloads.rows ∧
      row.name ∈ (DbApi.readCatalogWorkloads isEmpty catalog.id db).map (·.name) ∧
      ∀ workload ∈ toDeploy isEmpty db environment catalog, workload.name ≠ row.name) ∨
    newRows environment.id environment.namespace catalog.syncVersion now details row)
  fresh : ∀ row, liveIn environment.id row = true →
    newRows environment.id environment.namespace catalog.syncVersion now details row →
      ∀ row₀ ∈ db.environmentWorkloads.rows, row₀.id ≠ row.id
  others : ∃ replaced : List (Uuid × Uuid),
    (∀ p ∈ replaced, ∃ row ∈ db'.environmentWorkloads.rows, row.id = p.1 ∧
      row.environmentId = environment.id) ∧
    ∀ row', row'.environmentId ≠ environment.id → (row' ∈ db'.environmentWorkloads.rows ↔
      ∃ row ∈ db.environmentWorkloads.rows,
        row' = replaced.foldl (linkRow environment.id catalog.syncVersion) row)
  services : ∀ row, liveService environment.id row → (row ∈ db'.environmentServices.rows ↔
    row ∈ db.environmentServices.rows ∧ ∃ workload ∈ toDeploy isEmpty db environment catalog,
      SelectedBy db catalog.clusterId workload row.name)
  appCatalogs : db'.appCatalogs = db.appCatalogs
  catalogWorkloads : db'.catalogWorkloads = db.catalogWorkloads
  environments : ∃ f, db'.environments.rows = db.environments.rows.map f ∧ ∀ row, f row =
    { row with
      syncStatus := (f row).syncStatus
      lastCatalogSyncedAt := (f row).lastCatalogSyncedAt
      catalogSyncVersion :=
        if row.id = environment.id then catalog.syncVersion else row.catalogSyncVersion }

/-- The details have the names of the workloads. -/
theorem map_name_of_detailOf {«namespace» : String} {workloads : List (KubeAppCatalogWorkload Text)}
    {details : List (NewEnvironmentWorkload Text)}
    (h : List.Forall₂ (DetailOf «namespace») workloads details) :
    details.map (·.details.name) = workloads.map (·.name) := by
  induction h with
  | nil => rfl
  | cons hd _ ih => rw [List.map_cons, List.map_cons, hd.name, ih]

/-- The parts of a sync put together. -/
theorem syncWrites_of_written {db₁ db₂ : Database Text} {replaced : List (Uuid × Uuid)}
    {synced : List (KubeAppCatalogWorkload Text) × List (NewEnvironmentWorkload Text) × List String}
    {t : Table (KubeEnvironmentWorkload.Model Text)}
    (hsynced : SyncedFrom isEmpty db environment catalog synced) (hstatus : StatusOnly db db₁)
    (hwritten : Written environment.id environment.namespace (synced.1.map (·.name)) synced.2.1
      synced.2.2 catalog.syncVersion now db₁ db₂ replaced)
    (hrows : t.rows = db₂.environmentWorkloads.rows.map fun row =>
      replaced.foldl (linkRow environment.id catalog.syncVersion) row) :
    SyncWrites isEmpty db environment catalog now synced.2.1
      { db₂ with environmentWorkloads := t } := by
  obtain ⟨te, f, rfl, hte, hf⟩ := hstatus
  have hdetails : List.Forall₂ (DetailOf environment.namespace)
      (toDeploy isEmpty db environment catalog) synced.2.1 := by
    have := hsynced.details
    rwa [hsynced.catalogWorkloads] at this
  have hnames : ∀ name, (∀ d ∈ synced.2.1, d.details.name ≠ name) ↔
      ∀ workload ∈ toDeploy isEmpty db environment catalog, workload.name ≠ name := by
    intro name
    have hmem := List.forall_mem_map (f := fun d : NewEnvironmentWorkload Text => d.details.name)
      (l := synced.2.1) (P := fun n => n ≠ name)
    rw [map_name_of_detailOf hdetails, List.forall_mem_map] at hmem
    exact hmem.symm
  -- the links keep the rows of the environment, and the environment of every row
  have hlinked : ∀ row : KubeEnvironmentWorkload.Model Text, (replaced.foldl
      (linkRow environment.id catalog.syncVersion) row).environmentId = row.environmentId := by
    intro row
    obtain ⟨_, _, heq⟩ := foldl_linkRow_eq environment.id catalog.syncVersion replaced row
    rw [heq]
  have hbase : ∀ row : KubeEnvironmentWorkload.Model Text, row.environmentId = environment.id →
      (row ∈ t.rows ↔ row ∈ db₂.environmentWorkloads.rows) := by
    intro row henv
    rw [hrows, List.mem_map]
    constructor
    · rintro ⟨row₀, hmem, rfl⟩
      rw [hlinked] at henv
      rwa [foldl_linkRow_of_base replaced henv]
    · exact fun hmem => ⟨row, hmem, foldl_linkRow_of_base replaced henv⟩
  refine ⟨hdetails, fun row hlive => ?_, hwritten.workloads.fresh, ⟨replaced, fun p hp => ?_, fun row' hne => ?_⟩,
    fun row hlive => ?_, ?_, ?_, ?_⟩
  · rw [hbase row (mem_liveIn.1 hlive).1, hwritten.workloads.live row hlive, hsynced.catalogWorkloads,
      hnames]
  · obtain ⟨row, hmem, hid, henv⟩ := hwritten.replaced p hp
    exact ⟨row, (hbase row henv).2 hmem, hid, henv⟩
  · rw [hrows, List.mem_map]
    constructor
    · rintro ⟨row, hmem, rfl⟩
      rw [hlinked] at hne
      exact ⟨row, (hwritten.workloads.others row hne).1 hmem, rfl⟩
    · rintro ⟨row, hmem, rfl⟩
      rw [hlinked] at hne
      exact ⟨row, (hwritten.workloads.others row hne).2 hmem, rfl⟩
  · rw [hwritten.services row hlive, hsynced.services, hsynced.catalogWorkloads]
    exact Iff.rfl
  · obtain ⟨_, _, _, rfl⟩ := hwritten.tables
    rfl
  · obtain ⟨_, _, _, rfl⟩ := hwritten.tables
    rfl
  · refine ⟨fun row => syncedEnvironment environment.id catalog.syncVersion now (f row), ?_,
      fun row => ?_⟩
    · rw [hwritten.environments, hte, List.map_map]
      rfl
    · dsimp only
      rw [hf row]
      unfold syncedEnvironment
      dsimp only
      split <;> rfl

/-- **The outcomes of a sync**: nothing but the status changes, and the sync succeeds only if the
environment is up to date; or it succeeds and has written the workloads. -/
theorem syncEnvironmentFromCatalog_cases {orgId userId environmentId : Uuid}
    {r : Except ApiError PUnit}
    (hrun : (syncEnvironmentFromCatalog codec isEmpty outside orgId userId environmentId now).run
      db = (r, db')) :
    (StatusOnly db db' ∧ (r = .ok ⟨⟩ → db' = db ∧
        ∃ environment catalog, SyncSubject db environmentId environment catalog ∧
          catalog.syncVersion = environment.catalogSyncVersion)) ∨
      (r = .ok ⟨⟩ ∧ ∃ environment catalog details,
        SyncSubject db environmentId environment catalog ∧
        catalog.syncVersion ≠ environment.catalogSyncVersion ∧
        SyncWrites isEmpty db environment catalog now details db') := by
  rcases run_syncEnvironmentFromCatalog codec isEmpty outside db orgId userId environmentId now with h | ⟨environment, catalog, synced, db₁, hsubject, hne,
      hsynced, hstatus, heq⟩
  · rw [hrun] at h
    exact .inl h
  rw [heq, storeSynced, Program.run_bind, Program.run_mapError] at hrun
  have hwritten := triple_updateEnvironmentWorkloadsInDb_written environment.id environment.namespace
    catalog.syncVersion now db₁ synced.1 synced.2.1 synced.2.2 db₁ rfl
  rcases hupdate : (updateEnvironmentWorkloadsInDb environment.id environment.namespace synced.1
    synced.2.1 synced.2.2 catalog.syncVersion now).run db₁ with ⟨e | replaced, db₂⟩
  · rw [hupdate] at hwritten hrun
    cases hrun
    exact .inl ⟨hwritten ▸ hstatus, fun h => nomatch h⟩
  · rw [hupdate] at hwritten hrun
    obtain ⟨t, hlinks, hrows⟩ := run_relinkBranchOverrides environment.id catalog.syncVersion db₂ replaced
    cases hrun.symm.trans hlinks
    exact .inr ⟨rfl, environment, catalog, synced.2.1, hsubject, hne,
      syncWrites_of_written hsynced hstatus hwritten hrows⟩

end

end KubeController

end Lapdev
