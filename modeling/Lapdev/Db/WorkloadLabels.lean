import Lapdev.Db.EnvironmentWorkloads

/-!
# The label rows of environment workloads

`LabelsCurrent` says that the live label rows of every live workload are the labels of its stored
kind and YAML. `replaceEnvironmentWorkloadLabels` establishes it for one workload
(`triple_replaceLabels`), and every query of `DbApi` that writes a workload row keeps it, since
each ends with that replacement or with the deletion of the row.
-/

namespace Lapdev

open RustStd Sql Programs

variable {Text : Type}

/-- A live label row of a workload. -/
def LiveLabel (t : Table KubeEnvironmentWorkloadLabel.Model) (workloadId : Uuid) (k v : String) :
    Prop :=
  ∃ row ∈ t.rows, row.workloadId = workloadId ∧ row.deletedAt = none ∧ row.labelKey = k ∧
    row.labelValue = v

/-- The labels of a workload row, from its stored kind and YAML. -/
def storedLabels (fromStr : Text → Option Yaml.Value) (row : KubeEnvironmentWorkload.Model Text) :
    BTreeMap String String :=
  match KubeWorkloadKind.parse row.kind with
  | none => ∅
  | some kind => labelsFromWorkloadYaml fromStr kind row.workloadYaml

/-- The live label rows of a workload are its stored labels. -/
def HasCurrentLabels (fromStr : Text → Option Yaml.Value)
    (t : Table KubeEnvironmentWorkloadLabel.Model) (row : KubeEnvironmentWorkload.Model Text) :
    Prop :=
  ∀ k v, LiveLabel t row.id k v ↔ (storedLabels fromStr row).lookup k = some v

/-- Every live workload has its stored labels as its live label rows. -/
def LabelsCurrent (fromStr : Text → Option Yaml.Value) (db : Database Text) : Prop :=
  ∀ row ∈ db.environmentWorkloads.rows, row.deletedAt = none →
    HasCurrentLabels fromStr db.environmentWorkloadLabels row

/-- The foreign key of the label rows. -/
def LabelsReferToWorkloads (db : Database Text) : Prop :=
  ∀ row ∈ db.environmentWorkloadLabels.rows,
    ∃ workload ∈ db.environmentWorkloads.rows, workload.id = row.workloadId

/-- The clock shows a later time than every deletion of a label row. -/
def Database.Before (db : Database Text) (now : Timestamp) : Prop :=
  ∀ row ∈ db.environmentWorkloadLabels.rows, ∀ time ∈ row.deletedAt, time < now

instance (db : Database Text) (now : Timestamp) : Decidable (db.Before now) :=
  inferInstanceAs <| Decidable
    (∀ row ∈ db.environmentWorkloadLabels.rows, ∀ time ∈ row.deletedAt, time < now)

/-- What every query on the workloads keeps. -/
structure LabelInvariant (fromStr : Text → Option Yaml.Value) (db : Database Text) : Prop where
  current : LabelsCurrent fromStr db
  refer : LabelsReferToWorkloads db

/-! ## Replacing the labels of a workload -/

section
variable {t t' : Table KubeEnvironmentWorkloadLabel.Model}

/-- Deleting the live label rows of a workload leaves those of the others. -/
theorem liveLabel_delete {workloadId : Uuid} {timestamp : Timestamp}
    (h : t.updateMany (fun row => row.workloadId = workloadId && row.deletedAt = none)
      (fun row => { row with deletedAt := some timestamp }) = .ok t') (w : Uuid) (k v : String) :
    LiveLabel t' w k v ↔ w ≠ workloadId ∧ LiveLabel t w k v := by
  constructor
  · rintro ⟨row, hrow, rfl, hlive, hk, hv⟩
    rcases (Table.mem_updateMany h).1 hrow with ⟨row₀, -, -, rfl⟩ | ⟨hmem, hp⟩
    · cases hlive
    · refine ⟨fun hw => ?_, row, hmem, rfl, hlive, hk, hv⟩
      simp [hw, hlive] at hp
  · rintro ⟨hw, row, hrow, rfl, hlive, hk, hv⟩
    exact ⟨row, (Table.mem_updateMany h).2 (.inr ⟨hrow, by simp [hw]⟩), rfl, hlive, hk, hv⟩

/-- Inserting a live label row adds that label. -/
theorem liveLabel_insert {row : KubeEnvironmentWorkloadLabel.Model} (hlive : row.deletedAt = none)
    (h : t.insert row = .ok t') (w : Uuid) (k v : String) :
    LiveLabel t' w k v ↔
      LiveLabel t w k v ∨ row.workloadId = w ∧ row.labelKey = k ∧ row.labelValue = v := by
  constructor
  · rintro ⟨row', hrow', hw, hl, hk, hv⟩
    rcases (Table.mem_insert h).1 hrow' with hmem | rfl
    · exact .inl ⟨row', hmem, hw, hl, hk, hv⟩
    · exact .inr ⟨hw, hk, hv⟩
  · rintro (⟨row', hmem, hw, hl, hk, hv⟩ | ⟨hw, hk, hv⟩)
    · exact ⟨row', (Table.mem_insert h).2 (.inl hmem), hw, hl, hk, hv⟩
    · exact ⟨row, (Table.mem_insert h).2 (.inr rfl), hw, hlive, hk, hv⟩

/-- The deletion of the live label rows of a workload succeeds at a time no row of it was deleted
at. -/
theorem delete_liveLabels_ok {workloadId : Uuid} {timestamp : Timestamp}
    (h : ∀ row ∈ t.rows, row.workloadId = workloadId → row.deletedAt ≠ some timestamp) :
    ∃ t', t.updateMany (fun row => row.workloadId = workloadId && row.deletedAt = none)
      (fun row => { row with deletedAt := some timestamp }) = .ok t' := by
  refine Table.updateMany_of_conflict_imp ?_
  intro row hrow row' hrow' hc
  simp only [Bool.and_eq_true, decide_eq_true_eq] at hc
  split at hc <;> split at hc
  · next hp hp' => exact ⟨hp.2.trans hp'.2.symm, hp.1.trans hp'.1.symm, hc.2.2⟩
  · next hp _ => exact absurd hc.1.symm (h row' hrow' (hc.2.1.symm.trans hp.1))
  · next _ hp' => exact absurd hc.1 (h row hrow (hc.2.1.trans hp'.1))
  · exact hc

end

/-- The label rows of a run that inserts labels whose keys have no live row yet. -/
theorem run_insertLabels (workloadId environmentId : Uuid) (timestamp : Timestamp)
    (entries : List ((_ : String) × String)) (hnodup : entries.NodupKeys) (db : Database Text)
    (hfresh : ∀ k v, LiveLabel db.environmentWorkloadLabels workloadId k v → k ∉ entries.keys) :
    ∃ t, (Program.forEach (DbApi.insertLabel workloadId environmentId timestamp) entries).run db =
        (.ok ⟨⟩, { db with environmentWorkloadLabels := t }) ∧
      (∀ row ∈ t.rows, row.workloadId = workloadId ∨ row ∈ db.environmentWorkloadLabels.rows) ∧
      ∀ w k v, LiveLabel t w k v ↔
        LiveLabel db.environmentWorkloadLabels w k v ∨ w = workloadId ∧ ⟨k, v⟩ ∈ entries := by
  induction entries generalizing db with
  | nil => exact ⟨_, rfl, fun row h => .inr h, by simp⟩
  | cons entry entries ih =>
    have hkey : ∀ row ∈ db.environmentWorkloadLabels.rows, ¬Entity.Conflict row
        { createdAt := timestamp, deletedAt := none, environmentId, workloadId,
          labelKey := entry.1, labelValue := entry.2 } := by
      rintro row hrow ⟨hlive, hw, hk⟩
      exact hfresh row.labelKey row.labelValue ⟨row, hrow, hw, hlive, rfl, rfl⟩ (by simp [hk])
    obtain ⟨t₁, ht₁⟩ := Table.insert_of_not_conflict _ _ hkey
    have hlive₁ := liveLabel_insert rfl ht₁
    have hrun : (DbApi.insertLabel workloadId environmentId timestamp entry).run db =
        (.ok ⟨⟩, { db with environmentWorkloadLabels := t₁ }) :=
      Database.run_onEnvironmentWorkloadLabels_ok ht₁
    rw [List.nodupKeys_cons] at hnodup
    obtain ⟨t, ht, hrows, hlive⟩ := ih hnodup.2 { db with environmentWorkloadLabels := t₁ } <| by
      intro k v h hk
      rcases (hlive₁ _ _ _).1 h with h | ⟨-, rfl, -⟩
      · exact hfresh k v h (List.mem_cons_of_mem _ hk)
      · exact hnodup.1 hk
    refine ⟨t, ?_, ?_, ?_⟩
    · rw [Program.forEach, Program.run_foldEach_cons, hrun]
      exact ht
    · intro row hrow
      rcases hrows row hrow with h | h
      · exact .inl h
      · rcases (Table.mem_insert ht₁).1 h with h | rfl
        · exact .inr h
        · exact .inl rfl
    · intro w k v
      rw [hlive, hlive₁, List.mem_cons, Sigma.ext_iff, heq_eq_eq]
      constructor
      · rintro ((h | ⟨rfl, rfl, rfl⟩) | ⟨rfl, h⟩)
        · exact .inl h
        · exact .inr ⟨rfl, .inl ⟨rfl, rfl⟩⟩
        · exact .inr ⟨rfl, .inr h⟩
      · rintro (h | ⟨rfl, ⟨rfl, rfl⟩ | h⟩)
        · exact .inl (.inl h)
        · exact .inl (.inr ⟨rfl, rfl, rfl⟩)
        · exact .inr ⟨rfl, h⟩

/-- **The replacement of a workload's labels.** It succeeds at a time none of the workload's label
rows was deleted at, and leaves the given labels as the live rows of the workload. -/
theorem run_replaceLabels (workloadId environmentId : Uuid) (labels : BTreeMap String String)
    (timestamp : Timestamp) (db : Database Text)
    (h : ∀ row ∈ db.environmentWorkloadLabels.rows, row.workloadId = workloadId →
      row.deletedAt ≠ some timestamp) :
    ∃ t, (DbApi.replaceEnvironmentWorkloadLabels workloadId environmentId labels timestamp).run db =
        (.ok ⟨⟩, { db with environmentWorkloadLabels := t }) ∧
      (∀ row ∈ t.rows, row.workloadId = workloadId ∨
        ∃ row' ∈ db.environmentWorkloadLabels.rows, row'.workloadId = row.workloadId) ∧
      ∀ w k v, LiveLabel t w k v ↔
        if w = workloadId then labels.lookup k = some v
        else LiveLabel db.environmentWorkloadLabels w k v := by
  obtain ⟨t₁, ht₁⟩ := delete_liveLabels_ok h
  have hlive₁ := liveLabel_delete ht₁
  obtain ⟨t, ht, hrows, hlive⟩ := run_insertLabels workloadId environmentId timestamp
    labels.entries labels.nodupKeys { db with environmentWorkloadLabels := t₁ }
    fun k v hl => absurd rfl ((hlive₁ _ _ _).1 hl).1
  refine ⟨t, ?_, ?_, ?_⟩
  · exact (Program.run_bind_of_ok (Database.run_onEnvironmentWorkloadLabels_ok ht₁)).trans ht
  · intro row hrow
    rcases hrows row hrow with hw | hmem
    · exact .inl hw
    · rcases (Table.mem_updateMany ht₁).1 hmem with ⟨row₀, hrow₀, -, rfl⟩ | ⟨hmem, -⟩
      · exact .inr ⟨row₀, hrow₀, rfl⟩
      · exact .inr ⟨row, hmem, rfl⟩
  · intro w k v
    rw [hlive, hlive₁]
    split
    · next hw =>
      subst hw
      simp [← Option.mem_def, AList.mem_lookup_iff]
    · next hw => simp [hw]

/-! ## The queries keep the invariant -/

section
variable {fromStr : Text → Option Yaml.Value} {db : Database Text}

/-- The invariant of the other workloads, while the labels of one are being written. -/
structure LabelInvariantExcept (fromStr : Text → Option Yaml.Value) (workloadId : Uuid)
    (db : Database Text) : Prop where
  current : ∀ row ∈ db.environmentWorkloads.rows, row.deletedAt = none → row.id ≠ workloadId →
    HasCurrentLabels fromStr db.environmentWorkloadLabels row
  refer : LabelsReferToWorkloads db

/-- The foreign key survives an update of workloads that keeps their ids. -/
theorem LabelsReferToWorkloads.updateMany {t : Table (KubeEnvironmentWorkload.Model Text)}
    {p : KubeEnvironmentWorkload.Model Text → Bool}
    {f : KubeEnvironmentWorkload.Model Text → KubeEnvironmentWorkload.Model Text}
    (hdb : LabelsReferToWorkloads db) (h : db.environmentWorkloads.updateMany p f = .ok t)
    (hid : ∀ row, (f row).id = row.id) :
    LabelsReferToWorkloads { db with environmentWorkloads := t } := by
  intro label hlabel
  obtain ⟨w, hw, heq⟩ := hdb label hlabel
  rcases hp : p w with _ | _
  · exact ⟨w, (Table.mem_updateMany h).2 (.inr ⟨hw, hp⟩), heq⟩
  · exact ⟨f w, (Table.mem_updateMany h).2 (.inl ⟨w, hw, hp, rfl⟩), (hid w).trans heq⟩

/-- The foreign key survives the insertion of a workload. -/
theorem LabelsReferToWorkloads.insert {t : Table (KubeEnvironmentWorkload.Model Text)}
    {row : KubeEnvironmentWorkload.Model Text} (hdb : LabelsReferToWorkloads db)
    (h : db.environmentWorkloads.insert row = .ok t) :
    LabelsReferToWorkloads { db with environmentWorkloads := t } := by
  intro label hlabel
  obtain ⟨w, hw, heq⟩ := hdb label hlabel
  exact ⟨w, (Table.mem_insert h).2 (.inl hw), heq⟩

/-- A workload is inserted under an id no label row has. -/
theorem LabelsReferToWorkloads.ne_of_insert {t : Table (KubeEnvironmentWorkload.Model Text)}
    {row : KubeEnvironmentWorkload.Model Text} (hdb : LabelsReferToWorkloads db)
    (h : db.environmentWorkloads.insert row = .ok t) :
    ∀ label ∈ db.environmentWorkloadLabels.rows, label.workloadId ≠ row.id := by
  intro label hlabel heq
  obtain ⟨w, hw, hid⟩ := hdb label hlabel
  exact Table.not_conflict_of_insert h hw (.inl (hid.trans heq))

/-- Replacing the labels of the workload left out completes the invariant. -/
theorem LabelInvariantExcept.replaceLabels {workloadId : Uuid}
    (hdb : LabelInvariantExcept fromStr workloadId db) (environmentId : Uuid)
    {labels : BTreeMap String String} {timestamp : Timestamp}
    (hrow : ∃ row ∈ db.environmentWorkloads.rows, row.id = workloadId)
    (hstored : ∀ row ∈ db.environmentWorkloads.rows, row.deletedAt = none → row.id = workloadId →
      storedLabels fromStr row = labels)
    (htime : ∀ row ∈ db.environmentWorkloadLabels.rows, row.workloadId = workloadId →
      row.deletedAt ≠ some timestamp) :
    ∃ db', (DbApi.replaceEnvironmentWorkloadLabels workloadId environmentId labels timestamp).run
      db = (.ok ⟨⟩, db') ∧ LabelInvariant fromStr db' := by
  obtain ⟨t, hrun, hrows, hlive⟩ := run_replaceLabels workloadId environmentId labels timestamp db
    htime
  refine ⟨_, hrun, ?_, ?_⟩
  · intro row hmem hdel k v
    rw [hlive]
    split
    · next heq => rw [hstored row hmem hdel heq]
    · next hne => exact hdb.current row hmem hdel hne k v
  · intro row hmem
    rcases hrows row hmem with heq | ⟨row', hmem', heq⟩
    · obtain ⟨workload, hw, hid⟩ := hrow
      exact ⟨workload, hw, hid.trans heq.symm⟩
    · obtain ⟨workload, hw, hid⟩ := hdb.refer row' hmem'
      exact ⟨workload, hw, hid.trans heq⟩

/-- An update that keeps the identity, kind, YAML and deletion of every row it touches, or deletes
it, keeps the invariant. -/
theorem LabelInvariant.updateMany {t : Table (KubeEnvironmentWorkload.Model Text)}
    {p : KubeEnvironmentWorkload.Model Text → Bool}
    {f : KubeEnvironmentWorkload.Model Text → KubeEnvironmentWorkload.Model Text}
    (hdb : LabelInvariant fromStr db) (h : db.environmentWorkloads.updateMany p f = .ok t)
    (hid : ∀ row, (f row).id = row.id)
    (hf : ∀ row, (f row).deletedAt = none → row.deletedAt = none ∧
      storedLabels fromStr (f row) = storedLabels fromStr row) :
    LabelInvariant fromStr { db with environmentWorkloads := t } where
  current := by
    intro row hmem hdel k v
    rcases (Table.mem_updateMany h).1 hmem with ⟨row₀, hmem₀, -, rfl⟩ | ⟨hmem₀, -⟩
    · obtain ⟨hdel₀, hlabels⟩ := hf row₀ hdel
      rw [hlabels, hid]
      exact hdb.current row₀ hmem₀ hdel₀ k v
    · exact hdb.current row hmem₀ hdel k v
  refer := hdb.refer.updateMany h hid

/-- Marking rows as deleted keeps the invariant. -/
theorem LabelInvariant.softDelete {t : Table (KubeEnvironmentWorkload.Model Text)}
    {p : KubeEnvironmentWorkload.Model Text → Bool} {now : Timestamp}
    (hdb : LabelInvariant fromStr db)
    (h : db.environmentWorkloads.updateMany p (fun row => { row with deletedAt := some now }) =
      .ok t) : LabelInvariant fromStr { db with environmentWorkloads := t } :=
  hdb.updateMany h (fun _ => rfl) fun _ hdel => nomatch hdel

/-- The invariant does not read the table of environments. -/
theorem preserves_onEnvironments
    (f : Table KubeEnvironment.Model → Except DbErr (Table KubeEnvironment.Model)) :
    Preserves (LabelInvariant fromStr) (Database.onEnvironments f : Query Text PUnit) := by
  unfold Database.onEnvironments
  exact Database.triple_statement (fun db t hdb _ => ⟨hdb.current, hdb.refer⟩) fun _ _ hdb => hdb

/-- The invariant does not read the table of services. -/
theorem preserves_onEnvironmentServices
    (f : Table (KubeEnvironmentService.Model Text) →
      Except DbErr (Table (KubeEnvironmentService.Model Text))) :
    Preserves (LabelInvariant fromStr) (Database.onEnvironmentServices f) := by
  unfold Database.onEnvironmentServices
  exact Database.triple_statement (fun db t hdb _ => ⟨hdb.current, hdb.refer⟩) fun _ _ hdb => hdb

theorem preserves_deleteEnvironmentWorkload (workloadId : Uuid) (now : Timestamp) :
    Preserves (LabelInvariant fromStr)
      (DbApi.deleteEnvironmentWorkload workloadId now : Query Text PUnit) := by
  -- between the two statements the workload is deleted and its labels are not
  let deleted (db : Database Text) : Prop :=
    LabelInvariant fromStr db ∧
      ∀ row ∈ db.environmentWorkloads.rows, row.id = workloadId → row.deletedAt ≠ none
  refine Triple.bind (Q := fun _ => deleted) ?_ fun _ => ?_
  · refine Database.triple_statement ?_ fun db e hdb => hdb
    intro db t hdb h
    obtain ⟨-, h⟩ := Table.updateOne_eq_ok.1 h
    refine ⟨hdb.softDelete h, ?_⟩
    intro row hmem hid
    rcases (Table.mem_updateMany h).1 hmem with ⟨row₀, -, -, rfl⟩ | ⟨-, hp⟩
    · exact Option.some_ne_none now
    · simp [hid] at hp
  · refine Database.triple_statement ?_ fun db e hdb => hdb.1
    rintro db t ⟨hdb, hdel⟩ h
    have hlive := liveLabel_delete h
    refine ⟨?_, ?_⟩
    · intro row hmem hrow k v
      have hne : row.id ≠ workloadId := fun hid => hdel row hmem hid hrow
      rw [hlive]
      simpa [hne] using hdb.current row hmem hrow k v
    · intro row hmem
      rcases (Table.mem_updateMany h).1 hmem with ⟨row₀, hmem₀, -, rfl⟩ | ⟨hmem₀, -⟩
      · exact hdb.refer row₀ hmem₀
      · exact hdb.refer row hmem₀

theorem preserves_updateBranchWorkloadLink (workloadId baseWorkloadId : Uuid) (version : Int) :
    Preserves (LabelInvariant fromStr)
      (DbApi.updateBranchWorkloadLink workloadId baseWorkloadId version : Query Text PUnit) := by
  unfold DbApi.updateBranchWorkloadLink Database.onEnvironmentWorkloads
  refine Database.triple_statement ?_ fun db e hdb => hdb
  intro db t hdb h
  exact hdb.updateMany (Table.updateOne_eq_ok.1 h).2 (fun _ => rfl) fun _ hdel => ⟨hdel, rfl⟩

theorem preserves_insertEnvironmentWorkload (environmentId : Uuid)
    (workload : NewEnvironmentWorkload Text) (version : Int) (now : Timestamp) :
    Preserves (LabelInvariant fromStr)
      (DbApi.insertEnvironmentWorkload fromStr environmentId workload version now) := by
  let row := DbApi.workloadModel environmentId workload version now
  -- the new row has no labels yet
  let inserted (db : Database Text) : Prop :=
    LabelInvariantExcept fromStr workload.id db ∧ row ∈ db.environmentWorkloads.rows ∧
      ∀ label ∈ db.environmentWorkloadLabels.rows, label.workloadId ≠ workload.id
  refine Triple.bind (Q := fun _ => inserted) ?_ fun _ => ?_
  · refine Database.triple_statement ?_ fun db e hdb => hdb
    intro db t hdb h
    refine ⟨⟨?_, hdb.refer.insert h⟩, (Table.mem_insert h).2 (.inr rfl), hdb.refer.ne_of_insert h⟩
    intro row' hmem hdel hne
    rcases (Table.mem_insert h).1 hmem with hmem | rfl
    · exact hdb.current row' hmem hdel
    · exact absurd rfl hne
  · rintro db ⟨hdb, hmem, hlabels⟩
    have hstored : ∀ row' ∈ db.environmentWorkloads.rows, row'.deletedAt = none →
        row'.id = workload.id → storedLabels fromStr row' =
          labelsFromWorkloadYaml fromStr workload.details.kind workload.details.workloadYaml := by
      intro row' hmem' _ hid
      rw [Table.eq_of_conflict hmem' hmem (.inl hid)]
      simp [storedLabels, row, DbApi.workloadModel]
    obtain ⟨db', hrun, hdb'⟩ := hdb.replaceLabels environmentId ⟨row, hmem, rfl⟩ hstored
      fun label hl hw => absurd hw (hlabels label hl)
    rw [hrun]
    exact hdb'

/-- What the update of a workload's content leaves for the replacement of its labels. -/
structure ContentUpdated (fromStr : Text → Option Yaml.Value) (now : Timestamp)
    (model : KubeEnvironmentWorkload.Model Text) (db : Database Text) : Prop where
  except : LabelInvariantExcept fromStr model.id db
  mem : model ∈ db.environmentWorkloads.rows
  before : db.Before now
  unlabelled : KubeWorkloadKind.parse model.kind = none → LabelInvariant fromStr db

theorem triple_updateContent (workloadId : Uuid) (containers : List KubeContainerInfo)
    (workloadYaml : Text) (now : Timestamp) :
    Triple (fun db => LabelInvariant fromStr db ∧ db.Before now)
      (Database.returning (·.environmentWorkloads)
        (fun db t => { db with environmentWorkloads := t })
        (fun row => row.id = workloadId) fun row => { row with containers, workloadYaml })
      (fun updated db => match updated with
        | some model => ContentUpdated fromStr now model db
        | none => LabelInvariant fromStr db)
      (fun _ => LabelInvariant fromStr) := by
  refine Database.triple_returning ?_ fun db e hdb => hdb.1
  rintro db t ⟨hdb, hbefore⟩ h
  have hmem {row : KubeEnvironmentWorkload.Model Text} := Table.mem_updateMany (r := row) h
  have hrefer := hdb.refer.updateMany h fun _ => rfl
  cases hone : db.environmentWorkloads.one (fun row => row.id = workloadId) with
  | none =>
    refine ⟨?_, hrefer⟩
    intro row hrow hdel
    rcases hmem.1 hrow with ⟨row₀, hrow₀, hp, -⟩ | ⟨hrow₀, -⟩
    · exact absurd hp (List.find?_eq_none.1 hone row₀ hrow₀)
    · exact hdb.current row hrow₀ hdel
  | some model₀ =>
    obtain ⟨hmodel₀, hp₀⟩ := Table.mem_of_one hone
    have hid₀ : model₀.id = workloadId := by simpa using hp₀
    have hcurrent : ∀ row ∈ t.rows, row.deletedAt = none → row.id ≠ workloadId →
        HasCurrentLabels fromStr db.environmentWorkloadLabels row := by
      intro row hrow hdel hne
      rcases hmem.1 hrow with ⟨row₀, -, hp, rfl⟩ | ⟨hrow₀, -⟩
      · exact absurd (by simpa using hp) hne
      · exact hdb.current row hrow₀ hdel
    have hmodel : { model₀ with containers, workloadYaml } ∈ t.rows :=
      hmem.2 (.inl ⟨model₀, hmodel₀, hp₀, rfl⟩)
    refine ⟨⟨fun row hrow hdel hne => hcurrent row hrow hdel (hid₀ ▸ hne), hrefer⟩, hmodel, hbefore,
      fun hkind => ⟨?_, hrefer⟩⟩
    -- a kind that does not parse has no labels before and after
    intro row hrow hdel
    by_cases hid : row.id = workloadId
    · rw [Table.eq_of_conflict hrow hmodel (.inl (hid.trans hid₀.symm))] at hdel ⊢
      intro k v
      have hold := hdb.current model₀ hmodel₀ hdel k v
      simp only [storedLabels, hkind] at hold ⊢
      exact hold
    · exact hcurrent row hrow hdel hid

/-- The update of a workload keeps the invariant at a time later than every deletion of a label. -/
theorem triple_updateEnvironmentWorkload (workloadId : Uuid) (containers : List KubeContainerInfo)
    (workloadYaml : Text) (now : Timestamp) :
    Triple (fun db => LabelInvariant fromStr db ∧ db.Before now)
      (DbApi.updateEnvironmentWorkload fromStr workloadId containers workloadYaml now)
      (fun _ => LabelInvariant fromStr) (fun _ => LabelInvariant fromStr) := by
  refine Triple.bind (triple_updateContent workloadId containers workloadYaml now) fun updated => ?_
  cases updated with
  | none => exact fun db hdb => hdb
  | some model =>
    refine Triple.bind (m := pure model) (Q := fun a db => model = a ∧ ContentUpdated fromStr now a db)
      (Triple.pure fun db hdb => ⟨rfl, hdb⟩) ?_
    rintro _ db ⟨rfl, hdb⟩
    cases hkind : KubeWorkloadKind.parse model.kind with
    | none => exact hdb.unlabelled hkind
    | some kind =>
      obtain ⟨db', hrun, hdb'⟩ : ∃ db', (DbApi.replaceEnvironmentWorkloadLabels model.id
          model.environmentId (labelsFromWorkloadYaml fromStr kind model.workloadYaml) now).run db =
            (.ok ⟨⟩, db') ∧ LabelInvariant fromStr db' :=
        hdb.except.replaceLabels model.environmentId ⟨model, hdb.mem, rfl⟩
          (fun row hrow _ hid => by
            rw [Table.eq_of_conflict hrow hdb.mem (.inl hid), storedLabels, hkind])
          fun label hl _ hnow => lt_irrefl now (hdb.before label hl now hnow)
      dsimp only
      rw [Program.run_bind_of_ok hrun]
      exact hdb'

theorem preserves_createKubeEnvironment (environmentId orgId userId appCatalogId clusterId : Uuid)
    (name «namespace» status : String) (isShared : Bool) (version : Int)
    (baseEnvironmentId : Option Uuid) (workloads : List (NewEnvironmentWorkload Text))
    (services : HashTable String (KubeServiceWithYaml Text)) (authToken : String)
    (now : Timestamp) :
    Preserves (LabelInvariant fromStr)
      (DbApi.createKubeEnvironment fromStr environmentId orgId userId appCatalogId clusterId name
        «namespace» status isShared version baseEnvironmentId workloads services authToken now) := by
  refine Triple.atomic (F := fun _ => LabelInvariant fromStr) ?_
  refine Triple.bind (preserves_onEnvironments _) fun _ => ?_
  refine Triple.bind (Q := fun _ => LabelInvariant fromStr) ?_ fun _ => ?_
  · exact Triple.forEach (J := fun _ => LabelInvariant fromStr)
      (fun workload _ => preserves_insertEnvironmentWorkload environmentId workload version now)
      workloads
  · exact Triple.forEach (J := fun _ => LabelInvariant fromStr)
      (fun _ _ => preserves_onEnvironmentServices _) services.entries

end

end Lapdev
