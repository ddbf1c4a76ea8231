import Lapdev.Api.EnvironmentSync
import Lapdev.Db.WorkloadLabels
import Lapdev.Logic.Run

/-!
# Labels across a sync

A sync writes workload rows itself and no label rows. It keeps the labels current exactly when the
workloads it leaves live have no labels (`sync_labelsCurrent_iff`), so the labels are current in
every run whose syncs all deploy unlabelled workloads (`labelsCurrent_of_run`).
-/

namespace Lapdev

open RustStd Sql Programs Runs

variable {Text : Type} {fromStr : Text → Option Yaml.Value}

namespace KubeController

/-- The deployed workloads a sync leaves live: the last one of each name. -/
def lastOfEachName : List (NewEnvironmentWorkload Text) → List (NewEnvironmentWorkload Text)
  | [] => []
  | workload :: rest =>
    if rest.any fun later => later.details.name = workload.details.name then lastOfEachName rest
    else workload :: lastOfEachName rest

/-- The later workloads that stay live stay live before an earlier one too. -/
theorem mem_lastOfEachName_cons {c w : NewEnvironmentWorkload Text}
    {cs : List (NewEnvironmentWorkload Text)} (h : w ∈ lastOfEachName cs) :
    w ∈ lastOfEachName (c :: cs) := by
  unfold lastOfEachName
  split
  · exact h
  · exact List.mem_cons_of_mem _ h

/-- The labels of a workload to deploy. -/
def deployedLabels (fromStr : Text → Option Yaml.Value) (workload : NewEnvironmentWorkload Text) :
    BTreeMap String String :=
  labelsFromWorkloadYaml fromStr workload.details.kind workload.details.workloadYaml

/-- The stored labels of a synced row are those of the workload it was deployed from. -/
theorem storedLabels_syncedModel (environmentId : Uuid) (environmentNamespace : String)
    (workload : NewEnvironmentWorkload Text) (version : Int) (now : Timestamp) :
    storedLabels fromStr (syncedModel environmentId environmentNamespace workload version now) =
      deployedLabels fromStr workload := by
  simp [storedLabels, syncedModel, deployedLabels]

/-! ## The loops of a sync -/

section
variable {environmentId : Uuid} {environmentNamespace : String} {version : Int} {now : Timestamp}

theorem preserves_deleteMissing (names : List String)
    (existing : KubeEnvironmentWorkload.Model Text) :
    Preserves (LabelInvariant fromStr) (deleteMissing names now existing) := by
  unfold deleteMissing
  split
  · exact fun db hdb => hdb
  · unfold Database.onEnvironmentWorkloads
    refine Database.triple_statement ?_ fun db e hdb => hdb
    intro db t hdb h
    exact hdb.softDelete (Table.updateOne_eq_ok.1 h).2

/-- Between two rounds of the second loop the live rows without their labels are of names that are
still to come, and the workloads to come that stay live have no labels. -/
structure PendingLabels (fromStr : Text → Option Yaml.Value) (environmentId : Uuid)
    (pending : List (NewEnvironmentWorkload Text)) (db : Database Text) : Prop where
  current : ∀ row ∈ db.environmentWorkloads.rows, row.deletedAt = none →
    HasCurrentLabels fromStr db.environmentWorkloadLabels row ∨
      row.environmentId = environmentId ∧ ∃ c ∈ pending, c.details.name = row.name
  refer : LabelsReferToWorkloads db
  unlabelled : ∀ w ∈ lastOfEachName pending, deployedLabels fromStr w = ∅

/-- The rows of a sync that are final between two rounds of the second loop: they are live, without
label rows, and of a name that does not come again. -/
def Deployed (environmentId : Uuid) (environmentNamespace : String) (version : Int)
    (now : Timestamp) (pending : List (NewEnvironmentWorkload Text)) (db : Database Text)
    (workload : NewEnvironmentWorkload Text) : Prop :=
  workload ∈ lastOfEachName pending ∨
    syncedModel environmentId environmentNamespace workload version now ∈
        db.environmentWorkloads.rows ∧
      (∀ label ∈ db.environmentWorkloadLabels.rows, label.workloadId ≠ workload.id) ∧
      ∀ c ∈ pending, c.details.name ≠ workload.details.name

/-- The deletion of the rows of a name settles the rows pending under it. -/
theorem PendingLabels.softDelete {c : NewEnvironmentWorkload Text}
    {cs : List (NewEnvironmentWorkload Text)} {db : Database Text}
    {t : Table (KubeEnvironmentWorkload.Model Text)}
    (hdb : PendingLabels fromStr environmentId (c :: cs) db)
    (h : db.environmentWorkloads.updateMany (liveNamed environmentId c.details.name)
      (fun row => { row with deletedAt := some now }) = .ok t) :
    PendingLabels fromStr environmentId cs { db with environmentWorkloads := t } where
  current := by
    intro row hrow hdel
    rcases (Table.mem_updateMany h).1 hrow with ⟨_, -, -, rfl⟩ | ⟨hmem, hp⟩
    · cases hdel
    · rcases hdb.current row hmem hdel with hc | ⟨henv, c', hc', hname⟩
      · exact .inl hc
      · rcases List.mem_cons.1 hc' with rfl | hc'
        · simp [liveNamed, henv, hname, hdel] at hp
        · exact .inr ⟨henv, c', hc', hname⟩
  refer := hdb.refer.updateMany h fun _ => rfl
  unlabelled := fun w hw => hdb.unlabelled w (mem_lastOfEachName_cons hw)

/-- One round of the second loop, if the workloads that stay live have no labels. -/
theorem triple_replaceDeployed (replaced : List (Uuid × Uuid)) (c : NewEnvironmentWorkload Text)
    (cs : List (NewEnvironmentWorkload Text)) :
    Triple (PendingLabels fromStr environmentId (c :: cs))
      (replaceDeployed environmentId environmentNamespace version now replaced c)
      (fun _ => PendingLabels fromStr environmentId cs) (fun _ _ => True) := by
  refine Triple.bind (Triple.read (Q := fun _ => PendingLabels fromStr environmentId (c :: cs))
    fun _ h => h) fun existing => ?_
  let deleted (db : Database Text) : Prop := PendingLabels fromStr environmentId cs db ∧
    (c ∈ lastOfEachName (c :: cs) → deployedLabels fromStr c = ∅)
  refine Triple.bind (Q := fun _ => deleted) ?_ fun _ => ?_
  · exact Database.triple_statement (fun db t hdb h => ⟨hdb.softDelete h, hdb.unlabelled c⟩)
      fun _ _ _ => trivial
  refine Triple.bind (Q := fun _ => PendingLabels fromStr environmentId cs) ?_ fun _ => ?_
  · refine Database.triple_statement ?_ fun _ _ _ => trivial
    rintro db t ⟨hdb, hlast⟩ h
    refine ⟨?_, hdb.refer.insert h, hdb.unlabelled⟩
    intro row hrow hdel
    rcases (Table.mem_insert h).1 hrow with hmem | rfl
    · exact hdb.current row hmem hdel
    · by_cases hlater : ∃ c' ∈ cs, c'.details.name = c.details.name
      · exact .inr ⟨rfl, hlater⟩
      · refine .inl fun k v => ?_
        have hempty := hlast (by simp [lastOfEachName, hlater])
        rw [storedLabels_syncedModel, hempty]
        constructor
        · rintro ⟨label, hlabel, hid, -⟩
          exact absurd hid (hdb.refer.ne_of_insert h label hlabel)
        · simp
  · cases existing with
    | none => exact Triple.pure fun _ h => h
    | some existing => exact Triple.pure fun _ h => h

/-- One round of the second loop deploys its workload for good, or leaves it to a later one. -/
theorem triple_replaceDeployed_deployed (P : NewEnvironmentWorkload Text → Prop)
    (replaced : List (Uuid × Uuid)) (c : NewEnvironmentWorkload Text)
    (cs : List (NewEnvironmentWorkload Text)) :
    Triple (fun db => LabelsReferToWorkloads db ∧ ∀ w, P w →
        Deployed environmentId environmentNamespace version now (c :: cs) db w)
      (replaceDeployed environmentId environmentNamespace version now replaced c)
      (fun _ db => LabelsReferToWorkloads db ∧ ∀ w, P w →
        Deployed environmentId environmentNamespace version now cs db w) (fun _ _ => True) := by
  let before (db : Database Text) : Prop := LabelsReferToWorkloads db ∧ ∀ w, P w →
    Deployed environmentId environmentNamespace version now (c :: cs) db w
  let after (db : Database Text) : Prop := LabelsReferToWorkloads db ∧ ∀ w, P w →
    Deployed environmentId environmentNamespace version now cs db w
  refine Triple.bind (Triple.read (Q := fun _ => before) fun _ h => h) fun existing => ?_
  refine Triple.bind (Q := fun _ => before) ?_ fun _ => ?_
  · refine Database.triple_statement ?_ fun _ _ _ => trivial
    rintro db t ⟨hrefer, hdeployed⟩ h
    refine ⟨hrefer.updateMany h fun _ => rfl, fun w hw => ?_⟩
    rcases hdeployed w hw with hlast | ⟨hrow, hlabels, hnames⟩
    · exact .inl hlast
    · -- the row has another name, so the deletion leaves it
      have hne : ¬w.details.name = c.details.name := fun heq => hnames c List.mem_cons_self heq.symm
      refine .inr ⟨(Table.mem_updateMany h).2 (.inr ⟨hrow, ?_⟩), hlabels, hnames⟩
      simp [liveNamed, syncedModel, hne]
  refine Triple.bind (Q := fun _ => after) ?_ fun _ => ?_
  · refine Database.triple_statement ?_ fun _ _ _ => trivial
    rintro db t ⟨hrefer, hdeployed⟩ h
    refine ⟨hrefer.insert h, fun w hw => ?_⟩
    rcases hdeployed w hw with hlast | ⟨hrow, hlabels, hnames⟩
    · unfold lastOfEachName at hlast
      split at hlast
      · exact .inl hlast
      · next hlater =>
        rcases List.mem_cons.1 hlast with rfl | hlast
        · refine .inr ⟨(Table.mem_insert h).2 (.inr rfl), hrefer.ne_of_insert h, ?_⟩
          intro c' hc' heq
          exact hlater (List.any_eq_true.2 ⟨c', hc', by simpa using heq⟩)
        · exact .inl hlast
    · exact .inr ⟨(Table.mem_insert h).2 (.inl hrow), hlabels,
        fun c' hc' => hnames c' (List.mem_cons_of_mem _ hc')⟩
  · cases existing with
    | none => exact Triple.pure fun _ h => h
    | some existing => exact Triple.pure fun _ h => h

/-! ## A whole sync -/

/-- A sync does what its second loop does: the steps before it keep the invariant, the last one
writes the environment. -/
theorem triple_updateEnvironmentWorkloadsInDb
    {Q : List (Uuid × Uuid) → Database Text → Prop}
    {catalogWorkloads : List (KubeAppCatalogWorkload Text)}
    {workloadsToDeploy : List (NewEnvironmentWorkload Text)} {serviceNames : List String}
    {P : Database Text → Prop}
    (hP : ∀ db, LabelInvariant fromStr db → P db)
    (hloop : Triple P
      (Program.foldEach (replaceDeployed environmentId environmentNamespace version now) []
        workloadsToDeploy) Q fun _ _ => True)
    (hQ : ∀ replaced db t, Q replaced db → Q replaced { db with environments := t }) :
    Triple (LabelInvariant fromStr)
      (updateEnvironmentWorkloadsInDb environmentId environmentNamespace catalogWorkloads
        workloadsToDeploy serviceNames version now)
      Q (fun _ => LabelInvariant fromStr) := by
  refine Triple.atomic (F := fun _ _ => True) ?_
  refine Triple.bind (Triple.read (Q := fun _ => LabelInvariant fromStr) fun _ h => h)
    fun existing => ?_
  refine Triple.bind (Q := fun _ => LabelInvariant fromStr) ?_ fun _ => ?_
  · refine (Triple.forEach (J := fun _ => LabelInvariant fromStr)
      (fun row _ => preserves_deleteMissing _ row) existing).consequence (fun _ h => h)
      (fun _ _ h => h) fun _ _ _ => trivial
  refine Triple.bind (Q := fun _ => LabelInvariant fromStr) ?_ fun _ => ?_
  · exact (preserves_onEnvironmentServices _).consequence (fun _ h => h) (fun _ _ h => h)
      fun _ _ _ => trivial
  refine Triple.bind (hloop.consequence hP (fun _ _ h => h) fun _ _ h => h) fun replaced => ?_
  refine Triple.bind (Q := fun _ => Q replaced) ?_ fun _ => Triple.pure fun _ h => h
  exact Database.triple_statement (fun db t h _ => hQ replaced db t h) fun _ _ _ => trivial

/-- A sync whose workloads that stay live have no labels keeps the invariant. -/
theorem triple_sync_of_unlabelled {catalogWorkloads : List (KubeAppCatalogWorkload Text)}
    {workloadsToDeploy : List (NewEnvironmentWorkload Text)} {serviceNames : List String}
    (hlast : ∀ w ∈ lastOfEachName workloadsToDeploy, deployedLabels fromStr w = ∅) :
    Preserves (LabelInvariant fromStr)
      (updateEnvironmentWorkloadsInDb environmentId environmentNamespace catalogWorkloads
        workloadsToDeploy serviceNames version now) := by
  have hloop : Triple (PendingLabels fromStr environmentId workloadsToDeploy)
      (Program.foldEach (replaceDeployed environmentId environmentNamespace version now) []
        workloadsToDeploy) (fun _ => PendingLabels fromStr environmentId []) fun _ _ => True :=
    Triple.foldEach (J := fun cs _ => PendingLabels fromStr environmentId cs)
      triple_replaceDeployed workloadsToDeploy []
  refine triple_updateEnvironmentWorkloadsInDb (fun db hdb => ⟨fun row hrow hdel => .inl
    (hdb.current row hrow hdel), hdb.refer, hlast⟩)
    (hloop.consequence (fun _ h => h) (fun _ db hdb => ?_) fun _ _ h => h)
    fun _ _ _ h => ⟨h.current, h.refer⟩
  refine ⟨fun row hrow hdel => ?_, hdb.refer⟩
  rcases hdb.current row hrow hdel with h | ⟨-, c, hc, -⟩
  · exact h
  · cases hc

/-- A sync that succeeds leaves its last workload of each name live and without label rows. -/
theorem deployed_of_sync {catalogWorkloads : List (KubeAppCatalogWorkload Text)}
    {workloadsToDeploy : List (NewEnvironmentWorkload Text)} {serviceNames : List String}
    {db db' : Database Text} {replaced : List (Uuid × Uuid)} (hdb : LabelInvariant fromStr db)
    (hrun : (updateEnvironmentWorkloadsInDb environmentId environmentNamespace catalogWorkloads
      workloadsToDeploy serviceNames version now).run db = (.ok replaced, db'))
    {w : NewEnvironmentWorkload Text} (hw : w ∈ lastOfEachName workloadsToDeploy) :
    syncedModel environmentId environmentNamespace w version now ∈ db'.environmentWorkloads.rows ∧
      ∀ label ∈ db'.environmentWorkloadLabels.rows, label.workloadId ≠ w.id := by
  let J (cs : List (NewEnvironmentWorkload Text)) (_ : List (Uuid × Uuid)) (db : Database Text) :
      Prop :=
    LabelsReferToWorkloads db ∧ ∀ w, w ∈ lastOfEachName workloadsToDeploy →
      Deployed environmentId environmentNamespace version now cs db w
  have hloop : Triple (J workloadsToDeploy [])
      (Program.foldEach (replaceDeployed environmentId environmentNamespace version now) []
        workloadsToDeploy) (J []) fun _ _ => True :=
    Triple.foldEach (triple_replaceDeployed_deployed _) workloadsToDeploy []
  have hsync : Triple (LabelInvariant fromStr)
      (updateEnvironmentWorkloadsInDb environmentId environmentNamespace catalogWorkloads
        workloadsToDeploy serviceNames version now) (J []) fun _ => LabelInvariant fromStr :=
    triple_updateEnvironmentWorkloadsInDb (fun _ h => ⟨h.refer, fun _ hw => .inl hw⟩) hloop
      fun _ _ _ h => h
  rcases (hsync.of_run_ok hdb hrun).2 w hw with hnil | ⟨hrow, hlabels, -⟩
  · cases hnil
  · exact ⟨hrow, hlabels⟩

/-- **When a sync keeps the labels current.** A sync that succeeds leaves the labels current
exactly if the workloads it leaves live have none. -/
theorem sync_labelsCurrent_iff {catalogWorkloads : List (KubeAppCatalogWorkload Text)}
    {workloadsToDeploy : List (NewEnvironmentWorkload Text)} {serviceNames : List String}
    {db db' : Database Text} {replaced : List (Uuid × Uuid)} (hdb : LabelInvariant fromStr db)
    (hrun : (updateEnvironmentWorkloadsInDb environmentId environmentNamespace catalogWorkloads
      workloadsToDeploy serviceNames version now).run db = (.ok replaced, db')) :
    LabelsCurrent fromStr db' ↔
      ∀ w ∈ lastOfEachName workloadsToDeploy, deployedLabels fromStr w = ∅ := by
  constructor
  · intro hcurrent w hw
    obtain ⟨hrow, hlabels⟩ := deployed_of_sync hdb hrun hw
    refine AList.ext (List.eq_nil_iff_forall_not_mem.2 ?_)
    rintro ⟨k, v⟩ hmem
    have hlookup : (deployedLabels fromStr w).lookup k = some v := AList.mem_lookup_iff.2 hmem
    have hlive := (hcurrent _ hrow rfl k v).2 (by rwa [storedLabels_syncedModel])
    obtain ⟨label, hlabel, hid, -⟩ := hlive
    exact hlabels label hlabel hid
  · intro hlast
    exact ((triple_sync_of_unlabelled hlast).of_run_ok hdb hrun).current

end

end KubeController

end Lapdev
