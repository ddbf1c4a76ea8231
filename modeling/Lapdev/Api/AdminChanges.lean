import Lapdev.Api.HrpcService

/-!
# Who changes an environment

A call of a handler succeeds only for an admin of the organization of a shared environment or for
the owner of another one, and changes rows of that environment only (`lawful_iff`). The exception is
the deletion of a workload, whose handler asks for no role.
-/

namespace Lapdev

open RustStd Sql Programs

variable {Text : Type}

/-! ## What a call changes -/

namespace Database

/-- The rows of other environments are as before. -/
structure OnlyIn (environmentId : Uuid) (db db' : Database Text) : Prop where
  environments : (db'.environments.select fun row => row.id ≠ environmentId) =
    db.environments.select fun row => row.id ≠ environmentId
  environmentWorkloads : (db'.environmentWorkloads.select fun row =>
      row.environmentId ≠ environmentId) =
    db.environmentWorkloads.select fun row => row.environmentId ≠ environmentId
  environmentServices : (db'.environmentServices.select fun row =>
      row.environmentId ≠ environmentId) =
    db.environmentServices.select fun row => row.environmentId ≠ environmentId

variable {environmentId : Uuid}

/-- Nothing is changed. -/
theorem OnlyIn.refl (db : Database Text) : OnlyIn environmentId db db := ⟨rfl, rfl, rfl⟩

/-- Changes of one environment, one after the other. -/
theorem OnlyIn.trans (db₁ db₂ db₃ : Database Text) (h : OnlyIn environmentId db₁ db₂)
    (h' : OnlyIn environmentId db₂ db₃) : OnlyIn environmentId db₁ db₃ :=
  ⟨h'.environments.trans h.environments, h'.environmentWorkloads.trans h.environmentWorkloads,
    h'.environmentServices.trans h.environmentServices⟩

/-- The workloads of an id are those of the environment. -/
def OwnedBy (environmentId workloadId : Uuid) (db : Database Text) : Prop :=
  ∀ row ∈ db.environmentWorkloads.rows, row.id = workloadId → row.environmentId = environmentId

/-- One row of an id says whose they all are. -/
theorem ownedBy_of_mem {db : Database Text} {row : KubeEnvironmentWorkload.Model Text}
    (hrow : row ∈ db.environmentWorkloads.rows) (henvironment : row.environmentId = environmentId) :
    OwnedBy environmentId row.id db := by
  intro other hother hid
  rw [db.environmentWorkloads.eq_of_conflict hother hrow (.inl hid), henvironment]

/-- The workloads are as before, and the rest of other environments. -/
structure KeepsWorkloads (environmentId : Uuid) (db db' : Database Text) : Prop where
  onlyIn : OnlyIn environmentId db db'
  environmentWorkloads : db'.environmentWorkloads = db.environmentWorkloads

/-- No workload is changed. -/
theorem KeepsWorkloads.refl (db : Database Text) : KeepsWorkloads environmentId db db :=
  ⟨.refl db, rfl⟩

/-- Changes that keep the workloads, one after the other. -/
theorem KeepsWorkloads.trans (db₁ db₂ db₃ : Database Text) (h : KeepsWorkloads environmentId db₁ db₂)
    (h' : KeepsWorkloads environmentId db₂ db₃) : KeepsWorkloads environmentId db₁ db₃ :=
  ⟨.trans db₁ db₂ db₃ h.onlyIn h'.onlyIn, h'.environmentWorkloads.trans h.environmentWorkloads⟩

/-- A workload is owned by the environment that owned it. -/
theorem KeepsWorkloads.ownedBy {db db' : Database Text} {workloadId : Uuid}
    (h : KeepsWorkloads environmentId db db') (howned : OwnedBy environmentId workloadId db) :
    OwnedBy environmentId workloadId db' := by
  rw [OwnedBy, h.environmentWorkloads]
  exact howned

/-- A statement on the labels. -/
theorem along_onEnvironmentWorkloadLabels_keepsWorkloads
    (f : Table KubeEnvironmentWorkloadLabel.Model →
      Except DbErr (Table KubeEnvironmentWorkloadLabel.Model)) :
    Along (KeepsWorkloads environmentId) (onEnvironmentWorkloadLabels f : Query Text PUnit) := by
  unfold onEnvironmentWorkloadLabels
  exact along_statement KeepsWorkloads.refl fun db t _ => ⟨⟨rfl, rfl, rfl⟩, rfl⟩

/-- An update of the row of the environment. -/
theorem along_onEnvironments_onlyIn {f : KubeEnvironment.Model → KubeEnvironment.Model}
    (hf : ∀ row, (f row).id = row.id) :
    Along (OnlyIn environmentId) (onEnvironments fun t =>
      t.updateOne (fun row => row.id = environmentId) f : Query Text PUnit) := by
  unfold onEnvironments
  refine along_statement OnlyIn.refl fun db t ht => ⟨?_, rfl, rfl⟩
  refine Table.select_updateMany_of_not_selected (Table.updateOne_eq_ok.1 ht).2 fun row _ hid => ?_
  simp [hf, of_decide_eq_true hid]

end Database

namespace DbApi

open Database

variable {environmentId : Uuid} {fromStr : Text → Option Yaml.Value}

/-- New labels keep the workloads. -/
theorem along_replaceLabels_keepsWorkloads (workloadId labelEnvironmentId : Uuid)
    (labels : BTreeMap String String) (now : Timestamp) :
    Along (KeepsWorkloads environmentId)
      (replaceEnvironmentWorkloadLabels workloadId labelEnvironmentId labels now :
        Query Text PUnit) := by
  unfold replaceEnvironmentWorkloadLabels insertLabel
  exact Along.bind KeepsWorkloads.trans (along_onEnvironmentWorkloadLabels_keepsWorkloads _) fun _ =>
    Along.forEach KeepsWorkloads.refl KeepsWorkloads.trans
      (fun _ => along_onEnvironmentWorkloadLabels_keepsWorkloads _) _

/-- A service of the environment is inserted. -/
theorem along_insertEnvironmentService_keepsWorkloads («namespace» : String)
    (service : KubeServiceWithYaml Text) (now : Timestamp) :
    Along (KeepsWorkloads environmentId)
      (insertEnvironmentService environmentId «namespace» service now : Query Text PUnit) := by
  unfold insertEnvironmentService onEnvironmentServices
  refine along_statement KeepsWorkloads.refl fun db t ht => ⟨⟨rfl, rfl, ?_⟩, rfl⟩
  rw [Table.select_insert ht]
  simp

/-- An update of the workloads of an id that are the environment's. -/
theorem onlyIn_updateWorkload {db : Database Text} {workloadId : Uuid}
    {t : Table (KubeEnvironmentWorkload.Model Text)}
    {f : KubeEnvironmentWorkload.Model Text → KubeEnvironmentWorkload.Model Text}
    (howned : OwnedBy environmentId workloadId db)
    (hf : ∀ row, (f row).environmentId = row.environmentId)
    (ht : db.environmentWorkloads.updateMany (fun row => row.id = workloadId) f = .ok t) :
    OnlyIn environmentId db { db with environmentWorkloads := t } := by
  refine ⟨rfl, Table.select_updateMany_of_not_selected ht fun row hrow hid => ?_, rfl⟩
  have henvironment := howned row hrow (of_decide_eq_true hid)
  simp [hf, henvironment]

/-- The update of a workload of the environment. -/
theorem onlyIn_updateEnvironmentWorkload (fromStr : Text → Option Yaml.Value) {db : Database Text}
    {workloadId : Uuid} (howned : OwnedBy environmentId workloadId db) (containers : List KubeContainerInfo)
    (workloadYaml : Text) (now : Timestamp) :
    OnlyIn environmentId db
      ((updateEnvironmentWorkload fromStr workloadId containers workloadYaml now).run db).2 := by
  unfold updateEnvironmentWorkload
  rw [Program.run_bind, returning, Program.run]
  cases ht : db.environmentWorkloads.updateMany (fun row => row.id = workloadId)
      fun row => { row with containers, workloadYaml } with
  | error e => exact .refl db
  | ok t =>
    have hwrite := onlyIn_updateWorkload (f := fun row => { row with containers, workloadYaml }) howned
      (fun _ => rfl) ht
    dsimp only
    rw [Program.run_done]
    dsimp only
    rw [Program.run_orFail_bind]
    cases (db.environmentWorkloads.one fun row => row.id = workloadId).map
        fun row => { row with containers, workloadYaml } with
    | none => exact hwrite
    | some updatedModel =>
      dsimp only [Option.elim]
      split
      · exact hwrite
      · refine OnlyIn.trans _ _ _ hwrite (KeepsWorkloads.onlyIn ?_)
        exact Along.bind KeepsWorkloads.trans (along_replaceLabels_keepsWorkloads _ _ _ _)
          (fun _ => (ReadOnly.pure _).along KeepsWorkloads.refl) _

/-- The deletion of a workload of the environment. -/
theorem onlyIn_deleteEnvironmentWorkload {db : Database Text} {workloadId : Uuid}
    (howned : OwnedBy environmentId workloadId db) (now : Timestamp) :
    OnlyIn environmentId db ((deleteEnvironmentWorkload workloadId now).run db).2 := by
  unfold deleteEnvironmentWorkload onEnvironmentWorkloads
  rw [Program.run_bind, statement, Program.run_write]
  cases ht : db.environmentWorkloads.updateOne (fun row => row.id = workloadId)
      fun row => { row with deletedAt := some now } with
  | error e => exact .refl db
  | ok t =>
    have hwrite := onlyIn_updateWorkload (f := fun row => { row with deletedAt := some now }) howned
      (fun _ => rfl) (Table.updateOne_eq_ok.1 ht).2
    exact OnlyIn.trans _ _ _ hwrite (along_onEnvironmentWorkloadLabels_keepsWorkloads _ _).onlyIn

/-- The insertion of a workload of the environment, which owns the id then. -/
theorem onlyIn_insertEnvironmentWorkload (fromStr : Text → Option Yaml.Value) (db : Database Text)
    (workload : NewEnvironmentWorkload Text) (version : Int) (now : Timestamp) (environmentId : Uuid) :
    OnlyIn environmentId db
        ((insertEnvironmentWorkload fromStr environmentId workload version now).run db).2 ∧
      (((insertEnvironmentWorkload fromStr environmentId workload version now).run db).1 = .ok ⟨⟩ →
        OwnedBy environmentId workload.id
          ((insertEnvironmentWorkload fromStr environmentId workload version now).run db).2) := by
  unfold insertEnvironmentWorkload onEnvironmentWorkloads
  dsimp only
  rw [Program.run_bind, statement, Program.run_write]
  cases ht : db.environmentWorkloads.insert (workloadModel environmentId workload version now) with
  | error e => exact ⟨.refl db, fun h => by cases h⟩
  | ok t =>
    have hwrite : OnlyIn environmentId db { db with environmentWorkloads := t } := by
      refine ⟨rfl, ?_, rfl⟩
      rw [Table.select_insert ht]
      simp [workloadModel]
    have hmem : workloadModel environmentId workload version now ∈
        ({ db with environmentWorkloads := t } : Database Text).environmentWorkloads.rows :=
      (Table.mem_insert ht).2 (.inr rfl)
    have howned : OwnedBy environmentId workload.id { db with environmentWorkloads := t } :=
      ownedBy_of_mem hmem rfl
    have hlabels : KeepsWorkloads environmentId { db with environmentWorkloads := t }
        ((replaceEnvironmentWorkloadLabels workload.id environmentId
          (labelsFromWorkloadYaml fromStr workload.details.kind workload.details.workloadYaml)
          now).run { db with environmentWorkloads := t }).2 :=
      along_replaceLabels_keepsWorkloads _ _ _ _ _
    exact ⟨OnlyIn.trans _ _ _ hwrite hlabels.onlyIn, fun _ => hlabels.ownedBy howned⟩

end DbApi

namespace KubeController

open Database

variable {fromStr : Text → Option Yaml.Value} {codec : ManifestCodec Text}

/-- The services of a branch keep the workloads. -/
theorem along_ensureBranchServices (codec : ManifestCodec Text) (environment : KubeEnvironment.Model)
    (baseWorkloadName branchWorkloadName : String) (now : Timestamp) :
    Along (KeepsWorkloads environment.id)
      (ensureBranchServicesForWorkload codec environment baseWorkloadName branchWorkloadName now) := by
  unfold ensureBranchServicesForWorkload
  refine Along.bind KeepsWorkloads.trans ((ReadOnly.orFail _ _).along KeepsWorkloads.refl)
    fun _ => Along.bind KeepsWorkloads.trans (((ReadOnly.read _).mapError _).along KeepsWorkloads.refl)
      fun _ => Along.bind KeepsWorkloads.trans
        (((ReadOnly.read _).mapError _).along KeepsWorkloads.refl) fun _ =>
        Along.bind KeepsWorkloads.trans (Along.foldEach KeepsWorkloads.refl KeepsWorkloads.trans
          (fun existingNames service => ?_) _ _) fun _ => (ReadOnly.pure _).along KeepsWorkloads.refl
  unfold ensureBranchService
  split
  · dsimp only
    split
    · exact (ReadOnly.pure _).along KeepsWorkloads.refl
    · exact Along.bind KeepsWorkloads.trans ((ReadOnly.ofExcept _).along KeepsWorkloads.refl) fun _ =>
        Along.bind KeepsWorkloads.trans
          ((DbApi.along_insertEnvironmentService_keepsWorkloads _ _ _).mapError _) fun _ =>
          (ReadOnly.pure _).along KeepsWorkloads.refl
  · exact (ReadOnly.pure _).along KeepsWorkloads.refl

/-- The override of a branch is its own. -/
theorem onlyIn_ensureBranchWorkloadOverride {environment : KubeEnvironment.Model}
    {baseWorkload record : KubeEnvironmentWorkload.Model Text} {newId : Uuid} {now : Timestamp}
    {db db' : Database Text}
    (hrun : (ensureBranchWorkloadOverride fromStr codec environment baseWorkload newId now).run db =
      (.ok record, db')) :
    OnlyIn environment.id db db' ∧ OwnedBy environment.id record.id db' := by
  unfold ensureBranchWorkloadOverride at hrun
  obtain ⟨-, -, hrun⟩ := Program.run_orFail_bind_eq_ok.1 hrun
  rw [DbApi.getBranchWorkloadOverride, Program.run_mapError_read_bind] at hrun
  cases hfound : db.environmentWorkloads.one fun row =>
      row.baseWorkloadId = some baseWorkload.id && row.environmentId = environment.id &&
        row.deletedAt = none with
  | some existing =>
    rw [hfound] at hrun
    cases hrun
    obtain ⟨hmem, hp⟩ := Table.mem_of_one hfound
    simp only [Bool.and_eq_true, decide_eq_true_eq] at hp
    exact ⟨.refl _, ownedBy_of_mem hmem hp.1.2⟩
  | none =>
    rw [hfound] at hrun
    obtain ⟨⟨newWorkload, branchName⟩, -, hrun⟩ := Program.run_ofExcept_bind_eq_ok.1 hrun
    obtain ⟨⟨⟩, db₁, hinsert, hrun⟩ := Program.run_bind_eq_ok.1 hrun
    obtain ⟨⟨⟩, db₂, hservices, hrun⟩ := Program.run_bind_eq_ok.1 hrun
    rw [DbApi.getEnvironmentWorkload, Program.run_mapError_read_bind, Program.run_orFail] at hrun
    have hinserted := DbApi.onlyIn_insertEnvironmentWorkload fromStr db newWorkload
      environment.catalogSyncVersion now environment.id
    rw [Program.run_mapError_eq_ok.1 hinsert] at hinserted
    have hkept := along_ensureBranchServices codec environment baseWorkload.name branchName
      now db₁
    rw [hservices] at hkept
    cases hrecord : db₂.environmentWorkloads.one fun row =>
        row.id = newWorkload.id && row.deletedAt = none with
    | none =>
      rw [hrecord] at hrun
      cases hrun
    | some found =>
      rw [hrecord] at hrun
      cases hrun
      obtain ⟨-, hp⟩ := Table.mem_of_one hrecord
      simp only [Bool.and_eq_true, decide_eq_true_eq] at hp
      rw [hp.1]
      exact ⟨.trans _ _ _ hinserted.1 hkept.onlyIn, hkept.ownedBy (hinserted.2 rfl)⟩

/-- An update of a workload changes the environment it is asked for and no other one. -/
theorem onlyIn_workloadRecord {environment : KubeEnvironment.Model}
    {existingWorkload record : KubeEnvironmentWorkload.Model Text} {newId : Uuid} {now : Timestamp}
    {db db' : Database Text} (hmem : existingWorkload ∈ db.environmentWorkloads.rows)
    (hbelongs : environment.baseEnvironmentId ≠ some existingWorkload.environmentId →
      existingWorkload.environmentId = environment.id)
    (hrun : (workloadRecord fromStr codec environment existingWorkload newId now).run db =
      (.ok record, db')) :
    OnlyIn environment.id db db' ∧ OwnedBy environment.id record.id db' := by
  unfold workloadRecord at hrun
  split at hrun
  · exact onlyIn_ensureBranchWorkloadOverride hrun
  · next hbase =>
    cases hrun
    exact ⟨.refl _, ownedBy_of_mem hmem (hbelongs hbase)⟩

/-- An update writes rows of the environment of the call. -/
theorem onlyIn_updateEnvironmentWorkload {outside : BranchOutside} {workloadId recordId : Uuid}
    {containers : List KubeContainerInfo} {environment : KubeEnvironment.Model} {now : Timestamp}
    {db db' : Database Text}
    (hbelongs : ∀ row ∈ db.environmentWorkloads.rows, row.id = workloadId →
      environment.baseEnvironmentId ≠ some row.environmentId → row.environmentId = environment.id)
    (hrun : (updateEnvironmentWorkload fromStr codec outside workloadId containers environment
      now).run db = (.ok recordId, db')) :
    OnlyIn environment.id db db' := by
  unfold updateEnvironmentWorkload at hrun
  rw [DbApi.getEnvironmentWorkload, Program.run_mapError_read_bind] at hrun
  obtain ⟨existingWorkload, hfound, hrun⟩ := Program.run_orFail_bind_eq_ok.1 hrun
  obtain ⟨hmem, hp⟩ := Table.mem_of_one hfound
  simp only [Bool.and_eq_true, decide_eq_true_eq] at hp
  obtain ⟨record, db₁, hrecord, hrun⟩ := Program.run_bind_eq_ok.1 hrun
  obtain ⟨honly, howned⟩ := onlyIn_workloadRecord hmem (hbelongs existingWorkload hmem hp.1) hrecord
  obtain ⟨kind, -, hrun⟩ := Program.run_orFail_bind_eq_ok.1 hrun
  obtain ⟨persistedYaml, -, hrun⟩ := Program.run_ofExcept_bind_eq_ok.1 hrun
  split at hrun
  · cases hrun
  obtain ⟨-, -, hrun⟩ := Program.run_ofExcept_bind_eq_ok.1 hrun
  obtain ⟨⟨⟩, db₂, hrequire, hwrites⟩ := Program.run_bind_eq_ok.1 hrun
  have hread : db₂ = db₁ := by
    unfold requireBaseEnvironment at hrequire
    split at hrequire
    · rw [DbApi.getKubeEnvironment, Program.run_mapError_read_bind] at hrequire
      obtain ⟨-, -, hrequire⟩ := Program.run_orFail_bind_eq_ok.1 hrequire
      cases hrequire
      rfl
    · cases hrequire
      rfl
  subst hread
  obtain ⟨written, db₃, hwrite, hdone⟩ := Program.run_bind_eq_ok.1 hwrites
  cases hdone
  have hupdated := DbApi.onlyIn_updateEnvironmentWorkload fromStr howned containers persistedYaml now
  rw [Program.run_mapError_eq_ok.1 hwrite] at hupdated
  exact .trans _ _ _ honly hupdated

/-- The deletion of a workload succeeds exactly if its checks do, the resources of a branch workload
are deleted and the database takes the write. -/
theorem run_deleteEnvironmentWorkload_eq_ok {outside : BranchOutside}
    {orgId userId environmentId workloadId : Uuid} {now : Timestamp} {db db' : Database Text} :
    (deleteEnvironmentWorkload outside orgId userId environmentId workloadId now).run db =
        (.ok ⟨⟩, db') ↔
      ∃ environment workload,
        (db.environments.one fun row => row.id = environmentId && row.deletedAt = none) =
          some environment ∧
        environment.organizationId = orgId ∧
        (environment.isShared = false → environment.userId = userId) ∧
        (db.environmentWorkloads.one fun row => row.id = workloadId && row.deletedAt = none) =
          some workload ∧
        workload.environmentId = environment.id ∧
        deleteResources outside environment workload = .ok ⟨⟩ ∧
        (DbApi.deleteEnvironmentWorkload workloadId now).run db = (.ok ⟨⟩, db') := by
  unfold deleteEnvironmentWorkload
  rw [DbApi.getKubeEnvironment, Program.run_mapError_read_bind, Program.run_orFail_bind_eq_ok]
  constructor
  · rintro ⟨environment, hfound, hrun⟩
    split at hrun
    · cases hrun
    next horg =>
    split at hrun
    · cases hrun
    next howner =>
    rw [DbApi.getEnvironmentWorkload, Program.run_mapError_read_bind] at hrun
    obtain ⟨workload, hworkload, hrun⟩ := Program.run_orFail_bind_eq_ok.1 hrun
    split at hrun
    · cases hrun
    next hbelongs =>
    obtain ⟨⟨⟩, hresources, hrun⟩ := Program.run_ofExcept_bind_eq_ok.1 hrun
    refine ⟨environment, workload, hfound, not_not.1 horg, fun hpersonal => ?_, hworkload,
      not_not.1 hbelongs, hresources, Program.run_mapError_eq_ok.1 hrun⟩
    simpa [hpersonal] using howner
  · rintro ⟨environment, workload, hfound, horg, howner, hworkload, hbelongs, hresources, hrun⟩
    refine ⟨environment, hfound, ?_⟩
    have hallowed : (!environment.isShared && environment.userId ≠ userId) = false := by
      cases hshared : environment.isShared with
      | true => rfl
      | false => simp [howner hshared]
    rw [if_neg (not_not.2 horg), if_neg (Bool.eq_false_iff.1 hallowed), DbApi.getEnvironmentWorkload,
      Program.run_mapError_read_bind]
    refine Program.run_orFail_bind_eq_ok.2 ⟨workload, hworkload, ?_⟩
    rw [if_neg (not_not.2 hbelongs)]
    exact Program.run_ofExcept_bind_eq_ok.2 ⟨⟨⟩, hresources, Program.run_mapError_eq_ok.2 hrun⟩

end KubeController

namespace HrpcServer

/-! ## Permissions -/

/-- The user of the token. -/
def Caller (s : HrpcServer Text) (token : Option Uuid) (user : User.Model) : Prop :=
  ∃ userId, token = some userId ∧ s.user userId = some user

/-- A live member of the organization has the role that `authorize` requires of an admin. -/
def Administers (s : HrpcServer Text) (userId orgId : Uuid) : Prop :=
  ∃ member ∈ s.members.rows, member.userId = userId ∧ member.organizationId = orgId ∧
    member.deletedAt = none ∧
    (UserRole.parse member.role = some .owner ∨ UserRole.parse member.role = some .admin)

/-- **Who may change an environment.** A shared one an admin of its organization, and a personal
environment or a branch its owner. -/
def Permitted (s : HrpcServer Text) (token : Option Uuid) (environment : KubeEnvironment.Model) :
    Prop :=
  ∃ user, s.Caller token user ∧
    (environment.isShared = true → s.Administers user.id environment.organizationId) ∧
    (environment.isShared = false → environment.userId = user.id)

/-- The rows of other environments are as before, with their preview URLs. -/
structure OnlyIn (environmentId : Uuid) (s s' : HrpcServer Text) : Prop where
  db : Database.OnlyIn environmentId s.db s'.db
  previewUrls : (s'.previewUrls.select fun row => row.environmentId ≠ environmentId) =
    s.previewUrls.select fun row => row.environmentId ≠ environmentId

variable {s s' : HrpcServer Text} {token : Option Uuid} {orgId : Uuid} {user : User.Model}
  {environment : KubeEnvironment.Model}

/-- The member is a row, with the role it has. -/
theorem administers_of_checkRole {member : OrganizationMember.Model}
    (hmember : s.organizationMember user.id orgId = some member)
    (hrole : checkRole member (some .admin) = .ok ⟨⟩) : s.Administers user.id orgId := by
  obtain ⟨hmem, hp⟩ := Table.mem_of_one hmember
  simp only [Bool.and_eq_true, decide_eq_true_eq] at hp
  refine ⟨member, hmem, hp.1.1, hp.1.2, hp.2, ?_⟩
  unfold checkRole at hrole
  cases hparse : UserRole.parse member.role with
  | none =>
    rw [hparse] at hrole
    cases hrole
  | some role =>
    rw [hparse] at hrole
    cases role with
    | owner => exact .inl rfl
    | admin => exact .inr rfl
    | member => exact nomatch hrole

/-- A call is authorized exactly if its token is of a user whose role in the organization suffices.
-/
theorem run_authorize_eq_ok {role : Option UserRole} :
    (authorize token orgId role).run s = (.ok user, s') ↔ s' = s ∧ s.Caller token user ∧
      ∃ member, s.organizationMember user.id orgId = some member ∧
        checkRole member role = .ok ⟨⟩ := by
  unfold authorize authorizeOrg authenticateRaw
  constructor
  · intro hrun
    obtain ⟨⟨caller, member⟩, s₁, horg, hrun⟩ := Program.run_bind_eq_ok.1 hrun
    obtain ⟨caller', s₂, hraw, horg⟩ := Program.run_bind_eq_ok.1 horg
    obtain ⟨userId, htoken, hraw⟩ := Program.run_orFail_bind_eq_ok.1 hraw
    rw [Program.run_read_bind, Program.run_orFail] at hraw
    rw [Program.run_read_bind] at horg
    obtain ⟨member', hmember, horg⟩ := Program.run_orFail_bind_eq_ok.1 horg
    cases horg
    obtain ⟨⟨⟩, hrole, hrun⟩ := Program.run_ofExcept_bind_eq_ok.1 hrun
    cases hrun
    cases huser : s.user userId with
    | none =>
      rw [huser] at hraw
      cases hraw
    | some found =>
      rw [huser] at hraw
      cases hraw
      exact ⟨rfl, ⟨userId, htoken, huser⟩, member, hmember, hrole⟩
  · rintro ⟨rfl, ⟨userId, rfl, huser⟩, member, hmember, hrole⟩
    refine Program.run_bind_eq_ok.2 ⟨(user, member), s', ?_,
      Program.run_ofExcept_bind_eq_ok.2 ⟨⟨⟩, hrole, rfl⟩⟩
    refine Program.run_bind_eq_ok.2 ⟨user, s', ?_, ?_⟩
    · rw [Program.run_orFail_bind]
      dsimp only [Option.elim]
      rw [Program.run_read_bind, huser]
      rfl
    · rw [Program.run_read_bind, hmember]
      rfl

/-- Who passes the checks of the environment may change it. -/
theorem permitted_of_authorizeOwner {unauthorized : HrpcError}
    (horg : environment.organizationId = orgId)
    (hrun : (authorizeOwner token orgId environment unauthorized).run s = (.ok user, s')) :
    s' = s ∧ s.Permitted token environment := by
  unfold authorizeOwner at hrun
  obtain ⟨caller, s₁, hauthorize, hchecked⟩ := Program.run_bind_eq_ok.1 hrun
  obtain ⟨rfl, hcaller, member, hmember, hrole⟩ := run_authorize_eq_ok.1 hauthorize
  split at hchecked
  · cases hchecked
  next howner =>
  cases hchecked
  refine ⟨rfl, user, hcaller, fun hshared => ?_, fun hpersonal => ?_⟩
  · rw [requiredRole, if_pos hshared] at hrole
    rw [horg]
    exact administers_of_checkRole hmember hrole
  · simpa [hpersonal] using howner

/-- The user of an authorized call is permitted to change the environment. -/
theorem permitted_of_authorizeEnvironment
    (hrun : (authorizeEnvironment token orgId environment).run s = (.ok user, s')) :
    s' = s ∧ s.Permitted token environment := by
  unfold authorizeEnvironment at hrun
  split at hrun
  · cases hrun
  next horg => exact permitted_of_authorizeOwner (not_not.1 horg) hrun

/-- A call of the controller succeeds as it does on the database. -/
theorem run_controller_eq_ok {α : Type} {call : KubeController.Call Text α} {a : α} :
    (controller call).run s = (.ok a, s') ↔
      ∃ db, call.run s.db = (.ok a, db) ∧ s' = { s with db := db } := by
  rw [controller, Program.run_mapError_eq_ok, Program.run_zoom (fun s : HrpcServer Text => s.db)
    (fun s db => { s with db }) (fun _ _ => rfl) (fun _ _ _ => rfl) fun _ => rfl]
  constructor
  · intro h
    obtain ⟨hok, rfl⟩ := Prod.mk.inj h
    exact ⟨_, Prod.ext hok rfl, rfl⟩
  · rintro ⟨db, hrun, rfl⟩
    rw [hrun]

/-- A change of the tables is a change of the state. -/
theorem onlyIn_of_db {environmentId : Uuid} {db : Database Text}
    (h : Database.OnlyIn environmentId s.db db) : OnlyIn environmentId s { s with db := db } :=
  ⟨h, rfl⟩

/-- A write to the preview URLs changes nothing else. -/
theorem run_onPreviewUrls_eq_ok {violation : ApiError}
    {f : Table KubeEnvironmentPreviewUrl.Model →
      Except DbErr (Table KubeEnvironmentPreviewUrl.Model)} :
    (onPreviewUrls violation f).run s = (.ok ⟨⟩, s') ↔
      ∃ t, f s.previewUrls = .ok t ∧ s' = { s with previewUrls := t } := by
  rw [onPreviewUrls, Program.run_write]
  cases f s.previewUrls with
  | ok t =>
    constructor
    · intro h
      cases h
      exact ⟨t, rfl, rfl⟩
    · rintro ⟨t', heq, rfl⟩
      cases heq
      rfl
  | error e => cases e <;> simp

end HrpcServer

namespace HrpcCall

open HrpcServer

/-- The environment that a call is about. -/
def environment (s : HrpcServer Text) : HrpcCall Text → Option KubeEnvironment.Model
  | deleteKubeEnvironment _ environmentId .. | updateEnvironmentWorkload _ _ environmentId ..
  | deleteEnvironmentWorkload _ _ environmentId .. | createEnvironmentPreviewUrl _ environmentId .. =>
    s.environment environmentId
  | updateEnvironmentPreviewUrl _ previewUrlId _ | deleteEnvironmentPreviewUrl _ previewUrlId _ =>
    (s.previewUrl previewUrlId).bind fun previewUrl => s.environment previewUrl.environmentId

variable (fromStr : Text → Option Yaml.Value) (codec : ManifestCodec Text)

/-- The call succeeds only for who may change its environment, and changes no other one. -/
def Lawful (s : HrpcServer Text) (token : Option Uuid) (call : HrpcCall Text) : Prop :=
  ∀ s', (call.handler fromStr codec token).run s = (.ok ⟨⟩, s') →
    ∃ environment, call.environment s = some environment ∧ s.Permitted token environment ∧
      OnlyIn environment.id s s'

/-- A member of the organization who is no admin deletes a workload of a shared environment. -/
def DeletesAsMember (s : HrpcServer Text) (token : Option Uuid) : HrpcCall Text → Prop
  | deleteEnvironmentWorkload outside orgId environmentId workloadId now =>
    ∃ user member environment workload, s.Caller token user ∧
      s.organizationMember user.id orgId = some member ∧ ¬s.Administers user.id orgId ∧
      s.environment environmentId = some environment ∧ environment.organizationId = orgId ∧
      environment.isShared = true ∧ s.workload workloadId = some workload ∧
      workload.environmentId = environment.id ∧
      KubeController.deleteResources outside environment workload = .ok ⟨⟩ ∧
      ((DbApi.deleteEnvironmentWorkload workloadId now).run s.db).1 = .ok ⟨⟩
  | _ => False

/-! ## The calls -/

section
variable {fromStr : Text → Option Yaml.Value} {codec : ManifestCodec Text} {s s' : HrpcServer Text}
  {token : Option Uuid} {orgId environmentId workloadId previewUrlId : Uuid} {now : Timestamp}
  {found : KubeEnvironment.Model}

/-- The environment that is found has the id it is looked up by. -/
theorem eq_of_environment (h : s.environment environmentId = some found) :
    found.id = environmentId := by
  obtain ⟨-, hp⟩ := Table.mem_of_one h
  simp only [Bool.and_eq_true, decide_eq_true_eq] at hp
  exact hp.1

/-- The writes of a deletion are updates of the row of the environment. -/
theorem lawful_deleteKubeEnvironment (connected : Bool)
    (notified destroyResult : Except ApiError PUnit.{1}) :
    Lawful fromStr codec s token
      (.deleteKubeEnvironment orgId environmentId connected notified destroyResult now) := by
  intro s' hrun
  obtain ⟨found, hfound, hrun⟩ := Program.run_orFail_bind_eq_ok.1 hrun
  obtain ⟨user, s₁, hauthorized, hcall⟩ := Program.run_bind_eq_ok.1 hrun
  obtain ⟨rfl, hpermitted⟩ := permitted_of_authorizeEnvironment hauthorized
  obtain ⟨db, hdelete, rfl⟩ := run_controller_eq_ok.1 hcall
  refine ⟨found, hfound, hpermitted, onlyIn_of_db ?_⟩
  rw [eq_of_environment hfound]
  have halong : Along (Database.OnlyIn environmentId) (KubeController.deleteKubeEnvironment orgId
      environmentId connected notified destroyResult now : KubeController.Call Text PUnit) :=
    KubeController.along_deleteKubeEnvironment Database.OnlyIn.refl Database.OnlyIn.trans
      (fun _ hf => Database.along_onEnvironments_onlyIn hf) _ _ _ _ _
  have honly := halong s₁.db
  rwa [hdelete] at honly

/-- A workload that passes the check belongs to the environment or to its base. -/
theorem belongs_of_checkBelongs {workload : KubeEnvironmentWorkload.Model Text}
    (h : checkBelongs found workload = .ok ⟨⟩)
    (hbase : found.baseEnvironmentId ≠ some workload.environmentId) :
    workload.environmentId = found.id := by
  unfold checkBelongs at h
  split at h
  · split at h
    · cases h
    · next baseEnv hsome =>
      split at h
      · cases h
      · next heq => exact absurd (hsome.trans (congrArg some (not_not.1 heq).symm)) hbase
  · next heq => exact not_not.1 heq

/-- An update writes the workload of the environment, or the override that a branch has of it. -/
theorem lawful_updateEnvironmentWorkload (outside : BranchOutside)
    (containers : List KubeContainerInfo) :
    Lawful fromStr codec s token
      (.updateEnvironmentWorkload outside orgId environmentId workloadId containers now) := by
  intro s' hrun
  obtain ⟨recordId, s₂, hrun, hdone⟩ := Program.run_bind_eq_ok.1 hrun
  cases hdone
  unfold HrpcServer.updateEnvironmentWorkload at hrun
  rw [Program.run_read_bind] at hrun
  obtain ⟨workload, hworkload, hrun⟩ := Program.run_orFail_bind_eq_ok.1 hrun
  rw [Program.run_read_bind] at hrun
  obtain ⟨found, hfound, hrun⟩ := Program.run_orFail_bind_eq_ok.1 hrun
  split at hrun
  · cases hrun
  next horg =>
  obtain ⟨⟨⟩, hchecked, hrun⟩ := Program.run_ofExcept_bind_eq_ok.1 hrun
  obtain ⟨user, s₁, hauthorized, hcall⟩ := Program.run_bind_eq_ok.1 hrun
  obtain ⟨rfl, hpermitted⟩ := permitted_of_authorizeOwner (not_not.1 horg) hauthorized
  obtain ⟨db, hupdate, rfl⟩ := run_controller_eq_ok.1 hcall
  refine ⟨found, hfound, hpermitted, onlyIn_of_db ?_⟩
  refine KubeController.onlyIn_updateEnvironmentWorkload (fun row hrow hid hbase => ?_) hupdate
  obtain ⟨hmem, hp⟩ := Table.mem_of_one hworkload
  simp only [Bool.and_eq_true, decide_eq_true_eq] at hp
  have heq : row = workload :=
    s₁.db.environmentWorkloads.eq_of_conflict hrow hmem (.inl (hid.trans hp.1.symm))
  rw [heq] at hbase ⊢
  exact belongs_of_checkBelongs hchecked hbase

/-- A preview URL is created by those who may, in their environment. -/
theorem lawful_createEnvironmentPreviewUrl (request : CreateKubeEnvironmentPreviewUrlRequest)
    (service : Option (KubeEnvironmentService.Model Text)) (suffix : String) :
    Lawful fromStr codec s token
      (.createEnvironmentPreviewUrl orgId environmentId request service previewUrlId suffix now) := by
  intro s' hrun
  obtain ⟨answer, s₂, hrun, hdone⟩ := Program.run_bind_eq_ok.1 hrun
  cases hdone
  unfold HrpcServer.createEnvironmentPreviewUrl at hrun
  rw [Program.run_read_bind] at hrun
  obtain ⟨found, hfound, hrun⟩ := Program.run_orFail_bind_eq_ok.1 hrun
  obtain ⟨user, s₁, hauthorized, hcall⟩ := Program.run_bind_eq_ok.1 hrun
  obtain ⟨rfl, hpermitted⟩ := permitted_of_authorizeEnvironment hauthorized
  unfold createPreviewUrl at hcall
  obtain ⟨service, -, hcall⟩ := Program.run_orFail_bind_eq_ok.1 hcall
  obtain ⟨⟨⟩, -, hcall⟩ := Program.run_ofExcept_bind_eq_ok.1 hcall
  obtain ⟨⟨⟩, s₃, hinsert, hdone⟩ := Program.run_bind_eq_ok.1 hcall
  cases hdone
  obtain ⟨t, ht, rfl⟩ := run_onPreviewUrls_eq_ok.1 hinsert
  refine ⟨found, hfound, hpermitted, .refl _, ?_⟩
  rw [Table.select_insert ht]
  simp [newPreviewUrl]

/-- A preview URL of a call is one of the environment that the handler checks. -/
theorem run_previewUrlEnvironment_eq_ok
    {previewUrl : KubeEnvironmentPreviewUrl.Model} :
    (previewUrlEnvironment previewUrlId).run s = (.ok (previewUrl, found), s') ↔
      s' = s ∧ s.previewUrl previewUrlId = some previewUrl ∧
        s.environment previewUrl.environmentId = some found := by
  unfold previewUrlEnvironment
  rw [Program.run_read_bind, Program.run_orFail_bind_eq_ok]
  constructor
  · rintro ⟨previewUrl', hpreviewUrl, hrun⟩
    rw [Program.run_read_bind] at hrun
    obtain ⟨found', hfound, hrun⟩ := Program.run_orFail_bind_eq_ok.1 hrun
    cases hrun
    exact ⟨rfl, hpreviewUrl, hfound⟩
  · rintro ⟨rfl, hpreviewUrl, hfound⟩
    exact ⟨previewUrl, hpreviewUrl, Program.run_orFail_bind_eq_ok.2 ⟨found, hfound, rfl⟩⟩

/-- The change of a preview URL changes only those of its environment. -/
theorem onlyIn_updatePreviewUrl {previewUrl : KubeEnvironmentPreviewUrl.Model}
    {t : Table KubeEnvironmentPreviewUrl.Model}
    {f : KubeEnvironmentPreviewUrl.Model → KubeEnvironmentPreviewUrl.Model}
    (hpreviewUrl : s.previewUrl previewUrlId = some previewUrl)
    (hfound : s.environment previewUrl.environmentId = some found)
    (ht : s.previewUrls.updateOne (fun row => row.id = previewUrlId) f = .ok t)
    (hf : ∀ row, (f row).environmentId = row.environmentId) :
    OnlyIn found.id s { s with previewUrls := t } := by
  refine ⟨.refl _, Table.select_updateMany_of_not_selected (Table.updateOne_eq_ok.1 ht).2
    fun row hrow hid => ?_⟩
  obtain ⟨hmem, hp⟩ := Table.mem_of_one hpreviewUrl
  simp only [Bool.and_eq_true, decide_eq_true_eq] at hp hid
  have heq : row = previewUrl :=
    s.previewUrls.eq_of_conflict hrow hmem (.inl (hid.trans hp.1.symm))
  simp [hf, heq, eq_of_environment hfound]

/-- The environment of a preview URL. -/
theorem environment_of_previewUrl {previewUrl : KubeEnvironmentPreviewUrl.Model}
    (hpreviewUrl : s.previewUrl previewUrlId = some previewUrl)
    (hfound : s.environment previewUrl.environmentId = some found) :
    ((s.previewUrl previewUrlId).bind fun previewUrl => s.environment previewUrl.environmentId) =
      some found := by
  rw [hpreviewUrl]
  exact hfound

/-- A preview URL is changed by those who may. -/
theorem lawful_updateEnvironmentPreviewUrl (request : UpdateKubeEnvironmentPreviewUrlRequest) :
    Lawful fromStr codec s token (.updateEnvironmentPreviewUrl orgId previewUrlId request) := by
  intro s' hrun
  obtain ⟨answer, s₂, hrun, hdone⟩ := Program.run_bind_eq_ok.1 hrun
  cases hdone
  unfold HrpcServer.updateEnvironmentPreviewUrl at hrun
  obtain ⟨⟨previewUrl, found⟩, s₁, hread, hrest⟩ := Program.run_bind_eq_ok.1 hrun
  obtain ⟨rfl, hpreviewUrl, hfound⟩ := run_previewUrlEnvironment_eq_ok.1 hread
  obtain ⟨user, s₃, hauthorized, hcall⟩ := Program.run_bind_eq_ok.1 hrest
  obtain ⟨rfl, hpermitted⟩ := permitted_of_authorizeEnvironment hauthorized
  obtain ⟨⟨⟩, s₄, hupdate, hdone⟩ := Program.run_bind_eq_ok.1 hcall
  cases hdone
  obtain ⟨t, ht, rfl⟩ := run_onPreviewUrls_eq_ok.1 hupdate
  exact ⟨found, environment_of_previewUrl hpreviewUrl hfound, hpermitted,
    onlyIn_updatePreviewUrl hpreviewUrl hfound ht fun _ => rfl⟩

/-- A preview URL is deleted by those who may. -/
theorem lawful_deleteEnvironmentPreviewUrl :
    Lawful fromStr codec s token (.deleteEnvironmentPreviewUrl orgId previewUrlId now) := by
  intro s' hrun
  obtain ⟨⟨previewUrl, found⟩, s₁, hread, hrest⟩ := Program.run_bind_eq_ok.1 hrun
  obtain ⟨rfl, hpreviewUrl, hfound⟩ := run_previewUrlEnvironment_eq_ok.1 hread
  obtain ⟨user, s₂, hauthorized, hcall⟩ := Program.run_bind_eq_ok.1 hrest
  obtain ⟨rfl, hpermitted⟩ := permitted_of_authorizeEnvironment hauthorized
  obtain ⟨t, ht, rfl⟩ := run_onPreviewUrls_eq_ok.1 hcall
  exact ⟨found, environment_of_previewUrl hpreviewUrl hfound, hpermitted,
    onlyIn_updatePreviewUrl hpreviewUrl hfound ht fun _ => rfl⟩

/-- The user of a token is one. -/
theorem caller_unique {user user' : User.Model} (h : s.Caller token user)
    (h' : s.Caller token user') : user = user' := by
  obtain ⟨userId, rfl, huser⟩ := h
  obtain ⟨userId', heq, huser'⟩ := h'
  cases heq
  exact Option.some.inj (huser.symm.trans huser')

/-- The deletion of a workload asks the controller whether the caller owns a personal environment,
and nobody about a shared one. -/
theorem run_deleteWorkload_eq_ok {outside : BranchOutside} :
    (HrpcServer.deleteEnvironmentWorkload token outside orgId environmentId workloadId now).run s =
        (.ok ⟨⟩, s') ↔
      ∃ user member, s.Caller token user ∧ s.organizationMember user.id orgId = some member ∧
        ∃ db, (KubeController.deleteEnvironmentWorkload outside orgId user.id environmentId
          workloadId now).run s.db = (.ok ⟨⟩, db) ∧ s' = { s with db := db } := by
  unfold HrpcServer.deleteEnvironmentWorkload
  constructor
  · intro hrun
    obtain ⟨user, s₁, hauthorize, hcall⟩ := Program.run_bind_eq_ok.1 hrun
    obtain ⟨rfl, hcaller, member, hmember, -⟩ := run_authorize_eq_ok.1 hauthorize
    exact ⟨user, member, hcaller, hmember, run_controller_eq_ok.1 hcall⟩
  · rintro ⟨user, member, hcaller, hmember, hdelete⟩
    exact Program.run_bind_eq_ok.2 ⟨user, s, run_authorize_eq_ok.2 ⟨rfl, hcaller, member, hmember, rfl⟩,
      run_controller_eq_ok.2 hdelete⟩

/-- The deletion of a workload is lawful but where a member deletes one of a shared environment. -/
theorem lawful_deleteEnvironmentWorkload_iff {outside : BranchOutside} :
    Lawful fromStr codec s token
        (.deleteEnvironmentWorkload outside orgId environmentId workloadId now) ↔
      ¬DeletesAsMember s token
        (.deleteEnvironmentWorkload outside orgId environmentId workloadId now) := by
  constructor
  · rintro hlawful ⟨user, member, found, workload, hcaller, hmember, hnot, hfound, horg, hshared,
      hworkload, hbelongs, hresources, hwrite⟩
    have hdelete : (KubeController.deleteEnvironmentWorkload outside orgId user.id environmentId
        workloadId now).run s.db = (.ok ⟨⟩, _) :=
      KubeController.run_deleteEnvironmentWorkload_eq_ok.2 ⟨found, workload, hfound, horg,
        fun hpersonal => absurd (hshared.symm.trans hpersonal) nofun, hworkload, hbelongs,
        hresources, Prod.ext hwrite rfl⟩
    obtain ⟨found', hfound', ⟨user', hcaller', hadmin, -⟩, -⟩ :=
      hlawful _ (run_deleteWorkload_eq_ok.2 ⟨user, member, hcaller, hmember, _, hdelete, rfl⟩)
    cases hfound.symm.trans hfound'
    rw [caller_unique hcaller hcaller', ← horg] at hnot
    exact hnot (hadmin hshared)
  · intro hnot s' hrun
    obtain ⟨user, member, hcaller, hmember, db, hdelete, rfl⟩ := run_deleteWorkload_eq_ok.1 hrun
    obtain ⟨found, workload, hfound, horg, howner, hworkload, hbelongs, hresources, hwrite⟩ :=
      KubeController.run_deleteEnvironmentWorkload_eq_ok.1 hdelete
    refine ⟨found, hfound, ⟨user, hcaller, fun hshared => ?_, howner⟩, onlyIn_of_db ?_⟩
    · rw [horg]
      by_contra hadmin
      exact hnot ⟨user, member, found, workload, hcaller, hmember, hadmin, hfound, horg, hshared,
        hworkload, hbelongs, hresources, congrArg Prod.fst hwrite⟩
    · obtain ⟨hmem, hp⟩ := Table.mem_of_one hworkload
      simp only [Bool.and_eq_true, decide_eq_true_eq] at hp
      have howned := Database.ownedBy_of_mem hmem hbelongs
      rw [hp.1] at howned
      have honly := DbApi.onlyIn_deleteEnvironmentWorkload howned now
      rwa [hwrite] at honly

end

/-- **Only an admin changes a shared environment, and only its owner another one.** A call of a
handler is lawful exactly if it is not the deletion of a workload of a shared environment by a member
who is no admin. -/
theorem lawful_iff (s : HrpcServer Text) (token : Option Uuid) (call : HrpcCall Text) :
    Lawful fromStr codec s token call ↔ ¬DeletesAsMember s token call := by
  cases call with
  | deleteKubeEnvironment => exact iff_of_true (lawful_deleteKubeEnvironment _ _ _) id
  | updateEnvironmentWorkload => exact iff_of_true (lawful_updateEnvironmentWorkload _ _) id
  | deleteEnvironmentWorkload => exact lawful_deleteEnvironmentWorkload_iff
  | createEnvironmentPreviewUrl => exact iff_of_true (lawful_createEnvironmentPreviewUrl _ _ _) id
  | updateEnvironmentPreviewUrl => exact iff_of_true (lawful_updateEnvironmentPreviewUrl _) id
  | deleteEnvironmentPreviewUrl => exact iff_of_true lawful_deleteEnvironmentPreviewUrl id

/-! ## A member deletes a workload of a shared environment -/

/-- The shared environment `1`, owned by the user `9`. -/
def sharedEnvironment : KubeEnvironment.Model where
  id := 1
  deletedAt := none
  organizationId := 7
  userId := 9
  appCatalogId := 2
  clusterId := 3
  name := "staging"
  «namespace» := "staging"
  status := "Running"
  isShared := true
  catalogSyncVersion := 0
  lastCatalogSyncedAt := none
  syncStatus := "Idle"
  baseEnvironmentId := none
  authToken := "token"

/-- Its workload `5`. -/
def sharedWorkload : KubeEnvironmentWorkload.Model Document where
  id := 5
  createdAt := 0
  deletedAt := none
  environmentId := 1
  baseWorkloadId := none
  name := "app"
  «namespace» := "staging"
  kind := "Deployment"
  containers := []
  ports := []
  workloadYaml := .blank
  catalogSyncVersion := 0
  readyReplicas := none

/-- The user `8` is a member of the organization of both. -/
def serverWithMember : HrpcServer Document where
  db :=
    { Database.empty Document with
      environments := ⟨[sharedEnvironment], List.pairwise_singleton _ _⟩
      environmentWorkloads := ⟨[sharedWorkload], List.pairwise_singleton _ _⟩ }
  users := ⟨[⟨8, none, none⟩], List.pairwise_singleton _ _⟩
  members := ⟨[⟨1, none, 7, 8, "Member"⟩], List.pairwise_singleton _ _⟩
  previewUrls := .empty

/-- The user `8` deletes the workload. -/
def memberDeletes : HrpcCall Document :=
  .deleteEnvironmentWorkload ⟨0, fun _ => .identity _, true, fun _ => .ok ⟨⟩, .ok ⟨⟩⟩ 7 1 5 4

/-- The call succeeds, and its user is no admin. -/
theorem not_lawful_memberDeletes :
    ¬∀ (s : HrpcServer Document) token call,
      Lawful (fun _ => none) Document.codec s token call := by
  intro h
  obtain ⟨found, hfound, ⟨user, hcaller, hadmin, -⟩, -⟩ :=
    h serverWithMember (some 8) memberDeletes _ rfl
  cases hfound
  obtain ⟨userId, heq, huser⟩ := hcaller
  cases heq
  cases huser
  obtain ⟨member, hmember, -, -, -, hrole⟩ := hadmin rfl
  cases List.mem_singleton.1 hmember
  rcases hrole with hrole | hrole <;> exact absurd hrole (by decide)

end HrpcCall

end Lapdev
