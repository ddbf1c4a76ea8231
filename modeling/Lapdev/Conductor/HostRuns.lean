import Lapdev.Conductor.HostCapacity

/-!
# Host capacity over whole runs

The discipline of the lock on a host: what a transaction that holds it knows about the host
(`Txn.Knows`), statement by statement, up to the commit that leaves the host with what it says. Its
run rule gives `hostCapacity_of_run`.
-/

namespace Lapdev

open RustStd Sql Locking Runs

namespace Scheduler

/-- Hosts and machine types have sizes that are not negative and fit in their columns. -/
structure Sized (db : SchedulerDb) : Prop where
  machineTypes : ∀ m ∈ db.machineTypes.rows, m.Fits
  hosts : ∀ h ∈ db.hosts.rows, h.Fits

/-- What a transaction relies on without a lock. -/
def Txn.Valid (db : SchedulerDb) : Txn → Prop
  | .begun _ => True
  | .choosing target m | .countingWorkspaces target m _ _ _ | .countingPrebuilds target m _ _ _ _
  | .inserting target m _ _ => target.machineType db = some m
  | .recountingWorkspaces host write | .recountingPrebuilds host write _ => write.OnHost db host.id
  | .committing write (some host) => write.OnHost db host.id
  | .committing write none => write.Uncounted db
  | .finishing prebuild status => status ≠ .building ∧
    ∃ p ∈ db.prebuilds.rows, p.id = prebuild.id ∧ p.hostId = prebuild.hostId

/-- What a transaction knows about the host it has locked. -/
def Txn.Knows (cpuOvercommit : Nat) (db : SchedulerDb) (host : WorkspaceHost.Model) : Txn → Prop
  | .countingWorkspaces _ m shared region host' =>
    host' = host ∧ (HostRequest.ofMachineType m shared region).meets host = true
  | .countingPrebuilds _ m shared region host' existing =>
    host' = host ∧ (HostRequest.ofMachineType m shared region).meets host = true ∧
      existing = (workspaceHolders db host.id).foldl .add {}
  | .inserting _ m host' cores =>
    host' = host ∧ Capacity host (⟨cores, some m⟩ :: holders db host.id)
  | .recountingWorkspaces host' write =>
    host' = host ∧ Capacity host (holdersAfter db write host.id)
  | .recountingPrebuilds host' write existing =>
    host' = host ∧ Capacity host (holdersAfter db write host.id) ∧
      existing = (workspaceHoldersAfter db write host.id).foldl .add {}
  | .committing write host' =>
    host' = some (recalculated cpuOvercommit host (existingAfter db write host.id)) ∧
      Capacity host (holdersAfter db write host.id)
  | .begun _ | .choosing _ _ | .finishing _ _ => True

/-- The same of a host by its id. -/
def Txn.KnowsHost (cpuOvercommit : Nat) (hostId : Uuid) (db : SchedulerDb) (t : Txn) : Prop :=
  ∃ host ∈ db.hosts.rows, host.id = hostId ∧ host.deletedAt = none ∧ t.Knows cpuOvercommit db host

section Frames

variable {cpuOvercommit : Nat} {db db' : SchedulerDb} {k : Uuid}

/-! ## What the other transactions leave -/

/-- The sizes stay. -/
theorem Keeps.sized (h : Keeps db db') (hsized : Sized db) : Sized db' where
  machineTypes := by rw [h.machineTypes]; exact hsized.machineTypes
  hosts host hhost := by
    obtain ⟨host₀, hmem, heq⟩ := h.hosts host hhost
    have hfits := hsized.hosts host₀ hmem
    rw [heq]
    exact ⟨hfits.cpu, hfits.memory, hfits.disk⟩

/-- The machine type of a target stays. -/
theorem Keeps.machineType (h : Keeps db db') (target : Target) :
    target.machineType db' = target.machineType db := by
  cases target with
  | workspace request machineTypeId =>
    rw [Target.machineType, Target.machineType, Scheduler.machineType, Scheduler.machineType,
      h.machineTypes]
  | prebuild projectId =>
    simp only [Target.machineType, projectMachineType, Scheduler.machineType, h.machineTypes,
      h.projects]

/-- A write stays one on the host. -/
theorem Keeps.onHost (h : Keeps db db') {write : Write} (hon : write.OnHost db k) :
    write.OnHost db' k := by
  cases write with
  | workspace | prebuild => exact hon
  | status id newStatus =>
    obtain ⟨hne, p, hp, hid, hhost⟩ := hon
    obtain ⟨p', hp', hid', hhost'⟩ := h.prebuilds p hp
    exact ⟨hne, p', hp', hid'.trans hid, hhost'.trans hhost⟩

/-- A write that does not count stays one. -/
theorem Keeps.uncounted (h : Keeps db db') {write : Write} (hun : write.Uncounted db) :
    write.Uncounted db' := by
  cases write with
  | workspace | prebuild => exact hun
  | status id newStatus =>
    obtain ⟨hne, p, hp, hid, hdeleted⟩ := hun
    obtain ⟨p', hp', hid', hhost'⟩ := h.prebuilds p hp
    refine ⟨hne, p', hp', hid'.trans hid, fun host hmem hhost => ?_⟩
    obtain ⟨host₀, hmem₀, heq⟩ := h.hosts host hmem
    rw [heq] at hhost ⊢
    exact hdeleted host₀ hmem₀ (hhost.trans hhost')

/-- A transaction stays valid. -/
theorem Keeps.valid (h : Keeps db db') {t : Txn} (hvalid : t.Valid db) : t.Valid db' := by
  cases t with
  | begun => trivial
  | choosing target | countingWorkspaces target | countingPrebuilds target | inserting target =>
    exact (h.machineType target).trans hvalid
  | recountingWorkspaces | recountingPrebuilds => exact h.onHost hvalid
  | committing write host =>
    cases host with
    | none => exact h.uncounted hvalid
    | some host => exact h.onHost hvalid
  | finishing prebuild status =>
    obtain ⟨hne, p, hp, hid, hhost⟩ := hvalid
    obtain ⟨p', hp', hid', hhost'⟩ := h.prebuilds p hp
    exact ⟨hne, p', hp', hid'.trans hid, hhost'.trans hhost⟩

/-- What is known of a host survives what leaves its rows. -/
theorem SameOn.knows (h : SameOn k db db') {t : Txn} (hknows : t.KnowsHost cpuOvercommit k db) :
    t.KnowsHost cpuOvercommit k db' := by
  obtain ⟨host, hmem, rfl, hlive, hknows⟩ := hknows
  refine ⟨host, (h.hosts host rfl).2 hmem, rfl, hlive, ?_⟩
  cases t with
  | begun | choosing | finishing => trivial
  | countingWorkspaces => exact hknows
  | countingPrebuilds =>
    rw [Txn.Knows, h.workspaceHolders]
    exact hknows
  | inserting =>
    rw [Txn.Knows, h.holders]
    exact hknows
  | recountingWorkspaces host' write =>
    rw [Txn.Knows, h.holdersAfter]
    exact hknows
  | recountingPrebuilds host' write =>
    rw [Txn.Knows, h.holdersAfter, h.workspaceHoldersAfter]
    exact hknows
  | committing write =>
    rw [Txn.Knows, h.holdersAfter, h.existingAfter]
    exact hknows

end Frames

/-! ## The statements -/

section Statements

variable {cpuOvercommit : Nat} {db db' : SchedulerDb} {t : Txn} {t' : Option Txn}

/-- Only a commit changes what is committed. -/
theorem eq_or_commit (h : Statement cpuOvercommit db t db' t') :
    db' = db ∨ ∃ write host, t = .committing write host ∧ t' = none ∧
      commit db write host = .ok db' := by
  cases h with
  | commit hcommit => exact .inr ⟨_, _, rfl, rfl, hcommit⟩
  | _ => exact .inl rfl

/-- Every statement keeps the machine types, the projects and the sizes. -/
theorem keeps_of_statement (h : Statement cpuOvercommit db t db' t') : Keeps db db' := by
  rcases eq_or_commit h with rfl | ⟨write, host, -, -, hcommit⟩
  · exact .refl db'
  · exact keeps_of_commit hcommit

/-- A machine type that is found is one of the table. -/
theorem Sized.fits (hsized : Sized db) {target : Target} {m : MachineType.Model}
    (h : target.machineType db = some m) : m.Fits := by
  have hone : ∀ id, machineType db id = some m → m.Fits := fun id hid =>
    hsized.machineTypes m (Table.mem_of_one hid).1
  cases target with
  | workspace request machineTypeId => exact hone _ h
  | prebuild projectId =>
    obtain ⟨project, -, hproject⟩ := Option.bind_eq_some_iff.1 h
    exact hone _ hproject

/-- A write of a status ends a build. -/
theorem Write.OnHost.ne_building {write : Write} {k : Uuid} (h : write.OnHost db k) :
    ∀ id newStatus, write = .status id newStatus → newStatus ≠ .building := by
  rintro id newStatus rfl
  exact h.1

/-- A write that does not count starts no build. -/
theorem Write.Uncounted.ne_building {write : Write} (h : write.Uncounted db) :
    ∀ id newStatus, write = .status id newStatus → newStatus ≠ .building := by
  rintro id newStatus rfl
  exact h.1

/-- The holders with a new target are the new one and the old ones. -/
theorem holdersAfter_target {target : Target} {m : MachineType.Model} {hostId : Uuid}
    {cores : CpuCore} (h : target.machineType db = some m) (id : Uuid) :
    (holdersAfter db (target.write id hostId cores) hostId).Perm
      (⟨cores, some m⟩ :: holders db hostId) := by
  cases target with
  | workspace request machineTypeId =>
    have hcounts : countsWorkspace hostId (request.workspace id machineTypeId hostId cores) =
        true := by
      simp [countsWorkspace, Conductor.Request.workspace]
    have hof : ofWorkspace db (request.workspace id machineTypeId hostId cores) = ⟨cores, some m⟩ :=
      congrArg (Holder.mk cores) h
    rw [holdersAfter, Target.write, workspaceHoldersAfter, hcounts, if_pos rfl, List.map_append,
      List.map_singleton, hof, ← workspaceHolders, List.append_assoc]
    exact List.perm_middle
  | prebuild projectId =>
    have hcounts : countsPrebuild hostId ⟨id, none, projectId, cores, hostId,
        PrebuildStatus.building.toString, false⟩ = true := by
      simp [countsPrebuild]
    have hof : ofPrebuild db ⟨id, none, projectId, cores, hostId,
        PrebuildStatus.building.toString, false⟩ = ⟨cores, some m⟩ :=
      congrArg (Holder.mk cores) h
    rw [holdersAfter, Target.write, prebuildHoldersAfter, hcounts, if_pos rfl, List.map_append,
      List.map_singleton, hof, ← prebuildHolders, ← List.append_assoc]
    exact List.perm_append_singleton _ _

/-- The holders with the end of a build are some of the old ones. -/
theorem holdersAfter_status (db : SchedulerDb) (id : Uuid) (newStatus : PrebuildStatus)
    (hostId : Uuid) : (holdersAfter db (.status id newStatus) hostId).Sublist (holders db hostId) := by
  refine (List.Sublist.refl _).append (List.Sublist.map _ (List.monotone_filter_right _ ?_))
  intro p hp
  exact (Bool.and_eq_true_iff.1 hp).1

/-- A write that concerns no host there is adds no holder anywhere. -/
theorem Write.Uncounted.holdersAfter {write : Write} (h : write.Uncounted db) (hostId : Uuid) :
    (Scheduler.holdersAfter db write hostId).Sublist (holders db hostId) := by
  cases write with
  | workspace row => exact h.elim
  | prebuild row =>
    have hcounts : countsPrebuild hostId row = false := by
      simp [countsPrebuild, show row.byWorkspace = true from h]
    rw [Scheduler.holdersAfter, prebuildHoldersAfter, hcounts, if_neg Bool.false_ne_true,
      List.append_nil]
    exact List.Sublist.refl _
  | status id newStatus => exact holdersAfter_status db id newStatus hostId

/-- What a statement leaves its transaction with. -/
theorem valid_of_statement {u : Txn} (h : Statement cpuOvercommit db t db' (some u))
    (hvalid : t.Valid db) : u.Valid db' := by
  cases h with
  | getMachineType htype => exact htype
  | decideWorkspaceHost | countWorkspaces | countPrebuilds | recountWorkspaces => exact hvalid
  | recountPrebuilds =>
    rw [Txn.Valid, recalculated_id]
    exact hvalid
  | @insert target m host cores id => cases target <;> exact rfl
  | finish hone =>
    obtain ⟨hne, p, hp, hid, hhost⟩ := hvalid
    obtain ⟨-, hfound⟩ := Table.mem_of_one hone
    simp only [Bool.and_eq_true, decide_eq_true_eq] at hfound
    exact ⟨hne, p, hp, hid, hhost.trans hfound.1.symm⟩
  | finishAlone hnone =>
    obtain ⟨hne, p, hp, hid, hhost⟩ := hvalid
    refine ⟨hne, p, hp, hid, fun host hmem heq hlive => ?_⟩
    have hnot := List.find?_eq_none.1 hnone host hmem
    simp [heq, hhost, hlive] at hnot

/-- What a transaction knows after a statement that leaves it holding a host. -/
theorem knows_of_statement {u : Txn} {k : Uuid} (h : Statement cpuOvercommit db t db' (some u))
    (hsized : Sized db) (hvalid : t.Valid db)
    (hinv : ∀ host ∈ db.hosts.rows, host.id = k → HostCapacity cpuOvercommit db host)
    (hknows : (reservations cpuOvercommit).holds t k → t.KnowsHost cpuOvercommit k db)
    (hholds : (reservations cpuOvercommit).holds u k) : u.KnowsHost cpuOvercommit k db' := by
  obtain ⟨host, hhost, hk⟩ := hholds
  cases h with
  | getMachineType | finishAlone => cases hhost
  | @decideWorkspaceHost target m shared region chosen hmem hmeets =>
    cases hhost
    have hlive := hmeets
    simp only [HostRequest.meets, Bool.and_eq_true, Option.isNone_iff_eq_none] at hlive
    exact ⟨host, hmem, hk, hlive.1.1.1.1.2, rfl, hmeets⟩
  | countWorkspaces =>
    cases hhost
    obtain ⟨_, hmem, -, hlive, rfl, hmeets⟩ := hknows ⟨host, rfl, hk⟩
    exact ⟨_, hmem, hk, hlive, rfl, hmeets, rfl⟩
  | @countPrebuilds target m shared region chosen existing seed cores hpick =>
    cases hhost
    obtain ⟨_, hmem, -, hlive, rfl, hmeets, rfl⟩ := hknows ⟨host, rfl, hk⟩
    have hcapacity := hinv _ hmem hk
    have htypes := hcapacity.capacity.types_fit
    have hdescribes : Describes (getExistingResource db host.id) (holders db host.id) := by
      have hworkspaces : Describes ((workspaceHolders db host.id).foldl .add {})
          (workspaceHolders db host.id) :=
        describes_nil.foldl fun x hx => htypes x (List.mem_append_left _ hx)
      exact hworkspaces.foldl fun x hx => htypes x (List.mem_append_right _ hx)
    exact ⟨_, hmem, hk, hlive, rfl, hcapacity.capacity.cons (hsized.hosts _ hmem)
      (hsized.fits hvalid) hdescribes (hcapacity.stored hlive) hmeets hdescribes hpick⟩
  | @insert target m chosen cores id =>
    cases hhost
    obtain ⟨_, hmem, -, hlive, rfl, hcapacity⟩ := hknows ⟨host, rfl, hk⟩
    exact ⟨_, hmem, hk, hlive, rfl, hcapacity.perm (holdersAfter_target hvalid id)⟩
  | @recountWorkspaces own chosen write hown =>
    cases hhost
    obtain ⟨_, hmem, -, hlive, rfl, hcapacity⟩ := hknows ⟨host, rfl, hk⟩
    exact ⟨_, hmem, hk, hlive, rfl, hcapacity, by rw [workspaceHolders_of_apply hown]⟩
  | @recountPrebuilds own chosen write existing hown =>
    cases hhost
    rw [recalculated_id] at hk
    obtain ⟨_, hmem, -, hlive, rfl, hcapacity, rfl⟩ := hknows ⟨_, rfl, hk⟩
    refine ⟨_, hmem, hk, hlive, ?_, hcapacity⟩
    rw [prebuildHolders_of_apply hown (Write.OnHost.ne_building hvalid)]
    rfl
  | @finish prebuild status chosen hone =>
    cases hhost
    obtain ⟨hmem, hfound⟩ := Table.mem_of_one hone
    simp only [Bool.and_eq_true, Option.isNone_iff_eq_none] at hfound
    exact ⟨host, hmem, hk, hfound.2, rfl, (hinv host hmem hk).capacity.sublist
      (holdersAfter_status db _ _ _)⟩

/-- What counts on a host after a commit is what counts there with its write. -/
theorem holders_of_commit {write : Write} {host : Option WorkspaceHost.Model}
    (h : commit db write host = .ok db')
    (hstatus : ∀ id newStatus, write = .status id newStatus → newStatus ≠ .building) (k : Uuid) :
    holders db' k = holdersAfter db write k ∧ getExistingResource db' k = existingAfter db write k := by
  have hown : ∃ own, write.apply db = .ok own ∧ workspaceHolders db' k = workspaceHolders own k ∧
      prebuildHolders db' k = prebuildHolders own k := by
    obtain ⟨own, hwrite, ⟨-, rfl⟩ | ⟨_, _, -, -, rfl⟩⟩ := commit_eq_ok h
    · exact ⟨db', hwrite, rfl, rfl⟩
    · exact ⟨own, hwrite, rfl, rfl⟩
  obtain ⟨own, hwrite, hworkspaces, hprebuilds⟩ := hown
  rw [workspaceHolders_of_apply hwrite] at hworkspaces
  rw [prebuildHolders_of_apply hwrite hstatus] at hprebuilds
  rw [holders, getExistingResource, hworkspaces, hprebuilds]
  exact ⟨rfl, rfl⟩

/-- A commit leaves the host of its transaction with the capacity it knows. -/
theorem hostCapacity_of_commit {write : Write} {stored : WorkspaceHost.Model}
    (h : commit db write (some stored) = .ok db') (hon : write.OnHost db stored.id)
    (hknows : (Txn.committing write (some stored)).KnowsHost cpuOvercommit stored.id db) :
    ∀ host ∈ db'.hosts.rows, host.id = stored.id → HostCapacity cpuOvercommit db' host := by
  intro host hhost hid
  obtain ⟨hholders, hexisting⟩ := holders_of_commit h hon.ne_building stored.id
  obtain ⟨own, hwrite, ⟨heq, -⟩ | ⟨stored', hosts, heq, hupdate, rfl⟩⟩ := commit_eq_ok h
  · cases heq
  cases heq
  obtain ⟨row, hrow, hk, -, hstored, hcapacity⟩ := hknows
  rw [hk] at hstored hcapacity
  have hhosts := (tables_of_apply hwrite).1
  have hupdated : host = recalculated cpuOvercommit row (existingAfter db write stored.id) := by
    rcases (Table.mem_updateMany hupdate).1 hhost with ⟨row', hrow', hid', rfl⟩ | ⟨-, hne⟩
    · rw [hhosts] at hrow'
      have hsame := db.hosts.eq_of_conflict hrow' hrow ((of_decide_eq_true hid').trans hk.symm)
      rw [hsame]
      exact (congrArg (storeAvailable · row) (Option.some.inj hstored)).trans
        (storeAvailable_recalculated _ _ _)
    · exact absurd hid (of_decide_eq_false hne)
  refine ⟨?_, fun _ => ?_⟩
  · rw [hid, hholders, hupdated]
    exact hcapacity.congr (recalculated_cpu _ _ _) (recalculated_memory _ _ _)
      (recalculated_disk _ _ _)
  · rw [hid, hexisting, hupdated, recalculated_recalculated]

/-- A statement keeps the capacity of a host, given what its transaction knows about it. -/
theorem hostCapacity_of_statement {k : Uuid} (h : Statement cpuOvercommit db t db' t')
    (hvalid : t.Valid db)
    (hinv : ∀ host ∈ db.hosts.rows, host.id = k → HostCapacity cpuOvercommit db host)
    (hknows : (reservations cpuOvercommit).holds t k → t.KnowsHost cpuOvercommit k db) :
    ∀ host ∈ db'.hosts.rows, host.id = k → HostCapacity cpuOvercommit db' host := by
  rcases eq_or_commit h with rfl | ⟨write, host, rfl, -, hcommit⟩
  · exact hinv
  cases host with
  | some stored =>
    rcases eq_or_ne stored.id k with rfl | hne
    · exact hostCapacity_of_commit hcommit hvalid (hknows ⟨stored, rfl, rfl⟩)
    · have hsame := sameOn_of_commit hcommit (.inl ⟨stored, rfl, hvalid, hne⟩)
      intro host hhost hk
      exact hsame.hostCapacity hk (hinv host ((hsame.hosts host hk).1 hhost) hk)
  | none =>
    intro host hhost hk
    have hhosts : db'.hosts = db.hosts := by
      obtain ⟨own, hwrite, ⟨-, rfl⟩ | ⟨_, _, heq, -, -⟩⟩ := commit_eq_ok hcommit
      · exact (tables_of_apply hwrite).1
      · cases heq
    rw [hhosts] at hhost
    have hcapacity := hinv host hhost hk
    have hun : write.Uncounted db := hvalid
    refine ⟨?_, fun hlive => ?_⟩
    · rw [(holders_of_commit hcommit hun.ne_building host.id).1]
      exact hcapacity.capacity.sublist (hun.holdersAfter host.id)
    · have hsame := sameOn_of_commit hcommit (.inr ⟨rfl, hun, host, hhost, rfl, hlive⟩)
      rw [hsame.existing]
      exact hcapacity.stored hlive

/-- A statement of another transaction leaves what is known of a host. -/
theorem knows_of_other {u : Txn} {k : Uuid} (h : Statement cpuOvercommit db t db' t')
    (hvalid : t.Valid db) (hnot : ¬(reservations cpuOvercommit).holds t k)
    (hknows : u.KnowsHost cpuOvercommit k db) : u.KnowsHost cpuOvercommit k db' := by
  rcases eq_or_commit h with rfl | ⟨write, host, rfl, -, hcommit⟩
  · exact hknows
  refine (sameOn_of_commit hcommit ?_).knows hknows
  cases host with
  | some stored => exact .inl ⟨stored, rfl, hvalid, fun heq => hnot ⟨stored, rfl, heq⟩⟩
  | none =>
    obtain ⟨host, hmem, hk, hlive, -⟩ := hknows
    exact .inr ⟨rfl, hvalid, host, hmem, hk, hlive⟩

end Statements

/-! ## The lock on a host -/

/-- The lock on a host protects its capacity. -/
def hostDiscipline (cpuOvercommit : Nat) : Discipline (reservations cpuOvercommit) where
  env := Sized
  valid db t := t.Valid db
  inv k db := ∀ host ∈ db.hosts.rows, host.id = k → HostCapacity cpuOvercommit db host
  knows k db t := t.KnowsHost cpuOvercommit k db
  start := by
    intro db t hstarts henv
    cases t with
    | begun target => trivial
    | finishing prebuild status => exact ⟨hstarts.2, prebuild, hstarts.1, rfl, rfl⟩
    | committing write host =>
      cases host with
      | none =>
        cases write with
        | prebuild row => exact hstarts
        | workspace | status => exact hstarts.elim
      | some host => cases write <;> exact hstarts.elim
    | choosing | countingWorkspaces | countingPrebuilds | inserting | recountingWorkspaces
    | recountingPrebuilds => exact hstarts.elim
  env_step h henv _ := (keeps_of_statement h).sized henv
  valid_step h _ hvalid := valid_of_statement h hvalid
  valid_frame h _ _ hvalid := (keeps_of_statement h).valid hvalid
  own h henv hvalid hinv hknows := by
    refine ⟨hostCapacity_of_statement h hvalid hinv hknows, fun u hu hholds => ?_⟩
    subst hu
    exact knows_of_statement h henv hvalid hinv hknows hholds
  frame h _ hvalid _ hnot _ hknows := knows_of_other h hvalid hnot hknows

/-- However many transactions reserve hosts and end builds at the same time, in every state the
holders of every host fit on it, and the columns of every host that is not deleted are those
computed from its holders. -/
theorem hostCapacity_of_run {I : Type*} [DecidableEq I] {cpuOvercommit : Nat}
    {sys sys' : System SchedulerDb Txn I} (hidle : ∀ i, sys.txns i = none) (hsized : Sized sys.db)
    (hstart : ∀ host ∈ sys.db.hosts.rows, HostCapacity cpuOvercommit sys.db host) {as : List I}
    (hrun : Run (Step (reservations cpuOvercommit)) sys as sys') :
    ∀ host ∈ sys'.db.hosts.rows, HostCapacity cpuOvercommit sys'.db host := by
  intro host hhost
  have hprotected := (hostDiscipline cpuOvercommit).run hrun
    (Discipline.protected_of_idle _ hidle hsized fun _ host hhost _ => hstart host hhost)
  exact hprotected.inv host.id host hhost rfl

/-! ## A new host -/

/-- A host without holders that has all it has available, as `create_workspace_host` adds it. -/
theorem hostCapacity_of_new {cpuOvercommit : Nat} (hover : 0 < cpuOvercommit) {db : SchedulerDb}
    {host : WorkspaceHost.Model} (hfits : host.Fits) (hnone : holders db host.id = [])
    (hshared : host.availableSharedCpu = host.cpu)
    (hdedicated : host.availableDedicatedCpu = host.cpu)
    (hmemory : host.availableMemory = host.memory) (hdisk : host.availableDisk = host.disk) :
    HostCapacity cpuOvercommit db host := by
  obtain ⟨hworkspaces, hprebuilds⟩ := List.append_eq_nil_iff.1 hnone
  have hexisting : getExistingResource db host.id = {} := by
    rw [getExistingResource, hworkspaces, hprebuilds]
    rfl
  have hcpu : asUsize host.cpu = host.cpu.toNat :=
    asUsize_eq_toNat hfits.cpu.1 (by have := hfits.cpu; omega)
  have hfree : (free host.cpu.toNat cpuOvercommit []).card = host.cpu.toNat := by
    simp [free, hover, occupied]
  have hcores : asI32 (host.cpu.toNat : Int) = host.cpu := by
    rw [Int.toNat_of_nonneg hfits.cpu.1, asI32_eq_self hfits.cpu.1 hfits.cpu.2]
  have hzero : asI32 ((0 : Nat) : Int) = 0 := asI32_eq_self (by omega) (by omega)
  refine ⟨?_, fun _ => ?_⟩
  · rw [hnone]
    exact ⟨by simp, .nil, hfits.memory.1, hfits.disk.1⟩
  · rw [hexisting]
    refine recalculated_eq_self ?_ ?_ ?_ ?_
    · rw [hcpu, describes_nil.card_available, hfree, hcores, hshared]
    · rw [hcpu, describes_nil.dedicated, hfree, hcores, hdedicated]
    · rw [hzero, Int.sub_zero, asI32_eq_self hfits.memory.1 hfits.memory.2, hmemory]
    · rw [hzero, Int.sub_zero, asI32_eq_self hfits.disk.1 hfits.disk.2, hdisk]

/-- A new host of four cores. -/
def newHost : WorkspaceHost.Model :=
  ⟨1, none, WorkspaceHostStatus.active.toString, 4, 16, 100, 4, 4, 16, 100, "main"⟩

/-- A machine type of two dedicated cores, and a project that uses it. -/
def smallType : MachineType.Model := ⟨2, "small", false, 2, 8, 20, 1⟩

/-- A project with that machine type. -/
def smallProject : Project.Model := ⟨3, none, 4, 5, 2, 1⟩

/-- The tables with a host and the prebuilds on it. -/
def oneHost (host : WorkspaceHost.Model) (prebuilds : Table Prebuild.Model) : SchedulerDb where
  hosts := ⟨[host], List.pairwise_singleton _ _⟩
  workspaces := .empty
  prebuilds := prebuilds
  projects := ⟨[smallProject], List.pairwise_singleton _ _⟩
  machineTypes := ⟨[smallType], List.pairwise_singleton _ _⟩

/-- A prebuild of the project, and the host it leaves. -/
def smallPrebuild : Prebuild.Model :=
  ⟨6, none, 3, .dedicated [0, 1], 1, PrebuildStatus.building.toString, false⟩

/-- The prebuild alone. -/
def smallPrebuilds : Table Prebuild.Model := ⟨[smallPrebuild], List.pairwise_singleton _ _⟩

/-- What the prebuild leaves of the host. -/
def leftHost : WorkspaceHost.Model :=
  ⟨1, none, WorkspaceHostStatus.active.toString, 4, 16, 100, 2, 2, 8, 80, "main"⟩

/-- The cores of the prebuild are the first two that are free. -/
theorem pickCores_newHost : pickCores (.identity Nat) 1 (.ofMachineType smallType false "main")
    newHost ((prebuildHolders (oneHost newHost .empty) newHost.id).foldl .add
      ((workspaceHolders (oneHost newHost .empty) newHost.id).foldl .add {})) =
      some (.dedicated [0, 1]) := by
  have hfree : (availableCores (asUsize newHost.cpu) 1 []).dedicated = Finset.range 4 := by
    decide +kernel
  rw [pickCores, show (prebuildHolders (oneHost newHost .empty) newHost.id).foldl
      ExistingResource.add ((workspaceHolders (oneHost newHost .empty) newHost.id).foldl .add {}) =
      ({} : ExistingResource) from rfl]
  dsimp only
  rw [hfree, Finset.sort_range]
  rfl

/-- The prebuild when it is built. -/
def builtPrebuilds : Table Prebuild.Model :=
  ⟨[{ smallPrebuild with status := PrebuildStatus.ready.toString }], List.pairwise_singleton _ _⟩

/-- Two transactions. -/
def two (t u : Option Txn) : Bool → Option Txn
  | true => t
  | false => u

/-- A step of the first transaction. -/
theorem update_two_true (t u t' : Option Txn) : Function.update (two t u) true t' = two t' u := by
  funext i
  cases i <;> rfl

/-- A step of the second one. -/
theorem update_two_false (t u u' : Option Txn) : Function.update (two t u) false u' = two t u' := by
  funext i
  cases i <;> rfl

section
variable {cpuOvercommit : Nat} {db db' : SchedulerDb} {t u : Txn} {t' u' : Option Txn}

/-- The first transaction starts. -/
theorem start_first (u : Option Txn) (h : (reservations cpuOvercommit).starts db t) :
    Step (reservations cpuOvercommit) ⟨db, two none u⟩ true ⟨db, two (some t) u⟩ := by
  rw [← update_two_true none u (some t)]
  exact .start rfl h

/-- The second one starts. -/
theorem start_second (t : Option Txn) (h : (reservations cpuOvercommit).starts db u) :
    Step (reservations cpuOvercommit) ⟨db, two t none⟩ false ⟨db, two t (some u)⟩ := by
  rw [← update_two_false t none (some u)]
  exact .start rfl h

/-- A statement of the first transaction beside one that has locked no host. -/
theorem step_first (h : Statement cpuOvercommit db t db' t') (hu : u.host = none) :
    Step (reservations cpuOvercommit) ⟨db, two (some t) (some u)⟩ true
      ⟨db', two t' (some u)⟩ := by
  rw [← update_two_true (some t) (some u) t']
  refine .statement rfl h ?_
  rintro - k - - (_ | _) v hne hv ⟨host, hhost, -⟩
  · cases hv
    rw [hu] at hhost
    cases hhost
  · exact hne rfl

/-- A statement of the second transaction that leaves it without a lock. -/
theorem step_second {t : Option Txn} (h : Statement cpuOvercommit db u db' u')
    (hu : u'.bind Txn.host = none) :
    Step (reservations cpuOvercommit) ⟨db, two t (some u)⟩ false ⟨db', two t u'⟩ := by
  rw [← update_two_false t (some u) u']
  refine .statement rfl h ?_
  rintro v k rfl ⟨host, hhost, -⟩
  rw [Option.bind_some, hhost] at hu
  cases hu

end

/-- A prebuild on a new host, and its end, while another one waits for a host. -/
theorem hostCapacity_of_run_prebuild :
    ∃ as bs : List Bool, ∃ waiting : Txn,
      Run (Step (reservations 1)) ⟨oneHost newHost .empty, two none none⟩ as
        ⟨oneHost leftHost smallPrebuilds, two none (some waiting)⟩ ∧
      HostCapacity 1 (oneHost leftHost smallPrebuilds) leftHost ∧
      Run (Step (reservations 1)) ⟨oneHost leftHost smallPrebuilds, two none (some waiting)⟩ bs
        ⟨oneHost newHost builtPrebuilds, two none none⟩ ∧
      HostCapacity 1 (oneHost newHost builtPrebuilds) newHost := by
  have happly : (Write.prebuild smallPrebuild).apply (oneHost newHost .empty) =
      .ok (oneHost newHost smallPrebuilds) :=
    rfl
  have hrecalculated : recalculated 1 newHost
      ((prebuildHolders (oneHost newHost smallPrebuilds) newHost.id).foldl .add
        ((workspaceHolders (oneHost newHost smallPrebuilds) newHost.id).foldl .add {})) = leftHost := by
    decide +kernel
  have hcommit : commit (oneHost newHost .empty) (.prebuild smallPrebuild) (some leftHost) =
      .ok (oneHost leftHost smallPrebuilds) :=
    rfl
  have hbuilt : Run (Step (reservations 1)) ⟨oneHost newHost .empty, two none none⟩
      [true, false, false, true, true, true, true, true, true, true, true]
      ⟨oneHost leftHost smallPrebuilds, two none (some (.choosing (.prebuild 3) smallType))⟩ := by
    refine .cons (start_first (t := .begun (.prebuild 3)) none trivial) ?_
    refine .cons (start_second (u := .begun (.prebuild 3)) _ trivial) ?_
    refine .cons (step_second (@Statement.getMachineType _ _ _ smallType rfl) rfl) ?_
    refine .cons (step_first (@Statement.getMachineType _ _ _ smallType rfl) rfl) ?_
    refine .cons (step_first (@Statement.of_decideWorkspaceHost _ _ _ _ false "main" newHost none []
      (by decide +kernel)) rfl) ?_
    refine .cons (step_first .countWorkspaces rfl) ?_
    refine .cons (step_first (.countPrebuilds pickCores_newHost) rfl) ?_
    refine .cons (step_first (@Statement.insert _ _ _ _ _ _ 6) rfl) ?_
    refine .cons (step_first (.recountWorkspaces happly) rfl) ?_
    refine .cons (step_first (.recountPrebuilds happly) rfl) ?_
    rw [hrecalculated]
    exact .cons (step_first (.commit hcommit) rfl) .nil
  have hfinish : (Write.status smallPrebuild.id .ready).apply (oneHost leftHost smallPrebuilds) =
      .ok (oneHost leftHost builtPrebuilds) :=
    rfl
  have hreleased : recalculated 1 leftHost
      ((prebuildHolders (oneHost leftHost builtPrebuilds) leftHost.id).foldl .add
        ((workspaceHolders (oneHost leftHost builtPrebuilds) leftHost.id).foldl .add {})) = newHost := by
    decide +kernel
  have hend : commit (oneHost leftHost smallPrebuilds) (.status smallPrebuild.id .ready) (some newHost) =
      .ok (oneHost newHost builtPrebuilds) :=
    rfl
  have hended : Run (Step (reservations 1))
      ⟨oneHost leftHost smallPrebuilds, two none (some (.choosing (.prebuild 3) smallType))⟩
      [true, true, true, true, true, false] ⟨oneHost newHost builtPrebuilds, two none none⟩ := by
    refine .cons (start_first (t := .finishing smallPrebuild .ready) _ ?_) ?_
    · exact ⟨List.mem_cons_self, PrebuildStatus.noConfusion⟩
    refine .cons (step_first (@Statement.finish _ _ _ _ leftHost rfl) rfl) ?_
    refine .cons (step_first (.recountWorkspaces hfinish) rfl) ?_
    refine .cons (step_first (.recountPrebuilds hfinish) rfl) ?_
    rw [hreleased]
    refine .cons (step_first (.commit hend) rfl) ?_
    exact .cons (step_second .fail rfl) .nil
  have hidle : ∀ i, two none none i = none := by
    rintro (_ | _) <;> rfl
  have hsized : Sized (oneHost newHost .empty) := by
    refine ⟨fun m hm => ?_, fun h hh => ?_⟩
    · cases List.mem_singleton.1 hm
      exact ⟨by decide, by decide, by decide⟩
    · cases List.mem_singleton.1 hh
      exact ⟨by decide, by decide, by decide⟩
  have hstart : ∀ host ∈ (oneHost newHost .empty).hosts.rows,
      HostCapacity 1 (oneHost newHost .empty) host := by
    intro host hh
    cases List.mem_singleton.1 hh
    exact hostCapacity_of_new Nat.one_pos ⟨by decide, by decide, by decide⟩ rfl rfl rfl rfl rfl
  exact ⟨_, _, _, hbuilt, hostCapacity_of_run hidle hsized hstart hbuilt _ List.mem_cons_self,
    hended, hostCapacity_of_run hidle hsized hstart (hbuilt.append hended) _ List.mem_cons_self⟩

end Scheduler

end Lapdev
