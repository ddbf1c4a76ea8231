import Lapdev.Conductor.Reservations

/-!
# Hosts are never given out twice

The lock on a host protects its row and the rows of its holders: a transaction changes them only
while it holds the lock (`SameOn`). So what a transaction has read of a host is still so when it
commits (`Knows`), and the columns it stores are those of the state it leaves.
-/

namespace Lapdev

open RustStd Sql Locking Runs

namespace Scheduler

/-- The holders of a host, in the order of `get_existing_resource`. -/
def holders (db : SchedulerDb) (hostId : Uuid) : List Holder :=
  workspaceHolders db hostId ++ prebuildHolders db hostId

/-- The holders of a host fit on it, and if it is not deleted its columns say what they leave. -/
structure HostCapacity (cpuOvercommit : Nat) (db : SchedulerDb) (host : WorkspaceHost.Model) :
    Prop where
  capacity : Capacity host (holders db host.id)
  stored : host.deletedAt = none →
    recalculated cpuOvercommit host (getExistingResource db host.id) = host

/-! ## What a write does to the holders of a host -/

/-- The holders among the workspaces, with a write. -/
def workspaceHoldersAfter (db : SchedulerDb) (write : Write) (hostId : Uuid) : List Holder :=
  match write with
  | .workspace row => (db.workspaces.select (countsWorkspace hostId) ++
      if countsWorkspace hostId row then [row] else []).map (ofWorkspace db)
  | .prebuild _ | .status _ _ => workspaceHolders db hostId

/-- The holders among the prebuilds, with a write; a new status is never that of a prebuild that is
being built. -/
def prebuildHoldersAfter (db : SchedulerDb) (write : Write) (hostId : Uuid) : List Holder :=
  match write with
  | .workspace _ => prebuildHolders db hostId
  | .prebuild row => (db.prebuilds.select (countsPrebuild hostId) ++
      if countsPrebuild hostId row then [row] else []).map (ofPrebuild db)
  | .status id _ =>
    (db.prebuilds.select fun p => countsPrebuild hostId p && !decide (p.id = id)).map (ofPrebuild db)

/-- The holders of a host with a write. -/
def holdersAfter (db : SchedulerDb) (write : Write) (hostId : Uuid) : List Holder :=
  workspaceHoldersAfter db write hostId ++ prebuildHoldersAfter db write hostId

/-- What exists on a host with a write. -/
def existingAfter (db : SchedulerDb) (write : Write) (hostId : Uuid) : ExistingResource :=
  (prebuildHoldersAfter db write hostId).foldl .add
    ((workspaceHoldersAfter db write hostId).foldl .add {})

/-- A write that ends the build of a prebuild of a host, or creates something there. -/
def Write.OnHost (db : SchedulerDb) (hostId : Uuid) : Write → Prop
  | .workspace row => row.hostId = hostId
  | .prebuild row => row.hostId = hostId
  | .status id newStatus => newStatus ≠ .building ∧
    ∃ p ∈ db.prebuilds.rows, p.id = id ∧ p.hostId = hostId

/-- A write that concerns no host that is there. -/
def Write.Uncounted (db : SchedulerDb) : Write → Prop
  | .workspace _ => False
  | .prebuild row => row.byWorkspace = true
  | .status id newStatus => newStatus ≠ .building ∧ ∃ p ∈ db.prebuilds.rows, p.id = id ∧
    ∀ h ∈ db.hosts.rows, h.id = p.hostId → h.deletedAt ≠ none

/-- A write by its table. -/
theorem apply_eq_ok {db own : SchedulerDb} {write : Write} (h : write.apply db = .ok own) :
    (∃ row workspaces, write = .workspace row ∧ db.workspaces.insert row = .ok workspaces ∧
      own = { db with workspaces }) ∨
    (∃ row prebuilds, write = .prebuild row ∧ db.prebuilds.insert row = .ok prebuilds ∧
      own = { db with prebuilds }) ∨
    ∃ id newStatus prebuilds, write = .status id newStatus ∧
      (db.prebuilds.updateMany (fun p => p.id = id) fun p =>
        { p with status := PrebuildStatus.toString newStatus }) = .ok prebuilds ∧
      own = { db with prebuilds } := by
  cases write with
  | workspace row =>
    cases hinsert : db.workspaces.insert row with
    | error e => simp [Write.apply, hinsert, bind, Except.bind] at h
    | ok workspaces =>
      simp only [Write.apply, hinsert] at h
      cases h
      exact .inl ⟨row, workspaces, rfl, hinsert, rfl⟩
  | prebuild row =>
    cases hinsert : db.prebuilds.insert row with
    | error e => simp [Write.apply, hinsert, bind, Except.bind] at h
    | ok prebuilds =>
      simp only [Write.apply, hinsert] at h
      cases h
      exact .inr (.inl ⟨row, prebuilds, rfl, hinsert, rfl⟩)
  | status id newStatus =>
    cases hupdate : db.prebuilds.updateOne (fun p => p.id = id) fun p =>
        { p with status := newStatus.toString } with
    | error e => simp [Write.apply, hupdate, bind, Except.bind] at h
    | ok prebuilds =>
      simp only [Write.apply, hupdate] at h
      cases h
      exact .inr (.inr ⟨id, newStatus, prebuilds, rfl, (Table.updateOne_eq_ok.1 hupdate).2, rfl⟩)

section Apply

variable {db own : SchedulerDb} {write : Write} {k : Uuid}

/-- A write leaves the tables of hosts, projects and machine types. -/
theorem tables_of_apply (h : write.apply db = .ok own) :
    own.hosts = db.hosts ∧ own.projects = db.projects ∧ own.machineTypes = db.machineTypes := by
  rcases apply_eq_ok h with ⟨_, _, -, -, rfl⟩ | ⟨_, _, -, -, rfl⟩ | ⟨_, _, _, -, -, rfl⟩ <;>
    exact ⟨rfl, rfl, rfl⟩

/-- A write leaves the machine types of workspaces. -/
theorem ofWorkspace_of_apply (h : write.apply db = .ok own) : ofWorkspace own = ofWorkspace db := by
  funext w
  rw [ofWorkspace, ofWorkspace, machineType, machineType, (tables_of_apply h).2.2]

/-- A write leaves the machine types of prebuilds. -/
theorem ofPrebuild_of_apply (h : write.apply db = .ok own) : ofPrebuild own = ofPrebuild db := by
  funext p
  simp only [ofPrebuild, projectMachineType, machineType, (tables_of_apply h).2.2,
    (tables_of_apply h).2.1]

/-- A transaction that reads its own write finds the holders with it. -/
theorem workspaceHolders_of_apply (h : write.apply db = .ok own) :
    workspaceHolders own k = workspaceHoldersAfter db write k := by
  have hof := ofWorkspace_of_apply h
  rcases apply_eq_ok h with ⟨row, workspaces, rfl, hinsert, rfl⟩ | ⟨row, _, rfl, -, rfl⟩ |
    ⟨id, newStatus, _, rfl, -, rfl⟩
  · rw [workspaceHolders, hof, Table.select_insert hinsert]
    rfl
  · rfl
  · rfl

/-- The prebuilds that hold resources after a write that starts no build. -/
theorem prebuildHolders_of_apply (h : write.apply db = .ok own)
    (hstatus : ∀ id newStatus, write = .status id newStatus → newStatus ≠ .building) :
    prebuildHolders own k = prebuildHoldersAfter db write k := by
  have hof := ofPrebuild_of_apply h
  rcases apply_eq_ok h with ⟨row, _, rfl, -, rfl⟩ | ⟨row, prebuilds, rfl, hinsert, rfl⟩ |
    ⟨id, newStatus, prebuilds, rfl, hupdate, rfl⟩
  · rw [prebuildHolders, hof]
    rfl
  · rw [prebuildHolders, hof, Table.select_insert hinsert]
    rfl
  · have hne := hstatus id newStatus rfl
    rw [prebuildHolders, hof, Table.select_updateMany hupdate]
    · rfl
    · intro p _
      cases newStatus with
      | building => exact absurd rfl hne
      | ready | failed => simp [countsPrebuild, PrebuildStatus.toString]

end Apply

/-! ## What a commit changes -/

/-- The update of a host stores what is computed from its row. -/
theorem storeAvailable_recalculated (cpuOvercommit : Nat) (host : WorkspaceHost.Model)
    (existing : ExistingResource) :
    storeAvailable (recalculated cpuOvercommit host existing) host =
      recalculated cpuOvercommit host existing := by
  rw [storeAvailable, recalculated]

/-- What no commit changes: machine types and projects, the hosts of prebuilds, and all of a host but
its columns of what is available. -/
structure Keeps (db db' : SchedulerDb) : Prop where
  machineTypes : db'.machineTypes = db.machineTypes
  projects : db'.projects = db.projects
  prebuilds : ∀ p ∈ db.prebuilds.rows, ∃ p' ∈ db'.prebuilds.rows, p'.id = p.id ∧ p'.hostId = p.hostId
  hosts : ∀ h' ∈ db'.hosts.rows, ∃ h ∈ db.hosts.rows, h' = storeAvailable h' h

/-- What a commit leaves of a host: its row and the rows that count there. -/
structure SameOn (k : Uuid) (db db' : SchedulerDb) : Prop where
  machineTypes : db'.machineTypes = db.machineTypes
  projects : db'.projects = db.projects
  workspaces : ∀ f, (∀ w, f w = true → w.hostId = k) → db'.workspaces.select f = db.workspaces.select f
  prebuilds : ∀ f, (∀ p, f p = true → p.hostId = k ∧ p.byWorkspace = false) →
    db'.prebuilds.select f = db.prebuilds.select f
  hosts : ∀ h : WorkspaceHost.Model, h.id = k → (h ∈ db'.hosts.rows ↔ h ∈ db.hosts.rows)

section Commit

variable {db db' own : SchedulerDb} {write : Write} {host : Option WorkspaceHost.Model} {k : Uuid}

/-- A state keeps what it has. -/
theorem Keeps.refl (db : SchedulerDb) : Keeps db db :=
  ⟨rfl, rfl, fun p hp => ⟨p, hp, rfl, rfl⟩, fun h hh => ⟨h, hh, rfl⟩⟩

/-- A commit is its write, followed by the update of the host if there is one. -/
theorem commit_eq_ok (h : commit db write host = .ok db') :
    ∃ own, write.apply db = .ok own ∧ (host = none ∧ db' = own ∨ ∃ host' hosts,
      host = some host' ∧
      own.hosts.updateMany (fun row => row.id = host'.id) (storeAvailable host') = .ok hosts ∧
      db' = { own with hosts }) := by
  cases hwrite : write.apply db with
  | error e => simp [commit, hwrite, bind, Except.bind] at h
  | ok own =>
    refine ⟨own, rfl, ?_⟩
    cases host with
    | none =>
      simp only [commit, hwrite] at h
      cases h
      exact .inl ⟨rfl, rfl⟩
    | some host' =>
      cases hupdate : own.hosts.updateOne (fun row => row.id = host'.id) (storeAvailable host') with
      | error e => simp [commit, hwrite, hupdate, bind, Except.bind] at h
      | ok hosts =>
        simp only [commit, hwrite] at h
        change (own.hosts.updateOne _ _ >>= fun hosts => pure { own with hosts }) = _ at h
        rw [hupdate] at h
        cases h
        exact .inr ⟨host', hosts, rfl, (Table.updateOne_eq_ok.1 hupdate).2, rfl⟩

/-- The prebuilds after a write are on the hosts they were on. -/
theorem prebuilds_of_apply (h : write.apply db = .ok own) :
    ∀ p ∈ db.prebuilds.rows, ∃ p' ∈ own.prebuilds.rows, p'.id = p.id ∧ p'.hostId = p.hostId := by
  intro p hp
  rcases apply_eq_ok h with ⟨_, _, -, -, rfl⟩ | ⟨_, _, -, hinsert, rfl⟩ |
    ⟨id, newStatus, _, -, hupdate, rfl⟩
  · exact ⟨p, hp, rfl, rfl⟩
  · exact ⟨p, (Table.mem_insert hinsert).2 (.inl hp), rfl, rfl⟩
  · by_cases hid : p.id = id
    · exact ⟨_, (Table.mem_updateMany hupdate).2 (.inl ⟨p, hp, decide_eq_true hid, rfl⟩), rfl, rfl⟩
    · exact ⟨p, (Table.mem_updateMany hupdate).2 (.inr ⟨hp, decide_eq_false hid⟩), rfl, rfl⟩

/-- A commit keeps the machine types, the projects, the hosts of prebuilds and the sizes of hosts. -/
theorem keeps_of_commit (h : commit db write host = .ok db') : Keeps db db' := by
  obtain ⟨own, hwrite, ⟨rfl, rfl⟩ | ⟨host', hosts, rfl, hupdate, rfl⟩⟩ := commit_eq_ok h
  · obtain ⟨hhosts, hprojects, htypes⟩ := tables_of_apply hwrite
    exact ⟨htypes, hprojects, prebuilds_of_apply hwrite, fun h hh => ⟨h, hhosts ▸ hh, rfl⟩⟩
  · obtain ⟨hhosts, hprojects, htypes⟩ := tables_of_apply hwrite
    refine ⟨htypes, hprojects, fun p hp => prebuilds_of_apply hwrite p hp, fun h hh => ?_⟩
    rcases (Table.mem_updateMany hupdate).1 hh with ⟨h₀, hmem, -, rfl⟩ | ⟨hmem, -⟩
    · exact ⟨h₀, hhosts ▸ hmem, rfl⟩
    · exact ⟨h, hhosts ▸ hmem, rfl⟩

/-- A write on another host, or on none, leaves the rows of a host. -/
theorem select_of_apply (h : write.apply db = .ok own)
    (hother : (∃ k', write.OnHost db k' ∧ k' ≠ k) ∨
      write.Uncounted db ∧ ∃ host ∈ db.hosts.rows, host.id = k ∧ host.deletedAt = none) :
    (∀ f, (∀ w, f w = true → w.hostId = k) → own.workspaces.select f = db.workspaces.select f) ∧
    ∀ f, (∀ p, f p = true → p.hostId = k ∧ p.byWorkspace = false) →
      own.prebuilds.select f = db.prebuilds.select f := by
  rcases apply_eq_ok h with ⟨row, workspaces, rfl, hinsert, rfl⟩ |
    ⟨row, prebuilds, rfl, hinsert, rfl⟩ | ⟨id, newStatus, prebuilds, rfl, hupdate, rfl⟩
  · refine ⟨fun f hf => ?_, fun f hf => rfl⟩
    have hrow : f row = false := by
      rcases hother with ⟨k', hon, hne⟩ | ⟨huncounted, -⟩
      · exact Bool.eq_false_iff.2 fun hfrow => hne (hon.symm.trans (hf row hfrow))
      · exact huncounted.elim
    rw [Table.select_insert hinsert, hrow]
    simp
  · refine ⟨fun f hf => rfl, fun f hf => ?_⟩
    have hrow : f row = false := by
      rcases hother with ⟨k', hon, hne⟩ | ⟨huncounted, -⟩
      · exact Bool.eq_false_iff.2 fun hfrow => hne (hon.symm.trans (hf row hfrow).1)
      · refine Bool.eq_false_iff.2 fun hfrow => ?_
        have hby := (hf row hfrow).2
        rw [show row.byWorkspace = true from huncounted] at hby
        cases hby
    rw [Table.select_insert hinsert, hrow]
    simp
  · refine ⟨fun f hf => rfl, fun f hf => ?_⟩
    -- the prebuild of the write is on another host
    have hhost : ∀ p ∈ db.prebuilds.rows, p.id = id → p.hostId ≠ k := by
      intro p hp hid hk
      rcases hother with ⟨k', ⟨-, p', hp', hid', hk'⟩, hne⟩ |
        ⟨⟨-, p', hp', hid', hdeleted⟩, host, hmem, hhost, hlive⟩
      · rw [db.prebuilds.eq_of_conflict hp hp' (hid.trans hid'.symm)] at hk
        exact hne (hk'.symm.trans hk)
      · rw [db.prebuilds.eq_of_conflict hp hp' (hid.trans hid'.symm)] at hk
        exact hdeleted host hmem (hhost.trans hk.symm) hlive
    refine Table.select_updateMany_of_not_selected hupdate fun p hp hid => ?_
    have hne := hhost p hp (of_decide_eq_true hid)
    exact ⟨Bool.eq_false_iff.2 fun hfp => hne (hf p hfp).1,
      Bool.eq_false_iff.2 fun hfp => hne (hf _ hfp).1⟩

/-- A commit that is about another host leaves what holds resources of this one. -/
theorem sameOn_of_commit (h : commit db write host = .ok db')
    (hother : (∃ host', host = some host' ∧ write.OnHost db host'.id ∧ host'.id ≠ k) ∨
      host = none ∧ write.Uncounted db ∧
        ∃ host ∈ db.hosts.rows, host.id = k ∧ host.deletedAt = none) : SameOn k db db' := by
  obtain ⟨own, hwrite, ⟨rfl, rfl⟩ | ⟨host', hosts, rfl, hupdate, rfl⟩⟩ := commit_eq_ok h
  · obtain ⟨hhosts, hprojects, htypes⟩ := tables_of_apply hwrite
    rcases hother with ⟨host', hnone, -⟩ | ⟨-, hother⟩
    · cases hnone
    · obtain ⟨hworkspaces, hprebuilds⟩ := select_of_apply hwrite (.inr hother)
      exact ⟨htypes, hprojects, hworkspaces, hprebuilds, fun h _ => by rw [hhosts]⟩
  · obtain ⟨hhosts, hprojects, htypes⟩ := tables_of_apply hwrite
    rcases hother with ⟨host₀, heq, hon, hne⟩ | ⟨hnone, -⟩
    · cases heq
      obtain ⟨hworkspaces, hprebuilds⟩ := select_of_apply hwrite (.inl ⟨_, hon, hne⟩)
      refine ⟨htypes, hprojects, hworkspaces, hprebuilds, fun h hk => ?_⟩
      rw [← hhosts, Table.mem_updateMany hupdate]
      constructor
      · rintro (⟨h₀, -, hid, rfl⟩ | ⟨hmem, -⟩)
        · exact absurd ((of_decide_eq_true hid).symm.trans hk) hne
        · exact hmem
      · intro hmem
        exact .inr ⟨hmem, decide_eq_false fun hid => hne (hid.symm.trans hk)⟩
    · cases hnone

end Commit

/-! ## What is read of a host that a commit leaves -/

section Same

variable {db db' : SchedulerDb} {k : Uuid}

/-- A workspace that is counted is on the host. -/
theorem hostId_of_countsWorkspace {w : Workspace.Model} (h : countsWorkspace k w = true) :
    w.hostId = k := by
  simp only [countsWorkspace, Bool.and_eq_true, decide_eq_true_eq] at h
  exact h.1.1

/-- A prebuild that is counted is on the host and was not started by a workspace. -/
theorem hostId_of_countsPrebuild {p : Prebuild.Model} (h : countsPrebuild k p = true) :
    p.hostId = k ∧ p.byWorkspace = false := by
  simp only [countsPrebuild, Bool.and_eq_true, decide_eq_true_eq] at h
  exact ⟨h.1.1.1, h.2⟩

/-- The machine type of a workspace is the same. -/
theorem SameOn.ofWorkspace (h : SameOn k db db') :
    Scheduler.ofWorkspace db' = Scheduler.ofWorkspace db := by
  funext w
  rw [Scheduler.ofWorkspace, Scheduler.ofWorkspace, machineType, machineType, h.machineTypes]

/-- The machine type of a prebuild is the same. -/
theorem SameOn.ofPrebuild (h : SameOn k db db') :
    Scheduler.ofPrebuild db' = Scheduler.ofPrebuild db := by
  funext p
  simp only [Scheduler.ofPrebuild, projectMachineType, machineType, h.machineTypes, h.projects]

/-- The workspaces on the host are the same. -/
theorem SameOn.workspaceHolders (h : SameOn k db db') :
    Scheduler.workspaceHolders db' k = Scheduler.workspaceHolders db k := by
  rw [Scheduler.workspaceHolders, h.ofWorkspace,
    h.workspaces _ fun _ => hostId_of_countsWorkspace, Scheduler.workspaceHolders]

/-- The prebuilds on the host are the same. -/
theorem SameOn.prebuildHolders (h : SameOn k db db') :
    Scheduler.prebuildHolders db' k = Scheduler.prebuildHolders db k := by
  rw [Scheduler.prebuildHolders, h.ofPrebuild, h.prebuilds _ fun _ => hostId_of_countsPrebuild,
    Scheduler.prebuildHolders]

/-- What holds resources of the host is the same. -/
theorem SameOn.holders (h : SameOn k db db') : Scheduler.holders db' k = Scheduler.holders db k := by
  rw [Scheduler.holders, h.workspaceHolders, h.prebuildHolders, Scheduler.holders]

/-- What `get_existing_resource` counts is the same. -/
theorem SameOn.existing (h : SameOn k db db') :
    getExistingResource db' k = getExistingResource db k := by
  rw [getExistingResource, h.workspaceHolders, h.prebuildHolders, getExistingResource]

/-- The workspaces on the host after a write are the same. -/
theorem SameOn.workspaceHoldersAfter (h : SameOn k db db') (write : Write) :
    Scheduler.workspaceHoldersAfter db' write k = Scheduler.workspaceHoldersAfter db write k := by
  cases write with
  | workspace row =>
    rw [Scheduler.workspaceHoldersAfter, h.ofWorkspace,
      h.workspaces _ fun _ => hostId_of_countsWorkspace, Scheduler.workspaceHoldersAfter]
  | prebuild | status => exact h.workspaceHolders

/-- The prebuilds on the host after a write are the same. -/
theorem SameOn.prebuildHoldersAfter (h : SameOn k db db') (write : Write) :
    Scheduler.prebuildHoldersAfter db' write k = Scheduler.prebuildHoldersAfter db write k := by
  cases write with
  | workspace row => exact h.prebuildHolders
  | prebuild row =>
    rw [Scheduler.prebuildHoldersAfter, h.ofPrebuild,
      h.prebuilds _ fun _ => hostId_of_countsPrebuild, Scheduler.prebuildHoldersAfter]
  | status id newStatus =>
    rw [Scheduler.prebuildHoldersAfter, h.ofPrebuild, h.prebuilds _ fun p hp =>
      hostId_of_countsPrebuild (Bool.and_eq_true_iff.1 hp).1, Scheduler.prebuildHoldersAfter]

/-- What holds resources of the host after a write is the same. -/
theorem SameOn.holdersAfter (h : SameOn k db db') (write : Write) :
    Scheduler.holdersAfter db' write k = Scheduler.holdersAfter db write k := by
  rw [Scheduler.holdersAfter, h.workspaceHoldersAfter, h.prebuildHoldersAfter,
    Scheduler.holdersAfter]

/-- What is counted after a write is the same. -/
theorem SameOn.existingAfter (h : SameOn k db db') (write : Write) :
    Scheduler.existingAfter db' write k = Scheduler.existingAfter db write k := by
  rw [Scheduler.existingAfter, h.workspaceHoldersAfter, h.prebuildHoldersAfter,
    Scheduler.existingAfter]

/-- The capacity of a host survives what leaves its rows. -/
theorem SameOn.hostCapacity (h : SameOn k db db') {cpuOvercommit : Nat}
    {host : WorkspaceHost.Model} (hk : host.id = k) (hcapacity : HostCapacity cpuOvercommit db host) :
    HostCapacity cpuOvercommit db' host := by
  subst hk
  exact ⟨by rw [h.holders]; exact hcapacity.capacity, by rw [h.existing]; exact hcapacity.stored⟩

end Same

end Scheduler

end Lapdev
