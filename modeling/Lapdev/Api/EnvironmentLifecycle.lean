import Lapdev.Db.Entities
import Lapdev.Logic.Run

/-!
# The lifecycle of an environment

Create, pause, resume and delete of one environment (`kube_controller/environment.rs`), with the
tasks that they spawn. A request reads the status once; then the request and its task go on, one
statement at a time, and write the status without reading it again. `orderly_of_run` says that a
delete is the last word on an environment if no other operation is under way when it marks the
environment, and only then.

A request that is refused, and an operation that fails before it has written anything, changes
nothing; they are left out.
-/

namespace Lapdev

open RustStd Runs

/-- Source: `common/src/kube.rs`. A column holds the name of the variant, which is read back. -/
inductive KubeEnvironmentStatus
  | creating | running | failed | error | pausing | paused | pauseFailed | resuming | resumeFailed
  | deleting | deleted
  deriving DecidableEq, Repr

/-- `strum_macros::Display`: the name of the variant. -/
def KubeEnvironmentStatus.toString : KubeEnvironmentStatus → String
  | creating => "Creating"
  | running => "Running"
  | failed => "Failed"
  | error => "Error"
  | pausing => "Pausing"
  | paused => "Paused"
  | pauseFailed => "PauseFailed"
  | resuming => "Resuming"
  | resumeFailed => "ResumeFailed"
  | deleting => "Deleting"
  | deleted => "Deleted"

/-- The two operations that deploy an existing environment again. -/
inductive Toggle
  | pause | resume
  deriving DecidableEq, Repr

namespace Toggle

/-- The status check of `pause_kube_environment` and `resume_kube_environment`. -/
def check : Toggle → KubeEnvironmentStatus → Except String Unit
  | pause, .running | pause, .pauseFailed => .ok ()
  | pause, .paused => .error "Environment is already paused"
  | pause, status =>
    .error ("Environment cannot be paused while it is in status " ++ status.toString)
  | resume, .paused | resume, .pauseFailed | resume, .resumeFailed => .ok ()
  | resume, .running => .error "Environment is already running"
  | resume, status =>
    .error ("Environment cannot be resumed while it is in status " ++ status.toString)

/-- The status while the operation is under way. -/
def busy : Toggle → KubeEnvironmentStatus
  | pause => .pausing
  | resume => .resuming

/-- The status after the operation. -/
def done : Toggle → KubeEnvironmentStatus
  | pause => .paused
  | resume => .running

/-- The status after the operation has failed. -/
def failed : Toggle → KubeEnvironmentStatus
  | pause => .pauseFailed
  | resume => .resumeFailed

end Toggle

/-- The columns of an environment that its lifecycle reads and writes. -/
structure EnvironmentRow where
  status : KubeEnvironmentStatus
  deletedAt : Option Timestamp
  pausedAt : Option Timestamp
  resumedAt : Option Timestamp
  organizationId : Uuid
  isShared : Bool
  baseEnvironmentId : Option Uuid

/-- Where an operation stands. -/
inductive Operation
  /-- `create_kube_environment` has spawned its deployment. -/
  | deploying
  /-- The deployment of a new environment has ended. -/
  | deployed (ok : Bool)
  /-- `create_branch_environment` notifies the kube-manager. -/
  | notifying
  /-- A pause or resume has passed its status check. -/
  | checked (toggle : Toggle)
  /-- Its task is spawned. -/
  | marked (toggle : Toggle)
  /-- The task has read the environment and assembled its workloads. -/
  | assembled (toggle : Toggle)
  /-- The task has deployed them. -/
  | redeployed (toggle : Toggle)
  /-- The task has failed. -/
  | broken (toggle : Toggle)
  /-- A delete has passed its checks. -/
  | deleting
  /-- Its task is spawned. -/
  | destroying
  /-- The resources are destroyed. -/
  | destroyed
  /-- The task of the delete has failed. -/
  | undeleted
  | finished
  deriving DecidableEq

/-- The operation is a create, pause or resume that has still to write the status. -/
def Operation.underWay : Operation → Bool
  | deploying | deployed _ | notifying | checked _ | marked _ | assembled _ | redeployed _
  | broken _ => true
  | _ => false

/-- What an operation does to the environment: it writes the status, deploys manifests (`none` for a
new environment), or has destroyed the resources. -/
inductive Effect
  | status (status : KubeEnvironmentStatus)
  | deployed (toggle : Option Toggle)
  | destroyed
  deriving DecidableEq

/-- An environment, the operations on it, and their effects in the order of time. -/
structure Lifecycle where
  row : Option EnvironmentRow
  operations : Nat → Option Operation
  history : List Effect

/-- One statement of an operation. The Booleans are the outcomes of what is not modelled: whether
manifests were applied, and whether a call succeeded. -/
inductive LifecycleAction
  | create (i : Nat) (organizationId : Uuid) (isShared : Bool)
  | createBranch (i : Nat) (organizationId baseEnvironmentId : Uuid)
  | deployNew (i : Nat) (applied ok : Bool)
  | finishNew (i : Nat)
  | finishBranch (i : Nat)
  | request (i : Nat) (toggle : Toggle)
  | mark (i : Nat)
  | assemble (i : Nat) (ok : Bool)
  | redeploy (i : Nat) (applied ok : Bool)
  | finish (i : Nat) (now : Timestamp)
  | fail (i : Nat)
  | requestDelete (i : Nat) (organizationId : Uuid) (hasBranches connected notified : Bool)
  | markDeleting (i : Nat)
  | destroy (i : Nat) (ok : Bool)
  | remove (i : Nat) (now : Timestamp) (ok : Bool)
  | failDelete (i : Nat)

namespace Lifecycle

/-- Before the environment is created. -/
def initial : Lifecycle := ⟨none, fun _ => none, []⟩

/-- `get_kube_environment`. -/
def environment (s : Lifecycle) : Option EnvironmentRow :=
  s.row.filter fun row => row.deletedAt = none

/-- An operation goes on. -/
def advance (s : Lifecycle) (i : Nat) (operation : Operation) : Lifecycle :=
  { s with operations := Function.update s.operations i (some operation) }

/-- Source: `environment.rs`; `none` leaves a time as it is. The row is updated by its identifier,
whether it is deleted or not. -/
def updateEnvironmentStatus (s : Lifecycle) (status : KubeEnvironmentStatus)
    (pausedAt resumedAt : Option (Option Timestamp)) : Lifecycle :=
  { s with
    row := s.row.map fun row =>
      { row with
        status := status
        pausedAt := pausedAt.getD row.pausedAt
        resumedAt := resumedAt.getD row.resumedAt }
    history := s.history ++ [.status status] }

/-- Manifests that reach the cluster are deployed. -/
def deploy (s : Lifecycle) (toggle : Option Toggle) (applied : Bool) : Lifecycle :=
  { s with history := s.history ++ if applied then [.deployed toggle] else [] }

/-- The last write of `run_pause_environment` and `run_resume_environment`. -/
def finish (s : Lifecycle) (now : Timestamp) : Toggle → Lifecycle
  | .pause => s.updateEnvironmentStatus Toggle.pause.done (some (some now)) (some none)
  | .resume => s.updateEnvironmentStatus Toggle.resume.done none (some (some now))

/-- The checks of `delete_kube_environment`. -/
def deletable (row : EnvironmentRow) (organizationId : Uuid)
    (hasBranches connected notified : Bool) : Bool :=
  row.organizationId = organizationId && !(row.isShared && hasBranches) && connected &&
    (row.baseEnvironmentId.isNone || notified)

/-- The row of a new environment. -/
def newRow (organizationId : Uuid) (isShared : Bool) (baseEnvironmentId : Option Uuid) :
    EnvironmentRow where
  status := .creating
  deletedAt := none
  pausedAt := none
  resumedAt := none
  organizationId := organizationId
  isShared := isShared
  baseEnvironmentId := baseEnvironmentId

/-- The statements of the operations, in any order. -/
inductive Step : Lifecycle → LifecycleAction → Lifecycle → Prop
  | create {s : Lifecycle} {i : Nat} {organizationId : Uuid} {isShared : Bool}
      (hfree : s.operations i = none) (hnew : s.row = none) :
      Step s (.create i organizationId isShared)
        { s.advance i .deploying with
          row := some (newRow organizationId isShared none)
          history := s.history ++ [.status .creating] }
  | createBranch {s : Lifecycle} {i : Nat} {organizationId baseEnvironmentId : Uuid}
      (hfree : s.operations i = none) (hnew : s.row = none) :
      Step s (.createBranch i organizationId baseEnvironmentId)
        { s.advance i .notifying with
          row := some (newRow organizationId false (some baseEnvironmentId))
          history := s.history ++ [.status .creating] }
  | deployNew {s : Lifecycle} {i : Nat} {applied ok : Bool}
      (hop : s.operations i = some .deploying) :
      Step s (.deployNew i applied ok) ((s.advance i (.deployed ok)).deploy none applied)
  | finishNew {s : Lifecycle} {i : Nat} {ok : Bool} (hop : s.operations i = some (.deployed ok)) :
      Step s (.finishNew i)
        ((s.advance i .finished).updateEnvironmentStatus (if ok then .running else .error)
          none none)
  | finishBranch {s : Lifecycle} {i : Nat} (hop : s.operations i = some .notifying) :
      Step s (.finishBranch i)
        ((s.advance i .finished).updateEnvironmentStatus .running none none)
  | request {s : Lifecycle} {i : Nat} {toggle : Toggle} {row : EnvironmentRow}
      (hfree : s.operations i = none) (hrow : s.environment = some row)
      (hcheck : toggle.check row.status = .ok ()) :
      Step s (.request i toggle) (s.advance i (.checked toggle))
  | mark {s : Lifecycle} {i : Nat} {toggle : Toggle}
      (hop : s.operations i = some (.checked toggle)) :
      Step s (.mark i)
        ((s.advance i (.marked toggle)).updateEnvironmentStatus toggle.busy none none)
  | assemble {s : Lifecycle} {i : Nat} {toggle : Toggle} {ok : Bool}
      (hop : s.operations i = some (.marked toggle)) :
      Step s (.assemble i ok)
        (s.advance i (if s.environment.isSome && ok then .assembled toggle else .broken toggle))
  | redeploy {s : Lifecycle} {i : Nat} {toggle : Toggle} {applied ok : Bool}
      (hop : s.operations i = some (.assembled toggle)) (hok : ok = true → applied = true) :
      Step s (.redeploy i applied ok)
        ((s.advance i (if ok then .redeployed toggle else .broken toggle)).deploy (some toggle)
          applied)
  | finish {s : Lifecycle} {i : Nat} {toggle : Toggle} {now : Timestamp}
      (hop : s.operations i = some (.redeployed toggle)) :
      Step s (.finish i now) ((s.advance i .finished).finish now toggle)
  | fail {s : Lifecycle} {i : Nat} {toggle : Toggle}
      (hop : s.operations i = some (.broken toggle)) :
      Step s (.fail i)
        ((s.advance i .finished).updateEnvironmentStatus toggle.failed none none)
  | requestDelete {s : Lifecycle} {i : Nat} {organizationId : Uuid}
      {hasBranches connected notified : Bool} {row : EnvironmentRow}
      (hfree : s.operations i = none) (hrow : s.environment = some row)
      (hcheck : deletable row organizationId hasBranches connected notified = true) :
      Step s (.requestDelete i organizationId hasBranches connected notified)
        (s.advance i .deleting)
  | markDeleting {s : Lifecycle} {i : Nat} (hop : s.operations i = some .deleting) :
      Step s (.markDeleting i)
        ((s.advance i .destroying).updateEnvironmentStatus .deleting none none)
  | destroy {s : Lifecycle} {i : Nat} {ok : Bool} (hop : s.operations i = some .destroying) :
      Step s (.destroy i ok)
        (if ok then
          { s.advance i .destroyed with history := s.history ++ [.destroyed] }
        else s.advance i .undeleted)
  | remove {s : Lifecycle} {i : Nat} {now : Timestamp} {ok : Bool}
      (hop : s.operations i = some .destroyed) :
      Step s (.remove i now ok)
        (if ok then
          { s.advance i .finished with
            row := s.row.map fun row => { row with deletedAt := some now } }
        else s.advance i .undeleted)
  | failDelete {s : Lifecycle} {i : Nat} (hop : s.operations i = some .undeleted) :
      Step s (.failDelete i)
        ((s.advance i .finished).updateEnvironmentStatus .error none none)

/-- A status that a deleted environment must not get. -/
def revives : KubeEnvironmentStatus → Bool
  | .creating | .running | .pausing | .paused | .pauseFailed | .resuming | .resumeFailed => true
  | .failed | .error | .deleting | .deleted => false

/-- The second effect may come after the first one. -/
def MayPrecede : Effect → Effect → Prop
  | .status .deleting, .status status => revives status = false
  | .destroyed, .deployed (some _) => False
  | _, _ => True

/-- **Deletion is final.** Once a delete has set the status, no status brings the environment back,
and once the resources are destroyed, no pause or resume deploys manifests. -/
def Orderly (s : Lifecycle) : Prop := s.history.Pairwise MayPrecede

/-- No create, pause or resume is under way. -/
def NoneUnderWay (s : Lifecycle) : Prop :=
  ∀ i operation, s.operations i = some operation → operation.underWay = false

/-- A delete marks the environment alone. -/
def DeletesAlone (s : Lifecycle) : LifecycleAction → Prop
  | .markDeleting _ => s.NoneUnderWay
  | _ => True

/-! ## The invariant -/

/-- The history is orderly, and from the first mark of a delete on nothing else is under way and the
status admits no pause or resume. -/
structure Settled (s : Lifecycle) : Prop where
  orderly : s.Orderly
  destroyed : .destroyed ∈ s.history → .status .deleting ∈ s.history
  destroying : ∀ i, s.operations i = some .destroying → .status .deleting ∈ s.history
  final : .status .deleting ∈ s.history → s.NoneUnderWay ∧
    ∃ row, s.row = some row ∧ (row.status = .deleting ∨ row.status = .error)

theorem settled_initial : initial.Settled where
  orderly := .nil
  destroyed h := nomatch h
  destroying _ h := nomatch h
  final h := nomatch h

/-- What may come after any effect. -/
theorem mayPrecede_of_not_revives {e e' : Effect}
    (hstatus : ∀ status, e' = .status status → revives status = false)
    (hdeployed : ∀ toggle, e' ≠ .deployed (some toggle)) : MayPrecede e e' := by
  unfold MayPrecede
  split
  · next status => exact hstatus status rfl
  · next toggle => exact hdeployed toggle rfl
  · trivial

/-- What any effect may come after. -/
theorem mayPrecede_of_ne {e e' : Effect} (hdeleting : e ≠ .status .deleting)
    (hdestroyed : e ≠ .destroyed) : MayPrecede e e' := by
  unfold MayPrecede
  split
  · exact absurd rfl hdeleting
  · exact absurd rfl hdestroyed
  · trivial

section
variable {s s' : Lifecycle} {i : Nat} {operation : Operation}

/-- An operation that is under way was not preceded by a delete. -/
theorem Settled.deleting_not_mem (h : s.Settled) (hop : s.operations i = some operation)
    (hunderWay : operation.underWay = true) : .status .deleting ∉ s.history := by
  intro hmem
  rw [(h.final hmem).1 i operation hop] at hunderWay
  cases hunderWay

/-- Before the first mark of a delete anything goes but to mark and to destroy. -/
theorem Settled.undeleted (h : s.Settled) (hbefore : .status .deleting ∉ s.history)
    {effects : List Effect} (hhistory : s'.history = s.history ++ effects)
    (heffects : ∀ e ∈ effects, e ≠ .status .deleting ∧ e ≠ .destroyed)
    (hoperations : ∀ j, s'.operations j = some .destroying →
      s.operations j = some .destroying) : s'.Settled := by
  have hnot : .status .deleting ∉ s'.history := by
    rw [hhistory, List.mem_append]
    exact fun hmem => hmem.elim hbefore fun hmem => (heffects _ hmem).1 rfl
  have hne : ∀ e ∈ s'.history, e ≠ .status .deleting ∧ e ≠ .destroyed := by
    intro e hmem
    rw [hhistory, List.mem_append] at hmem
    rcases hmem with hold | hnew
    · exact ⟨fun heq => hbefore (heq ▸ hold), fun heq => hbefore (h.destroyed (heq ▸ hold))⟩
    · exact heffects e hnew
  refine ⟨?_, fun hmem => ?_, fun j hj => ?_, fun hmem => absurd hmem hnot⟩
  · refine List.Pairwise.imp_of_mem (R := fun _ _ => True) (fun ha _ _ => ?_)
      (List.pairwise_of_forall fun _ _ => trivial)
    exact mayPrecede_of_ne (hne _ ha).1 (hne _ ha).2
  · exact absurd rfl (hne _ hmem).2
  · exact absurd (h.destroying j (hoperations j hj)) hbefore

/-- An operation that is under way goes on to `next`, with some effects. -/
theorem Settled.goesOn (h : s.Settled) (hop : s.operations i = some operation)
    (hunderWay : operation.underWay = true) (next : Operation) (effects : List Effect)
    (hoperations : s'.operations = Function.update s.operations i (some next))
    (hhistory : s'.history = s.history ++ effects) (hnext : next ≠ .destroying)
    (heffects : ∀ e ∈ effects, e ≠ .status .deleting ∧ e ≠ .destroyed) : s'.Settled := by
  refine h.undeleted (h.deleting_not_mem hop hunderWay) hhistory heffects fun j hj => ?_
  rw [hoperations] at hj
  rcases update_eq_some hj with ⟨-, heq⟩ | ⟨-, hold⟩
  · exact absurd (Option.some.inj heq) hnext
  · exact hold

/-- A delete goes on to `next`: its effects may come after any other. -/
theorem Settled.deletes (h : s.Settled) (i : Nat) (next : Operation) (effects : List Effect)
    (hoperations : s'.operations = Function.update s.operations i (some next))
    (hhistory : s'.history = s.history ++ effects) (hnext : next.underWay = false)
    (heffects : ∀ e ∈ effects, ∀ e', MayPrecede e' e)
    (hdeleting : .destroyed ∈ effects ∨ next = .destroying → .status .deleting ∈ s'.history)
    (hfinal : .status .deleting ∈ s'.history → s.NoneUnderWay ∧
      ∃ row, s'.row = some row ∧ (row.status = .deleting ∨ row.status = .error)) :
    s'.Settled := by
  refine ⟨?_, fun hmem => ?_, fun j hj => ?_, fun hmem => ⟨fun j op hj => ?_, (hfinal hmem).2⟩⟩
  · rw [Orderly, hhistory]
    refine List.pairwise_append.2 ⟨h.orderly, ?_, fun e _ e' he' => heffects e' he' e⟩
    refine List.Pairwise.imp_of_mem (R := fun _ _ => True) (fun _ hb _ => heffects _ hb _)
      (List.pairwise_of_forall fun _ _ => trivial)
  · rw [hhistory, List.mem_append] at hmem
    rcases hmem with hold | hnew
    · rw [hhistory]
      exact List.mem_append_left _ (h.destroyed hold)
    · exact hdeleting (.inl hnew)
  · rw [hoperations] at hj
    rcases update_eq_some hj with ⟨-, heq⟩ | ⟨-, hold⟩
    · exact hdeleting (.inr (Option.some.inj heq))
    · rw [hhistory]
      exact List.mem_append_left _ (h.destroying j hold)
  · rw [hoperations] at hj
    rcases update_eq_some hj with ⟨-, heq⟩ | ⟨-, hold⟩
    · cases heq
      exact hnext
    · exact (hfinal hmem).1 j op hold

/-- A pause or resume is not let in after a delete has set the status. -/
theorem Settled.not_deleting_of_check (h : s.Settled) {row : EnvironmentRow}
    (hrow : s.environment = some row) {toggle : Toggle} (hcheck : toggle.check row.status = .ok ()) :
    .status .deleting ∉ s.history := by
  intro hmem
  obtain ⟨-, row', hrow', hstatus⟩ := h.final hmem
  rw [environment, hrow', Option.filter_eq_some_iff] at hrow
  cases hrow.1
  rcases hstatus with heq | heq <;> rw [heq] at hcheck <;> cases toggle <;> cases hcheck

/-- A new operation that has not marked the environment. -/
theorem Settled.starts (h : s.Settled) {next : Operation} (hnext : next ≠ .destroying)
    (hfinal : .status .deleting ∈ s.history → next.underWay = false) :
    (s.advance i next).Settled := by
  refine ⟨h.orderly, h.destroyed, fun j hj => ?_, fun hmem => ⟨fun j op hj => ?_, (h.final hmem).2⟩⟩
  · rcases update_eq_some hj with ⟨-, heq⟩ | ⟨-, hold⟩
    · exact absurd (Option.some.inj heq) hnext
    · exact h.destroying j hold
  · rcases update_eq_some hj with ⟨-, heq⟩ | ⟨-, hold⟩
    · cases heq
      exact hfinal hmem
    · exact (h.final hmem).1 j op hold

end

/-- A status is written on an environment that exists. -/
theorem exists_row_updateEnvironmentStatus {s : Lifecycle} {row : EnvironmentRow}
    (h : s.row = some row) (status : KubeEnvironmentStatus)
    (pausedAt resumedAt : Option (Option Timestamp)) :
    ∃ row, (s.updateEnvironmentStatus status pausedAt resumedAt).row = some row ∧
      row.status = status :=
  ⟨_, congrArg (Option.map _) h, rfl⟩

/-- Operations are on an environment that exists. -/
def Exists (s : Lifecycle) : Prop := ∀ i operation, s.operations i = some operation → s.row.isSome

/-- After a step the environment exists. -/
theorem Exists.step {s s' : Lifecycle} {action : LifecycleAction} (hstep : Step s action s')
    (h : s.Exists) : s'.row.isSome := by
  have hread : ∀ {row}, s.environment = some row → s.row.isSome := by
    intro row hrow
    rw [environment, Option.filter_eq_some_iff] at hrow
    rw [hrow.1]
    rfl
  cases hstep with
  | create | createBranch => rfl
  | request _ hrow | requestDelete _ hrow => exact hread hrow
  | deployNew hop | assemble hop | redeploy hop => exact h _ _ hop
  | finishNew hop | finishBranch hop | mark hop | fail hop | markDeleting hop | failDelete hop =>
    exact Option.isSome_map.trans (h _ _ hop)
  | @finish _ toggle _ hop => cases toggle <;> exact Option.isSome_map.trans (h _ _ hop)
  | destroy hop =>
    split
    · exact h _ _ hop
    · exact h _ _ hop
  | remove hop =>
    split
    · exact Option.isSome_map.trans (h _ _ hop)
    · exact h _ _ hop

/-- Every step keeps the invariant, where deletes mark the environment alone. -/
theorem Settled.step {s s' : Lifecycle} {action : LifecycleAction} (hstep : Step s action s')
    (halone : s.DeletesAlone action) (hexists : s.Exists) (h : s.Settled) : s'.Settled := by
  cases hstep with
  | create hfree hnew | createBranch hfree hnew =>
    have hbefore : .status .deleting ∉ s.history := by
      intro hmem
      obtain ⟨-, row, hrow, -⟩ := h.final hmem
      rw [hnew] at hrow
      cases hrow
    refine h.undeleted hbefore (rfl : _ = s.history ++ [Effect.status .creating]) (by simp)
      fun j hj => ?_
    rcases update_eq_some hj with ⟨-, heq⟩ | ⟨-, hold⟩
    · cases heq
    · exact hold
  | @deployNew i applied ok hop =>
    refine h.goesOn hop rfl (.deployed ok) (if applied then [.deployed none] else []) rfl rfl
      nofun ?_
    cases applied <;> simp
  | @finishNew i ok hop =>
    refine h.goesOn hop rfl .finished [.status (if ok then .running else .error)] rfl rfl nofun ?_
    cases ok <;> simp
  | finishBranch hop =>
    exact h.goesOn hop rfl .finished [.status .running] rfl rfl nofun (by simp)
  | request hfree hrow hcheck =>
    exact h.starts nofun fun hmem => absurd hmem (h.not_deleting_of_check hrow hcheck)
  | @mark i toggle hop =>
    refine h.goesOn hop rfl (.marked toggle) [.status toggle.busy] rfl rfl nofun ?_
    cases toggle <;> simp [Toggle.busy]
  | @assemble i toggle ok hop =>
    refine h.starts (by split <;> nofun) fun hmem => absurd hmem (h.deleting_not_mem hop rfl)
  | @redeploy i toggle applied ok hop hok =>
    refine h.goesOn hop rfl (if ok then .redeployed toggle else .broken toggle)
      (if applied then [.deployed (some toggle)] else []) rfl rfl (by split <;> nofun) ?_
    cases applied <;> simp
  | @finish i toggle now hop =>
    cases toggle with
    | pause =>
      exact h.goesOn hop rfl .finished [.status .paused] rfl rfl nofun (by simp)
    | resume =>
      exact h.goesOn hop rfl .finished [.status .running] rfl rfl nofun (by simp)
  | @fail i toggle hop =>
    refine h.goesOn hop rfl .finished [.status toggle.failed] rfl rfl nofun ?_
    cases toggle <;> simp [Toggle.failed]
  | requestDelete hfree hrow hcheck => exact h.starts nofun fun _ => rfl
  | @markDeleting i hop =>
    refine h.deletes i .destroying [.status .deleting] rfl rfl rfl ?_ ?_ ?_
    · rintro e he e'
      rw [List.mem_singleton.1 he]
      refine mayPrecede_of_not_revives ?_ nofun
      rintro _ ⟨⟩
      rfl
    · exact fun _ => List.mem_append_right _ List.mem_cons_self
    · intro _
      obtain ⟨row, hrow⟩ := Option.isSome_iff_exists.1 (hexists i _ hop)
      exact ⟨halone, (exists_row_updateEnvironmentStatus hrow _ _ _).imp fun _ h =>
        ⟨h.1, .inl h.2⟩⟩
  | @destroy i ok hop =>
    have hmem := h.destroying i hop
    cases ok with
    | true =>
      refine h.deletes i .destroyed [.destroyed] rfl rfl rfl ?_ ?_ fun _ => h.final hmem
      · rintro e he e'
        rw [List.mem_singleton.1 he]
        exact mayPrecede_of_not_revives nofun nofun
      · exact fun _ => List.mem_append_left _ hmem
    | false => exact h.starts nofun fun _ => rfl
  | @remove i now ok hop =>
    cases ok with
    | true =>
      refine h.deletes i .finished [] rfl (List.append_nil _).symm rfl nofun nofun fun hmem => ?_
      obtain ⟨hnone, row, hrow, hstatus⟩ := h.final hmem
      refine ⟨hnone, { row with deletedAt := some now }, ?_, hstatus⟩
      show s.row.map _ = _
      rw [hrow]
      rfl
    | false => exact h.starts nofun fun _ => rfl
  | @failDelete i hop =>
    refine h.deletes i .finished [.status .error] rfl rfl rfl ?_ ?_ fun hmem => ?_
    · rintro e he e'
      rw [List.mem_singleton.1 he]
      refine mayPrecede_of_not_revives ?_ nofun
      rintro _ ⟨⟩
      rfl
    · rintro (hmem | heq)
      · exact absurd hmem (by simp)
      · cases heq
    · have hmem' : .status .deleting ∈ s.history := by
        rcases List.mem_append.1 hmem with hold | hnew
        · exact hold
        · exact absurd hnew (by simp)
      obtain ⟨hnone, row, hrow, -⟩ := h.final hmem'
      exact ⟨hnone, (exists_row_updateEnvironmentStatus hrow _ _ _).imp fun _ h =>
        ⟨h.1, .inr h.2⟩⟩

/-! ## A delete that does not mark the environment alone -/

/-- What is written last is ordered after the mark of a delete. -/
theorem not_orderly_of_revives {s s' : Lifecycle} (hmem : .status .deleting ∈ s.history)
    (status : KubeEnvironmentStatus) (effects : List Effect) (hrevives : revives status = true)
    (hhistory : s'.history = s.history ++ (effects ++ [.status status])) : ¬s'.Orderly := by
  intro horderly
  rw [Orderly, hhistory] at horderly
  have := (List.pairwise_append.1 horderly).2.2 _ hmem (.status status) (by simp)
  rw [show revives status = false from this] at hrevives
  cases hrevives

/-- An operation that is under way when a delete has marked the environment can go on and bring the
environment back. -/
theorem exists_run_not_orderly {s : Lifecycle} (hmem : .status .deleting ∈ s.history) {i : Nat}
    {operation : Operation} (hop : s.operations i = some operation)
    (hunderWay : operation.underWay = true) (hcan : operation ≠ .deployed false) :
    ∃ actions s', Run Step s actions s' ∧ ¬s'.Orderly := by
  have hnext : ∀ (s : Lifecycle) (next : Operation), (s.advance i next).operations i = some next :=
    fun s next => Function.update_self ..
  have hfail : ∀ {s : Lifecycle} (toggle : Toggle), .status .deleting ∈ s.history →
      s.operations i = some (.broken toggle) →
        ∃ actions s', Run Step s actions s' ∧ ¬s'.Orderly := by
    intro s toggle hmem hop
    refine ⟨[.fail i], _, .cons (.fail hop) .nil, ?_⟩
    exact not_orderly_of_revives hmem toggle.failed []
      (by cases toggle <;> rfl) rfl
  cases operation with
  | deploying =>
    refine ⟨[.deployNew i true true, .finishNew i], _,
      .cons (.deployNew hop) (.cons (.finishNew (hnext _ _)) .nil), ?_⟩
    exact not_orderly_of_revives hmem .running [.deployed none] rfl
      (List.append_assoc ..)
  | deployed ok =>
    cases ok with
    | true =>
      refine ⟨[.finishNew i], _, .cons (.finishNew hop) .nil, ?_⟩
      exact not_orderly_of_revives hmem .running [] rfl rfl
    | false => exact absurd rfl hcan
  | notifying =>
    refine ⟨[.finishBranch i], _, .cons (.finishBranch hop) .nil, ?_⟩
    exact not_orderly_of_revives hmem .running [] rfl rfl
  | checked toggle =>
    refine ⟨[.mark i], _, .cons (.mark hop) .nil, ?_⟩
    exact not_orderly_of_revives hmem toggle.busy []
      (by cases toggle <;> rfl) rfl
  | marked toggle =>
    have hbroken : (if s.environment.isSome && false then Operation.assembled toggle
        else .broken toggle) = .broken toggle := by rw [Bool.and_false, if_neg nofun]
    obtain ⟨actions, s', hrun, hnot⟩ := hfail toggle (s := s.advance i _) hmem
      ((hnext s _).trans (congrArg some hbroken))
    exact ⟨_, s', .cons (.assemble hop) hrun, hnot⟩
  | assembled toggle =>
    have hhistory : .status .deleting ∈
        ((s.advance i (.broken toggle)).deploy (some toggle) false).history :=
      List.mem_append_left _ hmem
    obtain ⟨actions, s', hrun, hnot⟩ := hfail toggle hhistory (hnext s _)
    exact ⟨_, s', .cons (@Step.redeploy s i toggle false false hop nofun) hrun, hnot⟩
  | redeployed toggle =>
    refine ⟨[.finish i 0], _, .cons (.finish hop) .nil, ?_⟩
    refine not_orderly_of_revives hmem toggle.done []
      (by cases toggle <;> rfl) ?_
    cases toggle <;> rfl
  | broken toggle => exact hfail toggle hmem hop
  | _ => cases hunderWay

/-- **Deletion is final** in every run in which deletes mark the environment alone. A delete that
marks it while another operation is under way, other than a create whose deployment has failed,
leads to a state from which some run brings the environment back. -/
theorem orderly_of_run {actions : List LifecycleAction} {s : Lifecycle}
    (hrun : Run (Guarded Step DeletesAlone) initial actions s) :
    s.Orderly ∧ ∀ i s' j operation, Step s (.markDeleting i) s' →
      s.operations j = some operation → operation.underWay = true → operation ≠ .deployed false →
        ∃ actions s'', Run Step s' actions s'' ∧ ¬s''.Orderly := by
  have h : s.Settled ∧ s.Exists := by
    refine Run.invariant_of_guard (fun s => s.Settled ∧ s.Exists) ?_ hrun
      ⟨settled_initial, fun _ _ h => nomatch h⟩
    intro s a s' hstep halone h
    exact ⟨Settled.step hstep halone h.2 h.1, fun _ _ _ => Exists.step hstep h.2⟩
  refine ⟨h.1.orderly, fun i s' j operation hstep hop hunderWay hcan => ?_⟩
  cases hstep with
  | markDeleting hdelete =>
    have hne : j ≠ i := by
      rintro rfl
      rw [hdelete] at hop
      cases hop
      cases hunderWay
    refine exists_run_not_orderly (List.mem_append_right _ List.mem_cons_self)
      (update_of_eq_some hne hop) hunderWay hcan

/-- An environment is created, paused and deleted. -/
def pausedAndDeleted : List LifecycleAction :=
  [.create 0 7 false, .deployNew 0 true true, .finishNew 0, .request 1 .pause, .mark 1,
    .assemble 1 true, .redeploy 1 true true, .finish 1 100, .requestDelete 2 7 false true true,
    .markDeleting 2, .destroy 2 true, .remove 2 200 true]

/-- The deletion is final. -/
theorem orderly_of_run_pausedAndDeleted :
    ∃ s, Run (Guarded Step DeletesAlone) initial pausedAndDeleted s ∧ s.Orderly := by
  have hrun : ∃ s, Run (Guarded Step DeletesAlone) initial pausedAndDeleted s := by
    refine ⟨_, .cons ⟨.create rfl rfl, trivial⟩ (.cons ⟨.deployNew rfl, trivial⟩
      (.cons ⟨.finishNew rfl, trivial⟩ (.cons ⟨.request rfl rfl rfl, trivial⟩
        (.cons ⟨.mark rfl, trivial⟩ (.cons ⟨.assemble rfl, trivial⟩
          (.cons ⟨.redeploy rfl (fun _ => rfl), trivial⟩ (.cons ⟨.finish rfl, trivial⟩
            (.cons ⟨.requestDelete rfl rfl rfl, trivial⟩ (.cons ⟨.markDeleting rfl, ?_⟩
              (.cons ⟨.destroy rfl, trivial⟩ (.cons ⟨.remove rfl, trivial⟩ .nil)))))))))))⟩
    intro i operation hop
    rcases update_eq_some hop with ⟨-, heq⟩ | ⟨-, hold⟩
    · cases heq
      rfl
    · rcases update_eq_some hold with ⟨-, heq⟩ | ⟨hne, hold'⟩
      · cases heq
        rfl
      · have hfirst := hold'
        simp only [deploy, updateEnvironmentStatus, advance, Function.update_of_ne hne] at hfirst
        rcases update_eq_some hfirst with ⟨-, heq⟩ | ⟨hne', hnone⟩
        · cases heq
          rfl
        · simp only [initial, Function.update_of_ne hne'] at hnone
          cases hnone
  obtain ⟨s, hrun⟩ := hrun
  exact ⟨s, hrun, (orderly_of_run hrun).1⟩

/-- A pause that is under way when a delete marks the environment deploys the manifests after the
resources are destroyed, and leaves the environment paused. -/
theorem pause_after_delete :
    ∃ s, Run Step initial
      [.create 0 7 false, .deployNew 0 true true, .finishNew 0, .request 1 .pause, .mark 1,
        .assemble 1 true, .requestDelete 2 7 false true true, .markDeleting 2, .destroy 2 true,
        .redeploy 1 true true, .finish 1 100] s ∧
      s.environment.map EnvironmentRow.status = some .paused ∧ ¬s.Orderly := by
  refine ⟨_, .cons (.create rfl rfl) (.cons (.deployNew rfl) (.cons (.finishNew rfl)
    (.cons (.request rfl rfl rfl) (.cons (.mark rfl) (.cons (.assemble rfl)
      (.cons (.requestDelete rfl rfl rfl) (.cons (.markDeleting rfl) (.cons (.destroy rfl)
        (.cons (.redeploy rfl (fun _ => rfl)) (.cons (.finish rfl) .nil)))))))))), rfl, ?_⟩
  exact not_orderly_of_revives
    (s := ⟨none, fun _ => none, [.status .creating, .deployed none, .status .running,
      .status .pausing, .status .deleting]⟩) (by decide) .paused
    [.destroyed, .deployed (some .pause)] rfl rfl

end Lifecycle

end Lapdev
