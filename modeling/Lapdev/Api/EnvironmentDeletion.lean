import Lapdev.Api.EnvironmentCreation
import Lapdev.Api.EnvironmentLifecycle

/-!
# Deleting an environment

`delete_kube_environment` of `kube_controller/environment.rs`: the checks of the call, and the task
that destroys the resources in the cluster and then marks the row as deleted.
-/

namespace Lapdev

open RustStd Sql Programs

variable {Text : Type}

namespace DbApi

/-- Source: `db/src/api.rs`. -/
def checkEnvironmentHasBranches (environmentId : Uuid) : Query Text Bool :=
  .read fun db =>
    (db.environments.one fun row =>
      row.baseEnvironmentId = some environmentId && row.deletedAt = none).isSome

/-- Source: `db/src/api.rs`. -/
def deleteKubeEnvironment (environmentId : Uuid) (now : Timestamp) : Query Text PUnit :=
  Database.onEnvironments fun t =>
    t.updateOne (fun row => row.id = environmentId) fun row => { row with deletedAt := some now }

end DbApi

namespace KubeController

/-- Source: `environment.rs`; the event it publishes is left out. -/
def updateEnvironmentStatus (environmentId : Uuid) (status : KubeEnvironmentStatus) :
    Call Text PUnit :=
  (Database.onEnvironments fun t =>
    t.updateOne (fun row => row.id = environmentId) fun row =>
      { row with status := status.toString }).mapError .internalError

/-- The task of a deletion; `destroyResult` is how the resources in the cluster are destroyed. -/
def finishDeletion (environmentId : Uuid) (destroyResult : Except ApiError PUnit) (now : Timestamp) :
    Call Text PUnit :=
  match destroyResult with
  | .ok _ => do
    let deleted ← ((DbApi.deleteKubeEnvironment environmentId now).mapError
      ApiError.internalError).attempt
    match deleted with
    | .ok _ => pure ⟨⟩
    | .error _ => do
      let _ ← (updateEnvironmentStatus environmentId .error).attempt
  | .error _ => do
    let _ ← (updateEnvironmentStatus environmentId .error).attempt

/-- Only a shared environment is asked for branches. -/
def hasActiveBranches (environment : KubeEnvironment.Model) : Call Text Bool :=
  if environment.isShared then
    (DbApi.checkEnvironmentHasBranches environment.id).mapError .internalError
  else pure false

/-- Source: `environment.rs`, with its task; `notified` is the answer of the kube-manager about a
branch. -/
def deleteKubeEnvironment (orgId environmentId : Uuid) (connected : Bool)
    (notified destroyResult : Except ApiError PUnit) (now : Timestamp) : Call Text PUnit := do
  let found ← (DbApi.getKubeEnvironment environmentId).mapError .internalError
  let environment ← Program.orFail found (.invalidRequest "Environment not found")
  if environment.organizationId ≠ orgId then .fail .unauthorized
  else do
    let hasBranches ← hasActiveBranches environment
    if hasBranches then
      .fail (.invalidRequest
        "Cannot delete shared environment: it has active branch environments. Please delete them first.")
    else if !connected then
      .fail (.invalidRequest "No connected KubeManager for this cluster; cannot delete environment")
    else do
      let _ ← Program.ofExcept
        (if environment.baseEnvironmentId.isSome then notified else .ok ⟨⟩)
      updateEnvironmentStatus environmentId .deleting
      finishDeletion environmentId destroyResult now

section
variable {R : Database Text → Database Text → Prop}

/-- The writes of a deletion are updates of the row of the environment. -/
theorem along_deleteKubeEnvironment (hrefl : ∀ db, R db db)
    (htrans : ∀ db₁ db₂ db₃, R db₁ db₂ → R db₂ db₃ → R db₁ db₃) {environmentId : Uuid}
    (hupdate : ∀ f : KubeEnvironment.Model → KubeEnvironment.Model, (∀ row, (f row).id = row.id) →
      Along R (Database.onEnvironments fun t => t.updateOne (fun row => row.id = environmentId) f))
    (orgId : Uuid) (connected : Bool) (notified destroyResult : Except ApiError PUnit)
    (now : Timestamp) :
    Along R (deleteKubeEnvironment orgId environmentId connected notified destroyResult now :
      Call Text PUnit) := by
  have hstatus : ∀ status, Along R (updateEnvironmentStatus environmentId status : Call Text _) :=
    fun status => (hupdate (fun row => { row with status := status.toString }) fun _ => rfl).mapError _
  have hdelete : Along R (DbApi.deleteKubeEnvironment environmentId now) :=
    hupdate (fun row => { row with deletedAt := some now }) fun _ => rfl
  have hfinish : Along R (finishDeletion environmentId destroyResult now : Call Text _) := by
    unfold finishDeletion
    have herror : Along R (do
        let _ ← (updateEnvironmentStatus environmentId .error : Call Text _).attempt :
          Call Text PUnit) :=
      Along.bind htrans (hstatus _).attempt fun _ => (ReadOnly.pure _).along hrefl
    split
    · refine Along.bind htrans ((hdelete.mapError _).attempt) fun deleted => ?_
      cases deleted with
      | ok => exact (ReadOnly.pure _).along hrefl
      | error => exact herror
    · exact herror
  refine Along.bind htrans (((ReadOnly.read _).mapError _).along hrefl) fun found =>
    Along.bind htrans ((ReadOnly.orFail _ _).along hrefl) fun environment => ?_
  split
  · exact (ReadOnly.fail _).along hrefl
  refine Along.bind htrans ?_ fun hasBranches => ?_
  · unfold hasActiveBranches
    split
    · exact ((ReadOnly.read _).mapError _).along hrefl
    · exact (ReadOnly.pure _).along hrefl
  split
  · exact (ReadOnly.fail _).along hrefl
  split
  · exact (ReadOnly.fail _).along hrefl
  · exact Along.bind htrans ((ReadOnly.ofExcept _).along hrefl) fun _ =>
      Along.bind htrans (hstatus _) fun _ => hfinish

end

end KubeController

end Lapdev
