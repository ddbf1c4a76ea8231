import Lapdev.Api.BranchEnvironments
import Lapdev.Db.DevboxSessions
import Lapdev.Db.Organizations
import Lapdev.Logic.Run

/-!
# The RPCs of a devbox session

The calls of `DevboxSessionRpcServer` (`api/src/devbox.rs`) by one user, and what they do outside
the session's row: the routes they push and clear, the environment they announce to the client and
the environments they answer about. `ownsAll_of_run` says that a user who selects and lists only
environments of the user's own keeps to these in every run of calls.
-/

namespace Lapdev

open RustStd Sql Programs Runs

/-! ## Rows -/

/-- Source: `db/entities/src/kube_cluster.rs`, with the columns a session reads. -/
structure KubeCluster.Named where
  id : Uuid
  deletedAt : Option Timestamp
  name : String

/-- Source: `devbox-rpc/src/lib.rs`. -/
structure PortMapping where
  workloadPort : UInt16
  localPort : UInt16
  protocol : String

/-- Source: `db/entities/src/kube_devbox_workload_intercept.rs`. The JSON of the port mappings is what
it is read as, or the text of the error. -/
structure KubeDevboxWorkloadIntercept.Model where
  id : Uuid
  userId : Uuid
  environmentId : Uuid
  workloadId : Uuid
  portMappings : Except String (List PortMapping)
  createdAt : Timestamp
  stoppedAt : Option Timestamp

/-- The primary key. -/
instance KubeCluster.namedEntity : Entity KubeCluster.Named where
  Conflict r r' := r.id = r'.id
  symm := Eq.symm
  dec := fun _ _ => inferInstance

/-- The primary key. -/
instance KubeDevboxWorkloadIntercept.entity : Entity KubeDevboxWorkloadIntercept.Model where
  Conflict r r' := r.id = r'.id
  symm := Eq.symm
  dec := fun _ _ => inferInstance

/-! ## Answers -/

/-- Source: `devbox-rpc/src/lib.rs`. -/
structure DevboxSessionInfo where
  userId : Uuid
  email : String
  deviceName : String
  createdAt : Timestamp
  expiresAt : Timestamp
  lastUsedAt : Timestamp

/-- Source: `devbox-rpc/src/lib.rs`. -/
structure DevboxEnvironmentInfo where
  environmentId : Uuid
  environmentName : String
  clusterName : String
  «namespace» : String
  deriving DecidableEq

/-- Source: `devbox-rpc/src/lib.rs`. -/
structure WorkloadInterceptInfo where
  interceptId : Uuid
  workloadId : Uuid
  workloadName : String
  «namespace» : String
  portMappings : List PortMapping
  createdAt : Timestamp
  deviceName : String

/-- Source: `devbox-rpc/src/lib.rs`. -/
structure DevboxRpc.ServicePort where
  name : Option String
  port : UInt16
  protocol : String

/-- Source: `devbox-rpc/src/lib.rs`. -/
structure ServiceInfo where
  name : String
  «namespace» : String
  ports : List DevboxRpc.ServicePort

/-- The text of an error: one of the server's own, or one of the database with what failed. -/
inductive RpcError
  | message (text : String)
  | database (context : String) (e : DbErr)

/-- What a call does outside the row of the session; the tasks it spawns are recorded when they are
spawned. -/
inductive SessionEffect
  /-- `push_devbox_routes`. -/
  | pushRoutes (environmentId : Uuid)
  /-- `clear_devbox_routes_for_environment`. -/
  | clearRoutes (environmentId : Uuid)
  /-- `environment_changed` of the client. -/
  | environmentChanged (info : DevboxEnvironmentInfo)
  /-- The answer tells of the environment. -/
  | answered (environmentId : Uuid)
  deriving DecidableEq

/-- The environment of an effect. -/
def SessionEffect.environmentId : SessionEffect → Uuid
  | pushRoutes environmentId => environmentId
  | clearRoutes environmentId => environmentId
  | environmentChanged info => info.environmentId
  | answered environmentId => environmentId

/-- The tables that the calls read, and their effects in the order of time. -/
structure SessionServer (Text : Type) where
  db : Database Text
  users : Table User.Model
  clusters : Table KubeCluster.Named
  sessions : Table KubeDevboxSession.Model
  intercepts : Table KubeDevboxWorkloadIntercept.Model
  effects : List SessionEffect

/-- A program of `DevboxSessionRpcServer`. -/
abbrev Rpc (Text α : Type) := Program (SessionServer Text) RpcError α

namespace SessionServer

variable {Text Config : Type}

/-! ## Queries -/

/-- `get_active_devbox_session`. -/
def activeSession (s : SessionServer Text) (userId : Uuid) : Option KubeDevboxSession.Model :=
  DevboxSessions.getActiveDevboxSession s.sessions userId

/-- `get_kube_environment`. -/
def environment (s : SessionServer Text) (environmentId : Uuid) : Option KubeEnvironment.Model :=
  s.db.environments.one fun row => row.id = environmentId && row.deletedAt = none

/-- `get_kube_cluster`. -/
def cluster (s : SessionServer Text) (clusterId : Uuid) : Option KubeCluster.Named :=
  s.clusters.one fun row => row.id = clusterId && row.deletedAt = none

/-- `get_active_intercepts_for_environment`. -/
def activeIntercepts (s : SessionServer Text) (environmentId : Uuid) :
    List KubeDevboxWorkloadIntercept.Model :=
  s.intercepts.select fun row => row.environmentId = environmentId && row.stoppedAt = none

/-- `get_environment_workload`. -/
def workload (s : SessionServer Text) (workloadId : Uuid) :
    Option (KubeEnvironmentWorkload.Model Text) :=
  s.db.environmentWorkloads.one fun row => row.id = workloadId && row.deletedAt = none

/-- An update of the session table. -/
def onSessions (context : String)
    (f : Table KubeDevboxSession.Model → Except DbErr (Table KubeDevboxSession.Model)) :
    Rpc Text PUnit :=
  .write fun s =>
    match f s.sessions with
    | .ok t => .ok { s with sessions := t }
    | .error e => .error (.database context e)

/-- Source: `db/src/api.rs`. -/
def updateDevboxSessionActiveEnvironment (userId : Uuid) (environmentId : Option Uuid) :
    Rpc Text PUnit := do
  let existing ← Program.read fun s => s.activeSession userId
  match existing with
  | some existing =>
    onSessions "Failed to update active environment: " fun t =>
      DevboxSessions.setActiveEnvironment t existing.id environmentId
  | none => pure ⟨⟩

/-- Source: `db/src/api.rs`. -/
def updateDevboxSessionDeviceName (userId : Uuid) (deviceName : String) : Rpc Text PUnit := do
  let existing ← Program.read fun s => s.activeSession userId
  match existing with
  | some existing =>
    onSessions "Failed to update device name: " fun t =>
      t.updateOne (fun row => row.id = existing.id) fun row => { row with deviceName }
  | none => pure ⟨⟩

/-- An effect is recorded. -/
def spawn (effect : SessionEffect) : Rpc Text PUnit :=
  .write fun s => .ok { s with effects := s.effects ++ [effect] }

/-! ## Calls -/

/-- Source: `devbox.rs`. -/
def whoami (userId : Uuid) : Rpc Text DevboxSessionInfo := do
  let found ← Program.read fun s =>
    s.users.one fun row => row.id = userId && row.deletedAt = none
  let user ← Program.orFail found (.message "User not found")
  let found ← Program.read fun s => s.activeSession userId
  let session ← Program.orFail found (.message "Session not found")
  Program.forEach (fun environmentId => spawn (.pushRoutes environmentId))
    session.activeEnvironmentId.toList
  pure
    { userId
      email := user.email.getD ""
      deviceName := session.deviceName
      createdAt := session.createdAt
      expiresAt := session.expiresAt
      lastUsedAt := session.lastUsedAt }

/-- Source: `devbox.rs`. -/
def getActiveEnvironment (userId : Uuid) : Rpc Text (Option DevboxEnvironmentInfo) := do
  let found ← Program.read fun s => s.activeSession userId
  let session ← Program.orFail found (.message "Session not found")
  match session.activeEnvironmentId with
  | some envId => do
    let found ← Program.read fun s => s.environment envId
    let environment ← Program.orFail found (.message "Environment not found")
    let found ← Program.read fun s => s.cluster environment.clusterId
    let cluster ← Program.orFail found (.message "Cluster not found")
    pure (some ⟨envId, environment.name, cluster.name, environment.namespace⟩)
  | none => pure none

/-- Source: `devbox.rs`. The name in `active_devbox_sessions` is updated too. -/
def updateDeviceName (userId : Uuid) (deviceName : String) : Rpc Text PUnit :=
  updateDevboxSessionDeviceName userId deviceName

/-- Source: `devbox.rs`. -/
def heartbeat : Rpc Text PUnit := pure ⟨⟩

/-- Source: `devbox.rs`. -/
def setActiveEnvironment (userId environmentId : Uuid) : Rpc Text PUnit := do
  let session ← Program.read fun s => s.activeSession userId
  let previousEnvironment := session.bind (·.activeEnvironmentId)
  let found ← Program.read fun s => s.environment environmentId
  let environment ← Program.orFail found (.message "Environment not found")
  if environment.isShared then
    .fail (.message "Shared environments cannot be used as active devbox environments")
  else do
    updateDevboxSessionActiveEnvironment userId (some environmentId)
    let found ← Program.read fun s => s.cluster environment.clusterId
    let cluster ← Program.orFail found (.message "Cluster not found")
    spawn (.environmentChanged
      ⟨environment.id, environment.name, cluster.name, environment.namespace⟩)
    spawn (.pushRoutes environmentId)
    Program.forEach (fun prevEnv => spawn (.clearRoutes prevEnv))
      (previousEnvironment.filter fun prev => prev ≠ environmentId).toList

/-- The loop body of `list_workload_intercepts`. -/
def interceptInfo (session : KubeDevboxSession.Model) (result : List WorkloadInterceptInfo)
    (intercept : KubeDevboxWorkloadIntercept.Model) : Rpc Text (List WorkloadInterceptInfo) := do
  let found ← Program.read fun s => s.workload intercept.workloadId
  let workload ← Program.orFail found (.message "Workload not found")
  let portMappings ← Program.ofExcept (intercept.portMappings.mapError fun e =>
    .message ("Failed to parse port mappings: " ++ e))
  pure (result ++
    [{ interceptId := intercept.id
       workloadId := workload.id
       workloadName := workload.name
       «namespace» := workload.namespace
       portMappings
       createdAt := intercept.createdAt
       deviceName := session.deviceName }])

/-- Source: `devbox.rs`. -/
def listWorkloadIntercepts (userId environmentId : Uuid) : Rpc Text (List WorkloadInterceptInfo) := do
  let found ← Program.read fun s => s.activeSession userId
  let session ← Program.orFail found (.message "Session not found")
  let intercepts ← Program.read fun s => s.activeIntercepts environmentId
  Program.foldEach (interceptInfo session) [] intercepts

/-- `p.port as u16`, with the protocol's default. -/
def servicePort (p : KubeServicePort) : DevboxRpc.ServicePort where
  name := p.name
  port := UInt16.ofNat (p.port % 65536).toNat
  protocol := p.protocol.getD "TCP"

/-- Source: `devbox.rs`. -/
def listServices (userId environmentId : Uuid) : Rpc Text (List ServiceInfo) := do
  let found ← Program.read fun s => s.environment environmentId
  let environment ← Program.orFail found (.message "Environment not found")
  if environment.userId ≠ userId then
    .fail (.message "Unauthorized: You don't have access to this environment")
  else do
    let services ← Program.read fun s =>
      s.db.environmentServices.select fun row =>
        row.environmentId = environmentId && row.deletedAt = none
    pure (services.map fun service =>
      ⟨service.name, service.namespace, service.ports.map servicePort⟩)

/-- Source: `devbox.rs`; `config` is what the cluster answers, an error falls back to the relay. -/
def requestDirectClientConfig (userId environmentId : Uuid)
    (config : Except String (Option Config)) : Rpc Text (Option Config) := do
  let found ← Program.read fun s => s.environment environmentId
  let environment ← Program.orFail found (.message "Environment not found")
  if environment.userId ≠ userId then .fail (.message "Unauthorized")
  else pure (config.toOption.bind id)

end SessionServer

/-- A call of a session. -/
inductive SessionCall (Config : Type)
  | whoami
  | getActiveEnvironment
  | updateDeviceName (deviceName : String)
  | heartbeat
  | setActiveEnvironment (environmentId : Uuid)
  | listWorkloadIntercepts (environmentId : Uuid)
  | listServices (environmentId : Uuid)
  | requestDirectClientConfig (environmentId : Uuid) (config : Except String (Option Config))

namespace SessionCall

open SessionServer

variable {Text Config : Type}

/-- A call, and whether its answer tells of an environment. -/
def answer (userId : Uuid) : SessionCall Config → Rpc Text PUnit
  | whoami => do
    let _ ← SessionServer.whoami userId
  | getActiveEnvironment => do
    let info ← SessionServer.getActiveEnvironment userId
    Program.forEach (fun info => spawn (.answered info.environmentId)) info.toList
  | updateDeviceName deviceName => SessionServer.updateDeviceName userId deviceName
  | heartbeat => SessionServer.heartbeat
  | setActiveEnvironment environmentId => SessionServer.setActiveEnvironment userId environmentId
  | listWorkloadIntercepts environmentId => do
    let infos ← SessionServer.listWorkloadIntercepts userId environmentId
    Program.when (!infos.isEmpty) (spawn (.answered environmentId))
  | listServices environmentId => do
    let _ ← SessionServer.listServices userId environmentId
    spawn (.answered environmentId)
  | requestDirectClientConfig environmentId config => do
    let config ← SessionServer.requestDirectClientConfig userId environmentId config
    Program.when config.isSome (spawn (.answered environmentId))

end SessionCall

/-- A call of the user, or a change from elsewhere. -/
inductive SessionAction (Config : Type)
  | call (call : SessionCall Config)
  | elsewhere

namespace SessionServer

variable {Text Config : Type} {s s' : SessionServer Text} {userId : Uuid}

/-- The environment belongs to the user, deleted or not. -/
def Owns (s : SessionServer Text) (userId environmentId : Uuid) : Prop :=
  ∃ row ∈ s.db.environments.rows, row.id = environmentId ∧ row.userId = userId

/-- An environment is active in the session of the user, revoked or not. -/
def Active (s : SessionServer Text) (userId environmentId : Uuid) : Prop :=
  ∃ row ∈ s.sessions.rows, row.userId = userId ∧ row.activeEnvironmentId = some environmentId

/-- **Ownership of the active environment.** It belongs to the user, and so does every environment
whose routes the calls have pushed or cleared or which they have told of. -/
structure OwnsAll (userId : Uuid) (s : SessionServer Text) : Prop where
  active : ∀ environmentId, s.Active userId environmentId → s.Owns userId environmentId
  effects : ∀ effect ∈ s.effects, s.Owns userId effect.environmentId

/-- A change from elsewhere: connects and disconnects, calls of other users and of the dashboard.
Environments keep their users, and the row of the user may be new or revoked. -/
structure Elsewhere (userId : Uuid) (s s' : SessionServer Text) : Prop where
  effects : s'.effects = s.effects
  owners : ∀ owner environmentId, s.Owns owner environmentId → s'.Owns owner environmentId
  active : ∀ environmentId, s'.Active userId environmentId →
    s.Active userId environmentId ∨ s'.Owns userId environmentId

/-- A call of the user or a change from elsewhere. -/
def Step (userId : Uuid) (s : SessionServer Text) : SessionAction Config → SessionServer Text → Prop
  | .call call, s' => s' = ((call.answer userId).run s).2
  | .elsewhere, s' => Elsewhere userId s s'

/-- An intercept can be told of: its workload is live and its port mappings can be read. -/
def Tellable (s : SessionServer Text) (intercept : KubeDevboxWorkloadIntercept.Model) : Prop :=
  (s.workload intercept.workloadId).isSome ∧ intercept.portMappings.isOk

/-- The session is selected or told of: `set_active_environment` acts on a live environment that is
not shared if there is a session to change or a cluster to name, and `list_workload_intercepts` on
one whose active intercepts can all be told of. -/
def Reaches (s : SessionServer Text) (userId : Uuid) : SessionCall Config → Uuid → Prop
  | .setActiveEnvironment environmentId, e => e = environmentId ∧
    ∃ environment, s.environment environmentId = some environment ∧ environment.isShared = false ∧
      ((s.activeSession userId).isSome ∨ (s.cluster environment.clusterId).isSome)
  | .listWorkloadIntercepts environmentId, e => e = environmentId ∧
    (s.activeSession userId).isSome ∧ s.activeIntercepts environmentId ≠ [] ∧
      ∀ intercept ∈ s.activeIntercepts environmentId, s.Tellable intercept
  | _, _ => False

/-- The calls that take an environment from the client without asking whose it is take one of the
user's own. -/
def TakesOwn (userId : Uuid) (s : SessionServer Text) : SessionAction Config → Prop
  | .call call => ∀ environmentId, s.Reaches userId call environmentId → s.Owns userId environmentId
  | .elsewhere => True

/-! ## What a call does -/

@[simp] theorem run_spawn (effect : SessionEffect) (s : SessionServer Text) :
    (spawn effect).run s = (.ok ⟨⟩, { s with effects := s.effects ++ [effect] }) := rfl

/-- One task is spawned for each element, in order. -/
theorem run_spawnEach {α : Type} (f : α → SessionEffect) (l : List α) (s : SessionServer Text) :
    (Program.forEach (fun a => spawn (f a)) l).run s =
      (.ok ⟨⟩, { s with effects := s.effects ++ l.map f }) := by
  induction l generalizing s with
  | nil =>
    rw [List.map_nil, List.append_nil]
    rfl
  | cons a l ih =>
    rw [Program.forEach, Program.run_foldEach_cons, run_spawn]
    dsimp only
    have := ih { s with effects := s.effects ++ [f a] }
    rw [Program.forEach] at this
    rw [this, List.map_cons, List.append_assoc]
    rfl

/-- What a call of the user leaves: the environments, a session with an environment it had or one
that the call reaches, and effects on these and on the user's own environments. -/
structure Acts (userId : Uuid) (s : SessionServer Text) (call : SessionCall Config)
    (s' : SessionServer Text) : Prop where
  db : s'.db = s.db
  active : ∀ environmentId, s'.Active userId environmentId →
    s.Active userId environmentId ∨ s.Reaches userId call environmentId
  effects : ∀ effect ∈ s'.effects, effect ∈ s.effects ∨ s.Active userId effect.environmentId ∨
    s.Owns userId effect.environmentId ∨ s.Reaches userId call effect.environmentId

/-- A call that does nothing. -/
theorem Acts.refl (s : SessionServer Text) (call : SessionCall Config) : Acts userId s call s :=
  ⟨rfl, fun _ h => .inl h, fun _ h => .inl h⟩

/-- More effects. -/
theorem Acts.append {call : SessionCall Config} (h : Acts userId s call s')
    {effects : List SessionEffect}
    (heffects : ∀ effect ∈ effects, s.Active userId effect.environmentId ∨
      s.Owns userId effect.environmentId ∨ s.Reaches userId call effect.environmentId) :
    Acts userId s call { s' with effects := s'.effects ++ effects } := by
  refine ⟨h.db, h.active, fun effect heffect => ?_⟩
  rcases List.mem_append.1 heffect with hold | hnew
  · exact h.effects effect hold
  · exact .inr (heffects effect hnew)

/-- The active session is a row of the user. -/
theorem mem_of_activeSession {session : KubeDevboxSession.Model}
    (h : s.activeSession userId = some session) :
    session ∈ s.sessions.rows ∧ session.userId = userId := by
  obtain ⟨hmem, hp⟩ := Table.mem_of_one h
  exact ⟨hmem, (of_decide_eq_true hp).1⟩

/-- The environment of the user's active session is the active one. -/
theorem active_of_activeSession {session : KubeDevboxSession.Model} {environmentId : Uuid}
    (h : s.activeSession userId = some session)
    (hactive : session.activeEnvironmentId = some environmentId) :
    s.Active userId environmentId :=
  ⟨session, (mem_of_activeSession h).1, (mem_of_activeSession h).2, hactive⟩

/-- An environment that is found is owned by its user. -/
theorem owns_of_environment {environmentId : Uuid} {environment : KubeEnvironment.Model}
    (h : s.environment environmentId = some environment) :
    s.Owns environment.userId environmentId ∧ environment.id = environmentId := by
  obtain ⟨hmem, hp⟩ := Table.mem_of_one h
  simp only [Bool.and_eq_true, decide_eq_true_eq] at hp
  exact ⟨⟨environment, hmem, hp.1, rfl⟩, hp.1⟩

/-- `whoami` concerns no environment. -/
theorem acts_whoami : Acts userId s (.whoami : SessionCall Config)
    ((SessionCall.answer userId (.whoami : SessionCall Config)).run s).2 := by
  unfold SessionCall.answer SessionServer.whoami
  simp only [Program.run_bind, Program.run_read, Program.run_orFail, run_spawnEach]
  cases s.users.one fun row => row.id = userId && row.deletedAt = none with
  | none => exact .refl s _
  | some user =>
  dsimp only [Option.elim]
  cases hsession : s.activeSession userId with
  | none => exact .refl s _
  | some session =>
  refine (Acts.refl s _).append fun effect heffect => ?_
  obtain ⟨environmentId, hactive, rfl⟩ := List.mem_map.1 heffect
  exact .inl (active_of_activeSession hsession (Option.mem_toList.1 hactive))

/-- Asking for the active environment concerns that one only. -/
theorem acts_getActiveEnvironment : Acts userId s (.getActiveEnvironment : SessionCall Config)
    ((SessionCall.answer userId (.getActiveEnvironment : SessionCall Config)).run s).2 := by
  unfold SessionCall.answer SessionServer.getActiveEnvironment
  simp only [Program.run_bind, Program.run_read, Program.run_orFail]
  cases hsession : s.activeSession userId with
  | none => exact .refl s _
  | some session =>
  dsimp only [Option.elim]
  cases hactive : session.activeEnvironmentId with
  | none => exact .refl s _
  | some environmentId =>
  simp only [Program.run_bind, Program.run_read, Program.run_orFail]
  cases s.environment environmentId with
  | none => exact .refl s _
  | some environment =>
  dsimp only [Option.elim]
  cases s.cluster environment.clusterId with
  | none => exact .refl s _
  | some cluster =>
  dsimp only [Option.elim]
  rw [Program.run_pure]
  dsimp only
  rw [run_spawnEach]
  refine (Acts.refl s _).append fun effect heffect => ?_
  obtain ⟨info, hinfo, rfl⟩ := List.mem_map.1 heffect
  cases Option.mem_toList.1 hinfo
  exact .inl (active_of_activeSession hsession hactive)

/-- The tables after an update of the active session, which is there. -/
theorem run_onSessions (context : String) {session : KubeDevboxSession.Model}
    (hsession : s.activeSession userId = some session)
    {f : KubeDevboxSession.Model → KubeDevboxSession.Model}
    (hf : ∀ r, (f r).id = r.id ∧ (f r).userId = r.userId) :
    ∃ t, (onSessions context fun t => t.updateOne (fun row => row.id = session.id) f).run s =
        (.ok ⟨⟩, { s with sessions := t }) ∧
      ∀ row, row ∈ t.rows ↔ ∃ old ∈ s.sessions.rows, row = if old.id = session.id then f old else old := by
  obtain ⟨hmem, huser⟩ := mem_of_activeSession hsession
  obtain ⟨t, ht⟩ := DevboxSessions.exists_updateOne
    (DevboxSessions.session_eq_some.2 ⟨hmem, huser⟩) hf
  refine ⟨t, ?_, fun row => ?_⟩
  · rw [onSessions, Program.run_write, ht]
  · rw [Table.rows_updateMany (Table.updateOne_eq_ok.1 ht).2, List.mem_map]
    simp only [decide_eq_true_eq]
    exact exists_congr fun old => and_congr_right fun _ => eq_comm

/-- A new device name concerns no environment. -/
theorem acts_updateDeviceName (deviceName : String) :
    Acts userId s (.updateDeviceName deviceName : SessionCall Config)
      ((SessionCall.answer userId (.updateDeviceName deviceName : SessionCall Config)).run s).2 := by
  unfold SessionCall.answer SessionServer.updateDeviceName updateDevboxSessionDeviceName
  rw [Program.run_read_bind]
  cases hsession : s.activeSession userId with
  | none => exact .refl s _
  | some session =>
  obtain ⟨t, hrun, hrows⟩ := run_onSessions "Failed to update device name: " hsession
    (f := fun row => { row with deviceName }) fun _ => ⟨rfl, rfl⟩
  dsimp only
  rw [hrun]
  refine ⟨rfl, ?_, fun _ h => .inl h⟩
  rintro environmentId ⟨row, hrow, huser, hactive⟩
  obtain ⟨old, hold, rfl⟩ := (hrows row).1 hrow
  split at huser
  · next hid =>
    rw [if_pos hid] at hactive
    exact .inl ⟨old, hold, huser, hactive⟩
  · next hid =>
    rw [if_neg hid] at hactive
    exact .inl ⟨old, hold, huser, hactive⟩

/-- The session after its active environment is selected: the rows of other users and the other
environments of the user's are as before. -/
theorem run_selectEnvironment (environmentId : Uuid) {session : KubeDevboxSession.Model}
    (hsession : s.activeSession userId = some session) :
    ∃ t, (updateDevboxSessionActiveEnvironment userId (some environmentId)).run s =
        (.ok ⟨⟩, { s with sessions := t }) ∧
      (∀ e, Active { s with sessions := t } userId e → s.Active userId e ∨ e = environmentId) ∧
      Active { s with sessions := t } userId environmentId := by
  obtain ⟨t, hrun, hrows⟩ := run_onSessions "Failed to update active environment: "
    hsession (f := fun row => { row with activeEnvironmentId := some environmentId })
    fun _ => ⟨rfl, rfl⟩
  obtain ⟨hmem, huser⟩ := mem_of_activeSession hsession
  refine ⟨t, ?_, ?_, ?_⟩
  · rw [updateDevboxSessionActiveEnvironment, Program.run_read_bind, hsession]
    exact hrun
  · rintro e ⟨row, hrow, hrowUser, hactive⟩
    obtain ⟨old, hold, rfl⟩ := (hrows row).1 hrow
    split at hrowUser
    · next hid =>
      rw [if_pos hid] at hactive
      exact .inr (Option.some.inj hactive).symm
    · next hid =>
      rw [if_neg hid] at hactive
      exact .inl ⟨old, hold, hrowUser, hactive⟩
  · exact ⟨_, (hrows _).2 ⟨session, hmem, rfl⟩, by rw [if_pos rfl]; exact huser, by rw [if_pos rfl]⟩

/-- Without a session there is no environment to select. -/
theorem run_selectEnvironment_of_none {environmentId : Uuid}
    (hsession : s.activeSession userId = none) :
    (updateDevboxSessionActiveEnvironment userId (some environmentId)).run s = (.ok ⟨⟩, s) := by
  rw [updateDevboxSessionActiveEnvironment, Program.run_read_bind, hsession]
  rfl

/-- What follows the selection: nothing without a cluster, else the announcement, the push, and the
clearing of the environment before. -/
theorem run_setActiveEnvironment {environmentId : Uuid} {environment : KubeEnvironment.Model}
    {s₁ : SessionServer Text} (henvironment : s.environment environmentId = some environment)
    (hshared : environment.isShared = false)
    (hselect : (updateDevboxSessionActiveEnvironment userId (some environmentId)).run s =
      (.ok ⟨⟩, s₁)) (hclusters : s₁.clusters = s.clusters) :
    ((setActiveEnvironment userId environmentId).run s).2 =
      match s.cluster environment.clusterId with
      | none => s₁
      | some cluster =>
        { s₁ with effects := s₁.effects ++
            (.environmentChanged ⟨environmentId, environment.name, cluster.name,
              environment.namespace⟩ :: .pushRoutes environmentId ::
              ((((s.activeSession userId).bind (·.activeEnvironmentId)).filter fun prev =>
                prev ≠ environmentId).toList.map .clearRoutes)) } := by
  have hcluster : ∀ clusterId, s₁.cluster clusterId = s.cluster clusterId := by
    intro clusterId
    rw [SessionServer.cluster, SessionServer.cluster, hclusters]
  unfold setActiveEnvironment
  rw [Program.run_read_bind]
  dsimp only
  rw [Program.run_read_bind, henvironment, Program.run_orFail_bind]
  dsimp only [Option.elim]
  rw [if_neg (by rw [hshared]; exact nofun), Program.run_bind_of_ok hselect, Program.run_read_bind,
    Program.run_orFail_bind, hcluster]
  cases s.cluster environment.clusterId with
  | none => rfl
  | some cluster =>
    dsimp only [Option.elim]
    rw [Program.run_bind_of_ok (run_spawn _ _), Program.run_bind_of_ok (run_spawn _ _), run_spawnEach]
    simp [(owns_of_environment henvironment).2]

/-- The environment that is selected is the user's own, in the user's own session. -/
theorem acts_setActiveEnvironment (environmentId : Uuid) :
    Acts userId s (.setActiveEnvironment environmentId : SessionCall Config)
      ((setActiveEnvironment userId environmentId).run s).2 := by
  cases henvironment : s.environment environmentId with
  | none =>
    rw [setActiveEnvironment, Program.run_read_bind]
    dsimp only
    rw [Program.run_read_bind, henvironment, Program.run_orFail_bind]
    exact .refl s _
  | some environment =>
  cases hshared : environment.isShared with
  | true =>
    rw [setActiveEnvironment, Program.run_read_bind]
    dsimp only
    rw [Program.run_read_bind, henvironment, Program.run_orFail_bind]
    dsimp only [Option.elim]
    rw [if_pos hshared]
    exact .refl s _
  | false =>
  have hreaches : (s.activeSession userId).isSome ∨ (s.cluster environment.clusterId).isSome →
      s.Reaches userId (.setActiveEnvironment environmentId : SessionCall Config) environmentId :=
    fun h => ⟨rfl, environment, henvironment, hshared, h⟩
  cases hsession : s.activeSession userId with
  | none =>
    rw [run_setActiveEnvironment henvironment hshared (run_selectEnvironment_of_none hsession) rfl]
    cases hcluster : s.cluster environment.clusterId with
    | none => exact .refl s _
    | some cluster =>
      refine (Acts.refl s _).append fun effect heffect => .inr (.inr ?_)
      rw [hsession] at heffect
      have hid : effect.environmentId = environmentId := by
        rcases List.mem_cons.1 heffect with rfl | heffect
        · rfl
        · rw [List.mem_singleton.1 heffect]
          rfl
      rw [hid]
      exact hreaches (.inr (by rw [hcluster]; rfl))
  | some session =>
    have hreached := hreaches (.inl (by rw [hsession]; rfl))
    obtain ⟨t, hselect, hactive, -⟩ := run_selectEnvironment environmentId hsession
    rw [run_setActiveEnvironment henvironment hshared hselect rfl]
    have hselected : Acts userId s (.setActiveEnvironment environmentId : SessionCall Config)
        { s with sessions := t } := by
      refine ⟨rfl, fun e he => ?_, fun _ h => .inl h⟩
      rcases hactive e he with hold | rfl
      · exact .inl hold
      · exact .inr hreached
    cases s.cluster environment.clusterId with
    | none => exact hselected
    | some cluster =>
      refine hselected.append fun effect heffect => ?_
      rcases List.mem_cons.1 heffect with rfl | heffect
      · exact .inr (.inr hreached)
      rcases List.mem_cons.1 heffect with rfl | heffect
      · exact .inr (.inr hreached)
      obtain ⟨prev, hprev, rfl⟩ := List.mem_map.1 heffect
      rw [hsession] at hprev
      exact .inl (active_of_activeSession hsession
        (Option.mem_filter_iff.1 (Option.mem_toList.1 hprev)).1)

/-- The loop over the intercepts only reads, and ends if every intercept can be told of. -/
theorem run_interceptInfos (session : KubeDevboxSession.Model)
    (intercepts : List KubeDevboxWorkloadIntercept.Model) (result : List WorkloadInterceptInfo)
    (s : SessionServer Text) :
    (∃ e, (Program.foldEach (interceptInfo session) result intercepts).run s = (.error e, s) ∧
      ¬ ∀ intercept ∈ intercepts, s.Tellable intercept) ∨
    ∃ infos, (Program.foldEach (interceptInfo session) result intercepts).run s =
        (.ok infos, s) ∧ infos.length = result.length + intercepts.length ∧
      ∀ intercept ∈ intercepts, s.Tellable intercept := by
  induction intercepts generalizing result with
  | nil => exact .inr ⟨result, rfl, rfl, nofun⟩
  | cons intercept intercepts ih =>
    cases hworkload : s.workload intercept.workloadId with
    | none =>
      refine .inl ⟨.message "Workload not found", ?_, fun h => ?_⟩
      · rw [Program.run_foldEach_cons, interceptInfo, Program.run_read_bind, hworkload,
          Program.run_orFail_bind]
        rfl
      · have := (h intercept (List.mem_cons_self ..)).1
        rw [hworkload] at this
        exact nomatch this
    | some workload =>
    cases hmappings : intercept.portMappings with
    | error text =>
      refine .inl ⟨.message ("Failed to parse port mappings: " ++ text), ?_, fun h => ?_⟩
      · rw [Program.run_foldEach_cons, interceptInfo, Program.run_read_bind, hworkload,
          Program.run_orFail_bind, hmappings]
        rfl
      · have := (h intercept (List.mem_cons_self ..)).2
        rw [hmappings] at this
        exact nomatch this
    | ok portMappings =>
      obtain ⟨info, hinfo⟩ : ∃ info, (interceptInfo session result intercept).run s =
          (.ok (result ++ [info]), s) := by
        refine ⟨{ interceptId := intercept.id
                  workloadId := workload.id
                  workloadName := workload.name
                  «namespace» := workload.namespace
                  portMappings
                  createdAt := intercept.createdAt
                  deviceName := session.deviceName }, ?_⟩
        rw [interceptInfo, Program.run_read_bind, hworkload, Program.run_orFail_bind, hmappings]
        rfl
      rw [Program.run_foldEach_cons, hinfo]
      dsimp only
      have htellable : s.Tellable intercept := by
        rw [Tellable, hworkload, hmappings]
        exact ⟨rfl, rfl⟩
      have hall : (∀ i ∈ intercept :: intercepts, s.Tellable i) ↔ ∀ i ∈ intercepts, s.Tellable i := by
        rw [List.forall_mem_cons, and_iff_right htellable]
      rw [hall]
      rcases ih (result ++ [info]) with herror | ⟨infos, hrun, hlength, hworkloads⟩
      · exact .inl herror
      · refine .inr ⟨infos, hrun, ?_, hworkloads⟩
        rw [List.length_append, List.length_singleton] at hlength
        rw [List.length_cons]
        omega

/-- The answer about an environment's intercepts tells of it exactly if the call reaches it. -/
theorem run_listWorkloadIntercepts (s : SessionServer Text) (userId environmentId : Uuid)
    (call : SessionCall Config) (hcall : call = .listWorkloadIntercepts environmentId) :
    (¬ s.Reaches userId call environmentId ∧ ((call.answer userId).run s).2 = s) ∨
      (s.Reaches userId call environmentId ∧ ((call.answer userId).run s).2 =
        { s with effects := s.effects ++ [.answered environmentId] }) := by
  subst hcall
  have hanswer : ((SessionCall.answer userId
      (.listWorkloadIntercepts environmentId : SessionCall Config)).run s).2 =
      match (listWorkloadIntercepts userId environmentId).run s with
      | (.ok infos, s') =>
        ((Program.when (!infos.isEmpty) (spawn (.answered environmentId))).run s').2
      | (.error _, s') => s' := by
    rw [SessionCall.answer, Program.run_bind]
    rcases (listWorkloadIntercepts userId environmentId).run s with ⟨_ | _, s'⟩ <;> rfl
  rw [hanswer, listWorkloadIntercepts, Program.run_read_bind, Program.run_orFail_bind]
  cases hsession : s.activeSession userId with
  | none =>
    refine .inl ⟨fun h => ?_, rfl⟩
    have := h.2.1
    rw [hsession] at this
    exact nomatch this
  | some session =>
  dsimp only [Option.elim]
  rw [Program.run_read_bind]
  rcases run_interceptInfos session (s.activeIntercepts environmentId) [] s with
    ⟨e, hrun, hmissing⟩ | ⟨infos, hrun, hlength, hworkloads⟩
  · rw [hrun]
    exact .inl ⟨fun h => hmissing h.2.2.2, rfl⟩
  · rw [hrun]
    dsimp only
    cases hintercepts : s.activeIntercepts environmentId with
    | nil =>
      rw [hintercepts] at hlength
      cases List.length_eq_zero_iff.1 hlength
      exact .inl ⟨fun h => h.2.2.1 hintercepts, rfl⟩
    | cons intercept intercepts =>
      rw [hintercepts] at hlength
      cases infos with
      | nil => exact nomatch hlength
      | cons info infos =>
        refine .inr ⟨⟨rfl, by rw [hsession]; rfl, ?_, hworkloads⟩, rfl⟩
        rw [hintercepts]
        exact List.cons_ne_nil _ _

/-- Listing the intercepts has no effect. -/
theorem acts_listWorkloadIntercepts (environmentId : Uuid) :
    let call : SessionCall Config := .listWorkloadIntercepts environmentId
    Acts userId s call ((call.answer userId).run s).2 := by
  intro call
  rcases run_listWorkloadIntercepts s userId environmentId call rfl with
    ⟨-, hrun⟩ | ⟨hreaches, hrun⟩
  · rw [hrun]
    exact .refl s _
  · rw [hrun]
    refine (Acts.refl s _).append fun effect heffect => .inr (.inr ?_)
    rw [List.mem_singleton.1 heffect]
    exact hreaches

/-- The calls that ask whose the environment is answer about the user's own. -/
theorem acts_answered {call : SessionCall Config} {environmentId : Uuid}
    {environment : KubeEnvironment.Model}
    (henvironment : s.environment environmentId = some environment)
    (huser : environment.userId = userId) :
    Acts userId s call { s with effects := s.effects ++ [.answered environmentId] } := by
  refine (Acts.refl s _).append fun effect heffect => .inr (.inl ?_)
  rw [List.mem_singleton.1 heffect]
  have := (owns_of_environment henvironment).1
  rw [huser] at this
  exact this

/-- Listing the services has no effect. -/
theorem acts_listServices (environmentId : Uuid) :
    let call : SessionCall Config := .listServices environmentId
    Acts userId s call ((call.answer userId).run s).2 := by
  intro call
  simp only [call, SessionCall.answer, SessionServer.listServices, Program.run_bind,
    Program.run_read, Program.run_orFail]
  cases henvironment : s.environment environmentId with
  | none => exact .refl s _
  | some environment =>
  dsimp only [Option.elim]
  by_cases huser : environment.userId = userId
  · rw [if_neg (not_not.2 huser)]
    exact acts_answered henvironment huser
  · rw [if_pos huser]
    exact .refl s _

/-- A request for a direct connection has no effect on an environment that the user may not reach. -/
theorem acts_requestDirectClientConfig (environmentId : Uuid)
    (config : Except String (Option Config)) :
    let call : SessionCall Config := .requestDirectClientConfig environmentId config
    Acts userId s call ((call.answer userId).run s).2 := by
  intro call
  simp only [call, SessionCall.answer, SessionServer.requestDirectClientConfig, Program.run_bind,
    Program.run_read, Program.run_orFail]
  cases henvironment : s.environment environmentId with
  | none => exact .refl s _
  | some environment =>
  dsimp only [Option.elim]
  by_cases huser : environment.userId = userId
  · rw [if_neg (not_not.2 huser), Program.run_pure]
    dsimp only
    cases (config.toOption.bind id).isSome with
    | false => exact .refl s _
    | true => exact acts_answered henvironment huser
  · rw [if_pos huser]
    exact .refl s _

/-- Every call concerns only environments that its user owns, has active or may reach. -/
theorem acts (call : SessionCall Config) : Acts userId s call ((call.answer userId).run s).2 := by
  cases call with
  | whoami => exact acts_whoami
  | getActiveEnvironment => exact acts_getActiveEnvironment
  | updateDeviceName deviceName => exact acts_updateDeviceName deviceName
  | heartbeat => exact .refl s _
  | setActiveEnvironment environmentId => exact acts_setActiveEnvironment environmentId
  | listWorkloadIntercepts environmentId => exact acts_listWorkloadIntercepts environmentId
  | listServices environmentId => exact acts_listServices environmentId
  | requestDirectClientConfig environmentId config =>
    exact acts_requestDirectClientConfig environmentId config

/-- An environment that a call reaches is selected, or told of. -/
theorem active_or_effect_of_reaches {call : SessionCall Config} {environmentId : Uuid}
    (h : s.Reaches userId call environmentId) :
    ((call.answer userId).run s).2.Active userId environmentId ∨
      ∃ effect ∈ ((call.answer userId).run s).2.effects, effect.environmentId = environmentId := by
  cases call with
  | setActiveEnvironment _ =>
    obtain ⟨rfl, environment, henvironment, hshared, hacts⟩ := h
    rw [SessionCall.answer]
    cases hsession : s.activeSession userId with
    | some session =>
      obtain ⟨t, hselect, -, hactive⟩ := run_selectEnvironment environmentId hsession
      rw [run_setActiveEnvironment henvironment hshared hselect rfl]
      left
      cases s.cluster environment.clusterId <;> exact hactive
    | none =>
      rw [run_setActiveEnvironment henvironment hshared (run_selectEnvironment_of_none hsession) rfl]
      rw [hsession] at hacts
      obtain ⟨cluster, hcluster⟩ := Option.isSome_iff_exists.1 (hacts.resolve_left nofun)
      rw [hcluster]
      exact .inr ⟨_, List.mem_append_right _ (List.mem_cons_self ..), rfl⟩
  | listWorkloadIntercepts _ =>
    cases h.1
    rcases run_listWorkloadIntercepts s userId environmentId _ rfl with ⟨hnot, -⟩ | ⟨-, hrun⟩
    · exact absurd h hnot
    · rw [hrun]
      exact .inr ⟨_, List.mem_append_right _ (List.mem_singleton_self _), rfl⟩
  | whoami | getActiveEnvironment | updateDeviceName _ | heartbeat | listServices _
  | requestDirectClientConfig _ _ => exact h.elim

/-! ## Runs -/

/-- Who owns an environment depends on the tables only. -/
theorem owns_of_db (h : s'.db = s.db) {environmentId : Uuid} :
    s'.Owns userId environmentId ↔ s.Owns userId environmentId := by
  rw [Owns, Owns, h]

/-- A call keeps to the user's own environments exactly if it takes one of these. -/
theorem ownsAll_call_iff {call : SessionCall Config} (h : OwnsAll userId s) :
    OwnsAll userId ((call.answer userId).run s).2 ↔ TakesOwn userId s (.call call) := by
  have hacts : Acts userId s call ((call.answer userId).run s).2 := acts call
  have howns : ∀ e, ((call.answer userId).run s).2.Owns userId e ↔ s.Owns userId e :=
    fun _ => owns_of_db hacts.db
  constructor
  · intro hafter environmentId hreaches
    rcases active_or_effect_of_reaches hreaches with hactive | ⟨effect, heffect, rfl⟩
    · exact (howns _).1 (hafter.active _ hactive)
    · exact (howns _).1 (hafter.effects _ heffect)
  · intro htakes
    refine ⟨fun e he => (howns e).2 ?_, fun effect heffect => (howns _).2 ?_⟩
    · rcases hacts.active e he with hold | hreached
      · exact h.active e hold
      · exact htakes e hreached
    · rcases hacts.effects effect heffect with hold | hactive | hown | hreached
      · exact h.effects effect hold
      · exact h.active _ hactive
      · exact hown
      · exact htakes _ hreached

/-- What others do leaves what a user owns. -/
theorem ownsAll_elsewhere (helsewhere : Elsewhere userId s s') (h : OwnsAll userId s) :
    OwnsAll userId s' := by
  refine ⟨fun e he => ?_, fun effect heffect => ?_⟩
  · rcases helsewhere.active e he with hold | hown
    · exact helsewhere.owners _ _ (h.active e hold)
    · exact hown
  · rw [helsewhere.effects] at heffect
    exact helsewhere.owners _ _ (h.effects effect heffect)

/-- **Ownership in every run.** As long as the calls that take an environment without asking whose
it is take one of the user's own, the active environment and all that the calls push, clear and
tell of are the user's; the next call breaks this exactly if it takes another's. -/
theorem ownsAll_of_run {actions : List (SessionAction Config)}
    (hrun : Run (Guarded (Step userId) (TakesOwn userId)) s actions s') (h : OwnsAll userId s) :
    OwnsAll userId s' ∧ ∀ (call : SessionCall Config) (s'' : SessionServer Text),
      Step userId s' (.call call) s'' → (OwnsAll userId s'' ↔ TakesOwn userId s' (.call call)) := by
  have hs' : OwnsAll userId s' := by
    refine Run.invariant_of_guard (OwnsAll userId) ?_ hrun h
    rintro s (call | -) s' hstep htakes h
    · cases hstep
      exact (ownsAll_call_iff h).2 htakes
    · exact ownsAll_elsewhere hstep h
  refine ⟨hs', ?_⟩
  rintro call s'' rfl
  exact ownsAll_call_iff hs'

/-! ## A personal environment of another user -/

/-- The personal environment `5` of the user `2`. -/
def personalEnvironment : KubeEnvironment.Model where
  id := 5
  deletedAt := none
  organizationId := 1
  userId := 2
  appCatalogId := 1
  clusterId := 1
  name := "dev"
  «namespace» := "dev"
  status := "Running"
  isShared := false
  catalogSyncVersion := 1
  lastCatalogSyncedAt := none
  syncStatus := "idle"
  baseEnvironmentId := none
  authToken := "t"

/-- A session of the user, which has not selected an environment. -/
def freshSession (userId : Uuid) : KubeDevboxSession.Model where
  id := 7
  userId
  sessionTokenHash := "h"
  tokenPrefix := "p"
  deviceName := "laptop"
  activeEnvironmentId := none
  createdAt := 1
  expiresAt := 100
  lastUsedAt := 1
  revokedAt := none

/-- The environment, and the session of a user. -/
def sessionServer (userId : Uuid) : SessionServer Document where
  db := { Database.empty Document with environments := ⟨[personalEnvironment], by simp⟩ }
  users := .empty
  clusters := ⟨[⟨1, none, "prod"⟩], by simp⟩
  sessions := ⟨[freshSession userId], by simp⟩
  intercepts := .empty
  effects := []

/-- At the start a session owns what it refers to. -/
theorem ownsAll_sessionServer (userId : Uuid) : OwnsAll userId (sessionServer userId) := by
  refine ⟨?_, nofun⟩
  rintro environmentId ⟨row, hrow, -, hactive⟩
  cases List.mem_singleton.1 hrow
  exact nomatch hactive

/-- The owner selects the environment. -/
theorem ownsAll_of_run_owner :
    OwnsAll 2 (((SessionCall.setActiveEnvironment 5 : SessionCall Unit).answer 2).run
      (sessionServer 2)).2 := by
  have hrun : Run (Guarded (Step 2) (TakesOwn 2)) (sessionServer 2)
      [.call (.setActiveEnvironment 5 : SessionCall Unit)]
      (((SessionCall.setActiveEnvironment 5 : SessionCall Unit).answer 2).run
        (sessionServer 2)).2 := by
    refine .cons ⟨rfl, ?_⟩ .nil
    rintro environmentId ⟨rfl, -⟩
    exact ⟨personalEnvironment, List.mem_singleton_self _, rfl, rfl⟩
  exact (ownsAll_of_run hrun (ownsAll_sessionServer 2)).1

/-- The user `1` selects the environment of the user `2`, and its routes are pushed. -/
theorem selects_environment_of_another :
    ¬∀ (actions : List (SessionAction Unit)) (s s' : SessionServer Document),
      Run (Step 1) s actions s' → OwnsAll 1 s → OwnsAll 1 s' := by
  intro h
  have hafter := h [.call (.setActiveEnvironment 5)] (sessionServer 1) _ (.cons rfl .nil)
    (ownsAll_sessionServer 1)
  have hpushed : SessionEffect.pushRoutes 5 ∈
      (((SessionCall.setActiveEnvironment 5 : SessionCall Unit).answer 1).run
        (sessionServer 1)).2.effects := by
    decide +kernel
  obtain ⟨row, hrow, -, huser⟩ := hafter.effects _ hpushed
  have hrows : (((SessionCall.setActiveEnvironment 5 : SessionCall Unit).answer 1).run
      (sessionServer 1)).2.db.environments.rows = [personalEnvironment] := by
    decide +kernel
  rw [hrows] at hrow
  cases List.mem_singleton.1 hrow
  exact absurd huser (by decide)

end SessionServer

end Lapdev
