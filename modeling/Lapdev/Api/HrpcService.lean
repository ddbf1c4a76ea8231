import Lapdev.Api.BranchEnvironments
import Lapdev.Api.EnvironmentDeletion
import Lapdev.Db.Organizations

/-!
# The handlers that change an environment

The handlers of `hrpc_service.rs` that update or delete a workload of an environment, delete the
environment, or create, change or delete a preview URL of it. Each looks the environment up, derives
the role it requires and asks `authorize` of `state.rs` for it, or leaves the checks to the
controller.
-/

namespace Lapdev

open RustStd Sql Programs

/-! ## Preview URLs -/

/-- Source: `db/entities/src/kube_environment_preview_url.rs`; the metadata are always empty. -/
structure KubeEnvironmentPreviewUrl.Model where
  id : Uuid
  createdAt : Timestamp
  updatedAt : Timestamp
  deletedAt : Option Timestamp
  environmentId : Uuid
  serviceId : Uuid
  name : String
  description : Option String
  port : Int
  portName : Option String
  protocol : String
  accessLevel : String
  createdBy : Uuid
  lastAccessedAt : Option Timestamp

/-- The primary key, `kube_environment_preview_url_name_unique_idx` and
`kube_environment_preview_url_service_port_unique_idx`. -/
instance KubeEnvironmentPreviewUrl.entity : Entity KubeEnvironmentPreviewUrl.Model where
  Conflict r r' := r.id = r'.id ∨ (r.name = r'.name ∧ r.deletedAt = r'.deletedAt) ∨
    r.environmentId = r'.environmentId ∧ r.serviceId = r'.serviceId ∧ r.port = r'.port ∧
      r.deletedAt = r'.deletedAt
  symm := by
    rintro r r' (h | ⟨h₁, h₂⟩ | ⟨h₁, h₂, h₃, h₄⟩)
    · exact .inl h.symm
    · exact .inr (.inl ⟨h₁.symm, h₂.symm⟩)
    · exact .inr (.inr ⟨h₁.symm, h₂.symm, h₃.symm, h₄.symm⟩)
  dec := fun _ _ => inferInstance

/-- Source: `common/src/kube.rs`. -/
inductive PreviewUrlAccessLevel
  | organization
  | «public»
  deriving DecidableEq, Repr

namespace PreviewUrlAccessLevel

def toString : PreviewUrlAccessLevel → String
  | organization => "Organization"
  | «public» => "Public"

def parse : String → Option PreviewUrlAccessLevel
  | "Organization" => some organization
  | "Public" => some «public»
  | _ => none

end PreviewUrlAccessLevel

/-- Source: `common/src/kube.rs`. -/
structure CreateKubeEnvironmentPreviewUrlRequest where
  description : Option String
  serviceId : Uuid
  port : Int
  portName : Option String
  protocol : Option String
  accessLevel : Option PreviewUrlAccessLevel

/-- Source: `common/src/kube.rs`. -/
structure UpdateKubeEnvironmentPreviewUrlRequest where
  description : Option String
  accessLevel : Option PreviewUrlAccessLevel

/-- Source: `common/src/kube.rs`. -/
structure KubeEnvironmentPreviewUrl where
  id : Uuid
  createdAt : Timestamp
  environmentId : Uuid
  serviceId : Uuid
  name : String
  description : Option String
  port : Int
  portName : Option String
  protocol : String
  accessLevel : PreviewUrlAccessLevel
  createdBy : Uuid
  lastAccessedAt : Option Timestamp
  url : String

/-- The answer about a row. -/
def KubeEnvironmentPreviewUrl.ofRow (row : KubeEnvironmentPreviewUrl.Model) :
    KubeEnvironmentPreviewUrl where
  id := row.id
  createdAt := row.createdAt
  environmentId := row.environmentId
  serviceId := row.serviceId
  name := row.name
  description := row.description
  port := row.port
  portName := row.portName
  protocol := row.protocol
  accessLevel := (PreviewUrlAccessLevel.parse row.accessLevel).getD .organization
  createdBy := row.createdBy
  lastAccessedAt := row.lastAccessedAt
  url := "https://" ++ row.name ++ "." ++ "app.lap.dev"

/-! ## The server -/

/-- Why a handler fails: a message of its own, an error of `authorize`, or one of the controller. -/
inductive HrpcError
  | message (text : String)
  | unauthenticated
  | detailedUnauthorized (message : String)
  | api (e : ApiError)

/-- The tables that the handlers read and write. -/
structure HrpcServer (Text : Type) where
  db : Database Text
  users : Table User.Model
  members : Table OrganizationMember.Model
  previewUrls : Table KubeEnvironmentPreviewUrl.Model

/-- A program of the handlers. -/
abbrev Hrpc (Text α : Type) := Program (HrpcServer Text) HrpcError α

namespace HrpcServer

variable {Text : Type}

/-- A call of the controller. -/
def controller {α : Type} (call : KubeController.Call Text α) : Hrpc Text α :=
  (Program.zoom (fun s : HrpcServer Text => s.db) (fun s db => { s with db }) call).mapError .api

/-- A statement on the preview URLs, whose unique violations have an error of their own. -/
def onPreviewUrls (violation : ApiError) (f : Table KubeEnvironmentPreviewUrl.Model →
    Except DbErr (Table KubeEnvironmentPreviewUrl.Model)) : Hrpc Text PUnit :=
  .write fun s =>
    match f s.previewUrls with
    | .ok t => .ok { s with previewUrls := t }
    | .error .uniqueViolation => .error (.api violation)
    | .error e => .error (.api (.internalError (.db e)))

/-- `get_kube_environment`. -/
def environment (s : HrpcServer Text) (environmentId : Uuid) : Option KubeEnvironment.Model :=
  s.db.environments.one fun row => row.id = environmentId && row.deletedAt = none

/-- `get_environment_workload`. -/
def workload (s : HrpcServer Text) (workloadId : Uuid) :
    Option (KubeEnvironmentWorkload.Model Text) :=
  s.db.environmentWorkloads.one fun row => row.id = workloadId && row.deletedAt = none

/-- `get_environment_preview_url`. -/
def previewUrl (s : HrpcServer Text) (previewUrlId : Uuid) :
    Option KubeEnvironmentPreviewUrl.Model :=
  s.previewUrls.one fun row => row.id = previewUrlId && row.deletedAt = none

/-- The user of a token. -/
def user (s : HrpcServer Text) (userId : Uuid) : Option User.Model :=
  s.users.one fun row => row.id = userId && row.deletedAt = none

/-- `get_organization_member`. -/
def organizationMember (s : HrpcServer Text) (userId orgId : Uuid) :
    Option OrganizationMember.Model :=
  s.members.one fun row => row.userId = userId && row.organizationId = orgId && row.deletedAt = none

/-! ## Authorization -/

/-- Source: `state.rs`; `token` is the user id in the claims of the cookie. -/
def authenticateRaw (token : Option Uuid) : Hrpc Text User.Model := do
  let userId ← Program.orFail token .unauthenticated
  let found ← Program.read fun s => s.user userId
  Program.orFail found .unauthenticated

/-- Source: `state.rs`. -/
def authorizeOrg (token : Option Uuid) (orgId : Uuid) :
    Hrpc Text (User.Model × OrganizationMember.Model) := do
  let user ← authenticateRaw token
  let found ← Program.read fun s => s.organizationMember user.id orgId
  let member ← Program.orFail found (.api .unauthorized)
  pure (user, member)

/-- The `match` of `authorize`. -/
def checkRole (member : OrganizationMember.Model) : Option UserRole → Except HrpcError PUnit.{1}
  | none => .ok ⟨⟩
  | some requiredRole =>
    match UserRole.parse member.role with
    | none => .error (.api .unauthorized)
    | some memberRole =>
      match requiredRole with
      | .owner =>
        if memberRole ≠ .owner then .error (.detailedUnauthorized "Owner role required")
        else .ok ⟨⟩
      | .admin =>
        if memberRole ≠ .owner ∧ memberRole ≠ .admin then
          .error (.detailedUnauthorized "Admin or Owner role required")
        else .ok ⟨⟩
      | .member => .ok ⟨⟩

/-- Source: `state.rs`. -/
def authorize (token : Option Uuid) (orgId : Uuid) (requiredRole : Option UserRole) :
    Hrpc Text User.Model := do
  let (user, member) ← authorizeOrg token orgId
  let _ ← Program.ofExcept (checkRole member requiredRole)
  pure user

/-- The role that most handlers require for an environment. -/
def requiredRole (environment : KubeEnvironment.Model) : Option UserRole :=
  if environment.isShared then some .admin else none

/-- An admin of a shared environment, or the owner of another one. -/
def authorizeOwner (token : Option Uuid) (orgId : Uuid) (environment : KubeEnvironment.Model)
    (unauthorized : HrpcError) : Hrpc Text User.Model := do
  let user ← authorize token orgId (requiredRole environment)
  if !environment.isShared && environment.userId ≠ user.id then .fail unauthorized
  else pure user

/-- The checks that most handlers make of their environment. -/
def authorizeEnvironment (token : Option Uuid) (orgId : Uuid) (environment : KubeEnvironment.Model) :
    Hrpc Text User.Model :=
  if environment.organizationId ≠ orgId then
    .fail (.message "Environment does not belong to the organization")
  else authorizeOwner token orgId environment (.message "Unauthorized")

/-! ## Handlers -/

/-- Source: `hrpc_service.rs`; the outcomes of the calls to the cluster come from outside. -/
def deleteKubeEnvironment (token : Option Uuid) (orgId environmentId : Uuid) (connected : Bool)
    (notified destroyResult : Except ApiError PUnit.{1}) (now : Timestamp) : Hrpc Text PUnit := do
  let found ← Program.read fun s => s.environment environmentId
  let environment ← Program.orFail found (.message "Environment not found")
  let _ ← authorizeEnvironment token orgId environment
  controller (KubeController.deleteKubeEnvironment orgId environmentId connected notified
    destroyResult now)

/-- The workload belongs to the environment of the call, or to the base of it. -/
def checkBelongs (environment : KubeEnvironment.Model)
    (workload : KubeEnvironmentWorkload.Model Text) : Except HrpcError PUnit.{1} :=
  if workload.environmentId ≠ environment.id then
    match environment.baseEnvironmentId with
    | none => .error (.api (.invalidRequest "Workload does not belong to the target environment"))
    | some baseEnv =>
      if workload.environmentId ≠ baseEnv then
        .error (.api (.invalidRequest "Workload does not belong to the target environment"))
      else .ok ⟨⟩
  else .ok ⟨⟩

section
variable (fromStr : Text → Option Yaml.Value) (codec : ManifestCodec Text)

/-- Source: `hrpc_service.rs`. -/
def updateEnvironmentWorkload (token : Option Uuid) (outside : BranchOutside)
    (orgId environmentId workloadId : Uuid) (containers : List KubeContainerInfo)
    (now : Timestamp) : Hrpc Text Uuid := do
  let found ← Program.read fun s => s.workload workloadId
  let workload ← Program.orFail found (.api (.invalidRequest "Workload not found"))
  let found ← Program.read fun s => s.environment environmentId
  let targetEnvironment ← Program.orFail found (.api (.invalidRequest "Environment not found"))
  if targetEnvironment.organizationId ≠ orgId then .fail (.api .unauthorized)
  else do
    let _ ← Program.ofExcept (checkBelongs targetEnvironment workload)
    let _ ← authorizeOwner token orgId targetEnvironment (.api .unauthorized)
    controller (KubeController.updateEnvironmentWorkload fromStr codec outside workloadId containers
      targetEnvironment now)

end

/-- Source: `hrpc_service.rs`. The checks of the environment are left to the controller. -/
def deleteEnvironmentWorkload (token : Option Uuid) (outside : BranchOutside)
    (orgId environmentId workloadId : Uuid) (now : Timestamp) : Hrpc Text PUnit := do
  let user ← authorize token orgId none
  controller (KubeController.deleteEnvironmentWorkload outside orgId user.id environmentId workloadId
    now)

/-- The service of a preview URL is one of the environment, or of the base of a branch. -/
def checkService (environment : KubeEnvironment.Model) (service : KubeEnvironmentService.Model Text)
    (request : CreateKubeEnvironmentPreviewUrlRequest) : Except HrpcError PUnit.{1} :=
  if environment.baseEnvironmentId.any fun baseId => service.environmentId ≠ baseId then
    .error (.api (.invalidRequest "Service not found in base environment"))
  else if environment.baseEnvironmentId = none ∧ service.environmentId ≠ environment.id then
    .error (.api (.invalidRequest "Service not found in environment"))
  else if !service.ports.any fun p => p.port = request.port &&
      (request.portName.isNone || p.name = request.portName) then
    .error (.api (.invalidRequest "Specified port does not exist on the service"))
  else .ok ⟨⟩

/-- The row of a new preview URL; `suffix` is random. -/
def newPreviewUrl (previewUrlId : Uuid) (suffix : String) (environment : KubeEnvironment.Model)
    (service : KubeEnvironmentService.Model Text) (userId : Uuid)
    (request : CreateKubeEnvironmentPreviewUrlRequest) (now : Timestamp) :
    KubeEnvironmentPreviewUrl.Model where
  id := previewUrlId
  createdAt := now
  updatedAt := now
  deletedAt := none
  environmentId := environment.id
  serviceId := request.serviceId
  name := toString request.port ++ "-" ++ service.name ++ "-" ++ suffix
  description := request.description
  port := request.port
  portName := request.portName
  protocol := request.protocol.getD "HTTP"
  accessLevel := (request.accessLevel.getD .organization).toString
  createdBy := userId
  lastAccessedAt := none

/-- Source: `preview_url.rs`; `service` is the live service of the id in the request. -/
def createPreviewUrl (environment : KubeEnvironment.Model) (userId : Uuid)
    (request : CreateKubeEnvironmentPreviewUrlRequest)
    (service : Option (KubeEnvironmentService.Model Text)) (previewUrlId : Uuid) (suffix : String)
    (now : Timestamp) : Hrpc Text KubeEnvironmentPreviewUrl := do
  let service ← Program.orFail service (.api (.invalidRequest "Service not found"))
  let _ ← Program.ofExcept (checkService environment service request)
  let row := newPreviewUrl previewUrlId suffix environment service userId request now
  onPreviewUrls
    (.invalidRequest "A preview URL already exists for this service and port combination")
    fun t => t.insert row
  pure (.ofRow row)

/-- Source: `hrpc_service.rs`. -/
def createEnvironmentPreviewUrl (token : Option Uuid) (orgId environmentId : Uuid)
    (request : CreateKubeEnvironmentPreviewUrlRequest)
    (service : Option (KubeEnvironmentService.Model Text)) (previewUrlId : Uuid) (suffix : String)
    (now : Timestamp) : Hrpc Text KubeEnvironmentPreviewUrl := do
  let found ← Program.read fun s => s.environment environmentId
  let environment ← Program.orFail found (.message "Environment not found")
  let user ← authorizeEnvironment token orgId environment
  createPreviewUrl environment user.id request service previewUrlId suffix now

/-- Source: `db/src/api.rs`. What the request leaves out stays. -/
def changePreviewUrl (request : UpdateKubeEnvironmentPreviewUrlRequest)
    (row : KubeEnvironmentPreviewUrl.Model) : KubeEnvironmentPreviewUrl.Model :=
  { row with
    description := request.description.or row.description
    accessLevel := (request.accessLevel.map PreviewUrlAccessLevel.toString).getD row.accessLevel }

/-- The preview URL of a handler and its environment. -/
def previewUrlEnvironment (previewUrlId : Uuid) :
    Hrpc Text (KubeEnvironmentPreviewUrl.Model × KubeEnvironment.Model) := do
  let found ← Program.read fun s => s.previewUrl previewUrlId
  let previewUrl ← Program.orFail found (.message "Preview URL not found")
  let found ← Program.read fun s => s.environment previewUrl.environmentId
  let environment ← Program.orFail found (.message "Environment not found")
  pure (previewUrl, environment)

/-- Source: `hrpc_service.rs`. -/
def updateEnvironmentPreviewUrl (token : Option Uuid) (orgId previewUrlId : Uuid)
    (request : UpdateKubeEnvironmentPreviewUrlRequest) : Hrpc Text KubeEnvironmentPreviewUrl := do
  let (previewUrl, environment) ← previewUrlEnvironment previewUrlId
  let _ ← authorizeEnvironment token orgId environment
  onPreviewUrls (.internalError (.db .uniqueViolation)) fun t =>
    t.updateOne (fun row => row.id = previewUrlId) (changePreviewUrl request)
  pure (.ofRow (changePreviewUrl request previewUrl))

/-- Source: `hrpc_service.rs`. -/
def deleteEnvironmentPreviewUrl (token : Option Uuid) (orgId previewUrlId : Uuid)
    (now : Timestamp) : Hrpc Text PUnit := do
  let (_, environment) ← previewUrlEnvironment previewUrlId
  let _ ← authorizeEnvironment token orgId environment
  onPreviewUrls (.internalError (.db .uniqueViolation)) fun t =>
    t.updateOne (fun row => row.id = previewUrlId) fun row => { row with deletedAt := some now }

end HrpcServer

/-- A call of a handler, with what it gets from outside. -/
inductive HrpcCall (Text : Type)
  | deleteKubeEnvironment (orgId environmentId : Uuid) (connected : Bool)
      (notified destroyResult : Except ApiError PUnit.{1}) (now : Timestamp)
  | updateEnvironmentWorkload (outside : BranchOutside) (orgId environmentId workloadId : Uuid)
      (containers : List KubeContainerInfo) (now : Timestamp)
  | deleteEnvironmentWorkload (outside : BranchOutside) (orgId environmentId workloadId : Uuid)
      (now : Timestamp)
  | createEnvironmentPreviewUrl (orgId environmentId : Uuid)
      (request : CreateKubeEnvironmentPreviewUrlRequest)
      (service : Option (KubeEnvironmentService.Model Text)) (previewUrlId : Uuid) (suffix : String)
      (now : Timestamp)
  | updateEnvironmentPreviewUrl (orgId previewUrlId : Uuid)
      (request : UpdateKubeEnvironmentPreviewUrlRequest)
  | deleteEnvironmentPreviewUrl (orgId previewUrlId : Uuid) (now : Timestamp)

namespace HrpcCall

variable {Text : Type} (fromStr : Text → Option Yaml.Value) (codec : ManifestCodec Text)

/-- The handler of a call, without its answer. -/
def handler (token : Option Uuid) : HrpcCall Text → Hrpc Text PUnit
  | deleteKubeEnvironment orgId environmentId connected notified destroyResult now =>
    HrpcServer.deleteKubeEnvironment token orgId environmentId connected notified destroyResult now
  | updateEnvironmentWorkload outside orgId environmentId workloadId containers now => do
    let _ ← HrpcServer.updateEnvironmentWorkload fromStr codec token outside orgId environmentId
      workloadId containers now
  | deleteEnvironmentWorkload outside orgId environmentId workloadId now =>
    HrpcServer.deleteEnvironmentWorkload token outside orgId environmentId workloadId now
  | createEnvironmentPreviewUrl orgId environmentId request service previewUrlId suffix now => do
    let _ ← HrpcServer.createEnvironmentPreviewUrl token orgId environmentId request service
      previewUrlId suffix now
  | updateEnvironmentPreviewUrl orgId previewUrlId request => do
    let _ ← HrpcServer.updateEnvironmentPreviewUrl token orgId previewUrlId request
  | deleteEnvironmentPreviewUrl orgId previewUrlId now =>
    HrpcServer.deleteEnvironmentPreviewUrl token orgId previewUrlId now

end HrpcCall

end Lapdev
