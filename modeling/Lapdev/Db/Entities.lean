import Lapdev.Catalog.ServicePorts
import Lapdev.Logic.Program
import Lapdev.Sql.Table

/-!
# The tables of catalogs and environments

The rows of `db/entities/src`, with the columns the modelled queries read and write. A column of
JSON holds the value it is serialised from; a column of YAML holds a text of the open type `Text`.
The unique indexes are those of the migrations; with `nulls_not_distinct` the time of deletion is
compared like any other column.
The primary keys of the label, dependency, selector and service rows are random and no query looks
a row up by them, so they are left out.
-/

namespace Lapdev

open RustStd Sql

/-- `DateTimeWithTimeZone`; only the order of times is used. -/
abbrev Timestamp := Int

/-- Source: `common/src/kube.rs`. -/
inductive KubeWorkloadKind
  | deployment | statefulSet | daemonSet | replicaSet | pod | job | cronJob
  deriving DecidableEq, Repr

namespace KubeWorkloadKind

/-- `strum_macros::Display`: the name of the variant. -/
def toString : KubeWorkloadKind → String
  | deployment => "Deployment"
  | statefulSet => "StatefulSet"
  | daemonSet => "DaemonSet"
  | replicaSet => "ReplicaSet"
  | pod => "Pod"
  | job => "Job"
  | cronJob => "CronJob"

/-- `strum_macros::EnumString`: the variant of a name. -/
def parse (s : String) : Option KubeWorkloadKind :=
  if s = "Deployment" then some deployment
  else if s = "StatefulSet" then some statefulSet
  else if s = "DaemonSet" then some daemonSet
  else if s = "ReplicaSet" then some replicaSet
  else if s = "Pod" then some pod
  else if s = "Job" then some job
  else if s = "CronJob" then some cronJob
  else none

/-- A kind is read back from the column it is stored in. -/
@[simp] theorem parse_toString (kind : KubeWorkloadKind) : parse kind.toString = some kind := by
  cases kind <;> rfl

end KubeWorkloadKind

/-- Source: `common/src/kube.rs`. -/
structure KubeEnvVar where
  name : String
  value : String
  deriving DecidableEq, Repr

/-- Source: `common/src/kube.rs`. -/
inductive KubeContainerImage
  | followOriginal
  | custom (image : String)
  deriving DecidableEq, Repr

/-- Source: `common/src/kube.rs`. -/
structure KubeContainerPort where
  name : Option String
  containerPort : Int
  protocol : Option String
  deriving DecidableEq, Repr

/-- Source: `common/src/kube.rs`. -/
structure KubeContainerInfo where
  name : String
  originalImage : String
  image : KubeContainerImage
  cpuRequest : Option String
  cpuLimit : Option String
  memoryRequest : Option String
  memoryLimit : Option String
  envVars : List KubeEnvVar
  originalEnvVars : List KubeEnvVar
  ports : List KubeContainerPort
  deriving DecidableEq, Repr

/-- Source: `common/src/kube.rs`. -/
structure KubeWorkloadDetails (Text : Type) where
  name : String
  «namespace» : String
  kind : KubeWorkloadKind
  containers : List KubeContainerInfo
  ports : List KubeServicePort
  workloadYaml : Text
  baseWorkloadId : Option Uuid

/-- Source: `db/src/api.rs`. -/
structure NewEnvironmentWorkload (Text : Type) where
  id : Uuid
  details : KubeWorkloadDetails Text

/-- Source: `db/entities/src/kube_environment.rs`. -/
structure KubeEnvironment.Model where
  id : Uuid
  deletedAt : Option Timestamp
  organizationId : Uuid
  userId : Uuid
  appCatalogId : Uuid
  clusterId : Uuid
  name : String
  «namespace» : String
  status : String
  isShared : Bool
  catalogSyncVersion : Int
  lastCatalogSyncedAt : Option Timestamp
  syncStatus : String
  baseEnvironmentId : Option Uuid
  authToken : String
  deriving DecidableEq

/-- Source: `db/entities/src/kube_environment_workload.rs`. -/
structure KubeEnvironmentWorkload.Model (Text : Type) where
  id : Uuid
  createdAt : Timestamp
  deletedAt : Option Timestamp
  environmentId : Uuid
  baseWorkloadId : Option Uuid
  name : String
  «namespace» : String
  kind : String
  containers : List KubeContainerInfo
  ports : List KubeServicePort
  workloadYaml : Text
  catalogSyncVersion : Int
  readyReplicas : Option Int

/-- Source: `db/entities/src/kube_environment_workload_label.rs`. -/
structure KubeEnvironmentWorkloadLabel.Model where
  createdAt : Timestamp
  deletedAt : Option Timestamp
  environmentId : Uuid
  workloadId : Uuid
  labelKey : String
  labelValue : String
  deriving DecidableEq, Repr

/-- Source: `db/entities/src/kube_environment_service.rs`. -/
structure KubeEnvironmentService.Model (Text : Type) where
  createdAt : Timestamp
  deletedAt : Option Timestamp
  environmentId : Uuid
  name : String
  «namespace» : String
  yaml : Text
  ports : List KubeServicePort
  selector : HashMap String String

/-- The primary key, and `kube_environment_app_cluster_namespace_unique_idx`, which leaves branch
environments out. -/
instance : Entity KubeEnvironment.Model where
  Conflict r r' := r.id = r'.id ∨
    r.deletedAt = r'.deletedAt ∧ (r.baseEnvironmentId = none ∧ r'.baseEnvironmentId = none) ∧
      r.appCatalogId = r'.appCatalogId ∧ r.clusterId = r'.clusterId ∧
      r.«namespace» = r'.«namespace»
  symm := by
    rintro r r' (h | ⟨h₁, ⟨h₂, h₃⟩, h₄, h₅, h₆⟩)
    · exact .inl h.symm
    · exact .inr ⟨h₁.symm, ⟨h₃, h₂⟩, h₄.symm, h₅.symm, h₆.symm⟩
  dec := fun _ _ => inferInstance

/-- The primary key, and `kube_environment_workload_unique_idx`. -/
instance {Text : Type} : Entity (KubeEnvironmentWorkload.Model Text) where
  Conflict r r' := r.id = r'.id ∨
    r.deletedAt = r'.deletedAt ∧ r.environmentId = r'.environmentId ∧
      r.name = r'.name ∧ r.«namespace» = r'.«namespace» ∧ r.kind = r'.kind
  symm := by
    rintro r r' (h | ⟨h₁, h₂, h₃, h₄, h₅⟩)
    · exact .inl h.symm
    · exact .inr ⟨h₁.symm, h₂.symm, h₃.symm, h₄.symm, h₅.symm⟩
  dec := fun _ _ => inferInstance

/-- `kube_env_workload_label_unique_idx`. -/
instance : Entity KubeEnvironmentWorkloadLabel.Model where
  Conflict r r' := r.deletedAt = r'.deletedAt ∧ r.workloadId = r'.workloadId ∧
    r.labelKey = r'.labelKey
  symm := fun ⟨h₁, h₂, h₃⟩ => ⟨h₁.symm, h₂.symm, h₃.symm⟩
  dec := fun _ _ => inferInstance

/-- `kube_environment_service_unique_idx`. -/
instance {Text : Type} : Entity (KubeEnvironmentService.Model Text) where
  Conflict r r' := r.deletedAt = r'.deletedAt ∧ r.environmentId = r'.environmentId ∧
    r.name = r'.name ∧ r.«namespace» = r'.«namespace»
  symm := fun ⟨h₁, h₂, h₃, h₄⟩ => ⟨h₁.symm, h₂.symm, h₃.symm, h₄.symm⟩
  dec := fun _ _ => inferInstance

/-- Source: `db/entities/src/kube_app_catalog.rs`. -/
structure KubeAppCatalog.Model where
  id : Uuid
  deletedAt : Option Timestamp
  organizationId : Uuid
  name : String
  clusterId : Uuid
  syncVersion : Int
  lastSyncedAt : Option Timestamp
  deriving DecidableEq

/-- Source: `db/entities/src/kube_app_catalog_workload.rs`. -/
structure KubeAppCatalogWorkload.Model (Text : Type) where
  id : Uuid
  createdAt : Timestamp
  deletedAt : Option Timestamp
  appCatalogId : Uuid
  clusterId : Uuid
  name : String
  «namespace» : String
  kind : String
  containers : List KubeContainerInfo
  ports : List KubeServicePort
  workloadYaml : Text
  catalogSyncVersion : Int

/-- Source: `db/entities/src/kube_app_catalog_workload_label.rs`. -/
structure KubeAppCatalogWorkloadLabel.Model where
  createdAt : Timestamp
  deletedAt : Option Timestamp
  appCatalogId : Uuid
  workloadId : Uuid
  clusterId : Uuid
  «namespace» : String
  labelKey : String
  labelValue : String
  deriving DecidableEq, Repr

/-- Source: `db/entities/src/kube_app_catalog_workload_dependency.rs`. -/
structure KubeAppCatalogWorkloadDependency.Model where
  createdAt : Timestamp
  deletedAt : Option Timestamp
  appCatalogId : Uuid
  workloadId : Uuid
  clusterId : Uuid
  «namespace» : String
  resourceName : String
  resourceType : String
  deriving DecidableEq, Repr

/-- The primary key. -/
instance : Entity KubeAppCatalog.Model where
  Conflict r r' := r.id = r'.id
  symm := Eq.symm
  dec := fun _ _ => inferInstance

/-- The primary key, and `kube_app_catalog_workload_unique_idx`. -/
instance {Text : Type} : Entity (KubeAppCatalogWorkload.Model Text) where
  Conflict r r' := r.id = r'.id ∨
    r.deletedAt = r'.deletedAt ∧ r.appCatalogId = r'.appCatalogId ∧
      r.name = r'.name ∧ r.«namespace» = r'.«namespace» ∧ r.kind = r'.kind
  symm := by
    rintro r r' (h | ⟨h₁, h₂, h₃, h₄, h₅⟩)
    · exact .inl h.symm
    · exact .inr ⟨h₁.symm, h₂.symm, h₃.symm, h₄.symm, h₅.symm⟩
  dec := fun _ _ => inferInstance

/-- `IntOrString` of the Kubernetes API. -/
inductive IntOrString
  | int (v : Int)
  | string (s : String)
  deriving DecidableEq, Repr

/-- Source: `db/src/api.rs`, `StoredServicePort`: a port as `handle_service_change` stores it, so
without an original target. -/
structure StoredServicePort where
  name : Option String
  port : Int
  targetPort : Option IntOrString
  protocol : Option String
  nodePort : Option Int
  deriving DecidableEq, Repr

/-- Source: `db/entities/src/kube_cluster_service.rs`. -/
structure KubeClusterService.Model (Text : Type) where
  id : Uuid
  deletedAt : Option Timestamp
  clusterId : Uuid
  «namespace» : String
  name : String
  resourceVersion : String
  serviceYaml : Text
  selector : BTreeMap String String
  ports : List StoredServicePort
  serviceType : Option String
  lastObservedAt : Timestamp

/-- Source: `db/entities/src/kube_cluster_service_selector.rs`. -/
structure KubeClusterServiceSelector.Model where
  createdAt : Timestamp
  deletedAt : Option Timestamp
  clusterId : Uuid
  «namespace» : String
  serviceId : Uuid
  labelKey : String
  labelValue : String
  deriving DecidableEq, Repr

/-- No unique index. -/
instance : Entity KubeAppCatalogWorkloadLabel.Model where
  Conflict _ _ := False
  symm := id
  dec := fun _ _ => inferInstance

/-- No unique index. -/
instance : Entity KubeAppCatalogWorkloadDependency.Model where
  Conflict _ _ := False
  symm := id
  dec := fun _ _ => inferInstance

/-- The primary key, and `kube_cluster_service_cluster_namespace_name_idx`. -/
instance {Text : Type} : Entity (KubeClusterService.Model Text) where
  Conflict r r' := r.id = r'.id ∨
    r.clusterId = r'.clusterId ∧ r.«namespace» = r'.«namespace» ∧ r.name = r'.name
  symm := by
    rintro r r' (h | ⟨h₁, h₂, h₃⟩)
    · exact .inl h.symm
    · exact .inr ⟨h₁.symm, h₂.symm, h₃.symm⟩
  dec := fun _ _ => inferInstance

/-- No unique index. -/
instance : Entity KubeClusterServiceSelector.Model where
  Conflict _ _ := False
  symm := id
  dec := fun _ _ => inferInstance

/-- The tables of `db/entities/src` that belong to catalogs and environments. -/
structure Database (Text : Type) where
  appCatalogs : Table KubeAppCatalog.Model
  catalogWorkloads : Table (KubeAppCatalogWorkload.Model Text)
  catalogWorkloadLabels : Table KubeAppCatalogWorkloadLabel.Model
  catalogWorkloadDependencies : Table KubeAppCatalogWorkloadDependency.Model
  clusterServices : Table (KubeClusterService.Model Text)
  clusterServiceSelectors : Table KubeClusterServiceSelector.Model
  environments : Table KubeEnvironment.Model
  environmentWorkloads : Table (KubeEnvironmentWorkload.Model Text)
  environmentWorkloadLabels : Table KubeEnvironmentWorkloadLabel.Model
  environmentServices : Table (KubeEnvironmentService.Model Text)

/-- The database before the first row. -/
def Database.empty (Text : Type) : Database Text where
  appCatalogs := .empty
  catalogWorkloads := .empty
  catalogWorkloadLabels := .empty
  catalogWorkloadDependencies := .empty
  clusterServices := .empty
  clusterServiceSelectors := .empty
  environments := .empty
  environmentWorkloads := .empty
  environmentWorkloadLabels := .empty
  environmentServices := .empty

/-- Why a query fails: an error of the database, or one of the program's own (`anyhow!`), with the
contexts added to it. -/
inductive QueryErr
  | db (e : DbErr)
  | anyhow (message : String)
  | context (message : String) (source : QueryErr)
  deriving DecidableEq, Repr

/-- A program of statements on the database. -/
abbrev Query (Text α : Type) := Programs.Program (Database Text) QueryErr α

namespace Database

open Programs

variable {Text Row : Type} [Entity Row]

/-- A statement that writes one table. -/
def statement (get : Database Text → Table Row) (set : Database Text → Table Row → Database Text)
    (f : Table Row → Except DbErr (Table Row)) : Query Text PUnit :=
  .write fun db =>
    match f (get db) with
    | .ok t => .ok (set db t)
    | .error e => .error (.db e)

/-- A statement that updates rows of one table and returns the first row it wrote. -/
def returning (get : Database Text → Table Row) (set : Database Text → Table Row → Database Text)
    (p : Row → Bool) (f : Row → Row) : Query Text (Option Row) :=
  .stmt (fun db =>
    match (get db).updateMany p f with
    | .ok t => .ok (((get db).one p).map f, set db t)
    | .error e => .error (.db e)) .done

/-- A statement that succeeds. -/
theorem run_statement_ok {get : Database Text → Table Row}
    {set : Database Text → Table Row → Database Text} {f : Table Row → Except DbErr (Table Row)}
    {db : Database Text} {t : Table Row} (h : f (get db) = .ok t) :
    (statement get set f).run db = (.ok ⟨⟩, set db t) := by
  rw [statement, Program.run_write, h]

/-- An update with a result that succeeds. -/
theorem run_returning_ok {get : Database Text → Table Row}
    {set : Database Text → Table Row → Database Text} {p : Row → Bool} {f : Row → Row}
    {db : Database Text} {t : Table Row} (h : (get db).updateMany p f = .ok t) :
    (returning get set p f).run db = (.ok (((get db).one p).map f), set db t) := by
  rw [returning, Program.run, h]
  rfl

/-- What a statement leaves: the table it wrote, or the database as it was. -/
theorem triple_statement {get : Database Text → Table Row}
    {set : Database Text → Table Row → Database Text} {f : Table Row → Except DbErr (Table Row)}
    {P : Database Text → Prop} {Q : PUnit → Database Text → Prop}
    {E : QueryErr → Database Text → Prop}
    (hok : ∀ db t, P db → f (get db) = .ok t → Q ⟨⟩ (set db t)) (herr : ∀ db e, P db → E e db) :
    Triple P (statement get set f) Q E := by
  refine Triple.write ?_ fun db e hP _ => herr db e hP
  intro db db' hP h
  cases hf : f (get db) with
  | ok t =>
    simp only [hf] at h
    cases h
    exact hok db t hP hf
  | error e =>
    simp only [hf] at h
    cases h

/-- What an update with a result leaves. -/
theorem triple_returning {get : Database Text → Table Row}
    {set : Database Text → Table Row → Database Text} {p : Row → Bool} {f : Row → Row}
    {P : Database Text → Prop} {Q : Option Row → Database Text → Prop}
    {E : QueryErr → Database Text → Prop}
    (hok : ∀ db t, P db → (get db).updateMany p f = .ok t →
      Q (((get db).one p).map f) (set db t)) (herr : ∀ db e, P db → E e db) :
    Triple P (returning get set p f) Q E := by
  intro db hP
  rw [returning, Program.run]
  cases hf : (get db).updateMany p f with
  | ok t => exact hok db t hP hf
  | error e => exact herr db _ hP

/-- A statement moves along a relation that its writes of one table follow. -/
theorem along_statement {R : Database Text → Database Text → Prop} {get : Database Text → Table Row}
    {set : Database Text → Table Row → Database Text} {f : Table Row → Except DbErr (Table Row)}
    (hrefl : ∀ db, R db db) (h : ∀ db t, f (get db) = .ok t → R db (set db t)) :
    Along R (statement get set f) := by
  intro db
  rw [statement, Program.run_write]
  cases hf : f (get db) with
  | ok t => exact h db t hf
  | error e => exact hrefl db

/-- An update with a result moves along a relation that its writes follow. -/
theorem along_returning {R : Database Text → Database Text → Prop} {get : Database Text → Table Row}
    {set : Database Text → Table Row → Database Text} {p : Row → Bool} {f : Row → Row}
    (hrefl : ∀ db, R db db) (h : ∀ db t, (get db).updateMany p f = .ok t → R db (set db t)) :
    Along R (returning get set p f) := by
  intro db
  rw [returning, Program.run]
  cases hf : (get db).updateMany p f with
  | ok t => exact h db t hf
  | error e => exact hrefl db

/-- A statement on the table of catalogs. -/
def onAppCatalogs : (Table KubeAppCatalog.Model → Except DbErr (Table KubeAppCatalog.Model)) →
    Query Text PUnit :=
  statement (·.appCatalogs) fun db t => { db with appCatalogs := t }

/-- A statement on the table of catalog workloads. -/
def onCatalogWorkloads : (Table (KubeAppCatalogWorkload.Model Text) →
    Except DbErr (Table (KubeAppCatalogWorkload.Model Text))) → Query Text PUnit :=
  statement (·.catalogWorkloads) fun db t => { db with catalogWorkloads := t }

/-- A statement on the table of catalog workload labels. -/
def onCatalogWorkloadLabels : (Table KubeAppCatalogWorkloadLabel.Model →
    Except DbErr (Table KubeAppCatalogWorkloadLabel.Model)) → Query Text PUnit :=
  statement (·.catalogWorkloadLabels) fun db t => { db with catalogWorkloadLabels := t }

/-- A statement on the table of catalog workload dependencies. -/
def onCatalogWorkloadDependencies : (Table KubeAppCatalogWorkloadDependency.Model →
    Except DbErr (Table KubeAppCatalogWorkloadDependency.Model)) → Query Text PUnit :=
  statement (·.catalogWorkloadDependencies) fun db t => { db with catalogWorkloadDependencies := t }

/-- A statement on the table of cluster services. -/
def onClusterServices : (Table (KubeClusterService.Model Text) →
    Except DbErr (Table (KubeClusterService.Model Text))) → Query Text PUnit :=
  statement (·.clusterServices) fun db t => { db with clusterServices := t }

/-- A statement on the table of cluster service selectors. -/
def onClusterServiceSelectors : (Table KubeClusterServiceSelector.Model →
    Except DbErr (Table KubeClusterServiceSelector.Model)) → Query Text PUnit :=
  statement (·.clusterServiceSelectors) fun db t => { db with clusterServiceSelectors := t }

/-- A statement on the table of environments. -/
def onEnvironments : (Table KubeEnvironment.Model → Except DbErr (Table KubeEnvironment.Model)) →
    Query Text PUnit :=
  statement (·.environments) fun db t => { db with environments := t }

/-- A statement on the table of environment workloads. -/
def onEnvironmentWorkloads : (Table (KubeEnvironmentWorkload.Model Text) →
    Except DbErr (Table (KubeEnvironmentWorkload.Model Text))) → Query Text PUnit :=
  statement (·.environmentWorkloads) fun db t => { db with environmentWorkloads := t }

/-- A statement on the table of environment workload labels. -/
def onEnvironmentWorkloadLabels : (Table KubeEnvironmentWorkloadLabel.Model →
    Except DbErr (Table KubeEnvironmentWorkloadLabel.Model)) → Query Text PUnit :=
  statement (·.environmentWorkloadLabels) fun db t => { db with environmentWorkloadLabels := t }

theorem run_onEnvironmentWorkloadLabels_ok {f : Table KubeEnvironmentWorkloadLabel.Model →
    Except DbErr (Table KubeEnvironmentWorkloadLabel.Model)} {db : Database Text}
    {t : Table KubeEnvironmentWorkloadLabel.Model} (h : f db.environmentWorkloadLabels = .ok t) :
    (onEnvironmentWorkloadLabels f).run db =
      (.ok ⟨⟩, { db with environmentWorkloadLabels := t }) := by
  rw [onEnvironmentWorkloadLabels, run_statement_ok h]

/-- A statement on the table of environment services. -/
def onEnvironmentServices : (Table (KubeEnvironmentService.Model Text) →
    Except DbErr (Table (KubeEnvironmentService.Model Text))) → Query Text PUnit :=
  statement (·.environmentServices) fun db t => { db with environmentServices := t }

end Database

end Lapdev
