import Lapdev.Api.BranchEnvironments
import Lapdev.Logic.Firsts

/-!
# What containers run with, from catalog to branch

A container runs with its original variables overridden by its own (`envTable`), and with its
customized image or else the original one. A new environment and a new override take the variables
of the source as the original ones and drop those that were original before:
`promotion_faithful_iff` says when the effect is kept by either step, and when a rebase changes it
only where the branch or the base did.
-/

namespace Lapdev

open RustStd

namespace KubeController

variable {Text : Type}

/-- The variables a container runs with. -/
def effectiveEnv (container : KubeContainerInfo) (name : String) : Option String :=
  (envTable container).lookup name

/-- The image a container runs. -/
def effectiveImage (container : KubeContainerInfo) : String :=
  match container.image with
  | .followOriginal => container.originalImage
  | .custom image => image

/-- A container runs with what its source runs with. -/
structure SameEffect (source derived : KubeContainerInfo) : Prop where
  env : effectiveEnv derived = effectiveEnv source
  image : effectiveImage derived = effectiveImage source

/-- There is a variable of a name. -/
def HasVariable (vars : List KubeEnvVar) (name : String) : Prop := ∃ var ∈ vars, var.name = name

/-- Every original variable is overridden. -/
def Covered (container : KubeContainerInfo) : Prop :=
  ∀ var ∈ container.originalEnvVars, HasVariable container.envVars var.name

/-- A container of an override, after the branch has customized it. -/
structure Customizes (built override : KubeContainerInfo) : Prop where
  name : override.name = built.name
  originalImage : override.originalImage = built.originalImage
  originalEnvVars : override.originalEnvVars = built.originalEnvVars

/-- The containers of a name in the base as the override was built from it, and in the override. -/
def Overrides (base branch : List KubeContainerInfo) (name : String)
    (before override : KubeContainerInfo) : Prop :=
  base.find? (fun container => container.name = name) = some before ∧
    branch.find? (fun container => container.name = name) = some override

/-- Where the base has not changed what a container runs with, the rebased container runs with what
the override has run with. -/
def RebasedFrom (base branch : List KubeContainerInfo) (container rebased : KubeContainerInfo) :
    Prop :=
  ∀ before override, Overrides base branch container.name before override →
    ∀ name, effectiveEnv container name = effectiveEnv before name →
      effectiveEnv rebased name = effectiveEnv override name

/-- What the branch has not overridden and the base has not changed is overridden by the base before
and after, or by neither. -/
def OverriddenAlike (base branch : List KubeContainerInfo) (container : KubeContainerInfo) : Prop :=
  ∀ before override, Overrides base branch container.name before override →
    ∀ name, ¬HasVariable override.envVars name → effectiveEnv container name = effectiveEnv before name →
      (HasVariable before.envVars name ↔ HasVariable container.envVars name)

/-! ## Variables by name -/

/-- The value of the last variable of a name. -/
def valueIn (vars : List KubeEnvVar) (name : String) : Option String :=
  (HashTable.collect (vars.map fun var => (var.name, var.value))).lookup name

/-- Nothing has a value among no variables. -/
theorem valueIn_nil (name : String) : valueIn [] name = none := rfl

/-- The last value of a name counts. -/
theorem valueIn_append (vars vars' : List KubeEnvVar) (name : String) :
    valueIn (vars ++ vars') name = (valueIn vars' name).or (valueIn vars name) := by
  rw [valueIn, valueIn, valueIn, HashTable.lookup_collect, HashTable.lookup_collect,
    HashTable.lookup_collect, List.map_append, List.reverse_append, List.find?_append, Option.map_or]

/-- A name has no value exactly if no variable has it. -/
theorem valueIn_eq_none {vars : List KubeEnvVar} {name : String} :
    valueIn vars name = none ↔ ¬HasVariable vars name := by
  rw [valueIn, HashTable.lookup_collect, Option.map_eq_none_iff, List.find?_eq_none]
  simp [HasVariable]

/-- Its own variables come first. -/
theorem effectiveEnv_eq (container : KubeContainerInfo) (name : String) :
    effectiveEnv container name =
      (valueIn container.envVars name).or (valueIn container.originalEnvVars name) :=
  valueIn_append container.originalEnvVars container.envVars name

/-! ## The two steps -/

/-- A new environment or override runs with the variables that were not original. -/
theorem effectiveEnv_environmentContainer (container : KubeContainerInfo) (name : String) :
    effectiveEnv (environmentContainer container) name = valueIn container.envVars name := by
  rw [effectiveEnv_eq, environmentContainer]
  cases container.image <;> rw [valueIn_nil, Option.none_or]

/-- An environment runs the image of the catalog. -/
theorem effectiveImage_environmentContainer (container : KubeContainerInfo) :
    effectiveImage (environmentContainer container) = effectiveImage container := by
  unfold effectiveImage environmentContainer
  cases container.image <;> rfl

/-- A container keeps its name. -/
theorem name_environmentContainer (container : KubeContainerInfo) :
    (environmentContainer container).name = container.name := by
  unfold environmentContainer
  cases container.image <;> rfl

/-- The variables of the source become the original ones. -/
theorem originalEnvVars_environmentContainer (container : KubeContainerInfo) :
    (environmentContainer container).originalEnvVars = container.envVars := by
  unfold environmentContainer
  cases container.image <;> rfl

/-- The effect is kept if every original variable is overridden. -/
theorem sameEffect_environmentContainer_iff (container : KubeContainerInfo) :
    SameEffect container (environmentContainer container) ↔ Covered container := by
  constructor
  · intro h var hvar
    have hname := congrFun h.env var.name
    rw [effectiveEnv_environmentContainer, effectiveEnv_eq] at hname
    by_contra hnot
    rw [valueIn_eq_none.2 hnot, Option.none_or] at hname
    exact valueIn_eq_none.1 hname.symm ⟨var, hvar, rfl⟩
  · intro h
    refine ⟨funext fun name => ?_, effectiveImage_environmentContainer container⟩
    rw [effectiveEnv_environmentContainer, effectiveEnv_eq]
    cases hvalue : valueIn container.envVars name with
    | some value => rfl
    | none =>
      have horiginal : valueIn container.originalEnvVars name = none := by
        refine valueIn_eq_none.2 ?_
        rintro ⟨var, hvar, rfl⟩
        exact valueIn_eq_none.1 hvalue (h var hvar)
      rw [horiginal, Option.or_none]

/-- A copy runs as its source exactly if every original variable is overridden. -/
theorem keepsEffects_iff (containers : List KubeContainerInfo) :
    List.Forall₂ SameEffect containers (containers.map environmentContainer) ↔
      ∀ container ∈ containers, Covered container := by
  rw [List.forall₂_map_right_iff, List.forall₂_same]
  exact forall₂_congr fun container _ => sameEffect_environmentContainer_iff container

/-- Workloads that are prepared have the containers of their sources. -/
theorem keepsEffects_prepared_iff {workloads : List (KubeAppCatalogWorkload Text)}
    {details : List (NewEnvironmentWorkload Text)}
    (h : List.Forall₂ (fun workload detail =>
      detail.details.containers = workload.containers.map environmentContainer) workloads details) :
    List.Forall₂ (fun workload detail =>
        List.Forall₂ SameEffect workload.containers detail.details.containers) workloads details ↔
      ∀ workload ∈ workloads, ∀ container ∈ workload.containers, Covered container := by
  induction h with
  | nil => simp
  | @cons workload detail workloads details hcontainers _ ih =>
    rw [List.forall₂_cons, List.forall_mem_cons, ih, hcontainers, keepsEffects_iff]

/-- The containers of a prepared workload. -/
theorem containers_prepareWorkloadDetail {codec : ManifestCodec Text} {«namespace» : String}
    {envWorkloadIds : HashTable Uuid Uuid} {workload : KubeAppCatalogWorkload Text}
    {detail : NewEnvironmentWorkload Text}
    (h : prepareWorkloadDetail codec «namespace» envWorkloadIds workload = .ok detail) :
    detail.details.containers = workload.containers.map environmentContainer := by
  unfold prepareWorkloadDetail at h
  split at h
  · cases h
  split at h
  · cases h
  · cases h
    rfl

/-- The containers of a branch workload. -/
theorem containers_buildBranchWorkloadDetails {codec : ManifestCodec Text} {newId : Uuid}
    {workload : KubeEnvironmentWorkload.Model Text} {«namespace» : String}
    {branchEnvironmentId : Uuid} {built : NewEnvironmentWorkload Text × String}
    (h : buildBranchWorkloadDetails codec newId workload «namespace» branchEnvironmentId =
      .ok built) :
    built.1.details.containers = workload.containers.map environmentContainer := by
  unfold buildBranchWorkloadDetails at h
  split at h
  · cases h
  split at h
  · cases h
  · obtain ⟨sanitizedYaml, -, h⟩ := Result.bind_eq_ok.1 h
    obtain ⟨workloadYaml, -, rfl⟩ := Result.map_eq_ok.1 h
    rfl

/-! ## Rebases -/

/-- An override has the variables of the base it was built from as original ones. -/
theorem originalEnvVars_of_overrides {base branch : List KubeContainerInfo} {name : String}
    {before override : KubeContainerInfo}
    (hbranch : List.Forall₂ Customizes (base.map branchContainer) branch)
    (h : Overrides base branch name before override) :
    override.originalEnvVars = before.envVars := by
  rw [List.forall₂_map_left_iff] at hbranch
  have hname : ∀ container override, Customizes (branchContainer container) override →
      decide (container.name = name) = decide (override.name = name) := by
    intro container override hc
    rw [hc.name, branchContainer, name_environmentContainer]
  rcases Lists.find?_of_forall₂ hname hbranch with ⟨hnone, -⟩ | ⟨container, override', hc, ho, hr⟩
  · rw [h.1] at hnone
    cases hnone
  · cases h.1.symm.trans hc
    cases h.2.symm.trans ho
    rw [hr.originalEnvVars, branchContainer, originalEnvVars_environmentContainer]

/-- A rebased container has the variables of the override and of the new base. -/
theorem effectiveEnv_rebased {branch : List KubeContainerInfo} {container override : KubeContainerInfo}
    (h : branch.find? (fun other => other.name = container.name) = some override) (name : String) :
    effectiveEnv (mergeBranchContainer branch (branchContainer container)) name =
      (valueIn override.envVars name).or (valueIn container.envVars name) := by
  rw [effectiveEnv_eq, mergeBranchContainer, branchContainer, name_environmentContainer, h]
  dsimp only
  rw [originalEnvVars_environmentContainer]

/-- A rebase brings the changes of the base exactly if its overrides are alike. -/
theorem rebasedFrom_iff {base branch : List KubeContainerInfo}
    (hbranch : List.Forall₂ Customizes (base.map branchContainer) branch)
    (container : KubeContainerInfo) :
    RebasedFrom base branch container (mergeBranchContainer branch (branchContainer container)) ↔
      OverriddenAlike base branch container := by
  refine forall₂_congr fun before override => forall_congr' fun hoverrides =>
    forall_congr' fun name => ?_
  rw [effectiveEnv_rebased hoverrides.2, effectiveEnv_eq override,
    originalEnvVars_of_overrides hbranch hoverrides]
  cases hvalue : valueIn override.envVars name with
  | some value =>
    have hdeclares : HasVariable override.envVars name := by
      by_contra hnot
      rw [valueIn_eq_none.2 hnot] at hvalue
      cases hvalue
    simp [hdeclares]
  | none =>
    have hnot := valueIn_eq_none.1 hvalue
    simp only [Option.none_or, hnot, not_false_eq_true, forall_const]
    refine forall_congr' fun hsame => ?_
    rw [effectiveEnv_eq, effectiveEnv_eq] at hsame
    have hdeclares : (HasVariable before.envVars name ↔ HasVariable container.envVars name) ↔
        (valueIn before.envVars name = none ↔ valueIn container.envVars name = none) := by
      rw [valueIn_eq_none, valueIn_eq_none, not_iff_not]
    rw [hdeclares]
    cases hbefore : valueIn before.envVars name with
    | none => simp
    | some value =>
      cases hafter : valueIn container.envVars name with
      | none => simp
      | some value' =>
        rw [hbefore, hafter] at hsame
        simpa using hsame

/-- **Promotion keeps what containers run with** exactly if every original variable of the source is
overridden, from catalog to environment and from base to branch; and a rebase changes it only where
the branch or the base did, exactly if the base overrides what it has not changed before and after
or neither. -/
theorem promotion_faithful_iff (codec : ManifestCodec Text) :
    (∀ workloads «namespace» envWorkloadIds details,
      prepareWorkloadDetailsFromCatalog codec workloads «namespace» envWorkloadIds = .ok details →
        (List.Forall₂ (fun (workload : KubeAppCatalogWorkload Text) detail =>
            List.Forall₂ SameEffect workload.containers detail.details.containers)
            workloads details ↔
          ∀ workload ∈ workloads, ∀ container ∈ workload.containers, Covered container)) ∧
    (∀ newId (workload : KubeEnvironmentWorkload.Model Text) «namespace» branchEnvironmentId built,
      buildBranchWorkloadDetails codec newId workload «namespace» branchEnvironmentId = .ok built →
        (List.Forall₂ SameEffect workload.containers built.1.details.containers ↔
          ∀ container ∈ workload.containers, Covered container)) ∧
    ∀ base branch, List.Forall₂ Customizes (base.map branchContainer) branch → ∀ rebase,
      (List.Forall₂ (RebasedFrom base branch) rebase
          (mergeBranchContainers (rebase.map branchContainer) branch) ↔
        ∀ container ∈ rebase, OverriddenAlike base branch container) := by
  refine ⟨fun workloads name ids details h => ?_, fun newId workload name branchId built h => ?_,
    fun base branch hbranch rebase => ?_⟩
  · refine keepsEffects_prepared_iff ((Result.collect_map_eq_ok.1 h).imp fun workload detail h => ?_)
    exact containers_prepareWorkloadDetail h
  · rw [containers_buildBranchWorkloadDetails h, keepsEffects_iff]
  · rw [mergeBranchContainers, List.map_map, List.forall₂_map_right_iff, List.forall₂_same]
    exact forall₂_congr fun container _ => rebasedFrom_iff hbranch container

/-! ## A branch of an environment with variables -/

/-- A container with own and original variables. -/
def webContainer (envVars originalEnvVars : List KubeEnvVar) : KubeContainerInfo where
  name := "web"
  originalImage := "nginx"
  image := .followOriginal
  cpuRequest := none
  cpuLimit := none
  memoryRequest := none
  memoryLimit := none
  envVars := envVars
  originalEnvVars := originalEnvVars
  ports := []

/-- The workload `web` of a catalog. -/
def catalogWeb (container : KubeContainerInfo) : KubeAppCatalogWorkload Document where
  id := 11
  name := "web"
  «namespace» := "prod"
  kind := .deployment
  containers := [container]
  ports := []
  workloadYaml := .workload .deployment ⟨⟨some "web", none, []⟩, none, none⟩
  catalogSyncVersion := 0

/-- Its row in the environment `5`. -/
def baseWeb (container : KubeContainerInfo) : KubeEnvironmentWorkload.Model Document where
  id := 21
  createdAt := 1
  deletedAt := none
  environmentId := 5
  baseWorkloadId := some 21
  name := "web"
  «namespace» := "prod"
  kind := "Deployment"
  containers := [container]
  ports := []
  workloadYaml := .workload .deployment ⟨⟨some "web", none, []⟩, none, none⟩
  catalogSyncVersion := 0
  readyReplicas := none

/-- The variables of a catalog, and those a base overrides, reach the environment and the branch, and
a new value of the base the rebased branch. -/
theorem promotion_faithful_web :
    (∃ details, prepareWorkloadDetailsFromCatalog Document.codec
        [catalogWeb (webContainer [⟨"MODE", "prod"⟩] [])] "dev" (HashTable.collect [(11, 21)]) =
          .ok details ∧
      List.Forall₂ (fun (workload : KubeAppCatalogWorkload Document) detail =>
        List.Forall₂ SameEffect workload.containers detail.details.containers)
        [catalogWeb (webContainer [⟨"MODE", "prod"⟩] [])] details) ∧
    (∃ built, buildBranchWorkloadDetails Document.codec 31
        (baseWeb (webContainer [⟨"MODE", "test"⟩] [⟨"MODE", "prod"⟩])) "dev" 6 = .ok built ∧
      List.Forall₂ SameEffect [webContainer [⟨"MODE", "test"⟩] [⟨"MODE", "prod"⟩]]
        built.1.details.containers) ∧
    List.Forall₂ (RebasedFrom [webContainer [⟨"MODE", "test"⟩] []]
        [webContainer [⟨"DEBUG", "1"⟩] [⟨"MODE", "test"⟩]])
      [webContainer [⟨"MODE", "test"⟩] [⟨"MODE", "prod"⟩]]
      (mergeBranchContainers
        ([webContainer [⟨"MODE", "test"⟩] [⟨"MODE", "prod"⟩]].map branchContainer)
        [webContainer [⟨"DEBUG", "1"⟩] [⟨"MODE", "test"⟩]]) := by
  obtain ⟨hcatalog, hbranch, hrebase⟩ := promotion_faithful_iff Document.codec
  obtain ⟨details, hdetails⟩ : ∃ details, prepareWorkloadDetailsFromCatalog Document.codec
      [catalogWeb (webContainer [⟨"MODE", "prod"⟩] [])] "dev" (HashTable.collect [(11, 21)]) =
        .ok details := ⟨_, rfl⟩
  obtain ⟨built, hbuilt⟩ : ∃ built, buildBranchWorkloadDetails Document.codec 31
      (baseWeb (webContainer [⟨"MODE", "test"⟩] [⟨"MODE", "prod"⟩])) "dev" 6 = .ok built := ⟨_, rfl⟩
  refine ⟨⟨details, hdetails, (hcatalog _ _ _ _ hdetails).2 ?_⟩,
    ⟨built, hbuilt, (hbranch _ _ _ _ _ hbuilt).2 ?_⟩,
    (hrebase _ _ (.cons ⟨rfl, rfl, rfl⟩ .nil) _).2 ?_⟩
  · simp [catalogWeb, webContainer, Covered]
  · simp [baseWeb, webContainer, Covered, HasVariable]
  · rintro container hcontainer before override ⟨hbefore, -⟩ name - -
    cases List.mem_singleton.1 hcontainer
    cases hbefore
    exact Iff.rfl

/-- The variable of the catalog is lost in a branch of the environment. -/
theorem branch_loses_variable :
    ¬∀ newId (workload : KubeEnvironmentWorkload.Model Document) «namespace» branchEnvironmentId
      built, buildBranchWorkloadDetails Document.codec newId workload «namespace»
        branchEnvironmentId = .ok built →
          List.Forall₂ SameEffect workload.containers built.1.details.containers := by
  intro h
  have hbuilt : ∃ built, buildBranchWorkloadDetails Document.codec 31
      (baseWeb (environmentContainer (webContainer [⟨"MODE", "prod"⟩] []))) "dev" 6 = .ok built :=
    ⟨_, rfl⟩
  obtain ⟨built, hbuilt⟩ := hbuilt
  have hkeeps := h _ _ _ _ _ hbuilt
  rw [containers_buildBranchWorkloadDetails hbuilt] at hkeeps
  have henv := congrFun (List.forall₂_cons.1 hkeeps).1.env "MODE"
  revert henv
  decide

end KubeController

end Lapdev
