import Lapdev.Api.BranchEnvironments
import Lapdev.Api.EnvironmentDeletion

/-!
# Pause and resume

`run_pause_environment` and `run_resume_environment` of `kube_controller/environment.rs`. Both deploy
the stored manifests of an environment again, with fixed values in the fields that stop a workload
and start it. `replays_iff` says of which stored manifests a resume after a pause deploys what is
stored.
-/

namespace Lapdev

open RustStd Sql Programs

variable {Text : Type} (codec : ManifestCodec Text)

/-! ## Rewriting a manifest -/

/-- A manifest is parsed, its spec is rewritten, and it is written again. -/
def ManifestCodec.rewriteSpec (kind : KubeWorkloadKind) (f : kind.Spec → kind.Spec) (yaml : Text) :
    Except String (KubeWorkloadKind × Text) :=
  (codec.fromStr kind yaml).map fun manifest =>
    (kind, codec.toString { manifest with spec := manifest.spec.map f })

/-- Source: `resources.rs`. -/
def setWorkloadReplicas (workload : KubeWorkloadKind × Text) (replicas : Int) :
    Except String (KubeWorkloadKind × Text) :=
  match workload with
  | (.deployment, yaml) =>
    codec.rewriteSpec .deployment (fun spec => { spec with replicas := some replicas }) yaml
  | (.statefulSet, yaml) =>
    codec.rewriteSpec .statefulSet (fun spec => { spec with replicas := some replicas }) yaml
  | (.replicaSet, yaml) =>
    codec.rewriteSpec .replicaSet (fun spec => { spec with replicas := some replicas }) yaml
  | _ => .ok workload

/-- Source: `resources.rs`. -/
def setCronjobSuspend (workload : KubeWorkloadKind × Text) (suspend : Bool) :
    Except String (KubeWorkloadKind × Text) :=
  match workload with
  | (.cronJob, yaml) =>
    codec.rewriteSpec .cronJob (fun spec => { spec with suspend := some suspend }) yaml
  | _ => .ok workload

/-- The label of no node, which a paused DaemonSet selects. -/
def pausedLabel : String := "lapdev.io/paused"

/-- What `set_daemonset_paused` does to a pod spec. -/
def setPodPaused (paused : Bool) (podSpec : PodSpec) : PodSpec :=
  let selector := podSpec.nodeSelector.getD ∅
  if paused then { podSpec with nodeSelector := some (selector.insert pausedLabel "true") }
  else
    let selector := selector.erase pausedLabel
    { podSpec with nodeSelector := if selector.entries.isEmpty then none else some selector }

/-- Source: `resources.rs`. -/
def setDaemonsetPaused (workload : KubeWorkloadKind × Text) (paused : Bool) :
    Except String (KubeWorkloadKind × Text) :=
  match workload with
  | (.daemonSet, yaml) =>
    codec.rewriteSpec .daemonSet (fun spec =>
      { spec with template :=
        { spec.template with spec := spec.template.spec.map (setPodPaused paused) } }) yaml
  | _ => .ok workload

/-- The loop body of `run_pause_environment` and of `run_resume_environment`. -/
def Toggle.rewriteWorkload (workload : KubeWorkloadKind × Text) :
    Toggle → Except String (KubeWorkloadKind × Text)
  | pause =>
    match workload.1 with
    | .cronJob => setCronjobSuspend codec workload true
    | .deployment | .statefulSet | .replicaSet => setWorkloadReplicas codec workload 0
    | .daemonSet => setDaemonsetPaused codec workload true
    | .pod | .job => .ok workload
  | resume =>
    match workload.1 with
    | .cronJob => setCronjobSuspend codec workload false
    | .deployment | .statefulSet | .replicaSet => setWorkloadReplicas codec workload 1
    | .daemonSet => setDaemonsetPaused codec workload false
    | .pod | .job => .ok workload

/-- A workload that cannot be rewritten is deployed as it is. -/
def Toggle.rewriteWorkloads (toggle : Toggle) (workloads : List (KubeWorkloadKind × Text)) :
    List (KubeWorkloadKind × Text) :=
  workloads.map fun workload =>
    match toggle.rewriteWorkload codec workload with
    | .ok rewritten => rewritten
    | .error _ => workload

namespace KubeController

/-! ## The tasks -/

/-- The stored workloads of an environment. -/
def storedWorkloads (db : Database Text) (environmentId : Uuid) :
    List (KubeEnvironmentWorkload.Model Text) :=
  db.environmentWorkloads.select fun row => row.environmentId = environmentId && row.deletedAt = none

/-- The loop body of `assemble_environment_workloads`. -/
def assembleWorkload (environmentId : Uuid) (workload : KubeEnvironmentWorkload.Model Text) :
    Except ApiError (KubeWorkloadKind × Text) :=
  match KubeWorkloadKind.parse workload.kind with
  | some kind => .ok (kind, workload.workloadYaml)
  | none =>
    .error (.invalidRequest ("Invalid workload kind " ++ workload.kind ++ " for environment " ++
      environmentId.hyphenated))

/-- Source: `environment.rs`. -/
def assembleEnvironmentWorkloads (environment : KubeEnvironment.Model) :
    Call Text (List (KubeWorkloadKind × Text)) := do
  let stored ← (DbApi.getEnvironmentWorkloads environment.id).mapError .internalError
  if stored.isEmpty || stored.any fun workload => codec.isBlank workload.workloadYaml then
    .fail (.invalidRequest "Environment workloads are missing stored manifests")
  else Program.ofExcept (Result.collect (stored.map (assembleWorkload environment.id)))

/-- Source: `deployment.rs`, `deploy_environment_resources` on stored manifests. -/
def deployStoredResources (environment : KubeEnvironment.Model)
    (workloads : List (KubeWorkloadKind × Text)) (deployment : Except ApiError PUnit) :
    Except ApiError PUnit :=
  if workloads.isEmpty then .ok ⟨⟩ else deployWorkload environment deployment

/-- What a task gets from outside. -/
structure ToggleOutside (Text : Type) where
  connected : Bool
  deployment : List (KubeWorkloadKind × Text) → Except ApiError PUnit

/-- A task, with the workloads that it deploys. -/
def runToggle (toggle : Toggle) (outside : ToggleOutside Text) (environmentId : Uuid) :
    Call Text (List (KubeWorkloadKind × Text)) := do
  let found ← (DbApi.getKubeEnvironment environmentId).mapError .internalError
  let environment ← Program.orFail found (.invalidRequest "Environment not found")
  if !outside.connected then
    .fail (.invalidRequest "No connected KubeManager for the environment target cluster")
  else do
    let assembled ← assembleEnvironmentWorkloads codec environment
    let workloads := toggle.rewriteWorkloads codec assembled
    let _ ← Program.ofExcept
      (deployStoredResources environment workloads (outside.deployment workloads))
    updateEnvironmentStatus environment.id toggle.done
    pure workloads

/-- Source: `environment.rs`. -/
def runPauseEnvironment : ToggleOutside Text → Uuid → Call Text (List (KubeWorkloadKind × Text)) :=
  runToggle codec .pause

/-- Source: `environment.rs`. -/
def runResumeEnvironment : ToggleOutside Text → Uuid → Call Text (List (KubeWorkloadKind × Text)) :=
  runToggle codec .resume

end KubeController

/-! ## What manifests mean -/

/-- Selectors with the same requirements: no selector is the empty one. -/
def SameSelector (selector selector' : Option (BTreeMap String String)) : Prop :=
  (selector.getD ∅).toFinmap = (selector'.getD ∅).toFinmap

/-- Pod specs that mean the same. -/
def PodSpec.Same (podSpec podSpec' : PodSpec) : Prop :=
  SameSelector podSpec.nodeSelector podSpec'.nodeSelector ∧
    { podSpec with nodeSelector := none } = { podSpec' with nodeSelector := none }

/-- Pod templates that mean the same. -/
def PodTemplateSpec.Same (template template' : PodTemplateSpec) : Prop :=
  template.metadata = template'.metadata ∧ Option.Rel PodSpec.Same template.spec template'.spec

/-- Specs of Jobs that mean the same. -/
def JobSpec.Same (spec spec' : JobSpec) : Prop :=
  spec.selector = spec'.selector ∧ spec.template.Same spec'.template ∧ spec.others = spec'.others

/-- Specs that mean the same: a workload has one replica and a CronJob is not suspended where the
spec does not say so. -/
def KubeWorkloadKind.SameSpec : (kind : KubeWorkloadKind) → kind.Spec → kind.Spec → Prop
  | deployment, spec, spec' => spec.replicas.getD 1 = spec'.replicas.getD 1 ∧
      spec.selector = spec'.selector ∧ spec.template.Same spec'.template ∧ spec.others = spec'.others
  | statefulSet, spec, spec' => spec.replicas.getD 1 = spec'.replicas.getD 1 ∧
      spec.selector = spec'.selector ∧ spec.template.Same spec'.template ∧ spec.others = spec'.others
  | daemonSet, spec, spec' =>
      spec.selector = spec'.selector ∧ spec.template.Same spec'.template ∧ spec.others = spec'.others
  | replicaSet, spec, spec' => spec.replicas.getD 1 = spec'.replicas.getD 1 ∧
      spec.selector = spec'.selector ∧ Option.Rel PodTemplateSpec.Same spec.template spec'.template ∧
      spec.others = spec'.others
  | pod, spec, spec' => spec.Same spec'
  | job, spec, spec' => spec.Same spec'
  | cronJob, spec, spec' => spec.suspend.getD false = spec'.suspend.getD false ∧
      spec.jobTemplate.metadata = spec'.jobTemplate.metadata ∧
      Option.Rel JobSpec.Same spec.jobTemplate.spec spec'.jobTemplate.spec ∧
      spec.others = spec'.others

/-- Manifests that mean the same. -/
def SameManifest {kind : KubeWorkloadKind} (manifest manifest' : Manifest kind) : Prop :=
  manifest.metadata = manifest'.metadata ∧
    Option.Rel kind.SameSpec manifest.spec manifest'.spec ∧ manifest.status = manifest'.status

theorem optionRel_refl {α : Type*} {R : α → α → Prop} (h : ∀ a, R a a) (o : Option α) :
    Option.Rel R o o := by
  cases o with
  | none => exact .none
  | some a => exact .some (h a)

theorem PodTemplateSpec.Same.refl (template : PodTemplateSpec) : template.Same template :=
  ⟨rfl, optionRel_refl (fun _ => ⟨rfl, rfl⟩) _⟩

/-- What a resume does to a spec. -/
def KubeWorkloadKind.resumed : (kind : KubeWorkloadKind) → kind.Spec → kind.Spec
  | deployment, spec => { spec with replicas := some 1 }
  | statefulSet, spec => { spec with replicas := some 1 }
  | daemonSet, spec =>
    { spec with template :=
      { spec.template with spec := spec.template.spec.map (setPodPaused false) } }
  | replicaSet, spec => { spec with replicas := some 1 }
  | pod, spec => spec
  | job, spec => spec
  | cronJob, spec => { spec with suspend := some false }

/-- What a rebuild leaves of a spec: one replica. -/
def KubeWorkloadKind.Rebuilt : (kind : KubeWorkloadKind) → kind.Spec → Prop
  | deployment, spec => spec.replicas = some 1
  | statefulSet, spec => spec.replicas = some 1
  | replicaSet, spec => spec.replicas = some 1
  | _, _ => True

/-- A CronJob that is not suspended, and a DaemonSet that does not select the label of a pause. -/
def KubeWorkloadKind.Resumable : (kind : KubeWorkloadKind) → kind.Spec → Prop
  | daemonSet, spec =>
    ∀ podSpec, spec.template.spec = some podSpec → pausedLabel ∉ podSpec.nodeSelector.getD ∅
  | cronJob, spec => spec.suspend ≠ some true
  | _, _ => True

/-- A selector without the label of a pause is what a resume leaves of it. -/
theorem same_setPodPaused_iff (podSpec : PodSpec) :
    (setPodPaused false podSpec).Same podSpec ↔ pausedLabel ∉ podSpec.nodeSelector.getD ∅ := by
  have hselector : (setPodPaused false podSpec).nodeSelector.getD ∅ =
      (podSpec.nodeSelector.getD ∅).erase pausedLabel := by
    change Option.getD (if _ then none else some _) ∅ = _
    split
    · next hempty => exact AList.ext (List.isEmpty_iff.1 hempty).symm
    · rfl
  rw [PodSpec.Same, SameSelector, hselector]
  constructor
  · rintro ⟨hsame, -⟩ hmem
    have hmem' := Finmap.mem_toFinmap.2 hmem
    rw [← hsame, Finmap.mem_toFinmap, AList.mem_erase] at hmem'
    exact hmem'.1 rfl
  · intro hmem
    have herase : (podSpec.nodeSelector.getD ∅).erase pausedLabel = podSpec.nodeSelector.getD ∅ :=
      AList.ext (List.kerase_of_notMem_keys hmem)
    exact ⟨congrArg AList.toFinmap herase, rfl⟩

/-- A rebuilt spec means what a resume makes of it exactly if it is resumable. -/
theorem same_resumed_iff {kind : KubeWorkloadKind} {spec : kind.Spec} (h : kind.Rebuilt spec) :
    kind.SameSpec (kind.resumed spec) spec ↔ kind.Resumable spec := by
  cases kind with
  | deployment | statefulSet =>
    refine iff_of_true ⟨?_, rfl, .refl _, rfl⟩ trivial
    rw [show spec.replicas = some 1 from h]
    rfl
  | replicaSet =>
    refine iff_of_true ⟨?_, rfl, ?_, rfl⟩ trivial
    · rw [show spec.replicas = some 1 from h]
      rfl
    · exact optionRel_refl PodTemplateSpec.Same.refl _
  | daemonSet =>
    obtain ⟨selector, ⟨metadata, podSpec⟩, others⟩ := spec
    cases podSpec with
    | none => exact iff_of_true ⟨rfl, ⟨rfl, .none⟩, rfl⟩ fun _ h => nomatch h
    | some podSpec =>
      constructor
      · rintro ⟨-, ⟨-, hspec⟩, -⟩ podSpec' heq
        cases heq
        cases hspec with
        | some hsame => exact (same_setPodPaused_iff podSpec).1 hsame
      · intro hresumable
        exact ⟨rfl, ⟨rfl, .some ((same_setPodPaused_iff podSpec).2 (hresumable podSpec rfl))⟩, rfl⟩
  | pod => exact iff_of_true ⟨rfl, rfl⟩ trivial
  | job => exact iff_of_true ⟨rfl, .refl _, rfl⟩ trivial
  | cronJob =>
    constructor
    · rintro ⟨hsuspend, -⟩ heq
      rw [heq] at hsuspend
      cases hsuspend
    · intro hresumable
      refine ⟨?_, rfl, ?_, rfl⟩
      · rcases hspec : spec.suspend with _ | _ | _
        · rfl
        · rfl
        · exact absurd hspec hresumable
      · exact optionRel_refl (fun jobSpec => ⟨rfl, .refl _, rfl⟩) _

/-! ## Stored manifests -/

/-- A rebuild writes a manifest of its kind, with one replica. -/
theorem rebuilt_of_rebuildWorkloadYaml {codec : ManifestCodec Text}
    {seeds : String → RandomState ((_ : String) × String)} {kind : KubeWorkloadKind} {source : Text}
    {containers : List KubeContainerInfo} {sidecar : Option SidecarInjectionOptions} {yaml : Text}
    (h : rebuildWorkloadYaml codec seeds kind source containers sidecar = .ok yaml) :
    ∃ manifest, codec.fromStr kind yaml = .ok manifest ∧
      ∀ spec, manifest.spec = some spec → kind.Rebuilt spec := by
  have hcleaned : ∀ manifest : Manifest kind, ∀ spec,
      (cleanWorkload seeds containers kind manifest).spec = some spec → kind.Rebuilt spec := by
    intro manifest spec hspec
    cases kind with
    | deployment | statefulSet | replicaSet =>
      obtain ⟨_, -, rfl⟩ := Option.map_eq_some_iff.1 hspec
      rfl
    | daemonSet | pod | job | cronJob => trivial
  cases kind with
  | deployment =>
    unfold rebuildWorkloadYaml at h
    dsimp only at h
    split at h
    · cases h
    · next deployment hparse =>
      cases sidecar with
      | none =>
        cases h
        exact ⟨_, codec.fromStr_toString _, hcleaned deployment⟩
      | some options =>
        obtain ⟨injected, hinject, rfl⟩ := Result.map_eq_ok.1 h
        refine ⟨_, codec.fromStr_toString _, fun spec hspec => ?_⟩
        unfold injectSidecarProxyIntoDeployment at hinject
        split at hinject
        · cases hinject
        · next cleaned hcleanedSpec =>
          split at hinject
          · cases hinject
          · cases hinject
            cases hspec
            exact hcleaned deployment cleaned hcleanedSpec
  | _ =>
    obtain ⟨manifest, -, rfl⟩ := Result.map_eq_ok.1 h
    exact ⟨_, codec.fromStr_toString _, hcleaned manifest⟩

/-- A resume rewrites a manifest that can be parsed. -/
theorem rewriteWorkload_resume {kind : KubeWorkloadKind} {yaml : Text} {manifest : Manifest kind}
    (h : codec.fromStr kind yaml = .ok manifest) :
    ∃ yaml', Toggle.resume.rewriteWorkload codec (kind, yaml) = .ok (kind, yaml') ∧
      codec.fromStr kind yaml' =
        .ok { manifest with spec := manifest.spec.map kind.resumed } := by
  cases kind with
  | pod | job =>
    refine ⟨yaml, rfl, ?_⟩
    rw [h]
    obtain ⟨metadata, spec, status⟩ := manifest
    cases spec <;> rfl
  | _ =>
    refine ⟨_, Result.map_eq_ok.2 ⟨manifest, h, rfl⟩, codec.fromStr_toString _⟩

namespace KubeController

/-- The stored manifest of a workload was written by a rebuild. -/
def StoredByRebuild (row : KubeEnvironmentWorkload.Model Text) : Prop :=
  ∃ kind seeds source containers sidecar, KubeWorkloadKind.parse row.kind = some kind ∧
    rebuildWorkloadYaml codec seeds kind source containers sidecar = .ok row.workloadYaml

/-- The stored manifest of a workload is resumable. -/
def ResumableRow (row : KubeEnvironmentWorkload.Model Text) : Prop :=
  ∀ kind manifest spec, KubeWorkloadKind.parse row.kind = some kind →
    codec.fromStr kind row.workloadYaml = .ok manifest → manifest.spec = some spec →
    kind.Resumable spec

/-- What is deployed means what is stored. -/
def ReplaysRow (row : KubeEnvironmentWorkload.Model Text) (deployed : KubeWorkloadKind × Text) :
    Prop :=
  KubeWorkloadKind.parse row.kind = some deployed.1 ∧
    ∃ stored manifest, codec.fromStr deployed.1 row.workloadYaml = .ok stored ∧
      codec.fromStr deployed.1 deployed.2 = .ok manifest ∧ SameManifest manifest stored

/-- A resume replays a manifest that a rebuild has stored exactly if it is resumable. -/
theorem replaysRow_iff {row : KubeEnvironmentWorkload.Model Text} (hstored : StoredByRebuild codec row)
    {workload : KubeWorkloadKind × Text} (hassembled : KubeWorkloadKind.parse row.kind =
      some workload.1 ∧ workload.2 = row.workloadYaml) :
    ReplaysRow codec row (match Toggle.resume.rewriteWorkload codec workload with
      | .ok rewritten => rewritten
      | .error _ => workload) ↔ ResumableRow codec row := by
  obtain ⟨kind, yaml⟩ := workload
  obtain ⟨hkind, rfl⟩ := hassembled
  obtain ⟨_, seeds, source, containers, sidecar, hkind', hrebuild⟩ := hstored
  cases hkind.symm.trans hkind'
  obtain ⟨manifest, hparse, hrebuilt⟩ := rebuilt_of_rebuildWorkloadYaml hrebuild
  obtain ⟨yaml', hrewrite, hparse'⟩ := rewriteWorkload_resume codec hparse
  rw [hrewrite]
  have hsame : SameManifest { manifest with spec := manifest.spec.map kind.resumed } manifest ↔
      ∀ spec, manifest.spec = some spec → kind.Resumable spec := by
    cases hspec : manifest.spec with
    | none => exact iff_of_true ⟨rfl, by rw [hspec]; exact .none, rfl⟩ fun _ h => nomatch h
    | some spec =>
      have hiff := same_resumed_iff (hrebuilt spec hspec)
      constructor
      · rintro ⟨-, hrel, -⟩ spec' heq
        cases heq
        rw [hspec] at hrel
        exact hiff.1 (Option.rel_some_some.1 hrel)
      · intro h
        refine ⟨rfl, ?_, rfl⟩
        rw [hspec]
        exact .some (hiff.2 (h spec rfl))
  constructor
  · rintro ⟨-, stored, deployed, hs, hd, h⟩ kind' manifest' spec hk hm hspec
    cases hkind.symm.trans hk
    cases hparse.symm.trans hs
    cases hparse'.symm.trans hd
    cases hparse.symm.trans hm
    exact hsame.1 h spec hspec
  · intro h
    exact ⟨hkind, manifest, _, hparse, hparse', hsame.2 fun spec => h kind manifest spec hkind hparse⟩

/-- The same of all stored manifests of an environment. -/
theorem replays_iff_of_assembled {rows : List (KubeEnvironmentWorkload.Model Text)}
    {assembled : List (KubeWorkloadKind × Text)}
    (hstored : ∀ row ∈ rows, StoredByRebuild codec row)
    (hassembled : List.Forall₂ (fun row workload => KubeWorkloadKind.parse row.kind =
      some workload.1 ∧ workload.2 = row.workloadYaml) rows assembled) :
    List.Forall₂ (ReplaysRow codec) rows (Toggle.resume.rewriteWorkloads codec assembled) ↔
      ∀ row ∈ rows, ResumableRow codec row := by
  induction hassembled with
  | nil => exact iff_of_true .nil fun _ h => nomatch h
  | cons hrow _ ih =>
    rw [List.forall_mem_cons] at hstored ⊢
    rw [Toggle.rewriteWorkloads, List.map_cons, List.forall₂_cons]
    exact and_congr (replaysRow_iff codec hstored.1 hrow) (ih hstored.2)

/-- A task deploys the stored workloads, rewritten, and leaves them stored. -/
theorem run_runToggle {toggle : Toggle} {outside : ToggleOutside Text} {environmentId : Uuid}
    {db db' : Database Text} {deployed : List (KubeWorkloadKind × Text)}
    (h : (runToggle codec toggle outside environmentId).run db = (.ok deployed, db')) :
    storedWorkloads db' environmentId = storedWorkloads db environmentId ∧
      ∃ assembled, deployed = toggle.rewriteWorkloads codec assembled ∧
        List.Forall₂ (fun row workload => KubeWorkloadKind.parse row.kind = some workload.1 ∧
          workload.2 = row.workloadYaml) (storedWorkloads db environmentId) assembled := by
  unfold runToggle DbApi.getKubeEnvironment at h
  rw [Program.run_mapError_read_bind] at h
  obtain ⟨environment, hfound, hconnected⟩ := Program.run_orFail_bind_eq_ok.1 h
  clear h
  have hid : environment.id = environmentId := by
    have hp := (Table.mem_of_one hfound).2
    simp only [Bool.and_eq_true, decide_eq_true_eq] at hp
    exact hp.1
  subst hid
  split at hconnected
  · cases hconnected
  obtain ⟨assembled, db₁, hassemble, hdeploy⟩ := Program.run_bind_eq_ok.1 hconnected
  obtain ⟨_, -, hwrite⟩ := Program.run_ofExcept_bind_eq_ok.1 hdeploy
  obtain ⟨_, db₂, hupdate, hend⟩ := Program.run_bind_eq_ok.1 hwrite
  cases hend
  unfold assembleEnvironmentWorkloads DbApi.getEnvironmentWorkloads at hassemble
  rw [Program.run_mapError_read_bind] at hassemble
  split at hassemble
  · cases hassemble
  rw [Program.run_ofExcept, Prod.mk.injEq] at hassemble
  obtain ⟨hcollect, rfl⟩ := hassemble
  have hkept : db'.environmentWorkloads = db.environmentWorkloads := by
    have htriple : Triple (fun d => d = db) (updateEnvironmentStatus environment.id toggle.done)
        (fun _ d => d.environmentWorkloads = db.environmentWorkloads) fun _ _ => True := by
      refine Triple.mapError (Database.triple_statement ?_ fun _ _ _ => trivial)
      rintro d t rfl -
      rfl
    exact htriple.of_run_ok rfl hupdate
  refine ⟨by rw [storedWorkloads, hkept]; rfl, assembled, rfl, ?_⟩
  refine (Result.collect_map_eq_ok.1 hcollect).imp fun row workload hworkload => ?_
  unfold assembleWorkload at hworkload
  split at hworkload
  · next kind hkind =>
    cases hworkload
    exact ⟨hkind, rfl⟩
  · cases hworkload

/-- A resume after a pause deploys manifests that mean what is stored exactly if no stored CronJob is
suspended and no stored DaemonSet selects the label of a pause. -/
theorem replays_iff {pauseOutside resumeOutside : ToggleOutside Text} {environmentId : Uuid}
    {db db' : Database Text} {deployed : List (KubeWorkloadKind × Text)}
    (hstored : ∀ row ∈ storedWorkloads db environmentId, StoredByRebuild codec row)
    (hrun : (do
      let _ ← runPauseEnvironment codec pauseOutside environmentId
      runResumeEnvironment codec resumeOutside environmentId).run db = (.ok deployed, db')) :
    List.Forall₂ (ReplaysRow codec) (storedWorkloads db environmentId) deployed ↔
      ∀ row ∈ storedWorkloads db environmentId, ResumableRow codec row := by
  obtain ⟨paused, db₁, hpause, hresume⟩ := Program.run_bind_eq_ok.1 hrun
  obtain ⟨hkept, -⟩ := run_runToggle codec hpause
  obtain ⟨-, assembled, rfl, hassembled⟩ := run_runToggle codec hresume
  rw [hkept] at hassembled
  exact replays_iff_of_assembled codec hstored hassembled

/-! ## A CronJob -/

/-- A CronJob in a cluster. -/
def nightly (suspend : Option Bool) : Manifest .cronJob where
  metadata := ⟨some "nightly", none, []⟩
  spec := some ⟨suspend, ⟨none, none⟩, []⟩
  status := none

/-- The workload of an environment that a rebuild has stored of it. -/
def nightlyRow (suspend : Option Bool) : KubeEnvironmentWorkload.Model Document where
  id := 7
  createdAt := 0
  deletedAt := none
  environmentId := 5
  baseWorkloadId := none
  name := "nightly"
  «namespace» := "dev"
  kind := "CronJob"
  containers := []
  ports := []
  workloadYaml := .workload .cronJob (cleanCronJob (fun _ => .identity _) [] (nightly suspend))
  catalogSyncVersion := 1
  readyReplicas := none

/-- An environment with this workload. -/
def nightlyDatabase (suspend : Option Bool) : Database Document :=
  { Database.empty Document with
    environments := ⟨[⟨5, none, 1, 1, 1, 1, "dev", "dev", "Running", false, 1, none, "idle", none,
      "token"⟩], List.pairwise_singleton _ _⟩
    environmentWorkloads := ⟨[nightlyRow suspend], List.pairwise_singleton _ _⟩ }

/-- A connected cluster that takes every deployment. -/
def takesAll : ToggleOutside Document := ⟨true, fun _ => .ok ⟨⟩⟩

theorem storedByRebuild_nightly (suspend : Option Bool) :
    ∀ row ∈ storedWorkloads (nightlyDatabase suspend) 5, StoredByRebuild Document.codec row := by
  intro row hrow
  cases List.mem_singleton.1 (Table.mem_select.1 hrow).1
  exact ⟨.cronJob, fun _ => .identity _, .workload .cronJob (nightly suspend), [], none, rfl, rfl⟩

/-- The run of a pause and a resume of the environment. -/
def toggleNightly (suspend : Option Bool) :
    Except ApiError (List (KubeWorkloadKind × Document)) × Database Document :=
  (do
    let _ ← runPauseEnvironment Document.codec takesAll 5
    runResumeEnvironment Document.codec takesAll 5).run (nightlyDatabase suspend)

theorem replays_iff_nightly : ∃ deployed db', toggleNightly none = (.ok deployed, db') ∧
    (List.Forall₂ (ReplaysRow Document.codec) (storedWorkloads (nightlyDatabase none) 5) deployed ↔
      ∀ row ∈ storedWorkloads (nightlyDatabase none) 5, ResumableRow Document.codec row) := by
  obtain ⟨deployed, db', hrun⟩ : ∃ deployed db', toggleNightly none = (.ok deployed, db') :=
    ⟨_, _, rfl⟩
  exact ⟨deployed, db', hrun, replays_iff Document.codec (storedByRebuild_nightly none) hrun⟩

/-- A CronJob that was suspended runs after a pause and a resume. -/
theorem suspended_cronJob_runs :
    ¬∀ (pauseOutside resumeOutside : ToggleOutside Document) (environmentId : Uuid)
      (db db' : Database Document) (deployed : List (KubeWorkloadKind × Document)),
      (∀ row ∈ storedWorkloads db environmentId, StoredByRebuild Document.codec row) →
      (do
        let _ ← runPauseEnvironment Document.codec pauseOutside environmentId
        runResumeEnvironment Document.codec resumeOutside environmentId).run db =
          (.ok deployed, db') →
      List.Forall₂ (ReplaysRow Document.codec) (storedWorkloads db environmentId) deployed := by
  intro h
  have hrun : ∃ db', toggleNightly (some true) =
      (.ok [(.cronJob, .workload .cronJob (cleanCronJob (fun _ => .identity _) []
        (nightly (some false))))], db') := ⟨_, rfl⟩
  obtain ⟨db', hrun⟩ := hrun
  have hreplays := h takesAll takesAll 5 (nightlyDatabase (some true)) db' _
    (storedByRebuild_nightly (some true)) hrun
  cases hreplays with
  | cons hrow _ =>
    obtain ⟨-, stored, manifest, hstored, hmanifest, -, hspec, -⟩ := hrow
    cases hstored
    cases hmanifest
    cases (Option.rel_some_some.1 hspec).1

end KubeController

end Lapdev
