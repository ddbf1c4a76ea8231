import Lapdev.Api.BranchEnvironments
import Lapdev.Catalog.YamlParser
import Lapdev.Logic.Selectors

/-!
# What selects the pods of a branch workload

`rename_workload_yaml` of `kube_controller/workload.rs` gives the pods of a workload one label and
lets the workload and its branch services select it. `keepsSelection_renamed_iff` says for which
workloads every selector that is to select the renamed pods does, and none of the base.
-/

namespace Lapdev

open RustStd Selectors

/-! ## Selectors of a workload -/

/-- `LabelSelectorRequirement`. -/
structure LabelSelectorRequirement where
  key : String
  operator : String
  values : List String

/-- A requirement as it is written. -/
def LabelSelectorRequirement.ofValue (value : Yaml.Value) : Option LabelSelectorRequirement :=
  (value.field "key").bind fun key => key.asStr.bind fun key =>
    (value.field "operator").bind fun operator => operator.asStr.map fun operator =>
      { key, operator, values := (value.items "values").filterMap Yaml.Value.asStr }

/-- The requirement of an operator; the cluster knows no other ones. -/
def LabelSelectorRequirement.requirement (expression : LabelSelectorRequirement) :
    Option (Requirement String String) :=
  if expression.operator = "In" then some (.isIn expression.key expression.values)
  else if expression.operator = "NotIn" then some (.notIn expression.key expression.values)
  else if expression.operator = "Exists" then some (.present expression.key)
  else if expression.operator = "DoesNotExist" then some (.absent expression.key)
  else none

/-- The match expressions of a selector, which are one of its other fields. -/
def LabelSelector.matchExpressions (selector : LabelSelector) : List LabelSelectorRequirement :=
  match selector.others.lookup "matchExpressions" with
  | some value => (value.asSequence.getD []).filterMap LabelSelectorRequirement.ofValue
  | none => []

/-- The selector selects labels. -/
def LabelSelector.Selects (selector : LabelSelector) (labels : BTreeMap String String) : Prop :=
  Includes (selector.matchLabels.getD ∅).lookup labels.lookup ∧
    ∀ expression ∈ selector.matchExpressions, ∃ requirement,
      expression.requirement = some requirement ∧ requirement.Holds labels.lookup

/-- The metadata of the pod template of a workload, if it has a template. -/
def Object.podMetadata : {kind : KubeWorkloadKind} → Manifest kind → Option (Option ObjectMeta)
  | .deployment, manifest => manifest.spec.map (·.template.metadata)
  | .statefulSet, manifest => manifest.spec.map (·.template.metadata)
  | .daemonSet, manifest => manifest.spec.map (·.template.metadata)
  | .replicaSet, manifest => (manifest.spec.bind (·.template)).map (·.metadata)
  | .pod, manifest => some (some manifest.metadata)
  | .job, manifest => manifest.spec.map (·.template.metadata)
  | .cronJob, manifest => (manifest.spec.bind (·.jobTemplate.spec)).map (·.template.metadata)

/-- The selector of a workload, if it has one. -/
def Object.ownSelector : {kind : KubeWorkloadKind} → Manifest kind → Option LabelSelector
  | .deployment, manifest => manifest.spec.map (·.selector)
  | .statefulSet, manifest => manifest.spec.map (·.selector)
  | .daemonSet, manifest => manifest.spec.map (·.selector)
  | .replicaSet, manifest => manifest.spec.map (·.selector)
  | .pod, _ => none
  | .job, manifest => manifest.spec.bind (·.selector)
  | .cronJob, manifest => (manifest.spec.bind (·.jobTemplate.spec)).bind (·.selector)

/-- A workload selects the pods of its template. -/
def Object.SelectsOwn {kind : KubeWorkloadKind} (manifest : Manifest kind) : Prop :=
  ∀ metadata, manifest.podMetadata = some metadata →
    ∀ selector, manifest.ownSelector = some selector → selector.Selects (Lapdev.podLabels metadata)

namespace KubeController

variable {Text : Type} (codec : ManifestCodec Text)

/-! ## Renames -/

/-- The manifest that a rename writes. -/
def renamedManifest (newName : String) {kind : KubeWorkloadKind} (manifest : Manifest kind) :
    Manifest kind :=
  { manifest with
    metadata := updateObjectMeta newName (buildBranchServiceSelector newName) manifest.metadata
    spec := manifest.spec.map (renameSpec newName (buildBranchServiceSelector newName) kind) }

section
variable (newName : String) {kind : KubeWorkloadKind} (manifest : Manifest kind)

/-- The metadata of a template is renamed where there is any. -/
theorem podMetadata_renamed : (renamedManifest newName manifest).podMetadata =
    manifest.podMetadata.map (Option.map
      (updateObjectMeta newName (buildBranchServiceSelector newName))) := by
  obtain ⟨metadata, spec, status⟩ := manifest
  cases kind with
  | replicaSet => rcases spec with _ | ⟨_, _, _ | _, _⟩ <;> rfl
  | cronJob => rcases spec with _ | ⟨_, ⟨_, _ | _⟩, _⟩ <;> rfl
  | _ => cases spec <;> rfl

/-- A renamed selector has the label of the branch services and keeps its match expressions. -/
theorem ownSelector_renamed {selector : LabelSelector}
    (h : manifest.ownSelector = some selector) :
    (renamedManifest newName manifest).ownSelector =
      some (updateSelectorLabels (buildBranchServiceSelector newName) selector) := by
  obtain ⟨metadata, spec, status⟩ := manifest
  cases kind with
  | pod => cases h
  | job =>
    rcases spec with _ | ⟨_ | _, _, _⟩
    · cases h
    · cases h
    · cases h
      rfl
  | cronJob =>
    rcases spec with _ | ⟨_, ⟨_, _ | ⟨_ | _, _, _⟩⟩, _⟩
    · cases h
    · cases h
    · cases h
    · cases h
      rfl
  | _ =>
    cases spec with
    | none => cases h
    | some spec =>
      cases h
      rfl

/-- A selector that a rename adds has no match expressions. -/
theorem ownSelector_renamed_of_none {selector : LabelSelector}
    (h : manifest.ownSelector = none)
    (hrenamed : (renamedManifest newName manifest).ownSelector = some selector) :
    selector = ⟨some (buildBranchServiceSelector newName), []⟩ := by
  obtain ⟨metadata, spec, status⟩ := manifest
  cases kind with
  | pod => cases hrenamed
  | job =>
    rcases spec with _ | ⟨_ | _, _, _⟩
    · cases hrenamed
    · cases hrenamed
      rfl
    · cases h
  | cronJob =>
    rcases spec with _ | ⟨_, ⟨_, _ | ⟨_ | _, _, _⟩⟩, _⟩
    · cases hrenamed
    · cases hrenamed
    · cases hrenamed
      rfl
    · cases h
  | _ =>
    cases spec with
    | none => cases hrenamed
    | some spec => cases h

end

/-- The branch services select one label. -/
theorem lookup_buildBranchServiceSelector (workloadName : String) :
    (buildBranchServiceSelector workloadName).lookup = single "app" workloadName := by
  funext key
  rw [buildBranchServiceSelector, HashTable.lookup_collect]
  by_cases h : key = "app"
  · have hsingle : single "app" workloadName key = some workloadName :=
      single_eq_some.2 ⟨h, rfl⟩
    rw [hsingle, h]
    rfl
  · rw [single_eq_none.2 h]
    simp [Ne.symm h]

/-- The labels that a rename gives to pods. -/
theorem podLabels_rename (newName : String) (metadata : ObjectMeta) :
    podLabels (some (updateObjectMeta newName (buildBranchServiceSelector newName) metadata)) =
      buildBranchServiceSelector newName := rfl

/-- A selector that is not empty has an entry. -/
theorem exists_lookup_of_ne_empty {selector : HashMap String String} (h : selector ≠ ∅) :
    ∃ key value, selector.lookup key = some value := by
  by_contra hnone
  refine h (Finmap.ext_lookup fun key => ?_)
  rw [Finmap.lookup_empty]
  exact Option.eq_none_iff_forall_ne_some.2 fun value hvalue => hnone ⟨key, value, hvalue⟩

/-! ## What a rename keeps -/

/-- A workload that selects the pods of its template still does; every service that
`build_branch_service_entry` makes for the name selects them, in its details and in its manifest;
and no service of the base does that has a selector and selected the pods, unless they had the name
as the value of a label. -/
structure KeepsSelection {kind : KubeWorkloadKind} (manifest renamed : Manifest kind)
    (newName : String) : Prop where
  own : manifest.SelectsOwn → renamed.SelectsOwn
  branch : ∀ metadata, renamed.podMetadata = some metadata →
    ∀ (service : KubeEnvironmentService.Model Text) (branchEnvironmentId : Uuid)
      (entry : KubeServiceWithYaml Text),
      buildBranchServiceEntry codec service branchEnvironmentId newName = .ok entry →
      Includes entry.details.selector.lookup (podLabels metadata).lookup ∧
        ∃ branchService, codec.serviceFromStr entry.yaml = .ok branchService ∧
          ∀ spec, branchService.spec = some spec → ∃ selector, spec.selector = some selector ∧
            Includes selector.lookup (podLabels metadata).lookup
  selector : ∀ metadata, renamed.podMetadata = some metadata →
    Includes (buildBranchServiceSelector newName).lookup (podLabels metadata).lookup
  base : ∀ metadata metadata', manifest.podMetadata = some metadata →
    renamed.podMetadata = some metadata' →
    (∀ key value, (podLabels metadata).lookup key = some value → value ≠ newName) →
    ∀ service : KubeEnvironmentService.Model Text, service.selector ≠ ∅ →
      Includes service.selector.lookup (podLabels metadata).lookup →
      ¬Includes service.selector.lookup (podLabels metadata').lookup

/-- The match expression admits the label of the branch services. -/
def AdmitsBranch (newName : String) (expression : LabelSelectorRequirement) : Prop :=
  ∃ requirement, expression.requirement = some requirement ∧ requirement.Admits "app" newName

/-- A pod template has metadata; and if the workload selects the pods of its template, each match
expression of its selector admits the label of the branch services. -/
def Renamable {kind : KubeWorkloadKind} (manifest : Manifest kind) (newName : String) : Prop :=
  ∀ metadata, manifest.podMetadata = some metadata → metadata ≠ none ∧
    (manifest.SelectsOwn → ∀ selector, manifest.ownSelector = some selector →
      ∀ expression ∈ selector.matchExpressions, AdmitsBranch newName expression)

section
variable {codec} {service : KubeEnvironmentService.Model Text} {branchEnvironmentId : Uuid}
  {entry : KubeServiceWithYaml Text} {newName : String}

/-- A branch service selects the label of the branch, in its details and in its manifest. -/
theorem buildBranchServiceEntry_eq_ok
    (h : buildBranchServiceEntry codec service branchEnvironmentId newName = .ok entry) :
    entry.details.selector = (buildBranchServiceSelector newName).toFinmap ∧
      ∃ branchService, codec.serviceFromStr entry.yaml = .ok branchService ∧
        ∀ spec, branchService.spec = some spec →
          spec.selector = some (buildBranchServiceSelector newName) := by
  unfold buildBranchServiceEntry at h
  obtain ⟨renamedYaml, hrenamed, hrestore⟩ := Result.bind_eq_ok.1 h
  obtain ⟨restored, hrestored, rfl⟩ := Result.map_eq_ok.1 hrestore
  unfold renameServiceYaml at hrenamed
  split at hrenamed
  · cases hrenamed
  cases hrenamed
  unfold restoreServiceTargetPorts at hrestored
  rw [codec.serviceFromStr_toString] at hrestored
  cases hrestored
  refine ⟨rfl, _, codec.serviceFromStr_toString _, fun spec hspec => ?_⟩
  obtain ⟨renamedSpec, hrenamedSpec, rfl⟩ := Option.map_eq_some_iff.1 hspec
  obtain ⟨_, -, rfl⟩ := Option.map_eq_some_iff.1 hrenamedSpec
  rfl

variable {kind : KubeWorkloadKind} {manifest : Manifest kind}

/-- Renamed labels are selected by a selector of the branch exactly if its match expressions admit
the label. -/
theorem selects_branchLabels_iff (selector : LabelSelector) :
    (updateSelectorLabels (buildBranchServiceSelector newName) selector).Selects
        (buildBranchServiceSelector newName) ↔
      ∀ expression ∈ selector.matchExpressions, AdmitsBranch newName expression := by
  have hincludes : Includes ((updateSelectorLabels (buildBranchServiceSelector newName)
      selector).matchLabels.getD ∅).lookup (buildBranchServiceSelector newName).lookup :=
    Includes.refl _
  rw [LabelSelector.Selects, and_iff_right hincludes, lookup_buildBranchServiceSelector]
  refine forall₂_congr fun expression _ => exists_congr fun requirement => ?_
  exact and_congr_right fun _ => requirement.holds_single_iff

/-- A renamed workload selects the pods of its template exactly if its match expressions admit the
label. -/
theorem selectsOwn_renamed_iff (hmetadata : ∀ metadata, manifest.podMetadata = some metadata →
    metadata ≠ none) : (renamedManifest newName manifest).SelectsOwn ↔
      ∀ metadata, manifest.podMetadata = some metadata →
        ∀ selector, manifest.ownSelector = some selector →
          ∀ expression ∈ selector.matchExpressions, AdmitsBranch newName expression := by
  rw [Object.SelectsOwn, podMetadata_renamed]
  constructor
  · intro h metadata hm selector hselector
    obtain ⟨metadata, rfl⟩ := Option.ne_none_iff_exists'.1 (hmetadata metadata hm)
    exact (selects_branchLabels_iff selector).1
      (h _ (Option.map_eq_some_iff.2 ⟨_, hm, rfl⟩) _ (ownSelector_renamed newName manifest hselector))
  · intro h metadata' hm' selector' hselector'
    obtain ⟨metadata, hm, rfl⟩ := Option.map_eq_some_iff.1 hm'
    obtain ⟨metadata, rfl⟩ := Option.ne_none_iff_exists'.1 (hmetadata metadata hm)
    cases hselector : manifest.ownSelector with
    | none =>
      rw [ownSelector_renamed_of_none newName manifest hselector hselector']
      exact (selects_branchLabels_iff ⟨none, []⟩).2 fun _ hmem => nomatch hmem
    | some selector =>
      rw [ownSelector_renamed newName manifest hselector] at hselector'
      cases hselector'
      exact (selects_branchLabels_iff selector).2 (h _ hm selector hselector)

/-- A rename keeps what selects the pods exactly if the workload is renamable. -/
theorem keepsSelection_renamed_iff :
    KeepsSelection codec manifest (renamedManifest newName manifest) newName ↔
      Renamable manifest newName := by
  constructor
  · intro h
    have hmetadata : ∀ metadata, manifest.podMetadata = some metadata → metadata ≠ none := by
      rintro metadata hm rfl
      have hselector := h.selector none (by rw [podMetadata_renamed, hm]; rfl)
      rw [lookup_buildBranchServiceSelector] at hselector
      exact nomatch hselector "app" newName (single_eq_some.2 ⟨rfl, rfl⟩)
    exact fun metadata hm => ⟨hmetadata metadata hm, fun hown =>
      (selectsOwn_renamed_iff hmetadata).1 (h.own hown) metadata hm⟩
  · intro h
    -- the labels of every renamed template are those of the branch services
    have hlabels : ∀ metadata', (renamedManifest newName manifest).podMetadata = some metadata' →
        podLabels metadata' = buildBranchServiceSelector newName := by
      intro metadata' hm'
      rw [podMetadata_renamed] at hm'
      obtain ⟨metadata, hm, rfl⟩ := Option.map_eq_some_iff.1 hm'
      obtain ⟨metadata, rfl⟩ := Option.ne_none_iff_exists'.1 (h metadata hm).1
      exact podLabels_rename newName metadata
    refine ⟨fun hown => ?_, fun metadata hm service branchEnvironmentId entry hentry => ?_,
      fun metadata hm => ?_, fun metadata metadata' hm hm' hvalue service hne hbase hbranch => ?_⟩
    · exact (selectsOwn_renamed_iff fun metadata hm => (h metadata hm).1).2
        fun metadata hm => (h metadata hm).2 hown
    · obtain ⟨hdetails, branchService, hparse, hspec⟩ := buildBranchServiceEntry_eq_ok hentry
      rw [hdetails, hlabels metadata hm]
      refine ⟨fun key value hvalue => ?_, branchService, hparse, fun spec hs => ?_⟩
      · exact (Finmap.lookup_toFinmap key _).symm.trans hvalue
      · exact ⟨_, hspec spec hs, Includes.refl _⟩
    · rw [hlabels metadata hm]
      exact Includes.refl _
    · rw [hlabels metadata' hm', lookup_buildBranchServiceSelector] at hbranch
      obtain ⟨key, value, hentry⟩ := exists_lookup_of_ne_empty hne
      obtain ⟨key', hkey'⟩ := hbase.exists_value hbranch hentry
      exact hvalue key' newName hkey' rfl

end

section
variable {kind : KubeWorkloadKind} {manifest manifest' renamed : Manifest kind} {newName : String}
  (hmetadata : manifest'.podMetadata = manifest.podMetadata)
  (hselector : manifest'.ownSelector = manifest.ownSelector)

include hmetadata hselector

theorem selectsOwn_congr : manifest'.SelectsOwn ↔ manifest.SelectsOwn := by
  rw [Object.SelectsOwn, Object.SelectsOwn, hmetadata, hselector]

/-- Of a manifest only its template and its selector count. -/
theorem keepsSelection_congr :
    KeepsSelection codec manifest' renamed newName ↔
      KeepsSelection codec manifest renamed newName := by
  have hown := selectsOwn_congr hmetadata hselector
  constructor
  · rintro ⟨h₁, h₂, h₃, h₄⟩
    exact ⟨fun h => h₁ (hown.2 h), h₂, h₃, fun metadata metadata' hm =>
      h₄ metadata metadata' (hmetadata.trans hm)⟩
  · rintro ⟨h₁, h₂, h₃, h₄⟩
    exact ⟨fun h => h₁ (hown.1 h), h₂, h₃, fun metadata metadata' hm =>
      h₄ metadata metadata' (hmetadata.symm.trans hm)⟩

theorem renamable_congr : Renamable manifest' newName ↔ Renamable manifest newName := by
  rw [Renamable, Renamable, selectsOwn_congr hmetadata hselector, hmetadata, hselector]

end

/-- Without its sidecar a workload has the same template and the same selector. -/
theorem podMetadata_stripped {kind : KubeWorkloadKind} (manifest : Manifest kind) :
    Object.podMetadata { manifest with
      spec := manifest.spec.map (mapPodSpec stripSidecarProxyFromPodSpec kind) } =
        manifest.podMetadata := by
  obtain ⟨metadata, spec, status⟩ := manifest
  cases kind with
  | replicaSet => rcases spec with _ | ⟨_, _, _ | _, _⟩ <;> rfl
  | cronJob => rcases spec with _ | ⟨_, ⟨_, _ | _⟩, _⟩ <;> rfl
  | _ => cases spec <;> rfl

theorem ownSelector_stripped {kind : KubeWorkloadKind} (manifest : Manifest kind) :
    Object.ownSelector { manifest with
      spec := manifest.spec.map (mapPodSpec stripSidecarProxyFromPodSpec kind) } =
        manifest.ownSelector := by
  obtain ⟨metadata, spec, status⟩ := manifest
  cases kind with
  | cronJob => rcases spec with _ | ⟨_, ⟨_, _ | _⟩, _⟩ <;> rfl
  | _ => cases spec <;> rfl

/-- A rename writes the renamed manifest. -/
theorem renameWorkloadYaml_of_parsed {kind : KubeWorkloadKind} {yaml : Text}
    {manifest : Manifest kind} (h : codec.fromStr kind yaml = .ok manifest) (newName : String) :
    renameWorkloadYaml codec kind yaml newName (buildBranchServiceSelector newName) =
      .ok (codec.toString (renamedManifest newName manifest)) := by
  rw [renameWorkloadYaml, h]
  rfl

/-- **Branch selection.** A manifest that parses is renamed, by itself or as the override of a
branch, and the rename keeps what selects its pods exactly if it is renamable. -/
theorem renames_keepSelection_iff :
    (∀ (kind : KubeWorkloadKind) (yaml : Text) (newName : String) (manifest : Manifest kind),
      codec.fromStr kind yaml = .ok manifest →
      ∃ yaml' renamed, renameWorkloadYaml codec kind yaml newName
          (buildBranchServiceSelector newName) = .ok yaml' ∧
        codec.fromStr kind yaml' = .ok renamed ∧
        (KeepsSelection codec manifest renamed newName ↔ Renamable manifest newName)) ∧
    ∀ (newId : Uuid) (workload : KubeEnvironmentWorkload.Model Text) («namespace» : String)
      (branchEnvironmentId : Uuid) (kind : KubeWorkloadKind) (manifest : Manifest kind),
      KubeWorkloadKind.parse workload.kind = some kind →
      codec.isBlank workload.workloadYaml = false →
      codec.fromStr kind workload.workloadYaml = .ok manifest →
      ∃ new renamed, buildBranchWorkloadDetails codec newId workload «namespace»
          branchEnvironmentId = .ok (new, branchResourceName workload.name branchEnvironmentId) ∧
        codec.fromStr kind new.details.workloadYaml = .ok renamed ∧
        (KeepsSelection codec manifest renamed
            (branchResourceName workload.name branchEnvironmentId) ↔
          Renamable manifest (branchResourceName workload.name branchEnvironmentId)) := by
  constructor
  · intro kind yaml newName manifest hparse
    exact ⟨_, renamedManifest newName manifest,
      renameWorkloadYaml_of_parsed codec hparse newName, codec.fromStr_toString _,
      keepsSelection_renamed_iff⟩
  · intro newId workload ns branchEnvironmentId kind manifest hkind hblank hparse
    have hstripped : stripSidecarProxyFromYaml codec kind workload.workloadYaml =
        .ok (codec.toString { manifest with
          spec := manifest.spec.map (mapPodSpec stripSidecarProxyFromPodSpec kind) }) := by
      rw [stripSidecarProxyFromYaml, hparse]
    have hrenamed := renameWorkloadYaml_of_parsed codec (codec.fromStr_toString { manifest with
      spec := manifest.spec.map (mapPodSpec stripSidecarProxyFromPodSpec kind) })
      (branchResourceName workload.name branchEnvironmentId)
    rw [buildBranchWorkloadDetails, hkind]
    dsimp only
    rw [hblank, if_neg Bool.false_ne_true, hstripped, Except.bind, hrenamed]
    have hmetadata := podMetadata_stripped manifest
    have hselector := ownSelector_stripped manifest
    exact ⟨_, _, rfl, codec.fromStr_toString _,
      ((keepsSelection_congr codec hmetadata hselector).symm.trans
        keepsSelection_renamed_iff).trans (renamable_congr hmetadata hselector)⟩

/-! ## A match expression -/

/-- A Deployment that selects the pods of a tier. -/
def frontend : Manifest .deployment where
  metadata := ⟨some "web", none, []⟩
  spec := some
    { replicas := none
      selector := ⟨none, [("matchExpressions", .sequence [.mapping
        [(.string "key", .string "tier"), (.string "operator", .string "In"),
          (.string "values", .sequence [.string "frontend"])]])]⟩
      template := ⟨some ⟨none, some (HashTable.collect [("tier", "frontend")]), []⟩, none⟩
      others := [] }
  status := none

theorem renames_keepSelection_iff_frontend : ∃ yaml' renamed,
    renameWorkloadYaml Document.codec .deployment (.workload .deployment frontend) "web-5"
      (buildBranchServiceSelector "web-5") = .ok yaml' ∧
    Document.codec.fromStr .deployment yaml' = .ok renamed ∧
    (KeepsSelection Document.codec frontend renamed "web-5" ↔ Renamable frontend "web-5") :=
  (renames_keepSelection_iff Document.codec).1 .deployment (.workload .deployment frontend) "web-5"
    frontend rfl

/-- The Deployment selects its pods, and once renamed it does not. -/
theorem renamed_frontend_unselected :
    ¬∀ (kind : KubeWorkloadKind) (yaml yaml' : Document) (newName : String)
      (manifest renamed : Manifest kind),
      Document.codec.fromStr kind yaml = .ok manifest →
      renameWorkloadYaml Document.codec kind yaml newName (buildBranchServiceSelector newName) =
        .ok yaml' →
      Document.codec.fromStr kind yaml' = .ok renamed →
      KeepsSelection Document.codec manifest renamed newName := by
  intro h
  have hkeeps := h .deployment (.workload .deployment frontend) _ "web-5" frontend
    (renamedManifest "web-5" frontend) rfl rfl rfl
  have hown : frontend.SelectsOwn := by
    rintro metadata hm selector hs
    cases hm
    cases hs
    refine ⟨fun key value hentry => ?_, fun expression hmem => ?_⟩
    · exact nomatch (AList.lookup_empty key).symm.trans hentry
    · cases List.mem_singleton.1 hmem
      exact ⟨.isIn "tier" ["frontend"], rfl, "frontend", .head _, rfl⟩
  obtain ⟨requirement, hrequirement, hadmits⟩ :=
    (keepsSelection_renamed_iff.1 hkeeps _ rfl).2 hown _ rfl ⟨"tier", "In", ["frontend"]⟩ (.head _)
  cases hrequirement
  exact absurd hadmits.1 (by decide)

end KubeController

end Lapdev
