import Lapdev.Kube.EventFixedPoint
import Lapdev.Kube.TypedReading

/-!
# The two extractors of labels and dependencies

A workload event carries the labels and dependencies that `extract_workload_from_yaml` reads off
typed objects; the rows of a new catalog workload are what `labels_from_workload_yaml` and
`dependencies_from_workload_yaml` find in a generic value of the same text. `extractors_agree_iff`
says for which texts both find the same.
-/

namespace Lapdev

open RustStd WatchManager

/-! ## References -/

namespace Yaml.Value

section
variable {T : Type} {value node : Value} {key : String} {R : Value → T → Prop}

/-- What stands under a key and is not null is what an optional field is read off. -/
theorem ReadsOption.of_field {t : Option T} (h : value.ReadsOption key R t)
    (hfield : value.field key = some node) (hnull : ¬node.IsNull) : ∃ x, t = some x ∧ R node x := by
  simp only [ReadsOption, hfield] at h
  cases t with
  | none => exact absurd h hnull
  | some x => exact ⟨x, rfl, h⟩

/-- A field that is there and not null is read, not defaulted. -/
theorem ReadsDefault.of_field {default x : T} (h : value.ReadsDefault key R default x)
    (hfield : value.field key = some node) (hnull : ¬node.IsNull) : R node x := by
  obtain ⟨t, ht, rfl⟩ := h
  obtain ⟨y, rfl, hy⟩ := ht.of_field hfield hnull
  exact hy

/-- A null is no mapping. -/
theorem IsNull.asMapping (h : value.IsNull) : value.asMapping = none := by
  fun_induction IsNull value with
  | case1 => rfl
  | case2 tag value ih => exact ih h
  | case3 => exact h.elim

/-- A null has no fields. -/
theorem IsNull.field (h : value.IsNull) (key : String) : value.field key = none := by
  rw [Value.field, h.asMapping, Option.bind_none]

/-- A null is no sequence. -/
theorem IsNull.asSequence (h : value.IsNull) : value.asSequence = none := by
  fun_induction IsNull value with
  | case1 => rfl
  | case2 tag value ih => exact ih h
  | case3 => exact h.elim

/-- A null is no string. -/
theorem IsNull.asStr (h : value.IsNull) : value.asStr = none := by
  fun_induction IsNull value with
  | case1 => rfl
  | case2 tag value ih => exact ih h
  | case3 => exact h.elim

/-- A string is not null. -/
theorem not_isNull_of_asStr {s : String} (h : value.asStr = some s) : ¬value.IsNull :=
  fun hnull => by rw [hnull.asStr] at h; cases h

/-- A value with a field is not null. -/
theorem not_isNull_of_field {next : Value} (h : value.field key = some next) : ¬value.IsNull :=
  fun hnull => by rw [hnull.field] at h; cases h

/-- A value that refers to a name is not null. -/
theorem not_isNull_of_reference {name s : String} (h : value.reference key name = some s) :
    ¬value.IsNull := by
  obtain ⟨next, hnext, -⟩ := Option.bind_eq_some_iff.1 h
  exact not_isNull_of_field hnext

/-- A value with items is not null. -/
theorem not_isNull_of_mem_items {item : Value} (h : item ∈ value.items key) : ¬value.IsNull := by
  intro hnull
  rw [Value.items, hnull.field] at h
  cases h

/-- The elements of an optional list are read off the items under its key. -/
theorem ReadsOption.items {xs : Option (List T)} (h : value.ReadsOption key (ReadsList R) xs) :
    List.Forall₂ R (value.items key) (xs.getD []) := by
  rw [Value.items]
  cases hfield : value.field key with
  | none =>
    simp only [ReadsOption, hfield] at h
    rw [h]
    exact .nil
  | some node =>
    simp only [ReadsOption, hfield] at h
    cases xs with
    | none =>
      rw [Option.bind_some, IsNull.asSequence h]
      exact .nil
    | some xs =>
      obtain ⟨items, hitems, hread⟩ := h
      rw [Option.bind_some, hitems]
      exact hread

/-- A typed list reads the items of its field, and none where the field is missing or null. -/
theorem ReadsDefault.items {xs : List T} (h : value.ReadsDefault key (ReadsList R) [] xs) :
    List.Forall₂ R (value.items key) xs := by
  obtain ⟨t, ht, rfl⟩ := h
  exact ht.items

end

section
variable {value : Value} {s text : String}

/-- Where the generic value is a string, that string is what is read. -/
theorem ReadsString.eq_of_asStr (h : value.ReadsString text) (hs : value.asStr = some s) :
    text = s := by
  fun_induction Value.asStr value with
  | case1 s' =>
    obtain rfl := Option.some.inj hs
    exact h
  | case2 tag value ih => exact ih h hs
  | case3 => cases hs

/-- A name found in the generic value is that of a reference in the object. -/
theorem ReadsOption.reference {key : String} {ref : Option Typed.Reference}
    (h : value.ReadsOption key ReadsReference ref) (hs : value.reference key "name" = some s) :
    ref.map (·.name) = some s := by
  obtain ⟨node, hnode, hname⟩ := Option.bind_eq_some_iff.1 hs
  obtain ⟨next, hnext, hstr⟩ := Option.bind_eq_some_iff.1 hname
  obtain ⟨r, rfl, hr⟩ := h.of_field hnode (not_isNull_of_field hnext)
  have hread := ReadsDefault.of_field hr hnext (not_isNull_of_asStr hstr)
  exact congrArg some (hread.eq_of_asStr hstr)

end

/-- A string at a place where a pod spec refers to a resource of one type by its name. -/
inductive RefersTo (keys : DependencyKeys) (spec : Value) (name : String) : Prop
  | env {group : String} {container env valueFrom : Value}
      (hgroup : group ∈ ["containers", "initContainers", "ephemeralContainers"])
      (hcontainer : container ∈ spec.items group) (henv : env ∈ container.items "env")
      (hvalueFrom : env.field "valueFrom" = some valueFrom)
      (hname : valueFrom.reference keys.envRef "name" = some name)
  | envFrom {group : String} {container source : Value}
      (hgroup : group ∈ ["containers", "initContainers", "ephemeralContainers"])
      (hcontainer : container ∈ spec.items group) (hsource : source ∈ container.items "envFrom")
      (hname : source.reference keys.envFromRef "name" = some name)
  | volume {volume : Value} (hvolume : volume ∈ spec.items "volumes")
      (hname : volume.reference keys.volume keys.volumeName = some name)
  | projected {volume projected source : Value} (hvolume : volume ∈ spec.items "volumes")
      (hprojected : volume.field "projected" = some projected)
      (hsource : source ∈ projected.items "sources")
      (hname : source.reference keys.volume "name" = some name)

end Yaml.Value

open Yaml.Value

/-- A pod spec that refers to something is not null. -/
theorem Yaml.Value.RefersTo.not_isNull {keys : DependencyKeys} {spec : Yaml.Value} {name : String}
    (h : spec.RefersTo keys name) : ¬spec.IsNull := by
  cases h with
  | env hgroup hcontainer => exact not_isNull_of_mem_items hcontainer
  | envFrom hgroup hcontainer => exact not_isNull_of_mem_items hcontainer
  | volume hvolume => exact not_isNull_of_mem_items hvolume
  | projected hvolume => exact not_isNull_of_mem_items hvolume

/-- The containers that the generic extractor walks over. -/
theorem exists_group {spec container : Yaml.Value} :
    (∃ group ∈ ["containers", "initContainers", "ephemeralContainers"],
        container ∈ spec.items group) ↔
      (container ∈ spec.items "containers" ∨ container ∈ spec.items "initContainers") ∨
        container ∈ spec.items "ephemeralContainers" := by
  simp [or_assoc]

/-- The names that the generic extractor collects are those at such places. -/
theorem mem_collectDependenciesFromSpec {keys : DependencyKeys} {spec : Yaml.Value} {name : String} :
    name ∈ collectDependenciesFromSpec keys spec ↔ spec.RefersTo keys name := by
  simp only [collectDependenciesFromSpec, (List.perm_insertionSort _ _).mem_iff, List.mem_dedup,
    List.mem_append, List.mem_flatMap, List.mem_filterMap, Option.mem_toList, Option.bind_eq_some_iff,
    ← exists_group]
  constructor
  · rintro (⟨container, ⟨group, hgroup, hcontainer⟩, ⟨env, henv, valueFrom, hvalueFrom, hname⟩ |
      ⟨source, hsource, hname⟩⟩ | ⟨volume, hvolume, hname | ⟨source, hsource, hname⟩⟩)
    · exact .env hgroup hcontainer henv hvalueFrom hname
    · exact .envFrom hgroup hcontainer hsource hname
    · exact .volume hvolume hname
    · cases hprojected : volume.field "projected" with
      | none => simp [hprojected] at hsource
      | some projected =>
        rw [hprojected, Option.map_some, Option.getD_some] at hsource
        exact .projected hvolume hprojected hsource hname
  · intro h
    cases h with
    | env hgroup hcontainer henv hvalueFrom hname =>
      exact .inl ⟨_, ⟨_, hgroup, hcontainer⟩, .inl ⟨_, henv, _, hvalueFrom, hname⟩⟩
    | envFrom hgroup hcontainer hsource hname =>
      exact .inl ⟨_, ⟨_, hgroup, hcontainer⟩, .inr ⟨_, hsource, hname⟩⟩
    | volume hvolume hname => exact .inr ⟨_, hvolume, .inl hname⟩
    | projected hvolume hprojected hsource hname =>
      refine .inr ⟨_, hvolume, .inr ⟨_, ?_, hname⟩⟩
      rw [hprojected]
      exact hsource

/-- The keys of the generic extractor and the fields of the typed one lead to the same places. -/
structure DependencyKeys.Reach (keys : DependencyKeys) (refs : Typed.References) : Prop where
  envRef : ∀ {value source name}, ReadsEnvVarSource value source →
    value.reference keys.envRef "name" = some name → (refs.envRef source).map (·.name) = some name
  envFromRef : ∀ {value source name}, ReadsEnvFromSource value source →
    value.reference keys.envFromRef "name" = some name →
      (refs.envFromRef source).map (·.name) = some name
  volume : ∀ {value volume name}, ReadsVolume value volume →
    value.reference keys.volume keys.volumeName = some name → refs.volume volume = some name
  projection : ∀ {value projection name}, ReadsVolumeProjection value projection →
    value.reference keys.volume "name" = some name →
      (refs.projection projection).map (·.name) = some name

/-- The typed fields of config maps are those of the keys for config maps. -/
theorem DependencyKeys.reach_configMap : DependencyKeys.configMap.Reach .configMap where
  envRef h hname := h.configMapKeyRef.reference hname
  envFromRef h hname := h.configMapRef.reference hname
  volume h hname := h.configMap.reference hname
  projection h hname := h.configMap.reference hname

/-- The typed fields of secrets are those of the keys for secrets. -/
theorem DependencyKeys.reach_secret : DependencyKeys.secret.Reach .secret where
  envRef h hname := h.secretKeyRef.reference hname
  envFromRef h hname := h.secretRef.reference hname
  volume h hname := by
    obtain ⟨node, hnode, hsecretName⟩ := Option.bind_eq_some_iff.1 hname
    obtain ⟨next, hnext, hstr⟩ := Option.bind_eq_some_iff.1 hsecretName
    obtain ⟨source, hsource, hread⟩ := h.secret.of_field hnode (not_isNull_of_field hnext)
    obtain ⟨text, htext, hstring⟩ := hread.of_field hnext (not_isNull_of_asStr hstr)
    dsimp only [Typed.References.secret]
    rw [hsource, Option.bind_some, htext, hstring.eq_of_asStr hstr]
  projection h hname := h.secret.reference hname

/-- An element of a pointwise related list has a counterpart in the other. -/
theorem exists_of_forall₂ {α β : Type} {R : α → β → Prop} {as : List α} {bs : List β} {a : α}
    (h : List.Forall₂ R as bs) (ha : a ∈ as) : ∃ b ∈ bs, R a b := by
  induction h with
  | nil => cases ha
  | cons hab hrest ih =>
    rcases List.mem_cons.1 ha with rfl | ha
    · exact ⟨_, List.mem_cons_self, hab⟩
    · obtain ⟨b, hb, hR⟩ := ih ha
      exact ⟨b, List.mem_cons_of_mem _ hb, hR⟩

section
variable {keys : DependencyKeys} {refs : Typed.References} {value : Yaml.Value} {name : String}

/-- The environment of a container holds the string. -/
def Yaml.Value.ContainerRefersTo (keys : DependencyKeys) (container : Yaml.Value)
    (name : String) : Prop :=
  (∃ env ∈ container.items "env", ∃ valueFrom, env.field "valueFrom" = some valueFrom ∧
    valueFrom.reference keys.envRef "name" = some name) ∨
  ∃ source ∈ container.items "envFrom", source.reference keys.envFromRef "name" = some name

/-- What a container refers to in the YAML is among the names of its typed reading. -/
theorem Yaml.Value.ReadsContainerEnv.mem_names {container : Typed.ContainerEnv}
    (h : value.ReadsContainerEnv container) (hreach : keys.Reach refs)
    (hname : value.ContainerRefersTo keys name) : name ∈ container.names refs := by
  rw [Typed.ContainerEnv.names, List.mem_append, List.mem_filterMap, List.mem_filterMap]
  rcases hname with ⟨env, henv, valueFrom, hvalueFrom, hname⟩ | ⟨source, hsource, hname⟩
  · obtain ⟨var, hvar, hread⟩ := exists_of_forall₂ h.env.items henv
    have hnull : ¬valueFrom.IsNull := not_isNull_of_reference hname
    obtain ⟨source, hsource, hread'⟩ := ReadsOption.of_field hread hvalueFrom hnull
    refine .inl ⟨var, hvar, ?_⟩
    rw [hsource, Option.bind_some]
    exact hreach.envRef hread' hname
  · obtain ⟨source', hsource', hread⟩ := exists_of_forall₂ h.envFrom.items hsource
    exact .inr ⟨source', hsource', hreach.envFromRef hread hname⟩

/-- What a container of any group refers to is among the names of the typed pod spec. -/
theorem Yaml.Value.ReadsPodSpec.mem_names_of_container {podSpec : Typed.PodSpec}
    (h : value.ReadsPodSpec podSpec) (hreach : keys.Reach refs) {group : String}
    {container : Yaml.Value} (hgroup : group ∈ ["containers", "initContainers", "ephemeralContainers"])
    (hcontainer : container ∈ value.items group) (hname : container.ContainerRefersTo keys name) :
    name ∈ podSpec.names refs := by
  simp only [Typed.PodSpec.names, List.mem_append, List.mem_flatMap]
  rcases exists_group.1 ⟨group, hgroup, hcontainer⟩ with (hcontainer | hcontainer) | hcontainer
  · obtain ⟨c, hc, hread⟩ := exists_of_forall₂ h.containers.items hcontainer
    exact .inl (.inl (.inl ⟨c, hc, ReadsContainerEnv.mem_names hread hreach hname⟩))
  · obtain ⟨c, hc, hread⟩ := exists_of_forall₂ h.initContainers.items hcontainer
    exact .inl (.inl (.inr ⟨c, hc, ReadsContainerEnv.mem_names hread hreach hname⟩))
  · obtain ⟨c, hc, hread⟩ := exists_of_forall₂ h.ephemeralContainers.items hcontainer
    exact .inl (.inr ⟨c, hc, ReadsContainerEnv.mem_names hread hreach hname⟩)

/-- A string found at a reference of the generic pod spec is a name of the typed one. -/
theorem Yaml.Value.ReadsPodSpec.mem_names {podSpec : Typed.PodSpec} (h : value.ReadsPodSpec podSpec)
    (hreach : keys.Reach refs) (hname : value.RefersTo keys name) : name ∈ podSpec.names refs := by
  have hvolume : ∀ volume ∈ value.items "volumes", ∃ v ∈ podSpec.volumes.getD [],
      ReadsVolume volume v := fun volume => exists_of_forall₂ h.volumes.items
  have hin : ∀ v ∈ podSpec.volumes.getD [], name ∈ v.names refs → name ∈ podSpec.names refs :=
    fun v hv hn => List.mem_append_right _ (List.mem_flatMap.2 ⟨v, hv, hn⟩)
  cases hname with
  | env hgroup hcontainer henv hvalueFrom hname =>
    exact h.mem_names_of_container hreach hgroup hcontainer
      (.inl ⟨_, henv, _, hvalueFrom, hname⟩)
  | envFrom hgroup hcontainer hsource hname =>
    exact h.mem_names_of_container hreach hgroup hcontainer (.inr ⟨_, hsource, hname⟩)
  | volume hmem hname =>
    obtain ⟨v, hv, hread⟩ := hvolume _ hmem
    refine hin v hv (List.mem_append_left _ ?_)
    exact Option.mem_toList.2 (hreach.volume hread hname)
  | projected hmem hprojected hsource hname =>
    obtain ⟨v, hv, hread⟩ := hvolume _ hmem
    obtain ⟨p, hp, hread'⟩ := hread.projected.of_field hprojected
      (not_isNull_of_mem_items hsource)
    obtain ⟨source, hsource', hread''⟩ := exists_of_forall₂ (ReadsOption.items hread') hsource
    refine hin v hv (List.mem_append_right _ (List.mem_filterMap.2 ⟨source, ?_, ?_⟩))
    · rw [hp, Option.bind_some]
      exact hsource'
    · exact hreach.projection hread'' hname

end

/-! ## Templates -/

/-- A path is followed field by field. -/
theorem traverseYaml_cons {value node : Yaml.Value} {key : String} {path : List String} :
    traverseYaml value (key :: path) = some node ↔
      ∃ next, value.field key = some next ∧ traverseYaml next path = some node := by
  rw [traverseYaml, Yaml.Value.field]
  cases value.asMapping with
  | none => simp
  | some entries =>
    dsimp only [Option.bind_some]
    cases Yaml.Value.get entries key <;> simp

/-- What holds of every mapping of a value holds of the value and of those below it. -/
theorem Yaml.Value.EachMapping.asMapping {P : List (Yaml.Value × Yaml.Value) → Prop}
    {value : Yaml.Value} {entries : List (Yaml.Value × Yaml.Value)} (h : value.EachMapping P)
    (hentries : value.asMapping = some entries) : P entries ∧ ∀ e ∈ entries, e.2.EachMapping P := by
  fun_induction Yaml.Value.asMapping value with
  | case1 entries' =>
    cases hentries
    cases h with
    | mapping h hkeys hvalues => exact ⟨h, hvalues⟩
  | case2 tag value ih =>
    cases h with
    | tagged h => exact ih h hentries
  | case3 => cases hentries

/-- What stands at a path is part of the document. -/
theorem Yaml.Value.EachMapping.traverseYaml {P : List (Yaml.Value × Yaml.Value) → Prop}
    {path : List String} {value node : Yaml.Value} (h : value.EachMapping P)
    (hnode : Lapdev.traverseYaml value path = some node) : node.EachMapping P := by
  induction path generalizing value with
  | nil =>
    cases hnode
    exact h
  | cons key path ih =>
    obtain ⟨next, hnext, hnode⟩ := traverseYaml_cons.1 hnode
    obtain ⟨entries, hentries, hnext⟩ := Option.bind_eq_some_iff.1 hnext
    obtain ⟨e, hfind, rfl⟩ := Option.map_eq_some_iff.1 hnext
    exact ih ((h.asMapping hentries).2 e (List.mem_of_find?_eq_some hfind)) hnode

/-- Where the pod template stands in a workload of a kind. -/
def KubeWorkloadKind.templatePath : KubeWorkloadKind → List String
  | cronJob => ["spec", "jobTemplate", "spec", "template"]
  | _ => ["spec", "template"]

namespace WorkloadSerde

variable {Text Json : Type} {serde : WorkloadSerde Text Json} {resourceType : ResourceType}
  {kind : KubeWorkloadKind} {yaml : Text} {value : Yaml.Value} {template : Typed.PodTemplateSpec}

/-- The template of a `Deployment`, `StatefulSet`, `DaemonSet` or `Job`. -/
theorem templateSpec_reads {Status : Type}
    {parsed : Except String (Typed.Object (Typed.TemplateSpec Json) Status)}
    (hread : ∀ {object}, parsed = .ok object → value.ReadsOption "spec" ReadsTemplateSpec object.spec)
    (htemplate : (parsed.toOption.bind (·.spec)).map (·.template) = some template) {key : String}
    {path : List String} {node : Yaml.Value}
    (hnode : traverseYaml value ("spec" :: "template" :: key :: path) = some node) :
    ∃ next, traverseYaml next (key :: path) = some node ∧ next.ReadsPodTemplateSpec template := by
  obtain ⟨spec, hspec, rfl⟩ := Option.map_eq_some_iff.1 htemplate
  obtain ⟨object, hobject, hspec⟩ := Option.bind_eq_some_iff.1 hspec
  have hobject := hread (toOption_eq_some.1 hobject)
  rw [hspec] at hobject
  obtain ⟨next, hnext, hnode⟩ := traverseYaml_cons.1 hnode
  obtain ⟨next', hnext', hnode⟩ := traverseYaml_cons.1 hnode
  obtain ⟨next'', hnext'', -⟩ := traverseYaml_cons.1 hnode
  obtain ⟨s, hs, hreads⟩ := hobject.of_field hnext (not_isNull_of_field hnext')
  cases hs
  exact ⟨next', hnode, hreads.of_field hnext' (not_isNull_of_field hnext'')⟩

/-- What stands at the place of the pod template is what the template is read off. -/
theorem Documented.template_reads (h : serde.Documented) (hparses : serde.Parses yaml value)
    (hkind : workloadKindFor resourceType = some kind)
    (htemplate : serde.podTemplate resourceType yaml = some template) {key : String}
    {path : List String} {node : Yaml.Value}
    (hnode : traverseYaml value (kind.templatePath ++ key :: path) = some node) :
    ∃ next, traverseYaml next (key :: path) = some node ∧ next.ReadsPodTemplateSpec template := by
  cases resourceType with
  | deployment =>
    cases hkind
    exact templateSpec_reads (h.deployment hparses) htemplate hnode
  | statefulSet =>
    cases hkind
    exact templateSpec_reads (h.statefulSet hparses) htemplate hnode
  | daemonSet =>
    cases hkind
    exact templateSpec_reads (h.daemonSet hparses) htemplate hnode
  | job =>
    cases hkind
    exact templateSpec_reads (h.job hparses) htemplate hnode
  | replicaSet =>
    cases hkind
    obtain ⟨spec, hspec, htemplate⟩ := Option.bind_eq_some_iff.1 htemplate
    obtain ⟨object, hobject, hspec⟩ := Option.bind_eq_some_iff.1 hspec
    have hobject := h.replicaSet hparses (toOption_eq_some.1 hobject)
    rw [hspec] at hobject
    obtain ⟨next, hnext, hnode⟩ := traverseYaml_cons.1 hnode
    obtain ⟨next', hnext', hnode⟩ := traverseYaml_cons.1 hnode
    obtain ⟨next'', hnext'', -⟩ := traverseYaml_cons.1 hnode
    obtain ⟨s, hs, hreads⟩ := hobject.of_field hnext (not_isNull_of_field hnext')
    cases hs
    obtain ⟨t, ht, hreads⟩ := ReadsOption.of_field hreads hnext' (not_isNull_of_field hnext'')
    rw [htemplate] at ht
    cases ht
    exact ⟨next', hnode, hreads⟩
  | cronJob =>
    cases hkind
    obtain ⟨jobSpec, hjobSpec, rfl⟩ := Option.map_eq_some_iff.1 htemplate
    obtain ⟨spec, hspec, hjobSpec⟩ := Option.bind_eq_some_iff.1 hjobSpec
    obtain ⟨object, hobject, hspec⟩ := Option.bind_eq_some_iff.1 hspec
    have hobject := h.cronJob hparses (toOption_eq_some.1 hobject)
    rw [hspec] at hobject
    obtain ⟨next₁, hnext₁, hnode⟩ := traverseYaml_cons.1 hnode
    obtain ⟨next₂, hnext₂, hnode⟩ := traverseYaml_cons.1 hnode
    obtain ⟨next₃, hnext₃, hnode⟩ := traverseYaml_cons.1 hnode
    obtain ⟨next₄, hnext₄, hnode⟩ := traverseYaml_cons.1 hnode
    obtain ⟨next₅, hnext₅, -⟩ := traverseYaml_cons.1 hnode
    obtain ⟨s, hs, hreads⟩ := hobject.of_field hnext₁ (not_isNull_of_field hnext₂)
    cases hs
    have hjob := (ReadsDefault.of_field hreads hnext₂ (not_isNull_of_field hnext₃)).spec
    rw [hjobSpec] at hjob
    obtain ⟨s, hs, hreads⟩ := hjob.of_field hnext₃ (not_isNull_of_field hnext₄)
    cases hs
    exact ⟨next₄, hnode, hreads.of_field hnext₄ (not_isNull_of_field hnext₅)⟩
  | configMap | secret | service => cases hkind

end WorkloadSerde

/-! ## What the typed extractor finds -/

/-- The names that are kept are trimmed and not empty. -/
theorem mem_insertTrimmed {names : List String} {name : String} :
    name ∈ insertTrimmed names ↔ name ≠ "" ∧ ∃ raw ∈ names, trimmed raw = name := by
  rw [insertTrimmed, (List.perm_insertionSort _ _).mem_iff, List.mem_dedup, List.mem_filter,
    List.mem_map, decide_eq_true_eq, and_comm]

/-- A trimmed name is left by trimming. -/
theorem trimmed_trimmed (raw : String) : trimmed (trimmed raw) = trimmed raw := by
  simp only [trimmed, String.toList_ofList, Str.trim_trim]

/-- The names that are inserted are those found in the generic value exactly if what is found is
trimmed and not empty, and each name that is not blank is found. -/
theorem same_insertTrimmed_iff {names : List String} {found : BTreeSet String}
    (hfound : ∀ name ∈ found, ∃ raw ∈ names, trimmed raw = trimmed name) :
    BTreeSet.Same (insertTrimmed names) found ↔
      (∀ name ∈ found, trimmed name = name ∧ name ≠ "") ∧
        ∀ raw ∈ names, trimmed raw = "" ∨ trimmed raw ∈ found := by
  constructor
  · rintro ⟨hsub, hsup⟩
    constructor
    · intro name hname
      obtain ⟨hne, raw, -, rfl⟩ := mem_insertTrimmed.1 (hsup hname)
      exact ⟨trimmed_trimmed raw, hne⟩
    · intro raw hraw
      refine or_iff_not_imp_left.2 fun hne => hsub ?_
      exact mem_insertTrimmed.2 ⟨hne, raw, hraw, rfl⟩
  · rintro ⟨hclean, hwritten⟩
    constructor
    · intro name hname
      obtain ⟨hne, raw, hraw, rfl⟩ := mem_insertTrimmed.1 hname
      exact (hwritten raw hraw).resolve_left hne
    · intro name hname
      obtain ⟨htrimmed, hne⟩ := hclean name hname
      obtain ⟨raw, hraw, heq⟩ := hfound name hname
      exact mem_insertTrimmed.2 ⟨hne, raw, hraw, heq.trans htrimmed⟩

/-! ## What the generic extractor finds -/

namespace WorkloadSerde

variable {Text Json : Type} (serde : WorkloadSerde Text Json) (kind : KubeWorkloadKind) (yaml : Text)

/-- The generic value has the label among those of the pod template, its key and its value written as
strings. -/
def WritesLabel (key value : String) : Prop :=
  ∃ document labels entries, serde.fromStr yaml = some document ∧
    traverseYaml document kind.labelsPath = some labels ∧ labels.asMapping = some entries ∧
      (.string key, .string value) ∈ entries

/-- The generic value has the name at a reference of the pod spec, written as a string. -/
def WritesName (keys : DependencyKeys) (name : String) : Prop :=
  ∃ document spec, serde.fromStr yaml = some document ∧
    traverseYaml document kind.podSpecPath = some spec ∧ spec.RefersTo keys name

variable {serde kind yaml}

/-- The strings of YAML are its string values only. -/
theorem string?_eq_some {value : Yaml.Value} {s : String} :
    value.string? = some s ↔ value = .string s := by
  cases value <;> simp [Yaml.Value.string?]

/-- A label is an entry whose key and value are both strings. -/
theorem mem_filterMap_strings {entries : List (Yaml.Value × Yaml.Value)} {key value : String} :
    (key, value) ∈ entries.filterMap (fun e =>
      match e.1.string?, e.2.string? with
      | some k, some v => some (k, v)
      | _, _ => none) ↔ (.string key, .string value) ∈ entries := by
  rw [List.mem_filterMap]
  constructor
  · rintro ⟨⟨k, v⟩, hmem, he⟩
    dsimp only at he
    split at he
    · next hk hv =>
      cases he
      rw [string?_eq_some] at hk hv
      rwa [← hk, ← hv]
    · cases he
  · exact fun hmem => ⟨_, hmem, rfl⟩

/-- The labels of a mapping whose keys are distinct are its entries of strings. -/
theorem lookup_mappingToLabels {node : Yaml.Value} {entries : List (Yaml.Value × Yaml.Value)}
    (hentries : node.asMapping = some entries) (hdistinct : DistinctKeys entries)
    {key value : String} : (mappingToLabels node).lookup key = some value ↔
      (.string key, .string value) ∈ entries := by
  rw [mappingToLabels, hentries]
  dsimp only
  constructor
  · exact fun hlookup => mem_filterMap_strings.1 (HashTable.mem_of_lookup_collect hlookup)
  · intro hvalue
    obtain ⟨value', hvalue'⟩ :=
      HashTable.exists_lookup_collect (mem_filterMap_strings.2 hvalue)
    have hvalue'' := mem_filterMap_strings.1 (HashTable.mem_of_lookup_collect hvalue')
    have heq := List.inj_on_of_nodup_map hdistinct hvalue hvalue'' rfl
    cases heq
    exact hvalue'

/-- The labels that are extracted from a text are those that it writes. -/
theorem lookup_labelsFromWorkloadYaml (h : serde.Documented) {key value : String} :
    (labelsFromWorkloadYaml serde.fromStr kind yaml).lookup key = some value ↔
      serde.WritesLabel kind yaml key value := by
  rw [labelsFromWorkloadYaml]
  constructor
  · intro hlookup
    cases hdocument : serde.fromStr yaml with
    | none => simp [hdocument] at hlookup
    | some document =>
      rw [hdocument] at hlookup
      dsimp only at hlookup
      cases hlabels : traverseYaml document kind.labelsPath with
      | none => simp [hlabels] at hlookup
      | some labels =>
        rw [hlabels, Option.map_some, Option.getD_some] at hlookup
        cases hentries : labels.asMapping with
        | none => simp [mappingToLabels, hentries] at hlookup
        | some entries =>
          have hdistinct := ((h.distinct hdocument).traverseYaml hlabels).asMapping hentries
          exact ⟨document, labels, entries, hdocument, hlabels, hentries,
            (lookup_mappingToLabels hentries hdistinct.1).1 hlookup⟩
  · rintro ⟨document, labels, entries, hdocument, hlabels, hentries, hmem⟩
    rw [hdocument]
    dsimp only
    rw [hlabels, Option.map_some, Option.getD_some,
      lookup_mappingToLabels hentries
        (((h.distinct hdocument).traverseYaml hlabels).asMapping hentries).1]
    exact hmem

/-- Both sets hold the names that are written at references. -/
theorem mem_dependenciesFromWorkloadYaml {name : String} :
    (name ∈ (dependenciesFromWorkloadYaml serde.fromStr kind yaml).1 ↔
      serde.WritesName kind yaml .configMap name) ∧
    (name ∈ (dependenciesFromWorkloadYaml serde.fromStr kind yaml).2 ↔
      serde.WritesName kind yaml .secret name) := by
  have hspec : ∀ {keys}, serde.WritesName kind yaml keys name ↔
      ∃ spec, ((serde.fromStr yaml).bind fun value => traverseYaml value kind.podSpecPath) =
        some spec ∧ name ∈ collectDependenciesFromSpec keys spec := by
    intro keys
    simp only [WritesName, Option.bind_eq_some_iff, mem_collectDependenciesFromSpec]
    constructor
    · rintro ⟨document, spec, hdocument, htraverse, hname⟩
      exact ⟨spec, ⟨document, hdocument, htraverse⟩, hname⟩
    · rintro ⟨spec, ⟨document, hdocument, htraverse⟩, hname⟩
      exact ⟨document, spec, hdocument, htraverse, hname⟩
  rw [dependenciesFromWorkloadYaml, hspec, hspec]
  cases (serde.fromStr yaml).bind fun value => traverseYaml value kind.podSpecPath with
  | none => simp
  | some spec => simp

section
variable {resourceType : ResourceType} {template : Typed.PodTemplateSpec}

/-- The labels of a kind stand in the metadata of its template. -/
theorem labelsPath_eq (hkind : workloadKindFor resourceType = some kind) :
    kind.labelsPath = kind.templatePath ++ ["metadata", "labels"] := by
  cases resourceType <;> cases hkind <;> rfl

/-- The pod spec of a kind stands in its template. -/
theorem podSpecPath_eq (hkind : workloadKindFor resourceType = some kind) :
    kind.podSpecPath = kind.templatePath ++ ["spec"] := by
  cases resourceType <;> cases hkind <;> rfl

/-- A label that the generic value writes is one of the typed template, though perhaps with another
value. -/
theorem Documented.exists_label (h : serde.Documented)
    (huntagged : serde.Untagged yaml)
    (hkind : workloadKindFor resourceType = some kind)
    (htemplate : serde.podTemplate resourceType yaml = some template) {key value : String}
    (hwrites : serde.WritesLabel kind yaml key value) :
    ∃ value', template.labels.lookup key = some value' := by
  obtain ⟨document, labels, entries, hdocument, hlabels, hentries, hmem⟩ := hwrites
  rw [labelsPath_eq hkind] at hlabels
  obtain ⟨next, hnext, hreads⟩ :=
    h.template_reads ⟨hdocument, huntagged⟩ hkind htemplate hlabels
  obtain ⟨metadata, hmetadata, hnext⟩ := traverseYaml_cons.1 hnext
  obtain ⟨labels', hfield, hlast⟩ := traverseYaml_cons.1 hnext
  obtain rfl := Option.some.inj hlast
  have hnull : ¬labels'.IsNull := fun hnull => by rw [hnull.asMapping] at hentries; cases hentries
  obtain ⟨m, hm, hread⟩ := hreads.metadata.of_field hmetadata (not_isNull_of_field hfield)
  obtain ⟨texts, htexts, hread⟩ := ReadsOption.of_field hread hfield hnull
  obtain ⟨entries', texts', hentries', hpairs, rfl⟩ := hread
  rw [hentries] at hentries'
  cases hentries'
  obtain ⟨text, htext, hkey, -⟩ := exists_of_forall₂ hpairs hmem
  obtain ⟨k, v⟩ := text
  cases hkey
  rw [Typed.PodTemplateSpec.labels, hm, Option.bind_some, htexts]
  exact HashTable.exists_lookup_collect htext

/-- A name that the generic value writes is one of the typed pod spec. -/
theorem Documented.mem_names (h : serde.Documented)
    (huntagged : serde.Untagged yaml)
    (hkind : workloadKindFor resourceType = some kind)
    (htemplate : serde.podTemplate resourceType yaml = some template) {podSpec : Typed.PodSpec}
    (hpodSpec : template.spec = some podSpec) {keys : DependencyKeys} {refs : Typed.References}
    (hreach : keys.Reach refs) {name : String} (hwrites : serde.WritesName kind yaml keys name) :
    name ∈ podSpec.names refs := by
  obtain ⟨document, spec, hdocument, hspec, hname⟩ := hwrites
  rw [podSpecPath_eq hkind] at hspec
  obtain ⟨next, hnext, hreads⟩ :=
    h.template_reads ⟨hdocument, huntagged⟩ hkind htemplate hspec
  obtain ⟨spec', hfield, hlast⟩ := traverseYaml_cons.1 hnext
  obtain rfl := Option.some.inj hlast
  obtain ⟨p, hp, hread⟩ := hreads.spec.of_field hfield hname.not_isNull
  rw [hpodSpec] at hp
  cases hp
  exact hread.mem_names hreach hname

end

/-! ## Agreement -/

variable (serde kind yaml)

/-- Both extractors find the same labels, config maps and secrets. -/
structure ExtractorsAgree (e : ExtractedWorkload Json) : Prop where
  labels : BTreeMap.Same e.podLabels (labelsFromWorkloadYaml serde.fromStr kind yaml)
  configmaps : BTreeSet.Same e.configmapRefs (dependenciesFromWorkloadYaml serde.fromStr kind yaml).1
  secrets : BTreeSet.Same e.secretRefs (dependenciesFromWorkloadYaml serde.fromStr kind yaml).2

/-- An event with the text a workload was inserted with reports neither a label nor a dependency
change. -/
def FirstEventSilent [DecidableEq Json] (e : ExtractedWorkload Json) : Prop :=
  ∀ (workload : KubeAppCatalogWorkload.Model Text) (servicePorts : List KubeServicePort),
    let update := updateOf serde.toSerdeParsers (e.snapshot yaml) servicePorts workload
      (labelRows workload.clusterId workload.namespace
        (labelsFromWorkloadYaml serde.fromStr kind yaml))
      (dependencyRows workload.appCatalogId workload.clusterId workload.namespace
        (dependenciesFromWorkloadYaml serde.fromStr kind yaml))
    update.labelsChanged = false ∧ update.dependenciesChanged = false

/-- The names that are written at references to resources of one type are read there. -/
def NamesRead (keys : DependencyKeys) (names : List String) : Prop :=
  ∀ name, serde.WritesName kind yaml keys name → ∃ raw ∈ names, trimmed raw = trimmed name

/-- What is written as a string is read into the typed object. -/
structure ReadsWritten (template : Typed.PodTemplateSpec) (podSpec : Typed.PodSpec) : Prop where
  labels : kind ≠ .cronJob → ∀ key value, serde.WritesLabel kind yaml key value →
    ∃ value', template.labels.lookup key = some value'
  configmaps : serde.NamesRead kind yaml .configMap (podSpec.names .configMap)
  secrets : serde.NamesRead kind yaml .secret (podSpec.names .secret)

/-- What is written at references to resources of one type is trimmed and not empty, and each of the
names the typed pod spec has there, unless it is blank, is written as a string. -/
structure NamesWritten (keys : DependencyKeys) (names : List String) : Prop where
  clean : ∀ name, serde.WritesName kind yaml keys name → trimmed name = name ∧ name ≠ ""
  written : ∀ name ∈ names, trimmed name = "" ∨ serde.WritesName kind yaml keys (trimmed name)

/-- The labels that the typed extractor reads are written as strings among those of the pod template;
for a `CronJob`, the labels of the job template are those written so. -/
def LabelsWritten (template : Typed.PodTemplateSpec) : Prop :=
  match kind with
  | .cronJob => ∀ key value, (serde.jobTemplateLabels yaml).lookup key = some value ↔
      serde.WritesLabel kind yaml key value
  | _ => ∀ key value, template.labels.lookup key = some value →
      serde.WritesLabel kind yaml key value

/-- The labels and the names of references are written as strings. What is written so may be missing
from the typed object only where a key has a tag. -/
structure WrittenAsStrings (template : Typed.PodTemplateSpec) (podSpec : Typed.PodSpec) : Prop where
  read : serde.Untagged yaml ∨ serde.ReadsWritten kind yaml template podSpec
  labels : serde.LabelsWritten kind yaml template
  configmaps : serde.NamesWritten kind yaml .configMap (podSpec.names .configMap)
  secrets : serde.NamesWritten kind yaml .secret (podSpec.names .secret)

variable {serde kind yaml}

/-- Where the extractors agree, the first event is silent: rows are missing only for an empty map or
set. -/
theorem ExtractorsAgree.firstEventSilent [DecidableEq Json] {e : ExtractedWorkload Json}
    (h : serde.ExtractorsAgree kind yaml e) : serde.FirstEventSilent kind yaml e := by
  obtain ⟨hlabels, hconfigmaps, hsecrets⟩ := h
  intro workload servicePorts
  simp only [updateOf, computeCatalogWorkloadUpdate, labelsOfLive_labelRows,
    dependenciesOfLive_dependencyRows, ExtractedWorkload.snapshot]
  constructor
  · split
    · next labels hsome =>
      split at hsome
      · cases hsome
      · cases hsome
        refine decide_eq_false (not_not_intro ?_)
        exact (same_collect_entries _).trans hlabels.symm
    · next hnone =>
      split at hnone
      · next hempty =>
        rw [List.isEmpty_iff] at hempty
        rw [BTreeMap.Same, hempty] at hlabels
        simp [hlabels.eq_nil]
      · cases hnone
  · split
    · next configmaps secrets hsome =>
      split at hsome
      · cases hsome
      · rw [Option.some.inj hsome] at hconfigmaps hsecrets
        rw [Bool.or_eq_false_iff]
        exact ⟨decide_eq_false (not_not_intro hconfigmaps.symm),
          decide_eq_false (not_not_intro hsecrets.symm)⟩
    · next hnone =>
      split at hnone
      · next hempty =>
        rw [Bool.and_eq_true, List.isEmpty_iff, List.isEmpty_iff] at hempty
        rw [BTreeSet.Same, hempty.1] at hconfigmaps
        rw [BTreeSet.Same, hempty.2] at hsecrets
        simp [List.subset_nil.1 hconfigmaps.1, List.subset_nil.1 hsecrets.1]
      · cases hnone

/-- Without tagged keys, all that is written as a string is read. -/
theorem Documented.readsWritten {template : Typed.PodTemplateSpec} {podSpec : Typed.PodSpec}
    {resourceType : ResourceType} (h : serde.Documented) (huntagged : serde.Untagged yaml)
    (hkind : workloadKindFor resourceType = some kind)
    (htemplate : serde.podTemplate resourceType yaml = some template)
    (hpodSpec : template.spec = some podSpec) : serde.ReadsWritten kind yaml template podSpec where
  labels _ _ _ hwrites := h.exists_label huntagged hkind htemplate hwrites
  configmaps name hwrites := ⟨name, h.mem_names huntagged hkind htemplate hpodSpec
    DependencyKeys.reach_configMap hwrites, rfl⟩
  secrets name hwrites := ⟨name, h.mem_names huntagged hkind htemplate hpodSpec
    DependencyKeys.reach_secret hwrites, rfl⟩

/-- Where the labels written are read, the maps are the same if the labels read are written. -/
theorem Documented.same_labels_iff (h : serde.Documented) {template : Typed.PodTemplateSpec} :
    BTreeMap.Same (if kind = .cronJob then serde.jobTemplateLabels yaml else template.labels)
        (labelsFromWorkloadYaml serde.fromStr kind yaml) ↔
      (kind ≠ .cronJob → ∀ key value, serde.WritesLabel kind yaml key value →
        ∃ value', template.labels.lookup key = some value') ∧
          serde.LabelsWritten kind yaml template := by
  simp only [BTreeMap.same_iff, lookup_labelsFromWorkloadYaml h]
  by_cases hcron : kind = .cronJob
  · subst hcron
    rw [if_pos rfl, LabelsWritten]
    exact ⟨fun hsame => ⟨fun hne => absurd rfl hne, hsame⟩, And.right⟩
  · have hwritten : serde.LabelsWritten kind yaml template ↔ ∀ key value,
        template.labels.lookup key = some value → serde.WritesLabel kind yaml key value := by
      cases kind with
      | cronJob => exact absurd rfl hcron
      | _ => rfl
    rw [if_neg hcron, hwritten]
    constructor
    · intro hsame
      exact ⟨fun _ key value hvalue => ⟨value, (hsame key value).2 hvalue⟩,
        fun key value => (hsame key value).1⟩
    · rintro ⟨hread, hwrites⟩ key value
      refine ⟨hwrites key value, fun hvalue => ?_⟩
      obtain ⟨value', hvalue'⟩ := hread hcron key value hvalue
      rw [← lookup_labelsFromWorkloadYaml h] at hvalue
      have hvalue'' := (lookup_labelsFromWorkloadYaml h).2 (hwrites key value' hvalue')
      rw [hvalue''] at hvalue
      cases hvalue
      exact hvalue'

/-- The names read, trimmed, are those found exactly if those found are read and clean, and those
read are written. -/
theorem same_names_iff {keys : DependencyKeys} {names : List String} {found : BTreeSet String}
    (hfound : ∀ {name}, name ∈ found ↔ serde.WritesName kind yaml keys name) :
    BTreeSet.Same (insertTrimmed names) found ↔
      serde.NamesRead kind yaml keys names ∧ serde.NamesWritten kind yaml keys names := by
  constructor
  · intro hsame
    have hread : serde.NamesRead kind yaml keys names := by
      intro name hname
      obtain ⟨-, raw, hraw, rfl⟩ := mem_insertTrimmed.1 (hsame.2 (hfound.2 hname))
      exact ⟨raw, hraw, (trimmed_trimmed raw).symm⟩
    obtain ⟨hclean, hwritten⟩ :=
      (same_insertTrimmed_iff fun name hname => hread name (hfound.1 hname)).1 hsame
    refine ⟨hread, fun name hname => hclean name (hfound.2 hname), fun name hname => ?_⟩
    exact (hwritten name hname).imp_right hfound.1
  · rintro ⟨hread, hclean, hwritten⟩
    refine (same_insertTrimmed_iff fun name hname => hread name (hfound.1 hname)).2 ⟨?_, ?_⟩
    · exact fun name hname => hclean name (hfound.1 hname)
    · exact fun name hname => (hwritten name hname).imp_right hfound.2

/-- **The extractors agree** on a workload text, and its first event is silent, exactly if its labels
and the names of its references are written as strings, the names trimmed and not empty, and the job
template of a `CronJob` has the labels of its pod template. -/
theorem extractors_agree_iff [DecidableEq Json] (h : serde.Documented) (resourceType : ResourceType)
    (hkind : workloadKindFor resourceType = some kind)
    {e : ExtractedWorkload Json} (hextract : extractWorkloadFromYaml serde resourceType yaml = .ok e) :
    serde.ExtractorsAgree kind yaml e ∧ serde.FirstEventSilent kind yaml e ↔
      ∃ template podSpec, serde.podTemplate resourceType yaml = some template ∧
        template.spec = some podSpec ∧ serde.WrittenAsStrings kind yaml template podSpec := by
  obtain ⟨template, podSpec, hread⟩ := extractWorkloadFromYaml_eq_ok hkind hextract
  obtain ⟨hconfigmaps, hsecrets⟩ := Prod.mk.inj hread.refs
  have hcron : resourceType = .cronJob ↔ kind = .cronJob := by
    cases resourceType <;> cases hkind <;> simp
  have hlabels : e.podLabels =
      if kind = .cronJob then serde.jobTemplateLabels yaml else template.labels := by
    rw [hread.labels, if_congr hcron rfl rfl]
  have hagree : serde.ExtractorsAgree kind yaml e ↔
      serde.WrittenAsStrings kind yaml template podSpec := by
    have hall : serde.ExtractorsAgree kind yaml e ↔
        serde.ReadsWritten kind yaml template podSpec ∧
          serde.WrittenAsStrings kind yaml template podSpec := by
      constructor
      · rintro ⟨hsame, hsame₁, hsame₂⟩
        rw [hlabels, h.same_labels_iff] at hsame
        rw [hconfigmaps, same_names_iff mem_dependenciesFromWorkloadYaml.1] at hsame₁
        rw [hsecrets, same_names_iff mem_dependenciesFromWorkloadYaml.2] at hsame₂
        have hreads : serde.ReadsWritten kind yaml template podSpec := ⟨hsame.1, hsame₁.1, hsame₂.1⟩
        exact ⟨hreads, .inr hreads, hsame.2, hsame₁.2, hsame₂.2⟩
      · rintro ⟨hreads, hwritten⟩
        constructor
        · rw [hlabels, h.same_labels_iff]
          exact ⟨hreads.labels, hwritten.labels⟩
        · rw [hconfigmaps, same_names_iff mem_dependenciesFromWorkloadYaml.1]
          exact ⟨hreads.configmaps, hwritten.configmaps⟩
        · rw [hsecrets, same_names_iff mem_dependenciesFromWorkloadYaml.2]
          exact ⟨hreads.secrets, hwritten.secrets⟩
    refine hall.trans ⟨And.right, fun hwritten => ⟨?_, hwritten⟩⟩
    exact hwritten.read.elim
      (fun huntagged => h.readsWritten huntagged hkind hread.parsed hread.spec) id
  rw [and_iff_left_of_imp ExtractorsAgree.firstEventSilent, hagree]
  constructor
  · exact fun hwritten => ⟨template, podSpec, hread.parsed, hread.spec, hwritten⟩
  · rintro ⟨template', podSpec', htemplate, hpodSpec, hwritten⟩
    cases hread.parsed.symm.trans htemplate
    cases hread.spec.symm.trans hpodSpec
    exact hwritten

end WorkloadSerde

/-! ## Two manifests -/

/-- A mapping with string keys. -/
def Yaml.Value.object (entries : List (String × Yaml.Value)) : Yaml.Value :=
  .mapping (entries.map fun e => (.string e.1, e.2))

section
variable {P : List (Yaml.Value × Yaml.Value) → Prop}

/-- A string has no mappings. -/
theorem Yaml.Value.eachMapping_string (s : String) : (Yaml.Value.string s).EachMapping P := .string s

/-- The mappings of a sequence are those of its items. -/
theorem Yaml.Value.eachMapping_sequence {items : List Yaml.Value} :
    (Yaml.Value.sequence items).EachMapping P ↔ ∀ item ∈ items, item.EachMapping P :=
  ⟨fun | .sequence h => h, .sequence⟩

/-- The mappings of an object are itself and those of its values. -/
theorem Yaml.Value.eachMapping_object {entries : List (String × Yaml.Value)} :
    (Yaml.Value.object entries).EachMapping P ↔
      P (entries.map fun e => (.string e.1, e.2)) ∧ ∀ e ∈ entries, e.2.EachMapping P := by
  constructor
  · rintro (_ | _ | _ | _ | _ | ⟨h, -, hvalues⟩)
    exact ⟨h, fun e he => hvalues _ (List.mem_map_of_mem he)⟩
  · rintro ⟨h, hvalues⟩
    refine .mapping h (fun e he => ?_) fun e he => ?_
    · obtain ⟨e, -, rfl⟩ := List.mem_map.1 he
      exact .string e.1
    · obtain ⟨e', he', rfl⟩ := List.mem_map.1 he
      exact hvalues e' he'

end

/-- A pod template with one label and one container, which reads the config map `settings`. -/
def templateYaml (app : String) : Yaml.Value :=
  .object [("metadata", .object [("labels", .object [("app", .string app)])]),
    ("spec", .object [("containers", .sequence [.object [("name", .string app),
      ("image", .string "nginx:1"),
      ("envFrom", .sequence [.object [("configMapRef", .object [("name", .string "settings")])]])]])])]

/-- The typed object of the same pod template. -/
def typedTemplate (app : String) : Typed.PodTemplateSpec :=
  { metadata := some ⟨some (HashTable.collect [("app", app)])⟩
    spec := some
      { containers :=
          [{ name := app
             image := some "nginx:1"
             ports := none
             resources := none
             env := none
             envFrom := some [⟨some ⟨"settings"⟩, none⟩] }]
        initContainers := none
        ephemeralContainers := none
        volumes := none } }

open Yaml.Value in
/-- The sample template is read as the typed one. -/
theorem reads_typedTemplate (app : String) :
    (templateYaml app).ReadsPodTemplateSpec (typedTemplate app) := by
  refine ⟨⟨_, [("app", app)], rfl, .cons ⟨rfl, rfl⟩ .nil, rfl⟩, ?_⟩
  refine ⟨⟨some _, ⟨_, rfl, .cons ?_ .nil⟩, rfl⟩, rfl, rfl, rfl⟩
  exact ⟨rfl, _, rfl, .cons ⟨⟨some "settings", rfl, rfl⟩, rfl⟩ .nil⟩

/-- Two manifests: the Deployment `web`, and the CronJob `nightly` whose job template has no labels. -/
inductive SampleText
  | web
  | nightly

/-- The generic value of a manifest. -/
def SampleText.document : SampleText → Yaml.Value
  | web => .object [("spec", .object [("template", templateYaml "web")])]
  | nightly => .object [("spec", .object [("jobTemplate", .object [("spec", .object
      [("template", templateYaml "nightly")])])])]

/-- The spec of `web` as JSON, a list of paths. -/
def webSpec : List (String × String) :=
  [("template.metadata.labels.app", "web"), ("template.spec.containers.0.name", "web"),
    ("template.spec.containers.0.image", "nginx:1"),
    ("template.spec.containers.0.envFrom.0.configMapRef.name", "settings")]

/-- The parsers of the two manifests. -/
def sampleSerde : WorkloadSerde SampleText (List (String × String)) where
  fromStr text := some text.document
  toValue _ := some webSpec
  removeKey key entries := entries.filter fun e => e.1 ≠ key
  deployment
    | .web => .ok ⟨⟨none⟩, some ⟨typedTemplate "web", some webSpec⟩, none⟩
    | .nightly => .error "not a Deployment"
  statefulSet _ := .error "not a StatefulSet"
  daemonSet _ := .error "not a DaemonSet"
  replicaSet _ := .error "not a ReplicaSet"
  job _ := .error "not a Job"
  cronJob
    | .web => .error "not a CronJob"
    | .nightly => .ok ⟨⟨none⟩, some ⟨⟨none, some ⟨typedTemplate "nightly", none⟩⟩, some []⟩, ()⟩

open Yaml.Value in
/-- The sample reader does what is documented. -/
theorem documented_sampleSerde : sampleSerde.Documented where
  distinct {yaml} := by
    rintro value ⟨⟩
    cases yaml <;>
      simp [SampleText.document, templateYaml, eachMapping_object, eachMapping_sequence,
        eachMapping_string, DistinctKeys]
  deployment := by
    rintro yaml value object ⟨hvalue, -⟩ hobject
    cases yaml <;> cases hobject
    cases hvalue
    exact ⟨some _, reads_typedTemplate "web", rfl⟩
  statefulSet _ := nofun
  daemonSet _ := nofun
  replicaSet _ := nofun
  job _ := nofun
  cronJob := by
    rintro yaml value object ⟨hvalue, -⟩ hobject
    cases yaml <;> cases hobject
    cases hvalue
    refine ⟨some ⟨none, some ⟨typedTemplate "nightly", none⟩⟩, ⟨rfl, ?_⟩, rfl⟩
    exact ⟨some _, reads_typedTemplate "nightly", rfl⟩

/-- No text of the sample has a tag. -/
theorem untagged_sampleSerde (yaml : SampleText) : sampleSerde.Untagged yaml := by
  rintro value ⟨⟩
  cases yaml <;>
    simp [SampleText.document, templateYaml, Yaml.Value.eachMapping_object,
      Yaml.Value.eachMapping_sequence, Yaml.Value.eachMapping_string, Yaml.Value.PlainKeys]

namespace WorkloadSerde

/-- Both extractors find the label and the config map of `web`. -/
theorem extractors_agree_web :
    ∃ e, extractWorkloadFromYaml sampleSerde .deployment .web = .ok e ∧
      (sampleSerde.ExtractorsAgree .deployment .web e ∧
        sampleSerde.FirstEventSilent .deployment .web e) := by
  have hfound : dependenciesFromWorkloadYaml sampleSerde.fromStr .deployment .web =
      (["settings"], []) := by
    decide
  have hconfigmaps : ∀ name, sampleSerde.WritesName .deployment .web .configMap name ↔
      name = "settings" := fun name => by
    rw [← mem_dependenciesFromWorkloadYaml.1, hfound, List.mem_singleton]
  have hsecrets : ∀ name, ¬sampleSerde.WritesName .deployment .web .secret name := fun name => by
    rw [← mem_dependenciesFromWorkloadYaml.2, hfound]
    exact List.not_mem_nil
  refine ⟨_, rfl, (extractors_agree_iff documented_sampleSerde .deployment rfl rfl).2
    ⟨typedTemplate "web", _, rfl, rfl, .inl (untagged_sampleSerde _), ?_, ⟨?_, ?_⟩, ⟨?_, ?_⟩⟩⟩
  · intro key value hlookup
    obtain ⟨rfl, rfl⟩ := Prod.mk.inj (List.mem_singleton.1 (HashTable.mem_of_lookup_collect hlookup))
    exact ⟨_, _, _, rfl, rfl, rfl, .head _⟩
  · intro name hname
    obtain rfl := (hconfigmaps name).1 hname
    decide
  · intro name hname
    obtain rfl := List.mem_singleton.1 hname
    exact .inr ((hconfigmaps _).2 (by decide))
  · exact fun name hname => absurd hname (hsecrets name)
  · exact fun name hname => absurd hname List.not_mem_nil

/-- Of `nightly` the typed extractor takes the labels of the job template, and there are none; the
other one finds the label of the pod template. -/
theorem labels_nightly :
    ¬∀ (serde : WorkloadSerde SampleText (List (String × String))) (resourceType : ResourceType)
      (kind : KubeWorkloadKind) (yaml : SampleText) (e : ExtractedWorkload (List (String × String))),
      serde.Documented → workloadKindFor resourceType = some kind →
        extractWorkloadFromYaml serde resourceType yaml = .ok e → serde.ExtractorsAgree kind yaml e := by
  intro h
  have hagree := h sampleSerde .cronJob .cronJob .nightly _ documented_sampleSerde rfl rfl
  have hlabels := hagree.labels
  revert hlabels
  decide

end WorkloadSerde

end Lapdev
