import Lapdev.Kube.EventChanges
import Lapdev.Logic.Firsts

/-!
# Ports and the order of the services

The queries on cluster services have no `ORDER BY`. The ports of a workload are collected in the
order of the services and then compared as a list with the stored ones, so both handlers may find a
change where there is none but the order (`sameDecision_iff`).
-/

namespace Lapdev

open RustStd Sql Programs Lists

variable {Text Json : Type}

/-! ## Collected ports -/

/-- By what `ports_from_cached_services` tells ports apart. -/
def portKey (port : KubeServicePort) : Int × Option Int × Option String :=
  (port.port, port.originalTargetPort.or port.targetPort, port.protocol)

theorem collectPorts_eq_firsts (ports : List KubeServicePort)
    (seen : List (Int × Option Int × Option String)) :
    collectPorts ports seen = firsts portKey ports seen := by
  induction ports generalizing seen with
  | nil => rfl
  | cons port ports ih =>
    rw [collectPorts, ih, ih]
    by_cases hmem : portKey port ∈ seen
    · rw [firsts_cons_of_mem hmem]
      exact if_pos hmem
    · rw [firsts_cons_of_not_mem hmem]
      exact if_neg hmem

/-- The ports of each service that selects a workload. -/
def selectedPorts (labels : BTreeMap String String) (services : List (CachedClusterService Text)) :
    List (List KubeServicePort) :=
  (services.filter fun service => service.selects labels).map (·.ports)

theorem portsFromCachedServices_eq_firsts (labels : BTreeMap String String)
    (services : List (CachedClusterService Text)) :
    portsFromCachedServices labels services =
      firsts portKey (selectedPorts labels services).flatten [] := by
  rw [portsFromCachedServices, collectPorts_eq_firsts, selectedPorts, List.flatMap_def]

/-! ## Databases that differ in the order of the services -/

/-- The same database, with the services in some order. -/
structure Reordered (db db' : Database Text) : Prop where
  services : db'.clusterServices.rows.Perm db.clusterServices.rows
  others : db' = { db with clusterServices := db'.clusterServices }

/-- Every order of a selection comes from an order of the whole. -/
theorem exists_perm_of_map_filter {α β : Type} {l : List α} {p : α → Bool} {f : α → β}
    {ys : List β} (h : ys.Perm ((l.filter p).map f)) :
    ∃ l' : List α, l'.Perm l ∧ (l'.filter p).map f = ys := by
  have hmap : List.Forall₂ (fun b a => b = f a) ((l.filter p).map f) (l.filter p) :=
    List.forall₂_map_left_iff.2 (List.forall₂_same.2 fun _ _ => rfl)
  obtain ⟨zs, hzs, hperm⟩ := List.perm_comp_forall₂ h hmap
  have hselected : zs.filter p = zs :=
    List.filter_eq_self.2 fun a ha => (List.mem_filter.1 (hperm.subset ha)).2
  have hrest : (l.filter fun a => !p a).filter p = [] :=
    List.filter_eq_nil_iff.2 fun a ha => by simpa using (List.mem_filter.1 ha).2
  refine ⟨zs ++ l.filter fun a => !p a, ?_, ?_⟩
  · exact (hperm.append_right _).trans (List.filter_append_perm p l)
  · rw [List.filter_append, hselected, hrest, List.append_nil]
    exact (List.forall₂_eq_eq_eq ▸ List.forall₂_map_right_iff.2 hzs : _).symm

namespace DbApi

/-- The services that are read are a selection of the live ones. -/
theorem matchingServices_eq (db : Database Text) (clusterId : Uuid) («namespace» : String)
    (labels : BTreeMap String String) :
    matchingServices db clusterId «namespace» labels =
      if labels.entries.isEmpty then []
      else
        (db.clusterServices.select fun row =>
          row.id ∈ matchingServiceIds labels (db.clusterServiceSelectors.select fun row =>
            row.clusterId = clusterId && row.namespace = «namespace» && row.deletedAt = none) &&
          row.deletedAt = none).map cachedService := by
  have hrun := run_getMatchingClusterServices db clusterId «namespace» labels
  unfold getMatchingClusterServices at hrun
  split at hrun
  · next hempty =>
    rw [if_pos hempty]
    exact (Except.ok.inj (congrArg Prod.fst hrun)).symm
  · next hlabels =>
    rw [if_neg hlabels]
    rw [Program.run_bind, Program.run_read] at hrun
    dsimp only at hrun
    split at hrun
    · next hempty =>
      rw [List.isEmpty_iff.1 hempty, ← Except.ok.inj (congrArg Prod.fst hrun)]
      simp [Table.select]
    · exact (Except.ok.inj (congrArg Prod.fst hrun)).symm

end DbApi

/-- The ports of each service that an event finds for labels. -/
def foundPorts (clusterId : Uuid) («namespace» : String) (labels : BTreeMap String String)
    (db : Database Text) : List (List KubeServicePort) :=
  selectedPorts labels (DbApi.matchingServices db clusterId «namespace» labels)

section
variable {clusterId : Uuid} {«namespace» : String} {labels : BTreeMap String String}
  {db db' : Database Text}

theorem Reordered.refl (db : Database Text) : Reordered db db := ⟨.refl _, rfl⟩

/-- The services that are read, as one selection of the rows. -/
theorem foundPorts_eq : foundPorts clusterId «namespace» labels db =
    if labels.entries.isEmpty then []
    else
      (db.clusterServices.rows.filter fun row =>
        (row.id ∈ DbApi.matchingServiceIds labels (db.clusterServiceSelectors.select fun row =>
          row.clusterId = clusterId && row.namespace = «namespace» && row.deletedAt = none) &&
        row.deletedAt = none) && (DbApi.cachedService row).selects labels).map
          fun row => (DbApi.cachedService row).ports := by
  rw [foundPorts, DbApi.matchingServices_eq]
  split
  · rfl
  · rw [selectedPorts, Table.select, List.filter_map, List.map_map, List.filter_filter]
    congr 2
    funext row
    exact Bool.and_comm _ _

/-- The same ports are found, in some order. -/
theorem Reordered.foundPorts_perm (h : Reordered db db') :
    (foundPorts clusterId «namespace» labels db').Perm
      (foundPorts clusterId «namespace» labels db) := by
  rw [foundPorts_eq, foundPorts_eq, h.others]
  split
  · exact .refl _
  · exact (h.services.filter _).map _

/-- Every order of the found ports is one of some order of the services. -/
theorem exists_reordered {ports : List (List KubeServicePort)}
    (h : ports.Perm (foundPorts clusterId «namespace» labels db)) :
    ∃ db', Reordered db db' ∧ foundPorts clusterId «namespace» labels db' = ports := by
  rw [foundPorts_eq] at h
  split at h
  · next hempty =>
    refine ⟨db, .refl db, ?_⟩
    rw [foundPorts_eq, if_pos hempty, h.eq_nil]
  · next hlabels =>
    obtain ⟨rows, hrows, heq⟩ := exists_perm_of_map_filter h
    obtain ⟨t, rfl⟩ := Table.exists_of_perm hrows
    refine ⟨{ db with clusterServices := t }, ⟨hrows, rfl⟩, ?_⟩
    rw [foundPorts_eq, if_neg hlabels]
    exact heq

/-- Whether the found ports are the stored ones does not depend on the order of the services: each
service lists a prefix of what the other lists, or the stored ports are made of no order of them. -/
def OrderFree (clusterId : Uuid) («namespace» : String) (labels : BTreeMap String String)
    (db : Database Text) (ports : List KubeServicePort) : Prop :=
  Nested portKey (foundPorts clusterId «namespace» labels db) ∨
    ¬Blocks portKey (foundPorts clusterId «namespace» labels db) [] ports

theorem orderFree_iff {ports : List KubeServicePort} :
    (∀ db₁ db₂, Reordered db db₁ → Reordered db db₂ →
      (portsFromCachedServices labels (DbApi.matchingServices db₁ clusterId «namespace» labels) =
          ports ↔
        portsFromCachedServices labels (DbApi.matchingServices db₂ clusterId «namespace» labels) =
          ports)) ↔
      OrderFree clusterId «namespace» labels db ports := by
  rw [OrderFree, ← firsts_eq_iff_of_perm]
  simp only [portsFromCachedServices_eq_firsts]
  constructor
  · intro h parts₁ parts₂ hperm₁ hperm₂
    obtain ⟨db₁, hdb₁, rfl⟩ := exists_reordered hperm₁
    obtain ⟨db₂, hdb₂, rfl⟩ := exists_reordered hperm₂
    exact h db₁ db₂ hdb₁ hdb₂
  · intro h db₁ db₂ hdb₁ hdb₂
    exact h _ _ hdb₁.foundPorts_perm hdb₂.foundPorts_perm

end

/-! ## The decisions of the two handlers -/

/-- Whether a handler updates the stored ports of a workload, and whether it bumps its catalog. It
does neither with a workload its loop does not walk over. -/
def CatalogChange.decides {db : Database Text} (change : CatalogChange db)
    (w : KubeAppCatalogWorkload.Model Text) : Bool × Bool :=
  ((change.written w).ports ≠ w.ports, w.id ∈ change.workloads.map (·.id) && change.bump w)

/-- Nothing is decided about a workload the loop leaves out. -/
theorem CatalogChange.decides_of_not_mem {db : Database Text} (change : CatalogChange db)
    {w : KubeAppCatalogWorkload.Model Text} (h : w.id ∉ change.workloads.map (·.id)) :
    change.decides w = (false, false) := by
  simp [decides, written, h]

/-- About a workload of the loop, its body decides. -/
theorem CatalogChange.decides_of_mem {db : Database Text} (change : CatalogChange db)
    {w : KubeAppCatalogWorkload.Model Text} (h : w ∈ change.workloads) :
    change.decides w = (decide ((change.put w).ports ≠ w.ports), change.bump w) := by
  rw [decides, change.written_of_mem h, decide_eq_true (List.mem_map_of_mem h), Bool.true_and]

/-- A handler decides the same about a workload in every order of the services. -/
def SameDecision (change : (db : Database Text) → CatalogChange db) (db : Database Text)
    (w : KubeAppCatalogWorkload.Model Text) : Prop :=
  ∀ db₁ db₂, Reordered db db₁ → Reordered db db₂ →
    (change db₁).decides w = (change db₂).decides w

section
variable {change : (db : Database Text) → CatalogChange db} {db : Database Text}
  {w : KubeAppCatalogWorkload.Model Text}

/-- A loop that walks over a fixed selection of the workloads decides the same about a workload of
the catalogs exactly if it leaves the workload out or its body decides the same. -/
theorem sameDecision_iff_of_mem (hw : w ∈ db.catalogWorkloads.rows)
    (hloop : ∀ db', Reordered db db' → (change db').workloads = (change db).workloads) :
    SameDecision change db w ↔ w ∉ (change db).workloads ∨
      ∀ db₁ db₂, Reordered db db₁ → Reordered db db₂ →
        (((change db₁).put w).ports ≠ w.ports ↔ ((change db₂).put w).ports ≠ w.ports) ∧
          (change db₁).bump w = (change db₂).bump w := by
  by_cases hmem : w ∈ (change db).workloads
  · rw [or_iff_right (not_not_intro hmem)]
    refine forall₄_congr fun db₁ db₂ h₁ h₂ => ?_
    rw [(change db₁).decides_of_mem (hloop db₁ h₁ ▸ hmem),
      (change db₂).decides_of_mem (hloop db₂ h₂ ▸ hmem), Prod.mk.injEq, decide_eq_decide]
  · refine iff_of_true (fun db₁ db₂ h₁ h₂ => ?_) (.inl hmem)
    have hleft : ∀ db', Reordered db db' → (change db').decides w = (false, false) := by
      intro db' h
      refine (change db').decides_of_not_mem fun hid => hmem ?_
      rw [hloop db' h] at hid
      obtain ⟨w', hw', heq⟩ := List.mem_map.1 hid
      exact (change db).eq_of_id hw' hw heq.symm ▸ hw'
    rw [hleft db₁ h₁, hleft db₂ h₂]

/-- A body that looks at the services for the ports only decides by comparing these. -/
theorem sameBody_iff_orderFree {clusterId : Uuid} {«namespace» : String}
    {labels : BTreeMap String String} (other : Bool)
    (h : ∀ db', Reordered db db' →
      let changed := portsFromCachedServices labels
        (DbApi.matchingServices db' clusterId «namespace» labels) ≠ w.ports
      (((change db').put w).ports ≠ w.ports ↔ changed) ∧
        (change db').bump w = (other || decide changed)) :
    (∀ db₁ db₂, Reordered db db₁ → Reordered db db₂ →
      (((change db₁).put w).ports ≠ w.ports ↔ ((change db₂).put w).ports ≠ w.ports) ∧
        (change db₁).bump w = (change db₂).bump w) ↔
      OrderFree clusterId «namespace» labels db w.ports := by
  rw [← orderFree_iff]
  refine forall₄_congr fun db₁ db₂ h₁ h₂ => ?_
  obtain ⟨hports₁, hbump₁⟩ := h db₁ h₁
  obtain ⟨hports₂, hbump₂⟩ := h db₂ h₂
  rw [hports₁, hports₂, hbump₁, hbump₂, not_iff_not]
  refine and_iff_left_of_imp fun heq => ?_
  rw [decide_eq_decide.2 (not_congr heq)]

end

namespace KubeClusterServer

section
variable [DecidableEq Json] (serde : SerdeParsers Text Json) (clusterId : Uuid)
  (event : ResourceChangeEvent) (workloadKind : KubeWorkloadKind) (new : WorkloadSnapshot Text Json)
  («namespace» : String) (selectorMap : BTreeMap String String) (db : Database Text)
  (w : KubeAppCatalogWorkload.Model Text)

/-- The labels a service event reads of a workload. -/
def reconciledLabels : BTreeMap String String :=
  (labelsOf (selectedLabels clusterId «namespace» selectorMap db) w.id).getD ∅

/-- A workload of another kind is skipped. -/
theorem put_of_otherKind (h : ∃ kind ∈ KubeWorkloadKind.parse w.kind, kind ≠ workloadKind) :
    (workloadEventChange serde clusterId event workloadKind new db).put w = w ∧
      (workloadEventChange serde clusterId event workloadKind new db).bump w = false := by
  have hnone : eventUpdate serde clusterId event workloadKind new db w = none := if_pos h
  simp [workloadEventChange, hnone]

/-- What a workload event decides about a workload of its kind: of the five comparisons, only that
of the ports looks at the services. -/
theorem put_of_sameKind (h : ¬∃ kind ∈ KubeWorkloadKind.parse w.kind, kind ≠ workloadKind) :
    ∃ other : Bool, ∀ db', Reordered db db' →
      let change := workloadEventChange serde clusterId event workloadKind new db'
      let changed := portsFromCachedServices new.labels
        (DbApi.matchingServices db' clusterId event.namespace new.labels) ≠ w.ports
      ((change.put w).ports ≠ w.ports ↔ changed) ∧ change.bump w = (other || decide changed) := by
  let update (db' : Database Text) (ports : List KubeServicePort) : CatalogWorkloadUpdate Text :=
    computeCatalogWorkloadUpdate serde w new ports
      (labelsOf (db'.catalogWorkloadLabels.select fun row =>
        row.workloadId ∈ (eventWorkloads clusterId event db').map (·.id) && row.deletedAt = none)
        w.id)
      (dependenciesOf (db'.catalogWorkloadDependencies.select fun row =>
        row.workloadId ∈ (eventWorkloads clusterId event db').map (·.id) && row.deletedAt = none)
        w.id)
  have hsome : ∀ db', eventUpdate serde clusterId event workloadKind new db' w =
      some (update db' (portsFromCachedServices new.labels
        (DbApi.matchingServices db' clusterId event.namespace new.labels))) := fun db' => if_neg h
  -- the other four comparisons do not read the services
  have hother : ∀ db', Reordered db db' → ∀ ports, (update db' ports).requiresCatalogBump =
      ((update db w.ports).requiresCatalogBump || decide (ports ≠ w.ports)) := by
    intro db' hdb' ports
    have hupdate : update db' ports = update db ports := by rw [hdb'.others]; rfl
    rw [hupdate]
    simp only [update, computeCatalogWorkloadUpdate, CatalogWorkloadUpdate.requiresCatalogBump,
      ne_eq, not_true_eq_false, decide_false]
    generalize decide ¬ports = w.ports = changed
    cases changed <;> simp
  have hports : ∀ db' ports, ((update db' ports).write w).ports = ports := by
    intro db' ports
    simp only [update, computeCatalogWorkloadUpdate, CatalogWorkloadUpdate.write]
    by_cases heq : ports = w.ports <;> simp [heq]
  refine ⟨(update db w.ports).requiresCatalogBump, fun db' hdb' => ?_⟩
  simp only [workloadEventChange, hsome, Option.map_some, Option.getD_some, hother db' hdb', hports]
  exact ⟨trivial, trivial⟩

/-- A workload event decides the same about a catalog workload exactly if it is not about it, or
the ports are `OrderFree`. -/
theorem sameDecision_workloadEvent (hw : w ∈ db.catalogWorkloads.rows) :
    SameDecision (workloadEventChange serde clusterId event workloadKind new) db w ↔
      w ∉ eventWorkloads clusterId event db ∨
        (∃ kind ∈ KubeWorkloadKind.parse w.kind, kind ≠ workloadKind) ∨
          OrderFree clusterId event.namespace new.labels db w.ports := by
  have hloop : ∀ db', Reordered db db' →
      (workloadEventChange serde clusterId event workloadKind new db').workloads =
        (workloadEventChange serde clusterId event workloadKind new db).workloads := by
    intro db' h
    change eventWorkloads clusterId event db' = eventWorkloads clusterId event db
    rw [h.others]
    rfl
  rw [sameDecision_iff_of_mem hw hloop]
  refine or_congr_right ?_
  by_cases hkind : ∃ kind ∈ KubeWorkloadKind.parse w.kind, kind ≠ workloadKind
  · refine iff_of_true (fun db₁ db₂ _ _ => ?_) (.inl hkind)
    obtain ⟨hput₁, hbump₁⟩ := put_of_otherKind serde clusterId event workloadKind new db₁ w hkind
    obtain ⟨hput₂, hbump₂⟩ := put_of_otherKind serde clusterId event workloadKind new db₂ w hkind
    rw [hput₁, hput₂, hbump₁, hbump₂]
    exact ⟨.rfl, rfl⟩
  · obtain ⟨other, hdecides⟩ := put_of_sameKind serde clusterId event workloadKind new db w hkind
    rw [or_iff_right hkind]
    exact sameBody_iff_orderFree other hdecides

/-- A service event decides the same about a catalog workload exactly if it is not about it, or
the ports are `OrderFree`. -/
theorem sameDecision_serviceEvent (hw : w ∈ db.catalogWorkloads.rows) :
    SameDecision (serviceEventChange clusterId «namespace» selectorMap) db w ↔
      w ∉ selectedWorkloads clusterId «namespace» selectorMap db ∨
        OrderFree clusterId «namespace» (reconciledLabels clusterId «namespace» selectorMap db w) db
          w.ports := by
  have hloop : ∀ db', Reordered db db' →
      (serviceEventChange clusterId «namespace» selectorMap db').workloads =
        (serviceEventChange clusterId «namespace» selectorMap db).workloads := by
    intro db' h
    change selectedWorkloads clusterId «namespace» selectorMap db' =
      selectedWorkloads clusterId «namespace» selectorMap db
    rw [h.others]
    rfl
  rw [sameDecision_iff_of_mem hw hloop]
  refine or_congr_right (sameBody_iff_orderFree false fun db' hdb' => ?_)
  change (reconciledPorts clusterId «namespace» selectorMap db' w ≠ w.ports ↔ _) ∧
    decide (reconciledPorts clusterId «namespace» selectorMap db' w ≠ w.ports) = (false || _)
  rw [Bool.false_or]
  have hports : reconciledPorts clusterId «namespace» selectorMap db' w =
      portsFromCachedServices (reconciledLabels clusterId «namespace» selectorMap db w)
        (DbApi.matchingServices db' clusterId «namespace»
          (reconciledLabels clusterId «namespace» selectorMap db w)) := by
    rw [hdb'.others]
    rfl
  rw [hports]
  exact ⟨.rfl, rfl⟩

/-- **Row-order independence.** About every catalog workload of a database: a workload event decides
the same in every order of the services exactly if it is about another workload or another kind, or
the found ports are `OrderFree`; a service event exactly if it is about other workloads, or they
are. -/
theorem sameDecision_iff :
    (∀ w ∈ db.catalogWorkloads.rows,
      (SameDecision (workloadEventChange serde clusterId event workloadKind new) db w ↔
        w ∉ eventWorkloads clusterId event db ∨
          (∃ kind ∈ KubeWorkloadKind.parse w.kind, kind ≠ workloadKind) ∨
            OrderFree clusterId event.namespace new.labels db w.ports)) ∧
    ∀ w ∈ db.catalogWorkloads.rows,
      (SameDecision (serviceEventChange clusterId «namespace» selectorMap) db w ↔
        w ∉ selectedWorkloads clusterId «namespace» selectorMap db ∨
          OrderFree clusterId «namespace»
            (reconciledLabels clusterId «namespace» selectorMap db w) db w.ports) := by
  constructor
  · intro w hw
    exact sameDecision_workloadEvent serde clusterId event workloadKind new db w hw
  · intro w hw
    exact sameDecision_serviceEvent clusterId «namespace» selectorMap db w hw

end

/-! ## Two services of one workload -/

/-- A cached service with the selector `app: web` and one port. -/
def webService (id : Uuid) (name : String) (port : Int) : KubeClusterService.Model PUnit :=
  { id
    deletedAt := none
    clusterId := 5
    «namespace» := "prod"
    name
    resourceVersion := "1"
    serviceYaml := ⟨⟩
    selector := HashTable.collect [("app", "web")]
    ports := [⟨none, port, none, none, none⟩]
    serviceType := none
    lastObservedAt := 1 }

/-- The workload `web` with the ports an earlier event stored. -/
def storedWeb : KubeAppCatalogWorkload.Model PUnit :=
  { id := 11
    createdAt := 1
    deletedAt := none
    appCatalogId := 1
    clusterId := 5
    name := "web"
    «namespace» := "prod"
    kind := "Deployment"
    containers := []
    ports := [⟨none, 80, none, none, none, none⟩, ⟨none, 9000, none, none, none, none⟩]
    workloadYaml := ⟨⟩
    catalogSyncVersion := 1 }

/-- A catalog with the workload `web` and the services `web` and `admin` that select it, in this
order or the other one. -/
def webAndAdmin (reversed : Bool) : Database PUnit :=
  { Database.empty PUnit with
    catalogWorkloads := ⟨[storedWeb], List.pairwise_singleton _ _⟩
    catalogWorkloadLabels := ⟨[⟨1, none, 1, 11, 5, "prod", "app", "web"⟩], List.pairwise_singleton _ _⟩
    clusterServices :=
      ⟨if reversed then [webService 2 "admin" 9000, webService 1 "web" 80]
        else [webService 1 "web" 80, webService 2 "admin" 9000], by cases reversed <;> decide⟩
    clusterServiceSelectors :=
      ⟨[⟨1, none, 5, "prod", 1, "app", "web"⟩, ⟨1, none, 5, "prod", 2, "app", "web"⟩],
        by simp [Entity.Conflict]⟩ }

/-- A workload event without a change. -/
def unchangedWeb : WorkloadSnapshot PUnit PUnit :=
  { yaml := ⟨⟩
    specSnapshot := none
    labels := HashTable.collect [("app", "web")]
    containers := []
    configmapRefs := []
    secretRefs := [] }

/-- The parsers of manifests without a spec. -/
def emptySerde : SerdeParsers PUnit PUnit := ⟨fun _ => some (.mapping []), fun _ => none, fun _ => id⟩

theorem reordered_webAndAdmin (reversed : Bool) :
    Reordered (webAndAdmin false) (webAndAdmin reversed) := by
  cases reversed
  · exact .refl _
  · exact ⟨.swap _ _ _, rfl⟩

/-- Nothing has changed, and the order of the two services decides whether both handlers update the
ports of a workload of the catalog and bump it. -/
theorem decision_depends_on_order :
    storedWeb ∈ (webAndAdmin false).catalogWorkloads.rows ∧
      ¬SameDecision (workloadEventChange emptySerde 5 ⟨"prod", "web", 3⟩ .deployment unchangedWeb)
        (webAndAdmin false) storedWeb ∧
      ¬SameDecision (serviceEventChange 5 "prod" (HashTable.collect [("app", "web")]))
        (webAndAdmin false) storedWeb := by
  refine ⟨List.mem_singleton_self _, ?_, ?_⟩
  · intro h
    have := h _ _ (reordered_webAndAdmin false) (reordered_webAndAdmin true)
    revert this
    decide +kernel
  · intro h
    have := h _ _ (reordered_webAndAdmin false) (reordered_webAndAdmin true)
    revert this
    decide +kernel

end KubeClusterServer

end Lapdev
