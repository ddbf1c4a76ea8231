import Mathlib.Algebra.Order.BigOperators.Group.List
import Mathlib.Algebra.Order.Group.Nat
import Lapdev.Db.Entities

/-!
# The listing of workloads

`collect_workloads` of `kube-manager/src/manager.rs` lists the workloads of a cluster kind by kind.
The list call of a kind answers in pages with a token that continues after each (`KubeList`); a call
of `collect_workloads` goes on until it has as many workloads as it is asked for, and its cursor
says at which kind and token the next one goes on. `follow_listsOnce` is that following the cursors
ends and that of every kind that is asked for each object that passes the filters is listed once.
-/

namespace Lapdev

open RustStd

/-- `metav1::ObjectMeta`, by the fields a listing reads. -/
structure ListedMeta where
  name : Option String
  «namespace» : Option String
  creationTimestamp : Option String
  labels : Option (HashMap String String)
  ownerReferences : Option (List String)

/-- An object of a kind, by what a listing reads of it: the numbers of its specification and its
status, or the phase of a pod. -/
inductive WorkloadObject : KubeWorkloadKind → Type
  | deployment (metadata : ListedMeta) (replicas readyReplicas : Option Int) :
      WorkloadObject .deployment
  | statefulSet (metadata : ListedMeta) (replicas readyReplicas : Option Int) :
      WorkloadObject .statefulSet
  | daemonSet (metadata : ListedMeta) (desiredNumberScheduled numberReady : Option Int) :
      WorkloadObject .daemonSet
  | replicaSet (metadata : ListedMeta) (replicas readyReplicas : Option Int) :
      WorkloadObject .replicaSet
  | pod (metadata : ListedMeta) (phase : Option String) : WorkloadObject .pod
  | job (metadata : ListedMeta) (parallelism succeeded : Option Int) : WorkloadObject .job
  | cronJob (metadata : ListedMeta) : WorkloadObject .cronJob

namespace WorkloadObject

/-- `kube::Resource::meta`. -/
def metadata {kind : KubeWorkloadKind} : WorkloadObject kind → ListedMeta
  | deployment metadata _ _ | statefulSet metadata _ _ | daemonSet metadata _ _
  | replicaSet metadata _ _ | pod metadata _ | job metadata _ _ | cronJob metadata => metadata

end WorkloadObject

/-- Source: `common/src/kube.rs`. -/
structure KubeWorkload where
  name : String
  «namespace» : String
  kind : KubeWorkloadKind
  replicas : Option Int
  readyReplicas : Option Int
  createdAt : Option String
  labels : HashMap String String

/-- Source: `common/src/kube.rs`. -/
structure PaginationCursor where
  workloadKind : KubeWorkloadKind
  continueToken : Option String

/-- Source: `common/src/kube.rs`. -/
structure PaginationParams where
  cursor : Option PaginationCursor
  limit : Nat

/-- Source: `common/src/kube.rs`. -/
structure KubeWorkloadList where
  workloads : List KubeWorkload
  nextCursor : Option PaginationCursor

/-- The token of a call that asks for a page: none for the first. -/
def tokenAt (token : Nat → String) : Nat → Option String
  | 0 => none
  | i + 1 => some (token i)

/-- The list call of a kind in the namespaces that are looked at, with a limit of 50: a list of
pages, and for every page but the last a token that continues after it. -/
structure KubeList (kind : KubeWorkloadKind) where
  list : Option String → List (WorkloadObject kind) × Option String
  pages : List (List (WorkloadObject kind))
  token : Nat → String
  pages_pos : 0 < pages.length
  list_tokenAt : ∀ i (h : i < pages.length), list (tokenAt token i) =
    (pages[i], if i + 1 < pages.length then tokenAt token (i + 1) else none)

/-- The list calls of all kinds. -/
abbrev KubeLists := ∀ kind, KubeList kind

namespace KubeManager

/-- What the converters of all kinds do with the metadata. -/
def convert (kind : KubeWorkloadKind) (metadata : ListedMeta) (replicas readyReplicas : Option Int) :
    KubeWorkload where
  name := metadata.name.getD ""
  «namespace» := metadata.«namespace».getD ""
  kind := kind
  replicas := replicas
  readyReplicas := readyReplicas
  createdAt := metadata.creationTimestamp
  labels := metadata.labels.getD ∅

/-- Source: `deployment_to_workload` to `cronjob_to_workload`. -/
def toWorkload {kind : KubeWorkloadKind} : WorkloadObject kind → KubeWorkload
  | .deployment metadata replicas readyReplicas =>
    convert .deployment metadata replicas readyReplicas
  | .statefulSet metadata replicas readyReplicas =>
    convert .statefulSet metadata replicas readyReplicas
  | .daemonSet metadata desiredNumberScheduled numberReady =>
    convert .daemonSet metadata desiredNumberScheduled numberReady
  | .replicaSet metadata replicas readyReplicas =>
    convert .replicaSet metadata replicas readyReplicas
  | .pod metadata phase =>
    let readyReplicas :=
      if phase = some "Running" ∨ phase = some "Succeeded" then some 1
      else if phase = some "Pending" ∨ phase = some "Failed" then some 0
      else none
    convert .pod metadata (some 1) readyReplicas
  | .job metadata parallelism succeeded => convert .job metadata parallelism succeeded
  | .cronJob metadata => convert .cronJob metadata (some 1) (some 1)

/-- Source: `has_owner_references`. -/
def hasOwnerReferences {kind : KubeWorkloadKind} (item : WorkloadObject kind) : Bool :=
  item.metadata.ownerReferences.any fun refs => !refs.isEmpty

/-- Source: `is_system_workload`. -/
def isSystemWorkload {kind : KubeWorkloadKind} (item : WorkloadObject kind) : Bool :=
  item.metadata.«namespace» = some "kube-system"

/-- One item of the loop of `collect_resources_with_cursor`. -/
def pushWorkload {kind : KubeWorkloadKind} (includeSystemWorkloads : Bool)
    (allWorkloads : List KubeWorkload) (item : WorkloadObject kind) : List KubeWorkload :=
  if !hasOwnerReferences item then
    if includeSystemWorkloads || !isSystemWorkload item then allWorkloads ++ [toWorkload item]
    else allWorkloads
  else allWorkloads

/-- The loop of `collect_resources_with_cursor`, with as many list calls as `fuel` at most. -/
def collectResourcesLoop {kind : KubeWorkloadKind} (api : KubeList kind) (limit : Nat)
    (includeSystemWorkloads : Bool) :
    Nat → Option String → List KubeWorkload → Option (List KubeWorkload × Option String)
  | 0, _, _ => none
  | fuel + 1, continueToken, allWorkloads =>
    let (items, continueToken) := api.list continueToken
    let allWorkloads := items.foldl (pushWorkload includeSystemWorkloads) allWorkloads
    if continueToken = none ∨ limit ≤ allWorkloads.length then some (allWorkloads, continueToken)
    else collectResourcesLoop api limit includeSystemWorkloads fuel continueToken allWorkloads

/-- Source: `collect_resources_with_cursor`. -/
def collectResourcesWithCursor {kind : KubeWorkloadKind} (api : KubeList kind)
    (cursor : Option String) (limit : Nat) (includeSystemWorkloads : Bool) (fuel : Nat) :
    Option (List KubeWorkload × Option String) :=
  collectResourcesLoop api limit includeSystemWorkloads fuel cursor []

/-- `all_resource_types`. -/
def allResourceTypes : List KubeWorkloadKind :=
  [.deployment, .statefulSet, .daemonSet, .replicaSet, .pod, .job, .cronJob]

/-- The token that the collection of a kind starts from. -/
def currentCursor (cursor : Option PaginationCursor) (kind : KubeWorkloadKind) : Option String :=
  match cursor with
  | some cursor => if kind = cursor.workloadKind then cursor.continueToken else none
  | none => none

/-- The loop of `collect_workloads`. -/
def collectWorkloadsLoop (api : KubeLists) (cursor : Option PaginationCursor) (limit : Nat)
    (includeSystemWorkloads : Bool) (fuel : Nat) :
    List KubeWorkloadKind → List KubeWorkload → Option KubeWorkloadList
  | [], allWorkloads => some ⟨allWorkloads, none⟩
  | current :: rest, allWorkloads => do
    let collectLimit := limit - allWorkloads.length
    let (collectedWorkloads, resourceContinueToken) ← collectResourcesWithCursor (api current)
      (currentCursor cursor current) collectLimit includeSystemWorkloads fuel
    let allWorkloads := allWorkloads ++ collectedWorkloads
    if limit ≤ allWorkloads.length then
      let nextCursor := match resourceContinueToken with
        | some continueToken => some ⟨current, some continueToken⟩
        | none => rest.head?.map fun next => ⟨next, none⟩
      some ⟨allWorkloads, nextCursor⟩
    else collectWorkloadsLoop api cursor limit includeSystemWorkloads fuel rest allWorkloads

/-- The kinds that are listed. -/
def resourceTypes (workloadKindFilter : Option KubeWorkloadKind) : List KubeWorkloadKind :=
  match workloadKindFilter with
  | some filterKind => [filterKind]
  | none => allResourceTypes

/-- Source: `collect_workloads`, for list calls that succeed; each of its loops over pages makes as
many calls as `fuel` at most. -/
def collectWorkloads (api : KubeLists) (workloadKindFilter : Option KubeWorkloadKind)
    (includeSystemWorkloads : Bool) (pagination : Option PaginationParams) (fuel : Nat) :
    Option KubeWorkloadList :=
  let (cursor, limit) := match pagination with
    | some pagination => (pagination.cursor, max pagination.limit 1)
    | none => (none, 50)
  let resourceTypes := resourceTypes workloadKindFilter
  let startIndex := match cursor with
    | some cursor => (resourceTypes.findIdx? fun rt => rt = cursor.workloadKind).getD 0
    | none => 0
  collectWorkloadsLoop api cursor limit includeSystemWorkloads fuel (resourceTypes.drop startIndex)
    []

/-- A client that follows the cursors from one on, with as many calls as `calls` at most. -/
def follow (api : KubeLists) (workloadKindFilter : Option KubeWorkloadKind)
    (includeSystemWorkloads : Bool) (limit fuel : Nat) :
    Nat → Option PaginationCursor → Option (List KubeWorkload)
  | 0, _ => none
  | calls + 1, cursor => do
    let page ← collectWorkloads api workloadKindFilter includeSystemWorkloads
      (some ⟨cursor, limit⟩) fuel
    match page.nextCursor with
    | none => some page.workloads
    | some next => do
      let rest ← follow api workloadKindFilter includeSystemWorkloads limit fuel calls (some next)
      some (page.workloads ++ rest)

/-! ## One kind -/

section
variable {kind : KubeWorkloadKind} (inc : Bool)

/-- An item that passes the filters. -/
def selected (item : WorkloadObject kind) : Bool :=
  !hasOwnerReferences item && (inc || !isSystemWorkload item)

/-- The workloads of the items that pass the filters. -/
def workloadsOf (items : List (WorkloadObject kind)) : List KubeWorkload :=
  (items.filter (selected inc)).map toWorkload

/-- The workloads of items, one after the other. -/
theorem workloadsOf_append (items items' : List (WorkloadObject kind)) :
    workloadsOf inc (items ++ items') = workloadsOf inc items ++ workloadsOf inc items' := by
  rw [workloadsOf, List.filter_append, List.map_append]
  rfl

/-- An item adds its workload, if it is listed. -/
theorem pushWorkload_eq (acc : List KubeWorkload) (item : WorkloadObject kind) :
    pushWorkload inc acc item = acc ++ workloadsOf inc [item] := by
  unfold pushWorkload
  cases howner : hasOwnerReferences item <;> cases hsystem : isSystemWorkload item <;>
    cases inc <;> simp [workloadsOf, selected, howner, hsystem]

/-- The items of a page add theirs. -/
theorem foldl_pushWorkload (acc : List KubeWorkload) (items : List (WorkloadObject kind)) :
    items.foldl (pushWorkload inc) acc = acc ++ workloadsOf inc items := by
  induction items generalizing acc with
  | nil => simp [workloadsOf]
  | cons item items ih =>
    rw [List.foldl_cons, ih, pushWorkload_eq, List.append_assoc, ← workloadsOf_append]
    rfl

/-- The workloads of a kind from a page on. -/
def remaining (api : KubeList kind) (i : Nat) : List KubeWorkload :=
  workloadsOf inc (api.pages.drop i).flatten

/-- What remains from a page on is that page and what remains behind it. -/
theorem remaining_succ (api : KubeList kind) {i : Nat} (h : i < api.pages.length) :
    remaining inc api i = workloadsOf inc api.pages[i] ++ remaining inc api (i + 1) := by
  rw [remaining, List.drop_eq_getElem_cons h, List.flatten_cons, workloadsOf_append]
  rfl

/-- Behind the last page nothing remains. -/
theorem remaining_of_length_le (api : KubeList kind) {i : Nat} (h : api.pages.length ≤ i) :
    remaining inc api i = [] := by
  rw [remaining, List.drop_eq_nil_of_le h]
  rfl

/-- The token that is answered in front of a page, which there may be no more of. -/
def nextToken (api : KubeList kind) (i : Nat) : Option String :=
  if i < api.pages.length then tokenAt api.token i else none

/-- From a page on, the pages up to another one are collected, which is the end or comes after
enough workloads. -/
theorem collectResourcesLoop_spec (api : KubeList kind) (limit : Nat) {fuel i : Nat}
    (hi : i < api.pages.length) (hfuel : api.pages.length ≤ i + fuel) (acc : List KubeWorkload) :
    ∃ j taken, i < j ∧ j ≤ api.pages.length ∧
      collectResourcesLoop api limit inc fuel (tokenAt api.token i) acc =
        some (acc ++ taken, nextToken api j) ∧
      taken ++ remaining inc api j = remaining inc api i ∧
      (j = api.pages.length ∨ limit ≤ (acc ++ taken).length) := by
  induction fuel generalizing i acc with
  | zero => omega
  | succ fuel ih =>
    have hstep : collectResourcesLoop api limit inc (fuel + 1) (tokenAt api.token i) acc =
        if nextToken api (i + 1) = none ∨ limit ≤ (acc ++ workloadsOf inc api.pages[i]).length then
          some (acc ++ workloadsOf inc api.pages[i], nextToken api (i + 1))
        else collectResourcesLoop api limit inc fuel (nextToken api (i + 1))
          (acc ++ workloadsOf inc api.pages[i]) := by
      rw [collectResourcesLoop, api.list_tokenAt i hi]
      simp only [foldl_pushWorkload]
      rfl
    rw [hstep]
    split
    · next hdone =>
      refine ⟨i + 1, workloadsOf inc api.pages[i], by omega, by omega, rfl,
        (remaining_succ inc api hi).symm, ?_⟩
      rcases hdone with hnone | hlimit
      · left
        unfold nextToken at hnone
        split at hnone
        · cases hnone
        · omega
      · exact .inr hlimit
    · next hmore =>
      obtain ⟨hsome, _⟩ := not_or.1 hmore
      have hlt : i + 1 < api.pages.length := by
        by_contra hge
        exact hsome (if_neg hge)
      have htoken : nextToken api (i + 1) = tokenAt api.token (i + 1) := if_pos hlt
      obtain ⟨j, taken, hij, hj, hloop, hremaining, hlast⟩ :=
        ih hlt (by omega) (acc ++ workloadsOf inc api.pages[i])
      refine ⟨j, workloadsOf inc api.pages[i] ++ taken, by omega, hj, ?_, ?_, ?_⟩
      · rw [htoken, hloop, List.append_assoc]
      · rw [List.append_assoc, hremaining, ← remaining_succ inc api hi]
      · rwa [← List.append_assoc]

end

/-! ## All kinds -/

section
variable (api : KubeLists) (inc : Bool)

/-- The workloads from a page of the first of some kinds on. -/
def remainingFrom : List KubeWorkloadKind → Nat → List KubeWorkload
  | [], _ => []
  | kind :: rest, i =>
    remaining inc (api kind) i ++ rest.flatMap fun kind => remaining inc (api kind) 0

/-- How many pages there are from there on. -/
def pagesFrom : List KubeWorkloadKind → Nat → Nat
  | [], _ => 0
  | kind :: rest, i =>
    ((api kind).pages.length - i) + (rest.map fun kind => (api kind).pages.length).sum

/-- From the first kind on all workloads remain. -/
theorem remainingFrom_zero (kinds : List KubeWorkloadKind) :
    remainingFrom api inc kinds 0 = kinds.flatMap fun kind => remaining inc (api kind) 0 := by
  cases kinds <;> rfl

/-- All pages remain. -/
theorem pagesFrom_zero (kinds : List KubeWorkloadKind) :
    pagesFrom api kinds 0 = (kinds.map fun kind => (api kind).pages.length).sum := by
  cases kinds <;> rfl

/-- The cursor that stands for a page of the first of some kinds. -/
inductive CursorAt (kinds : List KubeWorkloadKind) :
    Option PaginationCursor → List KubeWorkloadKind → Nat → Prop
  | start : CursorAt kinds none kinds 0
  | next {kind : KubeWorkloadKind} {rest : List KubeWorkloadKind} {i : Nat}
      (hsuffix : kind :: rest <:+ kinds) (hi : i < (api kind).pages.length) :
      CursorAt kinds (some ⟨kind, tokenAt (api kind).token i⟩) (kind :: rest) i

/-- What a call answers from a page on: workloads, and a cursor for the pages that are left. -/
structure Answers (kinds from_ : List KubeWorkloadKind) (i : Nat) (taken : List KubeWorkload)
    (next : Option PaginationCursor) : Prop where
  finished : next = none → taken = remainingFrom api inc from_ i
  continued : next ≠ none → ∃ from' j, CursorAt api kinds next from' j ∧ from' <:+ from_ ∧
    taken ++ remainingFrom api inc from' j = remainingFrom api inc from_ i ∧
    pagesFrom api from' j < pagesFrom api from_ i

variable {api inc} {kinds rest : List KubeWorkloadKind} {kind : KubeWorkloadKind} {i : Nat}
  {cursor next : Option PaginationCursor} {taken : List KubeWorkload}

/-- A kind that is collected to its end in front of the others. -/
theorem Answers.cons (h : Answers api inc kinds rest 0 taken next) :
    Answers api inc kinds (kind :: rest) i (remaining inc (api kind) i ++ taken) next where
  finished hnone := by
    rw [h.finished hnone, remainingFrom_zero]
    rfl
  continued hsome := by
    obtain ⟨from', j, hcursor, hsuffix, htaken, hpages⟩ := h.continued hsome
    refine ⟨from', j, hcursor, hsuffix.trans (List.suffix_cons kind rest), ?_, ?_⟩
    · rw [List.append_assoc, htaken, remainingFrom_zero]
      rfl
    · rw [pagesFrom_zero] at hpages
      rw [pagesFrom]
      omega

/-- A call that ends with a kind has its cursor at the next one. -/
theorem Answers.head (hsuffix : rest <:+ kinds) (hi : i < (api kind).pages.length) :
    Answers api inc kinds (kind :: rest) i (remaining inc (api kind) i)
      (rest.head?.map fun next => ⟨next, none⟩) := by
  cases rest with
  | nil =>
    constructor
    · intro _
      exact (List.append_nil _).symm
    · intro hsome
      exact absurd rfl hsome
  | cons next rest =>
    constructor
    · intro hnone
      cases hnone
    · intro _
      refine ⟨next :: rest, 0, .next hsuffix (api next).pages_pos, List.suffix_cons _ _, ?_, ?_⟩
      · rw [remainingFrom_zero]
        rfl
      · rw [pagesFrom_zero, pagesFrom]
        omega

/-- A call that ends inside a kind has its cursor at the page it has come to. -/
theorem Answers.inside (hsuffix : kind :: rest <:+ kinds) {j : Nat} (hij : i < j)
    (hj : j < (api kind).pages.length)
    (htaken : taken ++ remaining inc (api kind) j = remaining inc (api kind) i) :
    Answers api inc kinds (kind :: rest) i taken
      (some ⟨kind, tokenAt (api kind).token j⟩) where
  finished hnone := by cases hnone
  continued _ := by
    refine ⟨kind :: rest, j, .next hsuffix hj, List.suffix_rfl, ?_, ?_⟩
    · rw [remainingFrom, remainingFrom, ← List.append_assoc, htaken]
    · rw [pagesFrom, pagesFrom]
      omega

variable (inc) in
/-- From a page of the first kind and the beginnings of the others on, a call answers. -/
theorem collectWorkloadsLoop_spec {limit fuel : Nat}
    (hfuel : ∀ kind, (api kind).pages.length ≤ fuel) {from_ : List KubeWorkloadKind}
    (hsuffix : from_ <:+ kinds)
    (hhead : ∀ kind ∈ from_.head?, currentCursor cursor kind = tokenAt (api kind).token i ∧
      i < (api kind).pages.length)
    (htail : ∀ kind ∈ from_.tail, currentCursor cursor kind = none)
    (acc : List KubeWorkload) (hacc : acc.length < limit) :
    ∃ taken next, collectWorkloadsLoop api cursor limit inc fuel from_ acc =
        some ⟨acc ++ taken, next⟩ ∧ Answers api inc kinds from_ i taken next := by
  induction from_ generalizing i acc with
  | nil =>
    refine ⟨[], none, ?_, fun _ => rfl, fun h => absurd rfl h⟩
    rw [List.append_nil]
    rfl
  | cons kind rest ih =>
    obtain ⟨htoken, hi⟩ := hhead kind rfl
    obtain ⟨j, taken, hij, hj, hloop, htaken, hlast⟩ :=
      collectResourcesLoop_spec inc (api kind) (limit - acc.length) hi
        (Nat.le_add_left_of_le (hfuel kind)) []
    have hstep : collectWorkloadsLoop api cursor limit inc fuel (kind :: rest) acc =
        if limit ≤ (acc ++ taken).length then
          some ⟨acc ++ taken, match nextToken (api kind) j with
            | some continueToken => some ⟨kind, some continueToken⟩
            | none => rest.head?.map fun next => ⟨next, none⟩⟩
        else collectWorkloadsLoop api cursor limit inc fuel rest (acc ++ taken) := by
      rw [collectWorkloadsLoop, htoken, collectResourcesWithCursor, hloop]
      rfl
    have hend : j = (api kind).pages.length → taken = remaining inc (api kind) i := by
      intro hj
      rw [remaining_of_length_le inc (api kind) hj.ge, List.append_nil] at htaken
      exact htaken
    rw [hstep]
    split
    · refine ⟨taken, _, rfl, ?_⟩
      rcases Nat.lt_or_eq_of_le hj with hlt | heq
      · have hnext : nextToken (api kind) j = some ((api kind).token (j - 1)) := by
          rw [nextToken, if_pos hlt]
          cases j with
          | zero => omega
          | succ j => rfl
        have hcursor : tokenAt (api kind).token j = some ((api kind).token (j - 1)) := by
          rw [nextToken, if_pos hlt] at hnext
          exact hnext
        rw [hnext]
        simp only [← hcursor]
        exact .inside hsuffix hij hlt htaken
      · have hnext : nextToken (api kind) j = none := if_neg (by omega)
        rw [hnext, hend heq]
        exact .head ((List.suffix_cons kind rest).trans hsuffix) hi
    · next hmore =>
      have heq : j = (api kind).pages.length := by
        rcases hlast with heq | hlimit
        · exact heq
        · simp only [List.nil_append, List.length_append] at hlimit hmore
          omega
      have hnone : ∀ next ∈ rest, currentCursor cursor next = none := htail
      obtain ⟨taken', next, hrest, hanswers⟩ := ih (i := 0)
        ((List.suffix_cons kind rest).trans hsuffix)
        (fun next h => ⟨hnone next (List.mem_of_mem_head? h), (api next).pages_pos⟩)
        (fun next h => hnone next (List.mem_of_mem_tail h)) (acc ++ taken)
        (Nat.lt_of_not_le hmore)
      refine ⟨taken ++ taken', next, ?_, ?_⟩
      · rw [hrest, List.append_assoc]
      · rw [hend heq]
        exact hanswers.cons

/-- No kind is listed twice. -/
theorem nodup_resourceTypes (workloadKindFilter : Option KubeWorkloadKind) :
    (resourceTypes workloadKindFilter).Nodup := by
  cases workloadKindFilter with
  | none => decide
  | some kind => exact List.nodup_singleton kind

/-- A call starts with the kind that its cursor names. -/
theorem drop_findIdx? (hnodup : kinds.Nodup) (hsuffix : kind :: rest <:+ kinds) :
    kinds.drop ((kinds.findIdx? fun rt => rt = kind).getD 0) = kind :: rest := by
  obtain ⟨before, rfl⟩ := hsuffix
  have hbefore : before.findIdx? (fun rt => decide (rt = kind)) = none := by
    refine List.findIdx?_eq_none_iff.2 fun rt hrt => decide_eq_false ?_
    rintro rfl
    exact (List.nodup_append.1 hnodup).2.2 rt hrt rt (.head _) rfl
  rw [List.findIdx?_append, hbefore, List.findIdx?_cons]
  simp

variable (inc) in
/-- Every call with a cursor that stands for a page answers from there on. -/
theorem collectWorkloads_spec {workloadKindFilter : Option KubeWorkloadKind} (limit : Nat) {fuel : Nat}
    (hfuel : ∀ kind, (api kind).pages.length ≤ fuel) {from_ : List KubeWorkloadKind}
    (h : CursorAt api (resourceTypes workloadKindFilter) cursor from_ i) :
    ∃ taken next, collectWorkloads api workloadKindFilter inc (some ⟨cursor, limit⟩) fuel =
        some ⟨taken, next⟩ ∧
      Answers api inc (resourceTypes workloadKindFilter) from_ i taken next := by
  have hnodup := nodup_resourceTypes workloadKindFilter
  have hlimit : ([] : List KubeWorkload).length < max limit 1 := by
    rw [List.length_nil]
    omega
  cases h with
  | start =>
    have hhead : ∀ kind, currentCursor none kind = tokenAt (api kind).token 0 := fun _ => rfl
    exact collectWorkloadsLoop_spec inc hfuel List.suffix_rfl
      (fun kind _ => ⟨hhead kind, (api kind).pages_pos⟩) (fun _ _ => rfl) [] hlimit
  | @next kind rest i hsuffix hi =>
    have hstart := drop_findIdx? hnodup hsuffix
    have hhead : ∀ kind' ∈ (kind :: rest).head?,
        currentCursor (some ⟨kind, tokenAt (api kind).token i⟩) kind' =
          tokenAt (api kind').token i ∧ i < (api kind').pages.length := by
      intro kind' hkind
      cases hkind
      exact ⟨if_pos rfl, hi⟩
    have htail : ∀ kind' ∈ (kind :: rest).tail,
        currentCursor (some ⟨kind, tokenAt (api kind).token i⟩) kind' = none := by
      intro kind' hkind
      refine if_neg ?_
      rintro rfl
      exact (List.nodup_cons.1 (hnodup.sublist hsuffix.sublist)).1 hkind
    obtain ⟨taken, next, hloop, hanswers⟩ :=
      collectWorkloadsLoop_spec inc hfuel hsuffix hhead htail [] hlimit
    refine ⟨taken, next, ?_, hanswers⟩
    simp only [collectWorkloads, hstart]
    exact hloop

/-- Following the cursors from a page on gives what there is from there on. -/
theorem follow_of_cursorAt {workloadKindFilter : Option KubeWorkloadKind} {limit fuel calls : Nat}
    (hfuel : ∀ kind, (api kind).pages.length ≤ fuel) {from_ : List KubeWorkloadKind}
    (h : CursorAt api (resourceTypes workloadKindFilter) cursor from_ i)
    (hcalls : pagesFrom api from_ i < calls) :
    follow api workloadKindFilter inc limit fuel calls cursor =
      some (remainingFrom api inc from_ i) := by
  induction calls generalizing cursor from_ i with
  | zero => omega
  | succ calls ih =>
    obtain ⟨taken, next, hcall, hanswers⟩ := collectWorkloads_spec inc limit hfuel h
    rw [follow, hcall]
    cases next with
    | none => exact congrArg some (hanswers.finished rfl)
    | some next =>
      obtain ⟨from', j, hcursor, _, htaken, hpages⟩ := hanswers.continued nofun
      have hrest := ih hcursor (by omega)
      simp only [Option.bind_eq_bind, Option.bind_some, hrest, htaken]

end

/-- Following the cursors from the start ends, with the workloads of every kind that is listed. -/
theorem follow_eq (api : KubeLists) (workloadKindFilter : Option KubeWorkloadKind)
    (includeSystemWorkloads : Bool) (limit : Nat) :
    ∃ fuel₀ calls₀, ∀ fuel ≥ fuel₀, ∀ calls ≥ calls₀,
      follow api workloadKindFilter includeSystemWorkloads limit fuel calls none =
        some ((resourceTypes workloadKindFilter).flatMap fun kind =>
          remaining includeSystemWorkloads (api kind) 0) := by
  refine ⟨(allResourceTypes.map fun kind => (api kind).pages.length).sum,
    pagesFrom api (resourceTypes workloadKindFilter) 0 + 1, fun fuel hfuel calls hcalls => ?_⟩
  have hall : ∀ kind, (api kind).pages.length ≤ fuel := by
    intro kind
    have hmem : kind ∈ allResourceTypes := by cases kind <;> decide
    exact (List.le_sum_of_mem (List.mem_map_of_mem hmem)).trans hfuel
  rw [follow_of_cursorAt hall .start hcalls, remainingFrom_zero]

/-! ## What is listed -/

section
variable {kind : KubeWorkloadKind}

/-- An object that is to be listed: nothing owns it, and it is no system workload where those are
left out. -/
def Listable (includeSystemWorkloads : Bool) (item : WorkloadObject kind) : Prop :=
  (∀ refs ∈ item.metadata.ownerReferences, refs = []) ∧
    (includeSystemWorkloads = false → item.metadata.«namespace» ≠ some "kube-system")

instance (includeSystemWorkloads : Bool) (item : WorkloadObject kind) :
    Decidable (Listable includeSystemWorkloads item) :=
  inferInstanceAs (Decidable (_ ∧ _))

/-- A workload that stands for an object of a kind. -/
structure Represents (item : WorkloadObject kind) (workload : KubeWorkload) : Prop where
  kind : workload.kind = kind
  name : ∀ name ∈ item.metadata.name, workload.name = name
  «namespace» : ∀ ns ∈ item.metadata.«namespace», workload.«namespace» = ns
  createdAt : workload.createdAt = item.metadata.creationTimestamp
  labels : ∀ labels ∈ item.metadata.labels, workload.labels = labels

variable (kind) in
/-- Among some workloads there is one for each object of a kind that is to be listed, in the order of
the pages, and no other one of the kind. -/
def ListsOnce (api : KubeLists) (includeSystemWorkloads : Bool) (listed : List KubeWorkload) : Prop :=
  List.Forall₂ Represents
    ((api kind).pages.flatten.filter fun item => Listable includeSystemWorkloads item)
    (listed.filter fun workload => workload.kind = kind)

/-- An item is listed as what it is. -/
theorem represents_toWorkload (item : WorkloadObject kind) : Represents item (toWorkload item) := by
  have hconvert : ∀ metadata replicas readyReplicas, item.metadata = metadata →
      Represents item (convert kind metadata replicas readyReplicas) := by
    rintro _ replicas readyReplicas rfl
    refine ⟨rfl, fun name hname => ?_, fun ns hns => ?_, rfl, fun labels hlabels => ?_⟩
    · exact congrArg (Option.getD · "") hname
    · exact congrArg (Option.getD · "") hns
    · exact congrArg (Option.getD · ∅) hlabels
  cases item <;> exact hconvert _ _ _ rfl

/-- The filters of the code leave what is to be listed. -/
theorem selected_iff (inc : Bool) (item : WorkloadObject kind) :
    selected inc item = decide (Listable inc item) := by
  rw [Bool.eq_iff_iff, decide_eq_true_iff, selected, Listable, hasOwnerReferences, isSystemWorkload,
    Bool.and_eq_true, Bool.or_eq_true]
  refine and_congr ?_ ?_
  · cases item.metadata.ownerReferences <;> simp
  · cases inc <;> simp

/-- The workloads of one kind of several, of which each has its own. -/
theorem filter_flatMap_of_nodup {kinds : List KubeWorkloadKind} (hnodup : kinds.Nodup)
    {g : KubeWorkloadKind → List KubeWorkload} (hg : ∀ kind, ∀ w ∈ g kind, w.kind = kind)
    (kind : KubeWorkloadKind) :
    ((kinds.flatMap g).filter fun w => w.kind = kind) = if kind ∈ kinds then g kind else [] := by
  have hother : ∀ kind', kind' ≠ kind → ((g kind').filter fun w => w.kind = kind) = [] := by
    intro kind' hne
    refine List.filter_eq_nil_iff.2 fun w hw => ?_
    rw [hg kind' w hw, decide_eq_true_iff]
    exact hne
  have hown : ((g kind).filter fun w => w.kind = kind) = g kind :=
    List.filter_eq_self.2 fun w hw => decide_eq_true (hg kind w hw)
  induction kinds with
  | nil => rfl
  | cons head rest ih =>
    rw [List.nodup_cons] at hnodup
    rw [List.flatMap_cons, List.filter_append, ih hnodup.2]
    by_cases hhead : head = kind
    · subst hhead
      rw [hown, if_neg hnodup.1, if_pos List.mem_cons_self, List.append_nil]
    · rw [hother head hhead, List.nil_append]
      simp [Ne.symm hhead]

end

/-- **Pagination.** For every limit and filter, following the cursors from the start ends, and of
every kind that is asked for each object that nothing owns and that is no system workload, where
those are left out, has been listed once; of the other kinds nothing has. -/
theorem follow_listsOnce (api : KubeLists) (workloadKindFilter : Option KubeWorkloadKind)
    (includeSystemWorkloads : Bool) (limit : Nat) :
    ∃ listed fuel₀ calls₀,
      (∀ fuel ≥ fuel₀, ∀ calls ≥ calls₀,
        follow api workloadKindFilter includeSystemWorkloads limit fuel calls none = some listed) ∧
      ∀ kind,
        ((∀ filterKind ∈ workloadKindFilter, filterKind = kind) →
          ListsOnce kind api includeSystemWorkloads listed) ∧
        ((∃ filterKind ∈ workloadKindFilter, filterKind ≠ kind) →
          ∀ workload ∈ listed, workload.kind ≠ kind) := by
  obtain ⟨fuel₀, calls₀, hfollow⟩ := follow_eq api workloadKindFilter includeSystemWorkloads limit
  refine ⟨_, fuel₀, calls₀, hfollow, fun kind => ?_⟩
  have hkind : ∀ kind, ∀ w ∈ remaining includeSystemWorkloads (api kind) 0, w.kind = kind := by
    intro kind w hw
    obtain ⟨item, -, rfl⟩ := List.mem_map.1 hw
    exact (represents_toWorkload item).kind
  have hfilter := filter_flatMap_of_nodup (nodup_resourceTypes workloadKindFilter) hkind kind
  constructor
  · intro hasked
    have hmem : kind ∈ resourceTypes workloadKindFilter := by
      cases workloadKindFilter with
      | none => cases kind <;> decide
      | some filterKind => exact List.mem_singleton.2 (hasked filterKind rfl).symm
    rw [ListsOnce, hfilter, if_pos hmem, remaining, List.drop_zero, workloadsOf]
    have hselected : selected includeSystemWorkloads =
        fun item : WorkloadObject kind => decide (Listable includeSystemWorkloads item) :=
      funext (selected_iff includeSystemWorkloads)
    rw [hselected]
    exact List.forall₂_map_right_iff.2 (List.forall₂_same.2 fun item _ => represents_toWorkload item)
  · rintro ⟨filterKind, hfilterKind, hne⟩ w hw heq
    have hmem := List.mem_filter (p := fun w => w.kind = kind).2 ⟨hw, decide_eq_true heq⟩
    cases hfilterKind
    have hnot : kind ∉ resourceTypes (some filterKind) :=
      fun h => hne (List.mem_singleton.1 h).symm
    rw [hfilter, if_neg hnot] at hmem
    exact List.not_mem_nil hmem

/-! ## A cluster with two pages of deployments -/

/-- A list call that answers in given pages, with tokens that count them. -/
def pagedList {kind : KubeWorkloadKind} (pages : List (List (WorkloadObject kind)))
    (h : 0 < pages.length) : KubeList kind where
  list token :=
    let i := (token.map fun t => t.length + 1).getD 0
    (pages[i]?.getD [], if i + 1 < pages.length then some (String.ofList (List.replicate i 'x'))
      else none)
  pages := pages
  token i := String.ofList (List.replicate i 'x')
  pages_pos := h
  list_tokenAt i hi := by
    have hindex : ((tokenAt (fun i => String.ofList (List.replicate i 'x')) i).map
        fun t => t.length + 1).getD 0 = i := by
      cases i with
      | zero => rfl
      | succ i => simp [tokenAt]
    simp only [hindex, List.getElem?_eq_getElem hi, Option.getD_some]
    rfl

/-- A deployment in a namespace, with an owner or without one. -/
def deploymentIn (name ns : String) (owners : List String) : WorkloadObject .deployment :=
  .deployment ⟨some name, some ns, none, none, some owners⟩ (some 1) (some 1)

/-- Two pages of deployments and one pod. -/
def twoPages : KubeLists
  | .deployment => pagedList [[deploymentIn "web" "prod" [], deploymentIn "dns" "kube-system" []],
      [deploymentIn "canary" "prod" ["rollout"], deploymentIn "api" "prod" []]] (by decide)
  | .pod => pagedList [[.pod ⟨some "debug", some "prod", none, none, none⟩ (some "Running")]]
      (by decide)
  | _ => pagedList [[]] Nat.zero_lt_one

/-- One at a time, the deployments of both pages are listed, without the system's and the owned
one. -/
theorem follow_listsOnce_twoPages :
    ∃ listed fuel calls, follow twoPages none false 1 fuel calls none = some listed ∧
      List.Forall₂ Represents [deploymentIn "web" "prod" [], deploymentIn "api" "prod" []]
        (listed.filter fun workload => workload.kind = .deployment) := by
  obtain ⟨listed, fuel, calls, hfollow, hlisted⟩ := follow_listsOnce twoPages none false 1
  exact ⟨listed, fuel, calls, hfollow fuel le_rfl calls le_rfl,
    (hlisted .deployment).1 (by rintro _ ⟨⟩)⟩

end KubeManager

end Lapdev
