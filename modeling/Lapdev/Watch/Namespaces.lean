import Lapdev.Logic.Run
import Lapdev.RustStd.Str
import Lapdev.Watch.Events
import Mathlib.Data.Finset.Dedup

/-!
# The namespaces that are watched

`WatchManager` of `kube-manager/src/watch_manager.rs` keeps the set of namespaces and the handles of
the tasks that watch them under two locks. A call that adds or removes a namespace reads or writes the
one, then the other, and other calls may come in between. `consistent_of_settling_run` says when the two agree
once all calls have returned.
-/

namespace Lapdev

open RustStd Runs

namespace WatchManager

/-- A kind of resources of a namespace. -/
abbrev WatchKey := ResourceType × Str

/-- A task that has been spawned and not been aborted. -/
structure WatchTask where
  id : Nat
  key : WatchKey
  deriving DecidableEq

/-- Source: `watch_manager.rs`, `WatchManager`, with the tasks that run. -/
structure Watches where
  namespaces : Finset Str
  tasks : HashTable WatchKey Nat
  running : List WatchTask
  nextTask : Nat

/-- Source: `watch_manager.rs`. -/
def watchedResourceTypes : List ResourceType :=
  [.deployment, .statefulSet, .daemonSet, .replicaSet, .job, .cronJob, .configMap, .secret, .service]

/-- Every type of resource is watched. -/
theorem mem_watchedResourceTypes (resourceType : ResourceType) :
    resourceType ∈ watchedResourceTypes := by
  cases resourceType <;> decide

namespace Watches

/-- Source: `watch_manager.rs`, `WatchManager::new`. -/
def new : Watches := ⟨∅, ∅, [], 0⟩

/-- Source: `watch_manager.rs`: the handles of the namespace are removed, and their tasks aborted. -/
def stopNamespace (m : Watches) («namespace» : Str) : Watches :=
  let keys := m.tasks.keys.filter fun key => key.2 = «namespace»
  let handles := keys.filterMap m.tasks.lookup
  { m with
    tasks := m.tasks.retain fun key _ => key.2 ≠ «namespace»
    running := m.running.filter fun task => task.id ∉ handles }

/-- The loop body of `start_namespace`. -/
def startWatcher («namespace» : Str) (m : Watches) (resourceType : ResourceType) : Watches :=
  let key := (resourceType, «namespace»)
  if key ∈ m.tasks then m
  else
    { m with
      tasks := m.tasks.insert key m.nextTask
      running := ⟨m.nextTask, key⟩ :: m.running
      nextTask := m.nextTask + 1 }

/-- Source: `watch_manager.rs`. -/
def startNamespace (m : Watches) («namespace» : Str) : Watches :=
  watchedResourceTypes.foldl (startWatcher «namespace») m

/-- Source: `watch_manager.rs`, `remove_namespace_watch` with no other call in between. -/
def removeNamespaceWatch (m : Watches) («namespace» : Str) : Watches :=
  let «namespace» := Str.trim «namespace»
  if «namespace» = [] then m
  else if «namespace» ∈ m.namespaces then
    ({ m with namespaces := m.namespaces.erase «namespace» }).stopNamespace «namespace»
  else m

/-- The namespaces that `configure_watches` is called with. -/
def newNamespaces (namespaces : List Str) : Finset Str :=
  ((namespaces.map Str.trim).filter (· ≠ [])).toFinset

/-- The namespace has all its tasks. -/
def Watching (m : Watches) («namespace» : Str) : Prop :=
  ∀ resourceType, (resourceType, «namespace») ∈ m.tasks

/-- The namespaces with running tasks are those recorded, each has one task for each type, and every
task can be stopped by a later call. -/
structure Consistent (m : Watches) : Prop where
  recorded : ∀ «namespace», «namespace» ∈ m.namespaces ↔
    ∃ task ∈ m.running, task.key.2 = «namespace»
  once : ∀ «namespace» ∈ m.namespaces, ∀ resourceType,
    (m.running.filter fun task => task.key = (resourceType, «namespace»)).length = 1
  stoppable : ∀ task ∈ m.running, ∃ «namespace»,
    task ∉ (m.removeNamespaceWatch «namespace»).running

end Watches

/-- A call of the manager. -/
inductive WatchCall
  | configureWatches (namespaces : List Str)
  | addNamespaceWatch («namespace» : Str)
  | removeNamespaceWatch («namespace» : Str)

/-- Where a call stands, between two lock sections. -/
inductive WatchState
  | called
  | configuring (toRemove toAdd : List Str) (newNamespaces : Finset Str)
  | adding («namespace» : Str)
  | added («namespace» : Str)
  | removing («namespace» : Str)
  | returned

/-- The call will still write the set or the tasks of a namespace. -/
def WatchState.Owes : WatchState → Str → Prop
  | configuring .., _ => True
  | adding «namespace», other | added «namespace», other | removing «namespace», other =>
    other = «namespace»
  | called, _ | returned, _ => False

/-- The manager, where the calls to it stand, and of each namespace whether the last lock section on
its tasks was one of `start_namespace`. -/
structure WatchSystem (I : Type) where
  manager : Watches
  states : I → WatchState
  lastStarted : Str → Bool

namespace WatchSystem

variable {I : Type} [DecidableEq I]

/-- Before the first call. -/
def start : WatchSystem I := ⟨.new, fun _ => .called, fun _ => false⟩

/-- A lock section of a call. -/
def put (s : WatchSystem I) (i : I) (manager : Watches) (state : WatchState) : WatchSystem I :=
  { s with manager, states := Function.update s.states i state }

/-- A lock section of `start_namespace`. -/
def putStart (s : WatchSystem I) (i : I) (n : Str) (state : WatchState) : WatchSystem I :=
  { s.put i (s.manager.startNamespace n) state with
    lastStarted := Function.update s.lastStarted n true }

/-- A lock section of `stop_namespace`. -/
def putStop (s : WatchSystem I) (i : I) (n : Str) (state : WatchState) : WatchSystem I :=
  { s.put i (s.manager.stopNamespace n) state with
    lastStarted := Function.update s.lastStarted n false }

/-- The lock sections of the calls, in any order. `configure_watches` walks over sets, in any
order. -/
inductive Step (calls : I → WatchCall) : WatchSystem I → I → WatchSystem I → Prop
  | configureRead {s : WatchSystem I} {i : I} {namespaces toRemove toAdd : List Str}
      (hcall : calls i = .configureWatches namespaces) (hstate : s.states i = .called)
      (hremove : ∀ n, n ∈ toRemove ↔
        n ∈ s.manager.namespaces ∧ n ∉ Watches.newNamespaces namespaces)
      (hadd : ∀ n, n ∈ toAdd ↔
        n ∈ Watches.newNamespaces namespaces ∧ n ∉ s.manager.namespaces)
      (hremoveNodup : toRemove.Nodup) (haddNodup : toAdd.Nodup) :
      Step calls s i
        (s.put i s.manager (.configuring toRemove toAdd (Watches.newNamespaces namespaces)))
  | configureStop {s : WatchSystem I} {i : I} {n : Str} {toRemove toAdd : List Str}
      {new : Finset Str} (hstate : s.states i = .configuring (n :: toRemove) toAdd new) :
      Step calls s i (s.putStop i n (.configuring toRemove toAdd new))
  | configureStart {s : WatchSystem I} {i : I} {n : Str} {toAdd : List Str} {new : Finset Str}
      (hstate : s.states i = .configuring [] (n :: toAdd) new) :
      Step calls s i (s.putStart i n (.configuring [] toAdd new))
  | configureWrite {s : WatchSystem I} {i : I} {new : Finset Str}
      (hstate : s.states i = .configuring [] [] new) :
      Step calls s i (s.put i { s.manager with namespaces := new } .returned)
  | addReturn {s : WatchSystem I} {i : I} {n : Str} (hcall : calls i = .addNamespaceWatch n)
      (hstate : s.states i = .called)
      (hreturn : Str.trim n = [] ∨ Str.trim n ∈ s.manager.namespaces) :
      Step calls s i (s.put i s.manager .returned)
  | addRead {s : WatchSystem I} {i : I} {n : Str} (hcall : calls i = .addNamespaceWatch n)
      (hstate : s.states i = .called) (hempty : Str.trim n ≠ [])
      (hnew : Str.trim n ∉ s.manager.namespaces) :
      Step calls s i (s.put i s.manager (.adding (Str.trim n)))
  | addStart {s : WatchSystem I} {i : I} {n : Str} (hstate : s.states i = .adding n) :
      Step calls s i (s.putStart i n (.added n))
  | addInsert {s : WatchSystem I} {i : I} {n : Str} (hstate : s.states i = .added n) :
      Step calls s i
        (s.put i { s.manager with namespaces := insert n s.manager.namespaces } .returned)
  | removeReturn {s : WatchSystem I} {i : I} {n : Str} (hcall : calls i = .removeNamespaceWatch n)
      (hstate : s.states i = .called)
      (hreturn : Str.trim n = [] ∨ Str.trim n ∉ s.manager.namespaces) :
      Step calls s i (s.put i s.manager .returned)
  | removeRecord {s : WatchSystem I} {i : I} {n : Str} (hcall : calls i = .removeNamespaceWatch n)
      (hstate : s.states i = .called) (hempty : Str.trim n ≠ [])
      (hrecorded : Str.trim n ∈ s.manager.namespaces) :
      Step calls s i
        (s.put i { s.manager with namespaces := s.manager.namespaces.erase (Str.trim n) }
          (.removing (Str.trim n)))
  | removeStop {s : WatchSystem I} {i : I} {n : Str} (hstate : s.states i = .removing n) :
      Step calls s i (s.putStop i n .returned)

/-- All calls that have been made have returned. -/
def AllReturned (s : WatchSystem I) : Prop := ∀ i, s.states i = .called ∨ s.states i = .returned

/-- The next lock section of a call is not its last one, or nothing stands against what it writes:
another call in progress still writes the namespace, or no other call has come in between. An added
namespace has not been stopped since it was started, a removed one has not been recorded again, and of
a configuration exactly its namespaces have been started and not been stopped since. -/
def Settles (s : WatchSystem I) (i : I) : Prop :=
  match s.states i with
  | .configuring [] [] new =>
    ∀ n, (n ∈ new ↔ s.lastStarted n = true) ∨ ∃ j ≠ i, (s.states j).Owes n
  | .added n => s.lastStarted n = true ∨ ∃ j ≠ i, (s.states j).Owes n
  | .removing n => n ∉ s.manager.namespaces ∨ ∃ j ≠ i, (s.states j).Owes n
  | _ => True

end WatchSystem

/-! ## The tasks and their handles -/

namespace Watches

/-- The handles are those of the running tasks, each of which has its own identifier. -/
structure Handles (m : Watches) : Prop where
  mem_running : ∀ task, task ∈ m.running ↔ m.tasks.lookup task.key = some task.id
  nodup : m.running.Nodup
  below : ∀ task ∈ m.running, task.id < m.nextTask
  ids : ∀ task ∈ m.running, ∀ task' ∈ m.running, task.id = task'.id → task = task'

/-- A namespace has all its tasks or none. -/
structure Sound (m : Watches) : Prop extends Handles m where
  complete : ∀ key ∈ m.tasks, m.Watching key.2

section
variable {m : Watches}

/-- A task is a key with the id of its watcher. -/
theorem mem_tasks_iff {key : WatchKey} : key ∈ m.tasks ↔ ∃ id, m.tasks.lookup key = some id := by
  rw [← AList.lookup_isSome, Option.isSome_iff_exists]

/-- A new manager watches nothing. -/
theorem sound_new : new.Sound where
  mem_running task := by simp [new]
  nodup := List.nodup_nil
  below _ h := nomatch h
  ids _ h := nomatch h
  complete key hkey := by simp [new] at hkey

/-! ### Starting a namespace -/

/-- A watcher that is started is among the running ones. -/
theorem Handles.startWatcher (h : m.Handles) (n : Str) (resourceType : ResourceType) :
    (m.startWatcher n resourceType).Handles := by
  unfold Watches.startWatcher
  dsimp only
  split
  · exact h
  · next hnew =>
    have hfresh : ∀ task ∈ m.running, task.key ≠ (resourceType, n) := by
      intro task htask hkey
      rw [h.mem_running, hkey] at htask
      exact hnew (mem_tasks_iff.2 ⟨task.id, htask⟩)
    refine ⟨fun task => ?_, ?_, fun task htask => ?_, fun task htask task' htask' hid => ?_⟩
    · rw [List.mem_cons, HashTable.lookup_insert]
      by_cases hkey : task.key = (resourceType, n)
      · rw [if_pos hkey, or_iff_left fun htask => hfresh task htask hkey, Option.some.injEq]
        constructor
        · rintro rfl
          rfl
        · intro hid
          obtain ⟨id, key⟩ := task
          cases hkey
          cases hid
          rfl
      · rw [if_neg hkey, ← h.mem_running]
        refine or_iff_right ?_
        rintro rfl
        exact hkey rfl
    · refine List.nodup_cons.2 ⟨fun htask => ?_, h.nodup⟩
      exact Nat.lt_irrefl _ (h.below _ htask)
    · rcases List.mem_cons.1 htask with rfl | htask
      · exact Nat.lt_succ_self _
      · exact Nat.lt_succ_of_lt (h.below task htask)
    · rcases List.mem_cons.1 htask with rfl | htask
      · rcases List.mem_cons.1 htask' with rfl | htask'
        · rfl
        · exact absurd hid (h.below task' htask').ne'
      · rcases List.mem_cons.1 htask' with rfl | htask'
        · exact absurd hid (h.below task htask).ne
        · exact h.ids task htask task' htask' hid

/-- A watcher is added to those that run. -/
theorem mem_startWatcher (n : Str) (resourceType : ResourceType) (key : WatchKey) :
    key ∈ (m.startWatcher n resourceType).tasks ↔ key = (resourceType, n) ∨ key ∈ m.tasks := by
  unfold startWatcher
  dsimp only
  split
  · next hin =>
    refine ⟨.inr, ?_⟩
    rintro (rfl | h)
    · exact hin
    · exact h
  · exact AList.mem_insert _

@[simp] theorem startWatcher_namespaces (n : Str) (resourceType : ResourceType) :
    (m.startWatcher n resourceType).namespaces = m.namespaces := by
  unfold startWatcher
  dsimp only
  split <;> rfl

/-- The loop over some types. -/
theorem startWatchers_spec (n : Str) (types : List ResourceType) (h : m.Handles) :
    (types.foldl (startWatcher n) m).Handles ∧
      (types.foldl (startWatcher n) m).namespaces = m.namespaces ∧
      ∀ key, key ∈ (types.foldl (startWatcher n) m).tasks ↔
        key.2 = n ∧ key.1 ∈ types ∨ key ∈ m.tasks := by
  induction types generalizing m with
  | nil => exact ⟨h, rfl, by simp⟩
  | cons resourceType types ih =>
    obtain ⟨hhandles, hnamespaces, hmem⟩ := ih (h.startWatcher n resourceType)
    refine ⟨hhandles, hnamespaces.trans (startWatcher_namespaces n resourceType), fun key => ?_⟩
    rw [List.foldl_cons, hmem, mem_startWatcher, List.mem_cons, Prod.ext_iff]
    tauto

@[simp] theorem startNamespace_namespaces (n : Str) (h : m.Handles) :
    (m.startNamespace n).namespaces = m.namespaces :=
  (startWatchers_spec n watchedResourceTypes h).2.1

/-- Starting a namespace adds its watchers and no other ones. -/
theorem mem_startNamespace (n : Str) (h : m.Handles) (key : WatchKey) :
    key ∈ (m.startNamespace n).tasks ↔ key.2 = n ∨ key ∈ m.tasks := by
  refine ((startWatchers_spec n watchedResourceTypes h).2.2 key).trans ?_
  rw [and_iff_left (mem_watchedResourceTypes key.1)]

/-- After its tasks are started a namespace has them all, and the others are as before. -/
theorem watching_startNamespace (n : Str) (h : m.Handles) (other : Str) :
    (m.startNamespace n).Watching other ↔ other = n ∨ m.Watching other := by
  simp only [Watching, mem_startNamespace n h]
  by_cases hother : other = n <;> simp [hother]

/-- Starting a namespace keeps the manager sound. -/
theorem Sound.startNamespace (h : m.Sound) (n : Str) : (m.startNamespace n).Sound where
  toHandles := (startWatchers_spec n watchedResourceTypes h.toHandles).1
  complete key hkey := by
    rw [watching_startNamespace n h.toHandles]
    exact ((mem_startNamespace n h.toHandles key).1 hkey).imp_right (h.complete key)

/-! ### Stopping a namespace -/

/-- Stopping a namespace takes its watchers and no other ones. -/
theorem lookup_stopNamespace (n : Str) (key : WatchKey) :
    (m.stopNamespace n).tasks.lookup key = if key.2 = n then none else m.tasks.lookup key := by
  rw [stopNamespace, HashTable.lookup_retain]
  by_cases hkey : key.2 = n
  · rw [if_pos hkey]
    cases m.tasks.lookup key <;> simp [hkey]
  · rw [if_neg hkey]
    cases m.tasks.lookup key <;> simp [hkey]

/-- The tasks of the namespace are aborted, and no others. -/
theorem mem_running_stopNamespace (h : m.Handles) (n : Str) (task : WatchTask) :
    task ∈ (m.stopNamespace n).running ↔ task ∈ m.running ∧ task.key.2 ≠ n := by
  simp only [stopNamespace, List.mem_filter, decide_eq_true_eq, List.mem_filterMap]
  refine and_congr_right fun htask => not_congr ?_
  constructor
  · rintro ⟨key, ⟨-, hkey⟩, hlookup⟩
    have htask' : (⟨task.id, key⟩ : WatchTask) ∈ m.running := (h.mem_running _).2 hlookup
    rw [h.ids task htask _ htask' rfl]
    exact hkey
  · intro hkey
    have hlookup := (h.mem_running task).1 htask
    exact ⟨task.key, ⟨mem_tasks_iff.2 ⟨task.id, hlookup⟩, hkey⟩, hlookup⟩

/-- The watchers that are left run. -/
theorem Handles.stopNamespace (h : m.Handles) (n : Str) : (m.stopNamespace n).Handles := by
  have hsub : ∀ task ∈ (m.stopNamespace n).running, task ∈ m.running :=
    fun task htask => ((mem_running_stopNamespace h n task).1 htask).1
  refine ⟨fun task => ?_, h.nodup.filter _, fun task htask => h.below task (hsub task htask),
    fun task htask task' htask' => h.ids task (hsub task htask) task' (hsub task' htask')⟩
  rw [mem_running_stopNamespace h, lookup_stopNamespace, h.mem_running]
  by_cases hkey : task.key.2 = n <;> simp [hkey]

/-- After its tasks are stopped a namespace has none, and the others are as before. -/
theorem watching_stopNamespace (n other : Str) :
    (m.stopNamespace n).Watching other ↔ other ≠ n ∧ m.Watching other := by
  simp only [Watching, mem_tasks_iff, lookup_stopNamespace]
  by_cases hother : other = n
  · simp only [hother, if_true]
    exact iff_of_false (fun h => by simpa using h .deployment) fun h => h.1 rfl
  · simp [hother]

/-- Stopping a namespace keeps the manager sound. -/
theorem Sound.stopNamespace (h : m.Sound) (n : Str) : (m.stopNamespace n).Sound where
  toHandles := h.toHandles.stopNamespace n
  complete key hkey := by
    obtain ⟨id, hid⟩ := mem_tasks_iff.1 hkey
    rw [lookup_stopNamespace] at hid
    split at hid
    · cases hid
    · next hne =>
      exact (watching_stopNamespace n key.2).2 ⟨hne, h.complete key (mem_tasks_iff.2 ⟨id, hid⟩)⟩

/-- Soundness is about the tasks, not about the namespaces. -/
theorem Sound.withNamespaces (h : m.Sound) (namespaces : Finset Str) :
    ({ m with namespaces } : Watches).Sound :=
  ⟨⟨h.mem_running, h.nodup, h.below, h.ids⟩, h.complete⟩

/-! ### Consistency -/

/-- A namespace that a call may be about: trimmed, and not empty. -/
def Proper (n : Str) : Prop := n ≠ [] ∧ ∃ given, Str.trim given = n

/-- The tasks and the set are consistent where each namespace is recorded exactly if it has its
tasks. -/
theorem Sound.consistent (h : m.Sound) (hagree : ∀ n, n ∈ m.namespaces ↔ m.Watching n)
    (hproper : ∀ n ∈ m.namespaces, Proper n) : m.Consistent := by
  have hwatching : ∀ task ∈ m.running, m.Watching task.key.2 := fun task htask =>
    h.complete task.key (mem_tasks_iff.2 ⟨task.id, (h.mem_running task).1 htask⟩)
  have hexists : ∀ n, m.Watching n → ∀ resourceType, ∃ task ∈ m.running,
      task.key = (resourceType, n) := by
    intro n hn resourceType
    obtain ⟨id, hid⟩ := mem_tasks_iff.1 (hn resourceType)
    exact ⟨⟨id, (resourceType, n)⟩, (h.mem_running _).2 hid, rfl⟩
  refine ⟨fun n => ?_, fun n hn resourceType => ?_, fun task htask => ?_⟩
  · rw [hagree]
    constructor
    · intro hn
      obtain ⟨task, htask, hkey⟩ := hexists n hn .deployment
      exact ⟨task, htask, by rw [hkey]⟩
    · rintro ⟨task, htask, rfl⟩
      exact hwatching task htask
  · obtain ⟨task, htask, hkey⟩ := hexists n ((hagree n).1 hn) resourceType
    have hperm : (m.running.filter fun task => task.key = (resourceType, n)).Perm [task] := by
      refine (List.perm_ext_iff_of_nodup (h.nodup.filter _) (List.nodup_singleton _)).2 fun task' => ?_
      rw [List.mem_filter, List.mem_singleton, decide_eq_true_eq]
      constructor
      · rintro ⟨htask', hkey'⟩
        have hlookup := (h.mem_running task).1 htask
        have hlookup' := (h.mem_running task').1 htask'
        rw [hkey] at hlookup
        rw [hkey', hlookup] at hlookup'
        exact (h.ids task htask task' htask' (Option.some.inj hlookup')).symm
      · rintro rfl
        exact ⟨htask, hkey⟩
    exact hperm.length_eq
  · have hrecorded := (hagree task.key.2).2 (hwatching task htask)
    obtain ⟨hne, given, hgiven⟩ := hproper _ hrecorded
    refine ⟨given, ?_⟩
    rw [removeNamespaceWatch]
    rw [hgiven, if_neg hne, if_pos hrecorded]
    intro hmem
    exact ((mem_running_stopNamespace (h.withNamespaces _).toHandles _ task).1 hmem).2 rfl

end

end Watches

/-! ## Runs of the calls -/

/-- The call will still record the namespace. -/
def WatchState.Records : WatchState → Str → Prop
  | configuring _ _ new, other => other ∈ new
  | adding «namespace», other | added «namespace», other => other = «namespace»
  | called, _ | removing _, _ | returned, _ => False

/-- Namespaces that are configured are trimmed and not empty. -/
theorem Watches.proper_of_mem_newNamespaces {namespaces : List Str} {n : Str}
    (h : n ∈ newNamespaces namespaces) : Proper n := by
  simp only [newNamespaces, List.mem_toFinset, List.mem_filter, List.mem_map,
    decide_eq_true_eq] at h
  obtain ⟨⟨given, -, hgiven⟩, hne⟩ := h
  exact ⟨hne, given, hgiven⟩

namespace WatchSystem

variable {I : Type} [DecidableEq I] {calls : I → WatchCall} {s s' : WatchSystem I} {i : I}

/-- Each namespace has its tasks as it is recorded, unless a call in progress still writes it, and it
has them exactly if they have been started last. -/
structure Settled (s : WatchSystem I) : Prop where
  sound : s.manager.Sound
  tasks : ∀ n, s.lastStarted n = true ↔ s.manager.Watching n
  agree : ∀ n, (n ∈ s.manager.namespaces ↔ s.manager.Watching n) ∨ ∃ i, (s.states i).Owes n
  recorded : ∀ n ∈ s.manager.namespaces, Watches.Proper n
  pending : ∀ i n, (s.states i).Records n → Watches.Proper n

@[simp] theorem put_states_self (s : WatchSystem I) (i : I) (manager : Watches)
    (state : WatchState) : (s.put i manager state).states i = state := by
  simp only [put, Function.update_self]

/-- A call leaves the states of the others. -/
theorem put_states_of_ne {j : I} (hj : j ≠ i) (manager : Watches) (state : WatchState) :
    (s.put i manager state).states j = s.states j := by
  simp only [put, Function.update_of_ne hj]

omit [DecidableEq I] in
/-- At the start nothing is watched and no call is under way. -/
theorem settled_start : (start : WatchSystem I).Settled where
  sound := Watches.sound_new
  tasks n := iff_of_false Bool.false_ne_true fun h => AList.notMem_empty _ (h .deployment)
  agree n := by
    refine .inl (iff_of_false (Finset.notMem_empty n) fun h => ?_)
    exact AList.notMem_empty _ (h .deployment)
  recorded n hn := absurd hn (Finset.notMem_empty n)
  pending _ _ h := h.elim

omit [DecidableEq I] in
/-- A call that does not write the namespace leaves it to the others. -/
theorem Settled.elsewhere (h : s.Settled) {n : Str} (howes : ¬(s.states i).Owes n) :
    (n ∈ s.manager.namespaces ↔ s.manager.Watching n) ∨ ∃ j ≠ i, (s.states j).Owes n := by
  refine (h.agree n).imp_right ?_
  rintro ⟨j, hj⟩
  refine ⟨j, ?_, hj⟩
  rintro rfl
  exact howes hj

/-- What a lock section has to leave behind. -/
theorem Settled.put (h : s.Settled) {manager : Watches} {state : WatchState}
    {lastStarted : Str → Bool} (hsound : manager.Sound)
    (htasks : ∀ n, lastStarted n = true ↔ manager.Watching n)
    (hagree : ∀ n, ((n ∈ manager.namespaces ↔ manager.Watching n) ∨
      ∃ j ≠ i, (s.states j).Owes n) ∨ state.Owes n)
    (hrecorded : ∀ n ∈ manager.namespaces, Watches.Proper n)
    (hpending : ∀ n, state.Records n → Watches.Proper n) :
    Settled { s.put i manager state with lastStarted } where
  sound := hsound
  tasks := htasks
  agree n := by
    rcases hagree n with (hiff | ⟨j, hj, howes⟩) | howes
    · exact .inl hiff
    · refine .inr ⟨j, ?_⟩
      rw [put_states_of_ne hj]
      exact howes
    · refine .inr ⟨i, ?_⟩
      rw [put_states_self]
      exact howes
  recorded := hrecorded
  pending j n hn := by
    change ((s.put i manager state).states j).Records n at hn
    by_cases hj : j = i
    · subst hj
      rw [put_states_self] at hn
      exact hpending n hn
    · rw [put_states_of_ne hj] at hn
      exact h.pending j n hn

omit [DecidableEq I] in
/-- A start counts as the last one of its namespace. -/
theorem Settled.tasks_start (h : s.Settled) (n other : Str) :
    Function.update s.lastStarted n true other = true ↔
      (s.manager.startNamespace n).Watching other := by
  rw [Watches.watching_startNamespace n h.sound.toHandles, ← h.tasks, Function.update_apply]
  by_cases hother : other = n <;> simp [hother]

omit [DecidableEq I] in
/-- After a stop, none has been started last. -/
theorem Settled.tasks_stop (h : s.Settled) (n other : Str) :
    Function.update s.lastStarted n false other = true ↔
      (s.manager.stopNamespace n).Watching other := by
  rw [Watches.watching_stopNamespace, ← h.tasks, Function.update_apply]
  by_cases hother : other = n <;> simp [hother]

/-- A step that settles what it has read keeps the system settled. -/
theorem Settled.step (h : s.Settled) (hstep : Step calls s i s') (hguard : s.Settles i) :
    s'.Settled := by
  have hidle : ∀ n, s.states i = .called → ¬(s.states i).Owes n :=
    fun n hstate howes => by rwa [hstate] at howes
  cases hstep with
  | configureRead hcall hstate =>
    exact h.put h.sound h.tasks (fun n => .inr trivial) h.recorded fun n =>
      Watches.proper_of_mem_newNamespaces
  | configureStop hstate =>
    refine h.put (h.sound.stopNamespace _) (h.tasks_stop _) (fun n => .inr trivial) h.recorded fun n hn => ?_
    exact h.pending i n (by rw [hstate]; exact hn)
  | configureStart hstate =>
    refine h.put (h.sound.startNamespace _) (h.tasks_start _) (fun n => .inr trivial) ?_ fun n hn => ?_
    · rw [Watches.startNamespace_namespaces _ h.sound.toHandles]
      exact h.recorded
    · exact h.pending i n (by rw [hstate]; exact hn)
  | configureWrite hstate =>
    rw [Settles, hstate] at hguard
    refine h.put (h.sound.withNamespaces _) h.tasks (fun n => .inl ?_) (fun n hn => ?_) nofun
    · exact (hguard n).imp_left fun hiff => hiff.trans (h.tasks n)
    exact h.pending i n (by rw [hstate]; exact hn)
  | addReturn hcall hstate | removeReturn hcall hstate =>
    exact h.put h.sound h.tasks (fun n => .inl (h.elsewhere (hidle n hstate))) h.recorded nofun
  | @addRead n hcall hstate hempty hnew =>
    refine h.put h.sound h.tasks (fun other => .inl (h.elsewhere (hidle other hstate))) h.recorded ?_
    rintro other rfl
    exact ⟨hempty, n, rfl⟩
  | @addStart n hstate =>
    refine h.put (h.sound.startNamespace n) (h.tasks_start n) (fun other => ?_) ?_
      fun other hother => h.pending i other (by rw [hstate]; exact hother)
    · refine or_iff_not_imp_right.2 fun hne : other ≠ n => ?_
      rw [Watches.startNamespace_namespaces n h.sound.toHandles,
        Watches.watching_startNamespace n h.sound.toHandles, or_iff_right hne]
      exact h.elsewhere (by rw [hstate]; exact hne)
    · rw [Watches.startNamespace_namespaces n h.sound.toHandles]
      exact h.recorded
  | @addInsert n hstate =>
    rw [Settles, hstate] at hguard
    refine h.put (h.sound.withNamespaces _) h.tasks (fun other => .inl ?_) (fun other hother => ?_)
      nofun
    · by_cases hother : other = n
      · subst hother
        exact hguard.imp_left fun hstarted =>
          iff_of_true (Finset.mem_insert_self _ _) ((h.tasks other).1 hstarted)
      · rw [Finset.mem_insert, or_iff_right hother]
        exact h.elsewhere (by rw [hstate]; exact hother)
    · rcases Finset.mem_insert.1 hother with rfl | hother
      · exact h.pending i other (by rw [hstate]; rfl)
      · exact h.recorded other hother
  | @removeRecord n hcall hstate =>
    refine h.put (h.sound.withNamespaces _) h.tasks (fun other => ?_)
      (fun other hother => h.recorded other (Finset.mem_of_mem_erase hother)) nofun
    refine or_iff_not_imp_right.2 fun hne : other ≠ Str.trim n => ?_
    rw [Finset.mem_erase, and_iff_right hne]
    exact h.elsewhere (hidle other hstate)
  | @removeStop n hstate =>
    rw [Settles, hstate] at hguard
    refine h.put (h.sound.stopNamespace n) (h.tasks_stop n) (fun other => .inl ?_) h.recorded nofun
    rw [Watches.watching_stopNamespace]
    by_cases hother : other = n
    · subst hother
      exact hguard.imp_left fun hrecorded => iff_of_false hrecorded fun hwatching => hwatching.1 rfl
    · rw [and_iff_right hother]
      exact h.elsewhere (by rw [hstate]; exact hother)

/-- Whatever calls are made, and however their lock sections interleave: where no last section of a
call comes after a section of another call that undoes what it writes, unless a call in progress still
writes the namespace, the tasks agree with the recorded namespaces once all calls have returned. -/
theorem consistent_of_settling_run {as : List I} (hrun : Run (Guarded (Step calls) Settles) start as s)
    (hreturned : s.AllReturned) : s.manager.Consistent := by
  have h : s.Settled :=
    Run.invariant_of_guard Settled (fun s i s' (hstep : Step calls s i s') hguard h =>
      h.step hstep hguard) hrun settled_start
  refine h.sound.consistent (fun n => (h.agree n).resolve_right ?_) h.recorded
  rintro ⟨i, hi⟩
  rcases hreturned i with hstate | hstate <;> rwa [hstate] at hi

/-- A namespace. -/
def prod : Str := ['p', 'r', 'o', 'd']

/-- A namespace is added. -/
theorem consistent_added : ∃ s : WatchSystem Unit,
    Run (Step fun _ => .addNamespaceWatch prod) start [(), (), ()] s ∧
      prod ∈ s.manager.namespaces ∧ s.manager.Consistent := by
  have hrun : ∃ s : WatchSystem Unit,
      Run (Guarded (Step fun _ => .addNamespaceWatch prod) Settles) start [(), (), ()] s ∧
        s.AllReturned ∧ prod ∈ s.manager.namespaces := by
    refine ⟨_, .cons ⟨.addRead rfl rfl (by decide) (by decide), trivial⟩ <|
      .cons ⟨.addStart rfl, trivial⟩ <| .cons ⟨.addInsert rfl, .inl ?_⟩ .nil, ?_, ?_⟩
    · have hlast : Function.update (fun _ : Str => false) prod true prod = true :=
        Function.update_self ..
      exact hlast
    · exact fun _ => .inr rfl
    · exact Finset.mem_insert_self _ _
  obtain ⟨s, hguarded, hreturned, hrecorded⟩ := hrun
  exact ⟨s, hguarded.mono And.left, hrecorded, consistent_of_settling_run hguarded hreturned⟩

/-- A namespace is added while a configuration without it is on its way. -/
def addedDuringConfigure : Bool → WatchCall
  | true => .configureWatches []
  | false => .addNamespaceWatch prod

/-- The configuration forgets the namespace whose tasks have been started, and they run on. -/
theorem added_forgotten :
    ¬∀ (calls : Bool → WatchCall) (as : List Bool) (s : WatchSystem Bool),
      Run (Step calls) start as s → s.AllReturned → s.manager.Consistent := by
  intro h
  have hread : Step addedDuringConfigure start true
      (start.put true .new (.configuring [] [] (Watches.newNamespaces []))) :=
    .configureRead rfl rfl (fun n => by simp [start, Watches.new])
      (fun n => by simp [Watches.newNamespaces]) List.nodup_nil List.nodup_nil
  have hrun : ∃ s, Run (Step addedDuringConfigure) start [true, false, false, false, true] s ∧
      s.AllReturned ∧ s.manager.namespaces = ∅ ∧
        ∃ task ∈ s.manager.running, task.key.2 = prod := by
    refine ⟨_, .cons hread <| .cons (.addRead rfl rfl (by decide) (by decide)) <|
      .cons (.addStart rfl) <| .cons (.addInsert rfl) <| .cons (.configureWrite rfl) .nil,
      ?_, rfl, ⟨8, .service, prod⟩, by decide, rfl⟩
    rintro (_ | _)
    · exact .inr rfl
    · exact .inr rfl
  obtain ⟨s, hrun, hreturned, hnamespaces, htask⟩ := hrun
  have hconsistent := h addedDuringConfigure _ s hrun hreturned
  have hrecorded := (hconsistent.recorded prod).2 htask
  rw [hnamespaces] at hrecorded
  exact Finset.notMem_empty _ hrecorded

end WatchSystem

end WatchManager

end Lapdev
