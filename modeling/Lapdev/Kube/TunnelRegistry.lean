import Lapdev.Logic.Run
import Lapdev.RustStd.HashMap
import Lapdev.RustStd.Uuid

/-!
# The tunnel registry

`TunnelRegistry` of `kube/src/tunnel.rs` holds the tunnel clients of each cluster by generations
and the metrics of each cluster, behind a lock each. A registration takes the lock of the metrics
first and that of the clients second, a removal the other way round, so calls interleave between
the two. `registry_of_run` says what holds in every state of a run in which no removal drops the
metrics of a cluster that has a client again, or is about to; `metrics_lost` is such a removal.
-/

namespace Lapdev

open RustStd Runs

/-- Source: `kube/src/tunnel.rs`. -/
structure TunnelMetrics where
  activeConnections : Nat
  totalConnections : Nat
  bytesTransferred : Nat
  connectionErrors : Nat

/-- `TunnelMetrics::default`. -/
def TunnelMetrics.default : TunnelMetrics := ⟨0, 0, 0, 0⟩

/-- `u64::saturating_add`. -/
def saturatingAddU64 (m n : Nat) : Nat := min (m + n) (2 ^ 64 - 1)

/-- Source: `kube/src/tunnel.rs`; a client is what `Arc<TunnelClient>` points to. -/
structure TunnelRegistry (Client : Type) where
  metrics : HashMap Uuid TunnelMetrics
  clients : HashTable Uuid (BTreeMap Nat Client)
  generationCounter : Nat

namespace TunnelRegistry

section
variable {Client : Type} (registry : TunnelRegistry Client)

/-- Source: `new`. -/
def new : TunnelRegistry Client := ⟨∅, ∅, 1⟩

/-- Source: `update_heartbeat`. -/
def updateHeartbeat (_ : TunnelRegistry Client) (_clusterId : Uuid) : Except String Unit := .ok ()

/-- Source: `update_metrics`. -/
def updateMetrics (clusterId : Uuid)
    (activeConnections bytesTransferred connectionCount connectionErrors : Nat) :
    Except String Unit × TunnelRegistry Client :=
  let entry := (registry.metrics.lookup clusterId).getD .default
  let entry : TunnelMetrics := {
    activeConnections
    bytesTransferred := saturatingAddU64 entry.bytesTransferred bytesTransferred
    totalConnections := saturatingAddU64 entry.totalConnections connectionCount
    connectionErrors := saturatingAddU64 entry.connectionErrors connectionErrors }
  (.ok (), { registry with metrics := registry.metrics.insert clusterId entry })

/-- Source: `next_generation`. -/
def nextGeneration : Nat × TunnelRegistry Client :=
  (registry.generationCounter,
    { registry with generationCounter := (registry.generationCounter + 1) % 2 ^ 64 })

/-- What `register_client` does under the lock of the metrics. -/
def ensureMetrics (clusterId : Uuid) : TunnelRegistry Client :=
  match registry.metrics.lookup clusterId with
  | some _ => registry
  | none => { registry with metrics := registry.metrics.insert clusterId .default }

/-- What `register_client` does under the lock of the clients. -/
def insertClient (clusterId : Uuid) (generation : Nat) (client : Client) : TunnelRegistry Client :=
  let clusterClients := (registry.clients.lookup clusterId).getD ∅
  { registry with
    clients := registry.clients.insert clusterId (clusterClients.insert generation client) }

/-- What `remove_client` does under the lock of the clients, and whether it goes on to the
metrics. -/
def removeGeneration (clusterId : Uuid) (generation : Nat) : TunnelRegistry Client × Bool :=
  match registry.clients.lookup clusterId with
  | some clusterClients =>
    if generation ∈ clusterClients then
      let clusterClients := clusterClients.erase generation
      if clusterClients.entries = [] then
        ({ registry with clients := registry.clients.erase clusterId }, true)
      else ({ registry with clients := registry.clients.insert clusterId clusterClients }, false)
    else (registry, false)
  | none => (registry, false)

/-- What `remove_client` does under the lock of the metrics. -/
def removeMetrics (clusterId : Uuid) : TunnelRegistry Client :=
  { registry with metrics := registry.metrics.erase clusterId }

/-- Source: `get_client`. -/
def getClient (isClosed : Client → Bool) (clusterId : Uuid) : Option Client :=
  (registry.clients.lookup clusterId).bind fun clusterClients =>
    (BTreeMap.valuesRev clusterClients).find? fun client => !isClosed client

/-- The client of a cluster at a generation. -/
def clientAt (clusterId : Uuid) (generation : Nat) : Option Client :=
  HashTable.lookup₂ registry.clients clusterId generation

end

/-! ## Interleaved calls -/

/-- A call that is between two of its steps. -/
inductive TunnelCall (Client : Type)
  /-- `register_client`, with its generation. -/
  | counted (clusterId : Uuid) (generation : Nat) (client : Client)
  /-- `register_client`, after the metrics. -/
  | measured (clusterId : Uuid) (generation : Nat) (client : Client)
  /-- `remove_client`, after it took the last client of the cluster. -/
  | emptied (clusterId : Uuid)

/-- One step of a call. -/
inductive TunnelAction (Client I : Type)
  | nextGeneration (i : I) (clusterId : Uuid) (generation : Nat) (client : Client)
  | ensureMetrics (i : I)
  | insertClient (i : I) (clusterId : Uuid) (generation : Nat) (client : Client)
  | removeGeneration (i : I) (clusterId : Uuid) (generation : Nat)
  | removeMetrics (i : I) (clusterId : Uuid)
  | updateMetrics (clusterId : Uuid)
      (activeConnections bytesTransferred connectionCount connectionErrors : Nat)
  | updateHeartbeat (clusterId : Uuid)

/-- A registry, and the calls of it that are under way, by their callers. -/
structure Calls (Client I : Type) where
  registry : TunnelRegistry Client
  calls : I → Option (TunnelCall Client)

section
variable {Client I : Type}

/-- A new registry without calls. -/
def Calls.new : Calls Client I := ⟨TunnelRegistry.new, fun _ => none⟩

/-- No call is under way. -/
def Calls.Quiescent (sys : Calls Client I) : Prop := ∀ i, sys.calls i = none

variable [DecidableEq I]

/-- A step of a call. The first one of a registration is `next_generation`, and that of a removal
is under the lock of the clients. -/
inductive Calls.Step : Calls Client I → TunnelAction Client I → Calls Client I → Prop
  | nextGeneration {sys : Calls Client I} {i clusterId generation client registry} :
      sys.calls i = none → sys.registry.nextGeneration = (generation, registry) →
      Step sys (.nextGeneration i clusterId generation client)
        ⟨registry, Function.update sys.calls i (some (.counted clusterId generation client))⟩
  | ensureMetrics {sys : Calls Client I} {i clusterId generation client} :
      sys.calls i = some (.counted clusterId generation client) →
      Step sys (.ensureMetrics i) ⟨sys.registry.ensureMetrics clusterId,
        Function.update sys.calls i (some (.measured clusterId generation client))⟩
  | insertClient {sys : Calls Client I} {i clusterId generation client} :
      sys.calls i = some (.measured clusterId generation client) →
      Step sys (.insertClient i clusterId generation client)
        ⟨sys.registry.insertClient clusterId generation client,
          Function.update sys.calls i none⟩
  | removeGeneration {sys : Calls Client I} {i clusterId generation registry emptied} :
      sys.calls i = none →
      sys.registry.removeGeneration clusterId generation = (registry, emptied) →
      Step sys (.removeGeneration i clusterId generation) ⟨registry,
        Function.update sys.calls i (if emptied then some (.emptied clusterId) else none)⟩
  | removeMetrics {sys : Calls Client I} {i clusterId} :
      sys.calls i = some (.emptied clusterId) →
      Step sys (.removeMetrics i clusterId)
        ⟨sys.registry.removeMetrics clusterId, Function.update sys.calls i none⟩
  | updateMetrics {sys : Calls Client I} {clusterId active bytes count errors} :
      Step sys (.updateMetrics clusterId active bytes count errors)
        { sys with registry := (sys.registry.updateMetrics clusterId active bytes count errors).2 }
  | updateHeartbeat {sys : Calls Client I} {clusterId} : Step sys (.updateHeartbeat clusterId) sys

/-- The counter has not wrapped around, and no removal drops the metrics of a cluster that has a
client, or a registration between its two locks. -/
def Calls.Undisturbed (sys : Calls Client I) : TunnelAction Client I → Prop
  | .nextGeneration .. => sys.registry.generationCounter ≠ 0
  | .removeMetrics _ clusterId => (∀ generation, sys.registry.clientAt clusterId generation = none) ∧
      ∀ i generation client, sys.calls i ≠ some (.measured clusterId generation client)
  | _ => True

/-! ## What has been registered -/

/-- What the actions of a run tell of a registry: the clients that were registered and not removed,
and the generations that were handed out, the last one first. -/
structure History (Client : Type) where
  live : Uuid → Nat → Option Client
  issued : List Nat

/-- Before the first action. -/
def History.empty : History Client := ⟨fun _ _ => none, []⟩

/-- A history after an action. -/
def History.record (h : History Client) : TunnelAction Client I → History Client
  | .nextGeneration _ _ generation _ => { h with issued := generation :: h.issued }
  | .insertClient _ clusterId generation client =>
    { h with live := fun c g => if c = clusterId ∧ g = generation then some client else h.live c g }
  | .removeGeneration _ clusterId generation =>
    { h with live := fun c g => if c = clusterId ∧ g = generation then none else h.live c g }
  | _ => h

/-- The history of a run. -/
def history (actions : List (TunnelAction Client I)) : History Client :=
  actions.foldl History.record .empty

/-- An answer of `get_client`: of the clients of the cluster that are not closed, the one with the
newest generation, or none if there is no such client. -/
def Newest (isClosed : Client → Bool) (live : Nat → Option Client) : Option Client → Prop
  | none => ∀ generation client, live generation = some client → isClosed client = true
  | some client => ∃ generation, live generation = some client ∧ isClosed client = false ∧
      ∀ generation' client', live generation' = some client' → isClosed client' = false →
        generation' ≤ generation

/-- The cluster has a metrics entry. -/
def Metered (registry : TunnelRegistry Client) (clusterId : Uuid) : Prop :=
  ∃ metrics, registry.metrics.lookup clusterId = some metrics

/-! ## Each step -/

section
variable (registry : TunnelRegistry Client) {clusterId : Uuid} {generation : Nat}

theorem clientAt_insertClient (client : Client) (c : Uuid) (g : Nat) :
    (registry.insertClient clusterId generation client).clientAt c g =
      if c = clusterId ∧ g = generation then some client else registry.clientAt c g := by
  rw [clientAt, insertClient, HashTable.lookup₂_insert, HashTable.lookup_insert,
    HashTable.lookup_getD_empty, clientAt]
  by_cases hc : c = clusterId
  · simp only [hc, true_and, if_true]
  · simp only [hc, false_and, if_false]

/-- A removal takes the generation it is given and no other one. -/
theorem removeGeneration_spec {registry' : TunnelRegistry Client} {emptied : Bool}
    (h : registry.removeGeneration clusterId generation = (registry', emptied)) :
    registry'.metrics = registry.metrics ∧
      registry'.generationCounter = registry.generationCounter ∧
      ∀ c g, registry'.clientAt c g =
        if c = clusterId ∧ g = generation then none else registry.clientAt c g := by
  have hnothing : registry.clientAt clusterId generation = none → ∀ c g, registry.clientAt c g =
      if c = clusterId ∧ g = generation then none else registry.clientAt c g := by
    intro hnone c g
    split
    · next heq => rw [heq.1, heq.2, hnone]
    · rfl
  unfold removeGeneration at h
  split at h
  · next clusterClients hsome =>
    have hat : ∀ g, registry.clientAt clusterId g = clusterClients.lookup g := by
      intro g
      rw [clientAt, HashTable.lookup₂, hsome, Option.bind_some]
    have herase : ∀ c g, (if c = clusterId then (clusterClients.erase generation).lookup g
        else HashTable.lookup₂ registry.clients c g) =
        if c = clusterId ∧ g = generation then none else registry.clientAt c g := by
      intro c g
      by_cases hc : c = clusterId
      · simp only [hc, true_and, if_true, HashTable.lookup_erase, hat]
      · simp only [hc, false_and, if_false, clientAt]
    split at h
    · dsimp only at h
      split at h
      · next hempty =>
        cases h
        refine ⟨rfl, rfl, fun c g => ?_⟩
        rw [clientAt, HashTable.lookup₂_erase_of_empty _ _ _ hempty]
        exact herase c g
      · cases h
        refine ⟨rfl, rfl, fun c g => ?_⟩
        rw [clientAt, HashTable.lookup₂_insert]
        exact herase c g
    · next hmissing =>
      cases h
      refine ⟨rfl, rfl, hnothing ?_⟩
      rw [hat]
      exact AList.lookup_eq_none.2 hmissing
  · next hnone =>
    cases h
    refine ⟨rfl, rfl, hnothing ?_⟩
    rw [clientAt, HashTable.lookup₂, hnone, Option.bind_none]

/-- What is answered for a cluster is the newest client that is not closed. -/
theorem newest_getClient (isClosed : Client → Bool) (clusterId : Uuid) :
    Newest isClosed (registry.clientAt clusterId) (registry.getClient isClosed clusterId) := by
  unfold getClient clientAt HashTable.lookup₂
  cases registry.clients.lookup clusterId with
  | none =>
    intro generation client h
    cases h
  | some clusterClients =>
    simp only [Option.bind_some]
    cases hfind : (BTreeMap.valuesRev clusterClients).find? fun client => !isClosed client with
    | none =>
      intro generation client h
      simpa using BTreeMap.find?_valuesRev_eq_none hfind h
    | some client =>
      obtain ⟨generation, hat, hopen, hnewest⟩ := BTreeMap.find?_valuesRev_eq_some hfind
      refine ⟨generation, hat, by simpa using hopen, fun generation' client' hat' hopen' => ?_⟩
      exact hnewest generation' client' hat' (by simpa using hopen')

/-- A cluster keeps its metrics entry under `register_client`, and has one afterwards. -/
theorem metered_ensureMetrics {c : Uuid} :
    (registry.ensureMetrics clusterId).Metered c ↔ c = clusterId ∨ registry.Metered c := by
  unfold ensureMetrics
  cases h : registry.metrics.lookup clusterId with
  | none =>
    simp only [Metered, HashMap.lookup_insert]
    split
    · next hc => exact iff_of_true ⟨_, rfl⟩ (.inl hc)
    · next hc => rw [or_iff_right hc]
  | some metrics =>
    refine (or_iff_right_of_imp ?_).symm
    rintro rfl
    exact ⟨metrics, h⟩

theorem metered_updateMetrics {c : Uuid} {active bytes count errors : Nat} :
    (registry.updateMetrics clusterId active bytes count errors).2.Metered c ↔
      c = clusterId ∨ registry.Metered c := by
  simp only [updateMetrics, Metered, HashMap.lookup_insert]
  split
  · next hc => exact iff_of_true ⟨_, rfl⟩ (.inl hc)
  · next hc => rw [or_iff_right hc]

theorem metered_removeMetrics {c : Uuid} :
    (registry.removeMetrics clusterId).Metered c ↔ c ≠ clusterId ∧ registry.Metered c := by
  simp only [removeMetrics, Metered, HashMap.lookup_erase]
  split
  · next hc => exact iff_of_false (fun ⟨_, h⟩ => nomatch h) (fun h => h.1 hc)
  · next hc => rw [and_iff_right hc]

theorem clientAt_ensureMetrics (c : Uuid) (g : Nat) :
    (registry.ensureMetrics clusterId).clientAt c g = registry.clientAt c g := by
  unfold ensureMetrics
  split <;> rfl

theorem generationCounter_ensureMetrics :
    (registry.ensureMetrics clusterId).generationCounter = registry.generationCounter := by
  unfold ensureMetrics
  split <;> rfl

end

/-! ## Every run -/

/-- What holds of a registry and its history in a run in which every step is undisturbed. -/
structure Consistent (sys : Calls Client I) (h : History Client) : Prop where
  live : ∀ c g, sys.registry.clientAt c g = h.live c g
  metered : ∀ c g client, sys.registry.clientAt c g = some client → sys.registry.Metered c
  measured : ∀ i c g client, sys.calls i = some (.measured c g client) → sys.registry.Metered c
  issued_lt : ∀ g ∈ h.issued, sys.registry.generationCounter = 0 ∨
    g < sys.registry.generationCounter
  issued_sorted : h.issued.Pairwise (· > ·)
  counter_lt : sys.registry.generationCounter < 2 ^ 64

omit [DecidableEq I] in
theorem Consistent.new : Consistent (Calls.new : Calls Client I) .empty where
  live _ _ := rfl
  metered _ _ _ h := nomatch h
  measured _ _ _ _ h := nomatch h
  issued_lt _ h := nomatch h
  issued_sorted := .nil
  counter_lt := Nat.one_lt_two_pow (by decide)

/-- An undisturbed step keeps it. -/
theorem Consistent.step {sys sys' : Calls Client I} {a : TunnelAction Client I}
    {h : History Client} (hstep : Calls.Step sys a sys') (hundisturbed : sys.Undisturbed a)
    (hs : Consistent sys h) : Consistent sys' (h.record a) := by
  cases hstep with
  | nextGeneration hidle hnext =>
    cases hnext
    refine ⟨hs.live, hs.metered, ?_, ?_, ?_, Nat.mod_lt _ (by decide)⟩
    · intro j c g client hj
      rcases update_eq_some hj with ⟨-, heq⟩ | ⟨-, hj⟩
      · cases heq
      · exact hs.measured j c g client hj
    · intro g hg
      have hlast : g ≤ sys.registry.generationCounter := by
        rcases List.mem_cons.1 hg with rfl | hg
        · exact le_rfl
        · exact ((hs.issued_lt g hg).resolve_left hundisturbed).le
      have := hs.counter_lt
      dsimp only
      omega
    · refine List.pairwise_cons.2 ⟨fun g hg => ?_, hs.issued_sorted⟩
      exact (hs.issued_lt g hg).resolve_left hundisturbed
  | ensureMetrics hcounted =>
    refine ⟨?_, ?_, ?_, ?_, hs.issued_sorted, ?_⟩
    · intro c g
      exact (clientAt_ensureMetrics _ c g).trans (hs.live c g)
    · intro c g client hat
      rw [clientAt_ensureMetrics] at hat
      exact (metered_ensureMetrics _).2 (.inr (hs.metered c g client hat))
    · intro j c g client hj
      rcases update_eq_some hj with ⟨-, heq⟩ | ⟨-, hj⟩
      · cases heq
        exact (metered_ensureMetrics _).2 (.inl rfl)
      · exact (metered_ensureMetrics _).2 (.inr (hs.measured j c g client hj))
    · intro g hg
      rw [generationCounter_ensureMetrics]
      exact hs.issued_lt g hg
    · rw [generationCounter_ensureMetrics]
      exact hs.counter_lt
  | @insertClient i clusterId generation client hmeasured =>
    refine ⟨?_, ?_, ?_, hs.issued_lt, hs.issued_sorted, hs.counter_lt⟩
    · intro c g
      simp only [clientAt_insertClient, hs.live, History.record]
    · intro c g client' hat
      rw [clientAt_insertClient] at hat
      split at hat
      · next heq =>
        rw [heq.1]
        exact hs.measured i _ _ _ hmeasured
      · exact hs.metered c g client' hat
    · intro j c g client' hj
      rcases update_eq_some hj with ⟨-, heq⟩ | ⟨-, hj⟩
      · cases heq
      · exact hs.measured j c g client' hj
  | @removeGeneration i clusterId generation registry emptied hidle hremove =>
    obtain ⟨hmetrics, hcounter, hat⟩ := removeGeneration_spec _ hremove
    have hmetered : ∀ c, registry.Metered c ↔ sys.registry.Metered c := by
      intro c
      rw [Metered, Metered, hmetrics]
    refine ⟨?_, ?_, ?_, ?_, hs.issued_sorted, hcounter ▸ hs.counter_lt⟩
    · intro c g
      simp only [hat, hs.live, History.record]
    · intro c g client hsome
      rw [hat] at hsome
      split at hsome
      · cases hsome
      · exact (hmetered c).2 (hs.metered c g client hsome)
    · intro j c g client hj
      rcases update_eq_some hj with ⟨-, heq⟩ | ⟨-, hj⟩
      · split at heq <;> cases heq
      · exact (hmetered c).2 (hs.measured j c g client hj)
    · intro g hg
      rw [hcounter]
      exact hs.issued_lt g hg
  | removeMetrics hemptied =>
    obtain ⟨hnone, hnobody⟩ := hundisturbed
    refine ⟨hs.live, ?_, ?_, hs.issued_lt, hs.issued_sorted, hs.counter_lt⟩
    · intro c g client hat
      refine (metered_removeMetrics _).2 ⟨?_, hs.metered c g client hat⟩
      rintro rfl
      exact nomatch (hnone g).symm.trans hat
    · intro j c g client hj
      rcases update_eq_some hj with ⟨-, heq⟩ | ⟨-, hold⟩
      · cases heq
      · refine (metered_removeMetrics _).2 ⟨?_, hs.measured j c g client hold⟩
        rintro rfl
        exact hnobody j g client hold
  | updateMetrics =>
    refine ⟨hs.live, ?_, ?_, hs.issued_lt, hs.issued_sorted, hs.counter_lt⟩
    · intro c g client hat
      exact (metered_updateMetrics _).2 (.inr (hs.metered c g client hat))
    · intro j c g client hj
      exact (metered_updateMetrics _).2 (.inr (hs.measured j c g client hj))
  | updateHeartbeat => exact hs

/-- In every state of an undisturbed run the clients are those that were registered and not removed;
the answer for a cluster is the newest of its clients that is not closed, and generations are newer
than those before; a removal takes the generation it is given only; and a cluster with a client has
a metrics entry, and its reports are accepted. -/
theorem registry_of_run {actions : List (TunnelAction Client I)} {sys : Calls Client I}
    (hrun : Run (Guarded Calls.Step Calls.Undisturbed) Calls.new actions sys) :
    (∀ clusterId generation, sys.registry.clientAt clusterId generation =
      (history actions).live clusterId generation) ∧
    (∀ isClosed clusterId, Newest isClosed ((history actions).live clusterId)
      (sys.registry.getClient isClosed clusterId)) ∧
    (history actions).issued.Pairwise (· > ·) ∧
    (∀ clusterId generation registry emptied,
      sys.registry.removeGeneration clusterId generation = (registry, emptied) →
      ∀ c g, registry.clientAt c g =
        if c = clusterId ∧ g = generation then none else sys.registry.clientAt c g) ∧
    (∀ clusterId generation client, (history actions).live clusterId generation = some client →
      sys.registry.Metered clusterId) ∧
    ∀ clusterId active bytes count errors,
      (sys.registry.updateMetrics clusterId active bytes count errors).1 = .ok () := by
  have hs : Consistent sys (history actions) :=
    Run.invariant_foldl History.record Consistent
      (fun _ _ _ _ hstep hs => hs.step hstep.1 hstep.2) hrun .new
  refine ⟨hs.live, fun isClosed clusterId => ?_, hs.issued_sorted, ?_, ?_, fun _ _ _ _ _ => rfl⟩
  · have hlive : sys.registry.clientAt clusterId = (history actions).live clusterId :=
      funext (hs.live clusterId)
    rw [← hlive]
    exact newest_getClient _ isClosed clusterId
  · intro clusterId generation registry emptied hremove
    exact (removeGeneration_spec _ hremove).2.2
  · intro clusterId generation client hlive
    rw [← hs.live] at hlive
    exact hs.metered clusterId generation client hlive

end

/-- Two registrations, the second one before the first one is done, and the removal of the first
client. -/
theorem registry_of_run_registration :
    ∃ (actions : List (TunnelAction Unit Nat)) (sys : Calls Unit Nat),
      Run Calls.Step Calls.new actions sys ∧ sys.registry.clientAt 7 1 = none ∧
      sys.registry.clientAt 7 2 = some () ∧ sys.registry.Metered 7 := by
  obtain ⟨sys, hrun⟩ : ∃ sys, Run (Guarded Calls.Step Calls.Undisturbed)
      (Calls.new : Calls Unit Nat)
      [.nextGeneration 0 7 1 (), .nextGeneration 1 7 2 (), .ensureMetrics 0, .insertClient 0 7 1 (),
        .ensureMetrics 1, .insertClient 1 7 2 (), .removeGeneration 2 7 1] sys :=
    ⟨_, .cons ⟨.nextGeneration rfl rfl, Nat.one_ne_zero⟩ <|
      .cons ⟨.nextGeneration rfl rfl, Nat.succ_ne_zero _⟩ <|
      .cons ⟨.ensureMetrics rfl, trivial⟩ <| .cons ⟨.insertClient rfl, trivial⟩ <|
      .cons ⟨.ensureMetrics rfl, trivial⟩ <| .cons ⟨.insertClient rfl, trivial⟩ <|
      .cons ⟨.removeGeneration rfl rfl, trivial⟩ .nil⟩
  obtain ⟨hlive, -, -, -, hmetered, -⟩ := registry_of_run hrun
  exact ⟨_, sys, hrun.mono And.left, (hlive 7 1).trans rfl, (hlive 7 2).trans rfl,
    hmetered 7 2 () rfl⟩

/-- The removal of the last client of a cluster crosses with the registration of a new one. -/
theorem metrics_lost :
    ∃ (actions : List (TunnelAction Unit Bool)) (sys : Calls Unit Bool),
      Run Calls.Step Calls.new actions sys ∧ sys.Quiescent ∧
      sys.registry.clientAt 7 2 = some () ∧ ¬sys.registry.Metered 7 := by
  have hrun : ∃ sys : Calls Unit Bool, Run Calls.Step Calls.new
      [.nextGeneration false 7 1 (), .ensureMetrics false, .insertClient false 7 1 (),
        .removeGeneration true 7 1, .nextGeneration false 7 2 (), .ensureMetrics false,
        .insertClient false 7 2 (), .removeMetrics true 7] sys ∧
      sys.calls false = none ∧ sys.calls true = none ∧
      sys.registry.clientAt 7 2 = some () ∧ sys.registry.metrics.lookup 7 = none :=
    ⟨_, .cons (.nextGeneration rfl rfl) <| .cons (.ensureMetrics rfl) <|
      .cons (.insertClient rfl) <| .cons (.removeGeneration rfl rfl) <|
      .cons (.nextGeneration rfl rfl) <| .cons (.ensureMetrics rfl) <|
      .cons (.insertClient rfl) <| .cons (.removeMetrics rfl) .nil, rfl, rfl, rfl, rfl⟩
  obtain ⟨sys, hrun, hfalse, htrue, hclient, hmetrics⟩ := hrun
  refine ⟨_, sys, hrun, ?_, hclient, ?_⟩
  · rintro (_ | _)
    · exact hfalse
    · exact htrue
  · rintro ⟨metrics, h⟩
    rw [hmetrics] at h
    cases h

end TunnelRegistry

end Lapdev
