import Lapdev.Logic.Run
import Lapdev.Manager.Registry

/-!
# Registrations and the disconnect of a connection

`register_sidecar_proxy` and `handle_disconnect` of `kube-manager/src/sidecar_proxy_manager_rpc.rs`,
one lock section at a time. A connection remembers one environment, one workload and one generation,
each under a lock of its own, and the handlers run beside the disconnect. `clean_iff_orderly` says
which orders leave nothing of a connection in the registry.
-/

namespace Lapdev

open RustStd Runs

/-- The ids a call of `register_sidecar_proxy` announces. -/
structure RegisterCall where
  environmentId : Uuid
  workloadId : Uuid

/-- Where a handler of `register_sidecar_proxy` stands. What follows once the generation is stored
writes neither the connection nor the registry. A handler may be dropped at each of its waits. -/
inductive RegisterState
  | start
  | environmentSet
  | workloadSet
  | registered (generation : Nat)
  | stored (generation : Nat)
  | aborted (generation : Option Nat)

/-- The generation under which a handler has filed the connection. -/
def RegisterState.generation : RegisterState → Option Nat
  | registered generation | stored generation => some generation
  | aborted generation => generation
  | start | environmentSet | workloadSet => none

/-- The handler takes no further step, or its call has never come. -/
def RegisterState.Finished : RegisterState → Prop
  | start | stored _ | aborted _ => True
  | environmentSet | workloadSet | registered _ => False

/-- Where `handle_disconnect` stands, with what it has read. -/
inductive DisconnectState
  | connected
  | environmentRead (environment : Option Uuid)
  | workloadRead (environment workload : Option Uuid)
  | generationRead (environment workload : Option Uuid) (generation : Option Nat)
  | done (environment workload : Option Uuid) (generation : Option Nat)

/-- The generation `handle_disconnect` has read. -/
def DisconnectState.generation : DisconnectState → Option Nat
  | generationRead _ _ generation | done _ _ generation => generation
  | connected | environmentRead _ | workloadRead _ _ => none

/-- Source: `sidecar_proxy_manager_rpc.rs`, `SidecarProxyManagerRpcServer`, with its tasks. -/
structure SidecarConnection (H : Type) where
  environment : Option Uuid
  workload : Option Uuid
  connectionGeneration : Option Nat
  handlers : H → RegisterState
  disconnect : DisconnectState

/-- The manager, and all connections to it. -/
structure SidecarConnections (C H : Type) where
  manager : SidecarProxyManager
  connections : C → SidecarConnection H

/-- One lock section of a task of a connection, or the end of a handler before its time. -/
inductive ConnectionAction (C H : Type)
  | setEnvironment (c : C) (h : H)
  | setWorkload (c : C) (h : H)
  | registerSidecar (c : C) (h : H)
  | storeGeneration (c : C) (h : H)
  | abort (c : C) (h : H)
  | readEnvironment (c : C)
  | readWorkload (c : C)
  | readGeneration (c : C)
  | removeSidecar (c : C)

namespace SidecarConnections

variable {C H : Type} [DecidableEq C] [DecidableEq H]

/-- Before the first call. -/
def start : SidecarConnections C H where
  manager := .new
  connections _ := ⟨none, none, none, fun _ => .start, .connected⟩

/-- One connection changes. -/
def put (s : SidecarConnections C H) (c : C) (conn : SidecarConnection H) :
    SidecarConnections C H :=
  { s with connections := Function.update s.connections c conn }

/-- The last lock section of `handle_disconnect`. -/
def removeRead (m : SidecarProxyManager) : Option Uuid → Option Uuid → Option Nat →
    SidecarProxyManager
  | some environmentId, some workloadId, some generation =>
    m.removeSidecar environmentId workloadId generation
  | _, _, _ => m

variable (calls : C → H → RegisterCall) (client : C → SidecarProxyRpcClient)

/-- The lock sections of all tasks, in any order. -/
inductive Step : SidecarConnections C H → ConnectionAction C H → SidecarConnections C H → Prop
  | setEnvironment {s : SidecarConnections C H} {c : C} {h : H}
      (hstate : (s.connections c).handlers h = .start) :
      Step s (.setEnvironment c h) (s.put c
        { s.connections c with
          environment := some (calls c h).environmentId
          handlers := Function.update (s.connections c).handlers h .environmentSet })
  | setWorkload {s : SidecarConnections C H} {c : C} {h : H}
      (hstate : (s.connections c).handlers h = .environmentSet) :
      Step s (.setWorkload c h) (s.put c
        { s.connections c with
          workload := some (calls c h).workloadId
          handlers := Function.update (s.connections c).handlers h .workloadSet })
  | registerSidecar {s : SidecarConnections C H} {c : C} {h : H} {generation : Nat}
      {manager : SidecarProxyManager} (hstate : (s.connections c).handlers h = .workloadSet)
      (hmanager : s.manager.registerSidecar (calls c h).environmentId (calls c h).workloadId
        (client c) = (generation, manager)) :
      Step s (.registerSidecar c h) (({ s with manager }).put c
        { s.connections c with
          handlers := Function.update (s.connections c).handlers h (.registered generation) })
  | storeGeneration {s : SidecarConnections C H} {c : C} {h : H} {generation : Nat}
      (hstate : (s.connections c).handlers h = .registered generation) :
      Step s (.storeGeneration c h) (s.put c
        { s.connections c with
          connectionGeneration := some generation
          handlers := Function.update (s.connections c).handlers h (.stored generation) })
  | abort {s : SidecarConnections C H} {c : C} {h : H} :
      Step s (.abort c h) (s.put c
        { s.connections c with
          handlers := Function.update (s.connections c).handlers h
            (.aborted ((s.connections c).handlers h).generation) })
  | readEnvironment {s : SidecarConnections C H} {c : C}
      (hstate : (s.connections c).disconnect = .connected) :
      Step s (.readEnvironment c) (s.put c
        { s.connections c with disconnect := .environmentRead (s.connections c).environment })
  | readWorkload {s : SidecarConnections C H} {c : C} {environment : Option Uuid}
      (hstate : (s.connections c).disconnect = .environmentRead environment) :
      Step s (.readWorkload c) (s.put c
        { s.connections c with
          disconnect := .workloadRead environment (s.connections c).workload })
  | readGeneration {s : SidecarConnections C H} {c : C} {environment workload : Option Uuid}
      (hstate : (s.connections c).disconnect = .workloadRead environment workload) :
      Step s (.readGeneration c) (s.put c
        { s.connections c with
          disconnect := .generationRead environment workload
            (s.connections c).connectionGeneration })
  | removeSidecar {s : SidecarConnections C H} {c : C} {environment workload : Option Uuid}
      {generation : Option Nat}
      (hstate : (s.connections c).disconnect = .generationRead environment workload generation) :
      Step s (.removeSidecar c)
        (({ s with manager := removeRead s.manager environment workload generation }).put c
          { s.connections c with disconnect := .done environment workload generation })

/-! ## What is left of a connection -/

/-- The generation under which a handler has filed its connection. -/
def inserted (s : SidecarConnections C H) (c : C) (h : H) : Option Nat :=
  ((s.connections c).handlers h).generation

/-- The disconnect has removed the entry of a handler. -/
def Removed (s : SidecarConnections C H) (c : C) (h : H) (generation : Nat) : Prop :=
  (s.connections c).disconnect =
    .done (some (calls c h).environmentId) (some (calls c h).workloadId) (some generation)

/-- The entry of the registry that a handler has inserted. -/
def entry (s : SidecarConnections C H) (c : C) (h : H) (generation : Nat) :
    Option SidecarProxyRpcClient :=
  (s.manager.clients (calls c h).environmentId (calls c h).workloadId).lookup generation

/-- All handlers of the connection and its disconnect have finished. -/
structure Finished (s : SidecarConnections C H) (c : C) : Prop where
  handlers : ∀ h, ((s.connections c).handlers h).Finished
  disconnect : ∃ environment workload generation,
    (s.connections c).disconnect = .done environment workload generation

/-- The registry holds no entry that the connection has inserted. -/
def Clean (s : SidecarConnections C H) (c : C) : Prop :=
  ∀ h generation, s.inserted c h = some generation → s.entry calls c h generation = none

/-- The entries of the other connections are there unless their own disconnect has removed them. -/
def Untouched (s : SidecarConnections C H) (c : C) : Prop :=
  ∀ c' ≠ c, ∀ h generation, s.inserted c' h = some generation →
    ¬s.Removed calls c' h generation → s.entry calls c' h generation = some (client c')

/-- What the disconnect has read so far is the ids of a call, and it has not read the generation. -/
def Agrees (call : RegisterCall) : DisconnectState → Prop
  | .connected => True
  | .environmentRead environment => environment = some call.environmentId
  | .workloadRead environment workload =>
    environment = some call.environmentId ∧ workload = some call.workloadId
  | .generationRead .. | .done .. => False

/-- A step of the connection `c` is in order. Only one handler files the connection, before the
disconnect reads the generation, and what the disconnect reads is that handler's. -/
def Orderly (c : C) (s : SidecarConnections C H) : ConnectionAction C H → Prop
  | .registerSidecar c' h => c' = c →
    (∀ h', s.inserted c h' = none) ∧ Agrees (calls c h) (s.connections c).disconnect
  | .readEnvironment c' => c' = c → ∀ h generation, s.inserted c h = some generation →
    (s.connections c).environment = some (calls c h).environmentId
  | .readWorkload c' => c' = c → ∀ h generation, s.inserted c h = some generation →
    (s.connections c).workload = some (calls c h).workloadId
  | .readGeneration c' => c' = c → ∀ h generation, s.inserted c h = some generation →
    (s.connections c).connectionGeneration = some generation
  | _ => True

/-- The counter of generations has not wrapped around when a handler files its connection. -/
def NotWrapped (s : SidecarConnections C H) : ConnectionAction C H → Prop
  | .registerSidecar .. => s.manager.generationCounter ≠ 0
  | _ => True

/-! ## What a step changes -/

section
variable {s : SidecarConnections C H} {c : C} {h : H}

omit [DecidableEq H] in
theorem put_self (conn : SidecarConnection H) : (s.put c conn).connections c = conn :=
  Function.update_self ..

omit [DecidableEq H] in
theorem put_of_ne {c' : C} (hne : c' ≠ c) (conn : SidecarConnection H) :
    (s.put c conn).connections c' = s.connections c' :=
  Function.update_of_ne hne ..

omit [DecidableEq H] in
/-- What the connections keep that one of them keeps. -/
theorem put_keeps {α : Type} (f : SidecarConnection H → α) {conn : SidecarConnection H}
    (hconn : f conn = f (s.connections c)) (c' : C) :
    f ((s.put c conn).connections c') = f (s.connections c') := by
  by_cases hc : c' = c
  · rw [hc, put_self, hconn]
  · rw [put_of_ne hc]

end

section
variable {calls : C → H → RegisterCall} {client : C → SidecarProxyRpcClient}

/-- A step that changes neither the registry nor what is inserted nor where the disconnects
stand. -/
structure Quiet (s s' : SidecarConnections C H) : Prop where
  manager : s'.manager = s.manager
  inserted : s'.inserted = s.inserted
  disconnect : ∀ c, (s'.connections c).disconnect = (s.connections c).disconnect

/-- A step that files a connection under a new generation. -/
structure Files (calls : C → H → RegisterCall) (client : C → SidecarProxyRpcClient)
    (s s' : SidecarConnections C H) (c : C) (h : H) : Prop where
  manager : s'.manager = (s.manager.registerSidecar (calls c h).environmentId
    (calls c h).workloadId (client c)).2
  fresh : s.inserted c h = none
  inserted : ∀ c' h' g, s'.inserted c' h' = some g ↔
    (c' = c ∧ h' = h ∧ g = s.manager.generationCounter) ∨ s.inserted c' h' = some g
  disconnect : ∀ c, (s'.connections c).disconnect = (s.connections c).disconnect
  connectionGeneration : ∀ c,
    (s'.connections c).connectionGeneration = (s.connections c).connectionGeneration

/-- A step of the disconnect of a connection. -/
structure Disconnects (s s' : SidecarConnections C H) (c : C) (state : DisconnectState) : Prop where
  inserted : s'.inserted = s.inserted
  own : (s'.connections c).disconnect = state
  others : ∀ c' ≠ c, (s'.connections c').disconnect = (s.connections c').disconnect
  connectionGeneration : ∀ c,
    (s'.connections c).connectionGeneration = (s.connections c).connectionGeneration

variable {s s' : SidecarConnections C H} {c : C} {h : H}

/-- A step of a handler that files nothing and forgets nothing. -/
theorem quiet_put {conn : SidecarConnection H} {state : RegisterState}
    (hhandlers : conn.handlers = Function.update (s.connections c).handlers h state)
    (hstate : state.generation = ((s.connections c).handlers h).generation)
    (hdisconnect : conn.disconnect = (s.connections c).disconnect) : Quiet s (s.put c conn) where
  manager := rfl
  inserted := by
    funext c' h'
    refine put_keeps (fun conn => (conn.handlers h').generation) ?_ c'
    rw [hhandlers]
    by_cases hh : h' = h
    · rw [hh, Function.update_self, hstate]
    · rw [Function.update_of_ne hh]
  disconnect := put_keeps (·.disconnect) hdisconnect

theorem files_put {generation : Nat} {manager : SidecarProxyManager}
    (hstate : (s.connections c).handlers h = .workloadSet)
    (hmanager : s.manager.registerSidecar (calls c h).environmentId (calls c h).workloadId
      (client c) = (generation, manager)) :
    Files calls client s (({ s with manager }).put c
      { s.connections c with
        handlers := Function.update (s.connections c).handlers h (.registered generation) }) c h where
  manager := (congrArg Prod.snd hmanager).symm
  fresh := by
    rw [inserted, hstate]
    rfl
  inserted c' h' g := by
    have hgeneration : s.manager.generationCounter = generation := congrArg Prod.fst hmanager
    by_cases hc : c' = c
    · subst hc
      rw [inserted, put_self, inserted]
      dsimp only
      by_cases hh : h' = h
      · subst hh
        rw [Function.update_self, hstate, hgeneration]
        simp [RegisterState.generation, eq_comm]
      · rw [Function.update_of_ne hh]
        simp [hh]
    · rw [inserted, put_of_ne hc, inserted]
      simp [hc]
  disconnect := put_keeps (·.disconnect) rfl
  connectionGeneration := put_keeps (·.connectionGeneration) rfl

omit [DecidableEq H] in
theorem disconnects_put (manager : SidecarProxyManager) (state : DisconnectState) :
    Disconnects s (({ s with manager }).put c { s.connections c with disconnect := state }) c
      state where
  inserted := by
    funext c' h'
    let s₁ : SidecarConnections C H := { s with manager }
    have hconn : ({ s.connections c with disconnect := state } : SidecarConnection H).handlers h' =
        (s₁.connections c).handlers h' := rfl
    exact put_keeps (s := s₁) (fun conn => (conn.handlers h').generation)
      (congrArg RegisterState.generation hconn) c'
  own := by rw [put_self]
  others c' hc := by rw [put_of_ne hc]
  connectionGeneration := put_keeps (·.connectionGeneration) rfl

/-! ## The entries of the registry -/

/-- Generations are unique and below the counter unless it has wrapped around, the remembered ones
have been inserted, and an entry is there until its own disconnect has removed it. -/
structure Filed (calls : C → H → RegisterCall) (client : C → SidecarProxyRpcClient)
    (s : SidecarConnections C H) : Prop where
  counter_lt : s.manager.generationCounter < 2 ^ 64
  below : s.manager.generationCounter = 0 ∨
    ∀ c h g, s.inserted c h = some g → g < s.manager.generationCounter
  unique : ∀ c h c' h' g, s.inserted c h = some g → s.inserted c' h' = some g → c = c' ∧ h = h'
  stored : ∀ c g, (s.connections c).connectionGeneration = some g → ∃ h, s.inserted c h = some g
  read : ∀ c g, (s.connections c).disconnect.generation = some g → ∃ h, s.inserted c h = some g
  entries : ∀ c h g, s.inserted c h = some g →
    s.entry calls c h g = some (client c) ∧ ¬s.Removed calls c h g ∨
      s.entry calls c h g = none ∧ s.Removed calls c h g

omit [DecidableEq C] [DecidableEq H]

theorem filed_start : Filed calls client (start : SidecarConnections C H) where
  counter_lt := by
    change 1 < 2 ^ 64
    omega
  below := .inr fun _ _ _ h => nomatch h
  unique _ _ _ _ _ h := nomatch h
  stored _ _ h := nomatch h
  read _ _ h := nomatch h
  entries _ _ _ h := nomatch h

theorem Filed.quiet (hfiled : Filed calls client s) (hquiet : Quiet s s')
    (hstored : ∀ c g, (s'.connections c).connectionGeneration = some g →
      ∃ h, s.inserted c h = some g) : Filed calls client s' where
  counter_lt := by
    rw [hquiet.manager]
    exact hfiled.counter_lt
  below := by
    rw [hquiet.inserted, hquiet.manager]
    exact hfiled.below
  unique := by
    rw [hquiet.inserted]
    exact hfiled.unique
  stored := by
    rw [hquiet.inserted]
    exact hstored
  read c g hread := by
    rw [hquiet.inserted]
    exact hfiled.read c g (hquiet.disconnect c ▸ hread)
  entries := by
    unfold entry Removed
    rw [hquiet.inserted, hquiet.manager]
    simp only [hquiet.disconnect]
    exact hfiled.entries

/-- The entry of a handler after a registration. -/
theorem Files.entry_eq (hfiles : Files calls client s s' c h) (c' : C) (h' : H) (g : Nat) :
    s'.entry calls c' h' g =
      if (calls c' h').environmentId = (calls c h).environmentId ∧
          (calls c' h').workloadId = (calls c h).workloadId ∧ g = s.manager.generationCounter then
        some (client c)
      else s.entry calls c' h' g := by
  rw [entry, hfiles.manager, SidecarProxyManager.clients_registerSidecar, entry]
  by_cases heq : (calls c' h').environmentId = (calls c h).environmentId ∧
      (calls c' h').workloadId = (calls c h).workloadId
  · rw [if_pos heq, HashTable.lookup_insert, heq.1, heq.2]
    simp
  · rw [if_neg heq, if_neg fun hall => heq ⟨hall.1, hall.2.1⟩]

theorem Filed.files (hfiled : Filed calls client s) (hfiles : Files calls client s s' c h)
    (hwrap : s.manager.generationCounter ≠ 0) : Filed calls client s' := by
  have hbelow : ∀ c h g, s.inserted c h = some g → g < s.manager.generationCounter :=
    hfiled.below.resolve_left hwrap
  have hcounter : s'.manager.generationCounter = (s.manager.generationCounter + 1) % 2 ^ 64 := by
    rw [hfiles.manager]
    rfl
  refine ⟨?_, ?_, fun c₁ h₁ c₂ h₂ g hg₁ hg₂ => ?_, fun c' g hg => ?_, fun c' g hg => ?_,
    fun c' h' g hg => ?_⟩
  · rw [hcounter]
    exact Nat.mod_lt _ (by omega)
  · rw [hcounter]
    rcases Nat.lt_or_ge (s.manager.generationCounter + 1) (2 ^ 64) with hlt | hge
    · rw [Nat.mod_eq_of_lt hlt]
      refine .inr fun c' h' g hg => ?_
      rcases (hfiles.inserted c' h' g).1 hg with ⟨-, -, rfl⟩ | hg
      · exact Nat.lt_succ_self _
      · exact Nat.lt_succ_of_lt (hbelow c' h' g hg)
    · -- the registration takes the last generation
      have hlt := hfiled.counter_lt
      exact .inl (by omega)
  · rcases (hfiles.inserted c₁ h₁ g).1 hg₁ with ⟨hc₁, hh₁, hg⟩ | hg₁
    · rcases (hfiles.inserted c₂ h₂ g).1 hg₂ with ⟨hc₂, hh₂, -⟩ | hg₂
      · exact ⟨hc₁.trans hc₂.symm, hh₁.trans hh₂.symm⟩
      · exact absurd (hbelow _ _ _ hg₂) (hg ▸ Nat.lt_irrefl _)
    · rcases (hfiles.inserted c₂ h₂ g).1 hg₂ with ⟨-, -, hg⟩ | hg₂
      · exact absurd (hbelow _ _ _ hg₁) (hg ▸ Nat.lt_irrefl _)
      · exact hfiled.unique c₁ h₁ c₂ h₂ g hg₁ hg₂
  · obtain ⟨h', hh'⟩ := hfiled.stored c' g (hfiles.connectionGeneration c' ▸ hg)
    exact ⟨h', (hfiles.inserted c' h' g).2 (.inr hh')⟩
  · obtain ⟨h', hh'⟩ := hfiled.read c' g (hfiles.disconnect c' ▸ hg)
    exact ⟨h', (hfiles.inserted c' h' g).2 (.inr hh')⟩
  · have hremoved : s'.Removed calls c' h' g ↔ s.Removed calls c' h' g := by
      rw [Removed, hfiles.disconnect, Removed]
    rw [hfiles.entry_eq, hremoved]
    rcases (hfiles.inserted c' h' g).1 hg with ⟨rfl, rfl, rfl⟩ | hg
    · refine .inl ⟨if_pos ⟨rfl, rfl, rfl⟩, fun hremoved => ?_⟩
      obtain ⟨h'', hh''⟩ := hfiled.read c' s.manager.generationCounter (by rw [hremoved]; rfl)
      exact Nat.lt_irrefl _ (hbelow _ _ _ hh'')
    · have hlt := hbelow c' h' g hg
      rw [if_neg fun hall => absurd hall.2.2 hlt.ne]
      exact hfiled.entries c' h' g hg

/-- The disconnect reads. -/
theorem Filed.disconnects (hfiled : Filed calls client s) {state : DisconnectState}
    (hdisconnects : Disconnects s s' c state) (hmanager : s'.manager = s.manager)
    (hread : ∀ g, state.generation = some g → ∃ h, s.inserted c h = some g)
    (hbefore : ∀ h g, ¬s.Removed calls c h g)
    (hstate : ∀ environment workload generation, state ≠ .done environment workload generation) :
    Filed calls client s' where
  counter_lt := by
    rw [hmanager]
    exact hfiled.counter_lt
  below := by
    rw [hdisconnects.inserted, hmanager]
    exact hfiled.below
  unique := by
    rw [hdisconnects.inserted]
    exact hfiled.unique
  stored c' g hg := by
    rw [hdisconnects.inserted]
    exact hfiled.stored c' g (hdisconnects.connectionGeneration c' ▸ hg)
  read c' g hg := by
    rw [hdisconnects.inserted]
    by_cases hc : c' = c
    · rw [hc, hdisconnects.own] at hg
      exact hc ▸ hread g hg
    · rw [hdisconnects.others c' hc] at hg
      exact hfiled.read c' g hg
  entries c' h' g hg := by
    rw [hdisconnects.inserted] at hg
    have hremoved : s'.Removed calls c' h' g ↔ s.Removed calls c' h' g := by
      by_cases hc : c' = c
      · subst hc
        refine iff_of_false (fun hremoved => ?_) (hbefore h' g)
        rw [Removed, hdisconnects.own] at hremoved
        exact hstate _ _ _ hremoved
      · rw [Removed, hdisconnects.others c' hc, Removed]
    rw [hremoved, entry, hmanager]
    exact hfiled.entries c' h' g hg

/-- The disconnect removes what it has read. -/
theorem Filed.removes (hfiled : Filed calls client s) {environment workload : Option Uuid}
    {generation : Option Nat}
    (hstate : (s.connections c).disconnect = .generationRead environment workload generation)
    (hdisconnects : Disconnects s s' c (.done environment workload generation))
    (hmanager : s'.manager = removeRead s.manager environment workload generation) :
    Filed calls client s' := by
  have hcounter : s'.manager.generationCounter = s.manager.generationCounter := by
    rw [hmanager]
    unfold removeRead
    split
    · exact SidecarProxyManager.generationCounter_removeSidecar ..
    · rfl
  have hentry : ∀ c' h' g, s'.entry calls c' h' g =
      if environment = some (calls c' h').environmentId ∧
          workload = some (calls c' h').workloadId ∧ generation = some g then none
      else s.entry calls c' h' g := by
    intro c' h' g
    rw [entry, hmanager, entry]
    match environment, workload, generation with
    | some env, some w, some gen =>
      rw [removeRead, SidecarProxyManager.clients_removeSidecar]
      by_cases heq : (calls c' h').environmentId = env ∧ (calls c' h').workloadId = w
      · obtain ⟨rfl, rfl⟩ := heq
        rw [if_pos ⟨rfl, rfl⟩, HashTable.lookup_erase]
        simp [eq_comm]
      · rw [if_neg heq, if_neg]
        rintro ⟨henv, hw, -⟩
        exact heq ⟨(Option.some.inj henv).symm, (Option.some.inj hw).symm⟩
    | none, _, _ => simp [removeRead]
    | some _, none, _ => simp [removeRead]
    | some _, some _, none => simp [removeRead]
  refine ⟨?_, ?_, fun c₁ h₁ c₂ h₂ g hg₁ hg₂ => ?_, fun c' g hg => ?_, fun c' g hg => ?_,
    fun c' h' g hg => ?_⟩
  · rw [hcounter]
    exact hfiled.counter_lt
  · rw [hcounter, hdisconnects.inserted]
    exact hfiled.below
  · rw [hdisconnects.inserted] at hg₁ hg₂
    exact hfiled.unique c₁ h₁ c₂ h₂ g hg₁ hg₂
  · rw [hdisconnects.inserted]
    exact hfiled.stored c' g (hdisconnects.connectionGeneration c' ▸ hg)
  · rw [hdisconnects.inserted]
    by_cases hc : c' = c
    · rw [hc, hdisconnects.own] at hg
      exact hc ▸ hfiled.read c g (by rw [hstate]; exact hg)
    · rw [hdisconnects.others c' hc] at hg
      exact hfiled.read c' g hg
  · rw [hdisconnects.inserted] at hg
    rw [hentry]
    by_cases hc : c' = c
    · subst hc
      have hbefore : ¬s.Removed calls c' h' g := by
        rw [Removed, hstate]
        exact fun heq => nomatch heq
      have hremoved : s'.Removed calls c' h' g ↔ environment = some (calls c' h').environmentId ∧
          workload = some (calls c' h').workloadId ∧ generation = some g := by
        rw [Removed, hdisconnects.own]
        simp
      rw [hremoved]
      have hthere := ((hfiled.entries c' h' g hg).resolve_right fun hnone => hbefore hnone.2).1
      by_cases hall : environment = some (calls c' h').environmentId ∧
          workload = some (calls c' h').workloadId ∧ generation = some g
      · exact .inr ⟨if_pos hall, hall⟩
      · exact .inl ⟨(if_neg hall).trans hthere, hall⟩
    · have hremoved : s'.Removed calls c' h' g ↔ s.Removed calls c' h' g := by
        rw [Removed, hdisconnects.others c' hc, Removed]
      rw [hremoved, if_neg]
      · exact hfiled.entries c' h' g hg
      · -- a generation that the disconnect has read is one of its own connection
        rintro ⟨-, -, rfl⟩
        obtain ⟨h'', hh''⟩ := hfiled.read c g (by rw [hstate]; rfl)
        exact hc (hfiled.unique c' h' c h'' g hg hh'').1

end

section
variable {calls : C → H → RegisterCall} {client : C → SidecarProxyRpcClient}

/-- Until the counter wraps around, every step keeps the entries. -/
theorem filed_step (s : SidecarConnections C H) (a : ConnectionAction C H)
    (s' : SidecarConnections C H) (hguarded : Guarded (Step calls client) NotWrapped s a s')
    (hfiled : Filed calls client s) : Filed calls client s' := by
  have hstoredKept : ∀ {c : C} {conn : SidecarConnection H},
      conn.connectionGeneration = (s.connections c).connectionGeneration →
        ∀ c' g, ((s.put c conn).connections c').connectionGeneration = some g →
          ∃ h, s.inserted c' h = some g := by
    intro c conn hconn c' g hg
    exact hfiled.stored c' g ((put_keeps (·.connectionGeneration) hconn c').symm.trans hg)
  obtain ⟨hstep, hwrap⟩ := hguarded
  cases hstep with
  | setEnvironment hstate =>
    exact hfiled.quiet (quiet_put rfl (by rw [hstate]; rfl) rfl) (hstoredKept rfl)
  | setWorkload hstate =>
    exact hfiled.quiet (quiet_put rfl (by rw [hstate]; rfl) rfl) (hstoredKept rfl)
  | abort => exact hfiled.quiet (quiet_put rfl rfl rfl) (hstoredKept rfl)
  | @storeGeneration c h generation hstate =>
    refine hfiled.quiet (quiet_put rfl (by rw [hstate]; rfl) rfl) fun c' g hg => ?_
    by_cases hc : c' = c
    · rw [hc, put_self] at hg
      cases hg
      exact ⟨h, by rw [inserted, hc, hstate]; rfl⟩
    · rw [put_of_ne hc] at hg
      exact hfiled.stored c' g hg
  | registerSidecar hstate hmanager => exact hfiled.files (files_put hstate hmanager) hwrap
  | readEnvironment hstate =>
    refine hfiled.disconnects (disconnects_put s.manager _) rfl (fun _ hg => nomatch hg) ?_
      (fun _ _ _ heq => nomatch heq)
    intro h g hremoved
    rw [Removed, hstate] at hremoved
    cases hremoved
  | readWorkload hstate =>
    refine hfiled.disconnects (disconnects_put s.manager _) rfl (fun _ hg => nomatch hg) ?_
      (fun _ _ _ heq => nomatch heq)
    intro h g hremoved
    rw [Removed, hstate] at hremoved
    cases hremoved
  | @readGeneration c environment workload hstate =>
    refine hfiled.disconnects (disconnects_put s.manager _) rfl (fun g hg => hfiled.stored c g hg) ?_
      (fun _ _ _ heq => nomatch heq)
    intro h g hremoved
    rw [Removed, hstate] at hremoved
    cases hremoved
  | removeSidecar hstate => exact hfiled.removes hstate (disconnects_put _ _) rfl

/-! ## Entries that stay -/

/-- The disconnect has read something else than the entry of a call under a generation. -/
def Missed (call : RegisterCall) (g : Nat) : DisconnectState → Prop
  | .connected => False
  | .environmentRead environment => environment ≠ some call.environmentId
  | .workloadRead environment workload =>
    ¬(environment = some call.environmentId ∧ workload = some call.workloadId)
  | .generationRead environment workload generation | .done environment workload generation =>
    ¬(environment = some call.environmentId ∧ workload = some call.workloadId ∧ generation = some g)

/-- An entry of the connection will stay: the disconnect misses it, or there is another one. -/
def Leaks (calls : C → H → RegisterCall) (c : C) (s : SidecarConnections C H) : Prop :=
  (∃ h g, s.inserted c h = some g ∧ Missed (calls c h) g (s.connections c).disconnect) ∨
    ∃ h h', h ≠ h' ∧ s.inserted c h ≠ none ∧ s.inserted c h' ≠ none

omit [DecidableEq C] [DecidableEq H] in
/-- A step of which the connection sees nothing. -/
theorem leaks_congr {s s' : SidecarConnections C H} {c : C} (hinserted : s'.inserted c = s.inserted c)
    (hdisconnect : (s'.connections c).disconnect = (s.connections c).disconnect) :
    Leaks calls c s' ↔ Leaks calls c s := by
  rw [Leaks, hinserted, hdisconnect, Leaks]

omit [DecidableEq C] [DecidableEq H] in
/-- Once the disconnect is done, an entry stays exactly if one leaks. -/
theorem Filed.clean_iff {s : SidecarConnections C H} {c : C} (hfiled : Filed calls client s)
    (hfinished : s.Finished c) : s.Clean calls c ↔ ¬Leaks calls c s := by
  obtain ⟨environment, workload, generation, hdone⟩ := hfinished.disconnect
  have hmissed : ∀ h g, Missed (calls c h) g (s.connections c).disconnect ↔
      ¬s.Removed calls c h g := by
    intro h g
    rw [Removed, hdone, Missed]
    simp
  constructor
  · rintro hclean (⟨h, g, hg, hmiss⟩ | ⟨h, h', hne, hg, hg'⟩)
    · rcases hfiled.entries c h g hg with ⟨hthere, -⟩ | ⟨-, hremoved⟩
      · rw [hclean h g hg] at hthere
        cases hthere
      · exact (hmissed h g).1 hmiss hremoved
    · obtain ⟨g, hg⟩ := Option.ne_none_iff_exists'.1 hg
      obtain ⟨g', hg'⟩ := Option.ne_none_iff_exists'.1 hg'
      have hremoved : ∀ h g, s.inserted c h = some g → s.Removed calls c h g := by
        intro h g hg
        rcases hfiled.entries c h g hg with ⟨hthere, -⟩ | ⟨-, hremoved⟩
        · rw [hclean h g hg] at hthere
          cases hthere
        · exact hremoved
      have heq := (hremoved h g hg).symm.trans (hremoved h' g' hg')
      obtain ⟨-, -, heq⟩ := DisconnectState.done.inj heq
      cases heq
      exact hne (hfiled.unique c h c h' g hg hg').2
  · intro hleaks h g hg
    rcases hfiled.entries c h g hg with ⟨-, hremoved⟩ | ⟨hnone, -⟩
    · exact absurd (.inl ⟨h, g, hg, (hmissed h g).2 hremoved⟩) hleaks
    · exact hnone

omit [DecidableEq C] [DecidableEq H] in
/-- A new entry leaks exactly if the disconnect has read something else. -/
theorem missed_counter_iff {s : SidecarConnections C H} {c : C} {h : H}
    (hfiled : Filed calls client s) (hwrap : s.manager.generationCounter ≠ 0) :
    Missed (calls c h) s.manager.generationCounter (s.connections c).disconnect ↔
      ¬Agrees (calls c h) (s.connections c).disconnect := by
  have hread : (s.connections c).disconnect.generation ≠ some s.manager.generationCounter := by
    intro hg
    obtain ⟨h', hh'⟩ := hfiled.read c _ hg
    exact Nat.lt_irrefl _ (hfiled.below.resolve_left hwrap c h' _ hh')
  cases hstate : (s.connections c).disconnect with
  | connected => simp [Missed, Agrees]
  | environmentRead environment => rfl
  | workloadRead environment workload => rfl
  | generationRead environment workload generation =>
    rw [hstate] at hread
    simp only [Missed, Agrees, not_false_iff, iff_true]
    exact fun hall => hread hall.2.2
  | done environment workload generation =>
    rw [hstate] at hread
    simp only [Missed, Agrees, not_false_iff, iff_true]
    exact fun hall => hread hall.2.2

omit [DecidableEq C] [DecidableEq H] in
/-- A registration on the connection leads to a leak from a leak, beside another entry, or after the
disconnect has read something else. -/
theorem Files.leaks_iff {s s' : SidecarConnections C H} {c : C} {h : H}
    (hfiles : Files calls client s s' c h) (hfiled : Filed calls client s)
    (hwrap : s.manager.generationCounter ≠ 0) :
    Leaks calls c s' ↔ Leaks calls c s ∨
      ¬((∀ h', s.inserted c h' = none) ∧ Agrees (calls c h) (s.connections c).disconnect) := by
  have hinserted : ∀ h' g, s'.inserted c h' = some g ↔
      (h' = h ∧ g = s.manager.generationCounter) ∨ s.inserted c h' = some g := by
    intro h' g
    rw [hfiles.inserted, and_iff_right rfl]
  have hself : s'.inserted c h = some s.manager.generationCounter := (hinserted h _).2 (.inl ⟨rfl, rfl⟩)
  have hother : ∀ h', s.inserted c h' ≠ none → h' ≠ h ∧ s'.inserted c h' ≠ none := by
    intro h' hne
    obtain ⟨g, hg⟩ := Option.ne_none_iff_exists'.1 hne
    refine ⟨fun heq => hne (heq ▸ hfiles.fresh), ?_⟩
    rw [(hinserted h' g).2 (.inr hg)]
    exact Option.some_ne_none g
  constructor
  · intro hleaks
    by_cases hnone : ∀ h', s.inserted c h' = none
    · -- the only entry is the new one
      have honly : ∀ h', s'.inserted c h' ≠ none → h' = h := by
        intro h' hne
        obtain ⟨g, hg⟩ := Option.ne_none_iff_exists'.1 hne
        rcases (hinserted h' g).1 hg with ⟨heq, -⟩ | hg
        · exact heq
        · rw [hnone h'] at hg
          cases hg
      rcases hleaks with ⟨h', g, hg, hmiss⟩ | ⟨h₁, h₂, hne, h₁some, h₂some⟩
      · rw [hfiles.disconnect] at hmiss
        rcases (hinserted h' g).1 hg with ⟨rfl, rfl⟩ | hg
        · exact .inr fun hall => (missed_counter_iff hfiled hwrap).1 hmiss hall.2
        · rw [hnone h'] at hg
          cases hg
      · exact absurd ((honly h₁ h₁some).trans (honly h₂ h₂some).symm) hne
    · exact .inr fun hall => hnone hall.1
  · rintro ((⟨h', g, hg, hmiss⟩ | ⟨h₁, h₂, hne, h₁some, h₂some⟩) | hviolated)
    · refine .inl ⟨h', g, (hinserted h' g).2 (.inr hg), ?_⟩
      rwa [hfiles.disconnect]
    · exact .inr ⟨h₁, h₂, hne, (hother h₁ h₁some).2, (hother h₂ h₂some).2⟩
    · by_cases hnone : ∀ h', s.inserted c h' = none
      · refine .inl ⟨h, _, hself, ?_⟩
        rw [hfiles.disconnect]
        exact (missed_counter_iff hfiled hwrap).2 fun hagrees => hviolated ⟨hnone, hagrees⟩
      · obtain ⟨h', hne⟩ := not_forall.1 hnone
        refine .inr ⟨h', h, (hother h' hne).1, (hother h' hne).2, ?_⟩
        rw [hself]
        exact Option.some_ne_none _

omit [DecidableEq C] [DecidableEq H] in
/-- A read of the disconnect leads to a leak from a leak, or where it reads something else than an
entry has. -/
theorem Disconnects.leaks_iff {s s' : SidecarConnections C H} {c : C} {state : DisconnectState}
    (hdisconnects : Disconnects s s' c state) {p : H → Nat → Prop}
    (hmissed : ∀ h g, s.inserted c h = some g →
      (Missed (calls c h) g state ↔ Missed (calls c h) g (s.connections c).disconnect ∨ ¬p h g)) :
    Leaks calls c s' ↔ Leaks calls c s ∨ ¬∀ h g, s.inserted c h = some g → p h g := by
  rw [Leaks, hdisconnects.inserted, hdisconnects.own, Leaks]
  constructor
  · rintro (⟨h, g, hg, hmiss⟩ | htwo)
    · rcases (hmissed h g hg).1 hmiss with hmiss | hnot
      · exact .inl (.inl ⟨h, g, hg, hmiss⟩)
      · exact .inr fun hall => hnot (hall h g hg)
    · exact .inl (.inr htwo)
  · rintro ((⟨h, g, hg, hmiss⟩ | htwo) | hviolated)
    · exact .inl ⟨h, g, hg, (hmissed h g hg).2 (.inl hmiss)⟩
    · exact .inr htwo
    · simp only [not_forall] at hviolated
      obtain ⟨h, g, hg, hnot⟩ := hviolated
      exact .inl ⟨h, g, hg, (hmissed h g hg).2 (.inr hnot)⟩

/-- **A step leaks** exactly if an entry leaks already or the step is out of order. -/
theorem leaks_step (c : C) (s : SidecarConnections C H) (a : ConnectionAction C H)
    (s' : SidecarConnections C H) (hguarded : Guarded (Step calls client) NotWrapped s a s')
    (hfiled : Filed calls client s) :
    Leaks calls c s' ↔ Leaks calls c s ∨ ¬Orderly calls c s a := by
  obtain ⟨hstep, hwrap⟩ := hguarded
  have hquiet : ∀ {s' a}, Quiet s s' → Orderly calls c s a →
      (Leaks calls c s' ↔ Leaks calls c s ∨ ¬Orderly calls c s a) := by
    intro s' a hquiet horderly
    rw [or_iff_left (not_not.2 horderly)]
    exact leaks_congr (congrFun hquiet.inserted c) (hquiet.disconnect c)
  have hothers : ∀ {c' : C} {state : DisconnectState} {s' a}, c ≠ c' → Disconnects s s' c' state →
      Orderly calls c s a → (Leaks calls c s' ↔ Leaks calls c s ∨ ¬Orderly calls c s a) := by
    intro c' state s' a hc hdisconnects horderly
    rw [or_iff_left (not_not.2 horderly)]
    exact leaks_congr (congrFun hdisconnects.inserted c) (hdisconnects.others c hc)
  cases hstep with
  | setEnvironment hstate => exact hquiet (quiet_put rfl (by rw [hstate]; rfl) rfl) trivial
  | setWorkload hstate => exact hquiet (quiet_put rfl (by rw [hstate]; rfl) rfl) trivial
  | storeGeneration hstate => exact hquiet (quiet_put rfl (by rw [hstate]; rfl) rfl) trivial
  | abort => exact hquiet (quiet_put rfl rfl rfl) trivial
  | @registerSidecar c' h generation manager hstate hmanager =>
    have hfiles : Files calls client s _ c' h := files_put hstate hmanager
    by_cases hc : c' = c
    · subst hc
      rw [Orderly, forall_prop_of_true rfl]
      exact hfiles.leaks_iff hfiled hwrap
    · have horderly : Orderly calls c s (.registerSidecar c' h) := fun heq => absurd heq hc
      rw [or_iff_left (not_not.2 horderly)]
      refine leaks_congr (funext fun h' => Option.ext fun g => ?_) (hfiles.disconnect c)
      rw [hfiles.inserted, or_iff_right fun hall => hc hall.1.symm]
  | @readEnvironment c' hstate =>
    by_cases hc : c' = c
    · subst hc
      rw [Orderly, forall_prop_of_true rfl]
      refine (disconnects_put s.manager _).leaks_iff fun h g _ => ?_
      rw [hstate, Missed, Missed, false_or]
    · exact hothers (Ne.symm hc) (disconnects_put s.manager _) fun heq => absurd heq hc
  | @readWorkload c' environment hstate =>
    by_cases hc : c' = c
    · subst hc
      rw [Orderly, forall_prop_of_true rfl]
      refine (disconnects_put s.manager _).leaks_iff fun h g _ => ?_
      rw [hstate, Missed, Missed, not_and_or]
    · exact hothers (Ne.symm hc) (disconnects_put s.manager _) fun heq => absurd heq hc
  | @readGeneration c' environment workload hstate =>
    by_cases hc : c' = c
    · subst hc
      rw [Orderly, forall_prop_of_true rfl]
      refine (disconnects_put s.manager _).leaks_iff fun h g _ => ?_
      rw [hstate, Missed, Missed]
      tauto
    · exact hothers (Ne.symm hc) (disconnects_put s.manager _) fun heq => absurd heq hc
  | @removeSidecar c' environment workload generation hstate =>
    have horderly : Orderly calls c s (.removeSidecar c') := trivial
    rw [or_iff_left (not_not.2 horderly)]
    have hdisconnects : Disconnects s _ c' (.done environment workload generation) :=
      disconnects_put (removeRead s.manager environment workload generation) _
    by_cases hc : c' = c
    · subst hc
      rw [Leaks, hdisconnects.inserted, hdisconnects.own, Leaks, hstate]
      rfl
    · exact leaks_congr (congrFun hdisconnects.inserted c) (hdisconnects.others c (Ne.symm hc))

/-- **Hygiene of a connection.** Where the counter of generations does not wrap around: once the
handlers and the disconnect of a connection have finished, the registry holds no entry of it, and
those of the other connections are untouched, exactly if every step of the connection was in
order. -/
theorem clean_iff_orderly {as : List (ConnectionAction C H)} {s : SidecarConnections C H} {c : C}
    (hrun : Run (Guarded (Step calls client) NotWrapped) start as s) (hfinished : s.Finished c) :
    s.Clean calls c ∧ s.Untouched calls client c ↔
      Run (Guarded (Guarded (Step calls client) NotWrapped) (Orderly calls c)) start as s := by
  have hfiled : Filed calls client s := Run.invariant _ filed_step hrun filed_start
  have huntouched : s.Untouched calls client c := by
    intro c' _ h g hg hnot
    exact ((hfiled.entries c' h g hg).resolve_right fun hnone => hnot hnone.2).1
  have hstart : ¬Leaks calls c (start : SidecarConnections C H) := by
    rintro (⟨h, g, hg, -⟩ | ⟨h, h', -, hne, -⟩)
    · cases hg
    · exact hne rfl
  rw [and_iff_left huntouched, hfiled.clean_iff hfinished]
  exact Run.not_bad_iff (Filed calls client) (Leaks calls c) filed_step (leaks_step c) hrun filed_start
    hstart

end

/-! ## One connection with one registration -/

/-- The ids of a sidecar. -/
def webIds (_ _ : Unit) : RegisterCall := ⟨1, 2⟩

/-- The connection of the sidecar. -/
def webConnection (_ : Unit) : SidecarProxyRpcClient := ⟨0, 2, 1⟩

/-- The registration is over when the connection ends. -/
def registeredThenGone : List (ConnectionAction Unit Unit) :=
  [.setEnvironment () (), .setWorkload () (), .registerSidecar () (), .storeGeneration () (),
    .readEnvironment (), .readWorkload (), .readGeneration (), .removeSidecar ()]

/-- The connection ends before the generation is stored. -/
def goneBeforeStored : List (ConnectionAction Unit Unit) :=
  [.setEnvironment () (), .setWorkload () (), .registerSidecar () (), .readEnvironment (),
    .readWorkload (), .readGeneration (), .storeGeneration () (), .removeSidecar ()]

/-- Nothing of the connection is left. -/
theorem clean_registeredThenGone : ∃ s : SidecarConnections Unit Unit,
    Run (Guarded (Step webIds webConnection) NotWrapped) start registeredThenGone s ∧
      s.Finished () ∧ s.Clean webIds () ∧ s.Untouched webIds webConnection () := by
  have hrun : ∃ s, Run (Guarded (Guarded (Step webIds webConnection) NotWrapped)
      (Orderly webIds ())) start registeredThenGone s ∧ s.Finished () := by
    refine ⟨_, .cons ⟨⟨.setEnvironment rfl, trivial⟩, trivial⟩ <|
      .cons ⟨⟨.setWorkload rfl, trivial⟩, trivial⟩ <|
      .cons ⟨⟨.registerSidecar rfl rfl, Nat.one_ne_zero⟩, ?_⟩ <|
      .cons ⟨⟨.storeGeneration rfl, trivial⟩, trivial⟩ <|
      .cons ⟨⟨.readEnvironment rfl, trivial⟩, ?_⟩ <| .cons ⟨⟨.readWorkload rfl, trivial⟩, ?_⟩ <|
      .cons ⟨⟨.readGeneration rfl, trivial⟩, ?_⟩ <|
      .cons ⟨⟨.removeSidecar rfl, trivial⟩, trivial⟩ .nil, ?_⟩
    · exact fun _ => ⟨fun _ => rfl, trivial⟩
    · exact fun _ _ _ _ => rfl
    · exact fun _ _ _ _ => rfl
    · exact fun _ _ _ h => h
    · exact ⟨fun _ => trivial, some 1, some 2, some 1, rfl⟩
  obtain ⟨s, hguarded, hfinished⟩ := hrun
  have hrun : Run (Guarded (Step webIds webConnection) NotWrapped) start registeredThenGone s :=
    hguarded.mono And.left
  exact ⟨s, hrun, hfinished, (clean_iff_orderly hrun hfinished).2 hguarded⟩

/-- The generation is read before it is stored, and the entry stays in the registry. -/
theorem disconnect_leaves_entry :
    ¬∀ (calls : Unit → Unit → RegisterCall) (client : Unit → SidecarProxyRpcClient)
      (as : List (ConnectionAction Unit Unit)) (s : SidecarConnections Unit Unit),
      Run (Step calls client) start as s → s.Finished () → s.Clean calls () := by
  intro h
  have hrun : ∃ s, Run (Step webIds webConnection) start goneBeforeStored s ∧ s.Finished () ∧
      s.inserted () () = some 1 ∧ s.entry webIds () () 1 = some (webConnection ()) := by
    refine ⟨_, .cons (.setEnvironment rfl) <| .cons (.setWorkload rfl) <|
      .cons (.registerSidecar rfl rfl) <| .cons (.readEnvironment rfl) <| .cons (.readWorkload rfl) <|
      .cons (.readGeneration rfl) <| .cons (.storeGeneration rfl) <| .cons (.removeSidecar rfl) .nil,
      ⟨fun _ => trivial, some 1, some 2, none, rfl⟩, rfl, rfl⟩
  obtain ⟨s, hrun, hfinished, hinserted, hentry⟩ := hrun
  rw [h webIds webConnection goneBeforeStored s hrun hfinished () 1 hinserted] at hentry
  cases hentry

end SidecarConnections

end Lapdev
