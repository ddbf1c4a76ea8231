import Lapdev.Logic.Run
import Lapdev.Sidecar.Connections

/-!
# Connections and route changes, interleaved

A connection reads its decision under the table's lock and subscribes to the registry later; a
handler writes the table and shuts keys down later. `Step` interleaves any number of both, one
critical section at a time. A connection that subscribes after the handler has shut its key down
gets a fresh channel and keeps its old decision: `noStale_of_run` says that nothing else can go
wrong.
-/

namespace Lapdev

open RustStd Runs

/-- Source: `connection_registry.rs`; a channel is its number, `signalled` are the channels whose
sender has sent `true`. -/
structure ConnectionRegistry where
  branches : HashMap (Option Uuid) Nat
  nextChannel : Nat
  signalled : List Nat

namespace ConnectionRegistry

def empty : ConnectionRegistry := ⟨∅, 0, []⟩

/-- Source: `connection_registry.rs`: the channel of the branch, a new one if there is none. -/
def subscribe (registry : ConnectionRegistry) (branch : Option Uuid) : ConnectionRegistry × Nat :=
  match registry.branches.lookup branch with
  | some channel => (registry, channel)
  | none =>
    ({ registry with
        branches := registry.branches.insert branch registry.nextChannel
        nextChannel := registry.nextChannel + 1 }, registry.nextChannel)

/-- Source: `connection_registry.rs`. -/
def shutdownBranch (registry : ConnectionRegistry) (branch : Option Uuid) : ConnectionRegistry :=
  match registry.branches.lookup branch with
  | some channel =>
    { registry with
      branches := registry.branches.erase branch
      signalled := channel :: registry.signalled }
  | none => registry

end ConnectionRegistry

/-- A connection between its decision and its end. -/
inductive Phase
  | decided
  | forwarding (channel : Nat)
  deriving DecidableEq

/-- A connection that has its decision, with the calls that wrote the table since. -/
structure ConnectionState where
  connection : ProxiedConnection
  decision : RouteDecision
  key : Option Uuid
  phase : Phase
  outdatedBy : List Nat

/-- A call that has written the table: the keys it shuts down, and those still to be shut down. -/
structure CallState where
  keys : List (Option Uuid)
  remaining : List (Option Uuid)
  returned : Bool

/-- The sidecar, its connections and the calls into it, by numbers of their own. -/
structure Proxy where
  server : SidecarProxyRpcServer
  registry : ConnectionRegistry
  connections : Nat → Option ConnectionState
  calls : Nat → Option CallState

/-- One critical section. `write` has the order in which the call walks over its set of keys. -/
inductive ProxyAction
  | read (i : Nat) (c : ProxiedConnection)
  | subscribe (i : Nat)
  | close (i : Nat)
  | write (r : Nat) (call : RouteCall) (order : List (Option Uuid))
  | shutdown (r : Nat)
  | finish (r : Nat)

namespace Proxy

/-- The sidecar before its first connection and its first call. -/
def idle (server : SidecarProxyRpcServer) : Proxy :=
  ⟨server, .empty, fun _ => none, fun _ => none⟩

/-- A connection subscribes and starts to forward. -/
def subscribe (p : Proxy) (i : Nat) (conn : ConnectionState) : Proxy :=
  { p with
    registry := (p.registry.subscribe conn.key).1
    connections := Function.update p.connections i
      (some { conn with phase := .forwarding (p.registry.subscribe conn.key).2 }) }

/-- A call writes the table; every decision read so far is older than it. -/
def write (p : Proxy) (r : Nat) (call : RouteCall) (order : List (Option Uuid)) : Proxy :=
  { p with
    server := { p.server with routingTable := (p.server.handle call).routingTable }
    connections := fun i =>
      (p.connections i).map fun conn => { conn with outdatedBy := r :: conn.outdatedBy }
    calls := Function.update p.calls r (some ⟨order, order, false⟩) }

/-- A call shuts down one key. -/
def shutdown (p : Proxy) (r : Nat) (call : CallState) (key : Option Uuid)
    (rest : List (Option Uuid)) : Proxy :=
  { p with
    registry := p.registry.shutdownBranch key
    calls := Function.update p.calls r (some { call with remaining := rest }) }

/-- The steps of the connections and of the calls, in any order. -/
inductive Step : Proxy → ProxyAction → Proxy → Prop
  | read {p : Proxy} {i : Nat} {c : ProxiedConnection} {key : Option Uuid}
      (hfree : p.connections i = none) (hkey : c.subscribeKey p.server.routingTable = some key) :
      Step p (.read i c)
        { p with
          connections := Function.update p.connections i
            (some ⟨c, c.routeDecision p.server.routingTable, key, .decided, []⟩) }
  | subscribe {p : Proxy} {i : Nat} {conn : ConnectionState} (hconn : p.connections i = some conn)
      (hphase : conn.phase = .decided) : Step p (.subscribe i) (p.subscribe i conn)
  | close {p : Proxy} {i : Nat} :
      Step p (.close i) { p with connections := Function.update p.connections i none }
  | write {p : Proxy} {r : Nat} {call : RouteCall} {order : List (Option Uuid)}
      (hfree : p.calls r = none)
      (horder : order.Perm (p.server.handle call).shutdownBranches.dedup) :
      Step p (.write r call order) (p.write r call order)
  | shutdown {p : Proxy} {r : Nat} {call : CallState} {key : Option Uuid}
      {rest : List (Option Uuid)} (hcall : p.calls r = some call)
      (hremaining : call.remaining = key :: rest) :
      Step p (.shutdown r) (p.shutdown r call key rest)
  | finish {p : Proxy} {r : Nat} {call : CallState} (hcall : p.calls r = some call)
      (hremaining : call.remaining = []) :
      Step p (.finish r)
        { p with calls := Function.update p.calls r (some { call with returned := true }) }

/-- **No stale connection.** Where a call has returned, no connection whose decision is older than
the call's write and whose key the call shuts down still forwards. -/
def NoStale (p : Proxy) : Prop :=
  ∀ r call i conn, p.calls r = some call → call.returned = true → p.connections i = some conn →
    r ∈ conn.outdatedBy → conn.key ∈ call.keys →
      ∀ channel, conn.phase = .forwarding channel → channel ∈ p.registry.signalled

/-- A connection subscribes in time: every call that wrote the table after its decision and shuts
its key down is still to do so. -/
def SubscribesInTime (p : Proxy) : ProxyAction → Prop
  | .subscribe i => ∀ conn, p.connections i = some conn → ∀ r ∈ conn.outdatedBy, ∀ call,
      p.calls r = some call → conn.key ∈ call.keys → conn.key ∈ call.remaining
  | _ => True

/-! ## The invariant -/

/-- A forwarding connection listens to the channel of its key or to a signalled one; one that a call
has outdated and whose key the call has shut down listens to a signalled one. -/
structure Listening (p : Proxy) : Prop where
  current : ∀ i conn channel, p.connections i = some conn → conn.phase = .forwarding channel →
    channel ∈ p.registry.signalled ∨ p.registry.branches.lookup conn.key = some channel
  shut : ∀ r call i conn channel, p.calls r = some call → p.connections i = some conn →
    r ∈ conn.outdatedBy → conn.key ∈ call.keys → conn.key ∉ call.remaining →
      conn.phase = .forwarding channel → channel ∈ p.registry.signalled
  returned : ∀ r call, p.calls r = some call → call.returned = true → call.remaining = []

theorem Listening.noStale {p : Proxy} (h : p.Listening) : p.NoStale := by
  intro r call i conn hcall hreturned hconn houtdated hkey channel hphase
  refine h.shut r call i conn channel hcall hconn houtdated hkey ?_ hphase
  rw [h.returned r call hcall hreturned]
  exact List.not_mem_nil

theorem listening_idle (server : SidecarProxyRpcServer) : (idle server).Listening where
  current _ _ _ h := nomatch h
  shut _ _ _ _ _ h := nomatch h
  returned _ _ h := nomatch h

section
variable {p : Proxy}

/-- A subscription leaves the channels of the other keys, and a signalled channel stays one. -/
theorem subscribe_spec (registry : ConnectionRegistry) (key : Option Uuid) :
    (registry.subscribe key).1.signalled = registry.signalled ∧
      (registry.subscribe key).1.branches.lookup key = some (registry.subscribe key).2 ∧
      ∀ key' channel, registry.branches.lookup key' = some channel →
        (registry.subscribe key).1.branches.lookup key' = some channel := by
  unfold ConnectionRegistry.subscribe
  cases hl : registry.branches.lookup key with
  | some channel => exact ⟨rfl, hl, fun _ _ h => h⟩
  | none =>
    refine ⟨rfl, by rw [HashMap.lookup_insert, if_pos rfl], fun key' channel h => ?_⟩
    have hne : key' ≠ key := by
      rintro rfl
      rw [hl] at h
      cases h
    rw [HashMap.lookup_insert, if_neg hne, h]

/-- A shutdown signals the channel of its key and leaves those of the others. -/
theorem shutdownBranch_spec (registry : ConnectionRegistry) (key : Option Uuid) :
    (∀ channel ∈ registry.signalled, channel ∈ (registry.shutdownBranch key).signalled) ∧
      (∀ channel, registry.branches.lookup key = some channel →
        channel ∈ (registry.shutdownBranch key).signalled) ∧
      ∀ key', key' ≠ key → (registry.shutdownBranch key).branches.lookup key' =
        registry.branches.lookup key' := by
  unfold ConnectionRegistry.shutdownBranch
  cases hl : registry.branches.lookup key with
  | some channel =>
    refine ⟨fun _ h => List.mem_cons_of_mem _ h, ?_, fun key' hne => ?_⟩
    · intro channel' heq
      cases heq
      exact List.mem_cons_self
    · exact Finmap.lookup_erase_ne hne
  | none =>
    refine ⟨fun _ h => h, fun channel heq => ?_, fun _ _ => rfl⟩
    cases heq

theorem Listening.subscribe (h : p.Listening) {i : Nat} {conn : ConnectionState}
    (hconn : p.connections i = some conn) (hintime : p.SubscribesInTime (.subscribe i)) :
    (p.subscribe i conn).Listening := by
  obtain ⟨hsignalled, hown, hothers⟩ := subscribe_spec p.registry conn.key
  constructor
  · intro j conn' channel hconn' hphase
    rcases update_eq_some hconn' with ⟨rfl, heq⟩ | ⟨-, hold⟩
    · cases heq
      cases hphase
      exact .inr hown
    · rcases h.current j conn' channel hold hphase with hsig | hlookup
      · exact .inl (hsignalled ▸ hsig)
      · exact .inr (hothers _ _ hlookup)
  · intro r call j conn' channel hcall hconn' houtdated hkey hnot hphase
    rcases update_eq_some hconn' with ⟨rfl, heq⟩ | ⟨-, hold⟩
    · cases heq
      exact absurd (hintime conn hconn r houtdated call hcall hkey) hnot
    · have := h.shut r call j conn' channel hcall hold houtdated hkey hnot hphase
      exact hsignalled ▸ this
  · exact h.returned

theorem Listening.write (h : p.Listening) {r : Nat} (call : RouteCall)
    (order : List (Option Uuid)) (hfree : p.calls r = none) :
    (p.write r call order).Listening := by
  constructor
  · intro i conn channel hconn hphase
    obtain ⟨old, hold, rfl⟩ := Option.map_eq_some_iff.1 hconn
    exact h.current i old channel hold hphase
  · intro r' call' i conn channel hcall hconn houtdated hkey hnot hphase
    obtain ⟨old, hold, rfl⟩ := Option.map_eq_some_iff.1 hconn
    rcases update_eq_some hcall with ⟨rfl, heq⟩ | ⟨hne, hcall'⟩
    · -- the call that writes has all its keys still to shut down
      cases heq
      exact absurd hkey hnot
    · have houtdated' : r' ∈ old.outdatedBy := (List.mem_cons.1 houtdated).resolve_left hne
      exact h.shut r' call' i old channel hcall' hold houtdated' hkey hnot hphase
  · intro r' call' hcall hreturned
    rcases update_eq_some hcall with ⟨rfl, heq⟩ | ⟨-, hcall'⟩
    · cases heq
      cases hreturned
    · exact h.returned r' call' hcall' hreturned

theorem Listening.shutdown (h : p.Listening) {r : Nat} {call : CallState} {key : Option Uuid}
    {rest : List (Option Uuid)} (hcall : p.calls r = some call)
    (hremaining : call.remaining = key :: rest) : (p.shutdown r call key rest).Listening := by
  obtain ⟨hkept, hown, hothers⟩ := shutdownBranch_spec p.registry key
  -- a connection under the key listens to a signalled channel now
  have hkeyShut : ∀ i conn channel, p.connections i = some conn → conn.key = key →
      conn.phase = .forwarding channel → channel ∈ (p.registry.shutdownBranch key).signalled := by
    rintro i conn channel hconn rfl hphase
    exact (h.current i conn channel hconn hphase).elim (hkept channel) (hown channel)
  constructor
  · intro i conn channel hconn hphase
    by_cases hkey : conn.key = key
    · exact .inl (hkeyShut i conn channel hconn hkey hphase)
    · rcases h.current i conn channel hconn hphase with hsig | hlookup
      · exact .inl (hkept channel hsig)
      · exact .inr ((hothers _ hkey).trans hlookup)
  · intro r' call' i conn channel hcall' hconn houtdated hkeys hnot hphase
    by_cases hkey : conn.key = key
    · exact hkeyShut i conn channel hconn hkey hphase
    · refine hkept channel ?_
      rcases update_eq_some hcall' with ⟨rfl, heq⟩ | ⟨-, hold⟩
      · cases heq
        refine h.shut r' call i conn channel hcall hconn houtdated hkeys ?_ hphase
        rw [hremaining]
        exact fun hmem => (List.mem_cons.1 hmem).elim hkey hnot
      · exact h.shut r' call' i conn channel hold hconn houtdated hkeys hnot hphase
  · intro r' call' hcall' hreturned
    rcases update_eq_some hcall' with ⟨rfl, heq⟩ | ⟨-, hold⟩
    · cases heq
      have := h.returned r' call hcall hreturned
      rw [hremaining] at this
      cases this
    · exact h.returned r' call' hold hreturned

/-- Every step keeps the invariant, where connections subscribe in time. -/
theorem Listening.step {p p' : Proxy} {action : ProxyAction} (hstep : Step p action p')
    (hintime : p.SubscribesInTime action) (h : p.Listening) : p'.Listening := by
  cases hstep with
  | read hfree hkey =>
    constructor
    · intro j conn channel hconn hphase
      rcases update_eq_some hconn with ⟨rfl, heq⟩ | ⟨-, hold⟩
      · cases heq
        cases hphase
      · exact h.current j conn channel hold hphase
    · intro r call j conn channel hcall hconn houtdated hkeys hnot hphase
      rcases update_eq_some hconn with ⟨rfl, heq⟩ | ⟨-, hold⟩
      · cases heq
        cases hphase
      · exact h.shut r call j conn channel hcall hold houtdated hkeys hnot hphase
    · exact h.returned
  | subscribe hconn hphase => exact h.subscribe hconn hintime
  | close =>
    constructor
    · intro j conn channel hconn hphase
      rcases update_eq_some hconn with ⟨-, heq⟩ | ⟨-, hold⟩
      · cases heq
      · exact h.current j conn channel hold hphase
    · intro r call j conn channel hcall hconn houtdated hkeys hnot hphase
      rcases update_eq_some hconn with ⟨-, heq⟩ | ⟨-, hold⟩
      · cases heq
      · exact h.shut r call j conn channel hcall hold houtdated hkeys hnot hphase
    · exact h.returned
  | write hfree horder => exact h.write _ _ hfree
  | shutdown hcall hremaining => exact h.shutdown hcall hremaining
  | @finish r call hcall hremaining =>
    constructor
    · exact h.current
    · intro r' call' i conn channel hcall' hconn houtdated hkeys hnot hphase
      rcases update_eq_some hcall' with ⟨rfl, heq⟩ | ⟨-, hold⟩
      · cases heq
        exact h.shut r' call i conn channel hcall hconn houtdated hkeys hnot hphase
      · exact h.shut r' call' i conn channel hold hconn houtdated hkeys hnot hphase
    · intro r' call' hcall' hreturned
      rcases update_eq_some hcall' with ⟨rfl, heq⟩ | ⟨-, hold⟩
      · cases heq
        exact hremaining
      · exact h.returned r' call' hold hreturned

end

/-- **No connection is stale** in any state of a run in which connections subscribe in time. -/
theorem noStale_of_run {server : SidecarProxyRpcServer} {actions : List ProxyAction} {p : Proxy}
    (hrun : Run (Guarded Step SubscribesInTime) (idle server) actions p) : p.NoStale :=
  (Run.invariant_of_guard Listening (fun _ _ _ => Listening.step) hrun
    (listening_idle server)).noStale

/-- A devbox for the branch `10`. -/
def branchDevbox : RouteCall := .setDevboxRoute ⟨5, 2, "token", "ws", "/*", some 10, none, none, ∅⟩

/-- A connection of the branch `10`. -/
def branchConnection : ProxiedConnection := ⟨.http1, 80, some 10⟩

/-- A connection that subscribed before the devbox is set is shut down. -/
theorem noStale_of_run_subscribed :
    ∃ p : Proxy, (∃ actions, Run (Guarded Step SubscribesInTime)
      (idle SidecarProxyRpcServer.branchServer) (.read 0 branchConnection :: actions) p) ∧
        (p.calls 0).map CallState.returned = some true ∧ p.NoStale := by
  have hrun : ∃ p, Run (Guarded Step SubscribesInTime) (idle SidecarProxyRpcServer.branchServer)
      [.read 0 branchConnection, .subscribe 0, .write 0 branchDevbox [some 10], .shutdown 0,
        .finish 0] p ∧ (p.calls 0).map CallState.returned = some true := by
    refine ⟨_, .cons ⟨.read rfl (show _ = some (some 10) by decide), trivial⟩
      (.cons ⟨.subscribe rfl rfl, ?_⟩ (.cons ⟨.write rfl (by decide), trivial⟩
        (.cons ⟨.shutdown rfl rfl, trivial⟩ (.cons ⟨.finish rfl rfl, trivial⟩ .nil)))), rfl⟩
    intro conn hconn r hr
    cases hconn
    cases hr
  obtain ⟨p, hrun, hreturned⟩ := hrun
  exact ⟨p, ⟨_, hrun⟩, hreturned, noStale_of_run hrun⟩

/-- A connection that read its decision before the devbox was set, and subscribes after the call has
returned, forwards under the old decision. -/
theorem late_subscription_stale :
    ∃ p, Run Step (idle SidecarProxyRpcServer.branchServer)
      [.read 0 branchConnection, .write 0 branchDevbox [some 10], .shutdown 0, .finish 0,
        .subscribe 0] p ∧ ¬p.NoStale := by
  refine ⟨_, .cons (.read rfl (show _ = some (some 10) by decide)) (.cons (.write rfl (by decide))
    (.cons (.shutdown rfl rfl) (.cons (.finish rfl rfl) (.cons (.subscribe rfl rfl) .nil)))), ?_⟩
  intro h
  exact absurd (h 0 _ 0 _ rfl rfl rfl (by decide) (by decide) 0 rfl) (by decide)

end Proxy

end Lapdev
