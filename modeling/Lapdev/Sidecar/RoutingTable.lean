import Lapdev.RustStd.HashMap
import Lapdev.RustStd.Uuid
import Mathlib.Data.UInt

/-!
# The sidecar's routing table

The data model and the routing decisions of `kube-sidecar-proxy/src/config.rs`: the table a
sidecar keeps for its workload, the two decision functions `resolveHttp` and `resolveTcp`, and the
functions that change the table. `devboxFor` reads the table by *key*: `none` is the default
route, `some b` the route of the branch environment `b`; every function below comes with one
equation saying what it does to `devboxFor`.
-/

namespace Lapdev

open RustStd

/-- Source: `kube-sidecar-proxy/src/config.rs`, `AccessLevel`. -/
inductive AccessLevel
  | personal
  | shared
  | «public»
  deriving DecidableEq

/-- Source: `config.rs`, `BranchServiceRoute`. -/
structure BranchServiceRoute where
  serviceNames : HashMap UInt16 String
  headers : HashMap String String
  requiresAuth : Bool
  accessLevel : AccessLevel
  timeoutMs : Option UInt64
  deriving DecidableEq

/-- Source: `config.rs`, `DevboxRouteMetadata`. -/
structure DevboxRouteMetadata where
  interceptId : Uuid
  workloadId : Uuid
  authToken : String
  websocketUrl : String
  pathPattern : String
  portMappings : HashMap UInt16 UInt16
  createdAtEpochSeconds : Option Int64
  expiresAtEpochSeconds : Option Int64
  deriving DecidableEq

/-- Source: `config.rs`, `DevboxRouteMetadata::resolve_target_port`. -/
def DevboxRouteMetadata.resolveTargetPort (m : DevboxRouteMetadata) (originalPort : UInt16) :
    UInt16 :=
  (m.portMappings.lookup originalPort).getD originalPort

/-- Source: `config.rs`, `DevboxConnection`, by the two fields that say where it leads. The
endpoint, the RPC client and the cached tunnel of a connection carry no routing data. -/
structure DevboxConnection where
  metadata : DevboxRouteMetadata
  targetEnvironmentId : Uuid
  deriving DecidableEq

/-- Source: `config.rs`, `DevboxConnection::resolve_target_port`. -/
def DevboxConnection.resolveTargetPort (c : DevboxConnection) (originalPort : UInt16) : UInt16 :=
  c.metadata.resolveTargetPort originalPort

/-- Source: `config.rs`, `BranchMode`. -/
inductive BranchMode
  | service
  | devbox (connection : DevboxConnection)
  deriving DecidableEq

/-- Source: `config.rs`, `BranchRoute`. -/
structure BranchRoute where
  service : BranchServiceRoute
  mode : BranchMode
  deriving DecidableEq

/-- Source: `config.rs`, `DefaultRoute`. -/
inductive DefaultRoute
  | «local»
  | devbox (connection : DevboxConnection)
  deriving DecidableEq

instance instLawfulBEqPortPair : LawfulBEq (UInt16 × UInt16) := inferInstance

/-- Source: `common/src/kube.rs`, `ProxyPortRoute`. -/
structure ProxyPortRoute where
  proxyPort : UInt16
  servicePort : UInt16
  targetPort : UInt16
  deriving DecidableEq

/-- Source: `config.rs`, `RoutingTable`. Both maps are walked over, so both have an order. -/
structure RoutingTable where
  branchRoutes : HashTable Uuid BranchRoute
  defaultRoute : DefaultRoute
  portRoutes : HashTable UInt16 ProxyPortRoute

/-- Source: `config.rs`, `RoutingTable::default`. -/
def RoutingTable.empty : RoutingTable := ⟨∅, .«local», ∅⟩

/-- Source: `config.rs`, `RouteDecision`. -/
inductive RouteDecision
  | branchService (service : BranchServiceRoute)
  | branchDevbox (branchId : Uuid) (connection : DevboxConnection) (targetPort : UInt16)
  | defaultDevbox (connection : DevboxConnection) (targetPort : UInt16)
  | defaultLocal (targetPort : UInt16)
  deriving DecidableEq

namespace RoutingTable

/-! ## Port routes -/

/-- Source: `config.rs`, `set_port_routes`. The seed is the one of the process that loads them. -/
def setPortRoutes (rs : RandomState (Sigma fun _ : UInt16 => ProxyPortRoute)) (t : RoutingTable)
    (routes : List ProxyPortRoute) : RoutingTable :=
  { t with portRoutes :=
      (HashTable.collect (routes.map fun route => (route.proxyPort, route))).reseed rs }

/-- Source: `config.rs`, `service_port_for_proxy`. -/
def servicePortForProxy (t : RoutingTable) (proxyPort : UInt16) : UInt16 :=
  ((t.portRoutes.lookup proxyPort).map ProxyPortRoute.servicePort).getD proxyPort

/-- Source: `config.rs`, `target_port_for_service`: the first route of the walk that carries the
service port. -/
def targetPortForService (t : RoutingTable) (servicePort : UInt16) : UInt16 :=
  (((t.portRoutes.entries.map Sigma.snd).find? fun route => route.servicePort = servicePort).map
    ProxyPortRoute.targetPort).getD servicePort

/-! ## Decisions -/

/-- Source: `config.rs`, `resolve_tcp`, which is also the part of `resolve_http` after the
branch lookup. -/
def resolveTcp (t : RoutingTable) (port : UInt16) : RouteDecision :=
  match t.defaultRoute with
  | .devbox connection => .defaultDevbox connection (connection.resolveTargetPort port)
  | .«local» => .defaultLocal (t.targetPortForService port)

/-- Source: `config.rs`, `resolve_http`. -/
def resolveHttp (t : RoutingTable) (port : UInt16) (branchId : Option Uuid) : RouteDecision :=
  match branchId.bind fun b => (t.branchRoutes.lookup b).map (Prod.mk b) with
  | some (b, route) =>
    match route.mode with
    | .devbox connection => .branchDevbox b connection (connection.resolveTargetPort port)
    | .service => .branchService route.service
  | none => t.resolveTcp port

/-! ## Changing the table -/

/-- The loop of `replace_branch_routes`: a branch is handed its old mode once, then the old entry
is gone. -/
def replaceBranchRoutesLoop : List (Uuid × BranchServiceRoute) → HashTable Uuid BranchRoute →
    HashTable Uuid BranchRoute → HashTable Uuid BranchRoute
  | [], _, newRoutes => newRoutes
  | (envId, serviceRoute) :: rest, oldRoutes, newRoutes =>
    match oldRoutes.lookup envId with
    | some existing =>
      replaceBranchRoutesLoop rest (oldRoutes.erase envId)
        (newRoutes.insert envId ⟨serviceRoute, existing.mode⟩)
    | none =>
      replaceBranchRoutesLoop rest oldRoutes (newRoutes.insert envId ⟨serviceRoute, .service⟩)

/-- Source: `config.rs`, `replace_branch_routes`. -/
def replaceBranchRoutes (t : RoutingTable) (routes : List (Uuid × BranchServiceRoute)) :
    RoutingTable :=
  { t with branchRoutes := replaceBranchRoutesLoop routes t.branchRoutes ∅ }

/-- Source: `config.rs`, `set_branch_devbox`; the source's result, whether the branch is in the
table, is `b ∈ t.branchRoutes`. -/
def setBranchDevbox (t : RoutingTable) (branchId : Uuid) (connection : DevboxConnection) :
    RoutingTable :=
  { t with branchRoutes :=
      t.branchRoutes.modify branchId fun entry => { entry with mode := .devbox connection } }

/-- Source: `config.rs`, `remove_branch_devbox`: a branch in `Service` mode stays as it is. -/
def removeBranchDevbox (t : RoutingTable) (branchId : Uuid) : RoutingTable :=
  { t with branchRoutes :=
      t.branchRoutes.modify branchId fun route => { route with mode := .service } }

/-- Source: `config.rs`, `upsert_branch_service_route`. -/
def upsertBranchServiceRoute (t : RoutingTable) (branchId : Uuid)
    (serviceRoute : BranchServiceRoute) : RoutingTable :=
  match t.branchRoutes.lookup branchId with
  | some existing =>
    { t with branchRoutes :=
        (t.branchRoutes.erase branchId).insert branchId ⟨serviceRoute, existing.mode⟩ }
  | none =>
    { t with branchRoutes := t.branchRoutes.insert branchId ⟨serviceRoute, .service⟩ }

/-- Source: `config.rs`, `remove_branch_service_route`. -/
def removeBranchServiceRoute (t : RoutingTable) (branchId : Uuid) : RoutingTable :=
  { t with branchRoutes := t.branchRoutes.erase branchId }

/-- Source: `config.rs`, `set_default_devbox`. -/
def setDefaultDevbox (t : RoutingTable) (connection : DevboxConnection) : RoutingTable :=
  { t with defaultRoute := .devbox connection }

/-- Source: `config.rs`, `clear_default_devbox`. -/
def clearDefaultDevbox (t : RoutingTable) : RoutingTable :=
  { t with defaultRoute := .«local» }

end RoutingTable

/-! ## The devbox of a key

What the table holds for a key: the default route's devbox for `none`, the devbox of the branch
`b` for `some b`.
-/

/-- The connection of a branch in devbox mode. -/
def BranchMode.connection : BranchMode → Option DevboxConnection
  | .service => none
  | .devbox connection => some connection

/-- The connection of a default route in devbox mode. -/
def DefaultRoute.connection : DefaultRoute → Option DevboxConnection
  | .«local» => none
  | .devbox connection => some connection

namespace RoutingTable

/-- The devbox the table holds for a key. -/
def devboxFor (t : RoutingTable) : Option Uuid → Option DevboxConnection
  | none => t.defaultRoute.connection
  | some b => (t.branchRoutes.lookup b).bind fun route => route.mode.connection

/-- The service half of a branch's route. -/
def serviceFor (t : RoutingTable) (b : Uuid) : Option BranchServiceRoute :=
  (t.branchRoutes.lookup b).map BranchRoute.service

/-- No devbox under a key, in the fields of the table: the default route is `Local`, the branch
is in `Service` mode. -/
def HoldsNoDevbox (t : RoutingTable) : Option Uuid → Prop
  | none => t.defaultRoute = .«local»
  | some b => ∀ route ∈ t.branchRoutes.lookup b, route.mode = .service

instance (t : RoutingTable) : (key : Option Uuid) → Decidable (t.HoldsNoDevbox key)
  | none => inferInstanceAs (Decidable (_ = _))
  | some b => inferInstanceAs (Decidable (∀ route ∈ t.branchRoutes.lookup b, _))

section DevboxFor
variable (t : RoutingTable)

/-- There is no devbox under a key exactly if none is found. -/
theorem holdsNoDevbox_iff (key : Option Uuid) : t.HoldsNoDevbox key ↔ t.devboxFor key = none := by
  cases key with
  | none => cases h : t.defaultRoute <;> simp [HoldsNoDevbox, devboxFor, h, DefaultRoute.connection]
  | some b =>
    simp only [HoldsNoDevbox, devboxFor, Option.bind_eq_none_iff, Option.mem_def]
    refine forall₂_congr fun route _ => ?_
    cases route.mode <;> simp [BranchMode.connection]

/-- A branch outside the table has no devbox. -/
theorem devboxFor_of_notMem {b : Uuid} (h : b ∉ t.branchRoutes) : t.devboxFor (some b) = none := by
  simp [devboxFor, AList.lookup_eq_none.2 h]

/-- `set_branch_devbox` gives the branch the devbox if it is in the table, and touches no other
key. -/
theorem devboxFor_setBranchDevbox (b : Uuid) (c : DevboxConnection) (key : Option Uuid) :
    (t.setBranchDevbox b c).devboxFor key =
      if key = some b ∧ b ∈ t.branchRoutes then some c else t.devboxFor key := by
  cases key with
  | none => simp [devboxFor, setBranchDevbox]
  | some b' =>
    simp only [devboxFor, setBranchDevbox, HashTable.lookup_modify, Option.some.injEq]
    by_cases hb : b' = b
    · subst hb
      cases hl : t.branchRoutes.lookup b' with
      | none => simp [AList.lookup_eq_none.1 hl]
      | some r =>
        have hmem : b' ∈ t.branchRoutes := AList.lookup_isSome.1 (by simp [hl])
        simp [hmem, BranchMode.connection]
    · simp [hb]

/-- `remove_branch_devbox` leaves the branch without a devbox, and touches no other key. -/
theorem devboxFor_removeBranchDevbox (b : Uuid) (key : Option Uuid) :
    (t.removeBranchDevbox b).devboxFor key = if key = some b then none else t.devboxFor key := by
  cases key with
  | none => simp [devboxFor, removeBranchDevbox]
  | some b' =>
    simp only [devboxFor, removeBranchDevbox, HashTable.lookup_modify, Option.some.injEq]
    by_cases hb : b' = b
    · cases hl : t.branchRoutes.lookup b' <;> simp [hb, BranchMode.connection]
    · simp [hb]

@[simp] theorem devboxFor_setDefaultDevbox (c : DevboxConnection) (key : Option Uuid) :
    (t.setDefaultDevbox c).devboxFor key = if key = none then some c else t.devboxFor key := by
  cases key <;> simp [devboxFor, setDefaultDevbox, DefaultRoute.connection]

@[simp] theorem devboxFor_clearDefaultDevbox (key : Option Uuid) :
    t.clearDefaultDevbox.devboxFor key = if key = none then none else t.devboxFor key := by
  cases key <;> simp [devboxFor, clearDefaultDevbox, DefaultRoute.connection]

/-- `upsert_branch_service_route` hands a branch its old mode, so no devbox changes. -/
@[simp] theorem devboxFor_upsertBranchServiceRoute (b : Uuid) (service : BranchServiceRoute)
    (key : Option Uuid) :
    (t.upsertBranchServiceRoute b service).devboxFor key = t.devboxFor key := by
  unfold upsertBranchServiceRoute
  cases key with
  | none => split <;> rfl
  | some b' =>
    by_cases hb : b' = b
    · subst hb
      split
      · next r hr => simp [devboxFor, hr]
      · next hr => simp [devboxFor, hr, BranchMode.connection]
    · split <;> simp [devboxFor, hb]

/-- `remove_branch_service_route` takes the branch's devbox away with its route. -/
@[simp] theorem devboxFor_removeBranchServiceRoute (b : Uuid) (key : Option Uuid) :
    (t.removeBranchServiceRoute b).devboxFor key =
      if key = some b then none else t.devboxFor key := by
  cases key with
  | none => simp [devboxFor, removeBranchServiceRoute]
  | some b' =>
    by_cases hb : b' = b <;> simp [devboxFor, removeBranchServiceRoute, HashTable.lookup_erase, hb]

/-! ## Which branches the table knows -/

@[simp] theorem mem_setBranchDevbox (b b' : Uuid) (c : DevboxConnection) :
    b' ∈ (t.setBranchDevbox b c).branchRoutes ↔ b' ∈ t.branchRoutes := by
  simp only [← AList.lookup_isSome, setBranchDevbox, HashTable.lookup_modify]
  split <;> simp

@[simp] theorem mem_removeBranchDevbox (b b' : Uuid) :
    b' ∈ (t.removeBranchDevbox b).branchRoutes ↔ b' ∈ t.branchRoutes := by
  simp only [← AList.lookup_isSome, removeBranchDevbox, HashTable.lookup_modify]
  split <;> simp

@[simp] theorem mem_upsertBranchServiceRoute (b b' : Uuid) (service : BranchServiceRoute) :
    b' ∈ (t.upsertBranchServiceRoute b service).branchRoutes ↔ b' = b ∨ b' ∈ t.branchRoutes := by
  unfold upsertBranchServiceRoute
  split <;> by_cases hb : b' = b <;> simp [hb]

@[simp] theorem mem_removeBranchServiceRoute (b b' : Uuid) :
    b' ∈ (t.removeBranchServiceRoute b).branchRoutes ↔ b' ≠ b ∧ b' ∈ t.branchRoutes := by
  simp [removeBranchServiceRoute]

/-! ## Replacing the branch routes -/

/-- The service of a branch after the loop is the last one listed for it. -/
theorem service_replaceBranchRoutesLoop (routes : List (Uuid × BranchServiceRoute))
    (old new : HashTable Uuid BranchRoute) (b : Uuid) :
    ((replaceBranchRoutesLoop routes old new).lookup b).map BranchRoute.service =
      ((routes.reverse.find? fun e => e.1 = b).map Prod.snd).or
        ((new.lookup b).map BranchRoute.service) := by
  induction routes generalizing old new with
  | nil => simp [replaceBranchRoutesLoop]
  | cons e rest ih =>
    obtain ⟨envId, serviceRoute⟩ := e
    -- both branches of the loop insert the listed service under the branch
    have hins : ∀ mode, ((new.insert envId (BranchRoute.mk serviceRoute mode)).lookup b).map
        BranchRoute.service = if envId = b then some serviceRoute
          else (new.lookup b).map BranchRoute.service := by
      intro mode
      rw [HashTable.lookup_insert]
      by_cases hb : envId = b
      · simp [hb]
      · simp [hb, Ne.symm hb]
    simp only [replaceBranchRoutesLoop, List.reverse_cons, List.find?_append, List.find?_singleton]
    split <;> rw [ih, hins] <;> by_cases hb : envId = b <;>
      cases rest.reverse.find? fun e => e.1 = b <;> simp [hb]

/-- Of several routes for a branch the last one is installed. -/
theorem serviceFor_replaceBranchRoutes (routes : List (Uuid × BranchServiceRoute)) (b : Uuid) :
    (t.replaceBranchRoutes routes).serviceFor b =
      (routes.reverse.find? fun e => e.1 = b).map Prod.snd := by
  rw [serviceFor, replaceBranchRoutes, service_replaceBranchRoutesLoop]
  simp

/-- A branch is in the table exactly when the table has a service for it. -/
theorem mem_branchRoutes_iff (b : Uuid) : b ∈ t.branchRoutes ↔ (t.serviceFor b).isSome := by
  simp [serviceFor, AList.lookup_isSome]

/-- Into a table without branch devboxes the loop brings none, duplicates or not. -/
theorem devboxFor_replaceBranchRoutes_of_none (routes : List (Uuid × BranchServiceRoute))
    (h : ∀ b, t.devboxFor (some b) = none) (b : Uuid) :
    (t.replaceBranchRoutes routes).devboxFor (some b) = none := by
  have key : ∀ (routes : List (Uuid × BranchServiceRoute)) (old new : HashTable Uuid BranchRoute),
      (∀ b, (old.lookup b).bind (fun r => r.mode.connection) = none) →
      (∀ b, (new.lookup b).bind (fun r => r.mode.connection) = none) →
      ((replaceBranchRoutesLoop routes old new).lookup b).bind
        (fun r => r.mode.connection) = none := by
    intro routes
    induction routes with
    | nil => exact fun _ _ _ hnew => hnew b
    | cons e rest ih =>
      intro old new hold hnew
      obtain ⟨envId, serviceRoute⟩ := e
      simp only [replaceBranchRoutesLoop]
      split
      · next r hr =>
        refine ih _ _ (fun b' => ?_) (fun b' => ?_)
        · rw [HashTable.lookup_erase]
          split
          · rfl
          · exact hold b'
        · rw [HashTable.lookup_insert]
          split
          · simpa [hr] using hold envId
          · exact hnew b'
      · refine ih _ _ hold (fun b' => ?_)
        rw [HashTable.lookup_insert]
        split
        · rfl
        · exact hnew b'
  exact key routes t.branchRoutes ∅ h (by simp)

/-- A service is no devbox: attaching one leaves every branch's service. -/
@[simp] theorem serviceFor_setBranchDevbox (b b' : Uuid) (c : DevboxConnection) :
    (t.setBranchDevbox b c).serviceFor b' = t.serviceFor b' := by
  simp only [serviceFor, setBranchDevbox, HashTable.lookup_modify]
  split
  · rw [Option.map_map]
    rfl
  · rfl

end DevboxFor

end RoutingTable
end Lapdev
