import Lapdev.Sidecar.RoutingTable

/-!
# Service ports and their rewrite to the sidecar

The ports of a cached cluster service, as `kube-controller/app_catalog.rs` reads them, and the
per-port rewrite of `rewrite_service_for_sidecar`: a port is sent to the proxy port of the first
route with its number.
-/

namespace Lapdev

open RustStd

/-- Source: `common/src/kube.rs`, `KubeServicePort`; an `i32` is an `Int`. -/
structure KubeServicePort where
  name : Option String
  port : Int
  targetPort : Option Int
  protocol : Option String
  nodePort : Option Int
  originalTargetPort : Option Int
  deriving DecidableEq

/-- Source: `db/src/api.rs`, `CachedClusterService`. The type of YAML texts is left open. -/
structure CachedClusterService (Text : Type) where
  name : String
  selector : HashMap String String
  ports : List KubeServicePort
  serviceYaml : Text

/-- `u16::try_from` of an `i32`. -/
def u16TryFrom (v : Int) : Option UInt16 :=
  if 0 ≤ v ∧ v < 65536 then some (UInt16.ofNat v.toNat) else none

/-- A `u16` read as an `i32`. -/
def u16AsInt (p : UInt16) : Int := p.toNat

theorem u16AsInt_injective : Function.Injective u16AsInt := by
  intro p q h
  exact UInt16.toNat_inj.1 (Int.ofNat_inj.1 h)

/-- A number a `u16` is read from is that `u16` read back. -/
theorem u16TryFrom_eq_some {v : Int} {p : UInt16} (h : u16TryFrom v = some p) :
    u16AsInt p = v := by
  unfold u16TryFrom at h
  split at h
  · next hv =>
    cases h
    have hlt : v.toNat < 65536 := by omega
    have hmod : (UInt16.ofNat v.toNat).toNat = v.toNat := by
      rw [UInt16.toNat_ofNat']
      omega
    rw [u16AsInt, hmod]
    omega
  · cases h

/-- A `u16` is read from its number. -/
theorem u16TryFrom_u16AsInt (p : UInt16) : u16TryFrom (u16AsInt p) = some p := by
  have hlt := p.toNat_lt
  rw [u16TryFrom, u16AsInt, if_pos ⟨Int.natCast_nonneg _, by omega⟩, Int.toNat_natCast,
    UInt16.ofNat_toNat]

namespace KubeServicePort

/-- The two ports `build_proxy_routes` reads off a service port: its number and its numeric target,
the original one where it is recorded. Ports without both are skipped. -/
def serviceAndTarget (port : KubeServicePort) : Option (UInt16 × UInt16) :=
  match u16TryFrom port.port with
  | none => none
  | some servicePort =>
    if 0 < servicePort then
      match port.originalTargetPort.or port.targetPort with
      | none => none
      | some value =>
        match u16TryFrom value with
        | none => none
        | some targetPort => if 0 < targetPort then some (servicePort, targetPort) else none
    else none

/-- The number of a port with a service port is that service port. -/
theorem port_of_serviceAndTarget {port : KubeServicePort} {sp tp : UInt16}
    (h : port.serviceAndTarget = some (sp, tp)) : u16AsInt sp = port.port := by
  unfold serviceAndTarget at h
  split at h
  · cases h
  · next servicePort hsp =>
    split at h
    · split at h
      · cases h
      · split at h
        · cases h
        · split at h
          · cases h
            exact u16TryFrom_eq_some hsp
          · cases h
    · cases h

/-- The target of a port is its recorded original target, else its target. -/
theorem target_of_serviceAndTarget {port : KubeServicePort} {sp tp : UInt16}
    (h : port.serviceAndTarget = some (sp, tp)) :
    port.originalTargetPort.or port.targetPort = some (u16AsInt tp) := by
  unfold serviceAndTarget at h
  split at h
  · cases h
  · split at h
    · split at h
      · cases h
      · next value hvalue =>
        split at h
        · cases h
        · next target htarget =>
          split at h
          · cases h
            rw [hvalue, u16TryFrom_eq_some htarget]
          · cases h
    · cases h

end KubeServicePort

/-- The proxy port of the first route with a port number. -/
def proxyPortFor (routes : List ProxyPortRoute) (port : Int) : Option ProxyPortRoute :=
  routes.find? fun route => u16AsInt route.servicePort = port

/-- The loop body of `rewrite_service_for_sidecar` on a recorded port. -/
def rewritePort (routes : List ProxyPortRoute) (port : KubeServicePort) : KubeServicePort :=
  match proxyPortFor routes port.port with
  | some route =>
    { port with
      originalTargetPort := port.originalTargetPort.or (some (u16AsInt route.targetPort))
      targetPort := some (u16AsInt route.proxyPort) }
  | none => port

end Lapdev
