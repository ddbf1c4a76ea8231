import Lapdev.Sidecar.RoutingTable

/-!
# What the sidecar's decisions depend on

`resolveHttp` and `resolveTcp` read a table through its branches' services, its devboxes and its
port routes. Port routes are looked up by service port in a walk over the table, so a service port
with two target ports is decided by the hasher's seed: `UnambiguousPorts` is the exact condition
under which it is not. `sameDecisions_iff` says when two tables decide alike.
-/

namespace Lapdev

open RustStd

namespace RoutingTable

/-! ## The decision functions read a table through four observations -/

/-- `resolve_http` as a function of the branch's service, the devboxes and the port routes. -/
theorem resolveHttp_eq (t : RoutingTable) (port : UInt16) (branchId : Option Uuid) :
    t.resolveHttp port branchId =
      match branchId with
      | none => t.resolveTcp port
      | some b =>
        match t.serviceFor b, t.devboxFor (some b) with
        | some _, some c => .branchDevbox b c (c.resolveTargetPort port)
        | some service, none => .branchService service
        | none, _ => t.resolveTcp port := by
  cases branchId with
  | none => rfl
  | some b =>
    simp only [resolveHttp, Option.bind_some, serviceFor, devboxFor]
    cases t.branchRoutes.lookup b with
    | none => rfl
    | some route => cases hm : route.mode <;> simp [hm, BranchMode.connection]

/-- `resolve_tcp` as a function of the default devbox and the port routes. -/
theorem resolveTcp_eq (t : RoutingTable) (port : UInt16) :
    t.resolveTcp port =
      match t.devboxFor none with
      | some c => .defaultDevbox c (c.resolveTargetPort port)
      | none => .defaultLocal (t.targetPortForService port) := by
  unfold resolveTcp devboxFor
  cases t.defaultRoute <;> rfl

/-! ## Port routes that share a service port -/

/-- Port routes of one service port have one target port. -/
def UnambiguousPorts (t : RoutingTable) : Prop :=
  ∀ p p' r r', t.portRoutes.lookup p = some r → t.portRoutes.lookup p' = some r' →
    r.servicePort = r'.servicePort → r.targetPort = r'.targetPort

section Ports
variable {t t' : RoutingTable}

/-- A route the walk can find is an entry of the table. -/
theorem exists_lookup_of_find? {port : UInt16} {r : ProxyPortRoute}
    (h : (t.portRoutes.entries.map Sigma.snd).find? (fun r => r.servicePort = port) = some r) :
    (∃ p, t.portRoutes.lookup p = some r) ∧ r.servicePort = port := by
  obtain ⟨e, he, rfl⟩ := List.mem_map.1 (List.mem_of_find?_eq_some h)
  exact ⟨⟨e.1, AList.mem_lookup_iff.2 he⟩, by simpa using List.find?_some h⟩

/-- The target port is that of some route of the service port, or the service port itself where
there is none. -/
theorem targetPortForService_cases (t : RoutingTable) (port : UInt16) :
    (∃ p r, t.portRoutes.lookup p = some r ∧ r.servicePort = port ∧
        t.targetPortForService port = r.targetPort) ∨
      (∀ p r, t.portRoutes.lookup p = some r → r.servicePort ≠ port) ∧
        t.targetPortForService port = port := by
  unfold targetPortForService
  cases hf : (t.portRoutes.entries.map Sigma.snd).find? fun r => r.servicePort = port with
  | some r =>
    obtain ⟨⟨p, hp⟩, hport⟩ := exists_lookup_of_find? hf
    exact .inl ⟨p, r, hp, hport, rfl⟩
  | none =>
    refine .inr ⟨fun p r hr hport => ?_, rfl⟩
    have := List.find?_eq_none.1 hf r
      (List.mem_map.2 ⟨⟨p, r⟩, AList.mem_lookup_iff.1 hr, rfl⟩)
    simp [hport] at this

/-- With unambiguous ports every route of the service port gives the target port. -/
theorem UnambiguousPorts.targetPortForService (h : t.UnambiguousPorts) {p : UInt16}
    {r : ProxyPortRoute} (hr : t.portRoutes.lookup p = some r) :
    t.targetPortForService r.servicePort = r.targetPort := by
  obtain ⟨p', r', hr', hport, heq⟩ | ⟨hnone, -⟩ := t.targetPortForService_cases r.servicePort
  · rw [heq]
    exact h _ _ _ _ hr' hr hport
  · exact absurd rfl (hnone p r hr)

/-- With unambiguous ports the target ports depend on the content of the table only, not on the
order of the walk. -/
theorem UnambiguousPorts.targetPort_congr (h : t.UnambiguousPorts)
    (hlookup : ∀ p, t'.portRoutes.lookup p = t.portRoutes.lookup p) (port : UInt16) :
    t'.targetPortForService port = t.targetPortForService port := by
  obtain ⟨p, r, hr, rfl, heq⟩ | ⟨hnone, heq⟩ := t'.targetPortForService_cases port
  · rw [heq, h.targetPortForService (hlookup p ▸ hr)]
  · obtain ⟨p, r, hr, hport, -⟩ | ⟨-, heq'⟩ := t.targetPortForService_cases port
    · exact absurd hport (hnone p r (hlookup p ▸ hr))
    · rw [heq, heq']

/-- Some seed puts a given entry first, and the walk then stops there. -/
theorem exists_seed_targetPort {m : HashTable UInt16 ProxyPortRoute} {p : UInt16}
    {r : ProxyPortRoute} (hr : m.lookup p = some r) :
    ∃ rs, ∀ t : RoutingTable, t.portRoutes = m.reseed rs →
      t.targetPortForService r.servicePort = r.targetPort := by
  obtain ⟨rs, hrs⟩ := RandomState.exists_arrange
    (List.perm_cons_erase (AList.mem_lookup_iff.1 hr)).symm
  refine ⟨rs, fun t ht => ?_⟩
  simp [targetPortForService, ht, HashTable.reseed, hrs]

/-- Where every seed gives the same target ports, the ports are unambiguous. -/
theorem unambiguousPorts_of_forall_seed {m : HashTable UInt16 ProxyPortRoute}
    (hm : ∀ p, t.portRoutes.lookup p = m.lookup p)
    (h : ∀ rs (t' : RoutingTable), t'.portRoutes = m.reseed rs → ∀ port,
      t'.targetPortForService port = t.targetPortForService port) : t.UnambiguousPorts := by
  intro p p' r r' hr hr' hport
  obtain ⟨rs, hrs⟩ := exists_seed_targetPort (hm p ▸ hr)
  obtain ⟨rs', hrs'⟩ := exists_seed_targetPort (hm p' ▸ hr')
  have hseed : ∀ rs port, ({ t with portRoutes := m.reseed rs }).targetPortForService port =
      t.targetPortForService port := fun rs => h rs _ rfl
  calc r.targetPort = t.targetPortForService r.servicePort := by
        rw [← hseed rs, hrs _ rfl]
    _ = t.targetPortForService r'.servicePort := by rw [hport]
    _ = r'.targetPort := by
        rw [← hseed rs', hrs' _ rfl]

end Ports

/-! ## Tables that decide alike -/

/-- Two tables give the same decision for every port and every branch header. -/
def SameDecisions (t t' : RoutingTable) : Prop :=
  (∀ port branchId, t'.resolveHttp port branchId = t.resolveHttp port branchId) ∧
    ∀ port, t'.resolveTcp port = t.resolveTcp port

/-- Two tables with the same services decide alike exactly when they have the same devboxes and,
where no default devbox takes the traffic, the same target ports. -/
theorem sameDecisions_iff {t t' : RoutingTable} (hs : ∀ b, t'.serviceFor b = t.serviceFor b) :
    SameDecisions t t' ↔
      (∀ key, t'.devboxFor key = t.devboxFor key) ∧
        (t.devboxFor none = none →
          ∀ port, t'.targetPortForService port = t.targetPortForService port) := by
  constructor
  · rintro ⟨hhttp, htcp⟩
    have hdefault : t'.devboxFor none = t.devboxFor none := by
      have h := htcp 0
      rw [resolveTcp_eq, resolveTcp_eq] at h
      cases ht : t.devboxFor none <;> cases ht' : t'.devboxFor none <;> simp_all
    refine ⟨fun key => ?_, fun hnone port => ?_⟩
    · cases key with
      | none => exact hdefault
      | some b =>
        have h := hhttp 0 (some b)
        rw [resolveHttp_eq, resolveHttp_eq] at h
        cases hsvc : t.serviceFor b with
        | none =>
          -- a branch without a service is in neither table
          have hnot : b ∉ t.branchRoutes := by simp [mem_branchRoutes_iff, hsvc]
          have hnot' : b ∉ t'.branchRoutes := by simp [mem_branchRoutes_iff, hs, hsvc]
          rw [devboxFor_of_notMem t hnot, devboxFor_of_notMem t' hnot']
        | some service =>
          simp only [hs, hsvc] at h
          cases ht : t.devboxFor (some b) <;> cases ht' : t'.devboxFor (some b) <;> simp_all
    · have h := htcp port
      rw [resolveTcp_eq, resolveTcp_eq, hdefault, hnone] at h
      exact RouteDecision.defaultLocal.inj h
  · rintro ⟨hdevbox, hports⟩
    have htcp : ∀ port, t'.resolveTcp port = t.resolveTcp port := by
      intro port
      rw [resolveTcp_eq, resolveTcp_eq, hdevbox]
      cases hnone : t.devboxFor none with
      | none => rw [hports hnone port]
      | some c => rfl
    refine ⟨fun port branchId => ?_, htcp⟩
    rw [resolveHttp_eq, resolveHttp_eq]
    cases branchId with
    | none => exact htcp port
    | some b => simp only [hs, hdevbox, htcp]

end RoutingTable
end Lapdev
