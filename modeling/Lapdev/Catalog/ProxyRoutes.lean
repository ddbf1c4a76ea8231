import Lapdev.Catalog.ServicePorts
import Mathlib.Data.List.Nodup

/-!
# Allocation of proxy ports

`build_proxy_routes` of `kube_controller/app_catalog.rs`: one route per service port with a numeric
target, one proxy port per (service port, target port) pair, taken from the dynamic range in order
of first occurrence. `dynamicPorts` states the same allocation without the loop's bookkeeping, as a
numbering of the pairs, and `buildProxyRoutes_eq` says that the routes follow it.
-/

namespace Lapdev

open RustStd

/-- Source: `common/src/kube.rs`. -/
def defaultSidecarProxyPort : UInt16 := 25001

/-- Source: `common/src/kube.rs`. -/
def defaultSidecarProxyMetricsPort : UInt16 := 25090

/-- Source: `common/src/kube.rs`, `SIDECAR_PROXY_DYNAMIC_PORT_START`. -/
def sidecarProxyDynamicPortStart : Nat := 26001

/-- The variables of `build_proxy_routes`; `next_proxy_port` is a `u32` and stays below `2 ^ 17`. -/
structure Allocation where
  assignedPorts : HashTable (UInt16 × UInt16) UInt16
  usedProxyPorts : List UInt16
  nextProxyPort : Nat
  routes : List ProxyPortRoute

namespace Allocation

/-- The variables before the first service. -/
def start : Allocation where
  assignedPorts := ∅
  usedProxyPorts := [defaultSidecarProxyPort, defaultSidecarProxyMetricsPort]
  nextProxyPort := sidecarProxyDynamicPortStart
  routes := []

/-- The inner `loop`, by the number of candidates left: the allocated port, the used ports and the
next candidate. With no candidate left the service port is reused. -/
def allocateLoop (servicePort targetPort : UInt16) (used : List UInt16) :
    Nat → UInt16 × List UInt16 × Nat
  | 0 => (servicePort, used, 65536)
  | left + 1 =>
    let candidate := UInt16.ofNat (65535 - left)
    if candidate = servicePort ∨ candidate = targetPort then
      allocateLoop servicePort targetPort used left
    else if candidate ∈ used then allocateLoop servicePort targetPort used left
    else (candidate, candidate :: used, 65536 - left)

/-- The loop body of `build_proxy_routes` on a pair. -/
def addRoute (st : Allocation) (servicePort targetPort : UInt16) : Allocation :=
  match st.assignedPorts.lookup (servicePort, targetPort) with
  | some existing =>
    { st with routes := st.routes ++ [⟨existing, servicePort, targetPort⟩] }
  | none =>
    let (allocated, used, next) :=
      allocateLoop servicePort targetPort st.usedProxyPorts (65536 - st.nextProxyPort)
    { assignedPorts := st.assignedPorts.insert (servicePort, targetPort) allocated
      usedProxyPorts := used
      nextProxyPort := next
      routes := st.routes ++ [⟨allocated, servicePort, targetPort⟩] }

/-- The loop body of `build_proxy_routes` on a service port. -/
def addPort (st : Allocation) (port : KubeServicePort) : Allocation :=
  match port.serviceAndTarget with
  | none => st
  | some (servicePort, targetPort) => st.addRoute servicePort targetPort

end Allocation

/-- Source: `app_catalog.rs`, `build_proxy_routes`. -/
def buildProxyRoutes {Text : Type} (services : Option (List (CachedClusterService Text))) :
    List ProxyPortRoute :=
  match services with
  | none => []
  | some services =>
    (services.foldl (fun st service => service.ports.foldl Allocation.addPort st)
      Allocation.start).routes

/-! ## The pairs of a service list -/

/-- The (service port, target port) pairs of a list of services, in order, repetitions included. -/
def portPairs {Text : Type} (services : List (CachedClusterService Text)) :
    List (UInt16 × UInt16) :=
  services.flatMap fun service => service.ports.filterMap KubeServicePort.serviceAndTarget

/-- The routes depend on the services only through their pairs. -/
theorem buildProxyRoutes_eq_foldl {Text : Type} (services : List (CachedClusterService Text)) :
    buildProxyRoutes (some services) =
      ((portPairs services).foldl (fun st pair => st.addRoute pair.1 pair.2)
        Allocation.start).routes := by
  have hports : ∀ (ports : List KubeServicePort) (st : Allocation),
      ports.foldl Allocation.addPort st =
        (ports.filterMap KubeServicePort.serviceAndTarget).foldl
          (fun st pair => st.addRoute pair.1 pair.2) st := by
    intro ports
    induction ports with
    | nil => exact fun _ => rfl
    | cons port ports ih =>
      intro st
      rw [List.foldl_cons, ih, List.filterMap_cons, Allocation.addPort]
      cases port.serviceAndTarget <;> rfl
  have hservices : ∀ (services : List (CachedClusterService Text)) (st : Allocation),
      services.foldl (fun st service => service.ports.foldl Allocation.addPort st) st =
        (portPairs services).foldl (fun st pair => st.addRoute pair.1 pair.2) st := by
    intro services
    induction services with
    | nil => exact fun _ => rfl
    | cons service services ih =>
      intro st
      rw [List.foldl_cons, ih, hports, portPairs, portPairs, List.flatMap_cons, List.foldl_append]
  rw [buildProxyRoutes, hservices]

/-! ## The numbering of the pairs -/

/-- The first number from `next` on that is neither port of the pair. -/
def firstFree (next : Nat) (pair : UInt16 × UInt16) : Nat :=
  if next ≠ pair.1.toNat ∧ next ≠ pair.2.toNat then next
  else if next + 1 ≠ pair.1.toNat ∧ next + 1 ≠ pair.2.toNat then next + 1
  else next + 2

/-- The dynamic ports of the pairs of a list: each pair, where it occurs first, takes the first
free number after the one before it, and none once the numbers exceed a port. -/
def dynamicPorts (next : Nat) (seen : List (UInt16 × UInt16)) :
    List (UInt16 × UInt16) → List ((UInt16 × UInt16) × Option UInt16)
  | [] => []
  | pair :: rest =>
    if pair ∈ seen then dynamicPorts next seen rest
    else
      (pair, if firstFree next pair < 65536 then some (UInt16.ofNat (firstFree next pair)) else none)
        :: dynamicPorts (firstFree next pair + 1) (pair :: seen) rest

/-- The dynamic port of a pair of a list, if the range reaches it. -/
def dynamicPort (pairs : List (UInt16 × UInt16)) (pair : UInt16 × UInt16) : Option UInt16 :=
  ((dynamicPorts sidecarProxyDynamicPortStart [] pairs).lookup pair).join

/-- The proxy port of a pair of a list: its dynamic port, or its service port. -/
def proxyPortOf (pairs : List (UInt16 × UInt16)) (pair : UInt16 × UInt16) : UInt16 :=
  (dynamicPort pairs pair).getD pair.1

/-! ## The loop follows the numbering -/

/-- A number that is one of the pair's ports is skipped. -/
theorem firstFree_of_taken {next : Nat} {pair : UInt16 × UInt16}
    (h : next = pair.1.toNat ∨ next = pair.2.toNat) :
    firstFree next pair = firstFree (next + 1) pair := by
  unfold firstFree
  split_ifs <;> omega

theorem le_firstFree (next : Nat) (pair : UInt16 × UInt16) : next ≤ firstFree next pair := by
  unfold firstFree
  split_ifs <;> omega

/-- A number below `2 ^ 16` is a port exactly when it is the port's number. -/
theorem ofNat_eq_iff {n : Nat} (hn : n < 65536) (p : UInt16) :
    UInt16.ofNat n = p ↔ n = p.toNat := by
  rw [← UInt16.toNat_inj, UInt16.toNat_ofNat', Nat.mod_eq_of_lt hn]

/-- The inner loop hands out the first free number while it is a port, whatever was used below. -/
theorem allocateLoop_eq (pair : UInt16 × UInt16) (used : List UInt16) (left next : Nat)
    (hnext : next + left = 65536) (hused : ∀ u ∈ used, u.toNat < next) :
    Allocation.allocateLoop pair.1 pair.2 used left =
      if firstFree next pair < 65536 then
        (UInt16.ofNat (firstFree next pair), UInt16.ofNat (firstFree next pair) :: used,
          firstFree next pair + 1)
      else (pair.1, used, 65536) := by
  induction left generalizing next with
  | zero =>
    have hle := le_firstFree next pair
    rw [if_neg (by omega)]
    rfl
  | succ left ih =>
    have hcand : 65535 - left = next := by omega
    have hlt : next < 65536 := by omega
    simp only [Allocation.allocateLoop, hcand, ofNat_eq_iff hlt]
    by_cases htaken : next = pair.1.toNat ∨ next = pair.2.toNat
    · rw [if_pos htaken, ih (next + 1) (by omega) fun u hu => Nat.lt_succ_of_lt (hused u hu),
        firstFree_of_taken htaken]
    · have hfree : firstFree next pair = next := by
        unfold firstFree
        rw [if_pos (not_or.1 htaken)]
      have hnew : UInt16.ofNat next ∉ used := by
        intro hmem
        have := hused _ hmem
        rw [UInt16.toNat_ofNat', Nat.mod_eq_of_lt hlt] at this
        omega
      rw [if_neg htaken, if_neg hnew, hfree, if_pos hlt]
      have hleft : 65536 - left = next + 1 := by omega
      rw [hleft]

/-- The bookkeeping of the loop between two pairs: the assigned pairs are those seen, the used
ports lie below the next number. -/
structure Allocation.Follows (st : Allocation) (next : Nat) (seen : List (UInt16 × UInt16)) :
    Prop where
  assigned : ∀ pair, st.assignedPorts.lookup pair = none ↔ pair ∉ seen
  used : ∀ u ∈ st.usedProxyPorts, u.toNat < next
  next_eq : st.nextProxyPort = min next 65536

/-- The port of a pair at the end of the loop. -/
def Allocation.finalPort (st : Allocation) (next : Nat) (seen pairs : List (UInt16 × UInt16))
    (pair : UInt16 × UInt16) : UInt16 :=
  ((st.assignedPorts.lookup pair).or
    (((dynamicPorts next seen pairs).lookup pair).map fun d => d.getD pair.1)).getD pair.1

/-- A pair that is already assigned changes nothing but the routes. -/
theorem Allocation.addRoute_of_some {st : Allocation} {pair : UInt16 × UInt16} {port : UInt16}
    (h : st.assignedPorts.lookup pair = some port) :
    st.addRoute pair.1 pair.2 =
      { st with routes := st.routes ++ [⟨port, pair.1, pair.2⟩] } := by
  simp [Allocation.addRoute, h]

/-- The port a new pair is given when the numbers have reached `next`. -/
def Allocation.newPort (next : Nat) (pair : UInt16 × UInt16) : UInt16 :=
  if firstFree next pair < 65536 then UInt16.ofNat (firstFree next pair) else pair.1

/-- A new pair takes the first free number, or reuses its service port. -/
theorem Allocation.Follows.addRoute_of_none {st : Allocation} {next : Nat}
    {seen : List (UInt16 × UInt16)} (hst : st.Follows next seen) {pair : UInt16 × UInt16}
    (h : st.assignedPorts.lookup pair = none) :
    st.addRoute pair.1 pair.2 =
      { assignedPorts := st.assignedPorts.insert pair (newPort next pair)
        usedProxyPorts := if firstFree next pair < 65536 then
          newPort next pair :: st.usedProxyPorts else st.usedProxyPorts
        nextProxyPort := min (firstFree next pair + 1) 65536
        routes := st.routes ++ [⟨newPort next pair, pair.1, pair.2⟩] } := by
  have hle := le_firstFree next pair
  have hused : ∀ u ∈ st.usedProxyPorts, u.toNat < st.nextProxyPort := by
    intro u hu
    have h1 := hst.used u hu
    have h2 := u.toNat_lt
    rw [hst.next_eq]
    omega
  have hloop := allocateLoop_eq pair st.usedProxyPorts (65536 - st.nextProxyPort) st.nextProxyPort
    (by rw [hst.next_eq]; omega) hused
  simp only [Allocation.addRoute, Prod.mk.eta, h, newPort]
  by_cases hlt : firstFree next pair < 65536
  · have hnext : st.nextProxyPort = next := by
      rw [hst.next_eq]
      omega
    rw [hnext, if_pos hlt] at hloop
    have hmin : min (firstFree next pair + 1) 65536 = firstFree next pair + 1 := by omega
    rw [hnext, hloop, if_pos hlt, if_pos hlt, hmin]
  · -- past the end of the range nothing is free, at the capped number as at the number itself
    have hnot : ¬firstFree st.nextProxyPort pair < 65536 := by
      by_cases hnext : next ≤ 65536
      · rwa [hst.next_eq, Nat.min_eq_left hnext]
      · have hcap := le_firstFree st.nextProxyPort pair
        have hfull := hst.next_eq
        omega
    rw [if_neg hnot] at hloop
    have hmin : min (firstFree next pair + 1) 65536 = 65536 := by omega
    rw [hloop, if_neg hlt, if_neg hlt, hmin]

/-- The bookkeeping after a new pair. -/
theorem Allocation.Follows.step {st : Allocation} {next : Nat} {seen : List (UInt16 × UInt16)}
    (hst : st.Follows next seen) {pair : UInt16 × UInt16}
    (h : st.assignedPorts.lookup pair = none) :
    (st.addRoute pair.1 pair.2).Follows (firstFree next pair + 1) (pair :: seen) := by
  have hle := le_firstFree next pair
  rw [hst.addRoute_of_none h]
  refine ⟨fun pair' => ?_, fun u hu => ?_, rfl⟩
  · rw [HashTable.lookup_insert, List.mem_cons, not_or]
    split
    · next heq => simp [heq]
    · next hne => simp [hne, hst.assigned]
  · have hold : ∀ u ∈ st.usedProxyPorts, u.toNat < firstFree next pair + 1 := fun u hu => by
      have := hst.used u hu
      omega
    dsimp only at hu
    split_ifs at hu with hlt
    · rcases List.mem_cons.1 hu with rfl | hu
      · rw [newPort, if_pos hlt, UInt16.toNat_ofNat']
        omega
      · exact hold u hu
    · exact hold u hu

/-- From any point on the loop appends one route per pair, at the pair's final port. -/
theorem Allocation.routes_foldl_addRoute (pairs : List (UInt16 × UInt16)) (st : Allocation)
    (next : Nat) (seen : List (UInt16 × UInt16)) (hst : st.Follows next seen) :
    (pairs.foldl (fun st pair => st.addRoute pair.1 pair.2) st).routes =
      st.routes ++ pairs.map fun pair =>
        ⟨st.finalPort next seen pairs pair, pair.1, pair.2⟩ := by
  induction pairs generalizing st next seen with
  | nil => simp
  | cons pair rest ih =>
    rw [List.foldl_cons]
    cases hl : st.assignedPorts.lookup pair with
    | some port =>
      have hseen : pair ∈ seen := by
        by_contra hnot
        rw [(hst.assigned pair).2 hnot] at hl
        cases hl
      have hdyn : dynamicPorts next seen (pair :: rest) = dynamicPorts next seen rest := by
        simp [dynamicPorts, hseen]
      have hfinal : st.finalPort next seen (pair :: rest) pair = port := by
        simp [Allocation.finalPort, hl]
      have hih := ih { st with routes := st.routes ++ [⟨port, pair.1, pair.2⟩] } next seen
        ⟨hst.assigned, hst.used, hst.next_eq⟩
      rw [addRoute_of_some hl, hih]
      simp only [List.map_cons, hfinal, List.append_assoc, List.singleton_append]
      simp only [Allocation.finalPort, hdyn]
    | none =>
      have hseen : pair ∉ seen := (hst.assigned pair).1 hl
      have hstep := hst.addRoute_of_none hl
      have hassigned : (st.addRoute pair.1 pair.2).assignedPorts =
          st.assignedPorts.insert pair (newPort next pair) := by rw [hstep]
      have hroutes : (st.addRoute pair.1 pair.2).routes =
          st.routes ++ [⟨newPort next pair, pair.1, pair.2⟩] := by rw [hstep]
      rw [ih _ _ _ (hst.step hl), hroutes]
      have hfinal : ∀ pair', (st.addRoute pair.1 pair.2).finalPort (firstFree next pair + 1)
          (pair :: seen) rest pair' = st.finalPort next seen (pair :: rest) pair' := by
        intro pair'
        simp only [Allocation.finalPort, hassigned, dynamicPorts, hseen, if_false,
          HashTable.lookup_insert, List.lookup_cons]
        by_cases heq : pair' = pair
        · subst heq
          by_cases hlt : firstFree next pair' < 65536 <;> simp [hl, hlt, newPort]
        · have hbeq : (pair' == pair) = false := by simpa using heq
          simp [heq, hbeq]
      have hhead : st.finalPort next seen (pair :: rest) pair = newPort next pair := by
        simp only [newPort, Allocation.finalPort, hl, dynamicPorts, hseen, if_false, List.lookup_cons,
          beq_self_eq_true, Option.none_or, Option.map_some]
        split_ifs <;> rfl
      simp only [List.map_cons, hfinal, hhead, List.append_assoc, List.singleton_append]

/-- **The routes of a service list**: one for each of its pairs, at the pair's proxy port. -/
theorem buildProxyRoutes_eq {Text : Type} (services : List (CachedClusterService Text)) :
    buildProxyRoutes (some services) = (portPairs services).map fun pair =>
      ⟨proxyPortOf (portPairs services) pair, pair.1, pair.2⟩ := by
  have hstart : Allocation.start.Follows sidecarProxyDynamicPortStart [] :=
    ⟨by simp [Allocation.start],
      by simp [Allocation.start, defaultSidecarProxyPort, defaultSidecarProxyMetricsPort,
        sidecarProxyDynamicPortStart],
      by simp [Allocation.start, sidecarProxyDynamicPortStart]⟩
  rw [buildProxyRoutes_eq_foldl, Allocation.routes_foldl_addRoute _ _ _ _ hstart]
  simp only [Allocation.start, List.nil_append]
  refine List.map_congr_left fun pair _ => ?_
  simp only [Allocation.finalPort, AList.lookup_empty, Option.none_or, proxyPortOf, dynamicPort]
  cases (dynamicPorts sidecarProxyDynamicPortStart [] (portPairs services)).lookup pair with
  | none => rfl
  | some d => cases d <;> rfl

/-! ## Distinct pairs have distinct dynamic ports -/

/-- The numbering starts at its first number. -/
theorem le_of_mem_dynamicPorts {next : Nat} {seen pairs : List (UInt16 × UInt16)}
    {pair : UInt16 × UInt16} {port : UInt16}
    (h : (pair, some port) ∈ dynamicPorts next seen pairs) : next ≤ port.toNat := by
  induction pairs generalizing next seen with
  | nil => cases h
  | cons head rest ih =>
    simp only [dynamicPorts] at h
    split at h
    · exact ih h
    · have hle := le_firstFree next head
      rcases List.mem_cons.1 h with heq | hmem
      · split_ifs at heq with hlt
        · cases heq
          rw [UInt16.toNat_ofNat']
          omega
        · cases heq
      · have := ih hmem
        omega

/-- No dynamic port is given twice. -/
theorem dynamicPorts_injective {next : Nat} {seen pairs : List (UInt16 × UInt16)}
    {pair pair' : UInt16 × UInt16} {port : UInt16}
    (h : (pair, some port) ∈ dynamicPorts next seen pairs)
    (h' : (pair', some port) ∈ dynamicPorts next seen pairs) : pair = pair' := by
  induction pairs generalizing next seen with
  | nil => cases h
  | cons head rest ih =>
    simp only [dynamicPorts] at h h'
    split at h
    · next hseen =>
      rw [if_pos hseen] at h'
      exact ih h h'
    · next hseen =>
      rw [if_neg hseen] at h'
      -- the head's port lies below every later one
      have hlater : ∀ {q}, (q, some port) ∈
          dynamicPorts (firstFree next head + 1) (head :: seen) rest →
          ¬(if firstFree next head < 65536 then some (UInt16.ofNat (firstFree next head))
            else none) = some port := by
        intro q hq heq
        have hle := le_of_mem_dynamicPorts hq
        split_ifs at heq with hlt
        cases heq
        rw [UInt16.toNat_ofNat'] at hle
        omega
      rcases List.mem_cons.1 h with heq | hmem <;> rcases List.mem_cons.1 h' with heq' | hmem'
      · exact (Prod.ext_iff.1 heq).1.trans (Prod.ext_iff.1 heq').1.symm
      · exact absurd (Prod.ext_iff.1 heq).2.symm (hlater hmem')
      · exact absurd (Prod.ext_iff.1 heq').2.symm (hlater hmem)
      · exact ih hmem hmem'

/-- Two pairs with the same dynamic port are one pair. -/
theorem dynamicPort_injective {pairs : List (UInt16 × UInt16)} {pair pair' : UInt16 × UInt16}
    {port : UInt16} (h : dynamicPort pairs pair = some port)
    (h' : dynamicPort pairs pair' = some port) : pair = pair' := by
  have hmem : ∀ {q : UInt16 × UInt16}, dynamicPort pairs q = some port →
      (q, some port) ∈ dynamicPorts sidecarProxyDynamicPortStart [] pairs := by
    intro q hq
    obtain ⟨l₁, l₂, heq, -⟩ := List.lookup_eq_some_iff.1 (Option.join_eq_some_iff.1 hq)
    rw [heq]
    simp
  exact dynamicPorts_injective (hmem h) (hmem h')

end Lapdev
