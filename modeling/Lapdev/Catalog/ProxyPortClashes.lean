import Lapdev.Catalog.PortPreservation
import Lapdev.Logic.Firsts

/-!
# Proxy ports and the ports of the workload

A sidecar listens on the proxy ports of its routes, on its own two ports and beside a workload that
listens on the target ports of its services. While the dynamic range suffices, the pairs have proxy
ports of their own, none of them a port of the sidecar. The loop avoids the two ports of the pair it
allocates for and no others: `separatesPorts_iff` says for which lists of services that keeps it off
every target port.

The condition walks over the numbers of the range and not over the pairs. A number is offered to
the pair whose index is the number's place in the range, less the numbers before it that were passed
over; only the pair's own two ports are passed over.
-/

namespace Lapdev

open RustStd Lists

variable {Text : Type}

/-- The numbers of the target ports of a list of services. -/
def targetNumbers (services : List (CachedClusterService Text)) : List Int :=
  services.flatMap fun service => service.ports.filterMap fun port =>
    port.originalTargetPort.or port.targetPort

/-- The allocation finds a candidate for every pair. -/
def RangeSuffices (services : List (CachedClusterService Text)) : Prop :=
  ∀ entry ∈ dynamicPorts sidecarProxyDynamicPortStart [] (portPairs services), entry.2.isSome

instance (services : List (CachedClusterService Text)) : Decidable (RangeSuffices services) :=
  List.decidableBAll (fun entry : (UInt16 × UInt16) × Option UInt16 => entry.2.isSome)
    (dynamicPorts sidecarProxyDynamicPortStart [] (portPairs services))

/-- The listeners of the sidecar are apart from each other and from those of the workload. -/
structure SeparatesPorts (services : List (CachedClusterService Text)) : Prop where
  pairs : ∀ route ∈ buildProxyRoutes (some services), ∀ route' ∈ buildProxyRoutes (some services),
    route.proxyPort = route'.proxyPort ↔
      (route.servicePort, route.targetPort) = (route'.servicePort, route'.targetPort)
  own : ∀ route ∈ buildProxyRoutes (some services),
    route.proxyPort ≠ defaultSidecarProxyPort ∧ route.proxyPort ≠ defaultSidecarProxyMetricsPort
  targets : ∀ route ∈ buildProxyRoutes (some services),
    u16AsInt route.proxyPort ∉ targetNumbers services

/-! ## The numbers that are passed over -/

/-- A number is one of the two ports of a pair. -/
def Owns (pair : UInt16 × UInt16) (number : Nat) : Prop :=
  number = pair.1.toNat ∨ number = pair.2.toNat

instance (pair : UInt16 × UInt16) (number : Nat) : Decidable (Owns pair number) :=
  inferInstanceAs (Decidable (_ ∨ _))

/-- How many of the first numbers of a range are passed over: those that the pair they are offered
to owns. -/
def passed (start : Nat) (pairs : List (UInt16 × UInt16)) : Nat → Nat
  | 0 => 0
  | d + 1 =>
    passed start pairs d +
      if ∃ pair ∈ pairs[d - passed start pairs d]?, Owns pair (start + d) then 1 else 0

/-- Every target in the range that is offered to a pair is one of the pair's own ports. -/
def PassesTargets (targets : List Int) (start : Nat) (pairs : List (UInt16 × UInt16)) : Prop :=
  ∀ d : Nat, ((start + d : Nat) : Int) ∈ targets →
    ∀ pair ∈ pairs[d - passed start pairs d]?, Owns pair (start + d)

/-- How many of the first numbers of a range are targets. -/
def targetsBelow (targets : List Int) (start d : Nat) : Nat :=
  (List.range d).countP fun i => ((start + i : Nat) : Int) ∈ targets

/-- Every target in the range is the target of the pair with its place in the range, less the
targets before it. -/
def TargetsInTurn (targets : List Int) (start : Nat) (pairs : List (UInt16 × UInt16)) : Prop :=
  ∀ d : Nat, ((start + d : Nat) : Int) ∈ targets →
    ∀ pair ∈ pairs[d - targetsBelow targets start d]?, start + d = pair.2.toNat

/-- The pairs of a list of services, each once, in the order of their first occurrence. -/
def distinctPairs (services : List (CachedClusterService Text)) : List (UInt16 × UInt16) :=
  firsts id (portPairs services) []

section
variable {start : Nat} {pair : UInt16 × UInt16} {rest pairs : List (UInt16 × UInt16)}
  {targets : List Int}

theorem passed_le (d : Nat) : passed start pairs d ≤ d := by
  induction d with
  | zero => rfl
  | succ d ih =>
    rw [passed]
    split <;> omega

/-- A number that the first pair owns is passed over, and the pair is offered the next one. -/
theorem passed_of_owns (h : Owns pair start) (d : Nat) :
    passed start (pair :: rest) (d + 1) = passed (start + 1) (pair :: rest) d + 1 := by
  induction d with
  | zero => simp [passed, h]
  | succ d ih =>
    have hindex : d + 1 - (passed (start + 1) (pair :: rest) d + 1) =
        d - passed (start + 1) (pair :: rest) d := by omega
    have hnumber : start + (d + 1) = start + 1 + d := by omega
    rw [passed, ih, hindex, hnumber, passed]
    omega

/-- A number that the first pair does not own is the pair's, and the next one is offered to the
pairs behind it. -/
theorem passed_of_not_owns (h : ¬Owns pair start) (d : Nat) :
    passed start (pair :: rest) (d + 1) = passed (start + 1) rest d := by
  induction d with
  | zero => simp [passed, h]
  | succ d ih =>
    have hle : passed (start + 1) rest d ≤ d := passed_le d
    have hindex : d + 1 - passed (start + 1) rest d = d - passed (start + 1) rest d + 1 := by omega
    have hnumber : start + (d + 1) = start + 1 + d := by omega
    rw [passed, ih, hindex, hnumber, List.getElem?_cons_succ, passed]

/-- A condition on every place of a range, by its first place and the others. -/
theorem forall_place_iff {P : Nat → Prop} : (∀ d, P d) ↔ P 0 ∧ ∀ d, P (d + 1) :=
  ⟨fun h => ⟨h 0, fun d => h (d + 1)⟩, fun h d => by
    cases d with
    | zero => exact h.1
    | succ d => exact h.2 d⟩

theorem passesTargets_of_owns (h : Owns pair start) :
    PassesTargets targets start (pair :: rest) ↔ PassesTargets targets (start + 1) (pair :: rest) := by
  rw [PassesTargets, forall_place_iff]
  have hfirst : ((start + 0 : Nat) : Int) ∈ targets →
      ∀ pair' ∈ (pair :: rest)[0 - passed start (pair :: rest) 0]?, Owns pair' (start + 0) := by
    rintro - pair' ⟨⟩
    exact h
  rw [and_iff_right hfirst]
  refine forall_congr' fun d => ?_
  have hindex : d + 1 - (passed (start + 1) (pair :: rest) d + 1) =
      d - passed (start + 1) (pair :: rest) d := by omega
  have hnumber : start + (d + 1) = start + 1 + d := by omega
  rw [passed_of_owns h, hindex, hnumber]

theorem passesTargets_of_not_owns (h : ¬Owns pair start) :
    PassesTargets targets start (pair :: rest) ↔
      (start : Int) ∉ targets ∧ PassesTargets targets (start + 1) rest := by
  rw [PassesTargets, forall_place_iff]
  refine and_congr ⟨fun hall hmem => h (hall hmem pair rfl), fun hnot hmem => absurd hmem hnot⟩
    (forall_congr' fun d => ?_)
  have hle : passed (start + 1) rest d ≤ d := passed_le d
  have hindex : d + 1 - passed (start + 1) rest d = d - passed (start + 1) rest d + 1 := by omega
  have hnumber : start + (d + 1) = start + 1 + d := by omega
  rw [passed_of_not_owns h, hindex, hnumber, List.getElem?_cons_succ]

/-- The first pair takes the first number it does not own. -/
theorem passesTargets_cons :
    PassesTargets targets start (pair :: rest) ↔
      (firstFree start pair : Int) ∉ targets ∧
        PassesTargets targets (firstFree start pair + 1) rest := by
  unfold firstFree
  by_cases h₀ : Owns pair start
  · rw [passesTargets_of_owns h₀, if_neg (by unfold Owns at h₀; omega)]
    by_cases h₁ : Owns pair (start + 1)
    · have h₂ : ¬Owns pair (start + 1 + 1) := by
        unfold Owns at h₀ h₁ ⊢
        omega
      rw [passesTargets_of_owns h₁, passesTargets_of_not_owns h₂,
        if_neg (by unfold Owns at h₁; omega)]
    · rw [passesTargets_of_not_owns h₁, if_pos (by unfold Owns at h₁; omega)]
  · rw [passesTargets_of_not_owns h₀, if_pos (by unfold Owns at h₀; omega)]

/-- Where the numbers up to a place are passed over just if they are targets, the two counts agree,
or both have passed the last pair. -/
theorem passed_eq_targetsBelow {d : Nat}
    (h : ∀ i < d, ∀ pair, pair ∈ pairs[i - passed start pairs i]? →
      (Owns pair (start + i) ↔ ((start + i : Nat) : Int) ∈ targets)) :
    passed start pairs d = targetsBelow targets start d ∨
      pairs.length ≤ d - passed start pairs d ∧
        pairs.length ≤ d - targetsBelow targets start d := by
  induction d with
  | zero => exact .inl rfl
  | succ d ih =>
    have hpassed : passed start pairs d ≤ d := passed_le d
    have htargets : targetsBelow targets start (d + 1) = targetsBelow targets start d +
        if ((start + d : Nat) : Int) ∈ targets then 1 else 0 := by
      rw [targetsBelow, List.range_succ, List.countP_append, List.countP_singleton, targetsBelow]
      simp only [decide_eq_true_eq]
    have hbelow : targetsBelow targets start d ≤ d := by
      have hcount := List.countP_le_length
        (p := fun i => decide (((start + i : Nat) : Int) ∈ targets)) (l := List.range d)
      rwa [List.length_range] at hcount
    rw [htargets, passed]
    rcases ih fun i hi => h i (Nat.lt_succ_of_lt hi) with heq | ⟨hlen, hlen'⟩
    · cases hpair : pairs[d - passed start pairs d]? with
      | none =>
        have hlen := List.getElem?_eq_none_iff.1 hpair
        right
        rw [if_neg (by rintro ⟨_, ⟨⟩, -⟩)]
        split <;> omega
      | some pair =>
        left
        have hiff := h d (Nat.lt_succ_self d) pair hpair
        rw [heq]
        congr 1
        refine if_congr ⟨?_, fun hmem => ⟨pair, rfl, hiff.2 hmem⟩⟩ rfl rfl
        rintro ⟨_, ⟨⟩, howns⟩
        exact hiff.1 howns
    · right
      rw [if_neg]
      · split <;> omega
      · rintro ⟨_, hpair, -⟩
        rw [List.getElem?_eq_none hlen] at hpair
        cases hpair

/-- Where no service port lies in the range and every target of a pair is a target, the numbers that
are passed over are the targets. -/
theorem passesTargets_iff_targetsInTurn (hservice : ∀ pair ∈ pairs, pair.1.toNat < start)
    (htarget : ∀ pair ∈ pairs, (pair.2.toNat : Int) ∈ targets) :
    PassesTargets targets start pairs ↔ TargetsInTurn targets start pairs := by
  have howns : ∀ pair ∈ pairs, ∀ d, Owns pair (start + d) ↔ start + d = pair.2.toNat := by
    intro pair hpair d
    have := hservice pair hpair
    unfold Owns
    omega
  have hmem : ∀ pair ∈ pairs, ∀ d, Owns pair (start + d) → ((start + d : Nat) : Int) ∈ targets := by
    intro pair hpair d h
    rw [(howns pair hpair d).1 h]
    exact htarget pair hpair
  constructor
  · intro h d htargets pair hpair
    have hagree := passed_eq_targetsBelow (d := d) fun i _ p hp =>
      ⟨hmem p (List.mem_of_getElem? hp) i, fun hi => h i hi p hp⟩
    rcases hagree with heq | ⟨-, hlen⟩
    · rw [← heq] at hpair
      exact (howns pair (List.mem_of_getElem? hpair) d).1 (h d htargets pair hpair)
    · rw [List.getElem?_eq_none hlen] at hpair
      cases hpair
  · intro h d
    -- up to each place the pairs are offered the numbers `TargetsInTurn` speaks of
    induction d using Nat.strong_induction_on with
    | _ d ih =>
      intro htargets pair hpair
      have hagree := passed_eq_targetsBelow (d := d) fun i hi p hp =>
        ⟨hmem p (List.mem_of_getElem? hp) i, fun hi' => ih i hi hi' p hp⟩
      rcases hagree with heq | ⟨hlen, -⟩
      · rw [heq] at hpair
        exact (howns pair (List.mem_of_getElem? hpair) d).2 (h d htargets pair hpair)
      · rw [List.getElem?_eq_none hlen] at hpair
        cases hpair

end

/-! ## The numbering of the pairs -/

section
variable {next : Nat} {seen pairs : List (UInt16 × UInt16)}

/-- The numbering has an entry for each new pair. -/
theorem mem_keys_dynamicPorts {pair : UInt16 × UInt16} :
    pair ∈ (dynamicPorts next seen pairs).map Prod.fst ↔ pair ∈ pairs ∧ pair ∉ seen := by
  induction pairs generalizing next seen with
  | nil => simp [dynamicPorts]
  | cons head rest ih =>
    rw [dynamicPorts, List.mem_cons]
    split
    · next hseen =>
      rw [ih]
      constructor
      · exact fun h => ⟨.inr h.1, h.2⟩
      · rintro ⟨rfl | hrest, hnot⟩
        · exact absurd hseen hnot
        · exact ⟨hrest, hnot⟩
    · next hseen =>
      rw [List.map_cons, List.mem_cons, ih, List.mem_cons, not_or]
      constructor
      · rintro (rfl | ⟨hrest, -, hnot⟩)
        · exact ⟨.inl rfl, hseen⟩
        · exact ⟨.inr hrest, hnot⟩
      · rintro ⟨rfl | hrest, hnot⟩
        · exact .inl rfl
        · by_cases heq : pair = head
          · exact .inl heq
          · exact .inr ⟨hrest, heq, hnot⟩

/-- The numbering has one entry for each pair, so looking a pair up finds its entry. -/
theorem lookup_dynamicPorts {pair : UInt16 × UInt16} {port : Option UInt16}
    (h : (pair, port) ∈ dynamicPorts next seen pairs) :
    (dynamicPorts next seen pairs).lookup pair = some port := by
  induction pairs generalizing next seen with
  | nil => cases h
  | cons head rest ih =>
    rw [dynamicPorts] at h ⊢
    split at h
    · next hseen =>
      rw [if_pos hseen]
      exact ih h
    · next hseen =>
      rw [if_neg hseen, List.lookup_cons]
      rcases List.mem_cons.1 h with heq | hmem
      · cases heq
        rw [beq_self_eq_true]
      · have hkey := mem_keys_dynamicPorts.1 (List.mem_map_of_mem (f := Prod.fst) hmem)
        have hne : pair ≠ head := fun heq => hkey.2 (heq ▸ List.mem_cons_self)
        rw [beq_false_of_ne hne]
        exact ih hmem

/-- While the range suffices, no entry of the numbering is a target exactly if the targets are
passed over. -/
theorem passesTargets_firsts {targets : List Int}
    (hrange : ∀ entry ∈ dynamicPorts next seen pairs, entry.2.isSome) :
    PassesTargets targets next (firsts id pairs seen) ↔
      ∀ pair port, (pair, some port) ∈ dynamicPorts next seen pairs → u16AsInt port ∉ targets := by
  induction pairs generalizing next seen with
  | nil => simp [PassesTargets, dynamicPorts]
  | cons head rest ih =>
    rw [dynamicPorts] at hrange ⊢
    split
    · next hseen =>
      rw [if_pos hseen] at hrange
      rw [@firsts_cons_of_mem _ _ _ id _ _ _ hseen]
      exact ih hrange
    · next hseen =>
      rw [if_neg hseen, List.forall_mem_cons] at hrange
      have hlt : firstFree next head < 65536 := by
        by_contra hnot
        have := hrange.1
        rw [if_neg hnot] at this
        cases this
      have hport : u16AsInt (UInt16.ofNat (firstFree next head)) = (firstFree next head : Int) := by
        rw [u16AsInt, UInt16.toNat_ofNat', Nat.mod_eq_of_lt hlt]
      rw [@firsts_cons_of_not_mem _ _ _ id _ _ _ hseen, passesTargets_cons]
      change _ ∧ PassesTargets targets _ (firsts id rest (head :: seen)) ↔ _
      rw [ih hrange.2, if_pos hlt]
      constructor
      · rintro ⟨hhead, hrest⟩ pair port hmem
        rcases List.mem_cons.1 hmem with heq | hmem
        · cases heq
          rwa [hport]
        · exact hrest pair port hmem
      · intro h
        refine ⟨?_, fun pair port hmem => h pair port (List.mem_cons_of_mem _ hmem)⟩
        rw [← hport]
        exact h head _ List.mem_cons_self

end

section
variable {services : List (CachedClusterService Text)}

/-- While the range suffices, the proxy port of a pair is its dynamic port. -/
theorem dynamicPort_of_rangeSuffices (hrange : RangeSuffices services) {pair : UInt16 × UInt16}
    (h : pair ∈ portPairs services) :
    dynamicPort (portPairs services) pair = some (proxyPortOf (portPairs services) pair) ∧
      (pair, some (proxyPortOf (portPairs services) pair)) ∈
        dynamicPorts sidecarProxyDynamicPortStart [] (portPairs services) := by
  obtain ⟨⟨pair', port⟩, hmem, heq⟩ :=
    List.mem_map.1 (mem_keys_dynamicPorts.2 ⟨h, List.not_mem_nil⟩)
  cases heq
  obtain ⟨port, rfl⟩ := Option.isSome_iff_exists.1 (hrange _ hmem)
  have hdynamic : dynamicPort (portPairs services) pair' = some port := by
    rw [dynamicPort, lookup_dynamicPorts hmem]
    rfl
  rw [proxyPortOf, hdynamic]
  exact ⟨rfl, hmem⟩

/-- While the range suffices, the sidecar's listeners are apart exactly if no entry of the numbering
is a target. -/
theorem separatesPorts_iff_entries (hrange : RangeSuffices services) :
    SeparatesPorts services ↔ ∀ pair port,
      (pair, some port) ∈ dynamicPorts sidecarProxyDynamicPortStart [] (portPairs services) →
        u16AsInt port ∉ targetNumbers services := by
  constructor
  · intro h pair port hmem
    have hpair := (mem_keys_dynamicPorts.1 (List.mem_map_of_mem (f := Prod.fst) hmem)).1
    have hport : dynamicPort (portPairs services) pair = some port := by
      rw [dynamicPort, lookup_dynamicPorts hmem]
      rfl
    have htarget := h.targets _ (mem_buildProxyRoutes.2 ⟨pair, hpair, rfl⟩)
    rwa [proxyPortOf, hport] at htarget
  · intro h
    refine ⟨fun route hroute route' hroute' => ?_, fun route hroute => ?_, fun route hroute => ?_⟩
    · obtain ⟨pair, hpair, rfl⟩ := mem_buildProxyRoutes.1 hroute
      obtain ⟨pair', hpair', rfl⟩ := mem_buildProxyRoutes.1 hroute'
      have hdynamic := (dynamicPort_of_rangeSuffices hrange hpair).1
      have hdynamic' := (dynamicPort_of_rangeSuffices hrange hpair').1
      constructor
      · intro heq
        dsimp only at heq
        rw [← heq] at hdynamic'
        exact dynamicPort_injective hdynamic hdynamic'
      · intro heq
        have heq' : pair = pair' := heq
        rw [heq']
    · obtain ⟨pair, hpair, rfl⟩ := mem_buildProxyRoutes.1 hroute
      have hle := le_of_mem_dynamicPorts (dynamicPort_of_rangeSuffices hrange hpair).2
      constructor <;> intro heq <;> dsimp only at heq <;> rw [heq] at hle <;>
        exact absurd hle (by decide)
    · obtain ⟨pair, hpair, rfl⟩ := mem_buildProxyRoutes.1 hroute
      exact h pair _ (dynamicPort_of_rangeSuffices hrange hpair).2

/-- The target port of a pair is the number of a target port. -/
theorem mem_targetNumbers {pair : UInt16 × UInt16} (h : pair ∈ portPairs services) :
    (pair.2.toNat : Int) ∈ targetNumbers services := by
  obtain ⟨service, hservice, hpair⟩ := List.mem_flatMap.1 h
  obtain ⟨port, hport, hread⟩ := List.mem_filterMap.1 hpair
  refine List.mem_flatMap.2 ⟨service, hservice, List.mem_filterMap.2 ⟨port, hport, ?_⟩⟩
  have hread : port.serviceAndTarget = some (pair.1, pair.2) := hread
  exact KubeServicePort.target_of_serviceAndTarget hread

/-- **The ports of a sidecar.** While the dynamic range suffices, the sidecar's listeners are apart
exactly if every target that is offered to a pair is one of the pair's own ports. Where no service
port lies in the range, the pair a target is offered to is the one with the target's place in the
range, less the targets before it. -/
theorem separatesPorts_iff (hrange : RangeSuffices services) :
    (SeparatesPorts services ↔
      PassesTargets (targetNumbers services) sidecarProxyDynamicPortStart
        (distinctPairs services)) ∧
    ((∀ pair ∈ distinctPairs services, pair.1.toNat < sidecarProxyDynamicPortStart) →
      (SeparatesPorts services ↔
        TargetsInTurn (targetNumbers services) sidecarProxyDynamicPortStart
          (distinctPairs services))) := by
  have hgeneral : SeparatesPorts services ↔ PassesTargets (targetNumbers services)
      sidecarProxyDynamicPortStart (distinctPairs services) := by
    rw [distinctPairs, passesTargets_firsts hrange]
    exact separatesPorts_iff_entries hrange
  refine ⟨hgeneral, fun hservice => hgeneral.trans ?_⟩
  refine passesTargets_iff_targetsInTurn hservice fun pair hpair => mem_targetNumbers ?_
  exact (firsts_sublist _ _).subset hpair

end

/-! ## A target port in the dynamic range -/

/-- A service with one port. -/
def portService (name : String) (port target : Int) : CachedClusterService Unit where
  name := name
  selector := ∅
  ports := [⟨none, port, some target, none, none, none⟩]
  serviceYaml := ()

/-- The service whose target is the first number of the range comes first, so its pair is offered
that number and passes it over. -/
theorem separatesPorts_iff_inTurn :
    SeparatesPorts [portService "admin" 81 26001, portService "web" 80 8080] := by
  have hservice : ∀ pair ∈ distinctPairs [portService "admin" 81 26001, portService "web" 80 8080],
      pair.1.toNat < sidecarProxyDynamicPortStart := by
    intro pair hpair
    have hpairs : distinctPairs [portService "admin" 81 26001, portService "web" 80 8080] =
        [(81, 26001), (80, 8080)] := rfl
    rw [hpairs] at hpair
    rcases List.mem_pair.1 hpair with rfl | rfl
    · change 81 < 26001
      omega
    · change 80 < 26001
      omega
  refine ((separatesPorts_iff (by decide)).2 hservice).2 fun d hmem pair hpair => ?_
  have htargets : targetNumbers [portService "admin" 81 26001, portService "web" 80 8080] =
      [26001, 8080] := rfl
  rw [htargets, List.mem_pair, sidecarProxyDynamicPortStart] at hmem
  obtain rfl : d = 0 := by omega
  cases hpair
  rfl

/-- The first pair is given the target port of the second. -/
theorem not_separatesPorts :
    ¬∀ services : List (CachedClusterService Unit), RangeSuffices services →
      SeparatesPorts services := by
  intro h
  have hroute : (⟨26001, 80, 8080⟩ : ProxyPortRoute) ∈
      buildProxyRoutes (some [portService "web" 80 8080, portService "admin" 81 26001]) := by decide
  exact (h [portService "web" 80 8080, portService "admin" 81 26001] (by decide)).targets _ hroute
    (by decide)

end Lapdev
