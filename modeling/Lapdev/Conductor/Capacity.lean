import Lapdev.Conductor.Scheduler
import Mathlib.Algebra.Order.BigOperators.Group.List
import Mathlib.Data.Finset.Union

/-!
# The capacity of a host

What the scheduler's recomputation says about the holders of a host. `Describes` relates the
accumulator of `get_existing_resource` to the holders it has seen, and `Capacity` is what it means
that they fit on the host. A holder whose cores were picked from what is free, for a request that
the host meets, fits too (`Capacity.cons`).
-/

namespace Lapdev

open RustStd Sql

/-- The sizes of a machine type are not negative and fit in their columns. -/
structure MachineType.Model.Fits (m : MachineType.Model) : Prop where
  cpu : 0 ≤ m.cpu ∧ m.cpu < 2 ^ 31
  memory : 0 ≤ m.memory ∧ m.memory < 2 ^ 31
  disk : 0 ≤ m.disk ∧ m.disk < 2 ^ 31

/-- The sizes of a host are not negative and fit in their columns. -/
structure WorkspaceHost.Model.Fits (h : WorkspaceHost.Model) : Prop where
  cpu : 0 ≤ h.cpu ∧ h.cpu < 2 ^ 31
  memory : 0 ≤ h.memory ∧ h.memory < 2 ^ 31
  disk : 0 ≤ h.disk ∧ h.disk < 2 ^ 31

namespace Scheduler

/-! ## Holders -/

namespace Holder

/-- The cores that a holder has to itself. -/
def dedicated (x : Holder) : Finset Nat :=
  match x.cores with
  | .dedicated cores => cores.toFinset
  | .shared _ => ∅

/-- The memory and the disk of a holder's machine type. -/
def memory (x : Holder) : Int := (x.machineType.map (·.memory)).getD 0

def disk (x : Holder) : Int := (x.machineType.map (·.disk)).getD 0

/-- A holder of a machine type on a host: dedicated cores are cores of the host, and as many as the
machine type says. -/
structure Of (x : Holder) (host : WorkspaceHost.Model) (m : MachineType.Model) : Prop where
  machineType : x.machineType = some m
  fits : m.Fits
  cores : ∀ l, x.cores = .dedicated l → x.dedicated ⊆ Finset.range host.cpu.toNat ∧
    x.dedicated.card = m.cpu.toNat

end Holder

/-- The cores that some holders have to themselves. -/
def occupied (hs : List Holder) : Finset Nat := (hs.map Holder.dedicated).foldr (· ∪ ·) ∅

@[simp] theorem mem_occupied {hs : List Holder} {i : Nat} :
    i ∈ occupied hs ↔ ∃ x ∈ hs, i ∈ x.dedicated := by
  induction hs with
  | nil => simp [occupied]
  | cons x hs ih =>
    rw [occupied, List.map_cons, List.foldr_cons, Finset.mem_union, ← occupied, ih]
    simp

/-- The cores of a host that its holders leave. -/
def free (total overcommit : Nat) (hs : List Holder) : Finset Nat :=
  if 0 < overcommit then Finset.range total \ occupied hs else ∅

/-! ## The accumulator -/

/-- What `get_existing_resource` has added up of some holders. -/
structure Describes (existing : ExistingResource) (hs : List Holder) : Prop where
  shared : ∀ e ∈ existing.cores, e.2 = false
  cores : ∀ i, (∃ e ∈ existing.cores, i ∈ e.1) ↔ i ∈ occupied hs
  memory : (existing.memory : Int) = (hs.map Holder.memory).sum
  disk : (existing.disk : Int) = (hs.map Holder.disk).sum

theorem describes_nil : Describes {} [] := ⟨by simp, by simp, rfl, rfl⟩

/-- One round of the loops. -/
theorem Describes.add {existing : ExistingResource} {hs : List Holder} {x : Holder}
    {m : MachineType.Model} (h : Describes existing hs) (hx : x.machineType = some m)
    (hfits : m.Fits) : Describes (existing.add x) (hs ++ [x]) := by
  have hmemory : (asUsize (max m.memory 0) : Int) = m.memory := by
    rw [Int.max_eq_left hfits.memory.1, asUsize_eq_toNat hfits.memory.1 (by have := hfits.memory; omega),
      Int.toNat_of_nonneg hfits.memory.1]
  have hdisk : (asUsize (max m.disk 0) : Int) = m.disk := by
    rw [Int.max_eq_left hfits.disk.1, asUsize_eq_toNat hfits.disk.1 (by have := hfits.disk; omega),
      Int.toNat_of_nonneg hfits.disk.1]
  rw [ExistingResource.add, hx]
  refine ⟨?_, ?_, ?_, ?_⟩
  · cases hcores : x.cores with
    | shared n => exact h.shared
    | dedicated cores =>
      intro e he
      rcases List.mem_append.1 he with he | he
      · exact h.shared e he
      · rw [List.mem_singleton.1 he]
  · intro i
    have hold := h.cores i
    rw [mem_occupied] at hold
    cases hcores : x.cores with
    | shared n =>
      have hnone : x.dedicated = ∅ := by rw [Holder.dedicated, hcores]
      simp only [mem_occupied, List.mem_append, List.mem_singleton, or_and_right, exists_or,
        exists_eq_left, hnone, Finset.notMem_empty, or_false]
      exact hold
    | dedicated cores =>
      have hset : x.dedicated = cores.toFinset := by rw [Holder.dedicated, hcores]
      simp only [mem_occupied, List.mem_append, List.mem_singleton, or_and_right, exists_or,
        exists_eq_left, hset, hold]
  · rw [List.map_append, List.sum_append, ← h.memory]
    simp [Holder.memory, hx, hmemory]
  · rw [List.map_append, List.sum_append, ← h.disk]
    simp [Holder.disk, hx, hdisk]

/-- A whole loop. -/
theorem Describes.foldl {existing : ExistingResource} {hs hs' : List Holder}
    (h : Describes existing hs)
    (htypes : ∀ x ∈ hs', ∃ m : MachineType.Model, x.machineType = some m ∧ m.Fits) :
    Describes (hs'.foldl .add existing) (hs ++ hs') := by
  induction hs' generalizing existing hs with
  | nil => simpa using h
  | cons x hs' ih =>
    obtain ⟨m, hx, hfits⟩ := htypes x List.mem_cons_self
    have hrest := ih (h.add hx hfits) fun y hy => htypes y (List.mem_cons_of_mem _ hy)
    rwa [List.append_assoc] at hrest

/-- The cores that `available_cores` finds are those that are free. -/
theorem Describes.available {existing : ExistingResource} {hs : List Holder}
    (h : Describes existing hs) (total overcommit : Nat) :
    (availableCores total overcommit existing.cores).available =
      (free total overcommit hs).image fun i => (i, 0) := by
  have hall : ∀ (l : List (Finset Nat × Bool)) (all : Finset Nat), (∀ e ∈ l, e.2 = false) →
      ∀ i, i ∈ l.foldl (fun all e => if !e.2 then all \ e.1 else all) all ↔
        i ∈ all ∧ ∀ e ∈ l, i ∉ e.1 := by
    intro l
    induction l with
    | nil => simp
    | cons e l ih =>
      intro all hl i
      have he := hl e List.mem_cons_self
      rw [List.foldl_cons, ih _ fun e' he' => hl e' (List.mem_cons_of_mem _ he'), he]
      simp [and_assoc]
  have hnum : ∀ (l : List (Finset Nat × Bool)) (num : Finset (Nat × Nat)), (∀ e ∈ l, e.2 = false) →
      l.foldl (fun num e =>
        if e.2 then num.image fun c => if c.1 ∈ e.1 then (c.1, c.2 + 1) else c else num) num =
        num := by
    intro l
    induction l with
    | nil => exact fun _ _ => rfl
    | cons e l ih =>
      intro num hl
      rw [List.foldl_cons, hl e List.mem_cons_self, if_neg Bool.false_ne_true,
        ih _ fun e' he' => hl e' (List.mem_cons_of_mem _ he')]
  ext ⟨i, n⟩
  have hi := h.cores i
  simp only [availableCores, hnum _ _ h.shared, Finset.mem_filter, Finset.mem_image,
    hall _ _ h.shared, Prod.mk.injEq, free]
  by_cases hover : 0 < overcommit
  · simp only [if_pos hover, Finset.mem_sdiff]
    constructor
    · rintro ⟨⟨j, ⟨hj, hfree⟩, rfl, rfl⟩, -⟩
      refine ⟨j, ⟨hj, fun hocc => ?_⟩, rfl, rfl⟩
      obtain ⟨e, he, hmem⟩ := hi.2 hocc
      exact hfree e he hmem
    · rintro ⟨j, ⟨hj, hfree⟩, rfl, rfl⟩
      exact ⟨⟨j, ⟨hj, fun e he hmem => hfree (hi.1 ⟨e, he, hmem⟩)⟩, rfl, rfl⟩, hover⟩
  · simp only [if_neg hover, Finset.notMem_empty, false_and, exists_false, iff_false, not_and]
    omega

/-- These are all dedicated. -/
theorem Describes.dedicated {existing : ExistingResource} {hs : List Holder}
    (h : Describes existing hs) (total overcommit : Nat) :
    (availableCores total overcommit existing.cores).dedicated = free total overcommit hs := by
  rw [AvailableCore.dedicated, h.available]
  ext i
  simp

theorem Describes.card_available {existing : ExistingResource} {hs : List Holder}
    (h : Describes existing hs) (total overcommit : Nat) :
    (availableCores total overcommit existing.cores).available.card =
      (free total overcommit hs).card := by
  rw [h.available, Finset.card_image_of_injective _ fun i j hij => (Prod.mk.inj hij).1]

/-! ## What fits -/

/-- The holders of a host fit on it: their dedicated cores are disjoint cores of the host, as many
as their machine types say, and neither memory nor disk is given out twice. -/
structure Capacity (host : WorkspaceHost.Model) (hs : List Holder) : Prop where
  types : ∀ x ∈ hs, ∃ m, x.Of host m
  disjoint : hs.Pairwise fun x y => Disjoint x.dedicated y.dedicated
  memory : (hs.map Holder.memory).sum ≤ host.memory
  disk : (hs.map Holder.disk).sum ≤ host.disk

section Capacity

variable {host : WorkspaceHost.Model} {hs hs' : List Holder}

theorem Holder.Of.memory_eq {x : Holder} {m : MachineType.Model} (h : x.Of host m) :
    x.memory = m.memory ∧ x.disk = m.disk := by
  rw [Holder.memory, Holder.disk, h.machineType]
  exact ⟨rfl, rfl⟩

theorem Capacity.types_fit (h : Capacity host hs) :
    ∀ x ∈ hs, ∃ m : MachineType.Model, x.machineType = some m ∧ m.Fits := by
  intro x hx
  obtain ⟨m, hm⟩ := h.types x hx
  exact ⟨m, hm.machineType, hm.fits⟩

/-- The order of the holders does not matter. -/
theorem Capacity.perm (h : Capacity host hs) (hperm : hs'.Perm hs) : Capacity host hs' where
  types x hx := h.types x (hperm.mem_iff.1 hx)
  disjoint := (hperm.pairwise_iff fun hxy => hxy.symm).2 h.disjoint
  memory := by rw [(hperm.map _).sum_eq]; exact h.memory
  disk := by rw [(hperm.map _).sum_eq]; exact h.disk

/-- Some of the holders fit where all of them do. -/
theorem Capacity.sublist (h : Capacity host hs) (hsub : hs'.Sublist hs) : Capacity host hs' where
  types x hx := h.types x (hsub.subset hx)
  disjoint := h.disjoint.sublist hsub
  memory := by
    refine le_trans (List.Sublist.sum_le_sum (hsub.map _) fun n hn => ?_) h.memory
    obtain ⟨x, hx, rfl⟩ := List.mem_map.1 hn
    obtain ⟨m, hm⟩ := h.types x hx
    rw [hm.memory_eq.1]
    exact hm.fits.memory.1
  disk := by
    refine le_trans (List.Sublist.sum_le_sum (hsub.map _) fun n hn => ?_) h.disk
    obtain ⟨x, hx, rfl⟩ := List.mem_map.1 hn
    obtain ⟨m, hm⟩ := h.types x hx
    rw [hm.memory_eq.2]
    exact hm.fits.disk.1

/-- The columns of what is available do not matter. -/
theorem Capacity.congr {host' : WorkspaceHost.Model} (h : Capacity host hs)
    (hcpu : host'.cpu = host.cpu) (hmemory : host'.memory = host.memory)
    (hdisk : host'.disk = host.disk) : Capacity host' hs where
  types x hx := by
    obtain ⟨m, hm⟩ := h.types x hx
    refine ⟨m, hm.machineType, hm.fits, ?_⟩
    rw [hcpu]
    exact hm.cores
  disjoint := h.disjoint
  memory := by rw [hmemory]; exact h.memory
  disk := by rw [hdisk]; exact h.disk

/-- What is asked of a host for a machine type. -/
def HostRequest.ofMachineType (m : MachineType.Model) (shared : Bool) (region : String) :
    HostRequest where
  shared := shared
  cpu := asUsize m.cpu
  memory := asUsize m.memory
  disk := asUsize m.disk
  region := region

/-- A stored column says what is left. -/
theorem left_of_stored {size taken : Int} {n : Nat} (hsize : size < 2 ^ 31) (htaken : taken ≤ size)
    (hn : (n : Int) = taken) : asI32 (size - asI32 n) = size - taken := by
  have htaken' : asI32 taken = taken := asI32_eq_self (by omega) (by omega)
  rw [hn, htaken', asI32_eq_self (by omega) (by omega)]

/-- The request of a machine type that a host meets by its stored columns has room for the memory
and the disk of the machine type. -/
theorem room_of_meets {existing : ExistingResource} {cpuOvercommit : Nat} {m : MachineType.Model}
    {shared : Bool} {region : String} (h : Capacity host hs) (hfits : host.Fits) (hm : m.Fits)
    (hdesc : Describes existing hs) (hstored : recalculated cpuOvercommit host existing = host)
    (hmeets : (HostRequest.ofMachineType m shared region).meets host = true) :
    m.memory + (hs.map Holder.memory).sum ≤ host.memory ∧
      m.disk + (hs.map Holder.disk).sum ≤ host.disk := by
  have hcast : ∀ n : Int, 0 ≤ n → n < 2 ^ 31 → asI32 (asUsize n) = n := by
    intro n hn hlt
    rw [asUsize_eq_toNat hn (by omega), Int.toNat_of_nonneg hn, asI32_eq_self hn hlt]
  simp only [HostRequest.meets, HostRequest.ofMachineType, Bool.and_eq_true, decide_eq_true_eq,
    ge_iff_le, hcast _ hm.memory.1 hm.memory.2, hcast _ hm.disk.1 hm.disk.2] at hmeets
  obtain ⟨⟨⟨-, hmemory⟩, hdisk⟩, -⟩ := hmeets
  have hmem : host.availableMemory = host.memory - (hs.map Holder.memory).sum := by
    rw [← left_of_stored hfits.memory.2 h.memory hdesc.memory]
    exact (congrArg WorkspaceHost.Model.availableMemory hstored).symm
  have hdsk : host.availableDisk = host.disk - (hs.map Holder.disk).sum := by
    rw [← left_of_stored hfits.disk.2 h.disk hdesc.disk]
    exact (congrArg WorkspaceHost.Model.availableDisk hstored).symm
  omega

/-- A holder whose cores were picked from what is free fits beside the others. -/
theorem Capacity.cons {existing existing' : ExistingResource} {cpuOvercommit : Nat}
    {m : MachineType.Model} {shared : Bool} {region : String} {seed : RandomState Nat}
    {cores : CpuCore} (h : Capacity host hs) (hfits : host.Fits) (hm : m.Fits)
    (hdesc : Describes existing hs) (hstored : recalculated cpuOvercommit host existing = host)
    (hmeets : (HostRequest.ofMachineType m shared region).meets host = true)
    (hdesc' : Describes existing' hs)
    (hpick : pickCores seed cpuOvercommit (.ofMachineType m shared region) host existing' =
      some cores) : Capacity host (⟨cores, some m⟩ :: hs) := by
  have hcpu : asUsize host.cpu = host.cpu.toNat :=
    asUsize_eq_toNat hfits.cpu.1 (by have := hfits.cpu; omega)
  have hcount : asUsize m.cpu = m.cpu.toNat := asUsize_eq_toNat hm.cpu.1 (by have := hm.cpu; omega)
  have hpicked : (∃ n, cores = .shared n) ∨ ∃ l : List Nat, cores = .dedicated l ∧ l.Nodup ∧
      l.length = m.cpu.toNat ∧ ∀ i ∈ l, i ∈ free host.cpu.toNat cpuOvercommit hs := by
    rw [pickCores] at hpick
    split at hpick
    · dsimp only at hpick
      rw [hdesc'.dedicated, hcpu] at hpick
      split at hpick
      · cases hpick
      · next hlength =>
        cases hpick
        have hnodup : (seed.arrange ((free host.cpu.toNat cpuOvercommit hs).sort (· ≤ ·))).Nodup :=
          (seed.arrange_perm _).nodup_iff.2 (Finset.sort_nodup _ _)
        refine .inr ⟨_, rfl, hnodup.sublist (List.take_sublist _ _),
          (not_not.1 hlength).trans hcount, fun i hi => ?_⟩
        exact (Finset.mem_sort _).1 (seed.mem_arrange.1 (List.mem_of_mem_take hi))
    · cases hpick
      exact .inl ⟨_, rfl⟩
  obtain ⟨hmemory, hdisk⟩ := room_of_meets h hfits hm hdesc hstored hmeets
  have hfree : ∀ i ∈ (⟨cores, some m⟩ : Holder).dedicated,
      i < host.cpu.toNat ∧ i ∉ occupied hs := by
    intro i hi
    rcases hpicked with ⟨n, rfl⟩ | ⟨l, rfl, -, -, hl⟩
    · exact absurd hi (Finset.notMem_empty i)
    · have hmem := hl i (List.mem_toFinset.1 hi)
      rw [free] at hmem
      split at hmem
      · rw [Finset.mem_sdiff, Finset.mem_range] at hmem
        exact hmem
      · exact absurd hmem (Finset.notMem_empty i)
  refine ⟨?_, ?_, ?_, ?_⟩
  · intro x hx
    rcases List.mem_cons.1 hx with rfl | hx
    · refine ⟨m, rfl, hm, fun l hl => ⟨fun i hi => Finset.mem_range.2 (hfree i hi).1, ?_⟩⟩
      rcases hpicked with ⟨n, rfl⟩ | ⟨l', rfl, hnodup, hlength, -⟩
      · cases hl
      · exact (List.toFinset_card_of_nodup hnodup).trans hlength
    · exact h.types x hx
  · refine List.pairwise_cons.2 ⟨fun y hy => ?_, h.disjoint⟩
    exact Finset.disjoint_left.2 fun i hi hiy => (hfree i hi).2 (mem_occupied.2 ⟨y, hy, hiy⟩)
  · simpa [Holder.memory] using hmemory
  · simpa [Holder.disk] using hdisk

end Capacity

end Scheduler

end Lapdev
