import Lapdev.RustStd.Net
import Lapdev.RustStd.Str

/-!
# Synthetic addresses

The devbox gives every service an address of `127.77.0.0/16`. Source: `devbox/dns/ip_allocator.rs`
of `lapdev-cli`. An address is the base and an offset in its last two octets; an offset is in use,
or freed, or not yet issued (`Consistent.exactlyOne`). `consistent_of_ops` keeps the allocator's two
maps, its pool and its counter together over any sequence of calls. The counter is a `u16` that
wraps once, from the last offset to `0`, which is how the allocator knows that it has issued all of
them.
-/

namespace Lapdev

open RustStd

/-- Source: `SyntheticIpAllocator`. -/
structure SyntheticIpAllocator where
  base : Ipv4Addr
  nextOffset : UInt16
  allocated : HashMap Str IpAddr
  reverse : HashMap IpAddr Str
  freePool : HashSet UInt16

namespace SyntheticIpAllocator

/-- Source: `new`. -/
def new : SyntheticIpAllocator := ⟨⟨127, 77, 0, 0⟩, 1, ∅, ∅, ∅⟩

/-- `format!("{}.{}", service_name, namespace)`. -/
def serviceKey (serviceName namespace_ : Str) : Str := serviceName ++ '.' :: namespace_

/-- The address that `allocate` makes of an offset. -/
def address (base : Ipv4Addr) (offset : UInt16) : Ipv4Addr :=
  ⟨base.a, base.b, base.c + (offset >>> 8).toUInt8, (offset &&& 0xFF).toUInt8⟩

/-- The offset that `deallocate` reads off an address. -/
def offsetOf (base ip : Ipv4Addr) : UInt16 :=
  saturatingSub ip.c.toUInt16 base.c.toUInt16 <<< 8 ||| ip.d.toUInt16

/-- The offset of a new address, from the pool or from the counter. The first of the pool's walk is
taken, in the order of the seed `rs`. -/
def takeOffset (rs : RandomState UInt16) (s : SyntheticIpAllocator) :
    Option (UInt16 × SyntheticIpAllocator) :=
  match s.freePool.next rs with
  | some offset => some (offset, { s with freePool := s.freePool.erase offset })
  | none =>
    if s.nextOffset = 0 then none
    else some (s.nextOffset, { s with nextOffset := s.nextOffset + 1 })

/-- Source: `allocate`. -/
def allocate (rs : RandomState UInt16) (serviceName namespace_ : Str) (s : SyntheticIpAllocator) :
    Option IpAddr × SyntheticIpAllocator :=
  let key := serviceKey serviceName namespace_
  match s.allocated.lookup key with
  | some ip => (some ip, s)
  | none =>
    match s.takeOffset rs with
    | none => (none, s)
    | some (offset, s) =>
      let ip := .v4 (address s.base offset)
      (some ip, { s with
        allocated := s.allocated.insert key ip
        reverse := s.reverse.insert ip key })

/-- Source: `deallocate`. -/
def deallocate (serviceName namespace_ : Str) (s : SyntheticIpAllocator) : SyntheticIpAllocator :=
  let key := serviceKey serviceName namespace_
  match s.allocated.lookup key with
  | none => s
  | some ip =>
    let s := { s with allocated := s.allocated.erase key, reverse := s.reverse.erase ip }
    match ip with
    | .v4 ipv4 =>
      let offset := offsetOf s.base ipv4
      if offset ≠ 0 then { s with freePool := s.freePool.insert offset () } else s
    | .v6 _ => s

/-- Source: `clear`. -/
def clear (s : SyntheticIpAllocator) : SyntheticIpAllocator :=
  { s with allocated := ∅, reverse := ∅, freePool := ∅, nextOffset := 1 }

/-- Source: `lookup_ip`. -/
def lookupIp (ip : IpAddr) (s : SyntheticIpAllocator) : Option Str := s.reverse.lookup ip

/-- A call of the allocator. The order of the pool is one of each call. -/
inductive Op
  | allocate (rs : RandomState UInt16) (serviceName namespace_ : Str)
  | deallocate (serviceName namespace_ : Str)
  | clear
  | lookupIp (ip : IpAddr)

/-- The allocator after a call. -/
def exec (s : SyntheticIpAllocator) : Op → SyntheticIpAllocator
  | .allocate rs serviceName namespace_ => (s.allocate rs serviceName namespace_).2
  | .deallocate serviceName namespace_ => s.deallocate serviceName namespace_
  | .clear => s.clear
  | .lookupIp _ => s

/-- The allocator after some calls. -/
def after (ops : List Op) : SyntheticIpAllocator := ops.foldl exec new

/-! ## What holds of an allocator -/

/-- A service has the address of the offset. -/
def InUse (s : SyntheticIpAllocator) (offset : UInt16) : Prop :=
  ∃ key, s.allocated.lookup key = some (.v4 (address s.base offset))

/-- The offset was given back. -/
def Free (s : SyntheticIpAllocator) (offset : UInt16) : Prop := offset ∈ s.freePool

/-- The counter has not passed the offset. -/
def Unissued (s : SyntheticIpAllocator) (offset : UInt16) : Prop :=
  s.nextOffset ≠ 0 ∧ s.nextOffset ≤ offset

/-- The two maps, the pool and the counter fit together. In the middle of a call one offset is held:
it has left the pool or the counter, or a service, and is not yet where it goes. -/
structure Consistent (held : Option UInt16) (s : SyntheticIpAllocator) : Prop where
  base : s.base = ⟨127, 77, 0, 0⟩
  inverse : ∀ key ip, s.allocated.lookup key = some ip ↔ s.reverse.lookup ip = some key
  addressed : ∀ key ip, s.allocated.lookup key = some ip → ∃ o, o ≠ 0 ∧ ip = .v4 (address s.base o)
  free_ne_zero : ¬s.Free 0
  not_free : ∀ o, s.InUse o → ¬s.Free o
  not_unissued : ∀ o, s.InUse o ∨ s.Free o → ¬s.Unissued o
  held_idle : ∀ o, held = some o → o ≠ 0 ∧ ¬s.InUse o ∧ ¬s.Free o ∧ ¬s.Unissued o
  issued : ∀ o, o ≠ 0 → held ≠ some o → ¬s.Unissued o → s.InUse o ∨ s.Free o

/-- The offset is read back off its address. -/
theorem offsetOf_address (o : UInt16) :
    offsetOf ⟨127, 77, 0, 0⟩ (address ⟨127, 77, 0, 0⟩ o) = o := by
  have hhigh : ∀ n : UInt8, saturatingSub n.toUInt16 (0 : UInt8).toUInt16 = n.toUInt16 := by
    intro n
    rw [saturatingSub, if_neg (by simp)]
    simp
  rw [address, offsetOf, UInt8.zero_add, hhigh, bytes_or]

theorem address_injective {o o' : UInt16}
    (h : address ⟨127, 77, 0, 0⟩ o = address ⟨127, 77, 0, 0⟩ o') : o = o' := by
  rw [← offsetOf_address o, h, offsetOf_address]

/-! ## The two halves of a call -/

section
variable {s : SyntheticIpAllocator} {key : Str} {ip : IpAddr} {o : UInt16}

/-- Where an offset comes from. -/
theorem takeOffset_cases {rs : RandomState UInt16} {s' : SyntheticIpAllocator}
    (h : s.takeOffset rs = some (o, s')) :
    (s.Free o ∧ s' = { s with freePool := s.freePool.erase o }) ∨
      ((∀ o', ¬s.Free o') ∧ s.nextOffset ≠ 0 ∧ o = s.nextOffset ∧
        s' = { s with nextOffset := s.nextOffset + 1 }) := by
  unfold takeOffset at h
  split at h
  · next offset hnext =>
    cases h
    exact .inl ⟨HashSet.mem_of_next hnext, rfl⟩
  · next hnext =>
    split at h
    · cases h
    · next hzero =>
      cases h
      exact .inr ⟨HashSet.next_eq_none hnext, hzero, rfl, rfl⟩

/-- No offset is left only where the pool is empty and the counter has wrapped. -/
theorem takeOffset_eq_none {rs : RandomState UInt16} (h : s.takeOffset rs = none) :
    (∀ o, ¬s.Free o) ∧ s.nextOffset = 0 := by
  unfold takeOffset at h
  split at h
  · cases h
  · next hnext =>
    split at h
    · next hzero => exact ⟨HashSet.next_eq_none hnext, hzero⟩
    · cases h

/-- The counter passes one offset at a time. -/
theorem unissued_next_iff (hnext : s.nextOffset ≠ 0) :
    ({ s with nextOffset := s.nextOffset + 1 } : SyntheticIpAllocator).Unissued o ↔
      s.Unissued o ∧ o ≠ s.nextOffset := by
  have hn := s.nextOffset.toNat_lt
  have ho := o.toNat_lt
  have hpos : s.nextOffset.toNat ≠ 0 := fun h => hnext (UInt16.toNat_inj.1 h)
  simp only [Unissued, ne_eq, UInt16.le_iff_toNat_le, ← UInt16.toNat_inj, UInt16.toNat_add,
    UInt16.toNat_ofNat]
  omega

theorem Consistent.takeOffset {rs : RandomState UInt16} {s' : SyntheticIpAllocator}
    (h : Consistent none s) (htake : s.takeOffset rs = some (o, s')) : Consistent (some o) s' := by
  rcases takeOffset_cases htake with ⟨hfree, rfl⟩ | ⟨hempty, hnext, rfl, rfl⟩
  · have hzero : o ≠ 0 := fun ho => h.free_ne_zero (ho ▸ hfree)
    have hmem : ∀ o', o' ∈ s.freePool.erase o ↔ o' ≠ o ∧ o' ∈ s.freePool := fun o' => AList.mem_erase
    refine ⟨h.base, h.inverse, h.addressed, ?_, ?_, ?_, ?_, ?_⟩
    · exact fun h0 => h.free_ne_zero ((hmem 0).1 h0).2
    · exact fun o' huse hf => h.not_free o' huse ((hmem o').1 hf).2
    · exact fun o' hor => h.not_unissued o' (hor.imp_right fun hf => ((hmem o').1 hf).2)
    · rintro o' ⟨⟩
      exact ⟨hzero, fun huse => h.not_free o huse hfree, fun hf => ((hmem o).1 hf).1 rfl,
        h.not_unissued o (.inr hfree)⟩
    · intro o' ho' hheld hissued
      rcases h.issued o' ho' (by simp) hissued with huse | hf
      · exact .inl huse
      · exact .inr ((hmem o').2 ⟨fun heq => hheld (heq ▸ rfl), hf⟩)
  · have hself : s.Unissued s.nextOffset := ⟨hnext, UInt16.le_refl _⟩
    refine ⟨h.base, h.inverse, h.addressed, h.free_ne_zero, h.not_free, ?_, ?_, ?_⟩
    · intro o' hor hun
      exact h.not_unissued o' hor ((unissued_next_iff hnext).1 hun).1
    · rintro o' ⟨⟩
      exact ⟨hnext, fun huse => h.not_unissued _ (.inl huse) hself, hempty _,
        fun hun => ((unissued_next_iff hnext).1 hun).2 rfl⟩
    · intro o' ho' hheld hissued
      refine h.issued o' ho' (by simp) fun hun => hissued ?_
      exact (unissued_next_iff hnext).2 ⟨hun, fun heq => hheld (heq ▸ rfl)⟩

/-- A service takes the held offset. -/
theorem Consistent.store (h : Consistent (some o) s) (hkey : s.allocated.lookup key = none) :
    Consistent none { s with
      allocated := s.allocated.insert key (.v4 (address s.base o))
      reverse := s.reverse.insert (.v4 (address s.base o)) key } := by
  obtain ⟨hzero, hidle, hpool, hissued⟩ := h.held_idle o rfl
  have hinUse : ∀ o', InUse { s with
      allocated := s.allocated.insert key (.v4 (address s.base o))
      reverse := s.reverse.insert (.v4 (address s.base o)) key } o' ↔ o' = o ∨ s.InUse o' := by
    intro o'
    constructor
    · rintro ⟨key', hkey'⟩
      rw [HashMap.lookup_insert] at hkey'
      split at hkey'
      · have haddress := IpAddr.v4.inj (Option.some.inj hkey')
        rw [h.base] at haddress
        exact .inl (address_injective haddress).symm
      · exact .inr ⟨key', hkey'⟩
    · rintro (rfl | ⟨key', hkey'⟩)
      · exact ⟨key, by rw [HashMap.lookup_insert, if_pos rfl]⟩
      · refine ⟨key', ?_⟩
        rw [HashMap.lookup_insert, if_neg, hkey']
        rintro rfl
        rw [hkey] at hkey'
        cases hkey'
  refine ⟨h.base, ?_, ?_, h.free_ne_zero, ?_, ?_, nofun, ?_⟩
  · intro key' ip
    rw [HashMap.lookup_insert, HashMap.lookup_insert]
    by_cases hk : key' = key
    · subst hk
      by_cases hip : ip = .v4 (address s.base o)
      · simp [hip]
      · rw [if_pos rfl, if_neg hip, ← h.inverse, hkey]
        simp [eq_comm, hip]
    · rw [if_neg hk, h.inverse]
      split
      · next hip =>
        subst hip
        rw [← h.inverse]
        constructor
        · exact fun hlookup => absurd ⟨key', hlookup⟩ hidle
        · exact fun heq => absurd (Option.some.inj heq).symm hk
      · rfl
  · intro key' ip hlookup
    rw [HashMap.lookup_insert] at hlookup
    split at hlookup
    · exact ⟨o, hzero, (Option.some.inj hlookup).symm⟩
    · exact h.addressed key' ip hlookup
  · intro o' huse hfree
    rcases (hinUse o').1 huse with rfl | huse
    · exact hpool hfree
    · exact h.not_free o' huse hfree
  · rintro o' (huse | hfree)
    · rcases (hinUse o').1 huse with rfl | huse
      · exact hissued
      · exact h.not_unissued o' (.inl huse)
    · exact h.not_unissued o' (.inr hfree)
  · intro o' ho' _ hnot
    by_cases heq : o' = o
    · exact .inl ((hinUse o').2 (.inl heq))
    · rcases h.issued o' ho' (fun hheld => heq (Option.some.inj hheld).symm) hnot with huse | hfree
      · exact .inl ((hinUse o').2 (.inr huse))
      · exact .inr hfree

/-- A service gives its offset back: it is held. -/
theorem Consistent.release (h : Consistent none s)
    (hkey : s.allocated.lookup key = some (.v4 (address s.base o))) (hzero : o ≠ 0) :
    Consistent (some o) { s with
      allocated := s.allocated.erase key
      reverse := s.reverse.erase (.v4 (address s.base o)) } := by
  have hown : ∀ key', s.allocated.lookup key' = some (.v4 (address s.base o)) → key' = key := by
    intro key' hkey'
    have := ((h.inverse _ _).1 hkey').symm.trans ((h.inverse _ _).1 hkey)
    exact Option.some.inj this
  have hinUse : ∀ o', InUse { s with
      allocated := s.allocated.erase key
      reverse := s.reverse.erase (.v4 (address s.base o)) } o' ↔ o' ≠ o ∧ s.InUse o' := by
    intro o'
    constructor
    · rintro ⟨key', hkey'⟩
      rw [HashMap.lookup_erase] at hkey'
      split at hkey'
      · cases hkey'
      · next hne =>
        refine ⟨?_, key', hkey'⟩
        rintro rfl
        exact hne (hown key' hkey')
    · rintro ⟨hne, key', hkey'⟩
      refine ⟨key', ?_⟩
      rw [HashMap.lookup_erase, if_neg, hkey']
      rintro rfl
      rw [hkey] at hkey'
      have haddress := IpAddr.v4.inj (Option.some.inj hkey')
      rw [h.base] at haddress
      exact hne (address_injective haddress).symm
  have huse : s.InUse o := ⟨key, hkey⟩
  refine ⟨h.base, ?_, ?_, h.free_ne_zero, ?_, ?_, ?_, ?_⟩
  · intro key' ip
    rw [HashMap.lookup_erase, HashMap.lookup_erase]
    by_cases hk : key' = key
    · subst hk
      rw [if_pos rfl]
      split
      · simp
      · next hip =>
        rw [← h.inverse, hkey]
        simp [eq_comm, hip]
    · rw [if_neg hk, h.inverse]
      split
      · next hip =>
        subst hip
        rw [← h.inverse]
        simpa using fun hkey' => hk (hown key' hkey')
      · rfl
  · intro key' ip hlookup
    rw [HashMap.lookup_erase] at hlookup
    split at hlookup
    · cases hlookup
    · exact h.addressed key' ip hlookup
  · exact fun o' hin hfree => h.not_free o' ((hinUse o').1 hin).2 hfree
  · rintro o' (hin | hfree)
    · exact h.not_unissued o' (.inl ((hinUse o').1 hin).2)
    · exact h.not_unissued o' (.inr hfree)
  · rintro o' ⟨⟩
    exact ⟨hzero, fun hin => ((hinUse o).1 hin).1 rfl, h.not_free o huse,
      h.not_unissued o (.inl huse)⟩
  · intro o' ho' hheld hnot
    rcases h.issued o' ho' nofun hnot with hin | hfree
    · exact .inl ((hinUse o').2 ⟨fun heq => hheld (heq ▸ rfl), hin⟩)
    · exact .inr hfree

/-- The held offset goes to the pool. -/
theorem Consistent.free (h : Consistent (some o) s) :
    Consistent none { s with freePool := s.freePool.insert o () } := by
  obtain ⟨hzero, hidle, hpool, hissued⟩ := h.held_idle o rfl
  have hfree : ∀ o', Free { s with freePool := s.freePool.insert o () } o' ↔
      o' = o ∨ s.Free o' := fun o' => AList.mem_insert s.freePool
  refine ⟨h.base, h.inverse, h.addressed, ?_, ?_, ?_, nofun, ?_⟩
  · intro h0
    rcases (hfree 0).1 h0 with h0 | h0
    · exact hzero h0.symm
    · exact h.free_ne_zero h0
  · intro o' huse hf
    rcases (hfree o').1 hf with rfl | hf
    · exact hidle huse
    · exact h.not_free o' huse hf
  · rintro o' (huse | hf)
    · exact h.not_unissued o' (.inl huse)
    · rcases (hfree o').1 hf with rfl | hf
      · exact hissued
      · exact h.not_unissued o' (.inr hf)
  · intro o' ho' _ hnot
    by_cases heq : o' = o
    · exact .inr ((hfree o').2 (.inl heq))
    · refine (h.issued o' ho' ?_ hnot).imp_right fun hf => (hfree o').2 (.inr hf)
      exact fun hheld => heq (Option.some.inj hheld).symm

/-! ## Calls -/

variable {rs : RandomState UInt16} {serviceName namespace_ : Str}

/-- What a call of `allocate` does. -/
theorem allocate_cases (rs : RandomState UInt16) (serviceName namespace_ : Str)
    (s : SyntheticIpAllocator) :
    (∃ ip, s.allocated.lookup (serviceKey serviceName namespace_) = some ip ∧
      s.allocate rs serviceName namespace_ = (some ip, s)) ∨
    (s.allocated.lookup (serviceKey serviceName namespace_) = none ∧ s.takeOffset rs = none ∧
      s.allocate rs serviceName namespace_ = (none, s)) ∨
    ∃ o s', s.allocated.lookup (serviceKey serviceName namespace_) = none ∧
      s.takeOffset rs = some (o, s') ∧
      s.allocate rs serviceName namespace_ = (some (.v4 (address s'.base o)), { s' with
        allocated := s'.allocated.insert (serviceKey serviceName namespace_)
          (.v4 (address s'.base o))
        reverse := s'.reverse.insert (.v4 (address s'.base o))
          (serviceKey serviceName namespace_) }) := by
  rcases hkey : s.allocated.lookup (serviceKey serviceName namespace_) with _ | ip
  · rcases htake : s.takeOffset rs with _ | ⟨o, s'⟩
    · exact .inr (.inl ⟨rfl, rfl, by simp only [allocate, hkey, htake]⟩)
    · exact .inr (.inr ⟨o, s', rfl, rfl, by simp only [allocate, hkey, htake]⟩)
  · exact .inl ⟨ip, rfl, by simp only [allocate, hkey]⟩

theorem allocated_takeOffset {s' : SyntheticIpAllocator} (h : s.takeOffset rs = some (o, s')) :
    s'.allocated = s.allocated := by
  rcases takeOffset_cases h with ⟨_, rfl⟩ | ⟨_, _, _, rfl⟩ <;> rfl

theorem Consistent.allocate (h : Consistent none s) :
    Consistent none (s.allocate rs serviceName namespace_).2 := by
  rcases allocate_cases rs serviceName namespace_ s with ⟨ip, _, heq⟩ | ⟨_, _, heq⟩ |
    ⟨o, s', hkey, htake, heq⟩
  · rw [heq]
    exact h
  · rw [heq]
    exact h
  · rw [heq]
    refine (h.takeOffset htake).store ?_
    rw [allocated_takeOffset htake, hkey]

theorem Consistent.deallocate (h : Consistent none s) :
    Consistent none (s.deallocate serviceName namespace_) := by
  rcases hkey : s.allocated.lookup (serviceKey serviceName namespace_) with _ | ip
  · simpa only [SyntheticIpAllocator.deallocate, hkey] using h
  · obtain ⟨o, hzero, rfl⟩ := h.addressed _ _ hkey
    have hoffset : offsetOf s.base (address s.base o) = o := by rw [h.base, offsetOf_address]
    simp only [SyntheticIpAllocator.deallocate, hkey, hoffset, if_pos hzero]
    exact (h.release hkey hzero).free

/-- Only the base is kept by `clear`. -/
theorem consistent_clear (hbase : s.base = ⟨127, 77, 0, 0⟩) : Consistent none s.clear := by
  have hkeys : ∀ (key : Str) (ip : IpAddr), s.clear.allocated.lookup key ≠ some ip := by
    simp [clear]
  have huse : ∀ o, ¬s.clear.InUse o := fun o ⟨key, hkey⟩ => hkeys key _ hkey
  have hpool : ∀ o, ¬s.clear.Free o := fun o => AList.notMem_empty o
  refine ⟨hbase, ?_, fun key ip hkey => absurd hkey (hkeys key ip), hpool 0,
    fun o hin => absurd hin (huse o), ?_, nofun, ?_⟩
  · intro key ip
    simp [clear]
  · rintro o (hin | hfree)
    · exact absurd hin (huse o)
    · exact absurd hfree (hpool o)
  · intro o ho _ hnot
    refine absurd ⟨by simp [clear], ?_⟩ hnot
    have hpos : o.toNat ≠ 0 := fun h0 => ho (UInt16.toNat_inj.1 h0)
    rw [UInt16.le_iff_toNat_le]
    exact Nat.one_le_iff_ne_zero.2 hpos

theorem Consistent.exec (h : Consistent none s) (op : Op) : Consistent none (s.exec op) := by
  cases op with
  | allocate rs serviceName namespace_ => exact h.allocate
  | deallocate serviceName namespace_ => exact h.deallocate
  | clear => exact consistent_clear h.base
  | lookupIp ip => exact h

/-- The allocator is consistent after any calls. -/
theorem consistent_of_ops (ops : List Op) : Consistent none (after ops) := by
  have hrun : ∀ s, Consistent none s → Consistent none (ops.foldl SyntheticIpAllocator.exec s) := by
    induction ops with
    | nil => exact fun s h => h
    | cons op ops ih => exact fun s h => ih _ (h.exec op)
  exact hrun new (consistent_clear (s := new) rfl)

/-- An address that was given out is looked up. -/
theorem Consistent.lookupIp_allocate (h : Consistent none s)
    (halloc : (s.allocate rs serviceName namespace_).1 = some ip) :
    (s.allocate rs serviceName namespace_).2.lookupIp ip =
      some (serviceKey serviceName namespace_) := by
  rcases allocate_cases rs serviceName namespace_ s with ⟨ip', hkey, heq⟩ | ⟨_, _, heq⟩ |
    ⟨o, s', _, _, heq⟩
  · rw [heq] at halloc ⊢
    cases halloc
    exact (h.inverse _ _).1 hkey
  · rw [heq] at halloc
    cases halloc
  · rw [heq] at halloc ⊢
    cases halloc
    rw [lookupIp, HashMap.lookup_insert, if_pos rfl]

/-! ## What every sequence of calls keeps -/

/-- One of three conditions holds, and no other of them. -/
def ExactlyOne (p q r : Prop) : Prop := (p ∧ ¬q ∧ ¬r) ∨ (¬p ∧ q ∧ ¬r) ∨ (¬p ∧ ¬q ∧ r)

theorem Consistent.exactlyOne (h : Consistent none s) (hzero : o ≠ 0) :
    ExactlyOne (s.InUse o) (s.Free o) (s.Unissued o) := by
  by_cases hun : s.Unissued o
  · exact .inr (.inr ⟨fun huse => h.not_unissued o (.inl huse) hun,
      fun hfree => h.not_unissued o (.inr hfree) hun, hun⟩)
  · rcases h.issued o hzero nofun hun with huse | hfree
    · exact .inl ⟨huse, h.not_free o huse, hun⟩
    · exact .inr (.inl ⟨fun huse => h.not_free o huse hfree, hfree, hun⟩)

/-- The counter stays, or counts one offset, or wraps from the last one to `0`. -/
theorem nextOffset_allocate (rs : RandomState UInt16) (serviceName namespace_ : Str)
    (s : SyntheticIpAllocator) :
    (s.allocate rs serviceName namespace_).2.nextOffset = s.nextOffset ∨
    s.nextOffset ≠ 0 ∧
      ((s.allocate rs serviceName namespace_).2.nextOffset.toNat = s.nextOffset.toNat + 1 ∨
        s.nextOffset = 65535 ∧ (s.allocate rs serviceName namespace_).2.nextOffset = 0) := by
  rcases allocate_cases rs serviceName namespace_ s with ⟨ip', hkey, heq⟩ | ⟨_, _, heq⟩ |
    ⟨o, s', _, htake, heq⟩
  · exact .inl (by rw [heq])
  · exact .inl (by rw [heq])
  · rw [heq]
    rcases takeOffset_cases htake with ⟨_, rfl⟩ | ⟨_, hnext, _, rfl⟩
    · exact .inl rfl
    · refine .inr ⟨hnext, ?_⟩
      have hlt := s.nextOffset.toNat_lt
      simp only [← UInt16.toNat_inj, UInt16.toNat_add, UInt16.toNat_ofNat]
      omega

/-- An allocation fails only where every offset is in use. -/
theorem Consistent.allocate_eq_none (h : Consistent none s)
    (halloc : (s.allocate rs serviceName namespace_).1 = none) (hzero : o ≠ 0) : s.InUse o := by
  rcases allocate_cases rs serviceName namespace_ s with ⟨_, _, heq⟩ | ⟨_, htake, _⟩ |
    ⟨_, _, _, _, heq⟩
  · rw [heq] at halloc
    cases halloc
  · obtain ⟨hempty, hnext⟩ := takeOffset_eq_none htake
    rcases h.issued o hzero nofun (fun hun => hun.1 hnext) with huse | hfree
    · exact huse
    · exact absurd hfree (hempty o)
  · rw [heq] at halloc
    cases halloc

/-- No other call counts. -/
theorem nextOffset_deallocate (serviceName namespace_ : Str) (s : SyntheticIpAllocator) :
    (s.deallocate serviceName namespace_).nextOffset = s.nextOffset := by
  unfold SyntheticIpAllocator.deallocate
  dsimp only
  split
  · rfl
  · split
    · split <;> rfl
    · rfl

/-- **Synthetic addresses.** After any calls the two maps are inverse to each other, every address is
one of `127.77.0.0/16` other than the first, and every offset but `0` is in use or free or not yet
issued, one of the three. The counter overflows only from the last offset to the mark `0`, which it
leaves by `clear` only; an allocation fails only where every offset is in use, and an address that
it gives is looked up as the service's. -/
theorem allocator_of_ops (ops : List Op) :
    (∀ key ip, (after ops).allocated.lookup key = some ip ↔
      (after ops).reverse.lookup ip = some key) ∧
    (∀ key ip, (after ops).allocated.lookup key = some ip →
      ∃ c d, ip = .v4 ⟨127, 77, c, d⟩ ∧ (c, d) ≠ (0, 0)) ∧
    (∀ o, o ≠ 0 →
      ExactlyOne ((after ops).InUse o) ((after ops).Free o) ((after ops).Unissued o)) ∧
    ∀ rs serviceName namespace_,
      ((((after ops).allocate rs serviceName namespace_).2.nextOffset = (after ops).nextOffset ∨
        (after ops).nextOffset ≠ 0 ∧
          (((after ops).allocate rs serviceName namespace_).2.nextOffset.toNat =
              (after ops).nextOffset.toNat + 1 ∨
            (after ops).nextOffset = 65535 ∧
              ((after ops).allocate rs serviceName namespace_).2.nextOffset = 0)) ∧
      ((after ops).deallocate serviceName namespace_).nextOffset = (after ops).nextOffset ∧
      (((after ops).allocate rs serviceName namespace_).1 = none →
        ∀ o, o ≠ 0 → (after ops).InUse o) ∧
      ∀ ip, ((after ops).allocate rs serviceName namespace_).1 = some ip →
        ((after ops).allocate rs serviceName namespace_).2.lookupIp ip =
          some (serviceKey serviceName namespace_)) := by
  have h := consistent_of_ops ops
  refine ⟨h.inverse, ?_, fun o => h.exactlyOne, ?_⟩
  · intro key ip hkey
    obtain ⟨o, hzero, rfl⟩ := h.addressed key ip hkey
    rw [h.base]
    refine ⟨_, _, rfl, fun hfirst => hzero ?_⟩
    obtain ⟨hc, hd⟩ := Prod.mk.inj hfirst
    have hsame : address ⟨127, 77, 0, 0⟩ o = address ⟨127, 77, 0, 0⟩ 0 := by
      rw [address, hc, hd]
      rfl
    exact address_injective hsame
  · intro rs serviceName namespace_
    exact ⟨nextOffset_allocate rs serviceName namespace_ _,
      nextOffset_deallocate serviceName namespace_ _,
      fun halloc o hzero => h.allocate_eq_none halloc hzero,
      fun ip halloc => h.lookupIp_allocate halloc⟩

/-! ## The end of the range -/

/-- As many services as are asked for, each with a name of its own. -/
def fill (n : Nat) : List Op :=
  (List.range n).map fun i => .allocate (.identity UInt16) (List.replicate i 'a') []

theorem length_serviceKey_replicate (n : Nat) :
    (serviceKey (List.replicate n 'a') []).length = n + 1 := by
  simp [serviceKey]

/-- A new service takes the next offset of the counter where the pool is empty. -/
theorem allocate_of_empty (rs : RandomState UInt16) (hpool : ∀ o, ¬s.Free o)
    (hnext : s.nextOffset ≠ 0)
    (hkey : s.allocated.lookup (serviceKey serviceName namespace_) = none) :
    (s.allocate rs serviceName namespace_).2 = { s with
      nextOffset := s.nextOffset + 1
      allocated := s.allocated.insert (serviceKey serviceName namespace_)
        (.v4 (address s.base s.nextOffset))
      reverse := s.reverse.insert (.v4 (address s.base s.nextOffset))
        (serviceKey serviceName namespace_) } := by
  rcases allocate_cases rs serviceName namespace_ s with ⟨_, hsome, _⟩ | ⟨_, htake, _⟩ |
    ⟨o, s', _, htake, heq⟩
  · rw [hkey] at hsome
    cases hsome
  · exact absurd (takeOffset_eq_none htake).2 hnext
  · rw [heq]
    rcases takeOffset_cases htake with ⟨hfree, _⟩ | ⟨_, _, rfl, rfl⟩
    · exact absurd hfree (hpool o)
    · rfl

theorem after_fill {n : Nat} (h : n < 65535) :
    (after (fill n)).nextOffset.toNat = n + 1 ∧ (∀ o, ¬(after (fill n)).Free o) ∧
      ∀ key : Str, n < key.length → (after (fill n)).allocated.lookup key = none := by
  induction n with
  | zero => exact ⟨rfl, fun o => AList.notMem_empty o, fun key _ => Finmap.lookup_empty key⟩
  | succ n ih =>
    obtain ⟨hnext, hpool, hkeys⟩ := ih (by omega)
    have hpos : (after (fill n)).nextOffset ≠ 0 := by
      rw [ne_eq, ← UInt16.toNat_inj, hnext]
      exact Nat.succ_ne_zero n
    have hlength := length_serviceKey_replicate n
    have hstep : after (fill (n + 1)) =
        ((after (fill n)).allocate (.identity UInt16) (List.replicate n 'a') []).2 := by
      simp only [after, fill, List.range_succ, List.map_append, List.foldl_append, List.map_cons,
        List.map_nil, List.foldl_cons, List.foldl_nil, SyntheticIpAllocator.exec]
    rw [hstep, allocate_of_empty _ hpool hpos (hkeys _ (by omega))]
    refine ⟨?_, hpool, fun key hlen => ?_⟩
    · simp only [UInt16.toNat_add, UInt16.toNat_ofNat, hnext]
      omega
    · rw [HashMap.lookup_insert, if_neg, hkeys key (by omega)]
      rintro rfl
      omega

/-- The counter does overflow: at the last offset of the range. -/
theorem counter_overflows :
    ¬∀ ops rs serviceName namespace_,
      ((after ops).allocate rs serviceName namespace_).2.nextOffset = (after ops).nextOffset ∨
      ((after ops).allocate rs serviceName namespace_).2.nextOffset.toNat =
        (after ops).nextOffset.toNat + 1 := by
  intro hall
  obtain ⟨hnext, hpool, hkeys⟩ := after_fill (n := 65534) (by decide)
  have hpos : (after (fill 65534)).nextOffset ≠ 0 := by
    rw [ne_eq, ← UInt16.toNat_inj, hnext]
    decide
  have hlength := length_serviceKey_replicate 65534
  have hcounter := hall (fill 65534) (.identity UInt16) (List.replicate 65534 'a') []
  rw [allocate_of_empty _ hpool hpos (hkeys _ (by omega))] at hcounter
  simp only [← UInt16.toNat_inj, UInt16.toNat_add, UInt16.toNat_ofNat, hnext] at hcounter
  omega

end

end SyntheticIpAllocator

end Lapdev
