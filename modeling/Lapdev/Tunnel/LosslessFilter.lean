import Lapdev.Tunnel.StunFilter
import Mathlib.Algebra.Order.BigOperators.Group.List
import Mathlib.Algebra.Order.Group.Nat

/-!
# Filtering STUN packets loses nothing

For which batches, `lossless_iff` says: the loop keeps and drops whole buffers, so each buffer has to
be of one kind (`keptDatagrams_iff`), and it delivers whole buffers, so a response that somebody waits
for has to be alone in its buffer (`sent_iff`).
-/

namespace Lapdev

open RustStd Bytes Stun Lists

namespace DirectUdpSocket

/-! ## What is kept -/

section
variable {α β : Type} {p : α → Bool} {q : β → Bool} {f : α → List β} {l : List α}

theorem flatMap_filter (l : List α) :
    (l.filter p).flatMap f = l.flatMap fun a => if p a then f a else [] := by
  induction l with
  | nil => rfl
  | cons a l ih =>
    rw [List.filter_cons, List.flatMap_cons, ← ih]
    cases p a <;> rfl

/-- Parts that make up one list, each no longer than its counterpart, are their counterparts. -/
theorem parts_eq_of_flatMap_eq {g : α → List β} (hle : ∀ a ∈ l, (f a).length ≤ (g a).length)
    (h : l.flatMap f = l.flatMap g) : ∀ a ∈ l, f a = g a := by
  induction l with
  | nil => exact fun a ha => absurd ha List.not_mem_nil
  | cons a l ih =>
    have hhead := hle a List.mem_cons_self
    have htail := fun a' ha' => hle a' (List.mem_cons_of_mem a ha')
    have hrest : (l.flatMap f).length ≤ (l.flatMap g).length := by
      rw [List.length_flatMap, List.length_flatMap]
      exact List.sum_le_sum htail
    have hlength := congrArg List.length h
    rw [List.flatMap_cons, List.flatMap_cons, List.length_append, List.length_append] at hlength
    obtain ⟨hpart, hparts⟩ := List.append_inj h (by omega)
    intro a' ha'
    rcases List.mem_cons.1 ha' with rfl | ha'
    · exact hpart
    · exact ih htail hparts a' ha'

/-- Whole parts are the elements of the parts exactly if each part is of one kind. -/
theorem flatMap_filter_eq_iff :
    (l.filter p).flatMap f = (l.flatMap f).filter q ↔ ∀ a ∈ l, ∀ b ∈ f a, q b = p a := by
  rw [flatMap_filter, List.filter_flatMap]
  constructor
  · intro h
    -- What is taken whole is of the kind, since everything on the right is.
    have htaken : ∀ a ∈ l, p a = true → (f a).filter q = f a := by
      intro a ha hp
      refine List.filter_eq_self.2 fun b hb => ?_
      have hmem : b ∈ l.flatMap fun a => if p a then f a else [] :=
        List.mem_flatMap.2 ⟨a, ha, by rwa [if_pos hp]⟩
      rw [h] at hmem
      obtain ⟨a', -, hb'⟩ := List.mem_flatMap.1 hmem
      exact (List.mem_filter.1 hb').2
    have hparts := parts_eq_of_flatMap_eq (fun a ha => by
      split
      · next hp => rw [htaken a ha hp]
      · exact Nat.zero_le _) h
    intro a ha b hb
    have hpart := hparts a ha
    cases hp : p a with
    | true =>
      rw [hp, if_pos rfl] at hpart
      exact List.filter_eq_self.1 hpart.symm b hb
    | false =>
      rw [hp, if_neg Bool.false_ne_true] at hpart
      exact Bool.eq_false_iff.2 (List.filter_eq_nil_iff.1 hpart.symm b hb)
  · intro h
    refine List.flatMap_congr fun a ha => ?_
    split
    · next hp => exact (List.filter_eq_self.2 fun b hb => (h a ha b hb).trans hp).symm
    · next hp =>
      refine (List.filter_eq_nil_iff.2 fun b hb => ?_).symm
      rw [h a ha b hb]
      exact hp

end

section
variable {Waiter : Type} {waiters : HashMap TransactionId Waiter} {batch : Batch} {s : Filter Waiter}

/-- The datagrams of a buffer are all STUN or all not, as the buffer is. -/
def Batch.Uniform (batch : Batch) : Prop :=
  ∀ slot ∈ batch.slots.take batch.count, ∀ bytes ∈ slot.datagrams,
    isStunPacket bytes = isStunPacket slot.packet

/-- The datagrams that are to be kept, buffer by buffer. -/
theorem received_filter (batch : Batch) :
    (batch.received.filter fun d => !isStunPacket d.bytes).map
        (fun d => (d.slot.recvMeta.addr, d.bytes)) =
      ((batch.slots.take batch.count).flatMap fun slot =>
        slot.datagrams.map (slot.recvMeta.addr, ·)).filter fun d => !isStunPacket d.2 := by
  have hmap : batch.received.map (fun d => (d.slot.recvMeta.addr, d.bytes)) =
      (batch.slots.take batch.count).flatMap fun slot =>
        slot.datagrams.map (slot.recvMeta.addr, ·) := by
    rw [Batch.received, List.map_flatMap]
    conv_rhs => rw [← List.zipIdx_map_fst 0 (batch.slots.take batch.count), List.flatMap_map]
    refine List.flatMap_congr fun e _ => ?_
    rw [List.map_map]
    rfl
  rw [← hmap, List.filter_map]
  rfl

/-- What is kept is what is to be kept exactly if each buffer is of one kind. -/
theorem Filtered.keptDatagrams_iff (h : Filtered batch.slots waiters batch.count s) :
    s.keptDatagrams = (batch.received.filter fun d => !isStunPacket d.bytes).map
        (fun d => (d.slot.recvMeta.addr, d.bytes)) ↔ batch.Uniform := by
  have hkept : s.keptDatagrams = (keptSlots (batch.slots.take batch.count)).flatMap fun slot =>
      slot.datagrams.map (slot.recvMeta.addr, ·) := by
    have hview := congrArg (List.flatMap fun e : List UInt8 × RecvMeta =>
      (datagrams e.2.stride e.1).map (e.2.addr, ·)) h.front
    rw [List.flatMap_map, List.flatMap_map] at hview
    exact hview
  rw [hkept, received_filter, keptSlots, flatMap_filter_eq_iff]
  constructor
  · intro hkinds slot hslot bytes hbytes
    exact Bool.not_inj (hkinds slot hslot _ (List.mem_map_of_mem hbytes))
  · intro huniform slot hslot d hd
    obtain ⟨bytes, hbytes, rfl⟩ := List.mem_map.1 hd
    exact congrArg Bool.not (huniform slot hslot bytes hbytes)

end

/-! ## What is delivered -/

section
variable (stride : Nat) (bytes : List UInt8)

theorem length_le_of_mem_datagrams :
    ∀ d ∈ datagrams stride bytes, d.length ≤ bytes.length := by
  fun_induction datagrams stride bytes with
  | case1 bytes h =>
    intro d hd
    rw [List.mem_singleton.1 hd]
  | case2 bytes h ih =>
    intro d hd
    rcases List.mem_cons.1 hd with rfl | hd
    · exact List.length_take_le' _ _
    · have hle := ih d hd
      rw [List.length_drop] at hle
      omega

/-- Bytes are one datagram, or several that are each shorter. -/
theorem datagrams_cases : datagrams stride bytes = [bytes] ∨
    bytes.take stride ∈ datagrams stride bytes ∧
      ∀ d ∈ datagrams stride bytes, d.length < bytes.length := by
  rw [datagrams]
  split
  · exact .inl rfl
  · refine .inr ⟨List.mem_cons_self, fun d hd => ?_⟩
    rcases List.mem_cons.1 hd with rfl | hd
    · rw [List.length_take]
      omega
    · have hle := length_le_of_mem_datagrams stride _ d hd
      rw [List.length_drop] at hle
      omega

theorem length_of_isStunPacket {packet : List UInt8} (h : isStunPacket packet = true) :
    20 ≤ packet.length := by
  unfold isStunPacket at h
  split at h
  · cases h
  · next hlength => exact Nat.not_lt.1 hlength

/-- The first datagram of some is of the transaction of all. -/
theorem successId_take {packet : List UInt8} {n : Nat} (h : isStunPacket (packet.take n) = true) :
    successId (packet.take n) = successId packet := by
  have hlength := length_of_isStunPacket h
  rw [List.length_take] at hlength
  have htransaction : ((packet.take n).drop 8).take 12 = (packet.drop 8).take 12 := by
    rw [List.drop_take, List.take_take, Nat.min_eq_left (by omega)]
  rw [successId, successId, readU16_take (by omega), transactionIdOf, transactionIdOf]
  simp only [htransaction]

end

section
variable {Waiter : Type} {waiters : HashMap TransactionId Waiter} {batch : Batch} {s : Filter Waiter}

/-- A buffer as one datagram. -/
def whole (e : Slot × Nat) : Datagram := ⟨e.1, e.2, e.1.packet⟩

/-- What is sent for a datagram. -/
def delivery (e : TransactionId × Waiter × Datagram) : Nat × Waiter × List UInt8 :=
  (e.2.2.idx, e.2.1, e.2.2.bytes)

/-- The loop delivers the buffers as if they were datagrams; `seen` are the transactions that have
been served. -/
theorem foldl_handle (entries : List (Slot × Nat)) {waiters' : HashMap TransactionId Waiter}
    {seen : List TransactionId}
    (hseen : ∀ id, waiters'.lookup id = if id ∈ seen then none else waiters.lookup id)
    (sent : List (Nat × Waiter × List UInt8)) :
    (entries.foldl handle (waiters', sent)).2 =
      sent ++ (firsts Prod.fst ((entries.map whole).filterMap (awaited waiters)) seen).map
        delivery := by
  induction entries generalizing waiters' seen sent with
  | nil => exact (List.append_nil sent).symm
  | cons e entries ih =>
    rw [List.foldl_cons, List.map_cons, List.filterMap_cons, awaited, handle, tryHandleStun]
    have hbytes : (whole e).bytes = e.1.packet := rfl
    rw [hbytes]
    cases hstun : isStunPacket e.1.packet with
    | false =>
      rw [if_neg Bool.false_ne_true, if_neg Bool.false_ne_true]
      exact ih hseen sent
    | true =>
      rw [if_pos rfl, if_pos rfl]
      cases hid : successId e.1.packet with
      | none =>
        dsimp only [Option.bind_none, Option.map_none, Option.toList_none]
        rw [List.append_nil]
        exact ih hseen sent
      | some id =>
        dsimp only [Option.bind_some]
        have hlookup := hseen id
        cases hwaiter : waiters.lookup id with
        | none =>
          rw [hwaiter, ite_self] at hlookup
          rw [hlookup]
          dsimp only [Option.map_none, Option.toList_none]
          rw [List.append_nil]
          refine ih (fun id' => ?_) sent
          rw [HashMap.lookup_erase, hseen]
          split
          · next heq => rw [heq, hwaiter, ite_self]
          · rfl
        | some waiter =>
          dsimp only [Option.map_some]
          by_cases hmem : id ∈ seen
          · rw [if_pos hmem] at hlookup
            rw [hlookup, firsts_cons_of_mem hmem]
            dsimp only [Option.map_none, Option.toList_none]
            rw [List.append_nil]
            refine ih (fun id' => ?_) sent
            rw [HashMap.lookup_erase, hseen]
            split
            · next heq => rw [heq, if_pos hmem]
            · rfl
          · rw [if_neg hmem, hwaiter] at hlookup
            rw [hlookup, firsts_cons_of_not_mem hmem, List.map_cons]
            dsimp only [Option.map_some, Option.toList_some]
            have hserved : ∀ id', (waiters'.erase id).lookup id' =
                if id' ∈ id :: seen then none else waiters.lookup id' := by
              intro id'
              rw [HashMap.lookup_erase, hseen]
              split
              · next heq => rw [heq, if_pos List.mem_cons_self]
              · next hne =>
                have hiff : id' ∈ id :: seen ↔ id' ∈ seen := by
                  rw [List.mem_cons]
                  exact or_iff_right hne
                simp only [hiff]
            rw [ih hserved, List.append_assoc]
            rfl

/-- The datagrams of a buffer. -/
def datagramsOf (e : Slot × Nat) : List Datagram := e.1.datagrams.map (⟨e.1, e.2, ·⟩)

theorem awaited_eq_some {d : Datagram} {e : TransactionId × Waiter × Datagram}
    (h : awaited waiters d = some e) : e.2.2 = d := by
  unfold awaited at h
  split at h
  · obtain ⟨id, -, hwaiter⟩ := Option.bind_eq_some_iff.1 h
    obtain ⟨waiter, -, rfl⟩ := Option.map_eq_some_iff.1 hwaiter
    rfl
  · cases h

/-- What of one buffer is delivered, the buffer as a whole or its datagrams: the same, if what is to
be delivered is whole buffers. -/
theorem firsts_datagramsOf {e : Slot × Nat} {seen : List TransactionId}
    (huniform : ∀ bytes ∈ e.1.datagrams, isStunPacket bytes = isStunPacket e.1.packet)
    (hwhole : ∀ x ∈ firsts Prod.fst ((datagramsOf e).filterMap (awaited waiters)) seen,
      x.2.2.bytes = e.1.packet) :
    firsts Prod.fst ((awaited waiters (whole e)).toList) seen =
        firsts Prod.fst ((datagramsOf e).filterMap (awaited waiters)) seen ∧
      ∀ id, id ∈ ((awaited waiters (whole e)).toList.map Prod.fst) ++ seen ↔
        id ∈ ((datagramsOf e).filterMap (awaited waiters)).map Prod.fst ++ seen := by
  rcases datagrams_cases e.1.recvMeta.stride e.1.packet with
    hone | ⟨hfirst, hshort⟩
  · have hdatagrams : datagramsOf e = [whole e] := congrArg (List.map _) hone
    have hlist : [whole e].filterMap (awaited waiters) = (awaited waiters (whole e)).toList := by
      rw [List.filterMap_cons, List.filterMap_nil]
      cases awaited waiters (whole e) <;> rfl
    rw [hdatagrams, hlist]
    exact ⟨rfl, fun _ => Iff.rfl⟩
  · have hnone : firsts Prod.fst ((datagramsOf e).filterMap (awaited waiters)) seen = [] := by
      rw [List.eq_nil_iff_forall_not_mem]
      intro x hx
      obtain ⟨d, hd, hawaited⟩ := List.mem_filterMap.1 ((firsts_sublist _ seen).subset hx)
      obtain ⟨bytes, hbytes, rfl⟩ := List.mem_map.1 hd
      have hall := hwhole x hx
      rw [awaited_eq_some hawaited] at hall
      have hlt := hshort bytes hbytes
      rw [show bytes = e.1.packet from hall] at hlt
      exact Nat.lt_irrefl _ hlt
    have hids := firsts_eq_nil.1 hnone
    -- The transaction of the buffer is that of its first datagram.
    have hhead : ∀ x, awaited waiters (whole e) = some x → x.1 ∈ seen := by
      intro x hx
      unfold awaited at hx
      split at hx
      · next hstun =>
        obtain ⟨id, hid, hwaiter⟩ := Option.bind_eq_some_iff.1 hx
        obtain ⟨waiter, hlookup, rfl⟩ := Option.map_eq_some_iff.1 hwaiter
        have hfirstStun := (huniform _ hfirst).trans hstun
        refine hids (id, waiter, ⟨e.1, e.2, e.1.packet.take e.1.recvMeta.stride⟩) ?_
        refine List.mem_filterMap.2 ⟨_, List.mem_map_of_mem hfirst, ?_⟩
        rw [awaited, if_pos hfirstStun, successId_take hfirstStun]
        rw [show successId e.1.packet = some id from hid, Option.bind_some, hlookup]
        rfl
      · cases hx
    have hwholeNone : firsts Prod.fst ((awaited waiters (whole e)).toList) seen = [] := by
      refine firsts_eq_nil.2 fun x hx => hhead x ?_
      exact Option.mem_toList.1 hx
    refine ⟨hwholeNone.trans hnone.symm, fun id => ?_⟩
    have hleft : id ∈ (awaited waiters (whole e)).toList.map Prod.fst → id ∈ seen := by
      intro hid
      obtain ⟨x, hx, rfl⟩ := List.mem_map.1 hid
      exact hhead x (Option.mem_toList.1 hx)
    have hright : id ∈ ((datagramsOf e).filterMap (awaited waiters)).map Prod.fst → id ∈ seen := by
      intro hid
      obtain ⟨x, hx, rfl⟩ := List.mem_map.1 hid
      exact hids x hx
    rw [List.mem_append, List.mem_append, or_iff_right_of_imp hleft, or_iff_right_of_imp hright]

/-- The same of all buffers, one after the other. -/
theorem firsts_received {entries : List (Slot × Nat)} {seen : List TransactionId}
    (huniform : ∀ e ∈ entries, ∀ bytes ∈ e.1.datagrams,
      isStunPacket bytes = isStunPacket e.1.packet)
    (hwhole : ∀ x ∈ firsts Prod.fst ((entries.flatMap datagramsOf).filterMap (awaited waiters)) seen,
      x.2.2.bytes = x.2.2.slot.packet) :
    firsts Prod.fst ((entries.map whole).filterMap (awaited waiters)) seen =
      firsts Prod.fst ((entries.flatMap datagramsOf).filterMap (awaited waiters)) seen := by
  induction entries generalizing seen with
  | nil => rfl
  | cons e entries ih =>
    have hcons : ((e :: entries).map whole).filterMap (awaited waiters) =
        (awaited waiters (whole e)).toList ++ (entries.map whole).filterMap (awaited waiters) := by
      rw [List.map_cons, List.filterMap_cons]
      cases awaited waiters (whole e) <;> rfl
    rw [List.flatMap_cons, List.filterMap_append, firsts_append] at hwhole ⊢
    rw [hcons, firsts_append]
    have hslot : ∀ x ∈ firsts Prod.fst ((datagramsOf e).filterMap (awaited waiters)) seen,
        x.2.2.slot = e.1 := by
      intro x hx
      obtain ⟨d, hd, hawaited⟩ := List.mem_filterMap.1 ((firsts_sublist _ seen).subset hx)
      obtain ⟨bytes, -, rfl⟩ := List.mem_map.1 hd
      rw [awaited_eq_some hawaited]
    have hwholeHead : ∀ x ∈ firsts Prod.fst ((datagramsOf e).filterMap (awaited waiters)) seen,
        x.2.2.bytes = e.1.packet := by
      intro x hx
      rw [hwhole x (List.mem_append_left _ hx), hslot x hx]
    obtain ⟨hhead, hseen⟩ := firsts_datagramsOf (huniform e List.mem_cons_self) hwholeHead
    rw [hhead, firsts_congr hseen,
      ih (fun e' he' => huniform e' (List.mem_cons_of_mem e he'))
        fun x hx => hwhole x (List.mem_append_right _ hx)]

/-- A response that is to be delivered is all there is in its buffer. -/
def Batch.Lone (batch : Batch) (waiters : HashMap TransactionId Waiter) : Prop :=
  ∀ x ∈ expected waiters batch.received, x.2.2.bytes = x.2.2.slot.packet

/-- What is sent is what is to be delivered exactly if that is alone in its buffer. -/
theorem Filtered.sent_iff (h : Filtered batch.slots waiters batch.count s) (huniform : batch.Uniform) :
    s.sent = (expected waiters batch.received).map (fun e => (e.2.2.idx, e.2.1, e.2.2.bytes)) ↔
      batch.Lone waiters := by
  have hsent : s.sent = (firsts Prod.fst
      (((batch.slots.take batch.count).zipIdx.map whole).filterMap (awaited waiters)) []).map
        delivery := by
    have hnone : ∀ id, waiters.lookup id = if id ∈ [] then none else waiters.lookup id :=
      fun id => (if_neg List.not_mem_nil).symm
    have hfold := foldl_handle (batch.slots.take batch.count).zipIdx hnone []
    rw [← h.handled] at hfold
    exact hfold
  have huniform' : ∀ e ∈ (batch.slots.take batch.count).zipIdx, ∀ bytes ∈ e.1.datagrams,
      isStunPacket bytes = isStunPacket e.1.packet := by
    intro e he
    exact huniform e.1 (List.fst_mem_of_mem_zipIdx he)
  rw [hsent]
  constructor
  · intro heq x hx
    have hmem : delivery x ∈ (expected waiters batch.received).map
        fun e => (e.2.2.idx, e.2.1, e.2.2.bytes) := List.mem_map_of_mem hx
    rw [← heq] at hmem
    obtain ⟨y, hy, hdelivery⟩ := List.mem_map.1 hmem
    -- What was sent from that buffer is the whole buffer.
    obtain ⟨d, hd, hawaited⟩ := List.mem_filterMap.1 ((firsts_sublist _ []).subset hy)
    obtain ⟨e, he, rfl⟩ := List.mem_map.1 hd
    obtain ⟨d', hd', hawaited'⟩ := List.mem_filterMap.1 ((firsts_sublist _ []).subset hx)
    obtain ⟨e', he', hbytes'⟩ := List.mem_flatMap.1 hd'
    obtain ⟨bytes, -, rfl⟩ := List.mem_map.1 hbytes'
    rw [delivery, delivery, awaited_eq_some hawaited, awaited_eq_some hawaited'] at hdelivery
    obtain ⟨hidx, hrest⟩ := Prod.mk.inj hdelivery
    have hslot : e.1 = e'.1 := by
      have hget := List.mem_zipIdx_iff_getElem?.1 he
      have hget' := List.mem_zipIdx_iff_getElem?.1 he'
      rw [show e.2 = e'.2 from hidx, hget'] at hget
      exact (Option.some.inj hget).symm
    rw [awaited_eq_some hawaited']
    have hpacket : e.1.packet = bytes := (Prod.mk.inj hrest).2
    rw [← hpacket, hslot]
  · intro hlone
    exact congrArg (List.map delivery) (firsts_received huniform' hlone)

/-- A QUIC packet: the fixed bit is set. -/
def Datagram.Quic (d : Datagram) : Prop := ∃ b bytes, d.bytes = b :: bytes ∧ b &&& 0x40 ≠ 0

/-- Where nothing is lost, the QUIC packets are kept. -/
theorem Lossless.keeps_quic (h : Lossless waiters batch)
    (hs : filterStunPackets waiters batch = some s) {d : Datagram} (hd : d ∈ batch.received)
    (hquic : d.Quic) : (d.slot.recvMeta.addr, d.bytes) ∈ s.keptDatagrams := by
  obtain ⟨s', hs', hkept, -⟩ := h
  rw [hs] at hs'
  cases hs'
  obtain ⟨b, bytes, hbytes, hfixed⟩ := hquic
  have hnot : isStunPacket d.bytes = false := by
    rw [hbytes]
    exact isStunPacket_of_fixedBit bytes hfixed
  rw [hkept]
  exact List.mem_map.2 ⟨d, List.mem_filter.2 ⟨hd, congrArg Bool.not hnot⟩, rfl⟩

/-- Nothing is lost exactly if the packets that are kept fit where they are moved to, the datagrams
of each buffer are all STUN or all not, as the buffer is, and a response that a waiter waits for is
alone in its buffer; and where nothing is lost, every QUIC packet is kept. -/
theorem lossless_iff (waiters : HashMap TransactionId Waiter) (batch : Batch) :
    (Lossless waiters batch ↔
      (∀ idx < batch.count, FitsAt batch.slots idx) ∧ batch.Uniform ∧ batch.Lone waiters) ∧
    (Lossless waiters batch → ∀ s, filterStunPackets waiters batch = some s →
      ∀ d ∈ batch.received, d.Quic → (d.slot.recvMeta.addr, d.bytes) ∈ s.keptDatagrams) := by
  refine ⟨?_, fun h s hs d hd hquic => h.keeps_quic hs hd hquic⟩
  obtain ⟨hfits, hnot⟩ := foldlM_filterRound batch waiters (Nat.le_refl _)
  by_cases hall : ∀ idx < batch.count, FitsAt batch.slots idx
  · obtain ⟨s, hs, hfiltered⟩ := hfits hall
    constructor
    · rintro ⟨s', hs', hkept, hsent⟩
      rw [filterStunPackets, hs] at hs'
      cases hs'
      have huniform := hfiltered.keptDatagrams_iff.1 hkept
      exact ⟨hall, huniform, (hfiltered.sent_iff huniform).1 hsent⟩
    · intro h
      exact ⟨s, hs, hfiltered.keptDatagrams_iff.2 h.2.1, (hfiltered.sent_iff h.2.1).2 h.2.2⟩
  · refine iff_of_false ?_ fun h => hall h.1
    intro h
    obtain ⟨s, hs, -⟩ := h
    rw [filterStunPackets, hnot hall] at hs
    cases hs

end

/-- A response of 32 bytes and a QUIC packet of 32 bytes that one peer sent, in one buffer. -/
def coalesced : Batch where
  slots := [{
    buf := buildResponseProbePayload (.v4 ⟨10, 0, 0, 1⟩ 4433) ⟨List.replicate 12 7, rfl⟩ ++
      List.replicate 32 0x40
    recvMeta := ⟨.v4 ⟨10, 0, 0, 2⟩ 4433, 64, 32⟩ }]
  count := 1
  count_le := Nat.le_refl 1
  len_le := by decide

/-- The QUIC packet is lost. -/
theorem not_lossless_coalesced : ¬Lossless (∅ : HashMap TransactionId Unit) coalesced := by
  rintro ⟨s, hs, hkept, -⟩
  have hfilter : filterStunPackets (∅ : HashMap TransactionId Unit) coalesced =
      some ⟨coalesced.slots, 0, ∅, []⟩ := rfl
  rw [hfilter] at hs
  cases hs
  have hnone := List.map_eq_nil_iff.1 hkept.symm
  obtain ⟨slot, hslots⟩ : ∃ slot, coalesced.slots = [slot] := ⟨_, rfl⟩
  have hquic : List.replicate 32 0x40 ∈ slot.datagrams := by
    cases hslots
    rw [Slot.datagrams, datagrams, if_neg (by decide)]
    refine List.mem_cons_of_mem _ ?_
    rw [datagrams, if_pos (by decide)]
    exact List.mem_singleton.2 rfl
  have hreceived : ⟨slot, 0, List.replicate 32 0x40⟩ ∈ coalesced.received := by
    rw [Batch.received, hslots]
    exact List.mem_flatMap.2 ⟨(slot, 0), List.mem_singleton.2 rfl, List.mem_map_of_mem hquic⟩
  exact List.filter_eq_nil_iff.1 hnone _ hreceived rfl

end DirectUdpSocket

end Lapdev
