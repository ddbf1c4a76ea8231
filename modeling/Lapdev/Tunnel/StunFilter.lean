import Lapdev.Logic.Firsts
import Lapdev.RustStd.HashMap
import Lapdev.Tunnel.Stun

/-!
# Filtering STUN packets

`filter_stun_packets` of `tunnel/src/direct/udp.rs` takes the STUN packets out of a batch of received
buffers, in place, and hands each response to the waiter of its transaction. A buffer may hold several
datagrams, but it is looked at as one packet. `foldlM_filterRound` says what the loop leaves of the
batch; `Lossless` is what it is meant to do with the datagrams.
-/

namespace Lapdev

open RustStd Bytes Stun Lists

/-- `quinn::udp::RecvMeta`, as far as it says who sent a buffer and how it is cut; the rest of it is
copied along. -/
structure RecvMeta where
  addr : SocketAddr
  len : Nat
  stride : Nat
  deriving DecidableEq

namespace DirectUdpSocket

/-- A buffer of `bufs` and what `meta` says about it. -/
structure Slot where
  buf : List UInt8
  recvMeta : RecvMeta
  deriving DecidableEq

/-- The bytes that were received into a buffer. -/
def Slot.packet (slot : Slot) : List UInt8 := slot.buf.take slot.recvMeta.len

/-- Source: `udp.rs`. -/
def isStunPacket (packet : List UInt8) : Bool :=
  if packet.length < headerSize then false
  else if packet[0]?.any fun b => b &&& 0xC0 ≠ 0 then false
  else if (readU16 packet 2).any fun len => packet.length < headerSize + len.toNat then false
  else slice packet 4 8 = some magicCookie

/-- A QUIC packet, which has the fixed bit set, is not STUN. -/
theorem isStunPacket_of_fixedBit {b : UInt8} (packet : List UInt8) (h : b &&& 0x40 ≠ 0) :
    isStunPacket (b :: packet) = false := by
  have hbits : b &&& 0xC0 ≠ 0 := by
    intro hzero
    have hfixed : b &&& 0x40 = b &&& 0xC0 &&& 0x40 := (UInt8.and_assoc b 0xC0 0x40).symm
    rw [hfixed, hzero, UInt8.zero_and] at h
    exact h rfl
  have hany : ((b :: packet)[0]?.any fun b => decide (b &&& 0xC0 ≠ 0)) = true := decide_eq_true hbits
  rw [isStunPacket, hany]
  split <;> rfl

/-- The transaction of a packet that is long enough for one. -/
def transactionIdOf (packet : List UInt8) : Option TransactionId :=
  if h : ((packet.drop 8).take 12).length = 12 then some ⟨(packet.drop 8).take 12, h⟩ else none

/-- The transaction that a STUN packet is a successful response to. -/
def successId (packet : List UInt8) : Option TransactionId :=
  if readU16 packet 0 = some bindingSuccess then transactionIdOf packet else none

section
variable {Waiter : Type}

/-- Source: `udp.rs`: the waiters after it, and what is sent to one of them; `none` for a packet that
is not STUN. -/
def tryHandleStun (waiters : HashMap TransactionId Waiter) (packet : List UInt8) :
    Option (HashMap TransactionId Waiter × Option (Waiter × List UInt8)) :=
  if isStunPacket packet then
    match successId packet with
    | none => some (waiters, none)
    | some transactionId =>
      some (waiters.erase transactionId, (waiters.lookup transactionId).map (·, packet))
  else none

/-- The variables of `filter_stun_packets`, with what has been sent: from which buffer, to whom, and
what. -/
structure Filter (Waiter : Type) where
  slots : List Slot
  kept : Nat
  waiters : HashMap TransactionId Waiter
  sent : List (Nat × Waiter × List UInt8)

/-- One round of the loop; `none` is a panic. -/
def filterRound (s : Filter Waiter) (idx : Nat) : Option (Filter Waiter) := do
  let slot ← s.slots[idx]?
  let packet ← slice slot.buf 0 slot.recvMeta.len
  match tryHandleStun s.waiters packet with
  | some (waiters, delivery) =>
    pure { s with waiters, sent := s.sent ++ (delivery.map (idx, ·)).toList }
  | none =>
    if s.kept = idx then pure { s with kept := s.kept + 1 }
    else do
      let target ← s.slots[s.kept]?
      if target.buf.length < packet.length then none
      else
        pure { s with
          slots := s.slots.set s.kept ⟨packet ++ target.buf.drop packet.length, slot.recvMeta⟩
          kept := s.kept + 1 }

/-- A batch of received buffers. -/
structure Batch where
  slots : List Slot
  count : Nat
  count_le : count ≤ slots.length
  len_le : ∀ slot ∈ slots.take count, slot.recvMeta.len ≤ slot.buf.length

/-- Source: `udp.rs`. -/
def filterStunPackets (waiters : HashMap TransactionId Waiter) (batch : Batch) :
    Option (Filter Waiter) :=
  (List.range batch.count).foldlM filterRound ⟨batch.slots, 0, waiters, []⟩

/-! ## What is meant to happen -/

/-- The datagrams of a buffer: each as long as the stride, the last possibly shorter. -/
def datagrams (stride : Nat) (bytes : List UInt8) : List (List UInt8) :=
  if stride = 0 ∨ bytes.length ≤ stride then [bytes]
  else bytes.take stride :: datagrams stride (bytes.drop stride)
termination_by bytes.length
decreasing_by
  rw [List.length_drop]
  omega

/-- The datagrams of a slot. -/
def Slot.datagrams (slot : Slot) : List (List UInt8) :=
  DirectUdpSocket.datagrams slot.recvMeta.stride slot.packet

/-- A received datagram, with the buffer it came in. -/
structure Datagram where
  slot : Slot
  idx : Nat
  bytes : List UInt8

/-- The datagrams of a batch. -/
def Batch.received (batch : Batch) : List Datagram :=
  (batch.slots.take batch.count).zipIdx.flatMap fun e => e.1.datagrams.map (⟨e.1, e.2, ·⟩)

/-- The datagrams that the transport gets, with their senders. -/
def Filter.keptDatagrams (s : Filter Waiter) : List (SocketAddr × List UInt8) :=
  (s.slots.take s.kept).flatMap fun slot => slot.datagrams.map (slot.recvMeta.addr, ·)

/-- A datagram that a waiter waits for. -/
def awaited (waiters : HashMap TransactionId Waiter) (d : Datagram) :
    Option (TransactionId × Waiter × Datagram) :=
  if isStunPacket d.bytes then
    (successId d.bytes).bind fun transactionId =>
      (waiters.lookup transactionId).map (transactionId, ·, d)
  else none

/-- The datagrams that are to be delivered: of each transaction with a waiter the first one. -/
def expected (waiters : HashMap TransactionId Waiter) (ds : List Datagram) :
    List (TransactionId × Waiter × Datagram) :=
  firsts Prod.fst (ds.filterMap (awaited waiters)) []

/-- Nothing is lost: the datagrams that are not STUN are kept, in order and with their senders, and
each STUN response that a waiter waits for is sent to it. -/
def Lossless (waiters : HashMap TransactionId Waiter) (batch : Batch) : Prop :=
  ∃ s, filterStunPackets waiters batch = some s ∧
    s.keptDatagrams = (batch.received.filter fun d => !isStunPacket d.bytes).map
      (fun d => (d.slot.recvMeta.addr, d.bytes)) ∧
    s.sent = (expected waiters batch.received).map fun e => (e.2.2.idx, e.2.1, e.2.2.bytes)

/-! ## The loop -/

/-- The slots whose packets are kept. -/
def keptSlots (slots : List Slot) : List Slot := slots.filter fun slot => !isStunPacket slot.packet

/-- What one slot does to the waiters and to what is sent. -/
def handle (acc : HashMap TransactionId Waiter × List (Nat × Waiter × List UInt8))
    (e : Slot × Nat) : HashMap TransactionId Waiter × List (Nat × Waiter × List UInt8) :=
  match tryHandleStun acc.1 e.1.packet with
  | some (waiters, delivery) => (waiters, acc.2 ++ (delivery.map (e.2, ·)).toList)
  | none => acc

/-- A packet that is kept fits into the buffer that it is moved to. -/
def FitsAt (slots : List Slot) (idx : Nat) : Prop :=
  ∀ slot target, slots[idx]? = some slot → isStunPacket slot.packet = false →
    slots[(keptSlots (slots.take idx)).length]? = some target →
    slot.recvMeta.len ≤ target.buf.length

/-- What the loop has done after some rounds: the slots in front are those that were kept, and those
behind are as they were. -/
structure Filtered (slots : List Slot) (waiters : HashMap TransactionId Waiter) (rounds : Nat)
    (s : Filter Waiter) : Prop where
  kept : s.kept = (keptSlots (slots.take rounds)).length
  sizes : s.slots.map (·.buf.length) = slots.map (·.buf.length)
  later : ∀ i, rounds ≤ i → s.slots[i]? = slots[i]?
  front : (s.slots.take s.kept).map (fun slot => (slot.packet, slot.recvMeta)) =
    (keptSlots (slots.take rounds)).map fun slot => (slot.packet, slot.recvMeta)
  handled : (s.waiters, s.sent) = (slots.take rounds).zipIdx.foldl handle (waiters, [])

section
variable {slots : List Slot} {waiters : HashMap TransactionId Waiter} {rounds : Nat}
  {s : Filter Waiter} {slot : Slot}

theorem tryHandleStun_eq_none (waiters : HashMap TransactionId Waiter) {packet : List UInt8} :
    tryHandleStun waiters packet = none ↔ isStunPacket packet = false := by
  unfold tryHandleStun
  cases isStunPacket packet with
  | false => exact iff_of_true rfl rfl
  | true =>
    refine iff_of_false ?_ nofun
    rw [if_pos rfl]
    split <;> exact nofun

/-- The slots up to the next one. -/
theorem take_succ_slots (hslot : slots[rounds]? = some slot) :
    slots.take (rounds + 1) = slots.take rounds ++ [slot] := by
  rw [List.take_add_one, hslot]
  rfl

theorem keptSlots_succ (hslot : slots[rounds]? = some slot) :
    keptSlots (slots.take (rounds + 1)) =
      keptSlots (slots.take rounds) ++ if isStunPacket slot.packet then [] else [slot] := by
  rw [take_succ_slots hslot, keptSlots, List.filter_append, List.filter_singleton]
  cases isStunPacket slot.packet <;> rfl

theorem foldl_handle_succ (hslot : slots[rounds]? = some slot)
    (acc : HashMap TransactionId Waiter × List (Nat × Waiter × List UInt8)) :
    (slots.take (rounds + 1)).zipIdx.foldl handle acc =
      handle ((slots.take rounds).zipIdx.foldl handle acc) (slot, rounds) := by
  have hlt : rounds < slots.length := (List.getElem?_eq_some_iff.1 hslot).1
  have hlength : (slots.take rounds).length = rounds := List.length_take_of_le hlt.le
  rw [take_succ_slots hslot, List.zipIdx_append, List.foldl_append, hlength, Nat.zero_add]
  rfl

theorem length_keptSlots_le (slots : List Slot) (rounds : Nat) : (keptSlots (slots.take rounds)).length ≤ rounds :=
  (List.length_filter_le _ _).trans (List.length_take_le _ _)

theorem length_packet (hlen : slot.recvMeta.len ≤ slot.buf.length) :
    slot.packet.length = slot.recvMeta.len := List.length_take_of_le hlen

theorem slice_packet (hlen : slot.recvMeta.len ≤ slot.buf.length) :
    slice slot.buf 0 slot.recvMeta.len = some slot.packet := by
  rw [slice_eq (Nat.zero_le _) hlen, List.drop_zero, Nat.sub_zero]
  rfl

theorem FitsAt.of_stun (hslot : slots[rounds]? = some slot) (hstun : isStunPacket slot.packet = true) :
    FitsAt slots rounds := by
  intro slot' target hslot' hstun' _
  rw [hslot] at hslot'
  cases hslot'
  rw [hstun] at hstun'
  cases hstun'

/-- A round that takes a packet out. -/
theorem Filtered.handled_round (h : Filtered slots waiters rounds s)
    (hslot : slots[rounds]? = some slot) (hlen : slot.recvMeta.len ≤ slot.buf.length)
    (hstun : isStunPacket slot.packet = true) :
    ∃ s', filterRound s rounds = some s' ∧ Filtered slots waiters (rounds + 1) s' := by
  obtain ⟨⟨waiters', delivery⟩, hhandle⟩ : ∃ r, tryHandleStun s.waiters slot.packet = some r := by
    rw [← Option.isSome_iff_exists, ← Option.ne_none_iff_isSome]
    intro hnone
    rw [(tryHandleStun_eq_none s.waiters).1 hnone] at hstun
    cases hstun
  have hkept := keptSlots_succ hslot
  rw [hstun, if_pos rfl, List.append_nil] at hkept
  refine ⟨{ s with waiters := waiters', sent := s.sent ++ (delivery.map (rounds, ·)).toList }, ?_, ?_⟩
  · rw [filterRound, h.later rounds (Nat.le_refl _), hslot]
    simp only [Option.bind_eq_bind, Option.bind_some, slice_packet hlen, hhandle]
    rfl
  · refine ⟨?_, h.sizes, fun i hi => h.later i (by omega), ?_, ?_⟩
    · rw [hkept, h.kept]
    · rw [hkept]
      exact h.front
    · rw [foldl_handle_succ hslot, ← h.handled, handle]
      dsimp only
      rw [hhandle]

/-- A round that keeps a packet. -/
theorem Filtered.kept_round (h : Filtered slots waiters rounds s)
    (hslot : slots[rounds]? = some slot) (hlen : slot.recvMeta.len ≤ slot.buf.length)
    (hstun : isStunPacket slot.packet = false) :
    (FitsAt slots rounds →
      ∃ s', filterRound s rounds = some s' ∧ Filtered slots waiters (rounds + 1) s') ∧
    (¬FitsAt slots rounds → filterRound s rounds = none) := by
  have hnone := (tryHandleStun_eq_none s.waiters).2 hstun
  have hlater := h.later rounds (Nat.le_refl _)
  have hkept := keptSlots_succ hslot
  rw [hstun, if_neg Bool.false_ne_true] at hkept
  have hhandled : (s.waiters, s.sent) =
      (slots.take (rounds + 1)).zipIdx.foldl handle (waiters, []) := by
    rw [foldl_handle_succ hslot, ← h.handled, handle]
    dsimp only
    rw [hnone]
  have hround : filterRound s rounds =
      if s.kept = rounds then some { s with kept := s.kept + 1 }
      else s.slots[s.kept]?.bind fun target =>
        if target.buf.length < slot.packet.length then none
        else some { s with
          slots := s.slots.set s.kept ⟨slot.packet ++ target.buf.drop slot.packet.length, slot.recvMeta⟩
          kept := s.kept + 1 } := by
    rw [filterRound, hlater, hslot]
    simp only [Option.bind_eq_bind, Option.bind_some, slice_packet hlen, hnone]
    rfl
  by_cases heq : s.kept = rounds
  · -- Nothing was taken out before: the packet stays where it is.
    have hfits : FitsAt slots rounds := by
      intro slot' target hslot' _ htarget
      rw [← h.kept, heq, hslot'] at htarget
      rw [hslot] at hslot'
      cases hslot'
      cases htarget
      exact hlen
    refine ⟨fun _ => ⟨{ s with kept := s.kept + 1 }, ?_, ?_⟩, absurd hfits⟩
    · rw [hround, if_pos heq]
    · refine ⟨?_, h.sizes, fun i hi => h.later i (by omega), ?_, hhandled⟩
      · rw [hkept, List.length_append, h.kept]
        rfl
      · have hfront := h.front
        rw [heq] at hfront ⊢
        rw [hkept, take_succ_slots (hlater.trans hslot), List.map_append, List.map_append, hfront]
  · have hlt : s.kept < rounds := by
      have hle := length_keptSlots_le slots rounds
      rw [← h.kept] at hle
      omega
    have hrounds : rounds < slots.length := (List.getElem?_eq_some_iff.1 hslot).1
    have hlength : s.slots.length = slots.length := by
      have := congrArg List.length h.sizes
      rwa [List.length_map, List.length_map] at this
    obtain ⟨target, htarget⟩ : ∃ target, s.slots[s.kept]? = some target :=
      ⟨_, List.getElem?_eq_getElem (by omega)⟩
    obtain ⟨target₀, htarget₀⟩ : ∃ target₀, slots[s.kept]? = some target₀ :=
      ⟨_, List.getElem?_eq_getElem (by omega)⟩
    have hsize : target.buf.length = target₀.buf.length := by
      have := congrArg (·[s.kept]?) h.sizes
      simpa only [List.getElem?_map, htarget, htarget₀, Option.map_some, Option.some.injEq] using this
    rw [hround, if_neg heq, htarget, Option.bind_some, length_packet hlen, hsize]
    have hfits : FitsAt slots rounds ↔ slot.recvMeta.len ≤ target₀.buf.length := by
      constructor
      · intro hfits
        exact hfits slot target₀ hslot hstun (by rw [← h.kept]; exact htarget₀)
      · intro hle slot' target' hslot' _ htarget'
        rw [← h.kept, htarget₀] at htarget'
        rw [hslot] at hslot'
        cases hslot'
        cases htarget'
        exact hle
    rw [hfits, Nat.not_le]
    refine ⟨fun hle => ?_, fun hlt => if_pos hlt⟩
    rw [if_neg (Nat.not_lt.2 hle)]
    generalize hmoved : (⟨slot.packet ++ target.buf.drop slot.recvMeta.len, slot.recvMeta⟩ : Slot) =
      moved
    have hpacket : (moved.packet, moved.recvMeta) = (slot.packet, slot.recvMeta) := by
      rw [← hmoved, Slot.packet, List.take_left' (length_packet hlen)]
    have hmovedSize : moved.buf.length = target.buf.length := by
      rw [← hmoved, List.length_append, List.length_drop, length_packet hlen]
      omega
    refine ⟨_, rfl, ?_, ?_, fun i hi => ?_, ?_, hhandled⟩
    · rw [hkept, List.length_append, h.kept]
      rfl
    · have hsizeAt : (s.slots.map (·.buf.length))[s.kept]? = some moved.buf.length := by
        rw [List.getElem?_map, htarget, hmovedSize]
        rfl
      obtain ⟨hi, hget⟩ := List.getElem?_eq_some_iff.1 hsizeAt
      rw [List.map_set, ← hget, List.set_getElem_self hi, h.sizes]
    · rw [List.getElem?_set_ne (by omega)]
      exact h.later i (by omega)
    · have htake : (s.slots.set s.kept moved).take (s.kept + 1) = s.slots.take s.kept ++ [moved] := by
        rw [List.take_add_one, List.take_set_of_le (Nat.le_refl _),
          List.getElem?_set_self (by omega)]
        rfl
      dsimp only
      rw [htake, hkept, List.map_append, List.map_append, h.front, List.map_singleton, hpacket]
      rfl

/-- The slots of a batch do not overrun their buffers. -/
theorem Batch.len_le_of_getElem? (batch : Batch) {idx : Nat} {slot : Slot} (hidx : idx < batch.count)
    (hslot : batch.slots[idx]? = some slot) : slot.recvMeta.len ≤ slot.buf.length := by
  refine batch.len_le slot (List.mem_of_getElem? (i := idx) ?_)
  rw [List.getElem?_take_of_lt hidx, hslot]

/-- **The loop.** It ends exactly if the packets that are kept fit into their new buffers. -/
theorem foldlM_filterRound (batch : Batch) (waiters : HashMap TransactionId Waiter) {n : Nat}
    (hn : n ≤ batch.count) :
    ((∀ idx < n, FitsAt batch.slots idx) → ∃ s,
      (List.range n).foldlM filterRound ⟨batch.slots, 0, waiters, []⟩ = some s ∧
        Filtered batch.slots waiters n s) ∧
    ((¬∀ idx < n, FitsAt batch.slots idx) →
      (List.range n).foldlM filterRound ⟨batch.slots, 0, waiters, []⟩ = none) := by
  induction n with
  | zero =>
    refine ⟨fun _ => ⟨_, rfl, rfl, rfl, fun _ _ => rfl, rfl, rfl⟩, fun h => ?_⟩
    exact absurd (fun idx hidx => absurd hidx (Nat.not_lt_zero idx)) h
  | succ n ih =>
    obtain ⟨ihfits, ihnot⟩ := ih (Nat.le_of_succ_le hn)
    have hsplit : (∀ idx < n + 1, FitsAt batch.slots idx) ↔
        (∀ idx < n, FitsAt batch.slots idx) ∧ FitsAt batch.slots n := by
      simp only [Nat.lt_succ_iff_lt_or_eq, or_imp, forall_and, forall_eq]
    rw [hsplit, List.range_succ, List.foldlM_append]
    by_cases hbefore : ∀ idx < n, FitsAt batch.slots idx
    · obtain ⟨s, hs, hfiltered⟩ := ihfits hbefore
      obtain ⟨slot, hslot⟩ : ∃ slot, batch.slots[n]? = some slot :=
        ⟨_, List.getElem?_eq_getElem (Nat.lt_of_lt_of_le hn batch.count_le)⟩
      have hlen := batch.len_le_of_getElem? hn hslot
      rw [hs]
      simp only [Option.bind_eq_bind, Option.bind_some, List.foldlM_cons, List.foldlM_nil,
        Option.pure_def, Option.bind_fun_some]
      cases hstun : isStunPacket slot.packet with
      | true =>
        refine ⟨fun _ => hfiltered.handled_round hslot hlen hstun, fun h => ?_⟩
        exact absurd ⟨hbefore, FitsAt.of_stun hslot hstun⟩ h
      | false =>
        obtain ⟨hfits, hnot⟩ := hfiltered.kept_round hslot hlen hstun
        exact ⟨fun h => hfits h.2, fun h => hnot fun hn' => h ⟨hbefore, hn'⟩⟩
    · refine ⟨fun h => absurd h.1 hbefore, fun _ => ?_⟩
      rw [ihnot hbefore]
      rfl

end

end

end DirectUdpSocket

end Lapdev
