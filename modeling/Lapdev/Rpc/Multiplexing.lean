import Lapdev.Logic.Run
import Lapdev.Rpc.TwoWayChannels

/-!
# Runs of a two-way link

What the halves of a link get and what the link gets from them, in every interleaving of the two
tasks, the users of the halves and the link (`multiplexed_of_run`). `abort_delivers_awaited` has a
reader that delivers a message after an abort, because it was waiting for it.
-/

namespace Lapdev

open RustStd Runs

variable {Req₁ Resp₁ Req₂ Resp₂ : Type}

namespace TwoWay

/-! ## What is still on its way -/

/-- The channels that the reader fills have all their slots. -/
def Slots (s : TwoWay Req₁ Resp₁ Req₂ Resp₂) : Prop :=
  (s.server.receiver.capacity = rpcChannelCapacity ∧ s.server.receiver.reserved = false) ∧
    s.client.receiver.capacity = rpcChannelCapacity ∧ s.client.receiver.reserved = false

section
variable {s s' : TwoWay Req₁ Resp₁ Req₂ Resp₂}

theorem Slots.step {a : LinkAction Req₁ Resp₁ Req₂ Resp₂} (h : Slots s) (hstep : Step s a s') :
    Slots s' := by
  unfold Step next at hstep
  cases a with
  | arrive item =>
    dsimp only at hstep
    split at hstep
    · cases hstep
    · cases hstep
      exact h
  | hangUp | abort =>
    cases hstep
    exact h
  | read =>
    cases reads_of_read hstep with
    | wait | stop | take | hangUp | requestGone | responseGone | failServerGone | failClientGone
    | exit => exact h
    | request _ hsend | failServer _ hsend =>
      obtain ⟨-, -, -, hcapacity, hreserved, -⟩ := Channel.send_eq_ok hsend
      exact ⟨⟨hcapacity.trans h.1.1, hreserved⟩, h.2⟩
    | response _ hsend | failClient _ hsend =>
      obtain ⟨-, -, -, hcapacity, hreserved, -⟩ := Channel.send_eq_ok hsend
      exact ⟨h.1, hcapacity.trans h.2.1, hreserved⟩
  | write action =>
    obtain ⟨server, client, writer, written, rfl⟩ := (writes_of_write hstep).frame
    exact h
  | server action =>
    obtain ⟨server, hact, rfl⟩ := Option.map_eq_some_iff.1 hstep
    have hreceiver := (ChannelTransport.step_act hact).1
    exact ⟨⟨hreceiver.capacity.trans h.1.1, hreceiver.reserved.trans h.1.2⟩, h.2⟩
  | client action =>
    obtain ⟨client, hact, rfl⟩ := Option.map_eq_some_iff.1 hstep
    have hreceiver := (ChannelTransport.step_act hact).1
    exact ⟨h.1, hreceiver.capacity.trans h.2.1, hreceiver.reserved.trans h.2.2⟩

end

/-- How many steps it takes at most until the halves have everything that the reader has taken. -/
def pending (s : TwoWay Req₁ Resp₁ Req₂ Resp₂) : Nat :=
  2 * s.reader.work + s.server.receiver.queue.length + s.client.receiver.queue.length

section
variable {s s' : TwoWay Req₁ Resp₁ Req₂ Resp₂}

/-- An empty channel takes an item. -/
theorem exists_send_empty {β : Type} {c : Channel β}
    (hslots : c.capacity = rpcChannelCapacity ∧ c.reserved = false) (hreceiver : c.receiver = true)
    (hqueue : c.queue = []) (x : β) :
    ∃ c', c.send x = some (.ok c') ∧ c'.queue.length = 1 ∧ c'.receiver = true := by
  have hroom : c.HasRoom := by
    rw [Channel.HasRoom, hqueue, hslots.1, hslots.2]
    exact Nat.succ_pos _
  obtain ⟨c', hsend⟩ := Channel.exists_send hreceiver hroom x
  obtain ⟨-, hstep, -⟩ := Channel.send_eq_ok hsend
  refine ⟨c', hsend, ?_, hstep.receiver.trans hreceiver⟩
  rw [Channel.queue_of_send hsend, hqueue]
  rfl

/-- With room in the channels the reader hands on what it has in hand. -/
theorem read_of_work (hslots : Slots s) (hserver : s.server.isHeld = true)
    (hclient : s.client.isHeld = true) (hserverQueue : s.server.receiver.queue = [])
    (hclientQueue : s.client.receiver.queue = []) (hwork : 0 < s.reader.work) :
    ∃ s', s.read = some s' ∧ s'.taken = s.taken ∧ s'.pending < s.pending ∧
      s'.server.isHeld = true ∧ s'.client.isHeld = true := by
  have hserverSend := exists_send_empty hslots.1 hserver hserverQueue
  have hclientSend := exists_send_empty hslots.2 hclient hclientQueue
  have hpending : s.pending = 2 * s.reader.work := by
    rw [pending, hserverQueue, hclientQueue]
    rfl
  cases hreader : s.reader with
  | checking | waiting | leaving | done =>
    rw [hreader] at hwork
    cases hwork
  | sendingRequest req =>
    obtain ⟨receiver, hsend, hlength, hreceiver⟩ := hserverSend (.ok req)
    refine ⟨s.setServer receiver .checking, ?_, rfl, ?_, hreceiver, hclient⟩
    · rw [read, hreader]
      dsimp only
      rw [hsend]
      rfl
    · show 2 * 0 + receiver.queue.length + s.client.receiver.queue.length < s.pending
      rw [hpending, hreader, hlength, hclientQueue]
      exact Nat.lt_succ_self 1
  | sendingResponse resp =>
    obtain ⟨receiver, hsend, hlength, hreceiver⟩ := hclientSend (.ok resp)
    refine ⟨s.setClient receiver .checking, ?_, rfl, ?_, hserver, hreceiver⟩
    · rw [read, hreader]
      dsimp only
      rw [hsend]
      rfl
    · show 2 * 0 + s.server.receiver.queue.length + receiver.queue.length < s.pending
      rw [hpending, hreader, hlength, hserverQueue]
      exact Nat.lt_succ_self 1
  | failingServer err cloned =>
    obtain ⟨receiver, hsend, hlength, hreceiver⟩ := hserverSend (.error err)
    refine ⟨s.setServer receiver (.failingClient cloned), ?_, rfl, ?_, hreceiver, hclient⟩
    · rw [read, hreader]
      dsimp only
      rw [hsend]
      rfl
    · show 2 * 1 + receiver.queue.length + s.client.receiver.queue.length < s.pending
      rw [hpending, hreader, hlength, hclientQueue]
      exact Nat.lt_succ_self 3
  | failingClient cloned =>
    obtain ⟨receiver, hsend, hlength, hreceiver⟩ := hclientSend (.error cloned)
    refine ⟨(s.setClient receiver .leaving).leave, ?_, rfl, ?_, hserver, hreceiver⟩
    · rw [read, hreader]
      dsimp only
      rw [hsend]
      rfl
    · show 2 * 0 + s.server.receiver.queue.length + receiver.queue.length < s.pending
      rw [hpending, hreader, hlength, hserverQueue]
      exact Nat.lt_succ_self 1

/-- As long as something is on its way to a half, a half can receive or the reader can go on. -/
theorem exists_draining_step (hslots : Slots s) (hserver : s.server.isHeld = true)
    (hclient : s.client.isHeld = true) (hpending : 0 < s.pending) :
    ∃ a s', (a = .read ∨ a = .server .pollNext ∨ a = .client .pollNext) ∧ Step s a s' ∧
      s'.taken = s.taken ∧ s'.pending < s.pending ∧
      s'.server.isHeld = true ∧ s'.client.isHeld = true := by
  by_cases hserverQueue : s.server.receiver.queue = []
  · by_cases hclientQueue : s.client.receiver.queue = []
    · have hwork : 0 < s.reader.work := by
        rw [pending, hserverQueue, hclientQueue, List.length_nil, List.length_nil] at hpending
        omega
      obtain ⟨s', hread, hrest⟩ :=
        read_of_work hslots hserver hclient hserverQueue hclientQueue hwork
      exact ⟨.read, s', .inl rfl, hread, hrest⟩
    · obtain ⟨hlength, hheld⟩ := ChannelTransport.pollNext_of_queue hclientQueue
      refine ⟨.client .pollNext, { s with client := s.client.pollNext.2 }, .inr (.inr rfl), rfl,
        rfl, ?_, hserver, hheld.trans hclient⟩
      exact Nat.add_lt_add_left hlength _
  · obtain ⟨hlength, hheld⟩ := ChannelTransport.pollNext_of_queue hserverQueue
    refine ⟨.server .pollNext, { s with server := s.server.pollNext.2 }, .inr (.inl rfl), rfl,
      rfl, ?_, hheld.trans hserver, hclient⟩
    exact Nat.add_lt_add_right (Nat.add_lt_add_left hlength _) _

/-- With nothing on its way a half has all that was taken for it. -/
theorem yielded_of_pending_eq_zero (h : Inbound s) (hserver : s.server.isHeld = true)
    (hclient : s.client.isHeld = true) (hpending : s.pending = 0) :
    s.server.yielded = (s.taken.filterMap requestOf).map ChannelTransport.item ∧
      s.client.yielded = (s.taken.filterMap responseOf).map ChannelTransport.item := by
  have hwork : s.reader.work = 0 ∧ s.server.receiver.queue.length = 0 ∧
      s.client.receiver.queue.length = 0 := by
    rw [pending] at hpending
    omega
  obtain ⟨hwork, hserverQueue, hclientQueue⟩ := hwork
  have hhand : s.reader.forServer = [] ∧ s.reader.forClient = [] := by
    cases hreader : s.reader with
    | checking | waiting | leaving | done => exact ⟨rfl, rfl⟩
    | sendingRequest req | sendingResponse resp | failingServer err cloned
    | failingClient cloned =>
      rw [hreader] at hwork
      cases hwork
  have hserverAll := h.server.eq_of_receiver hserver
  have hclientAll := h.client.eq_of_receiver hclient
  rw [hhand.1, List.append_nil, Channel.sent_of_receiver hserver,
    List.eq_nil_of_length_eq_zero hserverQueue, List.append_nil] at hserverAll
  rw [hhand.2, List.append_nil, Channel.sent_of_receiver hclient,
    List.eq_nil_of_length_eq_zero hclientQueue, List.append_nil] at hclientAll
  exact ⟨congrArg _ hserverAll, congrArg _ hclientAll⟩

/-- The reader and the halves by themselves bring everything that was taken to the halves. -/
theorem exists_drained (hslots : Slots s) (h : Inbound s) (hserver : s.server.isHeld = true)
    (hclient : s.client.isHeld = true) :
    ∃ as s', Run Step s as s' ∧
      (∀ a ∈ as, a = .read ∨ a = .server .pollNext ∨ a = .client .pollNext) ∧
      s'.taken = s.taken ∧
      s'.server.yielded = (s.taken.filterMap requestOf).map ChannelTransport.item ∧
      s'.client.yielded = (s.taken.filterMap responseOf).map ChannelTransport.item := by
  induction hn : s.pending using Nat.strongRecOn generalizing s with
  | ind n ih =>
    subst hn
    rcases Nat.eq_zero_or_pos s.pending with hzero | hpos
    · exact ⟨[], s, .nil, fun a ha => absurd ha List.not_mem_nil, rfl,
        yielded_of_pending_eq_zero h hserver hclient hzero⟩
    · obtain ⟨a, s', ha, hstep, htaken, hless, hserver', hclient'⟩ :=
        exists_draining_step hslots hserver hclient hpos
      obtain ⟨as, s'', hrun, has, htaken', hall⟩ :=
        ih _ hless (hslots.step hstep) (h.step hstep) hserver' hclient' rfl
      rw [htaken] at htaken' hall
      exact ⟨a :: as, s'', .cons hstep hrun, List.forall_mem_cons.2 ⟨ha, has⟩, htaken', hall⟩

end

/-! ## After an abort -/

/-- How many messages have been put into the channels of the halves. -/
def delivered (s : TwoWay Req₁ Resp₁ Req₂ Resp₂) : Nat :=
  s.server.receiver.sent.countP Except.isOk + s.client.receiver.sent.countP Except.isOk

/-- The flag is set, and what is delivered and taken stays within bounds. -/
structure AfterAbort (deliveries items : Nat) (s : TwoWay Req₁ Resp₁ Req₂ Resp₂) : Prop where
  aborted : s.aborted = true
  deliveries : s.delivered + s.reader.upcoming ≤ deliveries
  items : s.taken.length + s.reader.awaited ≤ items

section
variable {s s' : TwoWay Req₁ Resp₁ Req₂ Resp₂} {deliveries items : Nat}

theorem delivered_setServer {receiver : Channel (Except IoError Req₁)}
    {reader : LinkReader Req₁ Resp₂} {item : Except IoError Req₁}
    (hsend : s.server.receiver.send item = some (.ok receiver)) :
    (s.setServer receiver reader).delivered = s.delivered + [item].countP Except.isOk := by
  obtain ⟨-, -, hsent, -⟩ := Channel.send_eq_ok hsend
  show receiver.sent.countP Except.isOk + s.client.receiver.sent.countP Except.isOk = _
  rw [hsent, List.countP_append, delivered]
  omega

theorem delivered_setClient {receiver : Channel (Except IoError Resp₂)}
    {reader : LinkReader Req₁ Resp₂} {item : Except IoError Resp₂}
    (hsend : s.client.receiver.send item = some (.ok receiver)) :
    (s.setClient receiver reader).delivered = s.delivered + [item].countP Except.isOk := by
  obtain ⟨-, -, hsent, -⟩ := Channel.send_eq_ok hsend
  show s.server.receiver.sent.countP Except.isOk + receiver.sent.countP Except.isOk = _
  rw [hsent, List.countP_append, delivered]
  omega

theorem upcoming_handle (item : Except IoError (TwoWayMessage Req₁ Resp₂)) :
    (handle item).upcoming ≤ 1 ∧ (handle item).awaited = 0 := by
  rcases item with _ | (_ | _)
  · exact ⟨Nat.zero_le 1, rfl⟩
  · exact ⟨Nat.le_refl _, rfl⟩
  · exact ⟨Nat.le_refl _, rfl⟩

/-- After an abort the reader delivers what it has in hand or waits for, and looks at the flag. -/
theorem AfterAbort.reads (h : AfterAbort deliveries items s) (hreads : Reads s s') :
    AfterAbort deliveries items s' := by
  obtain ⟨haborted, hdeliveries, hitems⟩ := h
  cases hreads with
  | wait hreader hfalse =>
    rw [haborted] at hfalse
    cases hfalse
  | stop hreader | hangUp hreader | requestGone hreader | responseGone hreader
  | failClientGone hreader | failServerGone hreader =>
    exact ⟨haborted, Nat.le_trans (Nat.add_le_add_left (Nat.zero_le _) _) hdeliveries,
      Nat.le_trans (Nat.add_le_add_left (Nat.zero_le _) _) hitems⟩
  | exit hreader =>
    exact ⟨rfl, Nat.le_trans (Nat.add_le_add_left (Nat.zero_le _) _) hdeliveries,
      Nat.le_trans (Nat.add_le_add_left (Nat.zero_le _) _) hitems⟩
  | @take item inbound hreader hinbound =>
    rw [hreader] at hdeliveries hitems
    obtain ⟨hupcoming, hawaited⟩ := upcoming_handle item
    refine ⟨haborted, Nat.le_trans (Nat.add_le_add_left hupcoming _) hdeliveries, ?_⟩
    dsimp only
    rw [hawaited, List.length_append]
    exact hitems
  | request hreader hsend =>
    rw [hreader] at hdeliveries hitems
    refine ⟨haborted, ?_, hitems⟩
    rw [delivered_setServer hsend]
    exact hdeliveries
  | response hreader hsend =>
    rw [hreader] at hdeliveries hitems
    refine ⟨haborted, ?_, hitems⟩
    rw [delivered_setClient hsend]
    exact hdeliveries
  | failServer hreader hsend =>
    rw [hreader] at hdeliveries hitems
    refine ⟨haborted, ?_, hitems⟩
    rw [delivered_setServer hsend]
    exact hdeliveries
  | @failClient cloned receiver hreader hsend =>
    rw [hreader] at hdeliveries hitems
    refine ⟨haborted, ?_, hitems⟩
    have hdelivered : (s.setClient receiver .leaving).delivered = s.delivered :=
      delivered_setClient hsend
    show (s.setClient receiver .leaving).delivered ≤ deliveries
    rw [hdelivered]
    exact hdeliveries

/-- No step takes the bounds back. -/
theorem AfterAbort.step {a : LinkAction Req₁ Resp₁ Req₂ Resp₂} (h : AfterAbort deliveries items s)
    (hstep : Step s a s') : AfterAbort deliveries items s' := by
  unfold Step next at hstep
  cases a with
  | arrive item =>
    dsimp only at hstep
    split at hstep
    · cases hstep
    · cases hstep
      exact ⟨h.aborted, h.deliveries, h.items⟩
  | hangUp =>
    cases hstep
    exact ⟨h.aborted, h.deliveries, h.items⟩
  | read => exact h.reads (reads_of_read hstep)
  | write action =>
    obtain ⟨server, client, writer, written, rfl⟩ := (writes_of_write hstep).frame
    exact ⟨h.aborted, h.deliveries, h.items⟩
  | server action =>
    obtain ⟨server, hact, rfl⟩ := Option.map_eq_some_iff.1 hstep
    have hsent := (ChannelTransport.step_act hact).1.sent
    refine ⟨h.aborted, ?_, h.items⟩
    rw [delivered, hsent]
    exact h.deliveries
  | client action =>
    obtain ⟨client, hact, rfl⟩ := Option.map_eq_some_iff.1 hstep
    have hsent := (ChannelTransport.step_act hact).1.sent
    refine ⟨h.aborted, ?_, h.items⟩
    rw [delivered, hsent]
    exact h.deliveries
  | abort =>
    cases hstep
    exact ⟨rfl, h.deliveries, h.items⟩

/-- **After an abort** at most what the reader has in hand or waits for is delivered, and at most
what it waits for is taken. -/
theorem afterAbort_of_run {as : List (LinkAction Req₁ Resp₁ Req₂ Resp₂)}
    (hrun : Run Step s (.abort :: as) s') :
    s'.delivered ≤ s.delivered + s.reader.upcoming ∧
      s'.taken.length ≤ s.taken.length + s.reader.awaited := by
  cases hrun with
  | cons hstep hrest =>
    cases hstep
    have hend := Run.invariant
      (AfterAbort (s.delivered + s.reader.upcoming) (s.taken.length + s.reader.awaited))
      (fun _ _ _ hstep h => h.step hstep) hrest ⟨rfl, Nat.le_refl _, Nat.le_refl _⟩
    exact ⟨Nat.le_trans (Nat.le_add_right _ _) hend.deliveries,
      Nat.le_trans (Nat.le_add_right _ _) hend.items⟩

end

/-! ## Runs -/

/-- What has come in on the link in a run. -/
def arrivals (as : List (LinkAction Req₁ Resp₁ Req₂ Resp₂)) :
    List (Except IoError (TwoWayMessage Req₁ Resp₂)) :=
  as.filterMap fun
    | .arrive item => some item
    | _ => none

section
variable {s s' : TwoWay Req₁ Resp₁ Req₂ Resp₂}

/-- What comes in is taken in order. -/
theorem link_of_step {a : LinkAction Req₁ Resp₁ Req₂ Resp₂} (hstep : Step s a s') :
    s'.taken ++ s'.inbound = s.taken ++ s.inbound ++ arrivals [a] := by
  unfold Step next at hstep
  cases a with
  | arrive item =>
    dsimp only at hstep
    split at hstep
    · cases hstep
    · cases hstep
      exact (List.append_assoc _ _ _).symm
  | hangUp | abort =>
    cases hstep
    exact (List.append_nil _).symm
  | read =>
    refine Eq.trans ?_ (List.append_nil _).symm
    cases reads_of_read hstep with
    | take hreader hinbound =>
      rw [hinbound]
      exact List.append_assoc _ _ _
    | wait | stop | hangUp | request | requestGone | response | responseGone | failServer
    | failServerGone | failClient | failClientGone | exit => rfl
  | write action =>
    obtain ⟨server, client, writer, written, rfl⟩ := (writes_of_write hstep).frame
    exact (List.append_nil _).symm
  | server action =>
    obtain ⟨server, hact, rfl⟩ := Option.map_eq_some_iff.1 hstep
    exact (List.append_nil _).symm
  | client action =>
    obtain ⟨client, hact, rfl⟩ := Option.map_eq_some_iff.1 hstep
    exact (List.append_nil _).symm

theorem link_of_run {as : List (LinkAction Req₁ Resp₁ Req₂ Resp₂)} (hrun : Run Step s as s') :
    s'.taken ++ s'.inbound = s.taken ++ s.inbound ++ arrivals as := by
  induction hrun with
  | nil => exact (List.append_nil _).symm
  | @cons s s' s'' a as hstep _ ih =>
    have hsplit : arrivals (a :: as) = arrivals [a] ++ arrivals as :=
      List.filterMap_append (l := [a])
    rw [ih, link_of_step hstep, hsplit, List.append_assoc _ (arrivals [a])]

theorem run_of_foldlM {as : List (LinkAction Req₁ Resp₁ Req₂ Resp₂)}
    (h : as.foldlM next s = some s') : Run Step s as s' := by
  induction as generalizing s with
  | nil =>
    cases h
    exact .nil
  | cons a as ih =>
    obtain ⟨s'', hstep, hrest⟩ := Option.bind_eq_some_iff.1 h
    exact .cons hstep (ih hrest)

end

/-- What a link and its two halves have got from each other after a run. -/
structure Multiplexed (as : List (LinkAction Req₁ Resp₁ Req₂ Resp₂))
    (s : TwoWay Req₁ Resp₁ Req₂ Resp₂) : Prop where
  /-- The reader takes what comes in, in order. -/
  link : s.taken ++ s.inbound = arrivals as
  /-- The server half gets the client messages of it, in order and nothing else. -/
  requests : s.server.yielded <+: (s.taken.filterMap requestOf).map ChannelTransport.item
  /-- The client half gets the responses. -/
  responses : s.client.yielded <+: (s.taken.filterMap responseOf).map ChannelTransport.item
  /-- What a half that is there has not got yet is in its channel or in the reader's hand. -/
  requestsKept : s.server.isHeld = true →
    s.server.yielded ++ s.server.waiting ++ s.reader.forServer.map ChannelTransport.item =
      (s.taken.filterMap requestOf).map ChannelTransport.item
  responsesKept : s.client.isHeld = true →
    s.client.yielded ++ s.client.waiting ++ s.reader.forClient.map ChannelTransport.item =
      (s.taken.filterMap responseOf).map ChannelTransport.item
  /-- An error comes after all messages, for both halves. -/
  error : ∀ err, .error err ∈ s.taken → ∃ messages : List (TwoWayMessage Req₁ Resp₂),
    s.taken = messages.map .ok ++ [.error err]
  /-- If both halves receive, they get everything that was taken, an error included. -/
  seen : s.server.isHeld = true → s.client.isHeld = true → ∃ as' s', Run Step s as' s' ∧
    (∀ a ∈ as', a = .read ∨ a = .server .pollNext ∨ a = .client .pollNext) ∧
    s'.taken = s.taken ∧
    s'.server.yielded = (s.taken.filterMap requestOf).map ChannelTransport.item ∧
    s'.client.yielded = (s.taken.filterMap responseOf).map ChannelTransport.item
  /-- The reader closes after an abort, the end of the link or an error, or if a half is gone. -/
  closing : s.reader.hasLeft = true → s.userAborted = true ∨ s.hungUp = true ∧ s.inbound = [] ∨
    (∃ err, .error err ∈ s.taken) ∨ s.server.isHeld = false ∨ s.client.isHeld = false
  /-- The link gets what the halves have sent, each in its order. -/
  written : s.written.filterMap TwoWayMessage.response? <+: s.server.sent ∧
    s.written.filterMap TwoWayMessage.clientMessage? <+: s.client.sent
  /-- All of it, if the writer has closed the link. -/
  closed : s.writer = .closed → s.written.filterMap TwoWayMessage.response? = s.server.sent ∧
    s.written.filterMap TwoWayMessage.clientMessage? = s.client.sent
  /-- After an abort at most the message that the reader has in hand or waits for is delivered. -/
  aborted : ∀ as' s', Run Step s (.abort :: as') s' →
    s'.delivered ≤ s.delivered + s.reader.upcoming ∧
      s'.taken.length ≤ s.taken.length + s.reader.awaited

/-- **Multiplexing**: in every run of the reader, the writer, the users of the halves and the link,
the halves get what comes in and the link gets what they send. -/
theorem multiplexed_of_run {as : List (LinkAction Req₁ Resp₁ Req₂ Resp₂)}
    {s : TwoWay Req₁ Resp₁ Req₂ Resp₂} (hrun : Run Step spawnTwoway as s) : Multiplexed as s := by
  have hinbound : Inbound s :=
    Run.invariant Inbound (fun _ _ _ hstep h => h.step hstep) hrun inbound_spawnTwoway
  have houtbound : Outbound s :=
    Run.invariant Outbound (fun _ _ _ hstep h => h.step hstep) hrun outbound_spawnTwoway
  have hslots : Slots s :=
    Run.invariant Slots (fun _ _ _ hstep h => h.step hstep) hrun ⟨⟨rfl, rfl⟩, rfl, rfl⟩
  refine ⟨link_of_run hrun, ?_, ?_, fun hheld => ?_, fun hheld => ?_, fun err herr => ?_,
    exists_drained hslots hinbound, hinbound.left, ⟨?_, ?_⟩, fun hclosed => ?_,
    fun as' s' => afterAbort_of_run⟩
  · exact ((Channel.received_prefix_sent _).trans hinbound.server.sent_prefix).map _
  · exact ((Channel.received_prefix_sent _).trans hinbound.client.sent_prefix).map _
  · rw [← hinbound.server.eq_of_receiver hheld, Channel.sent_of_receiver hheld, List.map_append,
      List.map_append]
    rfl
  · rw [← hinbound.client.eq_of_receiver hheld, Channel.sent_of_receiver hheld, List.map_append,
      List.map_append]
    rfl
  · obtain ⟨messages, htaken, -⟩ | ⟨messages, err', htaken, -⟩ := hinbound.failure
    · rw [htaken] at herr
      obtain ⟨message, -, hok⟩ := List.mem_map.1 herr
      cases hok
    · refine ⟨messages, ?_⟩
      rw [htaken, List.mem_append, List.mem_singleton] at herr
      rcases herr with hmessage | heq
      · obtain ⟨message, -, hok⟩ := List.mem_map.1 hmessage
        cases hok
      · rw [htaken, heq]
  · exact houtbound.server.written.trans (Channel.received_prefix_sent _)
  · exact houtbound.client.written.trans (Channel.received_prefix_sent _)
  · have hfinishing : s.writer.isFinishing = true := hclosed ▸ rfl
    exact ⟨(houtbound.server.finished hfinishing).2, (houtbound.client.finished hfinishing).2⟩

/-- A request comes in and is answered. -/
def pingPong : List (LinkAction String String String String) :=
  [.read, .arrive (.ok (.clientMessage "ping")), .read, .read, .server .pollNext,
    .server .pollReady, .server (.startSend "pong"), .write .takeResponse, .write .startSend]

theorem multiplexed_pingPong : ∃ s, Run Step spawnTwoway pingPong s ∧ Multiplexed pingPong s ∧
    s.server.yielded = [.ok "ping"] ∧ s.written = [.response "pong"] :=
  have hrun : pingPong.foldlM next spawnTwoway = some _ := rfl
  ⟨_, run_of_foldlM hrun, multiplexed_of_run (run_of_foldlM hrun), rfl, rfl⟩

/-- The reader that waits for a message delivers it after an abort. -/
theorem abort_delivers_awaited :
    ¬∀ (as as' : List (LinkAction String String String String))
      (s s' : TwoWay String String String String),
      Run Step spawnTwoway as s → Run Step s (.abort :: as') s' → s'.delivered = s.delivered := by
  intro h
  have hrun : [LinkAction.read].foldlM next
      (spawnTwoway : TwoWay String String String String) = some _ := rfl
  have hrun' : [LinkAction.abort, .arrive (.ok (.clientMessage "late")), .read, .read].foldlM next
      { (spawnTwoway : TwoWay String String String String) with reader := .waiting } = some _ := rfl
  have heq := h _ _ _ _ (run_of_foldlM hrun) (run_of_foldlM hrun')
  exact absurd heq (by decide)

end TwoWay

end Lapdev
