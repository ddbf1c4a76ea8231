import Mathlib.Data.List.Basic

/-!
# Bounded channels with one sender

A channel of `tokio::sync::mpsc` and the `PollSender` of `tokio_util`. A channel also remembers what
has come out of it and what never will because its receiver went, so what has gone into it so far
(`Channel.sent`) is known from its state. A step of the sending end leaves what the receiver sees
(`Channel.SenderStep`), and a step of the receiving end leaves what has been sent
(`Channel.ReceiverStep`).
-/

namespace RustStd

universe u

variable {α : Type u}

/-- `mpsc::channel`: both ends and what is between them. -/
structure Channel (α : Type u) where
  capacity : Nat
  received : List α
  queue : List α
  discarded : List α
  /-- A slot is reserved. -/
  reserved : Bool
  /-- The sender is there; a reserved slot does not count. -/
  sender : Bool
  receiver : Bool
  bounded : queue.length + reserved.toNat ≤ capacity
  kept : receiver = true → discarded = []
  emptied : receiver = false → queue = []

namespace Channel

/-- An empty channel. -/
def new (capacity : Nat) : Channel α where
  capacity
  received := []
  queue := []
  discarded := []
  reserved := false
  sender := true
  receiver := true
  bounded := Nat.zero_le _
  kept _ := rfl
  emptied _ := rfl

/-- All values that have been sent. -/
def sent (c : Channel α) : List α := c.received ++ c.queue ++ c.discarded

/-- A slot is free. -/
abbrev HasRoom (c : Channel α) : Prop := c.queue.length + c.reserved.toNat < c.capacity

/-- Nothing will be sent any more. -/
def senderGone (c : Channel α) : Bool := !c.sender && !c.reserved

/-- A free slot is reserved. -/
def reserve (c : Channel α) (h : c.HasRoom) : Channel α :=
  { c with
    reserved := true
    bounded := Nat.lt_of_le_of_lt (Nat.le_add_right _ _) h }

@[simp] theorem reserved_reserve (c : Channel α) (h : c.HasRoom) :
    (c.reserve h).reserved = true := rfl

/-- A value goes into the reserved slot. -/
def fill (c : Channel α) (x : α) (h : c.reserved = true) : Channel α :=
  if hreceiver : c.receiver = true then
    { c with
      reserved := false
      queue := c.queue ++ [x]
      bounded := by
        have hbounded := c.bounded
        rw [h] at hbounded
        simpa using hbounded
      emptied := fun hgone => by rw [hreceiver] at hgone; cases hgone }
  else
    { c with
      reserved := false
      discarded := c.discarded ++ [x]
      bounded := Nat.le_trans (Nat.add_le_add_left (Nat.zero_le _) _) c.bounded
      kept := fun hthere => absurd hthere hreceiver }

/-- `Sender::send`: `none` while there is no room, an error if the receiver is gone. -/
def send (c : Channel α) (x : α) : Option (Except Unit (Channel α)) :=
  if c.receiver = false then some (.error ())
  else if h : c.HasRoom then some (.ok ((c.reserve h).fill x (c.reserved_reserve h)))
  else none

/-- The oldest value comes out. -/
def recv (c : Channel α) : Option (α × Channel α) :=
  match hqueue : c.queue with
  | [] => none
  | x :: queue =>
    some (x, { c with
      received := c.received ++ [x]
      queue
      bounded := by
        have hbounded := c.bounded
        rw [hqueue, List.length_cons] at hbounded
        omega
      emptied := fun hgone => by
        rw [c.emptied hgone] at hqueue
        cases hqueue })

/-- The sender is dropped. -/
def dropSender (c : Channel α) : Channel α := { c with sender := false }

/-- The reserved slot is given back. -/
def release (c : Channel α) : Channel α :=
  { c with
    reserved := false
    bounded := Nat.le_trans (Nat.add_le_add_left (Nat.zero_le _) _) c.bounded }

/-- The receiver is dropped, and with it the values that are left. -/
def dropReceiver (c : Channel α) : Channel α :=
  { c with
    queue := []
    discarded := c.queue ++ c.discarded
    receiver := false
    bounded := Nat.le_trans (Nat.add_le_add_right (Nat.zero_le _) _) c.bounded
    kept := fun hthere => by cases hthere
    emptied := fun _ => rfl }

/-! ## What has been sent -/

/-- What is received is the start of what is sent. -/
theorem received_prefix_sent (c : Channel α) : c.received <+: c.sent := by
  rw [sent, List.append_assoc]
  exact List.prefix_append _ _

/-- With a receiver nothing is lost. -/
theorem sent_of_receiver {c : Channel α} (h : c.receiver = true) :
    c.sent = c.received ++ c.queue := by
  rw [sent, c.kept h, List.append_nil]

@[simp] theorem sent_reserve (c : Channel α) (h : c.HasRoom) : (c.reserve h).sent = c.sent := rfl

@[simp] theorem sent_fill (c : Channel α) (x : α) (h : c.reserved = true) :
    (c.fill x h).sent = c.sent ++ [x] := by
  unfold fill
  split
  · next hreceiver =>
    show c.received ++ (c.queue ++ [x]) ++ c.discarded = c.sent ++ [x]
    rw [sent_of_receiver hreceiver, c.kept hreceiver, List.append_nil, List.append_assoc]
  · show c.received ++ c.queue ++ (c.discarded ++ [x]) = c.sent ++ [x]
    rw [sent, List.append_assoc (c.received ++ c.queue)]

@[simp] theorem received_fill (c : Channel α) (x : α) (h : c.reserved = true) :
    (c.fill x h).received = c.received := by
  unfold fill
  split <;> rfl

@[simp] theorem receiver_fill (c : Channel α) (x : α) (h : c.reserved = true) :
    (c.fill x h).receiver = c.receiver := by
  unfold fill
  split <;> rfl

@[simp] theorem sender_fill (c : Channel α) (x : α) (h : c.reserved = true) :
    (c.fill x h).sender = c.sender := by
  unfold fill
  split <;> rfl

@[simp] theorem reserved_fill (c : Channel α) (x : α) (h : c.reserved = true) :
    (c.fill x h).reserved = false := by
  unfold fill
  split <;> rfl

@[simp] theorem capacity_fill (c : Channel α) (x : α) (h : c.reserved = true) :
    (c.fill x h).capacity = c.capacity := by
  unfold fill
  split <;> rfl

@[simp] theorem sent_dropReceiver (c : Channel α) : c.dropReceiver.sent = c.sent := by
  rw [dropReceiver, sent, sent, List.append_nil, List.append_assoc]

/-! ## The steps of the two ends -/

/-- The sending end has done something. -/
structure SenderStep (c c' : Channel α) : Prop where
  received : c'.received = c.received
  receiver : c'.receiver = c.receiver
  sent : c.sent <+: c'.sent

/-- The receiving end has done something. -/
structure ReceiverStep (c c' : Channel α) : Prop where
  capacity : c'.capacity = c.capacity
  sent : c'.sent = c.sent
  received : c.received <+: c'.received
  reserved : c'.reserved = c.reserved
  sender : c'.sender = c.sender
  receiver : c'.receiver = true → c.receiver = true

/-- No step of the sender. -/
theorem SenderStep.refl (c : Channel α) : SenderStep c c := ⟨rfl, rfl, List.prefix_rfl⟩

/-- No step of the receiver. -/
theorem ReceiverStep.refl (c : Channel α) : ReceiverStep c c :=
  ⟨rfl, rfl, List.prefix_rfl, rfl, rfl, id⟩

/-- Filling a reserved place is a step of the sender. -/
theorem senderStep_fill (c : Channel α) (x : α) (h : c.reserved = true) :
    SenderStep c (c.fill x h) where
  received := received_fill c x h
  receiver := receiver_fill c x h
  sent := by
    rw [sent_fill]
    exact List.prefix_append _ _

/-- The end of the receiver is a step of it. -/
theorem receiverStep_dropReceiver (c : Channel α) : ReceiverStep c c.dropReceiver where
  capacity := rfl
  sent := sent_dropReceiver c
  received := List.prefix_rfl
  reserved := rfl
  sender := rfl
  receiver h := by cases h

/-- A value that comes out was the first one in the queue. -/
theorem recv_eq_some {c c' : Channel α} {x : α} (h : c.recv = some (x, c')) :
    c.queue = x :: c'.queue ∧ c'.received = c.received ++ [x] ∧ c'.sent = c.sent ∧
      c'.capacity = c.capacity ∧ c'.reserved = c.reserved ∧ c'.sender = c.sender ∧
      c'.receiver = c.receiver := by
  unfold recv at h
  split at h
  · cases h
  · next queue hqueue =>
    cases h
    refine ⟨hqueue, rfl, ?_, rfl, rfl, rfl, rfl⟩
    show c.received ++ [x] ++ queue ++ c.discarded = c.sent
    rw [sent, hqueue, List.append_assoc _ [x]]
    rfl

/-- There is nothing to receive exactly if the queue is empty. -/
theorem recv_eq_none {c : Channel α} : c.recv = none ↔ c.queue = [] := by
  unfold recv
  split
  · next h => simp [h]
  · next h => simp [h]

/-- Receiving is a step of the receiver. -/
theorem receiverStep_recv {c c' : Channel α} {x : α} (h : c.recv = some (x, c')) :
    ReceiverStep c c' := by
  obtain ⟨-, hreceived, hsent, hcapacity, hreserved, hsender, hreceiver⟩ := recv_eq_some h
  refine ⟨hcapacity, hsent, ?_, hreserved, hsender, fun hthere => hreceiver ▸ hthere⟩
  rw [hreceived]
  exact List.prefix_append _ _

/-- A send that ends has put the value in, with the receiver there. -/
theorem send_eq_ok {c c' : Channel α} {x : α} (h : c.send x = some (.ok c')) :
    c.receiver = true ∧ SenderStep c c' ∧ c'.sent = c.sent ++ [x] ∧
      c'.capacity = c.capacity ∧ c'.reserved = false ∧ c'.sender = c.sender := by
  unfold send at h
  split at h
  · cases h
  · next hreceiver =>
    split at h
    · next hroom =>
      cases h
      have hstep := senderStep_fill (c.reserve hroom) x (c.reserved_reserve hroom)
      exact ⟨by simpa using hreceiver, ⟨hstep.received, hstep.receiver, hstep.sent⟩,
        sent_fill _ x _, capacity_fill _ x _, reserved_fill _ x _, sender_fill _ x _⟩
    · cases h

/-- What is sent is queued behind the rest. -/
theorem queue_of_send {c c' : Channel α} {x : α} (h : c.send x = some (.ok c')) :
    c'.queue = c.queue ++ [x] := by
  obtain ⟨hreceiver, hstep, hsent, -⟩ := send_eq_ok h
  have hreceiver' : c'.receiver = true := hstep.receiver.trans hreceiver
  rw [sent_of_receiver hreceiver, sent_of_receiver hreceiver', hstep.received,
    List.append_assoc] at hsent
  exact List.append_cancel_left hsent

/-- A send fails if the receiver is gone. -/
theorem send_eq_error {c : Channel α} {x : α} {e : Unit} (h : c.send x = some (.error e)) :
    c.receiver = false := by
  unfold send at h
  split at h
  · assumption
  · split at h <;> cases h

/-- With a receiver and room a send ends. -/
theorem exists_send {c : Channel α} (hreceiver : c.receiver = true) (hroom : c.HasRoom) (x : α) :
    ∃ c', c.send x = some (.ok c') :=
  ⟨_, (if_neg (by rw [hreceiver]; exact Bool.noConfusion)).trans (dif_pos hroom)⟩

end Channel

/-! ## `PollSender` -/

/-- The sending end of a channel as a sink. Its slot is reserved before a value is sent. -/
structure PollSender (α : Type u) where
  channel : Channel α
  /-- `State::Closed`. -/
  closed : Bool
  settled : channel.senderGone = true → closed = true

namespace PollSender

/-- `PollSender::new`. -/
def new (capacity : Nat) : PollSender α := ⟨.new capacity, false, fun h => by cases h⟩

/-- `poll_reserve`: `none` is pending. -/
def pollReserve (p : PollSender α) : Option (Except Unit Unit) × PollSender α :=
  if p.closed then (some (.error ()), p)
  else if p.channel.reserved then (some (.ok ()), p)
  else if p.channel.receiver = false then
    (some (.error ()), { p with closed := true, settled := fun _ => rfl })
  else if h : p.channel.HasRoom then
    (some (.ok ()), { p with
      channel := p.channel.reserve h
      settled := fun hgone => by simp [Channel.senderGone, Channel.reserve] at hgone })
  else (none, p)

/-- `send_item`, which panics without a reserved slot: `none`. -/
def sendItem (p : PollSender α) (x : α) : Option (Except Unit Unit × PollSender α) :=
  if p.closed then some (.error (), p)
  else if h : p.channel.reserved = true then
    some (.ok (), {
      channel := p.channel.fill x h
      closed := !p.channel.sender
      settled := fun hgone => by simpa [Channel.senderGone] using hgone })
  else none

/-- `close`: a reserved slot is left to the caller. -/
def close (p : PollSender α) : PollSender α where
  channel := p.channel.dropSender
  closed := p.closed || !p.channel.reserved
  settled hgone := by
    have hreserved : p.channel.reserved = false := by
      simpa [Channel.senderGone, Channel.dropSender] using hgone
    rw [hreserved]
    exact Bool.or_true _

/-- The sender is dropped with its slot. -/
def drop (p : PollSender α) : PollSender α where
  channel := p.channel.dropSender.release
  closed := true
  settled _ := rfl

/-- The receiver of the sender's channel takes a value. -/
def recv (p : PollSender α) : Option (α × PollSender α) :=
  match hrecv : p.channel.recv with
  | none => none
  | some (x, channel) =>
    some (x, { p with
      channel
      settled := fun hgone => by
        obtain ⟨-, -, -, -, hreserved, hsender, -⟩ := Channel.recv_eq_some hrecv
        rw [Channel.senderGone, hreserved, hsender] at hgone
        exact p.settled hgone })

/-- The receiver of the sender's channel is dropped. -/
def dropReceiver (p : PollSender α) : PollSender α := { p with channel := p.channel.dropReceiver }

/-- `recv` of the sender's channel returns `None`. -/
def isFinished (p : PollSender α) : Bool := p.channel.queue.isEmpty && p.channel.senderGone

/-- Receiving is what it is for the channel. -/
theorem recv_eq_some {p p' : PollSender α} {x : α} (h : p.recv = some (x, p')) :
    p.channel.recv = some (x, p'.channel) := by
  unfold recv at h
  split at h
  · cases h
  · next hrecv =>
    cases h
    exact hrecv

/-- Whatever the owner of a sender does, the receiver keeps what it has. A closed sender stays
closed, and nothing is sent through it any more. -/
structure Step (p p' : PollSender α) : Prop where
  channel : Channel.SenderStep p.channel p'.channel
  gone : p.channel.senderGone = true →
    p'.channel.senderGone = true ∧ p'.channel.sent = p.channel.sent

/-- No step. -/
theorem Step.refl (p : PollSender α) : Step p p := ⟨.refl _, fun h => ⟨h, rfl⟩⟩

/-- Reserving a place is a step. -/
theorem step_pollReserve (p : PollSender α) : Step p p.pollReserve.2 := by
  unfold pollReserve
  split
  · exact .refl p
  · next hopen =>
    split
    · exact .refl p
    · split
      · exact ⟨.refl _, fun h => ⟨h, rfl⟩⟩
      · split
        · exact ⟨⟨rfl, rfl, List.prefix_rfl⟩, fun hgone => absurd (p.settled hgone) hopen⟩
        · exact .refl p

/-- Sending an item is a step. -/
theorem step_sendItem {p p' : PollSender α} {x : α} {result : Except Unit Unit}
    (h : p.sendItem x = some (result, p')) : Step p p' := by
  unfold sendItem at h
  split at h
  · cases h
    exact .refl p
  · next hopen =>
    split at h
    · next hreserved =>
      cases h
      exact ⟨Channel.senderStep_fill _ _ hreserved, fun hgone => absurd (p.settled hgone) hopen⟩
    · cases h

/-- Closing is a step. -/
theorem step_close (p : PollSender α) : Step p p.close := by
  refine ⟨⟨rfl, rfl, List.prefix_rfl⟩, fun hgone => ⟨?_, rfl⟩⟩
  have hreserved : p.channel.reserved = false := by
    simp only [Channel.senderGone, Bool.and_eq_true, Bool.not_eq_true'] at hgone
    exact hgone.2
  simp [close, Channel.dropSender, Channel.senderGone, hreserved]

/-- The end of the sender is a step. -/
theorem step_drop (p : PollSender α) : Step p p.drop :=
  ⟨⟨rfl, rfl, List.prefix_rfl⟩, fun _ => ⟨rfl, rfl⟩⟩

end PollSender

end RustStd
