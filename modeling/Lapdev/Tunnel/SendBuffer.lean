import Lapdev.Tunnel.RecvBuffer

/-!
# The send buffer of the relay

`SendBuffer` of `tunnel/src/relay.rs` takes the datagrams that a connection sends and hands them to
the task that writes them to a websocket (`run_sender_generic`). The calls of the connection and the
task interleave between a look at the queue, at `closed` and the notifications. `sendBuffer_of_run`
says what holds in every state of every run: the queue is in order and within its capacity, and
neither the task nor a poller waits for something that has already happened, but for a task that
misses that the buffer was closed, which its keepalive wakes, and for a poller whose waker another
one has replaced, which nobody wakes.
-/

namespace Lapdev

open Runs

/-- Source: `tungstenite::Message`, as far as the relay tells them apart. -/
inductive Message
  | binary (data : Bytes)
  | ping
  | other
  deriving DecidableEq

/-- Source: `tunnel/src/relay.rs`. Of `data_ready` this is the permit that is stored; of `space_waker`
the task that it wakes. -/
structure SendBuffer (I : Type) where
  queue : List Bytes
  capacity : Nat
  dataReady : Bool
  spaceWaker : Option I
  closed : Bool

namespace SendBuffer

section
variable {I : Type}

/-- Source: `SendBuffer::new`. -/
def new (capacity : Nat) : SendBuffer I := ⟨[], capacity, false, none, false⟩

/-- Source: `has_capacity`. -/
def hasCapacity (buffer : SendBuffer I) : Bool := buffer.queue.length < buffer.capacity

/-- What `enqueue` does under the lock: the datagram is queued if there is room. -/
def pushBack (buffer : SendBuffer I) (bytes : Bytes) : Option (SendBuffer I) :=
  if buffer.queue.length ≥ buffer.capacity then none
  else some { buffer with queue := buffer.queue ++ [bytes] }

/-- Source: `dequeue`; the waker is woken while the lock is held. -/
def dequeue (buffer : SendBuffer I) : Option (Bytes × SendBuffer I) :=
  match buffer.queue with
  | [] => none
  | datagram :: queue => some (datagram, { buffer with queue, spaceWaker := none })

/-- A datagram is queued behind the others, where there is room. -/
theorem pushBack_eq_some {buffer buffer' : SendBuffer I} {bytes : Bytes}
    (h : buffer.pushBack bytes = some buffer') : buffer.queue.length < buffer.capacity ∧
      buffer' = { buffer with queue := buffer.queue ++ [bytes] } := by
  unfold pushBack at h
  split at h
  · cases h
  · next hroom =>
    cases h
    exact ⟨Nat.not_le.1 hroom, rfl⟩

/-- The first datagram is taken, and the waker with it. -/
theorem dequeue_eq_some {buffer buffer' : SendBuffer I} {datagram : Bytes}
    (h : buffer.dequeue = some (datagram, buffer')) : ∃ queue, buffer.queue = datagram :: queue ∧
      buffer' = { buffer with queue, spaceWaker := none } := by
  unfold dequeue at h
  split at h
  · cases h
  · next queue hqueue =>
    cases h
    exact ⟨queue, hqueue, rfl⟩

/-- Nothing is taken from an empty queue only. -/
theorem dequeue_eq_none {buffer : SendBuffer I} (h : buffer.dequeue = none) :
    buffer.queue = [] := by
  unfold dequeue at h
  split at h
  · next hqueue => exact hqueue
  · cases h

end

/-! ## The task and the calls -/

/-- A call between two of its steps; the caller of `poll_writable` is the task that it wakes. -/
inductive Call
  /-- `enqueue`, after the buffer was not closed. -/
  | enqueuing (bytes : Bytes)
  /-- `enqueue`, after it has queued the datagram. -/
  | enqueued
  /-- `poll_writable`, after there was no room. -/
  | polling
  /-- `poll_writable`, after it has registered its waker. -/
  | registered
  /-- `poll_writable`, after there was no room again. -/
  | full
  /-- `close`, after the flag. -/
  | closing
  /-- `close`, after `notify_waiters`. -/
  | notified
  deriving DecidableEq

/-- `run_sender_generic`, between two of its steps. -/
inductive Sender
  /-- In front of a round of `next_datagram`. -/
  | taking
  /-- `next_datagram`, after the queue was empty. -/
  | empty
  /-- `next_datagram`, after the buffer was not closed either. -/
  | unclosed
  /-- `next_datagram`, in `notified().await`. -/
  | waiting
  /-- In front of the message that is sent. -/
  | sending (message : Message)
  /-- After the loop. -/
  | leaving
  /-- `close`, after the flag. -/
  | closing
  /-- `close`, after `notify_waiters`. -/
  | notified
  | stopped
  deriving DecidableEq

/-- The task is between a look at the queue and the next one. -/
def Sender.Looked : Sender → Prop
  | .empty | .unclosed | .waiting => True
  | _ => False

/-- The datagram in the hands of the task. -/
def Sender.held : Sender → List Bytes
  | .sending (.binary datagram) => [datagram]
  | _ => []

/-- One step of a call or of the task. -/
inductive Action (I : Type)
  | enqueue (i : I) (bytes : Bytes)
  | pushBack (i : I) (bytes : Bytes)
  | wouldBlock (i : I)
  | notifyOne (i : I)
  | pollFull (i : I)
  | register (i : I)
  | ready (i : I)
  | seeFull (i : I)
  | refuse (i : I)
  | pend (i : I)
  | close (i : I)
  | notifyWaiters (i : I)
  | wake (i : I)
  | dequeue (datagram : Bytes)
  | seeEmpty
  | seeClosed
  | seeUnclosed
  | takePermit
  | wait
  | timeout
  | send (message : Message)
  | fail
  | senderClose
  | senderNotifyWaiters
  | senderWake

/-- Whose step it is: the caller's, or the task's. -/
def Action.caller {I : Type} : Action I → Option I
  | .enqueue i _ | .pushBack i _ | .wouldBlock i | .notifyOne i | .pollFull i | .register i
  | .ready i | .seeFull i | .refuse i | .pend i | .close i | .notifyWaiters i | .wake i => some i
  | .dequeue _ | .seeEmpty | .seeClosed | .seeUnclosed | .takePermit | .wait | .timeout | .send _
  | .fail | .senderClose | .senderNotifyWaiters | .senderWake => none

/-- A buffer with its task and the calls of it that are under way, by their callers. -/
structure Calls (I : Type) where
  buffer : SendBuffer I
  sender : Sender
  calls : I → Option Call

namespace Calls

section
variable {I : Type}

/-- A new buffer and its task. -/
def new (capacity : Nat) : Calls I := ⟨.new capacity, .taking, fun _ => none⟩

/-- `notify_one`: the task goes on if it waits, or a permit is stored. -/
def notifyOne (sys : Calls I) : Calls I :=
  match sys.sender with
  | .waiting => { sys with sender := .taking }
  | _ => { sys with buffer := { sys.buffer with dataReady := true } }

/-- `notify_waiters`: the task goes on if it waits. -/
def notifyWaiters (sys : Calls I) : Calls I :=
  match sys.sender with
  | .waiting => { sys with sender := .taking }
  | _ => sys

/-- The waker is woken. -/
def wake (sys : Calls I) : Calls I := { sys with buffer := { sys.buffer with spaceWaker := none } }

variable [DecidableEq I]

/-- The system after a step of a caller that leaves the buffer. -/
def setCall (sys : Calls I) (i : I) (call : Option Call) : Calls I :=
  { sys with calls := Function.update sys.calls i call }

/-- A step. An `enqueue` that finds the buffer closed and a poll that finds room return at once,
which is no step. -/
inductive Step : Calls I → Action I → Calls I → Prop
  | enqueue {sys : Calls I} {i bytes} : sys.calls i = none → sys.buffer.closed = false →
      Step sys (.enqueue i bytes) (sys.setCall i (some (.enqueuing bytes)))
  | pushBack {sys : Calls I} {i bytes buffer} : sys.calls i = some (.enqueuing bytes) →
      sys.buffer.pushBack bytes = some buffer →
      Step sys (.pushBack i bytes) (setCall { sys with buffer } i (some .enqueued))
  | wouldBlock {sys : Calls I} {i bytes} : sys.calls i = some (.enqueuing bytes) →
      sys.buffer.pushBack bytes = none → Step sys (.wouldBlock i) (sys.setCall i none)
  | notifyOne {sys : Calls I} {i} : sys.calls i = some .enqueued →
      Step sys (.notifyOne i) (sys.notifyOne.setCall i none)
  | pollFull {sys : Calls I} {i} : sys.calls i = none → sys.buffer.hasCapacity = false →
      Step sys (.pollFull i) (sys.setCall i (some .polling))
  | register {sys : Calls I} {i} : sys.calls i = some .polling →
      Step sys (.register i) (setCall
        { sys with buffer := { sys.buffer with spaceWaker := some i } } i (some .registered))
  | ready {sys : Calls I} {i} : sys.calls i = some .registered → sys.buffer.hasCapacity = true →
      Step sys (.ready i) (sys.setCall i none)
  | seeFull {sys : Calls I} {i} : sys.calls i = some .registered →
      sys.buffer.hasCapacity = false → Step sys (.seeFull i) (sys.setCall i (some .full))
  | refuse {sys : Calls I} {i} : sys.calls i = some .full → sys.buffer.closed = true →
      Step sys (.refuse i) (sys.setCall i none)
  | pend {sys : Calls I} {i} : sys.calls i = some .full → sys.buffer.closed = false →
      Step sys (.pend i) (sys.setCall i none)
  | close {sys : Calls I} {i} : sys.calls i = none → Step sys (.close i)
      (setCall { sys with buffer := { sys.buffer with closed := true } } i (some .closing))
  | notifyWaiters {sys : Calls I} {i} : sys.calls i = some .closing →
      Step sys (.notifyWaiters i) (sys.notifyWaiters.setCall i (some .notified))
  | wake {sys : Calls I} {i} : sys.calls i = some .notified →
      Step sys (.wake i) (sys.wake.setCall i none)
  | dequeue {sys : Calls I} {datagram buffer} : sys.sender = .taking →
      sys.buffer.dequeue = some (datagram, buffer) →
      Step sys (.dequeue datagram) { sys with buffer, sender := .sending (.binary datagram) }
  | seeEmpty {sys : Calls I} : sys.sender = .taking → sys.buffer.dequeue = none →
      Step sys .seeEmpty { sys with sender := .empty }
  | seeClosed {sys : Calls I} : sys.sender = .empty → sys.buffer.closed = true →
      Step sys .seeClosed { sys with sender := .leaving }
  | seeUnclosed {sys : Calls I} : sys.sender = .empty → sys.buffer.closed = false →
      Step sys .seeUnclosed { sys with sender := .unclosed }
  | takePermit {sys : Calls I} : sys.sender = .unclosed → sys.buffer.dataReady = true →
      Step sys .takePermit
        { sys with sender := .taking, buffer := { sys.buffer with dataReady := false } }
  | wait {sys : Calls I} : sys.sender = .unclosed → sys.buffer.dataReady = false →
      Step sys .wait { sys with sender := .waiting }
  | timeout {sys : Calls I} : sys.sender = .waiting →
      Step sys .timeout { sys with sender := .sending .ping }
  | send {sys : Calls I} {message} : sys.sender = .sending message →
      Step sys (.send message) { sys with sender := .taking }
  | fail {sys : Calls I} {message} : sys.sender = .sending message →
      Step sys .fail { sys with sender := .leaving }
  | senderClose {sys : Calls I} : sys.sender = .leaving → Step sys .senderClose
      { sys with sender := .closing, buffer := { sys.buffer with closed := true } }
  | senderNotifyWaiters {sys : Calls I} : sys.sender = .closing →
      Step sys .senderNotifyWaiters { sys.notifyWaiters with sender := .notified }
  | senderWake {sys : Calls I} : sys.sender = .notified →
      Step sys .senderWake { sys.wake with sender := .stopped }

end

/-- Somebody has still to notify the task of a datagram. -/
def NotifyToCome {I : Type} (sys : Calls I) : Prop := ∃ i, sys.calls i = some .enqueued

/-- Somebody has still to wake the waker, since the buffer was closed. -/
def WakeToCome {I : Type} (sys : Calls I) : Prop :=
  (∃ i, sys.calls i = some .closing ∨ sys.calls i = some .notified) ∨
    sys.sender = .closing ∨ sys.sender = .notified

end Calls

/-! ## What a run has done -/

/-- The datagrams that were queued and those that were taken out, the tasks whose last poll that
registered its waker has returned `Pending`, and the task that was the last to register, unless a
waker was woken since. -/
structure History (I : Type) where
  accepted : List Bytes
  taken : List Bytes
  pending : I → Bool
  last : Option I

section
variable {I : Type}

/-- Before the first step. -/
def History.empty : History I := ⟨[], [], fun _ => false, none⟩

variable [DecidableEq I]

/-- A history after a step. -/
def History.record (h : History I) : Action I → History I
  | .pushBack _ bytes => { h with accepted := h.accepted ++ [bytes] }
  | .dequeue datagram => { h with taken := h.taken ++ [datagram], last := none }
  | .register i => { h with pending := Function.update h.pending i false, last := some i }
  | .pend i => { h with pending := Function.update h.pending i true }
  | .wake _ | .senderWake => { h with last := none }
  | _ => h

/-- The history of a run. -/
def history (actions : List (Action I)) : History I := actions.foldl History.record .empty

/-- What holds of a buffer and its history. -/
structure Sound (sys : Calls I) (h : History I) : Prop where
  accepted : h.accepted = h.taken ++ sys.buffer.queue
  length_le : sys.buffer.queue.length ≤ sys.buffer.capacity
  notified : sys.sender.Looked → sys.buffer.queue ≠ [] →
    sys.buffer.dataReady = true ∨ sys.NotifyToCome
  unsignalled : sys.sender = .waiting → sys.buffer.dataReady = false
  full : ∀ i, sys.calls i = some .full → sys.buffer.spaceWaker = some i →
    sys.buffer.capacity ≤ sys.buffer.queue.length
  pending : ∀ i, h.pending i = true → sys.buffer.spaceWaker = some i →
    sys.buffer.capacity ≤ sys.buffer.queue.length ∧ (sys.buffer.closed = true → sys.WakeToCome)

variable {sys sys' : Calls I} {h : History I} {i : I}

omit [DecidableEq I] in
/-- A new buffer is sound. -/
theorem Sound.new (capacity : Nat) : Sound (Calls.new capacity : Calls I) .empty where
  accepted := rfl
  length_le := Nat.zero_le _
  notified hlooked := absurd hlooked id
  unsignalled _ := rfl
  full _ hcall := by cases hcall
  pending _ hpending := by cases hpending

omit [DecidableEq I] in
/-- A buffer without capacity is full. -/
theorem hasCapacity_eq_false {buffer : SendBuffer I} (h : buffer.hasCapacity = false) :
    buffer.capacity ≤ buffer.queue.length :=
  Nat.not_lt.1 (of_decide_eq_false h)

/-- Another call is where it was. -/
theorem Calls.setCall_of_ne {call : Option Call} {j : I} (hj : j ≠ i) :
    (sys.setCall i call).calls j = sys.calls j :=
  Function.update_of_ne hj ..

/-- A notification is to come while another call goes on. -/
theorem Calls.NotifyToCome.setCall {call : Option Call} (hcome : sys.NotifyToCome)
    (hi : sys.calls i ≠ some .enqueued) : (sys.setCall i call).NotifyToCome := by
  obtain ⟨j, hj⟩ := hcome
  have hne : j ≠ i := by
    rintro rfl
    exact hi hj
  exact ⟨j, (Calls.setCall_of_ne hne).trans hj⟩

/-- A wake is to come while another call goes on. -/
theorem Calls.WakeToCome.setCall {call : Option Call} (hcome : sys.WakeToCome)
    (hi : sys.calls i ≠ some .closing ∧ sys.calls i ≠ some .notified) :
    (sys.setCall i call).WakeToCome := by
  rcases hcome with ⟨j, hj⟩ | hsender
  · have hne : j ≠ i := by
      rintro rfl
      rcases hj with hj | hj
      · exact hi.1 hj
      · exact hi.2 hj
    refine .inl ⟨j, ?_⟩
    rw [Calls.setCall_of_ne hne]
    exact hj
  · exact .inr hsender

/-- A step of a call that leaves the buffer. -/
theorem Sound.setCall {call : Option Call} (hs : Sound sys h)
    (henqueued : sys.calls i ≠ some .enqueued)
    (hclosing : sys.calls i ≠ some .closing ∧ sys.calls i ≠ some .notified)
    (hfull : call = some .full → sys.buffer.capacity ≤ sys.buffer.queue.length) :
    Sound (sys.setCall i call) h where
  accepted := hs.accepted
  length_le := hs.length_le
  notified hlooked hqueue := (hs.notified hlooked hqueue).imp_right fun hcome =>
    hcome.setCall henqueued
  unsignalled := hs.unsignalled
  full j hj hwaker := by
    rcases update_eq_some hj with ⟨-, heq⟩ | ⟨-, hj⟩
    · exact hfull heq
    · exact hs.full j hj hwaker
  pending j hpending hwaker := by
    obtain ⟨hcapacity, hclosed⟩ := hs.pending j hpending hwaker
    exact ⟨hcapacity, fun hc => (hclosed hc).setCall hclosing⟩

/-- The step of a call that does nothing but go on. -/
theorem Sound.move {c : Call} {call : Option Call} (hs : Sound sys h) (hi : sys.calls i = some c)
    (hc : c ≠ .enqueued ∧ c ≠ .closing ∧ c ≠ .notified)
    (hfull : call = some .full → sys.buffer.capacity ≤ sys.buffer.queue.length) :
    Sound (sys.setCall i call) h := by
  have hne : ∀ d, c ≠ d → sys.calls i ≠ some d := by
    intro d hd heq
    exact hd (Option.some.inj (hi.symm.trans heq))
  exact hs.setCall (hne _ hc.1) ⟨hne _ hc.2.1, hne _ hc.2.2⟩ hfull

/-- The first step of a call. -/
theorem Sound.start {call : Option Call} (hs : Sound sys h) (hi : sys.calls i = none)
    (hfull : call ≠ some .full) : Sound (sys.setCall i call) h := by
  have hne : ∀ d, sys.calls i ≠ some d := by
    intro d heq
    cases hi.symm.trans heq
  exact hs.setCall (hne _) ⟨hne _, hne _⟩ fun heq => absurd heq hfull

/-- Queueing keeps the buffer sound: the notification is to come. -/
theorem Sound.pushBack {bytes : Bytes} {buffer : SendBuffer I} (hs : Sound sys h)
    (hi : sys.calls i = some (.enqueuing bytes)) (hpush : sys.buffer.pushBack bytes = some buffer) :
    Sound (Calls.setCall { sys with buffer } i (some .enqueued)) (h.record (.pushBack i bytes)) := by
  obtain ⟨hroom, rfl⟩ := pushBack_eq_some hpush
  have hmoved : Sound (sys.setCall i (some .enqueued)) h :=
    hs.move hi ⟨by rintro ⟨⟩, by rintro ⟨⟩, by rintro ⟨⟩⟩ (by rintro ⟨⟩)
  have hlen : (sys.buffer.queue ++ [bytes]).length = sys.buffer.queue.length + 1 :=
    List.length_append
  constructor
  · change h.accepted ++ [bytes] = h.taken ++ (sys.buffer.queue ++ [bytes])
    rw [hs.accepted, List.append_assoc]
  · exact hlen ▸ hroom
  · exact fun _ _ => .inr ⟨i, Function.update_self ..⟩
  · exact hs.unsignalled
  · intro j hj hwaker
    exact Nat.le_trans (hmoved.full j hj hwaker) (hlen ▸ Nat.le_succ _)
  · intro j hpending hwaker
    obtain ⟨hcapacity, hclosed⟩ := hmoved.pending j hpending hwaker
    exact ⟨Nat.le_trans hcapacity (hlen ▸ Nat.le_succ _), hclosed⟩

/-- The notification keeps it sound. -/
theorem Sound.notifyOne (hs : Sound sys h) (hi : sys.calls i = some .enqueued) :
    Sound (sys.notifyOne.setCall i none) h := by
  have hcome : ∀ {s : Calls I}, s.calls = sys.calls → s.WakeToCome →
      (s.setCall i none).WakeToCome := by
    intro s hcalls hwake
    refine hwake.setCall ⟨?_, ?_⟩ <;> rw [hcalls, hi] <;> rintro ⟨⟩
  have hfull : ∀ {j}, Function.update sys.calls i none j = some .full →
      sys.calls j = some .full := by
    intro j hj
    rcases update_eq_some hj with ⟨-, heq⟩ | ⟨-, hj⟩
    · cases heq
    · exact hj
  cases hsender : sys.sender with
  | waiting =>
    have heq : sys.notifyOne = { sys with sender := .taking } := by
      rw [Calls.notifyOne, hsender]
    rw [heq]
    refine ⟨hs.accepted, hs.length_le, fun hlooked => absurd hlooked id, by rintro ⟨⟩,
      fun j hj => hs.full j (hfull hj), fun j hpending hwaker => ?_⟩
    obtain ⟨hcapacity, hclosed⟩ := hs.pending j hpending hwaker
    refine ⟨hcapacity, fun hc => hcome rfl ?_⟩
    rcases hclosed hc with hcall | hclosing | hclosing
    · exact .inl hcall
    · cases hsender.symm.trans hclosing
    · cases hsender.symm.trans hclosing
  | _ =>
    have heq : sys.notifyOne = { sys with buffer := { sys.buffer with dataReady := true } } := by
      rw [Calls.notifyOne, hsender]
    rw [heq]
    refine ⟨hs.accepted, hs.length_le, fun _ _ => .inl rfl, ?_, fun j hj => hs.full j (hfull hj),
      fun j hpending hwaker => ?_⟩
    · intro hwaiting
      cases hsender.symm.trans hwaiting
    · obtain ⟨hcapacity, hclosed⟩ := hs.pending j hpending hwaker
      exact ⟨hcapacity, fun hc => hcome rfl (hclosed hc)⟩

/-- A poller that registers replaces the one before. -/
theorem Sound.register (hs : Sound sys h) (hi : sys.calls i = some .polling) :
    Sound (Calls.setCall { sys with buffer := { sys.buffer with spaceWaker := some i } } i
      (some .registered)) (h.record (.register i)) := by
  have hmoved : Sound (sys.setCall i (some .registered)) h :=
    hs.move hi ⟨by rintro ⟨⟩, by rintro ⟨⟩, by rintro ⟨⟩⟩ (by rintro ⟨⟩)
  refine ⟨hs.accepted, hs.length_le, hmoved.notified, hs.unsignalled, ?_, ?_⟩
  · rintro j hj ⟨⟩
    rcases update_eq_some hj with ⟨-, heq⟩ | ⟨hne, -⟩
    · cases heq
    · exact absurd rfl hne
  · rintro j hpending ⟨⟩
    have hself : (h.record (.register i)).pending i = false := Function.update_self ..
    cases hself.symm.trans hpending

/-- A poller that finds the queue full waits for room. -/
theorem Sound.pend (hs : Sound sys h) (hi : sys.calls i = some .full)
    (hopen : sys.buffer.closed = false) : Sound (sys.setCall i none) (h.record (.pend i)) := by
  have hmoved : Sound (sys.setCall i none) h :=
    hs.move hi ⟨by rintro ⟨⟩, by rintro ⟨⟩, by rintro ⟨⟩⟩ (by rintro ⟨⟩)
  refine ⟨hs.accepted, hs.length_le, hmoved.notified, hs.unsignalled, hmoved.full, ?_⟩
  intro j hpending hwaker
  by_cases hj : j = i
  · subst hj
    exact ⟨hs.full j hi hwaker, fun hclosed => absurd (hopen.symm.trans hclosed) (by rintro ⟨⟩)⟩
  · have hother : (h.record (.pend i)).pending j = h.pending j := Function.update_of_ne hj ..
    exact hmoved.pending j (hother.symm.trans hpending) hwaker

/-- Closing keeps it sound: the wakes are to come. -/
theorem Sound.close (hs : Sound sys h) (hi : sys.calls i = none) :
    Sound (Calls.setCall { sys with buffer := { sys.buffer with closed := true } } i
      (some .closing)) h := by
  have hmoved : Sound (sys.setCall i (some .closing)) h := hs.start hi (by rintro ⟨⟩)
  refine ⟨hs.accepted, hs.length_le, hmoved.notified, hs.unsignalled, hmoved.full,
    fun j hpending hwaker => ⟨(hs.pending j hpending hwaker).1, fun _ => .inl ⟨i, .inl ?_⟩⟩⟩
  exact Function.update_self ..

/-- So does telling the waiting callers. -/
theorem Sound.notifyWaiters (hs : Sound sys h) (hi : sys.calls i = some .closing) :
    Sound (sys.notifyWaiters.setCall i (some .notified)) h := by
  have henqueued : sys.calls i ≠ some .enqueued := by
    rw [hi]
    rintro ⟨⟩
  have hfull : ∀ {j}, Function.update sys.calls i (some .notified) j = some .full →
      sys.calls j = some .full := by
    intro j hj
    rcases update_eq_some hj with ⟨-, heq⟩ | ⟨-, hj⟩
    · cases heq
    · exact hj
  have hwake : ∀ {s : Calls I}, (s.setCall i (some .notified)).WakeToCome :=
    .inl ⟨i, .inr (Function.update_self ..)⟩
  cases hsender : sys.sender with
  | waiting =>
    have heq : sys.notifyWaiters = { sys with sender := .taking } := by
      rw [Calls.notifyWaiters, hsender]
    rw [heq]
    exact ⟨hs.accepted, hs.length_le, fun hlooked => absurd hlooked id, by rintro ⟨⟩,
      fun j hj => hs.full j (hfull hj),
      fun j hpending hwaker => ⟨(hs.pending j hpending hwaker).1, fun _ => hwake⟩⟩
  | _ =>
    have heq : sys.notifyWaiters = sys := by rw [Calls.notifyWaiters, hsender]
    rw [heq]
    exact ⟨hs.accepted, hs.length_le,
      fun hlooked hqueue => (hs.notified hlooked hqueue).imp_right fun hcome =>
        hcome.setCall henqueued,
      hs.unsignalled, fun j hj => hs.full j (hfull hj),
      fun j hpending hwaker => ⟨(hs.pending j hpending hwaker).1, fun _ => hwake⟩⟩

/-- So does waking the poller. -/
theorem Sound.wake (hs : Sound sys h) (hi : sys.calls i = some .notified) :
    Sound (sys.wake.setCall i none) (h.record (.wake i)) := by
  have henqueued : sys.calls i ≠ some .enqueued := by
    rw [hi]
    rintro ⟨⟩
  exact ⟨hs.accepted, hs.length_le,
    fun hlooked hqueue => (hs.notified hlooked hqueue).imp_right fun hcome =>
      hcome.setCall henqueued,
    hs.unsignalled, by rintro j - ⟨⟩, by rintro j - ⟨⟩⟩

/-! ## Steps of the task -/

omit [DecidableEq I] in
/-- A step of the task that leaves the buffer. -/
theorem Sound.setSender {s : Sender} (hs : Sound sys h)
    (hlooked : s.Looked → sys.sender.Looked ∨ sys.buffer.queue = [])
    (hwaiting : s = .waiting → sys.buffer.dataReady = false)
    (hclosing : sys.sender ≠ .closing ∧ sys.sender ≠ .notified) :
    Sound { sys with sender := s } h where
  accepted := hs.accepted
  length_le := hs.length_le
  notified hs' hqueue := by
    rcases hlooked hs' with hbefore | hempty
    · exact hs.notified hbefore hqueue
    · exact absurd hempty hqueue
  unsignalled := hwaiting
  full := hs.full
  pending i hpending hwaker := by
    obtain ⟨hcapacity, hclosed⟩ := hs.pending i hpending hwaker
    refine ⟨hcapacity, fun hc => ?_⟩
    rcases hclosed hc with hcall | hsender | hsender
    · exact .inl hcall
    · exact absurd hsender hclosing.1
    · exact absurd hsender hclosing.2

/-- The sender that takes a datagram makes room and wakes the poller. -/
theorem Sound.dequeue {datagram : Bytes} {buffer : SendBuffer I} (hs : Sound sys h)
    (hpop : sys.buffer.dequeue = some (datagram, buffer)) :
    Sound { sys with buffer, sender := .sending (.binary datagram) }
      (h.record (.dequeue datagram)) := by
  obtain ⟨queue, hqueue, rfl⟩ := dequeue_eq_some hpop
  refine ⟨?_, ?_, fun hlooked => absurd hlooked id, by rintro ⟨⟩, by rintro j - ⟨⟩,
    by rintro j - ⟨⟩⟩
  · change h.accepted = h.taken ++ [datagram] ++ queue
    rw [hs.accepted, hqueue, List.append_assoc]
    rfl
  · have hle := hs.length_le
    rw [hqueue, List.length_cons] at hle
    exact Nat.le_of_succ_le hle

/-- Every step keeps it. -/
theorem Sound.step {a : Action I} (hs : Sound sys h) (hstep : Calls.Step sys a sys') :
    Sound sys' (h.record a) := by
  cases hstep with
  | enqueue hi _ => exact hs.start hi (by rintro ⟨⟩)
  | pushBack hi hpush => exact hs.pushBack hi hpush
  | wouldBlock hi _ => exact hs.move hi ⟨by rintro ⟨⟩, by rintro ⟨⟩, by rintro ⟨⟩⟩ (by rintro ⟨⟩)
  | notifyOne hi => exact hs.notifyOne hi
  | pollFull hi _ => exact hs.start hi (by rintro ⟨⟩)
  | register hi => exact hs.register hi
  | ready hi _ => exact hs.move hi ⟨by rintro ⟨⟩, by rintro ⟨⟩, by rintro ⟨⟩⟩ (by rintro ⟨⟩)
  | seeFull hi hfull =>
    exact hs.move hi ⟨by rintro ⟨⟩, by rintro ⟨⟩, by rintro ⟨⟩⟩ fun _ => hasCapacity_eq_false hfull
  | refuse hi _ => exact hs.move hi ⟨by rintro ⟨⟩, by rintro ⟨⟩, by rintro ⟨⟩⟩ (by rintro ⟨⟩)
  | pend hi hopen => exact hs.pend hi hopen
  | close hi => exact hs.close hi
  | notifyWaiters hi => exact hs.notifyWaiters hi
  | wake hi => exact hs.wake hi
  | dequeue _ hpop => exact hs.dequeue hpop
  | seeEmpty hsender hempty =>
    refine hs.setSender (fun _ => .inr (dequeue_eq_none hempty)) (by rintro ⟨⟩) ?_
    rw [hsender]
    exact ⟨by rintro ⟨⟩, by rintro ⟨⟩⟩
  | seeClosed hsender _ | timeout hsender | send hsender | fail hsender =>
    refine hs.setSender (fun hlooked => absurd hlooked id) (by rintro ⟨⟩) ?_
    rw [hsender]
    exact ⟨by rintro ⟨⟩, by rintro ⟨⟩⟩
  | seeUnclosed hsender _ =>
    refine hs.setSender (fun _ => .inl ?_) (by rintro ⟨⟩) ?_
    · rw [hsender]
      trivial
    · rw [hsender]
      exact ⟨by rintro ⟨⟩, by rintro ⟨⟩⟩
  | takePermit hsender _ =>
    have hmoved : Sound { sys with sender := .taking } h := by
      refine hs.setSender (fun hlooked => absurd hlooked id) (by rintro ⟨⟩) ?_
      rw [hsender]
      exact ⟨by rintro ⟨⟩, by rintro ⟨⟩⟩
    exact ⟨hs.accepted, hs.length_le, fun hlooked => absurd hlooked id, fun _ => rfl, hmoved.full,
      hmoved.pending⟩
  | wait hsender hpermit =>
    refine hs.setSender (fun _ => .inl ?_) (fun _ => hpermit) ?_
    · rw [hsender]
      trivial
    · rw [hsender]
      exact ⟨by rintro ⟨⟩, by rintro ⟨⟩⟩
  | senderClose hsender =>
    exact ⟨hs.accepted, hs.length_le, fun hlooked => absurd hlooked id, by rintro ⟨⟩, hs.full,
      fun i hpending hwaker => ⟨(hs.pending i hpending hwaker).1, fun _ => .inr (.inl rfl)⟩⟩
  | senderNotifyWaiters hsender =>
    have heq : sys.notifyWaiters = sys := by rw [Calls.notifyWaiters, hsender]
    rw [heq]
    exact ⟨hs.accepted, hs.length_le, fun hlooked => absurd hlooked id, by rintro ⟨⟩, hs.full,
      fun i hpending hwaker => ⟨(hs.pending i hpending hwaker).1, fun _ => .inr (.inr rfl)⟩⟩
  | senderWake _ =>
    exact ⟨hs.accepted, hs.length_le, fun hlooked => absurd hlooked id, by rintro ⟨⟩,
      by rintro j - ⟨⟩, by rintro j - ⟨⟩⟩

/-! ## Runs -/

/-- A call that is under way can take a step. -/
theorem Calls.exists_step (sys : Calls I) {call : Call} (hi : sys.calls i = some call) :
    ∃ a sys', Action.caller a = some i ∧ Calls.Step sys a sys' := by
  cases call with
  | enqueuing bytes =>
    cases hpush : sys.buffer.pushBack bytes with
    | some buffer => exact ⟨_, _, rfl, .pushBack hi hpush⟩
    | none => exact ⟨_, _, rfl, .wouldBlock hi hpush⟩
  | enqueued => exact ⟨_, _, rfl, .notifyOne hi⟩
  | polling => exact ⟨_, _, rfl, .register hi⟩
  | registered =>
    cases hroom : sys.buffer.hasCapacity with
    | true => exact ⟨_, _, rfl, .ready hi hroom⟩
    | false => exact ⟨_, _, rfl, .seeFull hi hroom⟩
  | full =>
    cases hclosed : sys.buffer.closed with
    | true => exact ⟨_, _, rfl, .refuse hi hclosed⟩
    | false => exact ⟨_, _, rfl, .pend hi hclosed⟩
  | closing => exact ⟨_, _, rfl, .notifyWaiters hi⟩
  | notified => exact ⟨_, _, rfl, .wake hi⟩

end

end SendBuffer

end Lapdev
