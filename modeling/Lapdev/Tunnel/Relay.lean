import Lapdev.Tunnel.SendBuffer

/-!
# The relay from end to end

A relay carries the datagrams of a connection over a websocket (`tunnel/src/relay.rs`): the send
buffer and its task on one side, the messages on their way, and the task that reads them
(`run_receiver_generic`) and the receive buffer on the other. The websocket keeps the order of its
messages and may break at any time, in which case the last ones are lost. `relay_of_run` says that the
datagrams come out in the order in which they went in, none twice and none that was not sent, and that
as long as nothing breaks each of them is somewhere on its way.
-/

namespace Lapdev

open Runs

namespace RecvBuffer

/-! ## What a step of the receive buffer does with datagrams -/

section
variable {Waker J : Type}

/-- The datagram that a push has not queued yet. -/
def Call.held : Call Waker → List Bytes
  | .pushing data | .offering data | .full data | .waiting data => [data]
  | _ => []

/-- The datagram in the hands of a caller. -/
def Calls.heldBy (sys : Calls Waker J) (j : J) : List Bytes := ((sys.calls j).map Call.held).getD []

/-- A step that leaves the queue and the hands. -/
def Calls.Same (sys sys' : Calls Waker J) : Prop :=
  sys'.buffer.queue = sys.buffer.queue ∧ ∀ j, sys'.heldBy j = sys.heldBy j

variable [DecidableEq J] {sys sys' : Calls Waker J} {i : J}

theorem Calls.heldBy_setCall (sys : Calls Waker J) (i : J) (call : Option (Call Waker)) :
    (sys.setCall i call).heldBy i = (call.map Call.held).getD [] := by
  change ((Function.update sys.calls i call i).map Call.held).getD [] = _
  rw [Function.update_self]

theorem Calls.heldBy_setCall_of_ne {call : Option (Call Waker)} {j : J} (hj : j ≠ i) :
    (sys.setCall i call).heldBy j = sys.heldBy j := by
  change ((Function.update sys.calls i call j).map Call.held).getD [] = _
  rw [Function.update_of_ne hj]
  rfl

/-- A call that goes on with what it holds. -/
theorem Calls.same_setCall {call : Option (Call Waker)}
    (h : sys.heldBy i = (call.map Call.held).getD []) : Same sys (sys.setCall i call) := by
  refine ⟨rfl, fun j => ?_⟩
  by_cases hj : j = i
  · subst hj
    rw [heldBy_setCall, h]
  · exact heldBy_setCall_of_ne hj

theorem Calls.NotifyOne.same (h : NotifyOne sys sys') : Same sys sys' := by
  cases h with
  | resume hwaiting =>
    refine same_setCall ?_
    rw [heldBy, hwaiting]
    rfl
  | store _ => exact ⟨rfl, fun _ => rfl⟩

omit [DecidableEq J] in
/-- What a step does with the datagrams. -/
def Calls.Moves (sys sys' : Calls Waker J) (i : J) : Action Waker → Prop
  | .push data => sys'.buffer.queue = sys.buffer.queue ∧ sys.heldBy i = [] ∧
      sys'.heldBy i = [data] ∧ ∀ j, j ≠ i → sys'.heldBy j = sys.heldBy j
  | .pushBack data => sys'.buffer.queue = sys.buffer.queue ++ [data] ∧ sys.heldBy i = [data] ∧
      sys'.heldBy i = [] ∧ ∀ j, j ≠ i → sys'.heldBy j = sys.heldBy j
  | .refuse => sys'.buffer.queue = sys.buffer.queue ∧ sys'.heldBy i = [] ∧
      ∀ j, j ≠ i → sys'.heldBy j = sys.heldBy j
  | .receive data _ | .discard data _ => sys.buffer.queue = data :: sys'.buffer.queue ∧
      ∀ j, sys'.heldBy j = sys.heldBy j
  | _ => Same sys sys'

theorem Calls.Step.moves {a : Action Waker} (h : Step sys (i, a) sys') : sys.Moves sys' i a := by
  have hheld : ∀ {call : Option (Call Waker)}, sys.calls i = call →
      sys.heldBy i = (call.map Call.held).getD [] := by
    rintro call rfl
    rfl
  cases h with
  | push hi =>
    exact ⟨rfl, hheld hi, heldBy_setCall .., fun _ hj => heldBy_setCall_of_ne hj⟩
  | refuse _ _ => exact ⟨rfl, heldBy_setCall .., fun _ hj => heldBy_setCall_of_ne hj⟩
  | pushBack hi hpush =>
    obtain ⟨-, rfl⟩ := pushBack_eq_some hpush
    exact ⟨rfl, hheld hi, heldBy_setCall .., fun _ hj => heldBy_setCall_of_ne hj⟩
  | seeUnclosed hi _ | seeFull hi _ | wait hi _ | breakPipe hi _ | pollUnclosed hi _ =>
    exact same_setCall ((hheld hi).trans rfl)
  | seeEmpty hi _ => exact same_setCall ((hheld hi).trans rfl)
  | takePermit hi _ | register hi | close hi => exact same_setCall ((hheld hi).trans rfl)
  | wake hi =>
    rcases hi with hi | hi <;> exact same_setCall ((hheld hi).trans rfl)
  | receive _ hpop _ hnotify | discard _ hpop _ hnotify =>
    obtain ⟨queue, hqueue, rfl⟩ := popFront_eq_some hpop
    obtain ⟨hsame, hheld⟩ := hnotify.same
    exact ⟨hqueue.trans (by rw [hsame]), hheld⟩
  | notifyWaiters hi =>
    have hresume : ∀ j, (({ sys with calls := fun j => (sys.calls j).map Call.resume } :
        Calls Waker J)).heldBy j = sys.heldBy j := by
      intro j
      change (((sys.calls j).map Call.resume).map Call.held).getD [] =
        ((sys.calls j).map Call.held).getD []
      cases sys.calls j with
      | none => rfl
      | some call => cases call <;> rfl
    refine ⟨rfl, fun j => ?_⟩
    by_cases hj : j = i
    · subst hj
      rw [heldBy_setCall, hheld hi]
      rfl
    · exact (heldBy_setCall_of_ne hj).trans (hresume j)

end

end RecvBuffer

/-! ## What a step of the send buffer does with datagrams -/

/-- The data of a binary message. -/
def Message.data : Message → List Bytes
  | .binary data => [data]
  | _ => []

theorem SendBuffer.Calls.notifyOne_moves {I : Type} (sys : SendBuffer.Calls I) :
    sys.notifyOne.buffer.queue = sys.buffer.queue ∧
      sys.notifyOne.sender.held = sys.sender.held := by
  unfold notifyOne
  split
  · next hsender => exact ⟨rfl, by rw [hsender]; rfl⟩
  · exact ⟨rfl, rfl⟩

theorem SendBuffer.Calls.notifyWaiters_moves {I : Type} (sys : SendBuffer.Calls I) :
    sys.notifyWaiters.buffer.queue = sys.buffer.queue ∧
      sys.notifyWaiters.sender.held = sys.sender.held := by
  unfold notifyWaiters
  split
  · next hsender => exact ⟨rfl, by rw [hsender]; rfl⟩
  · exact ⟨rfl, rfl⟩

/-- What a step does with the datagrams. -/
def SendBuffer.Calls.Moves {I : Type} (sys sys' : SendBuffer.Calls I) : SendBuffer.Action I → Prop
  | .pushBack _ bytes => sys'.buffer.queue = sys.buffer.queue ++ [bytes] ∧
      sys'.sender.held = sys.sender.held
  | .dequeue datagram => sys.buffer.queue = datagram :: sys'.buffer.queue ∧
      sys.sender.held = [] ∧ sys'.sender.held = [datagram]
  | .send message => sys'.buffer.queue = sys.buffer.queue ∧ sys.sender.held = message.data ∧
      sys'.sender.held = []
  | .fail => sys'.buffer.queue = sys.buffer.queue
  | _ => sys'.buffer.queue = sys.buffer.queue ∧ sys'.sender.held = sys.sender.held

theorem SendBuffer.Calls.Step.moves {I : Type} [DecidableEq I] {sys sys' : SendBuffer.Calls I}
    {a : SendBuffer.Action I} (h : SendBuffer.Calls.Step sys a sys') : sys.Moves sys' a := by
  cases h with
  | pushBack _ hpush =>
    obtain ⟨-, rfl⟩ := SendBuffer.pushBack_eq_some hpush
    exact ⟨rfl, rfl⟩
  | dequeue hsender hpop =>
    obtain ⟨queue, hqueue, rfl⟩ := SendBuffer.dequeue_eq_some hpop
    exact ⟨hqueue, by rw [hsender]; rfl, rfl⟩
  | send hsender =>
    refine ⟨rfl, ?_, rfl⟩
    rw [hsender]
    rename_i message
    cases message <;> rfl
  | fail _ => rfl
  | enqueue _ _ | wouldBlock _ _ | pollFull _ _ | register _ | ready _ _ | seeFull _ _
  | refuse _ _ | pend _ _ | close _ | wake _ => exact ⟨rfl, rfl⟩
  | notifyOne _ => exact sys.notifyOne_moves
  | notifyWaiters _ => exact sys.notifyWaiters_moves
  | seeEmpty hsender _ | seeClosed hsender _ | seeUnclosed hsender _ | takePermit hsender _
  | wait hsender _ => exact ⟨rfl, by rw [hsender]; rfl⟩
  | timeout hsender | senderClose hsender | senderWake hsender =>
    exact ⟨rfl, by rw [hsender]; rfl⟩
  | senderNotifyWaiters hsender =>
    exact ⟨sys.notifyWaiters_moves.1, by rw [hsender]; rfl⟩

/-! ## Two sockets -/

/-- The sending half of one socket, the messages on their way and the receiving half of the other.
`receiving` says that the loop of `run_receiver_generic` goes on; of the callers of the receive buffer
`none` is that task. -/
structure Relay (Waker I J : Type) where
  send : SendBuffer.Calls I
  link : List Message
  broken : Bool
  receiving : Bool
  recv : RecvBuffer.Calls Waker (Option J)

/-- One step of somebody. -/
inductive RelayAction (Waker I J : Type)
  | send (a : SendBuffer.Action I)
  | fail
  | transmit (message : Message)
  | control (message : Message)
  | breaks (kept : Nat)
  | take (data : Bytes)
  | skip (message : Message)
  | task (a : RecvBuffer.Action Waker)
  | refuse
  | hangUp
  | close
  | recv (j : J) (a : RecvBuffer.Action Waker)

namespace Relay

section
variable {Waker I J : Type}

/-- Two new sockets. -/
def new (sendCapacity recvCapacity : Nat) : Relay Waker I J :=
  ⟨.new sendCapacity, [], false, true, .new recvCapacity⟩

variable [DecidableEq I] [DecidableEq J]

/-- A step. A message that is sent is on its way unless the websocket is broken; a message that cannot
be sent, or that is on its way when the websocket breaks, is lost. The websocket may put messages that
are not binary in between. The receiving task takes binary messages and skips the others, and leaves
its loop when a push is refused or the websocket ends. -/
inductive Step : Relay Waker I J → RelayAction Waker I J → Relay Waker I J → Prop
  | send {sys : Relay Waker I J} {a send} : SendBuffer.Calls.Step sys.send a send → a ≠ .fail →
      (∀ message, a = .send message → sys.broken = true) → Step sys (.send a) { sys with send }
  | fail {sys : Relay Waker I J} {send} : SendBuffer.Calls.Step sys.send .fail send →
      Step sys .fail { sys with send, broken := true }
  | transmit {sys : Relay Waker I J} {message send} :
      SendBuffer.Calls.Step sys.send (.send message) send → sys.broken = false →
      Step sys (.transmit message) { sys with send, link := sys.link ++ [message] }
  | control {sys : Relay Waker I J} {message} : message.data = [] → Step sys (.control message)
      { sys with link := sys.link ++ [message] }
  | breaks {sys : Relay Waker I J} {kept} :
      Step sys (.breaks kept) { sys with link := sys.link.take kept, broken := true }
  | take {sys : Relay Waker I J} {data link recv} : sys.receiving = true →
      sys.link = .binary data :: link →
      RecvBuffer.Calls.Step sys.recv (none, .push data) recv →
      Step sys (.take data) { sys with link, recv }
  | skip {sys : Relay Waker I J} {message link} : sys.receiving = true →
      sys.link = message :: link → message.data = [] → Step sys (.skip message) { sys with link }
  | task {sys : Relay Waker I J} {a recv} : RecvBuffer.Calls.Step sys.recv (none, a) recv →
      (∀ data, a ≠ .push data) → a ≠ .refuse → a ≠ .close → Step sys (.task a) { sys with recv }
  | refuse {sys : Relay Waker I J} {recv} :
      RecvBuffer.Calls.Step sys.recv (none, .refuse) recv →
      Step sys .refuse { sys with recv, receiving := false }
  | hangUp {sys : Relay Waker I J} : sys.recv.calls none = none →
      sys.broken = true ∨ (sys.send.sender = .stopped ∧ sys.link = []) →
      Step sys .hangUp { sys with receiving := false }
  | close {sys : Relay Waker I J} {recv} : sys.receiving = false →
      RecvBuffer.Calls.Step sys.recv (none, .close) recv → Step sys .close { sys with recv }
  | recv {sys : Relay Waker I J} {j a recv} : RecvBuffer.Calls.Step sys.recv (some j, a) recv →
      (∀ data, a ≠ .push data) → Step sys (.recv j a) { sys with recv }

end

/-! ## What a run has done -/

/-- The datagrams that were accepted for sending and those that left the receive buffer, and of the
latter those that were handed to the consumer. -/
structure History where
  accepted : List Bytes
  taken : List Bytes
  delivered : List Bytes

/-- Before the first step. -/
def History.empty : History := ⟨[], [], []⟩

section
variable {Waker I J : Type}

/-- A history after a step of the receive buffer. -/
def History.recordRecv (h : History) : RecvBuffer.Action Waker → History
  | .receive data _ => { h with taken := h.taken ++ [data], delivered := h.delivered ++ [data] }
  | .discard data _ => { h with taken := h.taken ++ [data] }
  | _ => h

/-- A history after a step. -/
def History.record (h : History) : RelayAction Waker I J → History
  | .send (.pushBack _ bytes) => { h with accepted := h.accepted ++ [bytes] }
  | .recv _ a | .task a => h.recordRecv a
  | _ => h

/-- The history of a run. -/
def history (actions : List (RelayAction Waker I J)) : History :=
  actions.foldl History.record .empty

/-- What the receiving task has taken and the consumer has not. -/
def arrivals (sys : Relay Waker I J) : List Bytes := sys.recv.buffer.queue ++ sys.recv.heldBy none

/-- What is on its way. -/
def crossing (sys : Relay Waker I J) : List Bytes := sys.link.flatMap Message.data

/-- What is still in the sending half. -/
def leaving (sys : Relay Waker I J) : List Bytes := sys.send.sender.held ++ sys.send.buffer.queue

/-- What holds of two sockets and their history. -/
structure Sound (sys : Relay Waker I J) (h : History) : Prop where
  complete : sys.broken = false → sys.receiving = true →
    h.accepted = h.taken ++ sys.arrivals ++ sys.crossing ++ sys.leaving
  crossing : sys.receiving = true → h.taken ++ sys.arrivals ++ sys.crossing <+: h.accepted
  arrivals : h.taken ++ sys.arrivals <+: h.accepted
  idle : ∀ j, sys.recv.heldBy (some j) = []
  delivered : h.delivered.Sublist h.taken

variable {sys sys' : Relay Waker I J} {h : History}

theorem Sound.new (sendCapacity recvCapacity : Nat) :
    Sound (Relay.new sendCapacity recvCapacity : Relay Waker I J) .empty where
  complete _ _ := rfl
  crossing _ := List.prefix_refl _
  arrivals := List.prefix_refl _
  idle _ := rfl
  delivered := List.Sublist.refl _

/-- A step that leaves the receiving half. -/
theorem Sound.of_recv (hs : Sound sys h) (hrecv : sys'.recv = sys.recv)
    (hreceiving : sys'.receiving = true → sys.receiving = true)
    (hcrossing : sys'.receiving = true → sys'.crossing <+: sys.crossing)
    (hcomplete : sys'.broken = false → sys.receiving = true → sys.broken = false ∧
      sys'.crossing ++ sys'.leaving = sys.crossing ++ sys.leaving) : Sound sys' h := by
  have harrivals : sys'.arrivals = sys.arrivals := by rw [Relay.arrivals, hrecv, Relay.arrivals]
  constructor
  · intro hbroken hreceive
    obtain ⟨hbefore, hsame⟩ := hcomplete hbroken (hreceiving hreceive)
    rw [harrivals, List.append_assoc, hsame, ← List.append_assoc]
    exact hs.complete hbefore (hreceiving hreceive)
  · intro hreceive
    rw [harrivals]
    exact ((List.prefix_append_right_inj _).2 (hcrossing hreceive)).trans
      (hs.crossing (hreceiving hreceive))
  · rw [harrivals]
    exact hs.arrivals
  · rw [hrecv]
    exact hs.idle
  · exact hs.delivered

section
variable [DecidableEq J]

/-- A step of the receive buffer, of the task or of a consumer, moves datagrams on. -/
theorem arrivals_of_step {recv recv' : RecvBuffer.Calls Waker (Option J)} {i : Option J}
    {a : RecvBuffer.Action Waker} (h : History) (hstep : RecvBuffer.Calls.Step recv (i, a) recv')
    (hidle : ∀ j, recv.heldBy (some j) = []) (hpush : ∀ data, a ≠ .push data)
    (hrefuse : i = none → a ≠ .refuse) :
    (h.recordRecv a).taken ++ (recv'.buffer.queue ++ recv'.heldBy none) =
      h.taken ++ (recv.buffer.queue ++ recv.heldBy none) ∧
    ∀ j, recv'.heldBy (some j) = [] := by
  have hmoves := hstep.moves
  have hsame : RecvBuffer.Calls.Same recv recv' →
      h.taken ++ (recv'.buffer.queue ++ recv'.heldBy none) =
        h.taken ++ (recv.buffer.queue ++ recv.heldBy none) ∧
      ∀ j, recv'.heldBy (some j) = [] := by
    rintro ⟨hqueue, hheld⟩
    refine ⟨by rw [hqueue, hheld], fun j => ?_⟩
    rw [hheld]
    exact hidle j
  cases a with
  | push data => exact absurd rfl (hpush data)
  | pushBack data =>
    obtain ⟨hqueue, hbefore, hafter, hother⟩ := hmoves
    cases i with
    | some j => cases (hidle j).symm.trans hbefore
    | none =>
      refine ⟨?_, fun j => (hother _ (by rintro ⟨⟩)).trans (hidle j)⟩
      change h.taken ++ _ = _
      rw [hqueue, hbefore, hafter, List.append_nil]
  | refuse =>
    obtain ⟨hqueue, hafter, hother⟩ := hmoves
    cases i with
    | none => exact absurd rfl (hrefuse rfl)
    | some i =>
      refine ⟨?_, fun j => ?_⟩
      · change h.taken ++ _ = _
        rw [hqueue, hother none (by rintro ⟨⟩)]
      · by_cases hj : some j = some i
        · rw [hj]
          exact hafter
        · exact (hother _ hj).trans (hidle j)
  | receive data size | discard data size =>
    obtain ⟨hqueue, hheld⟩ := hmoves
    refine ⟨?_, fun j => (hheld _).trans (hidle j)⟩
    change h.taken ++ [data] ++ _ = _
    rw [hqueue, hheld, List.append_assoc]
    rfl
  | seeUnclosed | seeFull | takePermit | wait | wake | seeEmpty | breakPipe | pollUnclosed
  | register | close | notifyWaiters => exact hsame hmoves

theorem History.accepted_recordRecv (h : History) (a : RecvBuffer.Action Waker) :
    (h.recordRecv a).accepted = h.accepted := by
  cases a <;> rfl

theorem History.delivered_recordRecv (h : History) (a : RecvBuffer.Action Waker)
    (hdelivered : h.delivered.Sublist h.taken) :
    (h.recordRecv a).delivered.Sublist (h.recordRecv a).taken := by
  cases a with
  | receive data size => exact hdelivered.append (List.Sublist.refl _)
  | discard data size => exact hdelivered.trans (List.sublist_append_left _ _)
  | _ => exact hdelivered

/-- A step of the receive buffer, of the task or of a consumer. -/
theorem Sound.recvStep {recv : RecvBuffer.Calls Waker (Option J)} {i : Option J}
    {a : RecvBuffer.Action Waker} (hs : Sound sys h)
    (hstep : RecvBuffer.Calls.Step sys.recv (i, a) recv) (hpush : ∀ data, a ≠ .push data)
    (hrefuse : i = none → a ≠ .refuse) : Sound { sys with recv } (h.recordRecv a) := by
  obtain ⟨heq, hidle⟩ := arrivals_of_step h hstep hs.idle hpush hrefuse
  have harrivals : (h.recordRecv a).taken ++ Relay.arrivals { sys with recv } =
      h.taken ++ sys.arrivals := heq
  constructor
  · rw [harrivals, History.accepted_recordRecv]
    exact hs.complete
  · rw [harrivals, History.accepted_recordRecv]
    exact hs.crossing
  · rw [harrivals, History.accepted_recordRecv]
    exact hs.arrivals
  · exact hidle
  · exact h.delivered_recordRecv a hs.delivered

end

section
variable [DecidableEq I]

/-- A step of the sending half. -/
theorem Sound.sendStep {send : SendBuffer.Calls I} {a : SendBuffer.Action I} (hs : Sound sys h)
    (hstep : SendBuffer.Calls.Step sys.send a send) (hfail : a ≠ .fail)
    (hbroken : ∀ message, a = .send message → sys.broken = true) :
    Sound { sys with send } (h.record (.send a : RelayAction Waker I J)) := by
  have hmoves := hstep.moves
  have hsame : send.sender.held ++ send.buffer.queue = sys.leaving →
      Sound { sys with send } h := by
    intro heq
    refine hs.of_recv rfl id (fun _ => List.prefix_refl _) fun hopen _ => ⟨hopen, ?_⟩
    change sys.crossing ++ (send.sender.held ++ send.buffer.queue) = _
    rw [heq]
  cases a with
  | pushBack i bytes =>
    obtain ⟨hqueue, hheld⟩ := hmoves
    constructor
    · intro hopen hreceive
      change h.accepted ++ [bytes] = h.taken ++ sys.arrivals ++ sys.crossing ++
        (send.sender.held ++ send.buffer.queue)
      rw [hs.complete hopen hreceive, hqueue, hheld, Relay.leaving]
      simp only [List.append_assoc]
    · exact fun hreceive => (hs.crossing hreceive).trans (List.prefix_append _ _)
    · exact hs.arrivals.trans (List.prefix_append _ _)
    · exact hs.idle
    · exact hs.delivered
  | dequeue datagram =>
    obtain ⟨hqueue, hbefore, hafter⟩ := hmoves
    refine hsame ?_
    rw [hafter, Relay.leaving, hqueue, hbefore]
    rfl
  | send message =>
    have hlost := hbroken message rfl
    exact hs.of_recv rfl id (fun _ => List.prefix_refl _) fun hopen _ =>
      absurd (hlost.symm.trans hopen) (by rintro ⟨⟩)
  | fail => exact absurd rfl hfail
  | enqueue | wouldBlock | notifyOne | pollFull | register | ready | seeFull | refuse | pend | close
  | notifyWaiters | wake | seeEmpty | seeClosed | seeUnclosed | takePermit | wait | timeout
  | senderClose | senderNotifyWaiters | senderWake =>
    refine hsame ?_
    rw [hmoves.1, hmoves.2, Relay.leaving]

variable [DecidableEq J]

/-- Every step keeps it. -/
theorem Sound.step {a : RelayAction Waker I J} (hs : Sound sys h) (hstep : Step sys a sys') :
    Sound sys' (h.record a) := by
  have hcrossing : ∀ {message : Message} {link : List Message},
      sys.link = message :: link → sys.crossing = message.data ++ link.flatMap Message.data := by
    intro message link hlink
    rw [Relay.crossing, hlink, List.flatMap_cons]
  cases hstep with
  | send hstep hfail hbroken => exact hs.sendStep hstep hfail hbroken
  | fail _ =>
    exact hs.of_recv rfl id (fun _ => List.prefix_refl _) fun hopen _ => by cases hopen
  | @transmit message send hstep hopen =>
    obtain ⟨hqueue, hbefore, hafter⟩ := hstep.moves
    have hlink : (sys.link ++ [message]).flatMap Message.data = sys.crossing ++ message.data := by
      rw [List.flatMap_append, List.flatMap_singleton, Relay.crossing]
    have hcomplete : sys.receiving = true → h.accepted = h.taken ++ sys.arrivals ++
        (sys.link ++ [message]).flatMap Message.data ++ (send.sender.held ++ send.buffer.queue) := by
      intro hreceive
      rw [hs.complete hopen hreceive, hlink, hqueue, hafter, Relay.leaving, hbefore]
      simp only [List.append_assoc, List.nil_append]
    refine ⟨fun _ => hcomplete, fun hreceive => ?_, hs.arrivals, hs.idle, hs.delivered⟩
    change _ ++ (sys.link ++ [message]).flatMap Message.data <+: h.accepted
    rw [hcomplete hreceive]
    exact List.prefix_append _ _
  | @control message hdata =>
    have hlink : (sys.link ++ [message]).flatMap Message.data = sys.crossing := by
      rw [List.flatMap_append, List.flatMap_singleton, hdata, List.append_nil, Relay.crossing]
    refine hs.of_recv rfl id (fun _ => ?_) fun hopen _ => ⟨hopen, ?_⟩
    · exact hlink ▸ List.prefix_refl _
    · exact congrArg (· ++ sys.leaving) hlink
  | @breaks kept =>
    refine hs.of_recv rfl id (fun _ => ?_) fun hopen _ => by cases hopen
    have hlink : sys.crossing =
        (sys.link.take kept).flatMap Message.data ++ (sys.link.drop kept).flatMap Message.data := by
      rw [← List.flatMap_append, List.take_append_drop, Relay.crossing]
    exact hlink ▸ List.prefix_append _ _
  | @take data link recv hreceive hlink hstep =>
    obtain ⟨hqueue, hbefore, hafter, hother⟩ := hstep.moves
    have harrivals : Relay.arrivals { sys with link, recv } = sys.arrivals ++ [data] := by
      change recv.buffer.queue ++ recv.heldBy none = _
      rw [hqueue, hafter, Relay.arrivals, hbefore, List.append_nil]
    have hsame : sys.arrivals ++ [data] ++ link.flatMap Message.data =
        sys.arrivals ++ sys.crossing := by
      rw [hcrossing hlink, List.append_assoc]
      rfl
    have hprefix := hs.crossing hreceive
    rw [List.append_assoc, ← hsame, ← List.append_assoc] at hprefix
    refine ⟨fun hopen _ => ?_, fun _ => ?_, ?_, ?_, hs.delivered⟩
    · rw [harrivals]
      change h.accepted = h.taken ++ (sys.arrivals ++ [data]) ++ link.flatMap Message.data ++
        sys.leaving
      rw [List.append_assoc h.taken, hsame, hs.complete hopen hreceive, List.append_assoc h.taken]
    · rw [harrivals]
      exact hprefix
    · rw [harrivals]
      exact (List.prefix_append _ _).trans hprefix
    · exact fun j => (hother _ (by rintro ⟨⟩)).trans (hs.idle j)
  | @skip message link _ hlink hdata =>
    have hsame : link.flatMap Message.data = sys.crossing := by
      rw [hcrossing hlink, hdata, List.nil_append]
    refine hs.of_recv rfl id (fun _ => ?_) fun hopen _ => ⟨hopen, ?_⟩
    · exact hsame ▸ List.prefix_refl _
    · exact congrArg (· ++ sys.leaving) hsame
  | task hstep hpush hrefuse _ => exact hs.recvStep hstep hpush fun _ => hrefuse
  | @refuse recv hstep =>
    obtain ⟨hqueue, hafter, hother⟩ := hstep.moves
    refine ⟨by rintro - ⟨⟩, by rintro ⟨⟩, ?_, ?_, hs.delivered⟩
    · change h.taken ++ (recv.buffer.queue ++ recv.heldBy none) <+: h.accepted
      rw [hqueue, hafter, List.append_nil]
      refine List.IsPrefix.trans ?_ hs.arrivals
      rw [Relay.arrivals, ← List.append_assoc]
      exact List.prefix_append _ _
    · exact fun j => (hother _ (by rintro ⟨⟩)).trans (hs.idle j)
  | hangUp _ _ => exact ⟨by rintro - ⟨⟩, by rintro ⟨⟩, hs.arrivals, hs.idle, hs.delivered⟩
  | close _ hstep =>
    exact hs.recvStep hstep (by rintro _ ⟨⟩) (by rintro - ⟨⟩)
  | recv hstep hpush => exact hs.recvStep hstep hpush (by rintro ⟨⟩)

/-- The steps of the sending half are a run of the send buffer. -/
theorem send_capacity {actions : List (RelayAction Waker I J)} {sendCapacity recvCapacity : Nat}
    (hrun : Run Step (.new sendCapacity recvCapacity) actions sys) :
    sys.send.buffer.queue.length ≤ sys.send.buffer.capacity := by
  have hsound : ∃ h, SendBuffer.Sound sys.send h := by
    refine Run.invariant (fun sys : Relay Waker I J => ∃ h, SendBuffer.Sound sys.send h) ?_ hrun
      ⟨_, .new sendCapacity⟩
    rintro sys a sys' hstep ⟨h, hs⟩
    cases hstep with
    | send hstep _ _ | transmit hstep _ | fail hstep => exact ⟨_, hs.step hstep⟩
    | control _ | breaks | take _ _ _ | skip _ _ _ | task _ _ _ _ | refuse _ | hangUp _ _
    | close _ _ | recv _ _ => exact ⟨h, hs⟩
  exact hsound.elim fun _ hs => hs.length_le

/-- **The relay.** In every state of every run, however the calls, the two tasks and the websocket
interleave and wherever it breaks, the datagrams that left the receive buffer are the first of those
that were accepted for sending, in order, and of these the consumer got some, also in order. As long
as the websocket holds and the receiving task goes on, the accepted datagrams are those that left and
those that are on their way. -/
theorem relay_of_run {actions : List (RelayAction Waker I J)} {sendCapacity recvCapacity : Nat}
    (hrun : Run Step (.new sendCapacity recvCapacity) actions sys) :
    (history actions).taken <+: (history actions).accepted ∧
    (history actions).delivered.Sublist (history actions).taken ∧
    (sys.broken = false → sys.receiving = true → (history actions).accepted =
      (history actions).taken ++ sys.arrivals ++ sys.crossing ++ sys.leaving) ∧
    sys.send.buffer.queue.length ≤ sys.send.buffer.capacity := by
  have hs : Sound sys (history actions) :=
    Run.invariant_foldl History.record Sound (fun _ _ _ _ hstep hs => hs.step hstep) hrun
      (.new sendCapacity recvCapacity)
  exact ⟨(List.prefix_append _ _).trans hs.arrivals, hs.delivered, hs.complete, send_capacity hrun⟩

end

end

/-- A datagram on its way. -/
theorem relay_of_run_datagram :
    ∃ (actions : List (RelayAction Unit Unit Unit)) (sys : Relay Unit Unit Unit),
      Run Step (.new 1 1) actions sys ∧ (history actions).taken <+: (history actions).accepted ∧
      (history actions).delivered = [[5]] := by
  obtain ⟨sys, hrun⟩ : ∃ sys, Run Step (.new 1 1 : Relay Unit Unit Unit)
      [.send (.enqueue () [5]), .send (.pushBack () [5]), .send (.notifyOne ()),
        .send (.dequeue [5]), .transmit (.binary [5]), .take [5], .task .seeUnclosed,
        .task (.pushBack [5]), .task .wake, .recv () (.receive [5] 1500)] sys :=
    ⟨_, .cons (.send (.enqueue rfl rfl) (by rintro ⟨⟩) (by rintro _ ⟨⟩)) <|
      .cons (.send (.pushBack rfl rfl) (by rintro ⟨⟩) (by rintro _ ⟨⟩)) <|
      .cons (.send (.notifyOne rfl) (by rintro ⟨⟩) (by rintro _ ⟨⟩)) <|
      .cons (.send (.dequeue rfl rfl) (by rintro ⟨⟩) (by rintro _ ⟨⟩)) <|
      .cons (.transmit (.send rfl) rfl) <| .cons (.take rfl rfl (.push rfl)) <|
      .cons (.task (.seeUnclosed rfl rfl) (by rintro _ ⟨⟩) (by rintro ⟨⟩) (by rintro ⟨⟩)) <|
      .cons (.task (.pushBack rfl rfl) (by rintro _ ⟨⟩) (by rintro ⟨⟩) (by rintro ⟨⟩)) <|
      .cons (.task (.wake (.inl rfl)) (by rintro _ ⟨⟩) (by rintro ⟨⟩) (by rintro ⟨⟩)) <|
      .cons (.recv (.receive rfl rfl (by decide) (.store (by rintro (_ | _) data ⟨⟩)))
        (by rintro _ ⟨⟩)) .nil⟩
  exact ⟨_, sys, hrun, (relay_of_run hrun).1, rfl⟩

end Relay

end Lapdev
