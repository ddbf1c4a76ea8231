import Lapdev.Logic.Run

/-!
# The receive buffer of the relay

`RecvBuffer` of `tunnel/src/relay.rs` hands the datagrams of a websocket to a consumer that polls
for them. A push looks at `closed`, then at the queue, and then waits; a poll looks at the queue,
then at `closed`, and then registers its waker; other calls come in between. `recvBuffer_of_run`
says what holds in every state of a run in which nobody settles down to wait for something that has
already happened. `recvBuffer_blocks` has a poll and a push that do.
-/

namespace Lapdev

open Runs

/-- `bytes::Bytes`. -/
abbrev Bytes := List UInt8

/-- Source: `tunnel/src/relay.rs`. Of `space_available` this is the permit that is stored; those
that wait for it are calls. -/
structure RecvBuffer (Waker : Type) where
  queue : List Bytes
  capacity : Nat
  spaceAvailable : Bool
  dataWaker : Option Waker
  closed : Bool

namespace RecvBuffer

section
variable {Waker : Type}

/-- Source: `RecvBuffer::new`. -/
def new (capacity : Nat) : RecvBuffer Waker := ⟨[], capacity, false, none, false⟩

/-- What `push` does under the lock: the datagram is queued if there is room. -/
def pushBack (buffer : RecvBuffer Waker) (data : Bytes) : Option (RecvBuffer Waker) :=
  if buffer.queue.length < buffer.capacity then
    some { buffer with queue := buffer.queue ++ [data] }
  else none

/-- What `dequeue` takes under the lock. -/
def popFront (buffer : RecvBuffer Waker) : Option (Bytes × RecvBuffer Waker) :=
  match buffer.queue with
  | [] => none
  | data :: queue => some (data, { buffer with queue })

theorem pushBack_eq_some {buffer buffer' : RecvBuffer Waker} {data : Bytes}
    (h : buffer.pushBack data = some buffer') : buffer.queue.length < buffer.capacity ∧
      buffer' = { buffer with queue := buffer.queue ++ [data] } := by
  unfold pushBack at h
  split at h
  · next hroom =>
    cases h
    exact ⟨hroom, rfl⟩
  · cases h

theorem popFront_eq_some {buffer buffer' : RecvBuffer Waker} {data : Bytes}
    (h : buffer.popFront = some (data, buffer')) : ∃ queue, buffer.queue = data :: queue ∧
      buffer' = { buffer with queue } := by
  unfold popFront at h
  split at h
  · cases h
  · next queue hqueue =>
    cases h
    exact ⟨queue, hqueue, rfl⟩

end

/-! ## Interleaved calls -/

/-- A call between two of its steps. -/
inductive Call (Waker : Type)
  /-- `push`, in front of a round of its loop. -/
  | pushing (data : Bytes)
  /-- `push`, after the buffer was not closed. -/
  | offering (data : Bytes)
  /-- `push`, after the queue was full. -/
  | full (data : Bytes)
  /-- `push`, in `notified().await`. -/
  | waiting (data : Bytes)
  /-- `push`, after it has queued the datagram. -/
  | pushed
  /-- `poll_recv`, after the queue was empty. -/
  | empty (waker : Waker)
  /-- `poll_recv`, after the buffer was not closed either. -/
  | unclosed (waker : Waker)
  /-- `close`, after the flag. -/
  | closing
  /-- `close`, after `notify_waiters`. -/
  | notified

/-- The call has still to wake the waker. -/
def Call.wakes {Waker : Type} : Call Waker → Bool
  | .pushed | .closing | .notified => true
  | _ => false

/-- The call has still to notify those that wait. -/
def Call.notifies {Waker : Type} : Call Waker → Bool
  | .closing => true
  | _ => false

/-- A call goes on after `notify_waiters`. -/
def Call.resume {Waker : Type} : Call Waker → Call Waker
  | .waiting data => .pushing data
  | call => call

/-- One step of a call. -/
inductive Action (Waker : Type)
  | push (data : Bytes)
  | refuse
  | seeUnclosed
  | pushBack (data : Bytes)
  | seeFull
  | takePermit
  | wait
  | wake
  | receive (data : Bytes) (size : Nat)
  | discard (data : Bytes) (size : Nat)
  | seeEmpty (waker : Waker)
  | breakPipe
  | pollUnclosed
  | register (waker : Waker)
  | close
  | notifyWaiters

/-- A buffer and the calls of it that are under way, by their callers. -/
structure Calls (Waker I : Type) where
  buffer : RecvBuffer Waker
  calls : I → Option (Call Waker)

namespace Calls

section
variable {Waker I : Type}

/-- A new buffer without calls. -/
def new (capacity : Nat) : Calls Waker I := ⟨.new capacity, fun _ => none⟩

variable [DecidableEq I]

/-- The system after a step of a caller that leaves the buffer. -/
def setCall (sys : Calls Waker I) (i : I) (call : Option (Call Waker)) : Calls Waker I :=
  { sys with calls := Function.update sys.calls i call }

/-- `notify_one`: one that waits goes on, or a permit is stored if nobody waits. -/
inductive NotifyOne : Calls Waker I → Calls Waker I → Prop
  | resume {sys : Calls Waker I} {i data} : sys.calls i = some (.waiting data) →
      NotifyOne sys (sys.setCall i (some (.pushing data)))
  | store {sys : Calls Waker I} : (∀ i data, sys.calls i ≠ some (.waiting data)) →
      NotifyOne sys { sys with buffer := { sys.buffer with spaceAvailable := true } }

/-- A step of a call. A poll without buffers returns at once, which is no step; `dequeue` notifies
while it holds the lock. -/
inductive Step : Calls Waker I → I × Action Waker → Calls Waker I → Prop
  | push {sys : Calls Waker I} {i data} : sys.calls i = none →
      Step sys (i, .push data) (sys.setCall i (some (.pushing data)))
  | refuse {sys : Calls Waker I} {i data} : sys.calls i = some (.pushing data) →
      sys.buffer.closed = true → Step sys (i, .refuse) (sys.setCall i none)
  | seeUnclosed {sys : Calls Waker I} {i data} : sys.calls i = some (.pushing data) →
      sys.buffer.closed = false → Step sys (i, .seeUnclosed) (sys.setCall i (some (.offering data)))
  | pushBack {sys : Calls Waker I} {i data buffer} : sys.calls i = some (.offering data) →
      sys.buffer.pushBack data = some buffer →
      Step sys (i, .pushBack data) (setCall { sys with buffer } i (some .pushed))
  | seeFull {sys : Calls Waker I} {i data} : sys.calls i = some (.offering data) →
      sys.buffer.pushBack data = none →
      Step sys (i, .seeFull) (sys.setCall i (some (.full data)))
  | takePermit {sys : Calls Waker I} {i data} : sys.calls i = some (.full data) →
      sys.buffer.spaceAvailable = true →
      Step sys (i, .takePermit) (setCall
        { sys with buffer := { sys.buffer with spaceAvailable := false } } i
        (some (.pushing data)))
  | wait {sys : Calls Waker I} {i data} : sys.calls i = some (.full data) →
      sys.buffer.spaceAvailable = false →
      Step sys (i, .wait) (sys.setCall i (some (.waiting data)))
  | wake {sys : Calls Waker I} {i} :
      sys.calls i = some .pushed ∨ sys.calls i = some .notified →
      Step sys (i, .wake)
        (setCall { sys with buffer := { sys.buffer with dataWaker := none } } i none)
  | receive {sys sys' : Calls Waker I} {i data size buffer} : sys.calls i = none →
      sys.buffer.popFront = some (data, buffer) → data.length ≤ size →
      NotifyOne { sys with buffer } sys' → Step sys (i, .receive data size) sys'
  | discard {sys sys' : Calls Waker I} {i data size buffer} : sys.calls i = none →
      sys.buffer.popFront = some (data, buffer) → size < data.length →
      NotifyOne { sys with buffer } sys' → Step sys (i, .discard data size) sys'
  | seeEmpty {sys : Calls Waker I} {i waker} : sys.calls i = none → sys.buffer.popFront = none →
      Step sys (i, .seeEmpty waker) (sys.setCall i (some (.empty waker)))
  | breakPipe {sys : Calls Waker I} {i waker} : sys.calls i = some (.empty waker) →
      sys.buffer.closed = true → Step sys (i, .breakPipe) (sys.setCall i none)
  | pollUnclosed {sys : Calls Waker I} {i waker} : sys.calls i = some (.empty waker) →
      sys.buffer.closed = false →
      Step sys (i, .pollUnclosed) (sys.setCall i (some (.unclosed waker)))
  | register {sys : Calls Waker I} {i waker} : sys.calls i = some (.unclosed waker) →
      Step sys (i, .register waker)
        (setCall { sys with buffer := { sys.buffer with dataWaker := some waker } } i none)
  | close {sys : Calls Waker I} {i} : sys.calls i = none →
      Step sys (i, .close)
        (setCall { sys with buffer := { sys.buffer with closed := true } } i (some .closing))
  | notifyWaiters {sys : Calls Waker I} {i} : sys.calls i = some .closing →
      Step sys (i, .notifyWaiters)
        (setCall { sys with calls := fun j => (sys.calls j).map Call.resume } i (some .notified))

/-- Some call has still to wake the waker. -/
def WakeToCome (sys : Calls Waker I) : Prop :=
  ∃ i call, sys.calls i = some call ∧ call.wakes = true

/-- Some call has still to notify those that wait. -/
def NotifyToCome (sys : Calls Waker I) : Prop :=
  ∃ i call, sys.calls i = some call ∧ call.notifies = true

/-- A call that is under way and does not wait is one that can take a step. -/
theorem exists_step (sys : Calls Waker I) {i : I} {call : Call Waker}
    (h : sys.calls i = some call) (hwaiting : ∀ data, call ≠ .waiting data) :
    ∃ a sys', Step sys (i, a) sys' := by
  cases call with
  | pushing data =>
    cases hclosed : sys.buffer.closed with
    | true => exact ⟨_, _, .refuse h hclosed⟩
    | false => exact ⟨_, _, .seeUnclosed h hclosed⟩
  | offering data =>
    cases hpush : sys.buffer.pushBack data with
    | some buffer => exact ⟨_, _, .pushBack h hpush⟩
    | none => exact ⟨_, _, .seeFull h hpush⟩
  | full data =>
    cases hpermit : sys.buffer.spaceAvailable with
    | true => exact ⟨_, _, .takePermit h hpermit⟩
    | false => exact ⟨_, _, .wait h hpermit⟩
  | waiting data => exact absurd rfl (hwaiting data)
  | pushed => exact ⟨_, _, .wake (.inl h)⟩
  | empty waker =>
    cases hclosed : sys.buffer.closed with
    | true => exact ⟨_, _, .breakPipe h hclosed⟩
    | false => exact ⟨_, _, .pollUnclosed h hclosed⟩
  | unclosed waker => exact ⟨_, _, .register h⟩
  | closing => exact ⟨_, _, .notifyWaiters h⟩
  | notified => exact ⟨_, _, .wake (.inr h)⟩

end

end Calls

/-! ## What a run has done -/

/-- The datagrams that were queued and those that were handed to the consumer, and whether a
datagram was queued or the buffer closed since the waker was registered. -/
structure History where
  accepted : List Bytes
  delivered : List Bytes
  signalled : Bool

/-- Before the first step. -/
def History.empty : History := ⟨[], [], false⟩

section
variable {Waker I : Type}

/-- A history after a step. -/
def History.record (h : History) : I × Action Waker → History
  | (_, .pushBack data) => { h with accepted := h.accepted ++ [data], signalled := true }
  | (_, .receive data _) => { h with delivered := h.delivered ++ [data] }
  | (_, .register _) => { h with signalled := false }
  | (_, .close) => { h with signalled := true }
  | _ => h

/-- The history of a run. -/
def history (actions : List (I × Action Waker)) : History := actions.foldl History.record .empty

/-- No poll has a buffer that is too small for the datagram in front, no poll registers its waker
where the queue has a datagram or the buffer is closed and nobody is going to wake it, and no push
waits where the buffer is closed and nobody is going to notify it. -/
def Calls.Careful (sys : Calls Waker I) : I × Action Waker → Prop
  | (_, .discard ..) => False
  | (_, .register _) => (sys.buffer.queue = [] ∧ sys.buffer.closed = false) ∨ sys.WakeToCome
  | (_, .wait) => sys.buffer.closed = false ∨ sys.NotifyToCome
  | _ => True

/-- What holds of a buffer and its history in a run in which every step is careful. -/
structure Sound (sys : Calls Waker I) (h : History) : Prop where
  accepted : h.accepted = h.delivered ++ sys.buffer.queue
  length_le : sys.buffer.queue.length ≤ sys.buffer.capacity
  woken : sys.buffer.dataWaker ≠ none →
    sys.buffer.queue ≠ [] ∨ sys.buffer.closed = true ∨ h.signalled = true → sys.WakeToCome
  unblocked : sys.buffer.closed = true → ∀ i data, sys.calls i = some (.waiting data) →
    sys.NotifyToCome

theorem Sound.new (capacity : Nat) : Sound (Calls.new capacity : Calls Waker I) .empty where
  accepted := rfl
  length_le := Nat.zero_le _
  woken h _ := absurd rfl h
  unblocked _ _ _ h := nomatch h

variable [DecidableEq I] {sys sys' : Calls Waker I} {h : History} {i : I}

/-- A call that is still to come is still to come after a step of another one. -/
theorem exists_setCall {p : Call Waker → Bool} {call : Option (Call Waker)}
    (hcome : ∃ j c, sys.calls j = some c ∧ p c = true)
    (hi : ∀ c, sys.calls i = some c → p c = false) :
    ∃ j c, (sys.setCall i call).calls j = some c ∧ p c = true := by
  obtain ⟨j, c, hj, hc⟩ := hcome
  refine ⟨j, c, update_of_eq_some ?_ hj, hc⟩
  rintro rfl
  rw [hi c hj] at hc
  cases hc

/-- A step that leaves the buffer, of a call that neither wakes nor notifies and does not begin to
wait. -/
theorem Sound.setCall {call : Option (Call Waker)} (hs : Sound sys h)
    (hi : ∀ c, sys.calls i = some c → c.wakes = false ∧ c.notifies = false)
    (hcall : ∀ data, call ≠ some (.waiting data)) : Sound (sys.setCall i call) h where
  accepted := hs.accepted
  length_le := hs.length_le
  woken hwaker hsignal := exists_setCall (hs.woken hwaker hsignal) fun c hc => (hi c hc).1
  unblocked hclosed j data hj := by
    refine exists_setCall (p := Call.notifies) ?_ fun c hc => (hi c hc).2
    rcases update_eq_some hj with ⟨-, heq⟩ | ⟨-, hj⟩
    · exact absurd heq (hcall data)
    · exact hs.unblocked hclosed j data hj

/-- The notification that comes with space. -/
theorem Sound.notifyOne (hs : Sound sys h) (hnotify : Calls.NotifyOne sys sys') :
    Sound sys' h := by
  cases hnotify with
  | resume hwaiting =>
    refine hs.setCall (fun c hc => ?_) (by rintro data ⟨⟩)
    cases hwaiting.symm.trans hc
    exact ⟨rfl, rfl⟩
  | store hnobody => exact ⟨hs.accepted, hs.length_le, hs.woken, hs.unblocked⟩

theorem Sound.pushBack {data : Bytes} {buffer : RecvBuffer Waker} (hs : Sound sys h)
    (hi : sys.calls i = some (.offering data)) (hpush : sys.buffer.pushBack data = some buffer) :
    Sound (Calls.setCall { sys with buffer } i (some .pushed))
      (h.record ((i, .pushBack data) : I × Action Waker)) := by
  obtain ⟨hroom, rfl⟩ := pushBack_eq_some hpush
  constructor
  · change h.accepted ++ [data] = h.delivered ++ (sys.buffer.queue ++ [data])
    rw [hs.accepted, List.append_assoc]
  · change (sys.buffer.queue ++ [data]).length ≤ sys.buffer.capacity
    rw [List.length_append, List.length_singleton]
    exact hroom
  · intro _ _
    exact ⟨i, .pushed, Function.update_self .., rfl⟩
  · intro hclosed j data' hj
    refine exists_setCall (p := Call.notifies) ?_ fun c hc => ?_
    · rcases update_eq_some hj with ⟨-, heq⟩ | ⟨-, hj⟩
      · cases heq
      · exact hs.unblocked hclosed j data' hj
    · cases hi.symm.trans hc
      rfl

omit [DecidableEq I] in
theorem Sound.receive {data : Bytes} {size : Nat} {buffer : RecvBuffer Waker} (hs : Sound sys h)
    (hpop : sys.buffer.popFront = some (data, buffer)) :
    Sound { sys with buffer } (h.record ((i, .receive data size) : I × Action Waker)) := by
  obtain ⟨queue, hqueue, rfl⟩ := popFront_eq_some hpop
  have hne : sys.buffer.queue ≠ [] := by
    rw [hqueue]
    exact List.cons_ne_nil _ _
  constructor
  · change h.accepted = h.delivered ++ [data] ++ queue
    rw [hs.accepted, hqueue, List.append_assoc]
    rfl
  · have hle := hs.length_le
    rw [hqueue, List.length_cons] at hle
    exact Nat.le_of_succ_le hle
  · intro hwaker _
    exact hs.woken hwaker (.inl hne)
  · exact hs.unblocked

/-- Every careful step keeps it. -/
theorem Sound.step {a : Action Waker} (hstep : Calls.Step sys (i, a) sys')
    (hcareful : sys.Careful (i, a)) (hs : Sound sys h) : Sound sys' (h.record (i, a)) := by
  have hmove : ∀ {call call'}, sys.calls i = some call → call.wakes = false →
      call.notifies = false → (∀ data, call' ≠ some (.waiting data)) →
      Sound (sys.setCall i call') h := by
    intro call call' hi hwakes hnotifies hcall
    refine hs.setCall (fun c hc => ?_) hcall
    cases hi.symm.trans hc
    exact ⟨hwakes, hnotifies⟩
  have hstart : ∀ {call'}, sys.calls i = none → (∀ data, call' ≠ some (.waiting data)) →
      Sound (sys.setCall i call') h := by
    intro call' hi hcall
    refine hs.setCall (fun c hc => ?_) hcall
    cases hi.symm.trans hc
  cases hstep with
  | push hi => exact hstart hi (by rintro data ⟨⟩)
  | refuse hi _ => exact hmove hi rfl rfl (by rintro data ⟨⟩)
  | seeUnclosed hi _ => exact hmove hi rfl rfl (by rintro data ⟨⟩)
  | pushBack hi hpush => exact hs.pushBack hi hpush
  | seeFull hi _ => exact hmove hi rfl rfl (by rintro data ⟨⟩)
  | @takePermit _ data hi _ =>
    have hmoved : Sound (sys.setCall i (some (.pushing data))) h :=
      hmove hi rfl rfl (by rintro data ⟨⟩)
    exact ⟨hmoved.accepted, hmoved.length_le, hmoved.woken, hmoved.unblocked⟩
  | @wait _ data hi _ =>
    have hquiet : ∀ c, sys.calls i = some c → c.wakes = false ∧ c.notifies = false := by
      intro c hc
      cases hi.symm.trans hc
      exact ⟨rfl, rfl⟩
    refine ⟨hs.accepted, hs.length_le, ?_, ?_⟩
    · intro hwaker hsignal
      exact exists_setCall (hs.woken hwaker hsignal) fun c hc => (hquiet c hc).1
    · intro hclosed j data' hj
      rcases hcareful with hopen | hcome
      · exact nomatch hopen.symm.trans hclosed
      · exact exists_setCall hcome fun c hc => (hquiet c hc).2
  | wake hi =>
    refine ⟨hs.accepted, hs.length_le, fun hwaker => absurd rfl hwaker, ?_⟩
    intro hclosed j data hj
    refine exists_setCall (p := Call.notifies) ?_ fun c hc => ?_
    · rcases update_eq_some hj with ⟨-, heq⟩ | ⟨-, hj⟩
      · cases heq
      · exact hs.unblocked hclosed j data hj
    · rcases hi with hi | hi <;> cases hi.symm.trans hc <;> rfl
  | receive _ hpop _ hnotify => exact (hs.receive hpop).notifyOne hnotify
  | discard => exact absurd hcareful id
  | seeEmpty hi _ => exact hstart hi (by rintro data ⟨⟩)
  | breakPipe hi _ => exact hmove hi rfl rfl (by rintro data ⟨⟩)
  | pollUnclosed hi _ => exact hmove hi rfl rfl (by rintro data ⟨⟩)
  | @register _ waker hi =>
    have hmoved : Sound (sys.setCall i none) h := hmove hi rfl rfl (by rintro data ⟨⟩)
    refine ⟨hs.accepted, hs.length_le, ?_, hmoved.unblocked⟩
    rintro - hsignal
    rcases hcareful with ⟨hempty, hopen⟩ | hcome
    · rcases hsignal with hqueue | hclosed | hsignalled
      · exact absurd hempty hqueue
      · exact nomatch hopen.symm.trans hclosed
      · cases hsignalled
    · refine exists_setCall hcome fun c hc => ?_
      cases hi.symm.trans hc
      rfl
  | close hi =>
    exact ⟨hs.accepted, hs.length_le, fun _ _ => ⟨i, .closing, Function.update_self .., rfl⟩,
      fun _ _ _ _ => ⟨i, .closing, Function.update_self .., rfl⟩⟩
  | notifyWaiters hi =>
    refine ⟨hs.accepted, hs.length_le, fun _ _ => ⟨i, .notified, Function.update_self .., rfl⟩, ?_⟩
    intro _ j data hj
    rcases update_eq_some hj with ⟨-, heq⟩ | ⟨-, hj⟩
    · cases heq
    · obtain ⟨call, _, hresume⟩ := Option.map_eq_some_iff.1 hj
      cases call <;> cases hresume

/-- In every state of a careful run the datagrams that were accepted are those that were delivered
and those that are queued, in order, and the queue is within its capacity; a waker that is
registered is still to be woken once a datagram is queued or the buffer is closed, and a push that
waits is still to be notified once the buffer is closed; every other call can go on. So where no
call is left but pushes that wait, nobody waits in vain. -/
theorem recvBuffer_of_run {capacity : Nat} {actions : List (I × Action Waker)}
    (hrun : Run (Guarded Calls.Step Calls.Careful) (Calls.new capacity) actions sys) :
    (history actions).accepted = (history actions).delivered ++ sys.buffer.queue ∧
    sys.buffer.queue.length ≤ sys.buffer.capacity ∧
    (sys.buffer.dataWaker ≠ none →
      sys.buffer.queue ≠ [] ∨ sys.buffer.closed = true ∨ (history actions).signalled = true →
      sys.WakeToCome) ∧
    (sys.buffer.closed = true → ∀ i data, sys.calls i = some (.waiting data) →
      sys.NotifyToCome) ∧
    (∀ i call, sys.calls i = some call → (∀ data, call ≠ .waiting data) →
      ∃ a sys', Calls.Step sys (i, a) sys') ∧
    ((∀ i call, sys.calls i = some call → ∃ data, call = .waiting data) →
      (sys.buffer.queue ≠ [] → sys.buffer.dataWaker = none) ∧
      (sys.buffer.closed = true → sys.buffer.dataWaker = none ∧ ∀ i, sys.calls i = none)) := by
  have hs : Sound sys (history actions) :=
    Run.invariant_foldl History.record Sound
      (fun _ _ _ _ hstep hs => hs.step hstep.1 hstep.2) hrun (.new capacity)
  refine ⟨hs.accepted, hs.length_le, hs.woken, hs.unblocked,
    fun i call hi hwaiting => Calls.exists_step sys hi hwaiting, fun hidle => ?_⟩
  have hnobody : ¬sys.WakeToCome := by
    rintro ⟨i, call, hi, hwakes⟩
    obtain ⟨data, rfl⟩ := hidle i call hi
    cases hwakes
  have hnone : (sys.buffer.queue ≠ [] ∨ sys.buffer.closed = true) →
      sys.buffer.dataWaker = none := by
    intro hsignal
    by_contra hwaker
    exact hnobody (hs.woken hwaker (hsignal.imp_right .inl))
  refine ⟨fun hqueue => hnone (.inl hqueue), fun hclosed => ⟨hnone (.inr hclosed), fun i => ?_⟩⟩
  cases hi : sys.calls i with
  | none => rfl
  | some call =>
    obtain ⟨data, rfl⟩ := hidle i call hi
    obtain ⟨j, c, hj, hnotifies⟩ := hs.unblocked hclosed i data hi
    obtain ⟨data', rfl⟩ := hidle j c hj
    cases hnotifies

end

/-- A poll that waits for a datagram, the datagram, and the end of the buffer: nobody waits. -/
theorem recvBuffer_of_run_datagram :
    ∃ (actions : List (Bool × Action Unit)) (sys : Calls Unit Bool),
      Run Calls.Step (Calls.new 1) actions sys ∧
      (history actions).accepted = [[5]] ++ sys.buffer.queue ∧
      sys.buffer.closed = true ∧ sys.buffer.dataWaker = none := by
  obtain ⟨sys, hrun, hclosed, hidle⟩ : ∃ sys, Run (Guarded Calls.Step Calls.Careful)
      (Calls.new 1 : Calls Unit Bool)
      [(false, .seeEmpty ()), (false, .pollUnclosed), (false, .register ()), (true, .push [5]),
        (true, .seeUnclosed), (true, .pushBack [5]), (true, .wake), (false, .receive [5] 1500),
        (true, .close), (true, .notifyWaiters), (true, .wake)] sys ∧
      sys.buffer.closed = true ∧ ∀ i, sys.calls i = none := by
    refine ⟨_, .cons ⟨.seeEmpty rfl rfl, trivial⟩ <| .cons ⟨.pollUnclosed rfl rfl, trivial⟩ <|
      .cons ⟨.register rfl, .inl ⟨rfl, rfl⟩⟩ <| .cons ⟨.push rfl, trivial⟩ <|
      .cons ⟨.seeUnclosed rfl rfl, trivial⟩ <| .cons ⟨.pushBack rfl rfl, trivial⟩ <|
      .cons ⟨.wake (.inl rfl), trivial⟩ <|
      .cons ⟨.receive rfl rfl (by decide) (.store (by rintro (_ | _) data ⟨⟩)), trivial⟩ <|
      .cons ⟨.close rfl, trivial⟩ <| .cons ⟨.notifyWaiters rfl, trivial⟩ <|
      .cons ⟨.wake (.inr rfl), trivial⟩ .nil, rfl, ?_⟩
    rintro (_ | _) <;> rfl
  obtain ⟨haccepted, -, -, -, -, hwaker⟩ := recvBuffer_of_run hrun
  refine ⟨_, sys, hrun.mono And.left, haccepted, hclosed, ((hwaker ?_).2 hclosed).1⟩
  intro i call hi
  cases (hidle i).symm.trans hi

/-- A poll registers its waker after a datagram was queued, or after the buffer was closed, and a
push begins to wait after the buffer was closed: all calls are at rest, and nobody is woken. -/
theorem recvBuffer_blocks :
    (∃ (actions : List (Bool × Action Unit)) (sys : Calls Unit Bool),
      Run Calls.Step (Calls.new 1) actions sys ∧ (∀ i, sys.calls i = none) ∧
      sys.buffer.queue = [[5]] ∧ sys.buffer.dataWaker = some ()) ∧
    (∃ (actions : List (Bool × Action Unit)) (sys : Calls Unit Bool),
      Run Calls.Step (Calls.new 1) actions sys ∧ (∀ i, sys.calls i = none) ∧
      sys.buffer.closed = true ∧ sys.buffer.dataWaker = some ()) ∧
    ∃ (actions : List (Bool × Action Unit)) (sys : Calls Unit Bool),
      Run Calls.Step (Calls.new 1) actions sys ∧ sys.calls false = none ∧
      sys.buffer.closed = true ∧ sys.calls true = some (.waiting [6]) := by
  refine ⟨?_, ?_, ?_⟩
  · refine ⟨[(false, .seeEmpty ()), (false, .pollUnclosed), (true, .push [5]),
      (true, .seeUnclosed), (true, .pushBack [5]), (true, .wake), (false, .register ())], _,
      .cons (.seeEmpty rfl rfl) <| .cons (.pollUnclosed rfl rfl) <| .cons (.push rfl) <|
      .cons (.seeUnclosed rfl rfl) <| .cons (.pushBack rfl rfl) <| .cons (.wake (.inl rfl)) <|
      .cons (.register rfl) .nil, ?_, rfl, rfl⟩
    rintro (_ | _) <;> rfl
  · refine ⟨[(false, .seeEmpty ()), (false, .pollUnclosed), (true, .close),
      (true, .notifyWaiters), (true, .wake), (false, .register ())], _,
      .cons (.seeEmpty rfl rfl) <| .cons (.pollUnclosed rfl rfl) <| .cons (.close rfl) <|
      .cons (.notifyWaiters rfl) <| .cons (.wake (.inr rfl)) <| .cons (.register rfl) .nil,
      ?_, rfl, rfl⟩
    rintro (_ | _) <;> rfl
  · exact ⟨[(true, .push [5]), (true, .seeUnclosed), (true, .pushBack [5]), (true, .wake),
      (true, .push [6]), (true, .seeUnclosed), (true, .seeFull), (false, .close),
      (false, .notifyWaiters), (false, .wake), (true, .wait)], _,
      .cons (.push rfl) <| .cons (.seeUnclosed rfl rfl) <| .cons (.pushBack rfl rfl) <|
      .cons (.wake (.inl rfl)) <| .cons (.push rfl) <| .cons (.seeUnclosed rfl rfl) <|
      .cons (.seeFull rfl rfl) <| .cons (.close rfl) <| .cons (.notifyWaiters rfl) <|
      .cons (.wake (.inr rfl)) <| .cons (.wait rfl rfl) .nil, rfl, rfl, rfl⟩

end RecvBuffer

end Lapdev
