import Lapdev.RustStd.AsyncRead
import Lapdev.RustStd.Mpsc

/-!
# The halves of a two-way link

`ChannelTransport` of `rpc/src/lib.rs`: a half receives from one channel and sends into another one.
`ChannelTransport.step_act` says what the user of a half can do to the two channels.
-/

namespace Lapdev

open RustStd

/-- `io::Error`: its kind, its text and the code of the system, if it is one of the system's. -/
structure IoError where
  kind : ErrorKind
  text : String
  rawOsError : Option Int
  deriving DecidableEq

/-- Source: `rpc/src/lib.rs`. -/
def cloneIoError (err : IoError) : IoError := ⟨err.kind, err.text, none⟩

/-- Source: `rpc/src/lib.rs`. -/
inductive TwoWayTransportError
  | closed
  | io (err : IoError)
  deriving DecidableEq

/-- Source: `rpc/src/lib.rs`. -/
structure ChannelTransport (In Out : Type) where
  receiver : Channel (Except IoError In)
  sender : PollSender Out

/-- What the user of a half does. -/
inductive HalfAction (Out : Type)
  | pollNext
  | pollReady
  | startSend (item : Out)
  | pollFlush
  | pollClose
  | drop

namespace ChannelTransport

variable {In Out : Type}

/-- An item as `poll_next` gives it to the user. -/
def item : Except IoError In → Except TwoWayTransportError In
  | .ok item => .ok item
  | .error err => .error (.io err)

/-- Source: `poll_next`; `none` is pending. -/
def pollNext (t : ChannelTransport In Out) :
    Option (Option (Except TwoWayTransportError In)) × ChannelTransport In Out :=
  match t.receiver.recv with
  | some (received, receiver) => (some (some (item received)), { t with receiver })
  | none => (if t.receiver.senderGone then some none else none, t)

/-- The errors of the sink are all the same. -/
def mapClosed : Except Unit Unit → Except TwoWayTransportError Unit
  | .ok () => .ok ()
  | .error () => .error .closed

/-- Source: `poll_ready`; `none` is pending. -/
def pollReady (t : ChannelTransport In Out) :
    Option (Except TwoWayTransportError Unit) × ChannelTransport In Out :=
  let (result, sender) := t.sender.pollReserve
  (result.map mapClosed, { t with sender })

/-- Source: `start_send`; `none` is a panic. -/
def startSend (t : ChannelTransport In Out) (item : Out) :
    Option (Except TwoWayTransportError Unit × ChannelTransport In Out) :=
  (t.sender.sendItem item).map fun (result, sender) => (mapClosed result, { t with sender })

/-- Source: `poll_flush`: what is in the channel is sent. -/
def pollFlush (t : ChannelTransport In Out) :
    Option (Except TwoWayTransportError Unit) × ChannelTransport In Out := (some (.ok ()), t)

/-- Source: `poll_close`. -/
def pollClose (t : ChannelTransport In Out) :
    Option (Except TwoWayTransportError Unit) × ChannelTransport In Out :=
  (some (.ok ()), { t with sender := t.sender.close })

/-- The half is dropped. -/
def drop (t : ChannelTransport In Out) : ChannelTransport In Out :=
  { receiver := t.receiver.dropReceiver, sender := t.sender.drop }

/-- The half after a call of its user. -/
def act (t : ChannelTransport In Out) : HalfAction Out → Option (ChannelTransport In Out)
  | .pollNext => some t.pollNext.2
  | .pollReady => some t.pollReady.2
  | .startSend item => (t.startSend item).map Prod.snd
  | .pollFlush => some t.pollFlush.2
  | .pollClose => some t.pollClose.2
  | .drop => some t.drop

/-- What `poll_next` has given to the user so far. -/
def yielded (t : ChannelTransport In Out) : List (Except TwoWayTransportError In) :=
  t.receiver.received.map item

/-- What `poll_next` has still to give to the user. -/
def waiting (t : ChannelTransport In Out) : List (Except TwoWayTransportError In) :=
  t.receiver.queue.map item

/-- The user still has the half. -/
def isHeld (t : ChannelTransport In Out) : Bool := t.receiver.receiver

/-- What the user has sent so far. -/
def sent (t : ChannelTransport In Out) : List Out := t.sender.channel.sent

/-- A poll takes one item, if there is one. -/
theorem pollNext_of_queue {t : ChannelTransport In Out} (h : t.receiver.queue ≠ []) :
    t.pollNext.2.receiver.queue.length < t.receiver.queue.length ∧
      t.pollNext.2.isHeld = t.isHeld := by
  unfold pollNext
  split
  · next received receiver hrecv =>
    obtain ⟨hqueue, -, -, -, -, -, hreceiver⟩ := Channel.recv_eq_some hrecv
    refine ⟨?_, hreceiver⟩
    rw [hqueue, List.length_cons]
    exact Nat.lt_succ_self _
  · next hrecv => exact absurd (Channel.recv_eq_none.1 hrecv) h

/-- Each call works on its own ends of the two channels. -/
theorem step_act {t t' : ChannelTransport In Out} {a : HalfAction Out} (h : t.act a = some t') :
    Channel.ReceiverStep t.receiver t'.receiver ∧ PollSender.Step t.sender t'.sender := by
  cases a with
  | pollNext =>
    cases h
    unfold pollNext
    split
    · next hrecv => exact ⟨Channel.receiverStep_recv hrecv, .refl _⟩
    · exact ⟨.refl _, .refl _⟩
  | pollReady =>
    cases h
    exact ⟨.refl _, PollSender.step_pollReserve _⟩
  | startSend item =>
    obtain ⟨⟨result, t''⟩, hsend, rfl⟩ := Option.map_eq_some_iff.1 h
    obtain ⟨⟨result', sender⟩, hitem, heq⟩ := Option.map_eq_some_iff.1 hsend
    cases heq
    exact ⟨.refl _, PollSender.step_sendItem hitem⟩
  | pollFlush =>
    cases h
    exact ⟨.refl _, .refl _⟩
  | pollClose =>
    cases h
    exact ⟨.refl _, PollSender.step_close _⟩
  | drop =>
    cases h
    exact ⟨Channel.receiverStep_dropReceiver _, PollSender.step_drop _⟩

end ChannelTransport

end Lapdev
